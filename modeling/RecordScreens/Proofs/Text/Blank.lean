import Mathlib.Data.List.DropRight
import RecordScreens.Text.Blank

/-!
# Trimmed texts

What is left of a text without the blanks at its ends, said without the way in which they are taken away.
-/

namespace RecordScreens.Text

/-- `t` is what stands in `s` between blanks, and has no blank at its own ends. -/
structure Trims (s t : String) : Prop where
  split : ∃ before after, s.toList = before ++ (t.toList ++ after) ∧ (∀ c ∈ before, isBlank c = true) ∧
    ∀ c ∈ after, isBlank c = true
  first : ∀ c ∈ t.toList.head?, isBlank c = false
  last : ∀ c ∈ t.toList.getLast?, isBlank c = false

variable {drop : Char → Bool} {cs after : List Char}

theorem dropWhile_append {before : List Char} (hbefore : ∀ c ∈ before, drop c = true)
    (hcs : ∀ c ∈ cs.head?, drop c = false) : (before ++ cs).dropWhile drop = cs := by
  rw [List.dropWhile_append_of_pos hbefore]
  cases cs with
  | nil => rfl
  | cons c rest => exact List.dropWhile_cons_of_neg (by simp [hcs c rfl])

theorem dropTrailing_append (hcs : ∀ c ∈ cs.getLast?, drop c = false) (hafter : ∀ c ∈ after, drop c = true) :
    dropTrailing drop (cs ++ after) = cs := by
  unfold dropTrailing
  rw [List.reverse_append, dropWhile_append (by simpa using hafter) (by simpa using hcs), List.reverse_reverse]

theorem Trims.eq {s t : String} (h : Trims s t) : trim s = t := by
  obtain ⟨before, after, hs, hbefore, hafter⟩ := h.split
  have hrest : dropTrailing isBlank (s.toList.dropWhile isBlank) = t.toList := by
    cases ht : t.toList with
    | nil =>
      -- Then there are only blanks.
      have hall : ∀ c ∈ before ++ after, isBlank c = true := List.forall_mem_append.mpr ⟨hbefore, hafter⟩
      rw [hs, ht, List.nil_append, List.dropWhile_eq_nil_iff.mpr hall]
      rfl
    | cons c rest =>
      have hfirst : isBlank c = false := h.first c (by rw [ht]; rfl)
      rw [hs, dropWhile_append hbefore (by simpa [ht] using hfirst), dropTrailing_append h.last hafter, ht]
  rw [trim, hrest, String.ofList_toList]

/-- `t` is `s` without the blanks at its end. -/
structure TrimsEnd (s t : String) : Prop where
  split : ∃ after, s.toList = t.toList ++ after ∧ ∀ c ∈ after, isBlank c = true
  last : ∀ c ∈ t.toList.getLast?, isBlank c = false

theorem trimsEnd_trimEnd (s : String) : TrimsEnd s (trimEnd s) := by
  have htrimmed : (trimEnd s).toList = s.toList.rdropWhile isBlank := String.toList_ofList
  refine ⟨⟨s.toList.rtakeWhile isBlank, ?_, fun c hc => List.mem_rtakeWhile_imp hc⟩, ?_⟩
  · rw [htrimmed, List.rdropWhile_append_rtakeWhile]
  · intro c hc
    rw [htrimmed] at hc
    obtain ⟨hne, rfl⟩ := List.mem_getLast?_eq_getLast hc
    simpa using List.rdropWhile_last_not isBlank s.toList hne

theorem trims_trim (s : String) : Trims s (trim s) := by
  let rest := s.toList.dropWhile isBlank
  have htrim : trim s = trimEnd (String.ofList rest) := by rw [trim, trimEnd, String.toList_ofList]
  obtain ⟨⟨after, hrest, hafter⟩, hlast⟩ := trimsEnd_trimEnd (String.ofList rest)
  rw [String.toList_ofList, ← htrim] at hrest
  refine ⟨⟨s.toList.takeWhile isBlank, after, ?_, fun c hc => List.mem_takeWhile_imp hc, hafter⟩, ?_, htrim ▸ hlast⟩
  · rw [← hrest, List.takeWhile_append_dropWhile]
  · intro c hc
    have hhead : c ∈ rest.head? := hrest ▸ List.mem_head?_append_of_mem_head? hc
    have hnot := List.head?_dropWhile_not isBlank s.toList
    simp only [rest] at hhead
    rw [Option.mem_def.mp hhead] at hnot
    simpa using hnot

end RecordScreens.Text
