import Mathlib.Data.List.Nodup
import Mathlib.Data.List.Perm.Basic

/-!
# Positions in lists

Where an element stands in a list that grew at its end, changed in one place, or falls
apart by keys.
-/

namespace RecordScreens

variable {α : Type} {l : List α} {a c : α} {j k : Nat}

theorem getElem?_concat_of_some (h : l[k]? = some c) : (l ++ [a])[k]? = some c := by
  rw [List.getElem?_append_left (List.getElem?_eq_some_iff.mp h).1]
  exact h

theorem getElem?_concat_cases (h : (l ++ [a])[k]? = some c) : l[k]? = some c ∨ k = l.length ∧ c = a := by
  rcases Nat.lt_or_ge k l.length with hk | hk
  · rw [List.getElem?_append_left hk] at h
    exact .inl h
  · rw [List.getElem?_append_right hk, List.getElem?_singleton] at h
    split at h
    · cases h
      exact .inr ⟨by omega, rfl⟩
    · cases h

/-- An element of two lists put together stands in one of them. -/
theorem append_eq_append_cons {l₁ l₂ before later : List α} (h : l₁ ++ l₂ = before ++ a :: later) :
    (∃ rest, l₁ = before ++ a :: rest ∧ later = rest ++ l₂) ∨
      ∃ rest, before = l₁ ++ rest ∧ l₂ = rest ++ a :: later := by
  rcases List.append_eq_append_iff.mp h with ⟨rest, rfl, hrest⟩ | ⟨rest, rfl, hrest⟩
  · exact .inr ⟨rest, rfl, hrest⟩
  · cases rest with
    | nil => exact .inr ⟨[], by simp, hrest.symm⟩
    | cons b rest =>
      cases hrest
      exact .inl ⟨rest, rfl, rfl⟩

theorem singleton_eq_append_cons {before later : List α} (h : [c] = before ++ a :: later) :
    before = [] ∧ c = a ∧ later = [] := by
  cases before with
  | nil =>
    cases h
    exact ⟨rfl, rfl, rfl⟩
  | cons b rest => simp at h

/-- What is said of some element and those before it is said of the first one, or of one after it. -/
theorem exists_split_cons {p : List α → α → Prop} :
    (∃ before b later, c :: l = before ++ b :: later ∧ p before b) ↔
      p [] c ∨ ∃ before b later, l = before ++ b :: later ∧ p (c :: before) b := by
  constructor
  · rintro ⟨before, b, later, hsplit, hp⟩
    cases before with
    | nil =>
      cases hsplit
      exact .inl hp
    | cons first before =>
      cases hsplit
      exact .inr ⟨before, b, later, rfl, hp⟩
  · rintro (hp | ⟨before, b, later, rfl, hp⟩)
    · exact ⟨[], c, l, rfl, hp⟩
    · exact ⟨c :: before, b, later, rfl, hp⟩

/-! ## Changes in one place -/

variable {β : Type} {f : α → α} {i : Nat}

/-- A view of the elements changes in one place as they do. -/
theorem map_modify {g : α → β} {e : β → β} (h : ∀ a, g (f a) = e (g a)) (l : List α) (i : Nat) :
    (l.modify i f).map g = (l.map g).modify i e := by
  refine List.ext_getElem? fun j => ?_
  simp only [List.getElem?_map, List.getElem?_modify]
  split <;> cases l[j]? <;> simp [h]

theorem map_modify_of_eq {g : α → β} (h : ∀ a, g (f a) = g a) (l : List α) (i : Nat) :
    (l.modify i f).map g = l.map g :=
  (map_modify (e := id) h l i).trans (List.modify_id i _)

theorem foldl_modify_modify (l : List α) (is : List Nat) (i : Nat) :
    is.foldl (·.modify · f) (l.modify i f) = (is.foldl (·.modify · f) l).modify i f := by
  induction is generalizing l with
  | nil => rfl
  | cons j rest ih =>
    have hcomm : (l.modify i f).modify j f = (l.modify j f).modify i f := by
      by_cases hij : i = j
      · rw [hij]
      · exact List.modify_modify_ne f f l hij
    simp only [List.foldl_cons, hcomm, ih]

/-- Changes in any places, which may be the same, can be taken back in the same order. -/
theorem foldl_modify_foldl_modify {g : α → α} (h : ∀ a, g (f a) = a) (is : List Nat) (l : List α) :
    is.foldl (·.modify · g) (is.foldl (·.modify · f) l) = l := by
  induction is generalizing l with
  | nil => rfl
  | cons i rest ih =>
    have hback : ((rest.foldl (·.modify · f) l).modify i f).modify i g = rest.foldl (·.modify · f) l := by
      rw [List.modify_modify_eq]
      exact (congrArg (List.modify _ i) (funext h)).trans (List.modify_id i _)
    simp only [List.foldl_cons, foldl_modify_modify, hback, ih]

/-! ## Elements by key -/

variable {ε κ : Type} [DecidableEq κ]

/-- Where each entry has a key of its own, an entry is found by its key. -/
theorem find?_key_eq_some_iff {key : ε → κ} {entries : List ε} (hkeys : (entries.map key).Nodup) {k : κ} {e : ε} :
    entries.find? (key · == k) = some e ↔ e ∈ entries ∧ key e = k := by
  constructor
  · intro h
    exact ⟨List.mem_of_find?_eq_some h, by simpa using List.find?_some h⟩
  · rintro ⟨he, rfl⟩
    cases hfind : entries.find? (key · == key e) with
    | none => exact absurd (List.find?_eq_none.mp hfind e he) (by simp)
    | some found =>
      have hkey : key found = key e := by simpa using List.find?_some hfind
      rw [List.inj_on_of_nodup_map hkeys (List.mem_of_find?_eq_some hfind) he hkey]

/-- No other entry has the key of the one that is found. -/
theorem filter_key_of_find? {key : ε → κ} {entries : List ε} (hkeys : (entries.map key).Nodup) {k : κ} {e : ε}
    (h : entries.find? (key · == k) = some e) : entries.filter (key · == k) = [e] := by
  induction entries with
  | nil => cases h
  | cons first rest ih =>
    obtain ⟨hfirst, hrest⟩ := List.nodup_cons.mp hkeys
    by_cases hk : key first = k
    · have hnone : rest.filter (key · == k) = [] := by
        rw [List.filter_eq_nil_iff]
        intro other hother
        have hne : key other ≠ k := fun hkey => hfirst (List.mem_map.mpr ⟨other, hother, hkey.trans hk.symm⟩)
        simpa using hne
      rw [List.find?_cons_of_pos (by simpa using hk)] at h
      rw [List.filter_cons_of_pos (by simpa using hk), hnone, Option.some.inj h]
    · rw [List.find?_cons_of_neg (by simpa using hk)] at h
      rw [List.filter_cons_of_neg (by simpa using hk)]
      exact ih hrest h

/-- The entries of one key after the other are all entries that have one of the keys. -/
theorem flatMap_filter_perm {keys : List κ} (hkeys : keys.Nodup) (key : ε → κ)
    (entries : List ε) :
    (keys.flatMap fun k => entries.filter (key · = k)).Perm (entries.filter (key · ∈ keys)) := by
  induction keys with
  | nil => simp
  | cons k rest ih =>
    obtain ⟨hk, hrest⟩ := List.nodup_cons.mp hkeys
    let those := entries.filter (key · ∈ k :: rest)
    have hfirst : those.filter (key · = k) = entries.filter (key · = k) := by
      rw [List.filter_filter]
      refine List.filter_congr fun e _ => ?_
      by_cases he : key e = k <;> simp [he]
    have hothers : (those.filter fun e => !decide (key e = k)) = entries.filter (key · ∈ rest) := by
      rw [List.filter_filter]
      refine List.filter_congr fun e _ => ?_
      by_cases he : key e = k <;> simp [he, hk]
    have hsplit : (those.filter (key · = k) ++ those.filter fun e => !decide (key e = k)).Perm those :=
      List.filter_append_perm ..
    rw [hfirst, hothers] at hsplit
    exact ((ih hrest).append_left _).trans hsplit

end RecordScreens
