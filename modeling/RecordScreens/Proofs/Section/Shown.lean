import RecordScreens.Proofs.Drafts
import RecordScreens.Proofs.Positions
import RecordScreens.Section.Navigator

/-!
# The section that is shown

A navigator shows one declared section, whatever is chosen. What it announced last is what it
shows, and it only announces what it did not show before.
-/

namespace RecordScreens.SectionNavigator

/-- The navigator after some choices. -/
def choose (ids : List String) (n : SectionNavigator) : SectionNavigator := ids.foldl (fun n id => (n.set id).2) n

/-- The section that is due after some choices: the last one that was chosen and is declared, or else the one to start
on, or else the first. -/
inductive Due (sections : List SectionSpec) (default : String) : List String → SectionSpec → Prop where
  | chosen {earlier later : List String} {s : SectionSpec} (hs : s ∈ sections)
      (hlater : ∀ id ∈ later, id ∉ sections.map (·.id)) : Due sections default (earlier ++ s.id :: later) s
  | default {ids : List String} {s : SectionSpec} (hids : ∀ id ∈ ids, id ∉ sections.map (·.id)) (hs : s ∈ sections)
      (hdefault : s.id = default) : Due sections default ids s
  | first {ids : List String} {s : SectionSpec} (hids : ∀ id ∈ ids, id ∉ sections.map (·.id))
      (hdefault : default ∉ sections.map (·.id)) (hs : sections.head? = some s) : Due sections default ids s

variable {sections : List SectionSpec} {default id : String} {ids : List String} {s : SectionSpec}
  {n : SectionNavigator}

theorem Due.mem (h : Due sections default ids s) : s ∈ sections := by
  cases h with
  | chosen hs => exact hs
  | default _ hs => exact hs
  | first _ _ hs => exact List.mem_of_head? hs

theorem due_concat (hs : s ∈ sections) : Due sections default (ids ++ [s.id]) s := .chosen hs nofun

/-- A choice that is not declared leaves what is due. -/
theorem Due.concat (h : Due sections default ids s) (hid : id ∉ sections.map (·.id)) :
    Due sections default (ids ++ [id]) s := by
  have hone : ∀ id' ∈ [id], id' ∉ sections.map (·.id) := List.forall_mem_singleton.mpr hid
  cases h with
  | chosen hs hlater =>
    rw [List.append_assoc, List.cons_append]
    exact .chosen hs (List.forall_mem_append.mpr ⟨hlater, hone⟩)
  | default hids hs hdefault => exact .default (List.forall_mem_append.mpr ⟨hids, hone⟩) hs hdefault
  | first hids hdefault hs => exact .first (List.forall_mem_append.mpr ⟨hids, hone⟩) hdefault hs

/-! ## Choices -/

/-- All that a choice can do: nothing, if it is not declared or is shown already, or it is shown and announced. -/
theorem set_cases (n : SectionNavigator) (id : String) :
    (id ∉ n.sections.map (·.id) ∧ n.set id = (false, n)) ∨
    (id ∈ n.sections.map (·.id) ∧ n.current = id ∧ n.set id = (true, n)) ∨
    (id ∈ n.sections.map (·.id) ∧ n.current ≠ id ∧
      n.set id = (true, { n with shown := id, watch := n.watch.send id })) := by
  by_cases hid : id ∈ n.sections.map (·.id)
  · have hset : n.set id = (true, if n.current = id then n else { n with shown := id, watch := n.watch.send id }) :=
      if_pos (SectionSpec.declares_iff.mpr hid)
    by_cases hcurrent : n.current = id
    · rw [if_pos hcurrent] at hset
      exact .inr (.inl ⟨hid, hcurrent, hset⟩)
    · rw [if_neg hcurrent] at hset
      exact .inr (.inr ⟨hid, hcurrent, hset⟩)
  · exact .inl ⟨hid, if_neg fun h => hid (SectionSpec.declares_iff.mp h)⟩

/-- After these choices, a navigator over the sections shows the one that is due, and announced it last. -/
structure Shows (sections : List SectionSpec) (default : String) (ids : List String) (n : SectionNavigator) : Prop where
  sections_eq : n.sections = sections
  due : ∃ s, Due sections default ids s ∧ n.current = s.id
  announced : n.watch.value = n.current

theorem shows_start (hsections : sections ≠ []) : (start sections default).Shows sections default [] := by
  refine ⟨rfl, ?_, rfl⟩
  by_cases hdefault : default ∈ sections.map (·.id)
  · have hcurrent : (start sections default).current = default := if_pos (SectionSpec.declares_iff.mpr hdefault)
    obtain ⟨s, hs, hid⟩ := List.mem_map.mp hdefault
    exact ⟨s, .default nofun hs hid, hcurrent.trans hid.symm⟩
  · have hcurrent : (start sections default).current = (sections.head?.map (·.id)).getD "" :=
      if_neg fun h => hdefault (SectionSpec.declares_iff.mp h)
    obtain ⟨first, rest, rfl⟩ := List.exists_cons_of_ne_nil hsections
    exact ⟨first, .first nofun hdefault rfl, hcurrent⟩

/-- One more choice. -/
theorem Shows.set (h : n.Shows sections default ids) (id : String) :
    (n.set id).2.Shows sections default (ids ++ [id]) := by
  obtain ⟨s, hdue, hcurrent⟩ := h.due
  have hsections := h.sections_eq
  rcases n.set_cases id with ⟨hid, hset⟩ | ⟨hid, hshown, hset⟩ | ⟨hid, -, hset⟩ <;> rw [hset]
  · exact ⟨hsections, ⟨s, hdue.concat (hsections ▸ hid), hcurrent⟩, h.announced⟩
  · have hs : s.id = id := hcurrent.symm.trans hshown
    exact ⟨hsections, ⟨s, hs ▸ due_concat hdue.mem, hcurrent⟩, h.announced⟩
  · obtain ⟨chosen, hchosen, rfl⟩ := List.mem_map.mp hid
    exact ⟨hsections, ⟨chosen, due_concat (hsections ▸ hchosen), rfl⟩, rfl⟩

theorem Shows.choose (h : n.Shows sections default ids) (more : List String) :
    (n.choose more).Shows sections default (ids ++ more) := by
  induction more generalizing ids n with
  | nil => rwa [List.append_nil]
  | cons id rest ih =>
    rw [List.append_cons]
    exact ih (h.set id)

/-- Whatever is chosen, a navigator shows exactly one of its sections, the one that is due, and this is what it
announced last. A choice is taken if and only if it is declared, and announced if and only if something else was shown
before. -/
theorem shows_one_section (hsections : sections ≠ []) (hids : (sections.map (·.id)).Nodup) (default : String)
    (ids : List String) :
    let n := (start sections default).choose ids
    (∃ s, Due sections default ids s ∧ n.current = s.id ∧ n.currentSection = some s ∧
      ∀ s' ∈ sections, s'.id = n.current ↔ s' = s) ∧
    n.watch.value = n.current ∧
    ∀ id, ((n.set id).1 = true ↔ id ∈ sections.map (·.id)) ∧
      ((n.set id).2.watch = n.watch ↔ (n.set id).2.current = n.current) ∧
      ((n.set id).2.current ≠ n.current → (n.set id).2.watch = n.watch.send (n.set id).2.current) := by
  intro n
  have hshows : n.Shows sections default ids := (shows_start hsections).choose ids
  refine ⟨?_, hshows.announced, fun id => ?_⟩
  · obtain ⟨s, hdue, hcurrent⟩ := hshows.due
    refine ⟨s, hdue, hcurrent, ?_, fun s' hs' => ?_⟩
    · unfold currentSection
      rw [hshows.sections_eq, hcurrent]
      exact (find?_key_eq_some_iff hids).mpr ⟨hdue.mem, rfl⟩
    · rw [hcurrent]
      exact ⟨fun hid => List.inj_on_of_nodup_map hids hs' hdue.mem hid, fun h => h ▸ rfl⟩
  · rcases n.set_cases id with ⟨hid, hset⟩ | ⟨hid, -, hset⟩ | ⟨hid, hother, hset⟩ <;>
      rw [hshows.sections_eq] at hid <;> rw [hset]
    · exact ⟨⟨nofun, fun h => absurd h hid⟩, iff_of_true rfl rfl, fun h => absurd rfl h⟩
    · exact ⟨⟨fun _ => hid, fun _ => rfl⟩, iff_of_true rfl rfl, fun h => absurd rfl h⟩
    · have hwatch : n.watch.send id ≠ n.watch := fun h => by simpa [Watch.send] using congrArg (·.version) h
      have hcurrent : id ≠ n.current := fun h => hother h.symm
      exact ⟨⟨fun _ => hid, fun _ => rfl⟩, iff_of_false hwatch hcurrent, fun _ => rfl⟩

/-- The notes are chosen twice, and in between a log that is not there. -/
theorem shows_one_section_notes :
    let sections : List SectionSpec := [{ id := "notes", label := "Notes" }, { id := "files", label := "Files" }]
    let n := (start sections "files").choose ["notes", "log", "notes"]
    sections ≠ [] ∧ (sections.map (·.id)).Nodup ∧ n.current = "notes" ∧ n.watch.value = "notes" ∧
      (n.set "log").1 ≠ true ∧ (n.set "notes").2.watch = n.watch ∧ (n.set "files").2.watch = n.watch.send "files" := by
  intro sections n
  have hsections : sections ≠ [] := nofun
  have hids : (sections.map (·.id)).Nodup := by decide
  obtain ⟨-, hannounced, hset⟩ := shows_one_section hsections hids "files" ["notes", "log", "notes"]
  have hlog : "log" ∉ sections.map (·.id) := by decide
  have hfiles : (n.set "files").2.current ≠ n.current := by decide
  obtain ⟨htaken, -, -⟩ := hset "log"
  obtain ⟨-, hsame, -⟩ := hset "notes"
  obtain ⟨-, -, hchanged⟩ := hset "files"
  exact ⟨hsections, hids, rfl, hannounced, fun h => hlog (htaken.mp h), hsame.mpr rfl, hchanged hfiles⟩

end RecordScreens.SectionNavigator
