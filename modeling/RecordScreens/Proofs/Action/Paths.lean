import RecordScreens.Action.Template
import RecordScreens.Record.Dynamic

/-!
# Paths from templates

A template is read in one way only: as texts without an opening brace, with names without a closing one in braces
between them, and perhaps an opening brace at the end that is never closed. In the path each name has given way to the
text that it stands for, braces and all, and everything else is as it was.
-/

namespace RecordScreens

/-! ## Templates taken apart -/

/-- Characters among which `c` is not. -/
abbrev Free (c : Char) := { cs : List Char // c ∉ cs }

/-- A template taken apart. -/
inductive Pieces where
  | text (t : Free '\x7b')
  /-- A text, and an opening brace that is never closed. -/
  | unclosed (t : Free '\x7b') (tail : Free '\x7d')
  /-- A text, a name in braces, and what comes after it. -/
  | place (t : Free '\x7b') (name : Free '\x7d') (rest : Pieces)

namespace Pieces

/-- The template of which these are the pieces. -/
def template : Pieces → List Char
  | text t => t
  | unclosed t tail => t ++ '\x7b' :: tail
  | place t name rest => t ++ '\x7b' :: (name ++ '\x7d' :: rest.template)

/-- The pieces put together again, with something else in the place of each name and its braces. -/
def filled (replace : List Char → List Char) : Pieces → List Char
  | text t => t
  | unclosed t tail => t ++ '\x7b' :: tail
  | place t name rest => t ++ (replace name ++ rest.filled replace)

end Pieces

/-- What a name in a template stands for. -/
inductive StandsFor {R : Type} [Record R] (r : R) : String → String → Prop where
  | id : StandsFor r "id" (Record.id r)
  | missing {name : String} (hname : name ≠ "id") (h : Record.field r name = none) : StandsFor r name ""
  | null {name : String} (hname : name ≠ "id") (h : Record.field r name = some .null) : StandsFor r name ""
  | string {name s : String} (hname : name ≠ "id") (h : Record.field r name = some (.string s)) : StandsFor r name s
  | other {name : String} {v : Json} (hname : name ≠ "id") (h : Record.field r name = some v) (hnull : v ≠ .null)
      (hstring : ∀ s, v ≠ .string s) : StandsFor r name v.display

section

variable {R : Type} [Record R] {r : R} {name s : String}

theorem placeholderText_of_ne (hname : name ≠ "id") :
    placeholderText r name = (Json.orNull (Record.field r name)).inPath := if_neg hname

theorem standsFor_placeholderText (r : R) (name : String) : StandsFor r name (placeholderText r name) := by
  by_cases hname : name = "id"
  · subst hname
    exact .id
  · rw [placeholderText_of_ne hname]
    cases hfield : Record.field r name with
    | none => exact .missing hname hfield
    | some v =>
      cases v with
      | null => exact .null hname hfield
      | string s => exact .string hname hfield
      | _ => exact .other hname hfield nofun nofun

theorem StandsFor.eq (h : StandsFor r name s) : placeholderText r name = s := by
  cases h with
  | id => rfl
  | missing hname h => rw [placeholderText_of_ne hname, h]; rfl
  | null hname h => rw [placeholderText_of_ne hname, h]; rfl
  | string hname h => rw [placeholderText_of_ne hname, h]; rfl
  | @other _ v hname h hnull hstring =>
    rw [placeholderText_of_ne hname, h]
    cases v with
    | null => exact absurd rfl hnull
    | string s => exact absurd rfl (hstring s)
    | _ => rfl

end

namespace Template

variable {c : Char} {cs before after : List Char}

/-! ## Finding a brace -/

theorem splitAt?_append (h : c ∉ before) (after : List Char) :
    splitAt? c (before ++ c :: after) = some (before, after) := by
  induction before with
  | nil => simp [splitAt?]
  | cons d before ih =>
    obtain ⟨hd, hbefore⟩ := List.ne_and_not_mem_of_not_mem_cons h
    simp [splitAt?, Ne.symm hd, ih hbefore]

theorem splitAt?_eq_none_iff : splitAt? c cs = none ↔ c ∉ cs := by
  induction cs with
  | nil => simp [splitAt?]
  | cons d cs ih =>
    by_cases hd : d = c
    · simp [splitAt?, hd]
    · simp [splitAt?, hd, ih, Ne.symm hd]

/-- The characters before the first one of a kind are free of it. -/
theorem splitAt?_eq_some_iff : splitAt? c cs = some (before, after) ↔ c ∉ before ∧ cs = before ++ c :: after := by
  constructor
  · intro h
    induction cs generalizing before with
    | nil => cases h
    | cons d cs ih =>
      unfold splitAt? at h
      split at h
      · subst_vars
        cases h
        exact ⟨List.not_mem_nil, rfl⟩
      · rename_i hd
        obtain ⟨⟨rest, after'⟩, hsplit, heq⟩ := Option.map_eq_some_iff.mp h
        cases heq
        obtain ⟨hrest, rfl⟩ := ih hsplit
        exact ⟨List.not_mem_cons_of_ne_of_not_mem (Ne.symm hd) hrest, rfl⟩
  · rintro ⟨hbefore, rfl⟩
    exact splitAt?_append hbefore after

/-- What comes before the first brace and what comes after it are determined. -/
theorem append_cons_inj {before' after' : List Char} (h : c ∉ before) (h' : c ∉ before')
    (heq : before ++ c :: after = before' ++ c :: after') : before = before' ∧ after = after' := by
  have hsplit := splitAt?_append h after
  rw [heq, splitAt?_append h' after'] at hsplit
  cases hsplit
  exact ⟨rfl, rfl⟩

/-! ## Reading and filling -/

/-- Every template can be read. -/
theorem exists_pieces (cs : List Char) : ∃ p : Pieces, p.template = cs := by
  induction hlength : cs.length using Nat.strongRecOn generalizing cs with
  | _ n ih =>
    cases hopen : splitAt? '\x7b' cs with
    | none => exact ⟨.text ⟨cs, splitAt?_eq_none_iff.mp hopen⟩, rfl⟩
    | some found =>
      obtain ⟨ht, rfl⟩ := splitAt?_eq_some_iff.mp hopen
      cases hclose : splitAt? '\x7d' found.2 with
      | none => exact ⟨.unclosed ⟨_, ht⟩ ⟨_, splitAt?_eq_none_iff.mp hclose⟩, rfl⟩
      | some named =>
        -- What comes after the name is shorter, and is taken apart in the same way.
        obtain ⟨hname, hrest⟩ := splitAt?_eq_some_iff.mp hclose
        obtain ⟨p, hp⟩ := ih named.2.length (by simp [← hlength, hrest]; omega) named.2 rfl
        exact ⟨.place ⟨_, ht⟩ ⟨_, hname⟩ p, by simp [Pieces.template, hp, hrest]⟩

/-- Without an opening brace there is only text. -/
theorem eq_text_of_free {p : Pieces} (h : '\x7b' ∉ p.template) : ∃ t, p = .text t := by
  cases p with
  | text t => exact ⟨t, rfl⟩
  | unclosed t tail => exact absurd h (by simp [Pieces.template])
  | place t name rest => exact absurd h (by simp [Pieces.template])

/-- No template can be read in two ways. -/
theorem pieces_unique {p q : Pieces} (h : p.template = q.template) : p = q := by
  -- The first opening brace stands in one place, and so does the first closing one after it.
  induction p generalizing q with
  | text t =>
    obtain ⟨t', rfl⟩ := eq_text_of_free (show _ ∉ q.template from h ▸ (t.2 : _ ∉ (Pieces.text t).template))
    exact congrArg _ (Subtype.ext h)
  | unclosed t tail =>
    cases q with
    | text t' =>
      obtain ⟨_, ⟨⟩⟩ := eq_text_of_free (show _ ∉ (Pieces.unclosed t tail).template from h ▸ t'.2)
    | unclosed t' tail' =>
      obtain ⟨ht, htail⟩ := append_cons_inj t.2 t'.2 h
      rw [Subtype.ext ht, Subtype.ext htail]
    | place t' name' rest' =>
      obtain ⟨-, htail⟩ := append_cons_inj t.2 t'.2 h
      exact absurd tail.2 (by simp [htail])
  | place t name rest ih =>
    cases q with
    | text t' =>
      obtain ⟨_, ⟨⟩⟩ := eq_text_of_free (show _ ∉ (Pieces.place t name rest).template from h ▸ t'.2)
    | unclosed t' tail' =>
      obtain ⟨-, htail⟩ := append_cons_inj t.2 t'.2 h
      exact absurd tail'.2 (by simp [← htail])
    | place t' name' rest' =>
      obtain ⟨ht, hafter⟩ := append_cons_inj t.2 t'.2 h
      obtain ⟨hname, hrest⟩ := append_cons_inj name.2 name'.2 hafter
      rw [Subtype.ext ht, Subtype.ext hname, ih hrest]

variable {replace : List Char → List Char}

theorem fill_append (h : '\x7b' ∉ before) (rest : List Char) :
    fill replace (before ++ rest) = before ++ fill replace rest := by
  induction before with
  | nil => rfl
  | cons d before ih =>
    obtain ⟨hd, hbefore⟩ := List.ne_and_not_mem_of_not_mem_cons h
    rw [List.cons_append, fill, if_neg (Ne.symm hd), ih hbefore, List.cons_append]

theorem fill_open_of_none (h : splitAt? '\x7d' cs = none) : fill replace ('\x7b' :: cs) = '\x7b' :: cs := by
  rw [fill, if_pos rfl]
  split <;> simp_all

theorem fill_open_of_some (h : splitAt? '\x7d' cs = some (before, after)) :
    fill replace ('\x7b' :: cs) = replace before ++ fill replace after := by
  rw [fill, if_pos rfl]
  split <;> simp_all

/-- Each name is replaced, and what it is replaced by is not looked at again. -/
theorem fill_template (p : Pieces) : fill replace p.template = p.filled replace := by
  induction p with
  | text t =>
    have hfill : fill replace (t.1 ++ []) = t.1 ++ fill replace [] := fill_append t.2 []
    simpa [fill, Pieces.template, Pieces.filled] using hfill
  | unclosed t tail =>
    have htail := splitAt?_eq_none_iff.mpr tail.2
    rw [Pieces.template, fill_append t.2, fill_open_of_none htail, Pieces.filled]
  | place t name rest ih =>
    rw [Pieces.template, fill_append t.2, fill_open_of_some (splitAt?_append name.2 _), ih, Pieces.filled]

end Template

/-! ## The law -/

/-- A template is read in one way, and the path for a record is what is read with each name replaced by what it stands
for. -/
theorem expandPath_fills (template : String) :
    ∃ p : Pieces, p.template = template.toList ∧ (∀ q : Pieces, q.template = template.toList → q = p) ∧
      ∀ (R : Type) [Record R] (r : R), ∃ value : String → String,
        (∀ name s, value name = s ↔ StandsFor r name s) ∧
        (expandPath template r).toList = p.filled fun name => (value (String.ofList name)).toList := by
  obtain ⟨p, hp⟩ := Template.exists_pieces template.toList
  refine ⟨p, hp, fun q hq => Template.pieces_unique (hq.trans hp.symm), fun R _ r => ?_⟩
  refine ⟨placeholderText r, fun name s => ⟨fun h => h ▸ standsFor_placeholderText r name, StandsFor.eq⟩, ?_⟩
  rw [expandPath, String.toList_ofList, ← hp, Template.fill_template]

/-- The pieces of a template with an opening brace in a name, a name without characters and a brace that stays open. -/
def jobPieces : Pieces :=
  .place ⟨"/jobs/".toList, by decide⟩ ⟨"job".toList, by decide⟩ <|
  .place ⟨['/'], by decide⟩ ⟨"\x7bid".toList, by decide⟩ <|
  .place ⟨['/'], by decide⟩ ⟨[], by decide⟩ <|
  .place ⟨[], by decide⟩ ⟨"note".toList, by decide⟩ <|
  .unclosed ⟨['-'], by decide⟩ ⟨"\x7bid".toList, by decide⟩

/-- A value that looks like a placeholder is kept as it is. -/
theorem expandPath_fills_job :
    let template := "/jobs/\x7bjob\x7d/\x7b\x7bid\x7d/\x7b\x7d\x7bnote\x7d-\x7b\x7bid"
    let job : JsonRecord := ⟨[("", .bool true), ("id", .string "j7"), ("job", .string "\x7bid\x7d"), ("note", .null),
      ("\x7bid", .string "2")]⟩
    jobPieces.template = template.toList ∧ expandPath template job = "/jobs/\x7bid\x7d/2/Yes-\x7b\x7bid" := by
  intro template job
  have htemplate : jobPieces.template = template.toList := by decide
  obtain ⟨p, -, hunique, hfills⟩ := expandPath_fills template
  obtain ⟨value, hvalue, hpath⟩ := hfills JsonRecord job
  have hjob : value "job" = "\x7bid\x7d" := (hvalue ..).mpr (.string (by decide) rfl)
  have hbrace : value "\x7bid" = "2" := (hvalue ..).mpr (.string (by decide) rfl)
  have hempty : value "" = "Yes" := (hvalue ..).mpr (.other (v := .bool true) (by decide) rfl nofun nofun)
  have hnote : value "note" = "" := (hvalue ..).mpr (.null (by decide) rfl)
  refine ⟨htemplate, String.toList_inj.mp ?_⟩
  rw [hpath, ← hunique _ htemplate]
  simp [jobPieces, Pieces.filled, hjob, hbrace, hempty, hnote]

end RecordScreens
