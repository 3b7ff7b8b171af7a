import RecordScreens.Record.Basic

/-!
# Path templates

Paths with placeholders in braces. A placeholder stands for the id or a field of a
record, and what it is replaced by is not looked at again.
-/

namespace RecordScreens

/-- The text that stands for a value in a path: nothing for null, a string as it is. -/
def Json.inPath : Json → String
  | .null => ""
  | .string s => s
  | v => v.display

/-- What a placeholder of this name is replaced by. -/
def placeholderText {R : Type} [Record R] (r : R) (name : String) : String :=
  if name = "id" then Record.id r else (Record.valueOf r name).inPath

namespace Template

/-- The characters before the first `c` and those after it, if there is one. -/
def splitAt? (c : Char) : List Char → Option (List Char × List Char)
  | [] => none
  | d :: rest =>
    if d = c then some ([], rest) else (splitAt? c rest).map fun (before, after) => (d :: before, after)

theorem length_of_splitAt? {c : Char} {cs before after : List Char}
    (h : splitAt? c cs = some (before, after)) : cs.length = before.length + 1 + after.length := by
  induction cs generalizing before with
  | nil => simp [splitAt?] at h
  | cons d rest ih =>
    simp only [splitAt?] at h
    split at h
    · cases h; simp; omega
    · obtain ⟨⟨b, a⟩, hs, he⟩ := Option.map_eq_some_iff.1 h
      cases he
      simp [ih hs]; omega

/-- Replaces every placeholder by what it stands for; an opening brace that is never closed is kept. -/
def fill (replace : List Char → List Char) : List Char → List Char
  | [] => []
  | c :: rest =>
    if c = '\x7b' then
      match _ : splitAt? '\x7d' rest with
      | some (name, after) => replace name ++ fill replace after
      | none => c :: rest
    else c :: fill replace rest
termination_by cs => cs.length
decreasing_by
  · have := length_of_splitAt? ‹_›
    simp; omega
  · simp

end Template

/-- The path that a template makes for a record. -/
def expandPath {R : Type} [Record R] (template : String) (r : R) : String :=
  String.ofList <|
    Template.fill (fun name => (placeholderText r (String.ofList name)).toList) template.toList

end RecordScreens
