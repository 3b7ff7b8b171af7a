import RecordScreens.Query.State
import RecordScreens.Section.Spec

/-!
# Section navigation

Which section of a screen is shown. A section that is not declared cannot be chosen.
-/

namespace RecordScreens

/-- The sections of a screen, the id of the one that is shown, and the id that was announced last. -/
structure SectionNavigator where
  sections : List SectionSpec
  shown : String
  watch : Watch String
  deriving DecidableEq

namespace SectionNavigator

/-- Starts on a section; if it is not declared, on the first. -/
def start (sections : List SectionSpec) (default : String) : SectionNavigator :=
  let first := (sections.head?.map (·.id)).getD ""
  let shown := if SectionSpec.declares sections default then default else first
  { sections, shown, watch := { value := shown } }

/-- The id of the section that is shown. -/
def current (n : SectionNavigator) : String := n.shown

/-- The section that is shown. -/
def currentSection (n : SectionNavigator) : Option SectionSpec := SectionSpec.find? n.sections n.current

/-- Shows a section, if it is declared; a change is announced. -/
def set (id : String) (n : SectionNavigator) : Bool × SectionNavigator :=
  if SectionSpec.declares n.sections id then
    (true, if n.current = id then n else { n with shown := id, watch := n.watch.send id })
  else (false, n)

end SectionNavigator

end RecordScreens
