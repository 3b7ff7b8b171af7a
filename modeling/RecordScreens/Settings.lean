import RecordScreens.Failure.Config
import RecordScreens.Toml.Parser

/-!
# Settings

What can be set for all screens together, read from a TOML document. Every setting has
a default, and what a document says beside the settings is ignored.
-/

namespace RecordScreens

/-- How long to wait, how much to show, and how far to drag. -/
structure Settings where
  /-- How long a query or a mutation may take. -/
  timeoutMillis : Nat := 5000
  /-- The page size of lists that do not set one. -/
  pageSize : Nat := 25
  /-- How long a search input rests before it is used. -/
  debounceMillis : Nat := 300
  /-- How far the pointer moves before a press becomes a drag. -/
  activationDistance : Float32 := 8.0

namespace Settings

/-- Whether all settings have their default values. -/
def isDefault (s : Settings) : Bool :=
  s.timeoutMillis == 5000 && s.pageSize == 25 && s.debounceMillis == 300 && s.activationDistance == 8.0

/-! ## Values -/

/-- An integer that is not negative. -/
def natural? : Toml → Option Nat
  | .integer n => if 0 ≤ n then some n.toNat else none
  | _ => none

/-- The nearest binary32 number. -/
def binary32? : Toml → Option Float32
  | .integer n => some (Int64.ofInt n).toFloat32
  | .float x => some x.toFloat32
  | _ => none

/-- The entries of a group of settings. A group may also be an array of its settings in order; a
date has no entries that are settings. -/
def entries? (names : List String) : Toml → Option (List (String × Toml))
  | .table entries => some entries
  | .array items => some (names.zip items)
  | .datetime _ => some []
  | _ => none

/-- The setting with a name, or its default. -/
def setting? {α : Type} (entries : List (String × Toml)) (name : String) (read : Toml → Option α) (default : α) :
    Option α :=
  match entries.lookup name with
  | some v => read v
  | none => some default

/-- The group of settings with a name; a missing group has no entries. -/
def group? (document : List (String × Toml)) (name : String) (settings : List String) :
    Option (List (String × Toml)) :=
  setting? document name (entries? settings) []

/-! ## Documents -/

/-- The settings that a document says. -/
def ofDocument? (document : List (String × Toml)) : Option Settings := do
  let query ← group? document "query" ["timeout_ms", "page_size"]
  let search ← group? document "search" ["debounce_ms"]
  let board ← group? document "board" ["activation_distance"]
  return {
    timeoutMillis := ← setting? query "timeout_ms" natural? 5000
    pageSize := ← setting? query "page_size" natural? 25
    debounceMillis := ← setting? search "debounce_ms" natural? 300
    activationDistance := ← setting? board "activation_distance" binary32? 8.0 }

/-- Reads settings from the text of a document. -/
def ofText (text : String) : Except ConfigError Settings :=
  match (Toml.parse? text).bind ofDocument? with
  | some settings => .ok settings
  | none => .error .malformed

end Settings

/-- What a path leads to. -/
inductive FileContent where
  | missing
  | text (content : String)
  /-- A directory, or something else that is no text. -/
  | unreadable
  deriving DecidableEq, Repr

/-- Reads settings from a file; where there is no file, the defaults hold. -/
def Settings.ofFile : FileContent → Except ConfigError Settings
  | .missing => .ok {}
  | .text content => Settings.ofText content
  | .unreadable => .error .unreadable

end RecordScreens
