import RecordScreens.CommandLine.Run

/-!
# The program

Reads the files that the arguments name, runs the command, and prints what came of it.
-/

namespace RecordScreens

/-- What a path leads to. -/
def readContent (path : String) : IO FileContent := do
  try
    return .text (← IO.FS.readFile path)
  catch
    | .noFileOrDirectory .. => return .missing
    | _ => return .unreadable

/-- The path of the user's settings, if the user has a place for settings. -/
def userSettingsPath? : IO (Option String) := do
  let base ← match ← IO.getEnv "XDG_CONFIG_HOME" with
    | some directory => if directory.startsWith "/" then pure (some directory) else homeBase
    | none => homeBase
  return base.map (· ++ "/vista/settings.toml")
where
  homeBase : IO (Option String) := do return (← IO.getEnv "HOME").map (· ++ "/.config")

/-- The files that a run looks at. -/
def filesOf (i : Invocation) : IO Files := do
  let paths := i.settings.toList ++ i.data.toList
  let contents ← paths.mapM fun path => do return (path, ← readContent path)
  let userSettings ← match ← userSettingsPath? with
    | some path => readContent path
    | none => pure .missing
  return { content := fun path => (contents.lookup path).getD .missing, userSettings }

end RecordScreens

open RecordScreens

/-- Runs the program. -/
def main (args : List String) : IO UInt32 := do
  match Invocation.ofArguments args with
  | .error stop =>
    if stop.code = 0 then IO.println stop.text else IO.eprintln stop.text
    return stop.code.toUInt32
  | .ok i =>
    let outcome := i.run (← filesOf i)
    IO.print outcome.output
    if let some fault := outcome.fault then IO.eprintln fault.text
    if let some (.panic p) := outcome.crash then IO.eprintln p.message
    return outcome.code.toUInt32
