import RecordScreens.Source.Store

/-!
# Scripted sources

A store with answers laid out in front of it. A call of a key takes the next answer laid
out for the key, and reaches the store only if there is none or if it says so.
-/

namespace RecordScreens

/-- An answer laid out for a key. -/
structure ScriptedAnswer where
  delay : Option Nat := none
  /-- The answer itself; without one, the store answers. -/
  result : Option (Except String Json) := none

/-- Whether a call asked or changed. -/
inductive CallKind where
  | query
  | mutate
  deriving DecidableEq, Repr

/-- A call as it was made. -/
structure SourceCall where
  kind : CallKind
  key : String
  params : Json
  deriving DecidableEq

/-- A store, the answers laid out by key, and the calls so far. -/
structure Scripted where
  store : Store := {}
  script : Dict (List ScriptedAnswer) := []
  log : List SourceCall := []

namespace Scripted

/-- Takes the next answer laid out for a key. -/
def takeAnswer (key : String) (s : Scripted) : ScriptedAnswer × Scripted :=
  match Dict.get? s.script key with
  | some (answer :: rest) => (answer, { s with script := Dict.insert s.script key rest })
  | _ => ({}, s)

/-- Answers a call, with the store as it is when the call is made. -/
def call (kind : CallKind) (key : String) (params : Json) (s : Scripted) : Reply × Scripted :=
  let s := { s with log := s.log ++ [⟨kind, key, params⟩] }
  let (answer, s) := takeAnswer key s
  match answer.result with
  | some (.ok v) => (⟨.ok v, answer.delay⟩, s)
  | some (.error message) => (⟨.error (.source key message), answer.delay⟩, s)
  | none =>
    let (result, store) := s.store.call key params
    (⟨result, answer.delay⟩, { s with store })

instance : DataSource Scripted where
  query := call .query
  mutate := call .mutate

end Scripted

end RecordScreens
