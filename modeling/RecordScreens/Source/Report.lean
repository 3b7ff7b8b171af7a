import RecordScreens.Json.Printer
import RecordScreens.Source.Scripted

/-!
# Reports of calls

Calls of a source as JSON.
-/

namespace RecordScreens

def CallKind.name : CallKind → String
  | .query => "query"
  | .mutate => "mutate"

def SourceCall.report (c : SourceCall) : Json := .array [.string c.kind.name, .string c.key, c.params]

/-- Calls in the order of their texts. -/
def SourceCall.reportSorted (calls : List SourceCall) : List Json :=
  (calls.map (·.report)).mergeSort fun a b => a.text ≤ b.text

end RecordScreens
