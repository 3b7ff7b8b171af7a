import RecordScreens.Text.Elapsed

/-!
# Query errors

How a query or a mutation can fail. Every failure belongs to the key that was called.
-/

namespace RecordScreens

/-- Why an answer could not be used. -/
inductive DecodeFault where
  | notAPage
  | missingItems
  | unfitting
  deriving DecidableEq, Repr

def DecodeFault.message : DecodeFault → String
  | .notAPage => "expected an object with items and total"
  | .missingItems => "missing items"
  | .unfitting => "the value does not have the expected fields"

/-- Why a query or a mutation failed. -/
inductive QueryError where
  /-- The source reported a failure. -/
  | source (key message : String)
  /-- The source did not answer in time. -/
  | timeout (key : String) (millis : Nat)
  /-- The answer does not have the expected form. -/
  | decode (key : String) (fault : DecodeFault)
  deriving DecidableEq, Repr

namespace QueryError

/-- The key that was called. -/
def key : QueryError → String
  | source key _ | timeout key _ | decode key _ => key

/-- The name of the kind of a query error. -/
def kind : QueryError → String
  | source .. => "Source"
  | timeout .. => "Timeout"
  | decode .. => "Decode"

/-- The message of a query error. -/
def message : QueryError → String
  | source key text => "Query '" ++ key ++ "' failed: " ++ text
  | timeout key millis => "Query '" ++ key ++ "' timed out after " ++ Text.elapsed millis
  | decode key fault => "Query '" ++ key ++ "' returned an unexpected shape: " ++ fault.message

end QueryError

end RecordScreens
