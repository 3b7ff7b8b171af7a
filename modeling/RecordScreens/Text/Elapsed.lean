/-!
# Spans of time

The text of a span of whole milliseconds, in the largest unit that is not less than one.
-/

namespace RecordScreens.Text

/-- Three digits after the point, without zeros at the end. -/
def millisFraction (millis : Nat) : String :=
  let digits := String.ofList ((Nat.toDigits 10 (1000 + millis % 1000)).drop 1)
  let shown := (digits.toList.reverse.dropWhile (· == '0')).reverse
  if shown = [] then "" else "." ++ String.ofList shown

/-- The text of a span; an empty span is counted in nanoseconds. -/
def elapsed (millis : Nat) : String :=
  if millis = 0 then "0ns"
  else if millis < 1000 then toString millis ++ "ms"
  else toString (millis / 1000) ++ millisFraction millis ++ "s"

end RecordScreens.Text
