import RecordScreens.Candidate.Basic
import RecordScreens.Proofs.Dict
import RecordScreens.Record.Dynamic

/-!
# Lawful board records

What a board relies on when it changes the status of a record: the record keeps its id,
it has the new status, and the status that it had before brings it back.
-/

namespace RecordScreens

/-- A kind of record whose status can be changed and put back. -/
class LawfulBoardRecord (R : Type) [BoardRecord R] where
  /-- Whether a record is in the one form for what it says; its own status put back gives it again then. -/
  WellFormed : R → Prop
  id_setStatus : ∀ (r : R) (s : String), Record.id (BoardRecord.setStatus r s) = Record.id r
  status_setStatus : ∀ (r : R) (s : String), Record.status (BoardRecord.setStatus r s) = some s
  setStatus_setStatus : ∀ (r : R) (s t : String),
    BoardRecord.setStatus (BoardRecord.setStatus r s) t = BoardRecord.setStatus r t
  setStatus_status : ∀ {r : R} {s : String}, WellFormed r → Record.status r = some s → BoardRecord.setStatus r s = r

attribute [simp] LawfulBoardRecord.id_setStatus LawfulBoardRecord.status_setStatus
  LawfulBoardRecord.setStatus_setStatus

instance : LawfulBoardRecord Candidate where
  WellFormed _ := True
  id_setStatus _ _ := rfl
  status_setStatus _ _ := rfl
  setStatus_setStatus _ _ _ := rfl
  setStatus_status {c s} _ h := by
    cases h
    rfl

instance : LawfulBoardRecord JsonRecord where
  WellFormed r := Dict.Sorted r.members
  id_setStatus r s := by
    have hid : (r.set "status" (.string s)).get? "id" = r.get? "id" := Dict.get?_insert_of_ne _ _ (by decide)
    exact congrArg (fun v : Option Json => (v.bind Json.asString?).getD "") hid
  status_setStatus r s := by
    have hstatus : (r.set "status" (.string s)).get? "status" = some (.string s) := Dict.get?_insert_self ..
    exact congrArg (·.bind Json.asString?) hstatus
  setStatus_setStatus r s t := congrArg JsonRecord.mk (Dict.insert_insert ..)
  setStatus_status {r s} hsorted h := by
    -- Only a string is read as a status, and the string that is there is put back.
    obtain ⟨v, hget, hv⟩ := Option.bind_eq_some_iff.mp h
    cases v with
    | string t =>
      cases hv
      exact congrArg JsonRecord.mk (Dict.insert_of_get? hsorted hget)
    | _ => cases hv

end RecordScreens
