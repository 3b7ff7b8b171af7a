import RecordScreens.Candidate.Basic
import RecordScreens.Proofs.Json.Fields
import RecordScreens.Record.Dynamic

/-!
# Records that are read back

A query keeps a record in its full form. Nothing is lost by this for a kind of record
that is read back from what it writes.
-/

namespace RecordScreens

/-- A kind of record that is read back as it was written, if it was read before. -/
class LawfulRecord (R : Type) [Record R] : Prop where
  decode_encode : ∀ {v : Json} {r : R}, Record.decode v = some r → Record.decode (Record.encode r) = some r

instance : LawfulRecord JsonRecord where
  decode_encode _ := rfl

/-! ## Candidates -/

namespace Candidate

/-- Whether the numbers of a candidate have 32 bits. -/
structure InRange (c : Candidate) : Prop where
  experienceYears : ∀ n, c.experienceYears = some n → n < Nat.pow 2 32
  hourlyRate : ∀ n, c.hourlyRate = some n → n < Nat.pow 2 32

theorem inRange_of_decode {v : Json} {c : Candidate} (h : decode v = some c) : c.InRange := by
  simp only [decode, Option.bind_eq_bind, Option.bind_eq_some_iff, Option.pure_def, Option.some.injEq] at h
  obtain ⟨fs, -, _, -, _, -, _, -, _, -, _, -, _, -, _, -, years, hyears, rate, hrate, _, -, _, -, rfl⟩ := h
  refine ⟨?_, ?_⟩
  · rintro n rfl
    exact Decoder.Fields.lt_of_optional_nat32 hyears
  · rintro n rfl
    exact Decoder.Fields.lt_of_optional_nat32 hrate

theorem decode_encode {c : Candidate} (hrange : c.InRange) : decode c.encode = some c := by
  have hnames : (c.fieldValues.map (·.1)).Nodup := by
    show fieldNames.Nodup
    decide
  obtain ⟨fs, hfields, hget⟩ := Decoder.fields_ofMembers hnames fieldNames
  have hread (name : String) (hname : name ∈ fieldNames) {v : Json} (hv : Dict.get? c.fieldValues name = some v) :
      Dict.get? fs name = some v := (hget name hname).trans hv
  show decode (.ofMembers c.fieldValues) = some c
  unfold decode
  rw [hfields]
  simp only [Option.bind_eq_bind, Option.bind_some, Option.pure_def,
    Decoder.Fields.required_string (hread "id" (by decide) rfl),
    Decoder.Fields.required_string (hread "first_name" (by decide) rfl),
    Decoder.Fields.required_string (hread "last_name" (by decide) rfl),
    Decoder.Fields.optional_string (hread "email" (by decide) rfl),
    Decoder.Fields.optional_string (hread "title" (by decide) rfl),
    Decoder.Fields.optional_string (hread "location" (by decide) rfl),
    Decoder.Fields.required_string (hread "status" (by decide) rfl),
    Decoder.Fields.optional_nat32 (hread "experience_years" (by decide) rfl) hrange.experienceYears,
    Decoder.Fields.optional_nat32 (hread "hourly_rate" (by decide) rfl) hrange.hourlyRate,
    Decoder.Fields.optional_string (hread "source" (by decide) rfl),
    Decoder.Fields.withDefault_bool (hread "is_on_hotlist" (by decide) rfl)]

instance : LawfulRecord Candidate where
  decode_encode h := decode_encode (inRange_of_decode h)

end Candidate

end RecordScreens
