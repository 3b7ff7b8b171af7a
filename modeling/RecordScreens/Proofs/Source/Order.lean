import Mathlib.Data.Char
import Mathlib.Data.List.Pairwise
import RecordScreens.Source.Matching

/-!
# The order of records

Fields of one kind are compared by value, and fields of two kinds by the texts that they
have as JSON. The texts of each kind begin with characters of its own, so they put the
kinds in a fixed order, and the whole is a total preorder: a list of records has one
stable order by a field, whatever values stand in it.
-/

namespace RecordScreens

/-! ## First characters of texts -/

/-- A text that begins with a character from a range. -/
def LeadsWithin (low high : Char) (text : String) : Prop :=
  ∃ c, text.toList.head? = some c ∧ low ≤ c ∧ c ≤ high

namespace LeadsWithin

variable {low high low' high' : Char} {s t : String}

theorem append (h : LeadsWithin low high s) (t : String) : LeadsWithin low high (s ++ t) := by
  obtain ⟨c, hhead, hc⟩ := h
  exact ⟨c, by simp [hhead], hc⟩

theorem mono (h : LeadsWithin low high s) (hlow : low' ≤ low) (hhigh : high ≤ high') :
    LeadsWithin low' high' s := by
  obtain ⟨c, hhead, hlc, hch⟩ := h
  exact ⟨c, hhead, le_trans hlow hlc, le_trans hch hhigh⟩

/-- The first characters decide if their ranges lie apart. -/
theorem lt (hs : LeadsWithin low high s) (ht : LeadsWithin low' high' t) (h : high < low') : s < t := by
  obtain ⟨c, hc, -, hhigh⟩ := hs
  obtain ⟨d, hd, hlow, -⟩ := ht
  obtain ⟨cs, hcs⟩ := List.head?_eq_some_iff.mp hc
  obtain ⟨ds, hds⟩ := List.head?_eq_some_iff.mp hd
  have hlt : c < d := lt_of_le_of_lt hhigh (lt_of_lt_of_le h hlow)
  show s.toList < t.toList
  rw [hcs, hds]
  exact List.cons_lt_cons_iff.mpr (.inl hlt)

theorem toString_nat (n : Nat) : LeadsWithin '0' '9' (toString n) := by
  obtain ⟨c, rest, hdigits⟩ := List.exists_cons_of_ne_nil (Nat.toDigits_ne_nil (n := n) (b := 10))
  have hdigit : c.isDigit = true := by
    apply Nat.isDigit_of_mem_toDigits (b := 10) (n := n) <;> simp [hdigits]
  have hrange : '0' ≤ c ∧ c ≤ '9' := by simpa [Char.isDigit, Char.le_def] using hdigit
  exact ⟨c, by simp [hdigits], hrange⟩

theorem pointed (h : LeadsWithin low high s) (n : Nat) : LeadsWithin low high (NumberLayout.pointed s (n + 1)) := by
  obtain ⟨c, hhead, hc⟩ := h
  exact ⟨c, by simp [NumberLayout.pointed, List.head?_take, hhead], hc⟩

/-- However a decimal is laid out, a digit comes first. -/
theorem layout (l : NumberLayout) (d : Decimal) : LeadsWithin '0' '9' (l.text d) := by
  unfold NumberLayout.text
  simp only
  split
  · apply append
    split
    · exact toString_nat _
    · exact (toString_nat _).pointed 0
  · split
    · exact ⟨'0', by simp, by decide⟩
    · exact ((toString_nat _).append _).pointed _

theorem number (n : Json.Number) : LeadsWithin '-' '9' n.text := by
  cases n with
  | whole n =>
    cases n with
    | ofNat n => exact (toString_nat n).mono (by decide) (by decide)
    | negSucc n =>
      have htext : Json.Number.text (.whole (.negSucc n)) = "-" ++ toString (n + 1) := rfl
      exact ⟨'-', by simp [htext], by decide⟩
  | binary64 x =>
    have htext : Json.Number.text (.binary64 x) = Json.binary64Text x := rfl
    unfold Json.binary64Text at htext
    cases hsign : x.negative with
    | true => exact ⟨'-', by simp [htext, hsign], by decide⟩
    | false =>
      have hlayout : LeadsWithin '-' '9' (Json.numberLayout.text x.shortest) :=
        (layout _ _).mono (by decide) (by decide)
      simpa [htext, hsign] using hlayout

end LeadsWithin

/-- The least and the greatest first character of the texts of a kind. -/
def Json.leads : Json → Char × Char
  | .string _ => ('"', '"')
  | .number _ => ('-', '9')
  | .array _ => ('[', '[')
  | .bool _ => ('f', 't')
  | .null => ('n', 'n')
  | .object _ => ('\x7b', '\x7b')

theorem Json.leadsWithin_text (v : Json) : LeadsWithin v.leads.1 v.leads.2 v.text := by
  cases v with
  | null => exact ⟨'n', rfl, by decide⟩
  | bool b =>
    cases b with
    | true => exact ⟨'t', rfl, by decide⟩
    | false => exact ⟨'f', rfl, by decide⟩
  | number n => exact .number n
  | string s => exact ⟨'"', by simp [text, stringText], le_refl _, le_refl _⟩
  | array items => exact ⟨'[', by simp [text], le_refl _, le_refl _⟩
  | object members => exact ⟨'\x7b', by simp [text], le_refl _, le_refl _⟩

namespace Source

/-! ## The order as one by keys -/

/-- The place of the kind of a field among the kinds. -/
def kindRank : Option Json → Nat
  | some (.string _) => 0
  | some (.number _) => 1
  | some (.array _) => 2
  | some (.bool _) => 3
  | some (.object _) => 4
  | none | some .null => 5

/-- What numbers are compared by. -/
def sortNumber : Option Json → Int
  | some (.number n) => n.toBinary64.value
  | _ => 0

/-- What fields of any other kind are compared by. -/
def sortText : Option Json → String
  | some (.string s) => s
  | some (.number _) | none | some .null => ""
  | some v => v.text

variable {a b : Option Json}

theorem kindRank_le (a : Option Json) : kindRank a ≤ 5 := by
  rcases a with _ | (_ | _ | _ | _ | _ | _) <;> simp [kindRank]

theorem kindRank_lt_iff : kindRank a < 5 ↔ isMissing a = false := by
  rcases a with _ | (_ | _ | _ | _ | _ | _) <;> simp [kindRank, isMissing]

/-- The texts of two kinds stand in the order of the kinds. -/
theorem text_lt_text {v w : Json} (h : kindRank (some v) < kindRank (some w)) (hw : isMissing (some w) = false) :
    v.text < w.text := by
  refine v.leadsWithin_text.lt w.leadsWithin_text ?_
  cases v <;> cases w <;> simp_all +decide [kindRank, isMissing, Json.leads]

theorem compareFields_of_kindRank_ne (h : kindRank a ≠ kindRank b) :
    compareFields a b =
      match isMissing a, isMissing b with
      | true, true => .eq
      | true, false => .gt
      | false, true => .lt
      | false, false => compare (Json.orNull a).text (Json.orNull b).text := by
  unfold compareFields
  split
  · exact absurd rfl h
  · exact absurd rfl h
  · exact absurd rfl h
  · rfl

/-- Fields of two kinds are in the order of their kinds. -/
theorem compareFields_of_kindRank_lt (h : kindRank a < kindRank b) : compareFields a b = .lt := by
  rw [compareFields_of_kindRank_ne (Nat.ne_of_lt h)]
  have ha : isMissing a = false := kindRank_lt_iff.mp (Nat.lt_of_lt_of_le h (kindRank_le b))
  cases hb : isMissing b with
  | true => simp [ha]
  | false =>
    rcases a with _ | v
    · cases ha
    · rcases b with _ | w
      · cases hb
      · simp only [ha, Json.orNull, Option.getD_some]
        exact compareOfLessAndEq_eq_lt.mpr (text_lt_text h hb)

theorem compareFields_of_kindRank_gt (h : kindRank b < kindRank a) : compareFields a b = .gt := by
  have hlt := compareFields_of_kindRank_lt h
  simp only [compareFields_of_kindRank_ne (Nat.ne_of_lt h)] at hlt
  simp only [compareFields_of_kindRank_ne (Nat.ne_of_gt h)]
  cases ha : isMissing a <;> cases hb : isMissing b <;> simp_all [Std.OrientedCmp.gt_iff_lt]

/-- Fields are compared by their kinds, then as numbers, then as texts. -/
theorem compareFields_eq :
    compareFields = compareLex (compareOn kindRank) (compareLex (compareOn sortNumber) (compareOn sortText)) := by
  funext a b
  simp only [compareLex, compareOn]
  rcases Nat.lt_trichotomy (kindRank a) (kindRank b) with h | h | h
  · simp [compareFields_of_kindRank_lt h, Nat.compare_eq_lt.mpr h]
  · rcases a with _ | (_ | a | m | s | xs | xs) <;> rcases b with _ | (_ | b | n | t | ys | ys) <;>
      simp [kindRank] at h <;>
      simp [compareFields, kindRank, sortNumber, sortText, isMissing, Json.orNull, Json.Number.compare,
        Binary64.compare]
    cases a <;> cases b <;> decide
  · simp [compareFields_of_kindRank_gt h, Nat.compare_eq_gt.mpr h]

instance : Std.TransCmp compareFields := by
  rw [compareFields_eq]
  infer_instance

/-! ## Stable orders -/

/-- The same values in an order, in which equal ones stand as they did. -/
structure StablySorted {α : Type} (cmp : α → α → Ordering) (values sorted : List α) : Prop where
  perm : sorted.Perm values
  ordered : sorted.Pairwise fun a b => (cmp a b).isLE
  stable : ∀ a, sorted.filter (cmp · a == .eq) = values.filter (cmp · a == .eq)

namespace StablySorted

variable {α : Type} {cmp : α → α → Ordering} {values sorted sorted' : List α}

section

variable [Std.TransCmp cmp]

theorem mergeSort (values : List α) : StablySorted cmp values (values.mergeSort fun a b => cmp a b != .gt) := by
  have hle : (fun a b => cmp a b != .gt) = fun a b => (cmp a b).isLE := by
    funext a b
    cases cmp a b <;> rfl
  have htrans (a b c : α) : (cmp a b).isLE → (cmp b c).isLE → (cmp a c).isLE := Std.TransCmp.isLE_trans
  have htotal (a b : α) : ((cmp a b).isLE || (cmp b a).isLE) = true := by
    have hswap : cmp b a = (cmp a b).swap := Std.OrientedCmp.eq_swap
    cases hab : cmp a b <;> simp [hswap, hab]
  rw [hle]
  have hperm := List.mergeSort_perm values fun a b => (cmp a b).isLE
  refine ⟨hperm, List.pairwise_mergeSort htrans htotal values, fun a => ?_⟩
  -- The values that equal `a` are in order as they stand, so they are a part of the sorted list.
  have hclass : (values.filter (cmp · a == .eq)).Pairwise fun b c => (cmp b c).isLE := by
    refine List.pairwise_of_forall_mem_list fun b hb c hc => ?_
    have hba : cmp b a = .eq := by simpa using (List.mem_filter.mp hb).2
    have hca : cmp c a = .eq := by simpa using (List.mem_filter.mp hc).2
    have hac : cmp a c = .eq := Std.OrientedCmp.eq_symm hca
    simp [Std.TransCmp.eq_trans hba hac]
  have hpart := (List.sublist_mergeSort htrans htotal hclass List.filter_sublist).filter (cmp · a == .eq)
  simp only [List.filter_filter, Bool.and_self] at hpart
  exact (hpart.eq_of_length (hperm.filter _).length_eq.symm).symm

theorem head_isLE {a b : α} (h : (a :: values).Pairwise fun a b => (cmp a b).isLE) (hb : b ∈ a :: values) :
    (cmp a b).isLE := by
  rcases List.mem_cons.mp hb with rfl | hb
  · exact Std.ReflCmp.isLE_rfl
  · exact (List.pairwise_cons.mp h).1 b hb

/-- Values have one stable order. -/
theorem unique (h : StablySorted cmp values sorted) (h' : StablySorted cmp values sorted') : sorted = sorted' := by
  have hperm : sorted.Perm sorted' := h.perm.trans h'.perm.symm
  have hclass (a : α) := (h.stable a).trans (h'.stable a).symm
  have hordered := h.ordered
  have hordered' := h'.ordered
  clear h h'
  induction sorted generalizing sorted' with
  | nil => exact hperm.nil_eq
  | cons a rest ih =>
    cases sorted' with
    | nil => exact hperm.symm.nil_eq.symm
    | cons b rest' =>
      -- Each head comes before the other, so the two are the first of one class.
      have hab : (cmp a b).isLE := head_isLE hordered (hperm.mem_iff.mpr List.mem_cons_self)
      have hba : (cmp b a).isLE := head_isLE hordered' (hperm.mem_iff.mp List.mem_cons_self)
      have heq : cmp b a = .eq := Std.OrientedCmp.isLE_antisymm hba hab
      have hheads := hclass a
      simp only [List.filter_cons, Std.ReflCmp.compare_self, heq, beq_self_eq_true, if_true] at hheads
      obtain ⟨rfl, -⟩ := List.cons.inj hheads
      rw [ih hperm.cons_inv (fun c => ?_) hordered.of_cons hordered'.of_cons]
      have hc := hclass c
      simp only [List.filter_cons] at hc
      split at hc
      · exact (List.cons.inj hc).2
      · exact hc

end

/-- Values that come after all others are at the end. -/
theorem eq_append (last : α → Bool) (h : StablySorted cmp values sorted)
    (hlast : ∀ a b, last a = true → last b = false → cmp a b = .gt) :
    sorted = sorted.filter (fun a => !last a) ++ sorted.filter last := by
  have hordered := h.ordered
  clear h
  induction sorted with
  | nil => rfl
  | cons a rest ih =>
    obtain ⟨hfirst, hrest⟩ := List.pairwise_cons.mp hordered
    cases ha : last a with
    | false => simpa [ha] using ih hrest
    | true =>
      have hall : ∀ b ∈ rest, last b = true := by
        intro b hb
        cases hb' : last b with
        | true => rfl
        | false => simpa [hlast a b ha hb'] using hfirst b hb
      have hnone : rest.filter (fun b => !last b) = [] := by simpa using hall
      simp [ha, hnone, List.filter_eq_self.mpr hall]

end StablySorted

/-! ## Records in the order of a field -/

/-- The order of records by a field. -/
def fieldOrder (key : String) (r s : Json) : Ordering := compareFields (r.get? key) (s.get? key)

instance (key : String) : Std.TransCmp (fieldOrder key) where
  eq_swap {r s} := (Std.OrientedCmp.eq_swap : compareFields (r.get? key) (s.get? key) = _)
  isLE_trans {r s t} hrs hst := by
    unfold fieldOrder at *
    exact Std.TransCmp.isLE_trans hrs hst

theorem stablySorted_sortByField (key : String) (records : List Json) :
    StablySorted (fieldOrder key) records (sortByField key records) := .mergeSort records

theorem compareFields_none (a : Option Json) : compareFields a none = if isMissing a then .eq else .lt := by
  rcases a with _ | (_ | _ | _ | _ | _ | _) <;> rfl

/-- Records without the field are at the end, as they stood. -/
theorem sortByField_eq_append (key : String) (records : List Json) :
    ∃ present, (∀ r ∈ present, isMissing (r.get? key) = false) ∧
      sortByField key records = present ++ records.filter fun r => isMissing (r.get? key) := by
  have hsorted := stablySorted_sortByField key records
  -- The records without the field are those that equal one without any fields.
  have hclass : (fun r : Json => isMissing (r.get? key)) = (fieldOrder key · .null == .eq) := by
    funext r
    have hnull : fieldOrder key r .null = compareFields (r.get? key) none := rfl
    cases hr : isMissing (r.get? key) <;> simp [hnull, compareFields_none, hr]
  have hlast (r s : Json) (hr : isMissing (r.get? key) = true) (hs : isMissing (s.get? key) = false) :
      fieldOrder key r s = .gt := by
    have hr' : ¬ kindRank (r.get? key) < 5 := by simp [kindRank_lt_iff, hr]
    exact compareFields_of_kindRank_gt (Nat.lt_of_lt_of_le (kindRank_lt_iff.mpr hs) (Nat.le_of_not_lt hr'))
  refine ⟨(sortByField key records).filter fun r => !isMissing (r.get? key), ?_, ?_⟩
  · intro r hr
    simpa using (List.mem_filter.mp hr).2
  · calc
      sortByField key records = _ := hsorted.eq_append (fun r => isMissing (r.get? key)) hlast
      _ = _ := by rw [hclass, hsorted.stable .null]

/-- Fields of any kinds have an order, in which numbers are compared by value. So a query for records in the order of
a field finds the matching records in the one stable order by that field, those without it last; and in descending
order, it finds them the other way round. -/
theorem finds_in_order :
    (∀ a b, compareFields b a = (compareFields a b).swap) ∧
      (∀ a b c, (compareFields a b).isLE → (compareFields b c).isLE → (compareFields a c).isLE) ∧
      (∀ m n : Json.Number, compareFields (some (.number m)) (some (.number n)) =
        compare m.toBinary64.value n.toBinary64.value) ∧
      ∀ (fields : List String) (p : ListParams) (key : String) (records : List Json),
        let matching := records.filter (matchesAll fields p.filters)
        let ascending := found fields (p.sort key .asc) records
        (∀ sorted, StablySorted (fieldOrder key) matching sorted ↔ sorted = ascending) ∧
          (∃ present, (∀ r ∈ present, isMissing (r.get? key) = false) ∧
            ascending = present ++ matching.filter fun r => isMissing (r.get? key)) ∧
          found fields (p.sort key .desc) records = ascending.reverse := by
  refine ⟨fun a b => Std.OrientedCmp.eq_swap, fun a b c => Std.TransCmp.isLE_trans, fun m n => rfl, ?_⟩
  intro fields p key records matching ascending
  have hsorted : StablySorted (fieldOrder key) matching ascending := stablySorted_sortByField key matching
  refine ⟨fun sorted => ?_, sortByField_eq_append key matching, rfl⟩
  constructor
  · exact fun h => h.unique hsorted
  · rintro rfl
    exact hsorted

/-- A text comes before a number and that before a list, so the text comes before the list. -/
theorem finds_in_order_mixed :
    (compareFields (some (.string "b")) (some (.number (.whole 2)))).isLE ∧
      (compareFields (some (.number (.whole 2))) (some (.array []))).isLE ∧
      (compareFields (some (.string "b")) (some (.array []))).isLE :=
  ⟨by decide, by decide, finds_in_order.2.1 _ (some (.number (.whole 2))) _ (by decide) (by decide)⟩

end Source

end RecordScreens
