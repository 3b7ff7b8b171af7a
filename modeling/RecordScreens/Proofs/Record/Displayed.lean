import RecordScreens.Record.Display

/-!
# Displayed values

No value is shown as nothing, and an array is shown as the list of its leaves, however deep they are.
-/

namespace RecordScreens

/-! ## Numbers -/

theorem NumberLayout.text_ne_empty (layout : NumberLayout) (d : Decimal) : layout.text d ≠ "" := by
  have hexponent (e : Int) : exponentText e ≠ "" := by
    unfold exponentText
    split <;> simp
  unfold text
  simp only
  split
  · exact fun h => hexponent _ (String.append_eq_empty_iff.mp h).2
  · split
    · simp
    · simp [pointed]

namespace Json

theorem Number.text_ne_empty (n : Number) : n.text ≠ "" := by
  cases n with
  | whole n =>
    cases n with
    | ofNat n => exact Nat.repr_ne_empty
    | negSucc n => exact fun h => Nat.repr_ne_empty (String.append_eq_empty_iff.mp h).2
  | binary64 x => exact fun h => NumberLayout.text_ne_empty _ _ (String.append_eq_empty_iff.mp h).2

/-! ## Leaves -/

/-- A value that is no array with items. -/
def IsLeaf (v : Json) : Prop := ∀ first rest, v ≠ .array (first :: rest)

mutual

/-- The leaves of a value in order; a leaf is its own only leaf. -/
def leaves : Json → List Json
  | .array (v :: rest) => v.leaves ++ itemLeaves rest
  | .array [] => [.array []]
  | .null => [.null]
  | .bool b => [.bool b]
  | .number n => [.number n]
  | .string s => [.string s]
  | .object members => [.object members]

def itemLeaves : List Json → List Json
  | [] => []
  | v :: rest => v.leaves ++ itemLeaves rest

end

theorem itemLeaves_eq (items : List Json) : itemLeaves items = items.flatMap leaves := by
  induction items with
  | nil => rfl
  | cons v rest ih => rw [itemLeaves, ih, List.flatMap_cons]

theorem leaves_array {items : List Json} (h : items ≠ []) : (array items).leaves = items.flatMap leaves := by
  obtain ⟨v, rest, rfl⟩ := List.exists_cons_of_ne_nil h
  rw [leaves, itemLeaves_eq, List.flatMap_cons]

theorem leaves_of_isLeaf {v : Json} (h : v.IsLeaf) : v.leaves = [v] := by
  cases v with
  | array items =>
    cases items with
    | nil => rfl
    | cons first rest => exact absurd rfl (h first rest)
  | _ => rfl

theorem displayItems_eq (items : List Json) : displayItems items = items.map display := by
  induction items with
  | nil => rfl
  | cons v rest ih => rw [displayItems, ih, List.map_cons]

theorem display_array {items : List Json} (h : items ≠ []) :
    (array items).display = String.intercalate ", " (items.map display) := by
  obtain ⟨v, rest, rfl⟩ := List.exists_cons_of_ne_nil h
  rw [display, displayItems_eq, List.map_cons]

/-- What holds of leaves, and of an array with items if it holds of each item, holds of every value. -/
theorem nested_induction {motive : Json → Prop} (leaf : ∀ v : Json, v.IsLeaf → motive v)
    (array : ∀ items, items ≠ [] → (∀ v ∈ items, motive v) → motive (.array items)) (v : Json) : motive v := by
  cases v with
  | array items =>
    by_cases hitems : items = []
    · subst hitems
      exact leaf _ (by simp [IsLeaf])
    · exact array items hitems fun item _ => nested_induction leaf array item
  | _ => exact leaf _ (by simp [IsLeaf])
termination_by v

theorem leaves_ne_nil (v : Json) : v.leaves ≠ [] := by
  induction v using nested_induction with
  | leaf v hleaf => simp [leaves_of_isLeaf hleaf]
  | array items hitems ih =>
    obtain ⟨first, rest, rfl⟩ := List.exists_cons_of_ne_nil hitems
    rw [leaves_array hitems, List.flatMap_cons]
    exact List.append_ne_nil_of_left_ne_nil (ih first List.mem_cons_self) _

theorem isLeaf_of_mem_leaves {v leaf : Json} (h : leaf ∈ v.leaves) : leaf.IsLeaf := by
  induction v using nested_induction with
  | leaf v hleaf =>
    rw [leaves_of_isLeaf hleaf, List.mem_singleton] at h
    exact h ▸ hleaf
  | array items hitems ih =>
    rw [leaves_array hitems] at h
    obtain ⟨item, hitem, hmem⟩ := List.mem_flatMap.mp h
    exact ih item hitem hmem

/-! ## Lists of lists -/

/-- Lists that are joined, each with something in it, can be joined as one. -/
theorem intercalate_flatMap {α : Type} {sep : String} {f : α → List String} {items : List α}
    (h : ∀ a ∈ items, f a ≠ []) :
    sep.intercalate (items.map fun a => sep.intercalate (f a)) = sep.intercalate (items.flatMap f) := by
  induction items with
  | nil => rfl
  | cons first rest ih =>
    obtain ⟨hfirst, hothers⟩ := List.forall_mem_cons.mp h
    rw [List.map_cons, List.flatMap_cons]
    cases rest with
    | nil => simp
    | cons second others =>
      have hrest : (second :: others).flatMap f ≠ [] := by
        rw [List.flatMap_cons]
        exact List.append_ne_nil_of_left_ne_nil (hothers second List.mem_cons_self) _
      rw [String.intercalate_cons_of_ne_nil (by simp), ih hothers,
        String.intercalate_append_of_ne_nil hfirst hrest]

theorem intercalate_cons_ne_empty {sep s : String} (rest : List String) (h : s ≠ "") :
    sep.intercalate (s :: rest) ≠ "" := by
  cases rest with
  | nil => rwa [String.intercalate_singleton]
  | cons t rest => simp [String.append_eq_empty_iff, h]

/-! ## Texts -/

/-- A value is shown as its leaves, in order. -/
theorem display_eq (v : Json) : v.display = String.intercalate ", " (v.leaves.map display) := by
  induction v using nested_induction with
  | leaf v hleaf => simp [leaves_of_isLeaf hleaf]
  | array items hitems ih =>
    calc (array items).display
      _ = String.intercalate ", " (items.map display) := display_array hitems
      _ = String.intercalate ", " (items.map fun v => String.intercalate ", " (v.leaves.map display)) := by
        rw [List.map_congr_left ih]
      _ = String.intercalate ", " (items.flatMap fun v => v.leaves.map display) :=
        intercalate_flatMap fun v _ => mt List.map_eq_nil_iff.mp v.leaves_ne_nil
      _ = String.intercalate ", " ((array items).leaves.map display) := by
        rw [leaves_array hitems, List.map_flatMap]

theorem display_ne_empty_of_isLeaf {v : Json} (h : v.IsLeaf) : v.display ≠ "" := by
  cases v with
  | null => simp [display, placeholder]
  | bool b => cases b <;> simp [display]
  | number n => exact n.text_ne_empty
  | string s => by_cases hs : s = "" <;> simp [display, hs, placeholder]
  | array items =>
    cases items with
    | nil => simp [display, placeholder]
    | cons first rest => exact absurd rfl (h first rest)
  | object members => simp [display, text]

/-- Every value is shown as something. An array with items is shown as the list of its leaves in order, however deep
they are: these are values that are no arrays, and empty arrays, which are shown as the placeholder. -/
theorem display_lists_leaves :
    (∀ v : Json, v.display ≠ "") ∧
    (∀ items : List Json, items ≠ [] →
      (array items).display = String.intercalate ", " ((array items).leaves.map display) ∧
      (array items).leaves = items.flatMap leaves ∧
      ∀ leaf ∈ (array items).leaves, leaf.IsLeaf) ∧
    (∀ leaf : Json, leaf.IsLeaf → leaf.leaves = [leaf]) ∧
    (array []).display = placeholder := by
  refine ⟨fun v => ?_, fun items hitems => ⟨display_eq _, leaves_array hitems, fun leaf => isLeaf_of_mem_leaves⟩,
    fun leaf => leaves_of_isLeaf, rfl⟩
  obtain ⟨first, rest, hleaves⟩ := List.exists_cons_of_ne_nil v.leaves_ne_nil
  have hfirst : first.IsLeaf := isLeaf_of_mem_leaves (hleaves ▸ List.mem_cons_self)
  rw [display_eq, hleaves, List.map_cons]
  exact intercalate_cons_ne_empty _ (display_ne_empty_of_isLeaf hfirst)

/-- Empty arrays, nulls and empty texts stay in the list, each as the placeholder. -/
theorem display_lists_leaves_nested :
    let items := [.array [], .array [.null, .array [.string "go"]], .string ""]
    items ≠ [] ∧ (array items).leaves = [.array [], .null, .string "go", .string ""] ∧
      (array items).display = String.intercalate ", " ((array items).leaves.map display) ∧
      (array items).display = "—, —, go, —" ∧ (array items).display ≠ "" ∧ (Json.string "go").IsLeaf ∧
      (Json.string "go").leaves = [.string "go"] := by
  intro items
  have hitems : items ≠ [] := nofun
  have hleaf : (Json.string "go").IsLeaf := nofun
  obtain ⟨hshown, harray, hself, -⟩ := display_lists_leaves
  obtain ⟨hjoined, -, -⟩ := harray items hitems
  exact ⟨hitems, rfl, hjoined, by decide, hshown _, hleaf, hself _ hleaf⟩

end Json

end RecordScreens
