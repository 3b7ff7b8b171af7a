import RecordScreens.Dict

/-!
# Dictionaries in order

What holds of insertions beyond the lookup after them, and the lookup after a removal.
-/

namespace RecordScreens.Dict

variable {α : Type}

theorem insert_insert (d : Dict α) (key : String) (v w : α) : insert (insert d key v) key w = insert d key w := by
  induction d with
  | nil => simp [insert]
  | cons entry rest ih =>
    obtain ⟨k, old⟩ := entry
    by_cases hk : k = key
    · simp [insert, hk]
    · by_cases hlt : key < k
      · simp [insert, hk, hlt]
      · simp [insert, hk, hlt, ih]

theorem mem_keys_of_get? {d : Dict α} {key : String} {v : α} (h : get? d key = some v) : key ∈ keys d := by
  induction d with
  | nil => cases h
  | cons entry rest ih =>
    unfold get? at h
    split at h
    · rename_i hk
      exact hk ▸ List.mem_cons_self
    · exact List.mem_cons_of_mem _ (ih h)

theorem contains_iff {d : Dict α} {key : String} : contains d key = true ↔ key ∈ keys d := by
  induction d with
  | nil => simp [contains, keys]
  | cons entry rest ih =>
    obtain ⟨k, v⟩ := entry
    by_cases hk : k = key
    · simp [contains, get?, keys, hk]
    · simpa [contains, get?, keys, hk, Ne.symm hk] using ih

theorem mem_of_get? {d : Dict α} {key : String} {v : α} (h : get? d key = some v) : (key, v) ∈ d := by
  induction d with
  | nil => cases h
  | cons entry rest ih =>
    obtain ⟨k, old⟩ := entry
    by_cases hk : k = key
    · obtain rfl : old = v := by simpa [get?, hk] using h
      exact hk ▸ List.mem_cons_self
    · exact List.mem_cons_of_mem _ (ih (by simpa [get?, hk] using h))

/-- In a dictionary in order, every entry is found. -/
theorem get?_of_mem {d : Dict α} {key : String} {v : α} (hsorted : Sorted d) (h : (key, v) ∈ d) :
    get? d key = some v := by
  induction d with
  | nil => cases h
  | cons entry rest ih =>
    obtain ⟨hfirst, hrest⟩ := List.pairwise_cons.mp hsorted
    obtain ⟨k, old⟩ := entry
    rcases List.mem_cons.mp h with hentry | h
    · cases hentry
      simp [get?]
    · have hne : k ≠ key := by
        rintro rfl
        exact String.lt_irrefl _ (hfirst _ (List.mem_map.mpr ⟨_, h, rfl⟩))
      simpa [get?, hne] using ih hrest h

/-- Where no key stands twice, an entry is found if and only if it is there. -/
theorem get?_eq_some_iff {d : Dict α} (hnodup : (keys d).Nodup) {key : String} {v : α} :
    get? d key = some v ↔ (key, v) ∈ d := by
  induction d with
  | nil => simp
  | cons entry rest ih =>
    obtain ⟨k, old⟩ := entry
    obtain ⟨hnew, hrest⟩ := List.nodup_cons.mp hnodup
    by_cases hk : k = key
    · have hout : (key, v) ∉ rest := fun hmem => hnew (hk ▸ List.mem_map.mpr ⟨_, hmem, rfl⟩)
      simp [get?, hk, hout, eq_comm]
    · simp [get?, hk, ih hrest, Ne.symm hk]

/-- In a dictionary in order, a value that is there already can be inserted again. -/
theorem insert_of_get? {d : Dict α} {key : String} {v : α} (hsorted : Sorted d) (h : get? d key = some v) :
    insert d key v = d := by
  induction d with
  | nil => cases h
  | cons entry rest ih =>
    obtain ⟨k, old⟩ := entry
    obtain ⟨hfirst, hrest⟩ := List.pairwise_cons.mp hsorted
    by_cases hk : k = key
    · subst hk
      simp only [get?, if_true, Option.some.injEq] at h
      simp [insert, h]
    · have hget : get? rest key = some v := by simpa [get?, hk] using h
      have hlt : k < key := hfirst key (mem_keys_of_get? hget)
      simp [insert, hk, String.lt_asymm hlt, ih hrest hget]

theorem mem_keys_insert {d : Dict α} {key other : String} {v : α} (h : other ∈ keys (insert d key v)) :
    other = key ∨ other ∈ keys d := by
  induction d with
  | nil => exact .inl (List.mem_singleton.mp h)
  | cons entry rest ih =>
    unfold insert at h
    split at h
    · rcases List.mem_cons.mp h with h | h
      · exact .inl h
      · exact .inr (List.mem_cons_of_mem _ h)
    · split at h
      · exact List.mem_cons.mp h
      · rcases List.mem_cons.mp h with rfl | h
        · exact .inr List.mem_cons_self
        · exact (ih h).imp id (List.mem_cons_of_mem _)

theorem mem_keys_insert_of {d : Dict α} {key other : String} {v : α} (h : other = key ∨ other ∈ keys d) :
    other ∈ keys (insert d key v) := by
  induction d with
  | nil => simpa [insert, keys] using h
  | cons entry rest ih =>
    obtain ⟨k, old⟩ := entry
    have hcases : other = key ∨ other = k ∨ other ∈ keys rest := by simpa [keys] using h
    unfold insert
    split
    · rename_i hk
      simpa [keys, hk] using hcases
    · split
      · exact List.mem_cons.mpr h
      · rcases hcases with h | h | h
        · exact List.mem_cons_of_mem _ (ih (.inl h))
        · exact h ▸ List.mem_cons_self
        · exact List.mem_cons_of_mem _ (ih (.inr h))

theorem mem_keys_ofList {entries : List (String × α)} {key : String} :
    key ∈ keys (ofList entries) ↔ key ∈ entries.map (·.1) := by
  suffices hfold : ∀ d : Dict α, key ∈ keys (entries.foldl (fun d entry => insert d entry.1 entry.2) d) ↔
      key ∈ keys d ∨ key ∈ entries.map (·.1) from (hfold []).trans (or_iff_right List.not_mem_nil)
  induction entries with
  | nil => exact fun d => (or_iff_left List.not_mem_nil).symm
  | cons entry rest ih =>
    intro d
    have hinsert : key ∈ keys (insert d entry.1 entry.2) ↔ key = entry.1 ∨ key ∈ keys d :=
      ⟨mem_keys_insert, mem_keys_insert_of⟩
    rw [List.foldl_cons, ih, hinsert, List.map_cons, List.mem_cons, or_assoc, or_left_comm]

/-- A new entry is one more in the list. -/
theorem insert_perm {d : Dict α} {key : String} (h : key ∉ keys d) (v : α) : (insert d key v).Perm ((key, v) :: d) := by
  induction d with
  | nil => exact .refl _
  | cons entry rest ih =>
    obtain ⟨k, old⟩ := entry
    obtain ⟨hne, hrest⟩ : k ≠ key ∧ key ∉ keys rest := by simpa [keys, eq_comm] using h
    by_cases hlt : key < k
    · simp [insert, hne, hlt]
    · simp only [insert, hne, hlt, if_false]
      exact ((ih hrest).cons _).trans (.swap ..)

/-- Entries with different keys are all kept. -/
theorem ofList_perm {entries : List (String × α)} (h : (entries.map (·.1)).Nodup) : (ofList entries).Perm entries := by
  suffices hfold : ∀ d : Dict α, (keys (d ++ entries)).Nodup →
      (entries.foldl (fun d entry => insert d entry.1 entry.2) d).Perm (d ++ entries) from hfold [] h
  clear h
  induction entries with
  | nil => exact fun d _ => .of_eq (List.append_nil d).symm
  | cons entry rest ih =>
    intro d hkeys
    have hnew : entry.1 ∉ keys d := by
      rw [keys, List.map_append, List.map_cons, List.nodup_append] at hkeys
      exact fun hmem => hkeys.2.2 _ hmem _ List.mem_cons_self rfl
    have hperm : (insert d entry.1 entry.2 ++ rest).Perm (d ++ entry :: rest) :=
      ((insert_perm hnew entry.2).append_right rest).trans List.perm_middle.symm
    exact (ih _ ((hperm.map _).nodup_iff.mpr hkeys)).trans hperm

theorem sorted_insert {d : Dict α} (h : Sorted d) (key : String) (v : α) : Sorted (insert d key v) := by
  induction d with
  | nil => exact List.pairwise_singleton ..
  | cons entry rest ih =>
    obtain ⟨k, old⟩ := entry
    obtain ⟨hfirst, hrest⟩ := List.pairwise_cons.mp h
    unfold insert
    split
    · rename_i hk
      exact hk ▸ h
    · rename_i hk
      split
      · rename_i hlt
        refine List.pairwise_cons.mpr ⟨?_, h⟩
        intro other hother
        rcases List.mem_cons.mp hother with rfl | hother
        · exact hlt
        · exact String.lt_trans hlt (hfirst other hother)
      · rename_i hlt
        have hgt : k < key := Classical.byContradiction fun hnot => hk (String.le_antisymm hlt hnot)
        refine List.pairwise_cons.mpr ⟨?_, ih hrest⟩
        intro other hother
        rcases mem_keys_insert hother with rfl | hother
        · exact hgt
        · exact hfirst other hother

theorem sorted_ofList (entries : List (String × α)) : Sorted (ofList entries) := by
  suffices hfold : ∀ d : Dict α, Sorted d → Sorted (entries.foldl (fun d entry => insert d entry.1 entry.2) d) from
    hfold [] List.Pairwise.nil
  induction entries with
  | nil => exact fun d hd => hd
  | cons entry rest ih => exact fun d hd => ih _ (sorted_insert hd entry.1 entry.2)

/-- In a dictionary in order, a key that is there already keeps its place. -/
theorem keys_insert_of_mem {d : Dict α} {key : String} (hsorted : Sorted d) (h : key ∈ keys d) (v : α) :
    keys (insert d key v) = keys d := by
  induction d with
  | nil => cases h
  | cons entry rest ih =>
    obtain ⟨k, old⟩ := entry
    obtain ⟨hfirst, hrest⟩ := List.pairwise_cons.mp hsorted
    by_cases hk : k = key
    · simp [insert, hk, keys]
    · have hmem : key ∈ keys rest := (List.mem_cons.mp h).resolve_left (Ne.symm hk)
      have hlt : k < key := hfirst key hmem
      have hkeys : keys (insert rest key v) = keys rest := ih hrest hmem
      simpa [insert, hk, String.lt_asymm hlt, keys] using hkeys

/-- Dictionaries with the same keys and the same values are the same. -/
theorem ext_get? {d d' : Dict α} (hnodup : (keys d).Nodup) (hkeys : keys d = keys d')
    (h : ∀ key ∈ keys d, get? d key = get? d' key) : d = d' := by
  induction d generalizing d' with
  | nil => exact (List.map_eq_nil_iff.mp hkeys.symm).symm
  | cons entry rest ih =>
    obtain ⟨k, v⟩ := entry
    obtain ⟨⟨k', v'⟩, rest', rfl, hk, hrest⟩ := List.map_eq_cons_iff.mp hkeys.symm
    obtain rfl : k' = k := hk
    obtain ⟨hnot, hnodup⟩ := List.nodup_cons.mp hnodup
    have hv : v = v' := by simpa [get?] using h k' List.mem_cons_self
    have htail : rest = rest' := ih hnodup hrest.symm fun key hkey => by
      have hne : k' ≠ key := fun heq => hnot (heq ▸ hkey)
      simpa [get?, hne] using h key (List.mem_cons_of_mem _ hkey)
    rw [hv, htail]

theorem nodup_keys {d : Dict α} (h : Sorted d) : (keys d).Nodup := by
  refine List.Pairwise.imp ?_ h
  rintro k _ hlt rfl
  exact String.lt_irrefl k hlt

/-- Entries have one order. -/
theorem eq_of_perm {d d' : Dict α} (h : d.Perm d') (hsorted : Sorted d) (hsorted' : Sorted d') : d = d' := by
  refine h.eq_of_pairwise ?_ (List.pairwise_map.mp hsorted) (List.pairwise_map.mp hsorted')
  intro entry entry' _ _ hlt hgt
  exact absurd hgt (String.lt_asymm hlt)

theorem sorted_erase {d : Dict α} (h : Sorted d) (key : String) : Sorted (erase d key) :=
  List.Pairwise.sublist (List.filter_sublist.map _) h

theorem erase_comm (d : Dict α) (key other : String) : erase (erase d key) other = erase (erase d other) key := by
  simp only [erase, List.filter_filter, Bool.and_comm]

theorem insert_of_lt {d : Dict α} {key : String} (h : ∀ other ∈ keys d, key < other) (v : α) :
    insert d key v = (key, v) :: d := by
  cases d with
  | nil => rfl
  | cons entry rest =>
    have hlt : key < entry.1 := h entry.1 List.mem_cons_self
    have hne : entry.1 ≠ key := fun heq => String.lt_irrefl _ (heq ▸ hlt)
    simp [insert, hne, hlt]

/-- In a dictionary in order, a removal and an insertion of another key can change places. -/
theorem erase_insert_of_ne {d : Dict α} {key other : String} (hsorted : Sorted d) (h : key ≠ other) (v : α) :
    erase (insert d key v) other = insert (erase d other) key v := by
  induction d with
  | nil => simp [insert, erase, h]
  | cons entry rest ih =>
    obtain ⟨k, old⟩ := entry
    obtain ⟨hfirst, hrest⟩ := List.pairwise_cons.mp hsorted
    have hkeeps (x : α) (d : Dict α) : erase ((key, x) :: d) other = (key, x) :: erase d other := by simp [erase, h]
    by_cases hk : k = key
    · subst hk
      simp [insert, hkeeps]
    · by_cases hlt : key < k
      · -- All keys that are left come after the new one.
        have hafter : ∀ key' ∈ keys (erase ((k, old) :: rest) other), key < key' := by
          intro key' hkey'
          rcases List.mem_cons.mp ((List.filter_sublist.map _).subset hkey') with rfl | hmem
          · exact hlt
          · exact String.lt_trans hlt (hfirst key' hmem)
        rw [insert_of_lt hafter, show insert ((k, old) :: rest) key v = (key, v) :: (k, old) :: rest by
          simp [insert, hk, hlt], hkeeps]
      · have hinsert (d : Dict α) : insert ((k, old) :: d) key v = (k, old) :: insert d key v := by
          simp [insert, hk, hlt]
        by_cases hother : k = other
        · have hdrops (d : Dict α) : erase ((k, old) :: d) other = erase d other := by simp [erase, hother]
          rw [hinsert, hdrops, hdrops, ih hrest]
        · have hstays (d : Dict α) : erase ((k, old) :: d) other = (k, old) :: erase d other := by
            simp [erase, hother]
          rw [hinsert, hstays, hstays, hinsert, ih hrest]

/-- A value that was inserted goes with its key. -/
theorem erase_insert_self (d : Dict α) (key : String) (v : α) : erase (insert d key v) key = erase d key := by
  induction d with
  | nil => simp [insert, erase]
  | cons entry rest ih =>
    obtain ⟨k, old⟩ := entry
    by_cases hk : k = key
    · simp [insert, erase, hk]
    · by_cases hlt : key < k
      · simp [insert, erase, hk, hlt]
      · simpa [insert, erase, hk, hlt] using ih

theorem get?_erase_self (d : Dict α) (key : String) : get? (erase d key) key = none := by
  induction d with
  | nil => rfl
  | cons entry rest ih =>
    by_cases hk : entry.1 = key
    · simpa [erase, hk] using ih
    · simpa [erase, hk, get?] using ih

/-- What is kept is found as before. -/
theorem get?_filter {p : String × α → Bool} {key : String} (hp : ∀ v, p (key, v) = true) (d : Dict α) :
    get? (d.filter p) key = get? d key := by
  induction d with
  | nil => rfl
  | cons entry rest ih =>
    obtain ⟨k, v⟩ := entry
    by_cases hk : k = key
    · simp [hk, hp, get?]
    · by_cases hkept : p (k, v) = true <;> simp [hkept, hk, get?, ih]

theorem get?_erase_of_ne (d : Dict α) {key other : String} (h : key ≠ other) :
    get? (erase d key) other = get? d other :=
  get?_filter (by simp [h.symm]) d

/-- Entries with different keys are found as they are listed. -/
theorem get?_ofList {entries : List (String × α)} (h : (entries.map (·.1)).Nodup) (key : String) :
    get? (ofList entries) key = get? entries key := by
  ext v
  rw [get?_eq_some_iff (nodup_keys (sorted_ofList entries)), get?_eq_some_iff h, (ofList_perm h).mem_iff]

end RecordScreens.Dict
