import RecordScreens.Failure.Config

/-!
# Checks that pass

What is known of a chain of checks, each of which may stop it with an error, once it has
come to its end.
-/

namespace RecordScreens

variable {ε α β : Type}

theorem bind_eq_ok {x : Except ε α} {f : α → Except ε β} {b : β} :
    x.bind f = .ok b ↔ ∃ a, x = .ok a ∧ f a = .ok b := by
  cases x with
  | ok a => simp [Except.bind]
  | error e => simp [Except.bind]

/-! ## Lists -/

section

variable {l : List α}

theorem filterAuxM_eq_ok {f : α → Except ε Bool} {p : α → Bool} (h : ∀ a ∈ l, f a = .ok (p a))
    (found : List α) : l.filterAuxM f found = .ok ((l.filter p).reverse ++ found) := by
  induction l generalizing found with
  | nil => rfl
  | cons a rest ih =>
    obtain ⟨ha, hrest⟩ := List.forall_mem_cons.mp h
    unfold List.filterAuxM
    rw [ha]
    refine (ih hrest _).trans ?_
    cases hp : p a <;> simp [hp]

theorem filterM_eq_ok {f : α → Except ε Bool} {p : α → Bool} (h : ∀ a ∈ l, f a = .ok (p a)) :
    l.filterM f = .ok (l.filter p) := by
  unfold List.filterM
  rw [filterAuxM_eq_ok h]
  show Except.ok _ = Except.ok _
  rw [List.append_nil, List.reverse_reverse]

theorem mapM_eq_ok {f : α → Except ε β} {g : α → β} (h : ∀ a ∈ l, f a = .ok (g a)) :
    l.mapM f = .ok (l.map g) := by
  induction l with
  | nil => rfl
  | cons a rest ih =>
    obtain ⟨ha, hrest⟩ := List.forall_mem_cons.mp h
    rw [List.mapM_cons, ha, ih hrest]
    rfl

/-- Where all failures are the same, one of them is what is answered. -/
theorem mapM_eq_error {f : α → Except ε β} {e : ε} (hall : ∀ a ∈ l, (∃ b, f a = .ok b) ∨ f a = .error e)
    (hsome : ∃ a ∈ l, f a = .error e) : l.mapM f = .error e := by
  induction l with
  | nil => exact absurd hsome (by simp)
  | cons a rest ih =>
    obtain ⟨ha, hrest⟩ := List.forall_mem_cons.mp hall
    rw [List.mapM_cons]
    rcases ha with ⟨b, hb⟩ | he
    · obtain ⟨failing, hmem, hfails⟩ := hsome
      have hne : failing ≠ a := by
        rintro rfl
        cases hb.symm.trans hfails
      rw [hb, ih hrest ⟨failing, List.mem_of_ne_of_mem hne hmem, hfails⟩]
      rfl
    · rw [he]
      rfl

theorem length_of_mapM {f : α → Except ε β} {bs : List β} (h : l.mapM f = .ok bs) : bs.length = l.length := by
  induction l generalizing bs with
  | nil =>
    cases h
    rfl
  | cons a rest ih =>
    rw [List.mapM_cons] at h
    obtain ⟨_, -, h⟩ := bind_eq_ok.mp h
    obtain ⟨bs', hbs', h⟩ := bind_eq_ok.mp h
    cases h
    exact congrArg (· + 1) (ih hbs')

theorem exists_of_mem_mapM {f : α → Except ε β} {bs : List β} {b : β} (h : l.mapM f = .ok bs) (hb : b ∈ bs) :
    ∃ a ∈ l, f a = .ok b := by
  induction l generalizing bs with
  | nil =>
    cases h
    cases hb
  | cons a rest ih =>
    rw [List.mapM_cons] at h
    obtain ⟨b', hb', h⟩ := bind_eq_ok.mp h
    obtain ⟨bs', hbs', h⟩ := bind_eq_ok.mp h
    cases h
    rcases List.mem_cons.mp hb with rfl | hb
    · exact ⟨a, List.mem_cons_self, hb'⟩
    · obtain ⟨a', ha', hb⟩ := ih hbs' hb
      exact ⟨a', List.mem_cons_of_mem a ha', hb⟩

end

/-! ## Configurations -/

namespace ConfigError

theorem ensure_eq_ok {fault : ConfigError} {holds : Bool} {u : Unit} :
    ensure fault holds = .ok u ↔ holds = true := by
  cases holds <;> simp [ensure]

theorem require_eq_ok {config field : String} {value : Option α} {a : α} :
    require config field value = .ok a ↔ value = some a := by
  cases value <;> simp [require]

end ConfigError

theorem ensureUnique_go_eq_ok {kind : String} {seen ids : List String} {u : Unit} :
    ensureUnique.go kind seen ids = .ok u ↔ ids.Nodup ∧ ∀ id ∈ ids, id ∉ seen := by
  induction ids generalizing seen with
  | nil => simp [ensureUnique.go]
  | cons id rest ih =>
    unfold ensureUnique.go
    split
    · rename_i hid
      simp [hid]
    · rename_i hid
      rw [ih, List.nodup_cons, List.forall_mem_cons]
      grind

/-- The check of ids passes just for ids that differ. -/
theorem ensureUnique_eq_ok {kind : String} {ids : List String} {u : Unit} :
    ensureUnique kind ids = .ok u ↔ ids.Nodup := by
  unfold ensureUnique
  simp [ensureUnique_go_eq_ok]

end RecordScreens
