import RecordScreens.Proofs.Listing.Params
import RecordScreens.Query.Paged
import RecordScreens.Record.Dynamic
import RecordScreens.Source.Store

/-!
# Page after page

A list that is asked for page by page arrives whole. The parameters reach the store as
they were meant, the store cuts its list where one page ends and the next one begins, and
each answer is read back as the page that it is.
-/

namespace RecordScreens

/-! ## Answers of the store -/

namespace Store

variable {s : Store} {key collection : String} {fields : List String} {p : ListParams} {params : Json}

theorem call_list (hroute : Dict.get? s.routes key = some (.list collection fields))
    (hp : ListParams.decode p.toQuery = some p) :
    (call key p.toQuery s).1 = .ok (Source.page fields p (s.records collection)) := by
  simp [call, hroute, lookUp, hp]

/-- A list query leaves nothing but its entry in the log. -/
theorem call_list_after (hroute : Dict.get? s.routes key = some (.list collection fields)) :
    (call key params s).2 = { s with calls := s.calls ++ [(key, params)] } := by
  simp [call, hroute, collectionsAfter]

end Store

theorem mapM_eq_some {α β : Type} {f : α → Option β} {l : List α} {bs : List β} :
    l.mapM f = some bs ↔ l.map f = bs.map some := by
  induction l generalizing bs with
  | nil => cases bs <;> simp
  | cons a rest ih =>
    rw [List.mapM_cons, List.map_cons, eq_comm (b := bs.map some), List.map_eq_cons_iff]
    simp only [Option.bind_eq_bind, Option.bind_eq_some_iff, ih, Option.pure_def, Option.some.injEq]
    constructor
    · rintro ⟨b, hb, bs, hbs, rfl⟩
      exact ⟨b, bs, rfl, hb.symm, hbs.symm⟩
    · rintro ⟨b, bs, rfl, hb, hbs⟩
      exact ⟨b, hb.symm, bs, hbs.symm, rfl⟩

theorem mapM_eq_some_self {α : Type} {f : α → Option α} {items : List α} (h : ∀ a ∈ items, f a = some a) :
    items.mapM f = some items :=
  mapM_eq_some.mpr (List.map_congr_left h)

namespace Source

variable {fields : List String} {p : ListParams} {records : List Json}

/-- The order of a query has no bearing on what it finds. -/
theorem found_perm (fields : List String) (p : ListParams) (records : List Json) :
    (found fields p records).Perm (records.filter (matchesAll fields p.filters)) := by
  unfold found
  simp only
  split
  · exact .refl _
  · split
    · exact List.mergeSort_perm _ _
    · exact (List.reverse_perm _).trans (List.mergeSort_perm _ _)

theorem length_found : (found fields p records).length = records.countP (matchesAll fields p.filters) := by
  rw [(found_perm fields p records).length_eq, List.countP_eq_length_filter]

theorem mem_of_mem_stretch {α : Type} {offset : Nat} {limit : Option Nat} {items : List α} {a : α}
    (h : a ∈ stretch offset limit items) : a ∈ items := by
  unfold stretch at h
  split at h
  · exact List.mem_of_mem_drop (List.mem_of_mem_take h)
  · exact List.mem_of_mem_drop h

/-- The answer with a page is read as that page if every record of it is read. -/
theorem ofAnswer_page (key : String) {fullForm? : Json → Option Json} {items : List Json}
    (hread : (stretch p.offset p.limit (found fields p records)).mapM fullForm? = some items) :
    Page.ofAnswer key fullForm? p.offset (page fields p records) =
      .ok { items, total := (found fields p records).length, offset := p.offset } := by
  simp [Page.ofAnswer, page, Json.ofMembers, Dict.ofList, Dict.get?_insert, hread, Json.ofNat, Json.asNat?]

@[simp] theorem get?_items_page (fields : List String) (p : ListParams) (records : List Json) :
    (page fields p records).get? "items" = some (.array (stretch p.offset p.limit (found fields p records))) := by
  simp [page, Json.ofMembers, Json.get?, Dict.ofList, Dict.get?_insert]

theorem mem_of_mem_page {r : Json} (h : r ∈ stretch p.offset p.limit (found fields p records)) : r ∈ records :=
  (List.mem_filter.mp ((found_perm fields p records).mem_iff.mp (mem_of_mem_stretch h))).1

/-! ## Stretches of a list -/

variable {α : Type} {n : Nat}

theorem length_stretch (k : Nat) (items : List α) :
    (stretch (k * n) (some n) items).length = min n (items.length - k * n) := by
  simp [stretch]

/-- The first pages of a list hold its first values. -/
theorem flatMap_stretch (count : Nat) (items : List α) :
    (List.range count).flatMap (fun k => stretch (k * n) (some n) items) = items.take (count * n) := by
  induction count with
  | zero => simp
  | succ count ih =>
    simp only [List.range_succ, List.flatMap_append, ih, Nat.succ_mul, List.take_add]
    simp [stretch]

end Source

/-- The items of a page are all items of the answer, each in its full form. -/
theorem Page.items_of_ofAnswer {key : String} {fullForm? : Json → Option Json} {offset : Nat} {answer : Json}
    {page : Page Json} (h : ofAnswer key fullForm? offset answer = .ok page) :
    ∃ items, answer.get? "items" = some (.array items) ∧ items.map fullForm? = page.items.map some := by
  unfold ofAnswer at h
  split at h
  · rename_i members
    split at h
    · cases h
    · rename_i items hitems
      cases hread : items.mapM fullForm? with
      | none =>
        rw [hread] at h
        cases h
      | some forms =>
        rw [hread] at h
        cases h
        exact ⟨items, hitems, mapM_eq_some.mp hread⟩
    · cases h
  · cases h

/-- Pages below the number of pages, and no others, begin before the end of the list. -/
theorem Page.lt_pageCount_iff {α : Type} {p : Page α} {n k : Nat} (hn : 0 < n) :
    k < p.pageCount n ↔ k * n < p.total := by
  unfold pageCount
  rw [if_neg (Nat.ne_of_gt hn), Nat.lt_iff_add_one_le, Nat.le_div_iff_mul_le hn, Nat.succ_mul]
  omega

namespace ListQuery

variable {s : Store} {key collection : String} {fields : List String}

/-- Whatever a query asks a list route for, it reads the stretch that the route takes that for. -/
theorem items_of_read {q : ListQuery} {p : ListParams} {params : Json}
    (hroute : Dict.get? s.routes q.key = some (.list collection fields)) {page : Page Json}
    (h : q.read p (Store.call q.key params s).1 = .ok page) :
    ∃ asked, ListParams.decode params = some asked ∧
      (Source.stretch asked.offset asked.limit (Source.found fields asked (s.records collection))).map q.fullForm? =
        page.items.map some := by
  simp only [read, Store.call, hroute, Store.lookUp] at h
  split at h
  · rename_i asked hasked
    have hpage : Page.ofAnswer q.key q.fullForm? p.offset (Source.page fields asked (s.records collection)) =
        .ok page := h
    obtain ⟨items, hitems, hforms⟩ := Page.items_of_ofAnswer hpage
    rw [Source.get?_items_page] at hitems
    cases hitems
    exact ⟨asked, hasked, hforms⟩
  · cases h

/-- Whatever a query asks for, the items of the page are records of the collection. -/
theorem mem_of_read {q : ListQuery} {p : ListParams} {params : Json}
    (hroute : Dict.get? s.routes q.key = some (.list collection fields)) {page : Page Json}
    (h : q.read p (Store.call q.key params s).1 = .ok page) :
    ∀ item ∈ page.items, ∃ v ∈ s.records collection, q.fullForm? v = some item := by
  intro item hitem
  obtain ⟨asked, -, hforms⟩ := items_of_read hroute h
  obtain ⟨v, hv, hform⟩ := List.mem_map.mp (hforms ▸ List.mem_map_of_mem hitem)
  exact ⟨v, Source.mem_of_mem_page hv, hform⟩

/-- What a query reads from a store that lists a collection of objects. -/
theorem read_call {p : ListParams} (hroute : Dict.get? s.routes key = some (.list collection fields))
    (hobjects : ∀ r ∈ s.records collection, ∃ members, r = .object members)
    (hp : ListParams.decode p.toQuery = some p) :
    (ofRecords JsonRecord key).read p (Store.call key p.toQuery s).1 =
      .ok {
        items := Source.stretch p.offset p.limit (Source.found fields p (s.records collection))
        total := (s.records collection).countP (Source.matchesAll fields p.filters)
        offset := p.offset } := by
  let items := Source.stretch p.offset p.limit (Source.found fields p (s.records collection))
  have hread : items.mapM (Record.fullForm? JsonRecord) = some items := by
    refine mapM_eq_some_self fun r hr => ?_
    obtain ⟨members, rfl⟩ := hobjects r (Source.mem_of_mem_page hr)
    rfl
  rw [Store.call_list hroute hp, ← Source.length_found]
  exact Source.ofAnswer_page key hread

/-- A list that is asked for page by page, whatever was asked before, is the list that is asked for at once. The pages
agree on the number of matching records, each is as long as that leaves room for, and the number of pages and what comes
after a page say which pages hold records. -/
theorem pages_cover (hroute : Dict.get? s.routes key = some (.list collection fields))
    (hobjects : ∀ r ∈ s.records collection, ∃ members, r = .object members)
    (hsize : (s.records collection).length < Nat.pow 2 64) (filters : Json.Object) (sortBy : Option String)
    (sortOrder : SortOrder) {n : Nat} (hn : 0 < n) (hword : n < Nat.pow 2 64) :
    let base : ListParams := { filters, sortBy, sortOrder }
    let call (calls : List (String × Json)) (p : ListParams) := Store.call key p.toQuery { s with calls }
    let fetched (calls : List (String × Json)) (p : ListParams) := (ofRecords JsonRecord key).read p (call calls p).1
    let matching := (s.records collection).countP (Source.matchesAll fields filters)
    ∃ (whole : Page Json) (pages : Nat → Page Json),
      (∀ calls p, ∃ calls', (call calls p).2 = { s with calls := calls' }) ∧
      (∀ calls, fetched calls base = .ok whole) ∧
      (∀ calls k, k * n < Nat.pow 2 64 → fetched calls (base.page n (k * n)) = .ok (pages k)) ∧
      (∀ k < whole.pageCount n, k * n < Nat.pow 2 64) ∧
      (∀ count, whole.pageCount n ≤ count → (List.range count).flatMap (fun k => (pages k).items) = whole.items) ∧
      whole.total = matching ∧ (∀ k, (pages k).total = matching) ∧
      (∀ k, (pages k).items.length = min n (matching - k * n)) ∧
      (∀ j k, (pages k).isEmpty = false ↔ k < (pages j).pageCount n) ∧
      ∀ k, (pages k).hasMore = true ↔ k + 1 < (pages k).pageCount n := by
  intro base call fetched matching
  let all := Source.found fields base (s.records collection)
  have hlength : all.length = matching := Source.length_found
  let whole : Page Json := { items := all, total := matching, offset := 0 }
  let pages (k : Nat) : Page Json :=
    { items := Source.stretch (k * n) (some n) all, total := matching, offset := k * n }
  have hitems (k : Nat) : (pages k).items.length = min n (matching - k * n) := by
    rw [← hlength]
    exact Source.length_stretch k all
  have hcount (k : Nat) : k < whole.pageCount n ↔ k * n < matching := Page.lt_pageCount_iff hn
  refine ⟨whole, pages, fun calls p => ?_, fun calls => ?_, fun calls k hk => ?_, fun k hk => ?_, fun count hall => ?_,
    rfl, fun k => rfl, hitems, fun j k => ?_, fun k => ?_⟩
  · exact ⟨_, Store.call_list_after hroute⟩
  · exact read_call hroute hobjects (ListParams.decode_toQuery ⟨nofun, Nat.two_pow_pos 64⟩)
  · refine read_call hroute hobjects (ListParams.decode_toQuery ⟨fun limit hlimit => ?_, hk⟩)
    cases hlimit
    exact hword
  · have hbelow : matching ≤ (s.records collection).length := List.countP_le_length
    exact Nat.lt_of_lt_of_le ((hcount k).mp hk) (Nat.le_trans hbelow (Nat.le_of_lt hsize))
  · have hend : matching ≤ count * n := Nat.le_of_not_lt fun h => Nat.not_le_of_lt ((hcount count).mpr h) hall
    exact (Source.flatMap_stretch count all).trans (List.take_of_length_le (hlength ▸ hend))
  · have hfirst : k < (pages j).pageCount n ↔ k * n < matching := Page.lt_pageCount_iff hn
    have hempty : (pages k).isEmpty = false ↔ 0 < (pages k).items.length := by
      simp [Page.isEmpty, List.length_pos_iff]
    rw [hempty, hitems, hfirst]
    omega
  · have hnext : k + 1 < (pages k).pageCount n ↔ (k + 1) * n < matching := Page.lt_pageCount_iff hn
    have hmore : (pages k).hasMore = true ↔ k * n + (pages k).items.length < matching := by
      simp [Page.hasMore, pages]
    rw [hmore, hnext, hitems, Nat.succ_mul]
    omega

/-- Four deals, of which three are open, under a list. -/
def deals : Store where
  collections := [("deals", [("a", "open"), ("b", "won"), ("c", "open"), ("d", "open")].map fun deal =>
    .object [("id", .string deal.1), ("stage", .string deal.2)])]
  routes := [("deals", .list "deals" ["id"])]

/-- The open deals two by two, the last one first: a full page and one with what is left. -/
theorem pages_cover_deals :
    let base : ListParams := { filters := [("stage", .string "open")], sortBy := some "id", sortOrder := .desc }
    let fetched (p : ListParams) := (ofRecords JsonRecord "deals").read p (Store.call "deals" p.toQuery deals).1
    Dict.get? deals.routes "deals" = some (.list "deals" ["id"]) ∧
      (∀ r ∈ deals.records "deals", ∃ members, r = .object members) ∧ (deals.records "deals").length < Nat.pow 2 64 ∧
      ∃ whole first second : Page Json, fetched base = .ok whole ∧ fetched (base.page 2 0) = .ok first ∧
        fetched (base.page 2 2) = .ok second ∧ first.items ++ second.items = whole.items ∧ first.items.length = 2 ∧
        second.items.length = 1 ∧ first.hasMore = true ∧ second.hasMore = false := by
  intro base fetched
  have hobjects : ∀ r ∈ deals.records "deals", ∃ members, r = .object members := by
    intro r hr
    obtain ⟨deal, -, rfl⟩ := List.mem_map.mp hr
    exact ⟨_, rfl⟩
  have hroute : Dict.get? deals.routes "deals" = some (.list "deals" ["id"]) := rfl
  obtain ⟨whole, pages, -, hwhole, hpages, -, hcover, htotal, htotals, hlengths, -, hmore⟩ :=
    pages_cover (n := 2) hroute hobjects (by decide) [("stage", .string "open")] (some "id") .desc (by decide)
      (by decide)
  have hmatching : (deals.records "deals").countP (Source.matchesAll ["id"] [("stage", .string "open")]) = 3 := rfl
  refine ⟨hroute, hobjects, by decide, whole, pages 0, pages 1, hwhole [], hpages [] 0 (by decide),
    hpages [] 1 (by decide), ?_, ?_, ?_, ?_, ?_⟩
  · simpa [List.range_succ] using hcover 2 (by simp [Page.pageCount, htotal, hmatching])
  · simp [hlengths, hmatching]
  · simp [hlengths, hmatching]
  · simp [hmore, Page.pageCount, htotals, hmatching]
  · simpa [Page.pageCount, htotals, hmatching] using hmore 1

end ListQuery

end RecordScreens
