import Mathlib.Algebra.Ring.Nat
import Mathlib.Data.List.Forall2
import Mathlib.Data.List.Induction
import Mathlib.Order.Bounds.Basic
import RecordScreens.Proofs.Failure.Checks
import RecordScreens.Proofs.Text.Blank
import RecordScreens.View.Layout

/-!
# Tables

In a table each column is as wide as its longest text, and in every line the cell of a column stands
where that column starts. A table with a column that is too wide is not laid out at all.
-/

namespace RecordScreens.Layout

variable {headers cells : List String} {rows : List (List String)} {ws : List Nat} {cell : String} {i w : Nat}

/-! ## Widths -/

/-- How long the texts in one column of some lines are. -/
def cellLengths (lines : List (List String)) (i : Nat) : Set Nat :=
  {n | ∃ cells ∈ lines, ∃ cell, cells[i]? = some cell ∧ cell.length = n}

theorem cellLengths_singleton (hcell : cells[i]? = some cell) : cellLengths [cells] i = {cell.length} := by
  ext n
  simp [cellLengths, hcell, eq_comm]

theorem cellLengths_concat_of_some (lines : List (List String)) (hcell : cells[i]? = some cell) :
    cellLengths (lines ++ [cells]) i = insert cell.length (cellLengths lines i) := by
  ext n
  simp only [cellLengths, List.mem_append, List.mem_singleton, Set.mem_ofPred_eq, Set.mem_insert_iff]
  constructor
  · rintro ⟨line, hline | rfl, c, hc, rfl⟩
    · exact .inr ⟨line, hline, c, hc, rfl⟩
    · exact .inl (by rw [Option.some.inj (hc.symm.trans hcell)])
  · rintro (rfl | ⟨line, hline, c, hc, rfl⟩)
    · exact ⟨cells, .inr rfl, cell, hcell, rfl⟩
    · exact ⟨line, .inl hline, c, hc, rfl⟩

theorem cellLengths_concat_of_none (lines : List (List String)) (hcell : cells[i]? = none) :
    cellLengths (lines ++ [cells]) i = cellLengths lines i := by
  ext n
  simp only [cellLengths, List.mem_append, List.mem_singleton, Set.mem_ofPred_eq]
  constructor
  · rintro ⟨line, hline | rfl, c, hc, rfl⟩
    · exact ⟨line, hline, c, hc, rfl⟩
    · cases hcell.symm.trans hc
  · rintro ⟨line, hline, c, hc, rfl⟩
    exact ⟨line, .inl hline, c, hc, rfl⟩

theorem length_widen (ws : List Nat) (cells : List String) : (widen ws cells).length = ws.length := by
  fun_induction widen ws cells with
  | case1 w ws cell cells ih => rw [List.length_cons, List.length_cons, ih]
  | case2 => rfl

theorem getElem?_widen_of_some (hcell : cells[i]? = some cell) :
    (widen ws cells)[i]? = ws[i]?.map (max · cell.length) := by
  fun_induction widen ws cells generalizing i with
  | case1 w ws first cells ih =>
    cases i with
    | zero =>
      cases hcell
      rfl
    | succ i => exact ih hcell
  | case2 ws cells hshort =>
    cases ws with
    | nil => rfl
    | cons w ws =>
      cases cells with
      | nil => cases hcell
      | cons first rest => exact absurd rfl (hshort w ws first rest rfl)

theorem getElem?_widen_of_none (hcell : cells[i]? = none) : (widen ws cells)[i]? = ws[i]? := by
  fun_induction widen ws cells generalizing i with
  | case1 w ws first cells ih =>
    cases i with
    | zero => cases hcell
    | succ i => exact ih hcell
  | case2 => rfl

/-- Cells without a width count for nothing. -/
theorem widen_take (ws : List Nat) (cells : List String) : widen ws (cells.take ws.length) = widen ws cells := by
  fun_induction widen ws cells with
  | case1 w ws cell cells ih => rw [List.length_cons, List.take_succ_cons, widen, ih]
  | case2 ws cells hshort =>
    cases ws with
    | nil => rfl
    | cons w ws =>
      cases cells with
      | nil => rfl
      | cons cell cells => exact absurd rfl (hshort w ws cell cells rfl)

theorem widths_concat (headers : List String) (rows : List (List String)) (row : List String) :
    widths headers (rows ++ [row]) = widen (widths headers rows) row := by
  unfold widths
  rw [List.foldl_concat]

theorem length_widths (headers : List String) (rows : List (List String)) :
    (widths headers rows).length = headers.length := by
  induction rows using List.reverseRecOn with
  | nil => exact List.length_map _
  | append_singleton rows row ih => rw [widths_concat, length_widen, ih]

theorem widths_take (headers : List String) (rows : List (List String)) :
    widths headers (rows.map (·.take headers.length)) = widths headers rows := by
  induction rows using List.reverseRecOn with
  | nil => rfl
  | append_singleton rows row ih =>
    rw [List.map_append, List.map_singleton, widths_concat, widths_concat, ih, ← length_widths headers rows, widen_take]

/-- A column is as wide as its longest text. -/
theorem isGreatest_widths (h : (widths headers rows)[i]? = some w) :
    IsGreatest (cellLengths (headers :: rows) i) w := by
  induction rows using List.reverseRecOn generalizing w with
  | nil =>
    obtain ⟨header, hheader, rfl⟩ := Option.map_eq_some_iff.mp (List.getElem?_map ▸ h)
    rw [cellLengths_singleton hheader]
    exact isGreatest_singleton
  | append_singleton rows row ih =>
    rw [widths_concat] at h
    rw [← List.cons_append]
    cases hcell : row[i]? with
    | none =>
      rw [getElem?_widen_of_none hcell] at h
      rw [cellLengths_concat_of_none _ hcell]
      exact ih h
    | some cell =>
      rw [getElem?_widen_of_some hcell] at h
      obtain ⟨old, hold, rfl⟩ := Option.map_eq_some_iff.mp h
      rw [cellLengths_concat_of_some _ hcell, max_comm]
      exact (ih hold).insert _

/-- A text that is too long makes its column too wide. -/
theorem exists_tooWide (hcells : cells ∈ headers :: rows) (hcell : cells[i]? = some cell) (hi : i < headers.length)
    (hlong : greatestWidth < cell.length) : ∃ w ∈ widths headers rows, greatestWidth < w := by
  have hcolumn : i < (widths headers rows).length := length_widths headers rows ▸ hi
  have hw : (widths headers rows)[i]? = some (widths headers rows)[i] := List.getElem?_eq_getElem hcolumn
  have hle : cell.length ≤ (widths headers rows)[i] := (isGreatest_widths hw).2 ⟨cells, hcells, cell, hcell, rfl⟩
  exact ⟨_, List.getElem_mem hcolumn, Nat.lt_of_lt_of_le hlong hle⟩

/-- The cells of a line fit the widths of their columns. -/
def Fits (ws : List Nat) (cells : List String) : Prop := ∀ p ∈ cells.zip ws, p.1.length ≤ p.2

theorem fits_widths (h : cells ∈ headers :: rows) : Fits (widths headers rows) cells := by
  rintro ⟨cell, w⟩ hp
  obtain ⟨i, hi⟩ := List.getElem?_of_mem hp
  obtain ⟨hcell, hw⟩ := List.getElem?_zip_eq_some.mp hi
  exact (isGreatest_widths hw).2 ⟨cells, h, cell, hcell, rfl⟩

/-! ## Columns -/

/-- Where a column starts: after those before it, each with a gap. -/
def columnStart (ws : List Nat) (i : Nat) : Nat := ((ws.take i).map (· + 2)).sum

theorem columnStart_cons (w : Nat) (ws : List Nat) (i : Nat) :
    columnStart (w :: ws) (i + 1) = w + 2 + columnStart ws i := by
  simp [columnStart]

/-- Each text stands where its column starts. Between two texts there is a gap, and after the last one nothing. -/
structure Aligned (ws : List Nat) (texts : List (List Char)) (line : List Char) : Prop where
  stands : ∀ i text, texts[i]? = some text → ∃ before after, line = before ++ (text ++ after) ∧
    before.length = columnStart ws i ∧ (i + 1 < texts.length → columnGap.toList <+: after) ∧
    (i + 1 = texts.length → after = [])
  empty : texts = [] → line = []

theorem aligned_intercalate {texts : List (List Char)} (h : texts.map List.length <+: ws) :
    Aligned ws texts (columnGap.toList.intercalate texts) := by
  induction texts generalizing ws with
  | nil => exact ⟨nofun, fun _ => rfl⟩
  | cons first rest ih =>
    obtain ⟨w, later, rfl⟩ : ∃ w later, ws = w :: later := by
      cases ws with
      | nil => simp at h
      | cons w later => exact ⟨w, later, rfl⟩
    obtain ⟨hfirst, hrest⟩ := List.cons_prefix_cons.mp h
    refine ⟨fun i text htext => ?_, nofun⟩
    by_cases hlast : rest = []
    · subst hlast
      cases i with
      | zero =>
        cases htext
        exact ⟨[], [], by simp, rfl, by simp, fun _ => rfl⟩
      | succ i => cases htext
    · rw [List.intercalate_cons_of_ne_nil hlast]
      cases i with
      | zero =>
        cases htext
        refine ⟨[], columnGap.toList ++ columnGap.toList.intercalate rest, by simp, rfl,
          fun _ => List.prefix_append _ _, fun hone => ?_⟩
        exact absurd (List.length_eq_zero_iff.mp (by simpa using hone.symm)) hlast
      | succ i =>
        obtain ⟨before, after, hline, hstart, hgap, hend⟩ := (ih hrest).stands i text htext
        refine ⟨first ++ columnGap.toList ++ before, after, by simp [hline], ?_, fun hi => hgap (by simpa using hi),
          fun hi => hend (by simpa using hi)⟩
        rw [columnStart_cons, List.length_append, List.length_append, hstart, hfirst]
        rfl

/-! ## Lines -/

/-- What stands in the columns of a line. -/
def columnTexts (ws : List Nat) (cells : List String) : List (List Char) :=
  (cells.zip ws).map fun p => p.1.toList ++ List.replicate (p.2 - p.1.length) ' '

/-- The cells stand in their columns, each filled up with blanks, but for the blanks at the end of the line. -/
def ShowsCells (ws : List Nat) (cells : List String) (line : String) : Prop :=
  ∃ whole : String, Aligned ws (columnTexts ws cells) whole.toList ∧ Text.TrimsEnd whole line

/-- The line of some cells, where no column is too wide. -/
def lineText (ws : List Nat) (cells : List String) : String :=
  Text.trimEnd (String.intercalate columnGap ((cells.zip ws).map fun p => filled p.2 p.1))

theorem toList_filled (w : Nat) (cell : String) :
    (filled w cell).toList = cell.toList ++ List.replicate (w - cell.length) ' ' := by
  simp [filled]

theorem toList_intercalate_filled (ws : List Nat) (cells : List String) :
    (String.intercalate columnGap ((cells.zip ws).map fun p => filled p.2 p.1)).toList =
      columnGap.toList.intercalate (columnTexts ws cells) := by
  rw [String.toList_intercalate, List.map_map]
  exact congrArg _ (List.map_congr_left fun p _ => toList_filled p.2 p.1)

theorem lengths_columnTexts (h : Fits ws cells) : (columnTexts ws cells).map List.length <+: ws := by
  have hlengths : (columnTexts ws cells).map List.length = (cells.zip ws).map (·.2) := by
    unfold columnTexts
    rw [List.map_map]
    refine List.map_congr_left fun p hp => ?_
    have hfit : p.1.length ≤ p.2 := h p hp
    show (p.1.toList ++ List.replicate (p.2 - p.1.length) ' ').length = p.2
    rw [List.length_append, String.length_toList, List.length_replicate]
    omega
  rw [hlengths, List.zip_eq_zip_take_min, List.map_snd_zip (by simp)]
  exact List.take_prefix _ _

theorem showsCells_lineText (h : Fits ws cells) : ShowsCells ws cells (lineText ws cells) :=
  ⟨_, toList_intercalate_filled ws cells ▸ aligned_intercalate (lengths_columnTexts h), Text.trimsEnd_trimEnd _⟩

theorem line_eq_ok (h : ∀ w ∈ ws, w ≤ greatestWidth) (cells : List String) :
    line ws cells = .ok (lineText ws cells) := by
  have hpad : ∀ p ∈ cells.zip ws, pad p.2 p.1 = .ok (filled p.2 p.1) := fun p hp =>
    if_pos (h _ (List.of_mem_zip hp).2)
  unfold line
  rw [mapM_eq_ok hpad]
  rfl

theorem line_headers_eq_error (h : ∃ w ∈ ws, greatestWidth < w) (hlength : ws.length = headers.length) :
    line ws headers = .error tooWide := by
  have hall : ∀ p ∈ headers.zip ws, (∃ padded, pad p.2 p.1 = .ok padded) ∨ pad p.2 p.1 = .error tooWide := by
    intro p _
    unfold pad
    split
    · exact .inl ⟨_, rfl⟩
    · exact .inr rfl
  obtain ⟨w, hw, hwide⟩ := h
  rw [← List.map_snd_zip (Nat.le_of_eq hlength)] at hw
  obtain ⟨p, hp, rfl⟩ := List.mem_map.mp hw
  have hfails : pad p.2 p.1 = .error tooWide := if_neg (Nat.not_le.mpr hwide)
  unfold line
  rw [mapM_eq_error hall ⟨p, hp, hfails⟩]
  rfl

/-- Cells without a width are not shown. -/
theorem line_take (ws : List Nat) (cells : List String) : line ws (cells.take ws.length) = line ws cells := by
  have hzip : (cells.take ws.length).zip ws = cells.zip ws := by
    induction cells generalizing ws with
    | nil => rw [List.take_nil]
    | cons cell cells ih =>
      cases ws with
      | nil => rfl
      | cons w ws => rw [List.length_cons, List.take_succ_cons, List.zip_cons_cons, List.zip_cons_cons, ih]
  unfold line
  rw [hzip]

theorem aligned_rule (ws : List Nat) : Aligned ws (ws.map (List.replicate · '-')) (rule ws).toList := by
  unfold rule
  rw [String.toList_intercalate, List.map_map]
  have htexts : ws.map (String.toList ∘ fun w => String.ofList (List.replicate w '-')) =
      ws.map (List.replicate · '-') :=
    List.map_congr_left fun w _ => String.toList_ofList
  rw [htexts]
  refine aligned_intercalate ?_
  simp [Function.comp_def]

/-! ## Line breaks -/

theorem notMem_intercalate {c : Char} {gap : List Char} {texts : List (List Char)} (hgap : c ∉ gap)
    (h : ∀ text ∈ texts, c ∉ text) : c ∉ gap.intercalate texts := by
  induction texts with
  | nil => simp
  | cons first rest ih =>
    obtain ⟨hfirst, hrest⟩ := List.forall_mem_cons.mp h
    by_cases hlast : rest = []
    · simpa [hlast] using hfirst
    · rw [List.intercalate_cons_of_ne_nil hlast]
      simp only [List.mem_append, not_or]
      exact ⟨⟨hfirst, hgap⟩, ih hrest⟩

theorem break_notMem_lineText (h : ∀ cell ∈ cells, '\n' ∉ cell.toList) : '\n' ∉ (lineText ws cells).toList := by
  obtain ⟨⟨after, hwhole, -⟩, -⟩ := Text.trimsEnd_trimEnd
    (String.intercalate columnGap ((cells.zip ws).map fun p => filled p.2 p.1))
  rw [toList_intercalate_filled] at hwhole
  intro hline
  have hmem := hwhole ▸ List.mem_append_left after hline
  refine notMem_intercalate (by decide) (fun text htext => ?_) hmem
  obtain ⟨p, hp, rfl⟩ := List.mem_map.mp htext
  rw [List.mem_append, not_or, List.mem_replicate]
  exact ⟨h _ (List.of_mem_zip hp).1, fun hblank => absurd hblank.2 (by decide)⟩

theorem break_notMem_rule (ws : List Nat) : '\n' ∉ (rule ws).toList := by
  unfold rule
  rw [String.toList_intercalate, List.map_map]
  refine notMem_intercalate (by decide) fun text htext => ?_
  obtain ⟨w, -, rfl⟩ := List.mem_map.mp htext
  simp

/-! ## Tables -/

/-- The text of a table, where no column is too wide. -/
theorem table_eq_ok (h : ∀ w ∈ widths headers rows, w ≤ greatestWidth) :
    table headers rows = .ok (String.intercalate "\n" (lineText (widths headers rows) headers ::
      rule (widths headers rows) :: rows.map (lineText (widths headers rows)))) := by
  unfold table
  simp only
  rw [line_eq_ok h, mapM_eq_ok fun cells _ => line_eq_ok h cells]
  rfl

theorem table_eq_error (h : ∃ w ∈ widths headers rows, greatestWidth < w) : table headers rows = .error tooWide := by
  unfold table
  simp only
  rw [line_headers_eq_error h (length_widths headers rows)]
  rfl

theorem table_take (headers : List String) (rows : List (List String)) :
    table headers (rows.map (·.take headers.length)) = table headers rows := by
  have hline (cells : List String) :
      line (widths headers rows) (cells.take headers.length) = line (widths headers rows) cells := by
    rw [← length_widths headers rows, line_take]
  unfold table
  simp only [widths_take, List.mapM_map, Function.comp_def, hline]

/-- A table is laid out, or a column is too wide. -/
theorem table_cases (headers : List String) (rows : List (List String)) :
    (∃ text, table headers rows = .ok text) ∨ table headers rows = .error tooWide := by
  by_cases h : ∀ w ∈ widths headers rows, w ≤ greatestWidth
  · exact .inl ⟨_, table_eq_ok h⟩
  · exact .inr (table_eq_error (by simpa using h))

theorem listRows_cases (rows : List RenderedRow) :
    (∃ text, listRows rows = .ok text) ∨ listRows rows = .error tooWide := by
  cases rows with
  | nil => exact .inl ⟨_, rfl⟩
  | cons first rest => exact table_cases _ _

/-- In a table each column is as wide as its longest text. If one is too wide, there is no table. Otherwise its lines
are the headers, a rule of dashes and the rows in order, and they can be told apart if no text has a line break; in each
of them the cells stand where their columns start, filled up with blanks but for those at the end of the line. Cells
without a header change nothing. -/
theorem table_columns_aligned (headers : List String) (rows : List (List String)) :
    let ws := widths headers rows
    (ws.length = headers.length ∧ ∀ i w, ws[i]? = some w → IsGreatest (cellLengths (headers :: rows) i) w) ∧
    ((∃ w ∈ ws, greatestWidth < w) → table headers rows = .error tooWide) ∧
    ((∀ w ∈ ws, w ≤ greatestWidth) → ∃ text head ruler body,
      table headers rows = .ok text ∧ text = String.intercalate "\n" (head :: ruler :: body) ∧
      ShowsCells ws headers head ∧ Aligned ws (ws.map (List.replicate · '-')) ruler.toList ∧
      List.Forall₂ (ShowsCells ws) rows body ∧
      ((∀ cells ∈ headers :: rows, ∀ cell ∈ cells, '\n' ∉ cell.toList) →
        text.toList.splitOn '\n' = (head :: ruler :: body).map String.toList)) ∧
    table headers (rows.map (·.take headers.length)) = table headers rows := by
  intro ws
  refine ⟨⟨length_widths headers rows, fun i w => isGreatest_widths⟩, table_eq_error, fun hnarrow => ?_,
    table_take headers rows⟩
  have hfits : ∀ cells ∈ headers :: rows, Fits ws cells := fun cells => fits_widths
  obtain ⟨hheaders, hrows⟩ := List.forall_mem_cons.mp hfits
  refine ⟨_, lineText ws headers, rule ws, rows.map (lineText ws), table_eq_ok hnarrow, rfl,
    showsCells_lineText hheaders, aligned_rule ws, ?_, fun hbreaks => ?_⟩
  · rw [List.forall₂_map_right_iff, List.forall₂_same]
    exact fun cells hcells => showsCells_lineText (hrows cells hcells)
  · obtain ⟨hhead, hbody⟩ := List.forall_mem_cons.mp hbreaks
    rw [String.toList_intercalate]
    refine List.splitOn_intercalate '\n' ?_ (by simp)
    simp only [List.map_cons, List.map_map, List.forall_mem_cons, List.forall_mem_map]
    exact ⟨break_notMem_lineText hhead, break_notMem_rule ws,
      fun cells hcells => break_notMem_lineText (hbody cells hcells)⟩

/-- A text with one character more than a column can hold. -/
def longText : String := String.ofList (List.replicate 65536 'x')

theorem exists_tooWide_longText : ∃ w ∈ widths ["Name"] [[longText]], greatestWidth < w := by
  have hlength : longText.length = 65536 := String.length_ofList.trans List.length_replicate
  have hlong : greatestWidth < longText.length := by
    rw [hlength]
    decide
  have hcells : [longText] ∈ ["Name"] :: [[longText]] := List.mem_cons_of_mem _ (List.mem_singleton_self _)
  have hcell : [longText][0]? = some longText := rfl
  exact exists_tooWide hcells hcell Nat.one_pos hlong

/-- The rows are of different lengths, the first one has a cell too many, and a second table is too wide. -/
theorem table_columns_aligned_ragged :
    let headers := ["ID", "Name"]
    let rows := [["c1", "日本語 ", "x"], [], ["", "Ada"]]
    let text := "ID  Name\n--  ----\nc1  日本語\n\n    Ada"
    widths headers rows = [2, 4] ∧ table headers rows = .ok text ∧
      (∃ head ruler body, text = String.intercalate "\n" (head :: ruler :: body) ∧ ShowsCells [2, 4] headers head ∧
        Aligned [2, 4] [['-', '-'], ['-', '-', '-', '-']] ruler.toList ∧ List.Forall₂ (ShowsCells [2, 4]) rows body ∧
        text.toList.splitOn '\n' = (head :: ruler :: body).map String.toList) ∧
      table ["Name"] [[longText]] = .error tooWide := by
  intro headers rows text
  obtain ⟨-, -, hlaid, -⟩ := table_columns_aligned headers rows
  obtain ⟨-, hwide, -, -⟩ := table_columns_aligned ["Name"] [[longText]]
  have hwidths : widths headers rows = [2, 4] := by decide
  have htext : table headers rows = .ok text := by decide +kernel
  have hnarrow : ∀ w ∈ widths headers rows, w ≤ greatestWidth := by decide
  have hbreaks : ∀ cells ∈ headers :: rows, ∀ cell ∈ cells, '\n' ∉ cell.toList := by decide
  obtain ⟨laid, head, ruler, body, htable, hlines, hhead, hruler, hbody, hsplit⟩ := hlaid hnarrow
  obtain rfl : text = laid := Except.ok.inj (htext.symm.trans htable)
  rw [hwidths] at hhead hruler hbody
  exact ⟨hwidths, htext, ⟨head, ruler, body, hlines, hhead, hruler, hbody, hsplit hbreaks⟩,
    hwide exists_tooWide_longText⟩

/-- A text that is too long leaves no table at all. -/
theorem table_of_long_text_fails :
    ¬ ∃ text, table ["Name"] [[longText]] = .ok text := by
  rw [table_eq_error exists_tooWide_longText]
  rintro ⟨text, ⟨⟩⟩

end RecordScreens.Layout
