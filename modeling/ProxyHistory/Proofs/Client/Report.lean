import ProxyHistory.Client.Report
import ProxyHistory.Proofs.Json.Controls
import ProxyHistory.Proofs.Table

/-!
# Reports line by line

A value takes one line of bounded length in a table, whatever was captured, so the table of rows has
one line for the header and one for each row, and a line of the frame around each of them. Without
fields the columns are the names in the rows.
-/

namespace ProxyHistory

/-! ## Replacements and repetitions -/

/-- The text with each occurrence of a mark replaced, from left to right. -/
def Text.replaceAll (mark replacement : Text) : Text → Text
  | [] => []
  | c :: rest =>
      if mark.isPrefixOf (c :: rest) then
        replacement ++ replaceAll mark replacement (rest.drop (mark.length - 1))
      else
        c :: replaceAll mark replacement rest
termination_by text => text.length
decreasing_by
  · rw [List.length_drop, List.length_cons]
    omega
  · exact Nat.lt_succ_self _

theorem nodup_eraseDups {α : Type} [BEq α] [LawfulBEq α] (items : List α) :
    items.eraseDups.Nodup := by
  cases items with
  | nil => exact List.nodup_nil
  | cons item items =>
      rw [List.eraseDups_cons, List.nodup_cons]
      refine ⟨fun again => ?_, nodup_eraseDups _⟩
      have different := (List.mem_filter.mp (List.mem_eraseDups.mp again)).2
      simp at different
termination_by items.length
decreasing_by exact Nat.lt_succ_of_le (List.length_filter_le _ _)

namespace Client

/-! ## Cells -/

/-- A carriage return and a line feed become one space, and every other line feed one of its own. -/
theorem flatten_eq_replaceAll (text : Text) :
    flatten text =
      Text.replaceAll ['\n'] [' '] (Text.replaceAll ['\r', '\n'] [' '] text) := by
  fun_induction flatten text with
  | case1 rest induction => simp [Text.replaceAll, induction]
  | case2 rest induction => simp [Text.replaceAll, induction]
  | case3 c rest noLineEnd noLineFeed induction =>
      have notBoth : ¬ ['\r', '\n'].isPrefixOf (c :: rest) = true := by
        intro starts
        obtain ⟨more, same⟩ := List.isPrefixOf_iff_prefix.mp starts
        obtain ⟨rfl, rfl⟩ := List.cons_eq_cons.mp same
        exact noLineEnd more rfl rfl
      have notFeed (after : Text) : ¬ ['\n'].isPrefixOf (c :: after) = true := by
        intro starts
        obtain ⟨more, same⟩ := List.isPrefixOf_iff_prefix.mp starts
        exact noLineFeed (List.cons_eq_cons.mp same).1.symm
      rw [Text.replaceAll, if_neg notBoth, Text.replaceAll, if_neg (notFeed _), induction]
  | case4 => simp [Text.replaceAll]

theorem lineFeed_not_mem_flatten (text : Text) : '\n' ∉ flatten text := by
  fun_induction flatten text with
  | case1 rest induction => exact List.not_mem_cons_of_ne_of_not_mem (by decide) induction
  | case2 rest induction => exact List.not_mem_cons_of_ne_of_not_mem (by decide) induction
  | case3 c rest noLineEnd noLineFeed induction =>
      exact List.not_mem_cons_of_ne_of_not_mem (fun same => noLineFeed same.symm) induction
  | case4 => exact List.not_mem_nil

theorem lineFeed_not_mem_flatText (value : Json) : '\n' ∉ flatText value := by
  cases value with
  | null => exact List.not_mem_nil
  | string text => exact lineFeed_not_mem_flatten text
  | _ => exact (Json.uncontrolled_compact _).lineFeed_not_mem

theorem length_shorten_le (text : Text) : (shorten text).length ≤ cellLimit + 1 := by
  rw [shorten]
  split
  · rw [List.length_append, List.length_take, List.length_singleton]
    omega
  · omega

theorem shorten_of_length_le {text : Text} (short : text.length ≤ cellLimit) :
    shorten text = text :=
  if_neg (Nat.not_lt.mpr short)

theorem lineFeed_not_mem_shorten {text : Text} (oneLine : '\n' ∉ text) : '\n' ∉ shorten text := by
  rw [shorten]
  split
  · rw [List.mem_append, List.mem_singleton, not_or]
    exact ⟨fun member => oneLine (List.mem_of_mem_take member), by decide⟩
  · exact oneLine

/-- How a value stands in a cell: on one line, with at most an ellipsis behind the characters that a
cell has room for, and in full if it fits. -/
structure IsCell (value : Json) (text : Text) : Prop where
  oneLine : '\n' ∉ text
  length_le : text.length ≤ 121
  inFull : (flatText value).length ≤ 120 → text = flatText value

theorem isCell_cell (value : Json) : IsCell value (cell value) where
  oneLine := lineFeed_not_mem_shorten (lineFeed_not_mem_flatText value)
  length_le := length_shorten_le (flatText value)
  inFull := shorten_of_length_le

/-! ## Tables of rows -/

/-- Cells below names, as many in each record as there are names, are drawn line by line. -/
theorem exists_lines_render {names : List Text} (some : names ≠ [])
    (oneLine : ∀ name ∈ names, '\n' ∉ name) {records : List (List Json)}
    (aligned : ∀ record ∈ records, record.length = names.length) :
    ∃ widths : List Nat, widths.length = names.length ∧
      Text.lines (Table.render (names :: records.map (List.map cell))) =
        Table.framed widths (names :: records.map (List.map cell)) := by
  have cellsAligned : ∀ texts ∈ records.map (List.map cell), texts.length = names.length := by
    intro texts member
    obtain ⟨record, inRecords, rfl⟩ := List.mem_map.mp member
    rw [List.length_map, aligned record inRecords]
  have cellsOneLine : ∀ texts ∈ records.map (List.map cell), ∀ text ∈ texts, '\n' ∉ text := by
    intro texts member text inTexts
    obtain ⟨record, -, rfl⟩ := List.mem_map.mp member
    obtain ⟨value, -, rfl⟩ := List.mem_map.mp inTexts
    exact (isCell_cell value).oneLine
  exact ⟨_, Table.length_columnWidths cellsAligned, Table.lines_render some cellsAligned
    (List.forall_mem_cons.mpr ⟨oneLine, cellsOneLine⟩)⟩

/-- The cells of a row. -/
def rowCells (columns : List Text) (row : Json) : List Text :=
  columns.map fun column => cell (row.member column)

/-- A text has a line for the header, one for each row, and lines of the frame around them. -/
structure IsTable (columns : List Text) (rows : List Json) (text : Text) : Prop where
  lines : ∃ widths : List Nat, widths.length = columns.length ∧
    Text.lines text = Table.framed widths (columns :: rows.map (rowCells columns))
  length : (Text.lines text).length = 2 * rows.length + 3

theorem isTable_render {columns : List Text} (some : columns ≠ [])
    (oneLine : ∀ column ∈ columns, '\n' ∉ column) (rows : List Json) :
    IsTable columns rows (Table.render (columns :: rows.map (rowCells columns))) := by
  have aligned : ∀ record ∈ rows.map fun row => columns.map row.member,
      record.length = columns.length := by
    intro record member
    obtain ⟨row, -, rfl⟩ := List.mem_map.mp member
    exact List.length_map _
  have cells_eq : (rows.map fun row => columns.map row.member).map (List.map cell) =
      rows.map (rowCells columns) := by
    rw [List.map_map]
    exact List.map_congr_left fun row _ => List.map_map
  obtain ⟨widths, width_each, lines⟩ := exists_lines_render some oneLine aligned
  rw [cells_eq] at lines
  refine ⟨⟨widths, width_each, lines⟩, ?_⟩
  rw [lines, Table.length_framed _ (List.cons_ne_nil _ _), List.length_cons, List.length_map]
  omega

theorem mem_columns_nil_iff {rows : List Json} {name : Text} :
    name ∈ columns rows [] ↔ ∃ row ∈ rows, name ∈ memberNames row := by
  rw [columns, if_pos List.isEmpty_nil, List.mem_eraseDups, List.mem_flatMap]

theorem nodup_columns_nil (rows : List Json) : (columns rows []).Nodup := by
  rw [columns, if_pos List.isEmpty_nil]
  exact nodup_eraseDups _

/-- No value can add a line to the table of rows or take one from it: each cell is on one line and
bounded, and each row has its line in the frame. Without fields the columns are the names in the
rows, each of them once. -/
theorem isTable_renderTable {rows : List Json} {fields : List Text}
    (some : columns rows fields ≠ []) (oneLine : ∀ column ∈ columns rows fields, '\n' ∉ column) :
    (∀ value, IsCell value (cell value)) ∧
      (∀ text, flatText (.string text) =
        Text.replaceAll ['\n'] [' '] (Text.replaceAll ['\r', '\n'] [' '] text)) ∧
      IsTable (columns rows fields) rows (renderTable rows fields) ∧
      (fields = [] → (columns rows fields).Nodup ∧
        ∀ name, name ∈ columns rows fields ↔ ∃ row ∈ rows, name ∈ memberNames row) := by
  refine ⟨isCell_cell, flatten_eq_replaceAll, isTable_render some oneLine rows, ?_⟩
  rintro rfl
  exact ⟨nodup_columns_nil rows, fun name => mem_columns_nil_iff⟩

/-- Rows with a text made to look like the end of a row, a line end deep inside a value, and a row
that is no object. -/
def deceptiveRows : List Json :=
  [.object [("method".toList, .string "GET │\r\n├──\n│ POST".toList),
      ("req.headers".toList, .array [.array [.string "cookie".toList, .string "a\nb".toList]])],
    .integer 7,
    .object [("url".toList, .null), ("method".toList, .string "\n".toList)]]

theorem isTable_renderTable_deceptiveRows :
    columns deceptiveRows [] = ["method".toList, "req.headers".toList, "url".toList] ∧
      IsTable (columns deceptiveRows []) deceptiveRows (renderTable deceptiveRows []) ∧
      (columns deceptiveRows []).Nodup := by
  have named :
      columns deceptiveRows [] = ["method".toList, "req.headers".toList, "url".toList] := by decide
  have table := @isTable_renderTable deceptiveRows [] (by rw [named]; decide)
    (by rw [named]; decide)
  exact ⟨named, table.2.2.1, (table.2.2.2 rfl).1⟩

end Client

end ProxyHistory
