import ProxyHistory.Proofs.Text.Avoids
import ProxyHistory.Proofs.Text.Blank
import ProxyHistory.Table

/-!
# The lines of a table

Where no cell has a line end, each record is drawn as one line, with a line of the frame above and
below it. What stands in the cells cannot change that.
-/

namespace ProxyHistory

namespace Table

/-- The line of a record whose cells have no line ends: the cells from left to right, each filled up
with blanks to the width of its column and with a blank on either side. -/
def rowLine (widths : List Nat) (record : List Text) : Text :=
  let parts := (widths.zip record).map fun part =>
    ' ' :: part.2 ++ List.replicate (part.1 - Text.width part.2) ' ' ++ [' ']
  '│' :: List.intercalate ['│'] parts ++ ['│']

/-- The lines of a table of such records. -/
def framed (widths : List Nat) (records : List (List Text)) : List Text :=
  border '┌' '┬' '┐' widths ::
    (records.map (rowLine widths)).intersperse (border '├' '┼' '┤' widths) ++
      [border '└' '┴' '┘' widths]

theorem length_framed (widths : List Nat) {records : List (List Text)} (some : records ≠ []) :
    (framed widths records).length = 2 * records.length + 1 := by
  have positive := List.length_pos_iff.mpr some
  simp only [framed, List.length_append, List.length_cons, List.length_intersperse,
    List.length_map, List.length_nil]
  omega

/-! ## Lines -/

/-- A line that no line feed ends earlier and that does not end with a carriage return. -/
structure IsLine (line : Text) : Prop where
  oneLine : '\n' ∉ line
  unreturned : line.getLast? ≠ some '\r'
  ne_nil : line ≠ []

theorem lines_intercalate {lines : List Text} (areLines : ∀ line ∈ lines, IsLine line) :
    Text.lines (List.intercalate ['\n'] lines) = lines := by
  refine Text.lines_intercalate (fun line member =>
    ⟨(areLines line member).oneLine, (areLines line member).ne_nil⟩) fun line member rest => ?_
  rw [List.append_assoc, List.singleton_append,
    Text.lines_append_cons (areLines line member).oneLine, Text.dropReturn,
    if_neg (areLines line member).unreturned]

theorem isLine_drawn {left between right : Char} {parts : List Text}
    (bars : ∀ c ∈ [left, between, right], c ≠ '\n') (unreturned : right ≠ '\r')
    (each : ∀ part ∈ parts, '\n' ∉ part) :
    IsLine (left :: List.intercalate [between] parts ++ [right]) where
  oneLine := by
    simp only [List.forall_mem_cons] at bars
    obtain ⟨leftBar, betweenBar, rightBar, -⟩ := bars
    have inside : ∀ c ∈ List.intercalate [between] parts, c ≠ '\n' :=
      Text.forall_mem_intercalate (by simpa using betweenBar) fun part member c inPart same =>
        each part member (same ▸ inPart)
    intro member
    rcases List.mem_append.mp member with front | back
    · rcases List.mem_cons.mp front with same | between
      · exact leftBar same.symm
      · exact inside _ between rfl
    · exact rightBar (List.mem_singleton.mp back).symm
  unreturned := by
    rw [List.getLast?_concat]
    exact mt Option.some.inj unreturned
  ne_nil := List.cons_ne_nil _ _

theorem isLine_border {left between right : Char}
    (bars : ∀ c ∈ [left, between, right], c ≠ '\n') (unreturned : right ≠ '\r')
    (widths : List Nat) : IsLine (border left between right widths) := by
  refine isLine_drawn bars unreturned fun part member => ?_
  obtain ⟨width, -, rfl⟩ := List.mem_map.mp member
  simp

/-! ## Columns -/

theorem length_widen (widths : List Nat) (cells : List Text) :
    (widen widths cells).length = max widths.length cells.length := by
  induction widths generalizing cells with
  | nil => simp [widen]
  | cons width widths induction =>
      cases cells with
      | nil => simp [widen]
      | cons cell cells => simp [widen, induction]

theorem length_columnWidths {header : List Text} {records : List (List Text)}
    (aligned : ∀ record ∈ records, record.length = header.length) :
    (columnWidths (header :: records)).length = header.length := by
  have widened (widths : List Nat) (same : widths.length = header.length) :
      (records.foldl widen widths).length = header.length := by
    induction records generalizing widths with
    | nil => exact same
    | cons record records induction =>
        obtain ⟨first, others⟩ := List.forall_mem_cons.mp aligned
        refine induction others _ ?_
        rw [length_widen, same, first, Nat.max_self]
  refine widened _ ?_
  rw [length_widen, List.length_nil, Nat.zero_max]

/-! ## Records -/

section OneLine

variable {record : List Text} (oneLine : ∀ cell ∈ record, '\n' ∉ cell)

include oneLine

theorem height_eq_one : height record = 1 := by
  have bounded : ∀ cell ∈ record, (cellLines cell).length = 1 := fun cell member => by
    rw [cellLines, List.splitOn_eq_singleton (oneLine cell member)]
    rfl
  rw [height]
  clear oneLine
  induction record with
  | nil => rfl
  | cons cell record induction =>
      obtain ⟨first, others⟩ := List.forall_mem_cons.mp bounded
      rw [List.map_cons, List.foldl_cons, first, Nat.max_self]
      exact induction others

theorem contentLines_of_oneLine (widths : List Nat) :
    contentLines widths record = [rowLine widths record] := by
  have parts_eq : ((widths.zip record).map fun part =>
      ' ' :: fill part.1 ((cellLines part.2).getD 0 []) ++ [' ']) =
        (widths.zip record).map fun part =>
          ' ' :: part.2 ++ List.replicate (part.1 - Text.width part.2) ' ' ++ [' '] := by
    refine List.map_congr_left fun part member => ?_
    rw [cellLines, List.splitOn_eq_singleton (oneLine part.2 (List.of_mem_zip member).2)]
    rfl
  rw [contentLines, height_eq_one oneLine]
  exact congrArg (fun parts => ['│' :: List.intercalate ['│'] parts ++ ['│']]) parts_eq

theorem isLine_rowLine (widths : List Nat) : IsLine (rowLine widths record) := by
  refine isLine_drawn (by decide) (by decide) fun part member => ?_
  obtain ⟨⟨width, cell⟩, zipped, rfl⟩ := List.mem_map.mp member
  have inCell := oneLine cell (List.of_mem_zip zipped).2
  simp [inCell]

end OneLine

/-! ## Tables -/

theorem flatten_intersperse (separator : Text) (lines : List Text) :
    ((lines.map fun line => [line]).intersperse [separator]).flatten =
      lines.intersperse separator := by
  induction lines with
  | nil => rfl
  | cons line lines induction =>
      cases lines with
      | nil => rfl
      | cons next lines =>
          rw [List.map_cons, List.map_cons, List.intersperse_cons_cons, List.flatten_cons,
            List.flatten_cons, ← List.map_cons (f := fun line => [line]), induction]
          rfl

theorem forall_mem_intersperse {Holds : Text → Prop} {separator : Text} {lines : List Text}
    (between : Holds separator) (each : ∀ line ∈ lines, Holds line) :
    ∀ line ∈ lines.intersperse separator, Holds line := by
  induction lines with
  | nil => exact each
  | cons line lines induction =>
      obtain ⟨first, others⟩ := List.forall_mem_cons.mp each
      cases lines with
      | nil => exact each
      | cons next lines =>
          rw [List.intersperse_cons_cons]
          exact List.forall_mem_cons.mpr ⟨first, List.forall_mem_cons.mpr
            ⟨between, induction others⟩⟩

section Aligned

variable {header : List Text} {records : List (List Text)} (some : header ≠ [])
  (aligned : ∀ record ∈ records, record.length = header.length)
  (oneLine : ∀ record ∈ header :: records, ∀ cell ∈ record, '\n' ∉ cell)

include some aligned oneLine

theorem lines_eq_framed :
    lines (header :: records) =
      framed (columnWidths (header :: records)) (header :: records) := by
  have widths_some : columnWidths (header :: records) ≠ [] := by
    rw [← List.length_pos_iff, length_columnWidths aligned]
    exact List.length_pos_iff.mpr some
  have contents_eq : (header :: records).map (contentLines (columnWidths (header :: records))) =
      ((header :: records).map (rowLine (columnWidths (header :: records)))).map
        fun line => [line] := by
    rw [List.map_map]
    exact List.map_congr_left fun record member => contentLines_of_oneLine (oneLine record member) _
  simp only [lines, contents_eq, flatten_intersperse, List.isEmpty_iff, widths_some, if_false,
    framed]

/-- A table of records without line ends is drawn line by line. -/
theorem lines_render :
    Text.lines (render (header :: records)) =
      framed (columnWidths (header :: records)) (header :: records) := by
  rw [render, lines_eq_framed some aligned oneLine]
  have areRows : ∀ line ∈ (header :: records).map (rowLine (columnWidths (header :: records))),
      IsLine line := by
    intro line member
    obtain ⟨record, inRecords, rfl⟩ := List.mem_map.mp member
    exact isLine_rowLine (oneLine record inRecords) _
  refine lines_intercalate (List.forall_mem_append.mpr ⟨List.forall_mem_cons.mpr ⟨?_, ?_⟩, ?_⟩)
  · exact isLine_border (by decide) (by decide) _
  · exact forall_mem_intersperse (isLine_border (by decide) (by decide) _) areRows
  · exact List.forall_mem_singleton.mpr (isLine_border (by decide) (by decide) _)

end Aligned

end Table

end ProxyHistory
