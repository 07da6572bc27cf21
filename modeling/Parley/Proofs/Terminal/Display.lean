import Parley.Proofs.Text.Rows

/-!
# Terminals

A terminal shows characters in the cells of its rows, of which there is no end.  The cursor
that has reached the end of a row waits there, and only the next character takes it to the
next row.  A line feed also returns to the first column.  Of the escape sequences, the
terminal acts on those that move the cursor up and that erase the rest of a row; others
move no cursor here.
-/

namespace Parley.Terminal

/-- How far an escape sequence was read. -/
inductive Sequence
  | outside
  | escape
  | control
  | parameters
  deriving DecidableEq

structure Display where
  /-- The characters that are shown, by row and column. -/
  cells : Nat → Nat → Char
  row : Nat
  /-- The column of the cursor; a cursor that waits at the end of its row is behind the
  last column. -/
  column : Nat
  sequence : Sequence

namespace Display

/-- The character of an empty cell. -/
def blank : Char := ' '

def IsBlank (d : Display) (row : Nat) : Prop :=
  ∀ column, d.cells row column = blank

def newline (d : Display) : Display :=
  { d with row := d.row + 1, column := 0 }

/-- Puts a character into the next cells of the row. -/
def place (d : Display) (c : Char) (count : Nat) : Display :=
  { d with
    cells := fun row column =>
      if row = d.row ∧ d.column ≤ column ∧ column < d.column + count then c
      else d.cells row column
    column := d.column + count }

/-- Shows a character, on the next row if there is no room left on this one. -/
def put (width : Nat) (d : Display) (c : Char) : Display :=
  let count := Text.charCells c
  if count = 0 then d
  else if width < d.column + count then d.newline.place c count
  else d.place c count

def up (width : Nat) (d : Display) : Display :=
  { d with row := d.row - 1, column := min d.column (width - 1) }

/-- Erases the row from the cursor on. -/
def erase (width : Nat) (d : Display) : Display :=
  { d with
    cells := fun row column =>
      if row = d.row ∧ min d.column (width - 1) ≤ column then blank else d.cells row column }

/-- The display with the row of the cursor erased. -/
def clearRow (d : Display) : Display :=
  { d with cells := fun row column => if row = d.row then blank else d.cells row column }

theorem isBlank_clearRow (d : Display) : d.clearRow.IsBlank d.row :=
  fun _ => if_pos rfl

theorem cells_clearRow (d : Display) {row : Nat} (hrow : row ≠ d.row) :
    d.clearRow.cells row = d.cells row :=
  funext fun _ => if_neg hrow

theorem erase_of_column_zero (width : Nat) {d : Display} (hcolumn : d.column = 0) :
    d.erase width = d.clearRow := by
  rw [erase, clearRow, hcolumn, Nat.zero_min]
  simp only [Nat.zero_le, and_true]

/-- Takes a character in. -/
def step (width : Nat) (d : Display) (c : Char) : Display :=
  match d.sequence with
  | .outside =>
      if c = '\x1b' then { d with sequence := .escape }
      else if c = '\n' then d.newline
      else if c = '\r' then { d with column := 0 }
      else d.put width c
  | .escape => { d with sequence := if c = '[' then .control else .outside }
  | .control =>
      if c = 'A' then { d.up width with sequence := .outside }
      else if c = 'K' then { d.erase width with sequence := .outside }
      else { d with sequence := if '@' ≤ c then .outside else .parameters }
  | .parameters => { d with sequence := if '@' ≤ c then .outside else .parameters }

def feed (width : Nat) (d : Display) (s : List Char) : Display :=
  s.foldl (step width) d

def write (width : Nat) (d : Display) (s : String) : Display :=
  d.feed width s.toList

theorem feed_append (width : Nat) (d : Display) (s t : List Char) :
    d.feed width (s ++ t) = (d.feed width s).feed width t :=
  List.foldl_append

theorem write_append (width : Nat) (d : Display) (s t : String) :
    d.write width (s ++ t) = (d.write width s).write width t := by
  rw [write, String.toList_append, feed_append]
  rfl

/-! ## Control sequences -/

section Outside

variable (width : Nat) {d : Display} (hsequence : d.sequence = .outside)
include hsequence

theorem feed_return : d.feed width ['\r'] = { d with column := 0 } := by
  rcases d with ⟨cells, row, column, sequence⟩
  cases hsequence
  rfl

theorem feed_up : d.feed width ['\x1b', '[', 'A'] = d.up width := by
  rcases d with ⟨cells, row, column, sequence⟩
  cases hsequence
  rfl

theorem feed_erase : d.feed width ['\x1b', '[', 'K'] = d.erase width := by
  rcases d with ⟨cells, row, column, sequence⟩
  cases hsequence
  rfl

theorem feed_clearRow (hcolumn : d.column = 0) :
    d.feed width ['\x1b', '[', 'K'] = d.clearRow :=
  (feed_erase width hsequence).trans (erase_of_column_zero width hcolumn)

end Outside

/-! ## Plain text -/

/-- A character that takes one cell, or a line feed. -/
def IsPlain (c : Char) : Prop :=
  c = '\n' ∨ Text.IsNarrow c

section Outside

variable (width : Nat) {d : Display} (hsequence : d.sequence = .outside)
include hsequence

theorem step_newline : d.step width '\n' = d.newline := by
  rw [step, hsequence]
  rfl

theorem step_narrow {c : Char} (hc : Text.IsNarrow c) :
    d.step width c =
      if width < d.column + 1 then d.newline.place c 1 else d.place c 1 := by
  have hcells : Text.charCells c = 1 := hc
  rw [step, hsequence]
  dsimp only
  rw [if_neg (hc.ne (by decide)), if_neg (hc.ne (by decide)), if_neg (hc.ne (by decide)),
    put, hcells]
  rfl

end Outside

/-- What writing plain text from `d` on, up to `e`, leaves as it was: the rows above, and
the rows that the cursor has not written on. -/
structure Continues (d e : Display) : Prop where
  sequence : e.sequence = .outside
  row_le : d.row ≤ e.row
  above : ∀ row < d.row, e.cells row = d.cells row
  ahead : ∀ row, e.row < row ∨ row = e.row ∧ e.column = 0 → e.cells row = d.cells row

namespace Continues

variable {d e : Display}

theorem refl (hsequence : d.sequence = .outside) : Continues d d :=
  ⟨hsequence, Nat.le_refl d.row, fun _ _ => rfl, fun _ _ => rfl⟩

theorem newline (h : Continues d e) : Continues d e.newline := by
  refine ⟨h.sequence, Nat.le_succ_of_le h.row_le, h.above, ?_⟩
  intro row hrow
  have hahead : e.row < row := by
    obtain hlater | ⟨hsame, -⟩ := hrow
    · exact Nat.lt_of_succ_lt hlater
    · rw [hsame]
      exact Nat.lt_succ_self e.row
  exact h.ahead row (Or.inl hahead)

theorem place (h : Continues d e) (c : Char) {count : Nat} (hcount : 0 < count) :
    Continues d (e.place c count) := by
  have hcells : ∀ row, row ≠ e.row → (e.place c count).cells row = e.cells row := by
    intro row hrow
    funext column
    exact if_neg fun hplaced => hrow hplaced.1
  refine ⟨h.sequence, h.row_le, ?_, ?_⟩
  · intro row hrow
    rw [hcells row (Nat.ne_of_lt (Nat.lt_of_lt_of_le hrow h.row_le)), h.above row hrow]
  · intro row hrow
    obtain hlater | ⟨-, hcolumn⟩ := hrow
    · rw [hcells row (Nat.ne_of_gt hlater)]
      exact h.ahead row (Or.inl hlater)
    · have hpositive : 0 < e.column + count := Nat.add_pos_right e.column hcount
      exact absurd hcolumn (Nat.ne_of_gt hpositive)

theorem step (h : Continues d e) (width : Nat) {c : Char} (hc : IsPlain c) :
    Continues d (e.step width c) := by
  obtain rfl | hnarrow := hc
  · rw [step_newline width h.sequence]
    exact h.newline
  · rw [step_narrow width h.sequence hnarrow]
    split
    · exact h.newline.place c Nat.one_pos
    · exact h.place c Nat.one_pos

theorem feed (h : Continues d e) (width : Nat) {s : List Char}
    (hs : ∀ c ∈ s, IsPlain c) : Continues d (e.feed width s) := by
  induction s generalizing e with
  | nil => exact h
  | cons c rest ih =>
      have hfirst := h.step width (hs c List.mem_cons_self)
      exact ih hfirst fun other hother => hs other (List.mem_cons_of_mem c hother)

end Continues

/-! ## Counting rows -/

/-- Where the cursor is, counted in cells along the rows. -/
def position (width : Nat) (d : Display) : Nat :=
  d.row * width + d.column

/-- A character moves the cursor by one cell, and at the end of a row the cursor waits. -/
theorem step_narrow_position {width : Nat} (hwidth : 0 < width) {d : Display}
    (hsequence : d.sequence = .outside) (hcolumn : d.column ≤ width) {c : Char}
    (hc : Text.IsNarrow c) :
    let e := d.step width c
    e.sequence = .outside ∧ 0 < e.column ∧ e.column ≤ width ∧
      e.position width = d.position width + 1 := by
  intro e
  have he : e = if width < d.column + 1 then d.newline.place c 1 else d.place c 1 :=
    step_narrow width hsequence hc
  rw [he]
  split
  · have hfull : d.column = width := by omega
    refine ⟨hsequence, Nat.one_pos, hwidth, ?_⟩
    have hnext : (d.row + 1) * width = d.row * width + width := Nat.succ_mul d.row width
    show (d.row + 1) * width + (0 + 1) = d.row * width + d.column + 1
    omega
  · refine ⟨hsequence, Nat.succ_pos d.column, ?_, ?_⟩
    · show d.column + 1 ≤ width
      omega
    · show d.row * width + (d.column + 1) = d.row * width + d.column + 1
      omega

theorem feed_narrow {width : Nat} (hwidth : 0 < width) {d : Display}
    (hsequence : d.sequence = .outside) (hcolumn : d.column ≤ width) {line : List Char}
    (hline : ∀ c ∈ line, Text.IsNarrow c) :
    let e := d.feed width line
    e.sequence = .outside ∧ e.column ≤ width ∧ (line ≠ [] → 0 < e.column) ∧
      e.position width = d.position width + line.length := by
  induction line generalizing d with
  | nil => exact ⟨hsequence, hcolumn, fun h => absurd rfl h, rfl⟩
  | cons c rest ih =>
      have hc := hline c List.mem_cons_self
      obtain ⟨houtside, hpositive, hbound, hmoved⟩ :=
        step_narrow_position hwidth hsequence hcolumn hc
      have hrest : ∀ other ∈ rest, Text.IsNarrow other :=
        fun other hother => hline other (List.mem_cons_of_mem c hother)
      obtain ⟨hlast, hlastBound, hlastPositive, hlastMoved⟩ := ih houtside hbound hrest
      refine ⟨hlast, hlastBound, ?_, ?_⟩
      · intro _
        cases rest with
        | nil => exact hpositive
        | cons other others => exact hlastPositive (List.cons_ne_nil other others)
      · calc (d.feed width (c :: rest)).position width
            = (d.step width c).position width + rest.length := hlastMoved
          _ = d.position width + (c :: rest).length := by
            rw [hmoved, List.length_cons]
            omega

/-- The rows that some cells fill, if they fill `rows` of them and then end within
another one. -/
theorem rows_of_cells {width count rows column : Nat} (hpositive : 0 < column)
    (hbound : column ≤ width) (hcount : rows * width + column = count) :
    max 1 ((count + width - 1) / width) = rows + 1 := by
  have hfilled : (rows + 1) * width = rows * width + width := Nat.succ_mul rows width
  have hnext : (rows + 1 + 1) * width = (rows + 1) * width + width :=
    Nat.succ_mul (rows + 1) width
  have hquotient : (count + width - 1) / width = rows + 1 := by
    apply Nat.div_eq_of_lt_le
    · omega
    · omega
  rw [hquotient]
  exact Nat.max_eq_right (Nat.le_add_left 1 rows)

/-- A line that is ended moves the cursor down by its rows. -/
theorem feed_line {width : Nat} (hwidth : 0 < width) {d : Display}
    (hsequence : d.sequence = .outside) (hcolumn : d.column = 0) {line : List Char}
    (hline : ∀ c ∈ line, Text.IsNarrow c) :
    let e := d.feed width (line ++ ['\n'])
    e.sequence = .outside ∧ e.column = 0 ∧ e.row = d.row + Text.lineRows width line := by
  intro e
  have hstart : d.column ≤ width := by
    rw [hcolumn]
    exact Nat.zero_le width
  obtain ⟨houtside, hbound, hpositive, hmoved⟩ := feed_narrow hwidth hsequence hstart hline
  have hdown : d.row ≤ (d.feed width line).row :=
    ((Continues.refl hsequence).feed width fun c hc => Or.inr (hline c hc)).row_le
  have he : e = (d.feed width line).newline := by
    rw [← step_newline width houtside]
    exact feed_append width d line ['\n']
  rw [he]
  refine ⟨houtside, rfl, ?_⟩
  obtain ⟨rows, hrows⟩ := Nat.exists_eq_add_of_le hdown
  show (d.feed width line).row + 1 = d.row + Text.lineRows width line
  rw [Text.lineRows_of_narrow hline, hrows]
  cases line with
  | nil =>
      have hsame : d.row = d.row + rows := hrows
      have hnone : (0 + width - 1) / width = 0 := Nat.div_eq_of_lt (by omega)
      rw [List.length_nil, hnone]
      omega
  | cons c rest =>
      have hcells : rows * width + (d.feed width (c :: rest)).column = (c :: rest).length := by
        rw [position, position, hrows, hcolumn, Nat.add_mul] at hmoved
        omega
      rw [rows_of_cells (hpositive (List.cons_ne_nil c rest)) hbound hcells, Nat.add_assoc]

theorem feed_lines {width : Nat} (hwidth : 0 < width) {d : Display}
    (hsequence : d.sequence = .outside) (hcolumn : d.column = 0) {lines : List (List Char)}
    (hlines : ∀ line ∈ lines, ∀ c ∈ line, Text.IsNarrow c) :
    let e := d.feed width (lines.flatMap (· ++ ['\n']))
    e.column = 0 ∧ e.row = d.row + sumOf (lines.map (Text.lineRows width)) := by
  induction lines generalizing d with
  | nil => exact ⟨hcolumn, rfl⟩
  | cons line rest ih =>
      obtain ⟨houtside, hhome, hmoved⟩ :=
        feed_line hwidth hsequence hcolumn (hlines line List.mem_cons_self)
      obtain ⟨hlast, hrow⟩ := ih houtside hhome
        fun other hother => hlines other (List.mem_cons_of_mem line hother)
      intro e
      have he : e = (d.feed width (line ++ ['\n'])).feed width (rest.flatMap (· ++ ['\n'])) :=
        feed_append width d (line ++ ['\n']) (rest.flatMap (· ++ ['\n']))
      rw [he]
      refine ⟨hlast, ?_⟩
      rw [hrow, hmoved, List.map_cons, sumOf, Nat.add_assoc]

/-- A text moves the cursor down by the rows that are counted for it. -/
theorem write_text {width : Nat} (hwidth : 0 < width) {d : Display}
    (hsequence : d.sequence = .outside) (hcolumn : d.column = 0) {s : String}
    (hs : ∀ c ∈ s.toList, IsPlain c) :
    let e := d.write width (s ++ "\n")
    e.column = 0 ∧ e.row = d.row + Text.displayRows s width := by
  intro e
  have hlines : ∀ line ∈ Text.lines s.toList, ∀ c ∈ line, Text.IsNarrow c := by
    intro line hline c hc
    obtain ⟨hmem, hcut⟩ := Text.mem_of_mem_pieces hline hc
    obtain rfl | hnarrow := hs c hmem
    · exact Bool.noConfusion hcut
    · exact hnarrow
  have he : e = d.feed width ((Text.lines s.toList).flatMap (· ++ ['\n'])) := by
    rw [Text.flatMap_lines]
    exact congrArg (d.feed width) String.toList_append
  rw [he, Text.displayRows, Text.lineWidth_of_pos hwidth]
  exact feed_lines hwidth hsequence hcolumn hlines

end Display

end Parley.Terminal
