import Parley.Number.Natural
import Parley.Text.CellTable

/-!
# Display cells

A terminal shows a character in zero, one or two cells.  The width of a text is
not quite the sum of the widths of its characters: a zero-width joiner fuses
the character after it with the one before, and the emoji variation selector
widens the last visible character if that one has a wide emoji form.

`cellLen` measures a text; `clusters` groups its characters so that no group
can be cut; `chop` cuts a text into pieces of a given width; `fitCells` pads or
crops a text to exactly a given width.
-/

namespace Parley.Text

/-- The zero-width joiner. -/
def joiner : Char := '\u200d'

/-- The emoji variation selector. -/
def emojiSelector : Char := '\ufe0f'

/-- The cells of a character on its own.  Controls take none, and every
character below the combining marks that is not a control takes one. -/
def charCells (c : Char) : Nat :=
  let n := c.toNat
  if n < 0x20 || (0x7F ≤ n && n < 0xA0) then 0
  else if n < 0x300 then 1
  else if inRanges zeroWidthRanges n then 0
  else if inRanges wideRanges n then 2
  else 1

/-- Whether the emoji variation selector adds a cell to this character. -/
def isWidened (c : Char) : Bool :=
  inRanges widenedRanges c.toNat

/-- The cells of a text, given the last visible character before it that no
variation selector has used up yet. -/
def cellLenAfter : Option Char → List Char → Nat
  | _, [] => 0
  | last, c :: rest =>
      if c = joiner then
        match rest with
        | [] => 0
        | _ :: others => cellLenAfter last others
      else if c = emojiSelector then
        (if last.any isWidened then 1 else 0) + cellLenAfter none rest
      else if charCells c = 0 then cellLenAfter last rest
      else charCells c + cellLenAfter (some c) rest

/-- The number of cells that a text takes in a terminal. -/
def cellLen (s : List Char) : Nat :=
  cellLenAfter none s

/-- The cells of a text as the sum over its characters, which is its width when
it holds neither joiner nor variation selector. -/
def sumCells (s : List Char) : Nat :=
  sumOf (s.map charCells)

/-- A group of characters that a cut must not separate, with its width. -/
structure Cluster where
  chars : List Char
  cells : Nat
  deriving Repr, DecidableEq

/-- Adds characters and cells to the group closed last. -/
def extendCluster (chars : List Char) (cells : Nat) : List Cluster → List Cluster
  | [] => [⟨chars, cells⟩]
  | group :: others => ⟨group.chars ++ chars, group.cells + cells⟩ :: others

/-- Groups a text, the groups found so far in reverse order. -/
def clustersAfter (last : Option Char) (found : List Cluster) : List Char → List Cluster
  | [] => found
  | c :: rest =>
      if c = joiner then
        if found.isEmpty then clustersAfter last [⟨[c], 0⟩] rest
        else
          match rest with
          | [] => extendCluster [c] 0 found
          | d :: others => clustersAfter last (extendCluster [c, d] 0 found) others
      else if c = emojiSelector then
        if found.isEmpty then clustersAfter last [⟨[c], 0⟩] rest
        else if last.any isWidened then clustersAfter none (extendCluster [c] 1 found) rest
        else clustersAfter last (extendCluster [c] 0 found) rest
      else if charCells c = 0 then clustersAfter last (extendCluster [c] 0 found) rest
      else clustersAfter (some c) (⟨[c], charCells c⟩ :: found) rest

/-- The groups of a text, in order. -/
def clusters (s : List Char) : List Cluster :=
  (clustersAfter none [] s).reverse

/-- Distributes groups over lines of at most `width` cells, given the line under
construction and its width.  A line without cells is dropped at the end. -/
def chopClusters (width : Nat) (line : List Char) (used : Nat) :
    List Cluster → List (List Char)
  | [] => if used = 0 then [] else [line]
  | group :: others =>
      if width < used + group.cells then
        line :: chopClusters width group.chars group.cells others
      else chopClusters width (line ++ group.chars) (used + group.cells) others

/-- Cuts a text into pieces that take at most `width` cells each where the groups
allow it. -/
def chop (width : Nat) (s : List Char) : List (List Char) :=
  chopClusters width [] 0 (clusters s)

/-- The longest run of leading groups within `width` cells, with a space in
place of the left half of a group that the limit cuts through. -/
def cropClusters (width : Nat) : List Cluster → List Char
  | [] => []
  | group :: others =>
      if width = 0 then []
      else if group.cells ≤ width then group.chars ++ cropClusters (width - group.cells) others
      else [' ']

/-- Crops or pads a text with spaces to exactly `width` cells. -/
def fitCells (width : Nat) (s : List Char) : List Char :=
  let size := cellLen s
  if size ≤ width then s ++ List.replicate (width - size) ' '
  else cropClusters width (clusters s)

end Parley.Text
