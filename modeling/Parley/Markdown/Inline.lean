import Parley.Markdown.Emphasis
import Parley.Markdown.Html
import Parley.Markdown.Link

/-!
# Text inside blocks

The text of a paragraph or a heading is a sequence of pieces: plain text, line
breaks, code and images, and between them the places where emphasis and links begin
and end.  Code, links and images are found first, from left to right; emphasis is
matched in what is left.
-/

namespace Parley.Markdown

/-- What may begin and end inside a text. -/
inductive Span
  | stress (kind : Stress)
  | link (address : String)
  deriving Repr, DecidableEq

/-- A piece of text. -/
inductive Piece
  | text (s : List Char)
  | softBreak
  | hardBreak
  | code (s : List Char)
  | opens (span : Span)
  | closes (span : Span)
  /-- An image with the text of its label. -/
  | image (address : String) (label : List Char)
  deriving Repr, DecidableEq

/-! ## Code -/

/-- The code up to the first run of exactly `size` backticks, and the rest after it,
given the code so far backwards. -/
def takeCodeSpan? (size : Nat) (found : List Char) (skip : Nat) :
    List Char → Option (List Char × List Char)
  | [] => none
  | c :: rest =>
      match skip with
      | more + 1 => takeCodeSpan? size (c :: found) more rest
      | 0 =>
          if c = '\x60' then
            let run := (rest.takeWhile (· == '\x60')).length
            if run + 1 = size then some (found.reverse, rest.drop run)
            else takeCodeSpan? size (c :: found) run rest
          else takeCodeSpan? size (c :: found) 0 rest

/-- Code on one line, without the blank on both sides that keeps backticks apart. -/
def trimCode (s : List Char) : List Char :=
  let line := s.map fun c => if c = '\n' then ' ' else c
  if 1 < line.length && line.head? == some ' ' && line.getLast? == some ' ' &&
      !(Text.strip line).isEmpty then
    (line.drop 1).dropLast
  else line

/-- Reads code, given what follows its first backtick.  Returns it and the rest. -/
def codeSpan? (rest : List Char) : Option (List Char × List Char) :=
  let run := (rest.takeWhile (· == '\x60')).length
  (takeCodeSpan? (run + 1) [] 0 (rest.drop run)).map fun (code, after) => (trimCode code, after)

/-! ## Addresses as links -/

/-- Whether a text is a scheme of at least two characters, a colon and an address. -/
def isAddress (s : List Char) : Bool :=
  let scheme := s.takeWhile Address.isSchemeChar
  match s.head?, s.drop scheme.length with
  | some first, ':' :: rest =>
      first.isAlpha && 2 ≤ scheme.length && scheme.length ≤ 32 &&
        rest.all fun c => 0x20 < c.toNat && c != '<' && c != '>'
  | _, _ => false

/-- Whether a text is a label of a domain. -/
def isDomainLabel (label : List Char) : Bool :=
  !label.isEmpty && label.length ≤ 63 && label.all (fun c => c.isAlphanum || c == '-') &&
    label.head? != some '-' && label.getLast? != some '-'

/-- Whether a text is a mail address. -/
def isMailAddress (s : List Char) : Bool :=
  let user := s.takeWhile (· != '@')
  match s.drop user.length with
  | _ :: domain =>
      !user.isEmpty &&
        user.all (fun c => c.isAlphanum || ".!#$%&'*+/=?^_\x60\x7b|\x7d~-".toList.contains c) &&
        (Wire.HostName.splitAt '.' domain).all isDomainLabel
  | [] => false

/-- A text without the line feed at its end. -/
def dropFinalFeed (s : List Char) : List Char :=
  if s.getLast? = some '\n' then s.dropLast else s

/-- Reads an address between angle brackets, given what follows the first one.  Returns
its link, its text and the rest. -/
def bareLink? (s : List Char) : Option (String × List Char × List Char) :=
  let url := s.takeWhile fun c => c != '<' && c != '>'
  match s.drop url.length with
  | '>' :: rest =>
      if isAddress (dropFinalFeed url) then
        (Address.ofDestination? url).map fun address => (address, Address.shown url, rest)
      else if isMailAddress (dropFinalFeed url) then
        (Address.ofDestination? ("mailto:".toList ++ url)).map fun address =>
          (address, Address.shown url, rest)
      else none
  | _ => none

/-! ## Links -/

/-- The length of a label up to its closing bracket, given how long the token at each
place is, how many brackets are open, and how many characters are part of a token
that was passed.  A label of a link holds no other link. -/
def labelLength? (holdsLinks : Bool) (depth skip : Nat) : List Char → List Nat → Option Nat
  | c :: rest, size :: sizes =>
      match skip with
      | more + 1 => (labelLength? holdsLinks depth more rest sizes).map (· + 1)
      | 0 =>
          if c = ']' && depth = 0 then some 0
          else if c = '[' && size != 1 && !holdsLinks then none
          else
            let depth :=
              if c = ']' then depth - 1 else if c = '[' && size = 1 then depth + 1 else depth
            (labelLength? holdsLinks depth (size - 1) rest sizes).map (· + 1)
  | _, _ => none

/-- What stands in parentheses after a label: an address and the rest, or the rest at
the place where something else was found. -/
inductive Direct
  | address (found : String) (rest : List Char)
  | other (rest : List Char)
  | ended

/-- Reads what follows the opening parenthesis after a label. -/
def readDirect (s : List Char) : Direct :=
  let s := skipGaps s
  if s.isEmpty then .ended
  else
    let target := (destination? s).bind fun (written, rest) =>
      (Address.ofDestination? written).map fun address => (address, rest)
    let (address, rest) := target.getD ("", s)
    let left := match titleAfterGap? rest with
      | some (_, after) => skipGaps after
      | none => skipGaps rest
    match left with
    | ')' :: after => .address address after
    | _ => .other left

/-- A text with the length of the token at each of its places. -/
structure Measured where
  text : List Char
  sizes : List Nat

namespace Measured

/-- A measured text without its first characters. -/
def drop (n : Nat) (m : Measured) : Measured :=
  ⟨m.text.drop n, m.sizes.drop n⟩

/-- The last characters of a measured text. -/
def last (n : Nat) (m : Measured) : Measured :=
  m.drop (m.text.length - n)

/-- The label that a text begins with, and what follows its closing bracket, given what
follows the opening one. -/
def label? (holdsLinks : Bool) (m : Measured) : Option (List Char × Measured) :=
  (labelLength? holdsLinks 0 0 m.text m.sizes).map fun n => (m.text.take n, m.drop (n + 1))

end Measured

/-- The address of a label that is followed by `found`, where a second label may stand,
and the rest; `after` follows the first label. -/
def readReference (definitions : Definitions) (label : List Char) (after found : Measured) :
    Option (String × List Char) :=
  let (name, rest) := match found.text with
    | '[' :: _ =>
        match (found.drop 1).label? true with
        | some (second, rest) => (if second.isEmpty then label else second, rest.text)
        | none => (label, after.text)
    | _ => (label, after.text)
  (definitions.find? name).map fun address => (address, rest)

/-- Reads a link, given what follows its opening bracket.  Returns its address, its label
and the rest. -/
def link? (definitions : Definitions) (m : Measured) : Option (String × List Char × List Char) :=
  (m.label? false).bind fun (label, after) =>
    let target := match after.text with
      | '(' :: inside =>
          match readDirect inside with
          | .address address rest => some (address, rest)
          | .other rest => readReference definitions label after (after.last (rest.length - 1))
          | .ended => none
      | _ => readReference definitions label after after
    target.map fun (address, rest) => (address, label, rest)

/-- Reads an image, given what follows its opening bracket.  Returns its address, its
label and the rest. -/
def image? (definitions : Definitions) (m : Measured) : Option (String × List Char × List Char) :=
  (m.label? true).bind fun (label, after) =>
    let target := match after.text with
      | '(' :: inside =>
          match readDirect inside with
          | .address address rest => some (address, rest)
          | _ => none
      | _ => readReference definitions label after after
    target.map fun (address, rest) => (address, label, rest)

/-! ## Sizes of tokens -/

/-- The length of the token at the start of a text, given the measured text after its
first character. -/
def tokenSize (definitions : Definitions) (c : Char) (rest : Measured) : Nat :=
  let upTo (after : List Char) : Nat := 1 + (rest.text.length - after.length)
  match c with
  | '\n' => 1 + (rest.text.takeWhile isSpace).length
  | '\\' =>
      match rest.text with
      | [] => 1
      | '\n' :: after => 2 + (after.takeWhile isSpace).length
      | _ => 2
  | '\x60' =>
      match codeSpan? rest.text with
      | some (_, after) => upTo after
      | none => 1 + (rest.text.takeWhile (· == '\x60')).length
  | '[' => ((link? definitions rest).map fun found => upTo found.2.2).getD 1
  | '!' =>
      if rest.text.head? = some '[' then
        ((image? definitions (rest.drop 1)).map fun found => upTo found.2.2).getD 1
      else 1
  | '<' =>
      ((bareLink? rest.text).map (fun found => upTo found.2.2) <|>
        (afterTag? rest.text).map upTo).getD 1
  | '&' => ((reference? rest.text).map fun found => upTo found.2).getD 1
  | _ => 1

/-- A text with the sizes of its tokens, which are found from its end. -/
def measure (definitions : Definitions) : List Char → Measured
  | [] => ⟨[], []⟩
  | c :: rest =>
      let after := measure definitions rest
      ⟨c :: after.text, tokenSize definitions c after :: after.sizes⟩

/-! ## Parts -/

/-- A part of a text before emphasis is matched. -/
inductive Part
  | pieces (found : List Piece)
  | delimiter (d : Delimiter)
  /-- The tilde that is left over from an odd number of them. -/
  | loneTilde
  deriving Repr, DecidableEq

/-- The parts of a run of delimiters. -/
def runParts (mark : Char) (size : Nat) (sides : Bool × Bool) : List Part :=
  if mark = '~' then
    List.replicate (size % 2) .loneTilde ++
      List.replicate (size / 2) (.delimiter ⟨mark, 0, sides.1, sides.2⟩)
  else List.replicate size (.delimiter ⟨mark, size, sides.1, sides.2⟩)

/-- A part of plain text. -/
def textPart (s : List Char) : List Part :=
  if s.isEmpty then [] else [.pieces [.text s]]

/-- The line break after a text, which is given backwards: two spaces before it make
it a hard one.  Returns what is left of the text, and the break. -/
def breakAfter (pending : List Char) : List Char × Piece :=
  match pending with
  | ' ' :: ' ' :: rest => (rest.dropWhile (· == ' '), .hardBreak)
  | ' ' :: rest => (rest, .softBreak)
  | _ => (pending, .softBreak)

/-- Reads the token at the start of a text with what it is made of, given the character
before it, the plain text before it backwards, and what follows its first character.
Returns the plain text that goes on after it, or the parts that end it. -/
def readToken (definitions : Definitions)
    (linkParts : String → List Char → List Part) (before : Char) (pending : List Char) (c : Char)
    (rest : Measured) : Nat × List Char × List Part :=
  let size := tokenSize definitions c rest
  let plain : Nat × List Char × List Part :=
    (size, (rest.text.take (size - 1)).reverse ++ c :: pending, [])
  let found (parts : List Part) : Nat × List Char × List Part :=
    (size, [], textPart pending.reverse ++ parts)
  match c with
  | '\n' =>
      let (text, piece) := breakAfter pending
      (size, [], textPart text.reverse ++ [.pieces [piece]])
  | '\\' =>
      match rest.text with
      | [] => plain
      | '\n' :: _ => found [.pieces [.hardBreak]]
      | d :: _ => found [.pieces [.text (if isAsciiPunctuation d then [d] else [c, d])]]
  | '\x60' =>
      match codeSpan? rest.text with
      | some (code, _) => found [.pieces [.code code]]
      | none => plain
  | '[' =>
      match link? definitions rest with
      | some (address, label, _) => found (linkParts address label)
      | none => plain
  | '!' =>
      match if rest.text.head? = some '[' then image? definitions (rest.drop 1) else none with
      | some (address, label, _) => found [.pieces [.image address label]]
      | none => plain
  | '<' =>
      match bareLink? rest.text, afterTag? rest.text with
      | some (address, shown, _), _ =>
          let link := Span.link address
          found [.pieces [.opens link, .text shown, .closes link]]
      | none, some _ => found [.pieces []]
      | none, none => plain
  | '&' =>
      match reference? rest.text with
      | some (s, _) => found [.pieces [.text s]]
      | none => plain
  | _ =>
      let size := 1 + (rest.text.takeWhile (· == c)).length
      if c = '*' || c = '_' || (c = '~' && 2 ≤ size) then
        let sides := Delimiter.flanks before ((rest.text.drop (size - 1)).headD ' ') (c != '_')
        (size, [], textPart pending.reverse ++ runParts c size sides)
      else (1, c :: pending, [])

/-- The parts of a text, given the character before it, the plain text before it
backwards, and how many characters are part of a token that was read. -/
def partsAfter (definitions : Definitions) (linkParts : String → List Char → List Part)
    (before : Char) (pending : List Char) (skip : Nat) : List Char → List Nat → List Part
  | [], _ => textPart pending.reverse
  | c :: rest, sizes =>
      match skip with
      | more + 1 => partsAfter definitions linkParts c pending more rest (sizes.drop 1)
      | 0 =>
          let (size, pending, parts) :=
            readToken definitions linkParts before pending c ⟨rest, sizes.drop 1⟩
          parts ++ partsAfter definitions linkParts c pending (size - 1) rest (sizes.drop 1)

/-! ## Pieces -/

/-- The pieces of a part at a place. -/
def piecesOf (roleAt : Nat → Option Role) (part : Part) (place : Nat) : List Piece :=
  match part with
  | .pieces found => found
  | .loneTilde => [.text ['~']]
  | .delimiter d =>
      match roleAt place with
      | some (.opens kind) => [.opens (.stress kind)]
      | some (.closes kind) => [.closes (.stress kind)]
      | some .silent => []
      | none => [.text (if d.mark = '~' then ['~', '~'] else [d.mark])]

/-- The places of the delimiters among parts. -/
def delimitersOf (parts : List Part) : List (Nat × Delimiter) :=
  parts.zipIdx.filterMap fun (part, place) =>
    match part with
    | .delimiter d => some (place, d)
    | _ => none

/-- Moves tildes that are left over behind the strikes that end right after them. -/
def moveTildes : List (Bool × Piece) → List Piece
  | [] => []
  | (lone, piece) :: rest =>
      let ends := Piece.closes (.stress .strike)
      match moveTildes rest with
      | next :: others =>
          if lone && next == ends then
            let run := (others.takeWhile (· == ends)).length
            List.replicate (run + 1) ends ++ piece :: others.drop run
          else piece :: next :: others
      | [] => [piece]

/-- Joins neighbouring texts. -/
def joinTexts : List Piece → List Piece
  | [] => []
  | piece :: rest =>
      match piece, joinTexts rest with
      | .text s, .text t :: others => .text (s ++ t) :: others
      | _, others => piece :: others

/-- The pieces of parts. -/
def resolve (parts : List Part) : List Piece :=
  let delimiters := delimitersOf parts
  let markAt (place : Nat) : Option Char :=
    (delimiters.find? fun d => d.1 == place).map fun d => d.2.mark
  let found := roles markAt (matchDelimiters delimiters)
  let roleAt (place : Nat) : Option Role := (found.find? fun r => r.1 == place).map Prod.snd
  moveTildes (parts.zipIdx.flatMap fun (part, place) =>
    (piecesOf roleAt part place).map fun piece => (part == .loneTilde, piece))

/-- The parts of the label of a link; there are no links in it. -/
def labelParts (definitions : Definitions) (address : String) (label : List Char) : List Part :=
  let link := Span.link address
  let measured := measure definitions label
  let parts :=
    partsAfter definitions (fun _ label => textPart label) '[' [] 0 measured.text measured.sizes
  [.pieces (.opens link :: resolve parts ++ [.closes link])]

/-- The pieces of a text. -/
def pieces (definitions : Definitions) (text : List Char) : List Piece :=
  let measured := measure definitions text
  joinTexts (resolve
    (partsAfter definitions (labelParts definitions) ' ' [] 0 measured.text measured.sizes))

end Parley.Markdown
