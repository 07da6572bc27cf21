import Parley.Terminal.Line
import Parley.Terminal.PictureTable

/-!
# Markup

A text for the terminal may hold tags in brackets: a tag opens a style, and a
tag with a slash closes one.  Tags that name no style are accepted and change
nothing; a tag that closes what is not open is an error.  A backslash before a
tag makes it ordinary text.  Names between colons stand for pictures.
-/

namespace Parley.Terminal

/-- Why markup is refused. -/
inductive MarkupError
  | notOpen (tag : String) (position : Nat)
  | nothingOpen (position : Nat)
  deriving Repr, DecidableEq

namespace MarkupError

/-- The sentence that says why. -/
def message : MarkupError → String
  | notOpen tag position =>
      "closing tag '" ++ tag ++ "' at position " ++ toString position ++
        " doesn't match any open tag"
  | nothingOpen position =>
      "closing tag '[/]' at position " ++ toString position ++ " has nothing to close"

end MarkupError

namespace Markup

/-! ## Pictures -/

/-- The lower-case form of a character, as far as names of pictures are concerned. -/
def lowered (c : Char) : Char :=
  if ('A' ≤ c && c ≤ 'Z') || ('À' ≤ c && c ≤ 'Þ' && c != '×') then Char.ofNat (c.toNat + 32)
  else if c = '\u212a' then 'k'
  else if c = '\u212b' then 'å'
  else c

/-- The endings of a name that ask for the coloured or the plain form, with the
selectors of these forms. -/
def variants : List (String × Char) := [("-emoji", '\ufe0f'), ("-text", '\ufe0e')]

/-- The picture of a name. -/
def picture? (name : List Char) : Option (List Char) :=
  let lower := name.map lowered
  lower.head?.bind fun first =>
    (pictures.lookup first).bind fun named =>
      (named.lookup (String.ofList lower)).map fun codes => codes.map Char.ofNat

/-- The picture of a name that may ask for a form. -/
def namedPicture? (name : List Char) : Option (List Char) :=
  match variants.find? fun v => v.1.toList.reverse.isPrefixOf name.reverse with
  | some v => (picture? (name.take (name.length - v.1.length))).map (· ++ [v.2])
  | none => picture? name

/-- The name between the colon that a text starts with and the next one. -/
def colonName? (rest : List Char) : Option (List Char) :=
  let name := rest.takeWhile fun c => c != ':' && !Text.isBlank c
  if (rest.drop name.length).head? = some ':' then some name else none

/-- Replaces names between colons, given how many characters are to be kept as they
are and how many are replaced already. -/
def replaceAfter (keep skip : Nat) : List Char → List Char
  | [] => []
  | c :: rest =>
      match skip, keep with
      | more + 1, _ => replaceAfter 0 more rest
      | 0, more + 1 => c :: replaceAfter more 0 rest
      | 0, 0 =>
          match if c = ':' then colonName? rest else none with
          | some name =>
              match namedPicture? name with
              | some shown => shown ++ replaceAfter 0 (name.length + 1) rest
              | none => c :: replaceAfter (name.length + 1) 0 rest
          | none => c :: replaceAfter 0 0 rest

/-- Replaces the names of pictures between colons. -/
def replacePictures (s : List Char) : List Char :=
  replaceAfter 0 0 s

/-! ## Tags -/

/-- A part of a text with markup. -/
inductive Piece
  | text (s : List Char)
  | tag (position : Nat) (body : List Char)
  deriving Repr, DecidableEq

/-- Whether a tag may start with this character. -/
def isTagStart (c : Char) : Bool :=
  ('a' ≤ c && c ≤ 'z') || c == '#' || c == '/' || c == '@'

/-- The body of the tag that a text starts with. -/
def tagBody? (s : List Char) : Option (List Char) :=
  match s with
  | '[' :: c :: rest =>
      if isTagStart c then
        let tail := rest.takeWhile fun d => d != ']' && d != '['
        if (rest.drop tail.length).head? = some ']' then some (c :: tail) else none
      else none
  | _ => none

/-- The backslashes and the tag that a text starts with. -/
def escapedTag? (s : List Char) : Option (Nat × List Char) :=
  let slashes := (s.takeWhile (· == '\\')).length
  (tagBody? (s.drop slashes)).map fun body => (slashes, body)

/-- The pieces of backslashes and a tag: every two backslashes stand for one, and
one that is left over makes the tag text. -/
def tagPieces (position slashes : Nat) (body : List Char) : List Piece :=
  (if slashes < 2 then [] else [.text (List.replicate (slashes / 2) '\\')]) ++
    [if slashes % 2 = 1 then .text ('[' :: body ++ [']'])
      else .tag (position + slashes / 2 * 2) body]

/-- A text that was read backwards, as a piece. -/
def flush (text : List Char) : List Piece :=
  if text.isEmpty then [] else [.text text.reverse]

/-- Cuts a text into pieces, given the position, the text so far backwards, and how
many characters belong to a tag that was read. -/
def piecesAfter (position : Nat) (text : List Char) (skip : Nat) : List Char → List Piece
  | [] => flush text
  | c :: rest =>
      match skip with
      | more + 1 => piecesAfter (position + 1) text more rest
      | 0 =>
          match if c = '\\' || c = '[' then escapedTag? (c :: rest) else none with
          | some (slashes, body) =>
              flush text ++ tagPieces position slashes body ++
                piecesAfter (position + 1) [] (slashes + body.length + 1) rest
          | none => piecesAfter (position + 1) (c :: text) 0 rest

/-- The pieces of a text with markup. -/
def pieces (s : List Char) : List Piece :=
  piecesAfter 0 [] 0 s

/-- Removes the backslashes before brackets that start no tag. -/
def unescapeBrackets : List Char → List Char
  | [] => []
  | '\\' :: '[' :: rest => '[' :: unescapeBrackets rest
  | c :: rest => c :: unescapeBrackets rest

/-! ## Styles -/

/-- A style that is open: its name in normal form, and what it sets. -/
structure OpenStyle where
  name : String
  style : Style
  deriving Repr, DecidableEq

/-- The words of a name. -/
def nameWords (name : List Char) : List String :=
  (Text.words name).map String.ofList

/-- The normal form of the name of a style, so that two names of one style agree. -/
def normalName (name : List Char) : String :=
  if name.all Text.isBlank then "none"
  else
    match Style.ofWords? .none (nameWords name) with
    | some style => style.describe
    | none => String.ofList ((Text.strip name).map Char.toLower)

/-- A tag as an open style.  What stands after an equals sign is its parameter. -/
def openStyle (body : List Char) : OpenStyle :=
  let name := body.takeWhile (· != '=')
  let parameter := (body.drop name.length).drop 1
  let whole := if name.length = body.length then name else name ++ ' ' :: parameter
  ⟨normalName name, (Style.ofWords? .none (nameWords whole)).getD .none⟩

/-- The styles that stay open when one is closed; the innermost comes first. -/
def closeStyle (name : String) : List OpenStyle → Option (List OpenStyle)
  | [] => none
  | top :: rest => if top.name = name then some rest else (closeStyle name rest).map (top :: ·)

/-- The style that open styles amount to. -/
def currentStyle (opened : List OpenStyle) : Style :=
  opened.foldr (fun top style => style.add top.style) .none

/-- Turns pieces into styled texts, given the open styles. -/
def style (opened : List OpenStyle) : List Piece → Except MarkupError (List Styled)
  | [] => .ok []
  | .text s :: rest =>
      (style opened rest).map fun texts =>
        Styled.ofChars (replacePictures (unescapeBrackets s)) (currentStyle opened) :: texts
  | .tag position body :: rest =>
      match body with
      | '/' :: name =>
          let stripped := Text.strip (name.takeWhile (· != '='))
          if stripped.isEmpty then
            match opened with
            | [] => .error (.nothingOpen position)
            | _ :: others => style others rest
          else
            match closeStyle (normalName stripped) opened with
            | some others => style others rest
            | none => .error (.notOpen (String.ofList ('[' :: body ++ [']'])) position)
      | _ => style (openStyle body :: opened) rest

/-- Reads a text with markup. -/
def read (s : String) : Except MarkupError Styled :=
  (style [] (pieces s.toList)).map Styled.join

/-- A text without markup, in which only the names of pictures are replaced. -/
def plain (s : String) (style : Style := .none) : Styled :=
  Styled.ofChars (replacePictures s.toList) style

/-- Puts a backslash before what would be a tag, and doubles the backslashes before
it. -/
def escapeAfter (skip : Nat) : List Char → List Char
  | [] => []
  | c :: rest =>
      match skip with
      | more + 1 => c :: escapeAfter more rest
      | 0 =>
          match if c = '\\' || c = '[' then escapedTag? (c :: rest) else none with
          | some (slashes, body) =>
              List.replicate (slashes + 1) '\\' ++ c :: escapeAfter (slashes + body.length + 1) rest
          | none => c :: escapeAfter 0 rest

/-- Writes a text so that it reads as itself. -/
def escape (s : String) : String :=
  let written := escapeAfter 0 s.toList
  let slashes := (written.reverse.takeWhile (· == '\\')).length
  String.ofList (if slashes = 1 then written ++ ['\\'] else written)

end Markup

end Parley.Terminal
