import Parley.Text.Quoted

/-!
# Styles

A style turns attributes on or off and may set a foreground, a background and a
link.  Styles add up: what the later one says wins, and the rest stays.
-/

namespace Parley.Terminal

/-- A colour. -/
inductive Color
  /-- The colour that the terminal uses if none is set. -/
  | plain
  /-- One of the sixteen colours that every terminal has. -/
  | standard (index : Nat)
  | indexed (index : Nat)
  | rgb (red green blue : Nat)
  deriving Repr, DecidableEq

namespace Color

/-- A colour with a number below 256. -/
def ofIndex (n : Nat) : Color :=
  if n < 16 then standard n else indexed n

/-- The colour of a number with eight bits for each of its three parts. -/
def ofCode (code : Nat) : Color :=
  rgb (code / 0x10000 % 0x100) (code / 0x100 % 0x100) (code % 0x100)

/-- The names of the standard colours. -/
def names : List String := [
  "black", "red", "green", "yellow", "blue", "magenta", "cyan", "white", "bright_black",
  "bright_red", "bright_green", "bright_yellow", "bright_blue", "bright_magenta", "bright_cyan",
  "bright_white"]

/-- The name of a colour. -/
def name : Color → String
  | plain => "default"
  | standard index => names.getD index ""
  | indexed index => "color(" ++ toString index ++ ")"
  | rgb red green blue =>
      "#" ++ String.ofList (Text.hexDigits 2 red ++ Text.hexDigits 2 green ++ Text.hexDigits 2 blue)

/-- The value of a hexadecimal number. -/
def hexNumber? (s : List Char) : Option Nat :=
  s.foldl (fun value c => value.bind fun n =>
    if c.isDigit then some (n * 16 + (c.toNat - 48))
    else if 'a' ≤ c && c ≤ 'f' then some (n * 16 + (c.toNat - 87))
    else none) (some 0)

/-- The colour of a name in lower case. -/
def ofName? (s : String) : Option Color :=
  if s = "default" then some plain
  else
    match names.findIdx? (· == s), s.toList with
    | some index, _ => some (standard index)
    | none, '#' :: digits => if digits.length = 6 then (hexNumber? digits).map ofCode else none
    | none, _ => none

/-- The codes that select a colour, for the foreground or the background. -/
def codes (background : Bool) : Color → List Nat
  | plain => [if background then 49 else 39]
  | standard index =>
      let base := if index < 8 then 30 + index else 82 + index
      [if background then base + 10 else base]
  | indexed index => [if background then 48 else 38, 5, index]
  | rgb red green blue => [if background then 48 else 38, 2, red, green, blue]

end Color

/-- An attribute of shown text. -/
inductive Attribute
  | bold
  | dim
  | italic
  | underline
  | blink
  | fastBlink
  | reverse
  | conceal
  | strike
  | doubleUnderline
  | frame
  | encircle
  | overline
  deriving Repr, DecidableEq

namespace Attribute

/-- All attributes, in the order in which their codes are written. -/
def all : List Attribute := [
  bold, dim, italic, underline, blink, fastBlink, reverse, conceal, strike, doubleUnderline, frame,
  encircle, overline]

/-- The code of an attribute. -/
def code : Attribute → Nat
  | bold => 1
  | dim => 2
  | italic => 3
  | underline => 4
  | blink => 5
  | fastBlink => 6
  | reverse => 7
  | conceal => 8
  | strike => 9
  | doubleUnderline => 21
  | frame => 51
  | encircle => 52
  | overline => 53

/-- The names of an attribute, the usual one first. -/
def names : Attribute → List String
  | bold => ["bold", "b"]
  | dim => ["dim", "d"]
  | italic => ["italic", "i"]
  | underline => ["underline", "u"]
  | blink => ["blink"]
  | fastBlink => ["blink2"]
  | reverse => ["reverse", "r"]
  | conceal => ["conceal", "c"]
  | strike => ["strike", "s"]
  | doubleUnderline => ["underline2", "uu"]
  | frame => ["frame"]
  | encircle => ["encircle"]
  | overline => ["overline", "o"]

/-- The attribute of a name. -/
def ofName? (s : String) : Option Attribute :=
  all.find? fun a => a.names.contains s

end Attribute

/-- A style. -/
structure Style where
  on : List Attribute := []
  off : List Attribute := []
  foreground : Option Color := none
  background : Option Color := none
  link : Option String := none
  deriving Repr, DecidableEq, Inhabited

namespace Style

/-- The style that sets nothing. -/
def none : Style := {}

/-- A style that sets attributes. -/
def attributes (on : List Attribute) : Style := { on }

/-- A style that sets a foreground. -/
def colored (color : Color) : Style := { foreground := color }

/-- A style that sets a foreground and turns its text bold. -/
def boldColored (color : Color) : Style := { on := [.bold], foreground := color }

/-- A style that sets a background. -/
def onColor (color : Color) : Style := { background := color }

/-- Two styles on top of each other; `upper` wins. -/
def add (lower upper : Style) : Style where
  on := (lower.on.filter fun a => !upper.off.contains a && !upper.on.contains a) ++ upper.on
  off := (lower.off.filter fun a => !upper.off.contains a && !upper.on.contains a) ++ upper.off
  foreground := upper.foreground <|> lower.foreground
  background := upper.background <|> lower.background
  link := upper.link <|> lower.link

/-- Turns attributes off. -/
def without (off : List Attribute) : Style := { off }

/-- The style as words. -/
def describe (style : Style) : String :=
  let shown := Attribute.all.filterMap fun a =>
    if style.on.contains a then a.names.head?
    else if style.off.contains a then a.names.head?.map ("not " ++ ·)
    else Option.none
  let words := shown ++ (style.foreground.map Color.name).toList ++
    (style.background.map fun color => "on " ++ color.name).toList ++
    (style.link.map fun link => "link " ++ link).toList
  if words.isEmpty then "none" else String.intercalate " " words

/-- A word in lower case. -/
def lowerWord (word : String) : String :=
  String.ofList (word.toList.map Char.toLower)

/-- The style of a word that stands alone: an attribute or a foreground. -/
def ofWord? (word : String) : Option Style :=
  match Attribute.ofName? (lowerWord word) with
  | some a => some (attributes [a])
  | Option.none => (Color.ofName? (lowerWord word)).map colored

/-- The style of two words that belong together: a background, an attribute that is
turned off, or a link. -/
def ofPair? (word next : String) : Option Style :=
  if lowerWord word = "on" then (Color.ofName? (lowerWord next)).map onColor
  else if lowerWord word = "not" then (Attribute.ofName? next).map fun a => without [a]
  else if lowerWord word = "link" then some { link := next }
  else Option.none

/-- Whether a word needs another one after it. -/
def isPairWord (word : String) : Bool :=
  ["on", "not", "link"].contains (lowerWord word)

/-- Reads a style from words, on top of another one. -/
def ofWords? (style : Style) : List String → Option Style
  | [] => some style
  | [word] => (ofWord? word).map style.add
  | word :: next :: rest =>
      if isPairWord word then
        match ofPair? word next with
        | some upper => ofWords? (style.add upper) rest
        | Option.none => Option.none
      else
        match ofWord? word with
        | some upper => ofWords? (style.add upper) (next :: rest)
        | Option.none => Option.none

/-- The codes that a style is written with. -/
def codes (style : Style) : List Nat :=
  (Attribute.all.filter style.on.contains).map Attribute.code ++
    (style.foreground.map (Color.codes false)).getD [] ++
    (style.background.map (Color.codes true)).getD []

end Style

end Parley.Terminal
