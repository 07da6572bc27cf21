import Parley.Number.Read
import Parley.Terminal.Line

/-!
# Escape sequences

A terminal is told about styles by escape sequences in the text.  `write` puts
them around the runs of a line, and `read` takes a text with escape sequences
apart into styled lines: codes change the style of what follows, links are kept,
and all other sequences vanish.
-/

namespace Parley.Terminal

/-- The escape character. -/
def escapeChar : Char := '\x1b'

/-- The text that begins and ends with a link target. -/
def linkMark (link : List Char) : List Char :=
  escapeChar :: "]8;".toList ++ link ++ [escapeChar, '\\']

/-- A run as a terminal understands it; without colours only the text is left. -/
def Run.write (colored : Bool) (run : Run) : List Char :=
  if run.text.isEmpty || !colored then run.text
  else
    let codes := run.style.codes
    let body :=
      if codes.isEmpty then run.text
      else
        escapeChar :: '[' :: (String.intercalate ";" (codes.map toString)).toList ++
          'm' :: run.text ++ [escapeChar, '[', '0', 'm']
    match run.style.link with
    | some link => linkMark ("id=0;".toList ++ link.toList) ++ body ++ linkMark [';']
    | none => body

/-- A line as a terminal understands it. -/
def Line.write (colored : Bool) (line : Line) : List Char :=
  line.flatMap (Run.write colored)

namespace Escape

/-- A part of a text with escape sequences. -/
inductive Token
  | text (s : List Char)
  /-- The codes of a style, as they are written. -/
  | codes (s : List Char)
  /-- A command of the operating system, such as a link. -/
  | command (s : List Char)
  | other
  deriving Repr, DecidableEq

/-- The text up to the sequence that ends a command, and the rest after it. -/
def takeCommand : List Char → Option (List Char × List Char)
  | [] => none
  | c :: rest =>
      match c, rest with
      | '\x1b', '\\' :: after => some ([], after)
      | _, _ => (takeCommand rest).map fun found => (c :: found.1, found.2)

/-- Whether a character lies between two others. -/
def between (low high c : Char) : Bool :=
  low ≤ c && c ≤ high

/-- Reads what follows an escape character, if it is a sequence.  Returns how many
characters it takes. -/
def sequence? (s : List Char) : Option (Token × Nat) :=
  match s with
  | [] => none
  | c :: rest =>
      if between '0' '?' c then some (.other, 1)
      else if c = ']' then
        match takeCommand rest with
        | some (body, _) => some (.command body, body.length + 3)
        | none => some (.other, 1)
      else if c = '(' then some (.other, 2)
      else if c = '[' then
        let parameters := rest.takeWhile (between '0' '?')
        let between1 := (rest.drop parameters.length).takeWhile (between ' ' '/')
        let body := parameters ++ between1
        match rest.drop body.length with
        | final :: _ =>
            if between '@' '~' final then
              some (if final = 'm' then .codes body else .other, body.length + 2)
            else none
        | [] => none
      else if between '@' 'Z' c || between '\\' '_' c then some (.other, 1)
      else none

/-- Cuts a line into texts and sequences, given the text so far backwards and how
many characters are part of a sequence that was read. -/
def tokensAfter (text : List Char) (skip : Nat) : List Char → List Token
  | [] => if text.isEmpty then [] else [.text text.reverse]
  | c :: rest =>
      match skip with
      | more + 1 => tokensAfter text more rest
      | 0 =>
          match if c = escapeChar then sequence? rest else none with
          | some (token, size) =>
              (if text.isEmpty then [] else [.text text.reverse]) ++
                token :: tokensAfter [] size rest
          | none => tokensAfter (c :: text) 0 rest

/-- The tokens of a line. -/
def tokens (s : List Char) : List Token :=
  tokensAfter [] 0 s

/-- The numbers of a list of codes; what is no number is left out. -/
def numbers (s : List Char) : List Nat :=
  (Text.pieces (· == ';') s).filterMap fun code =>
    if code.all Char.isDigit then some (min 255 (digitsValue code)) else none

/-- The style that a code adds. -/
def codeStyle (code : Nat) : Style :=
  match Attribute.all.find? fun a => a.code == code with
  | some a => .attributes [a]
  | none =>
      if code = 22 then .without [.dim, .bold]
      else if code = 23 then .without [.italic]
      else if code = 24 then .without [.underline]
      else if code = 25 then .without [.blink]
      else if code = 26 then .without [.fastBlink]
      else if code = 27 then .without [.reverse]
      else if code = 28 then .without [.conceal]
      else if code = 29 then .without [.strike]
      else if code = 54 then .without [.frame, .encircle]
      else if code = 55 then .without [.overline]
      else if 30 ≤ code && code ≤ 37 then .colored (.standard (code - 30))
      else if code = 39 then .colored .plain
      else if 40 ≤ code && code ≤ 47 then .onColor (.standard (code - 40))
      else if code = 49 then .onColor .plain
      else if 90 ≤ code && code ≤ 97 then .colored (.standard (code - 82))
      else if 100 ≤ code && code ≤ 107 then .onColor (.standard (code - 92))
      else .none

/-- Adds a colour to a style, as its foreground or its background. -/
def addColor (background : Bool) (style : Style) (color : Color) : Style :=
  style.add (if background then .onColor color else .colored color)

/-- The style after a list of codes. -/
def applyCodes (style : Style) : List Nat → Style
  | [] => style
  | code :: rest =>
      if code = 0 then applyCodes .none rest
      else if code = 38 || code = 48 then
        match rest with
        | [] => style
        | kind :: rest =>
            if kind = 5 then
              match rest with
              | [] => style
              | index :: rest => applyCodes (addColor (code = 48) style (.ofIndex index)) rest
            else if kind = 2 then
              match rest with
              | red :: green :: blue :: rest =>
                  applyCodes (addColor (code = 48) style (.rgb red green blue)) rest
              | _ => style
            else applyCodes style rest
      else applyCodes (style.add (codeStyle code)) rest

/-- The style after a command: a command that starts with `8;` sets or ends a
link. -/
def applyCommand (style : Style) (body : List Char) : Style :=
  match body with
  | '8' :: ';' :: rest =>
      let parameters := rest.takeWhile (· != ';')
      match rest.drop parameters.length with
      | ';' :: link =>
          { style with link := if link.isEmpty then none else some (String.ofList link) }
      | _ => style
  | _ => style

/-- The line that tokens make up, and the style after it. -/
def assemble (style : Style) : List Token → Line × Style
  | [] => ([], style)
  | .text s :: rest =>
      let (line, after) := assemble style rest
      (Line.ofChars (Styled.kept s) style ++ line, after)
  | .codes s :: rest => assemble (applyCodes style (numbers s)) rest
  | .command s :: rest => assemble (applyCommand style s) rest
  | .other :: rest => assemble style rest

/-- What remains of a line after the last return in it. -/
def afterReturn (line : List Char) : List Char :=
  (line.reverse.takeWhile (· != '\r')).reverse

/-- Reads lines, the style carrying over from one to the next. -/
def readLines (style : Style) : List (List Char) → Styled
  | [] => []
  | line :: rest =>
      let (found, after) := assemble style (tokens (afterReturn line))
      found :: readLines after rest

/-- Reads a text with escape sequences. -/
def read (s : String) : Styled :=
  readLines .none (Text.lines s.toList)

end Escape

end Parley.Terminal
