import Parley.Markdown.Address

/-!
# Parts of links

A link names its destination directly or through a definition with the same label.
Destinations, titles and labels are read here; each reader returns what is left of
the text.
-/

namespace Parley.Markdown

/-- How deep parentheses in a destination may be nested. -/
def maxParentheses : Nat := 32

/-- The destination between angle brackets, given what follows the first one. -/
def angleDestination? : List Char → Option (List Char × List Char)
  | [] => none
  | '\n' :: _ => none
  | '<' :: _ => none
  | '>' :: rest => some ([], rest)
  | ['\\'] => none
  | '\\' :: c :: rest => (angleDestination? rest).map fun (s, after) => ('\\' :: c :: s, after)
  | c :: rest => (angleDestination? rest).map fun (s, after) => (c :: s, after)

/-- The destination without angle brackets, given the number of open parentheses. -/
def bareDestination? (depth : Nat) : List Char → Option (List Char × List Char)
  | [] => if depth = 0 then some ([], []) else none
  | '\\' :: ' ' :: rest => if depth = 0 then some ([], '\\' :: ' ' :: rest) else none
  | '\\' :: c :: rest => (bareDestination? depth rest).map fun (s, after) => ('\\' :: c :: s, after)
  | c :: rest =>
      if c.toNat ≤ 0x20 || c.toNat = 0x7F || (c = ')' && depth = 0) then
        if depth = 0 then some ([], c :: rest) else none
      else
        let depth := if c = '(' then depth + 1 else if c = ')' then depth - 1 else depth
        if maxParentheses < depth then none
        else (bareDestination? depth rest).map fun (s, after) => (c :: s, after)

/-- The destination at the start of a text. -/
def destination? (s : List Char) : Option (List Char × List Char) :=
  match s with
  | '<' :: rest => (angleDestination? rest).map fun (s, after) => (unescape s, after)
  | _ =>
      match bareDestination? 0 s with
      | some ([], _) => none
      | some (found, after) => some (unescape found, after)
      | none => none

/-- The title up to its closing mark, with escapes in it. -/
def titleBody? (mark : Char) : List Char → Option (List Char × List Char)
  | [] => none
  | '\\' :: c :: rest => (titleBody? mark rest).map fun (s, after) => ('\\' :: c :: s, after)
  | c :: rest =>
      if c = mark then some ([], rest)
      else if c = '(' && mark = ')' then none
      else (titleBody? mark rest).map fun (s, after) => (c :: s, after)

/-- The title at the start of a text. -/
def title? (s : List Char) : Option (List Char × List Char) :=
  match s with
  | '"' :: rest => titleBody? '"' rest
  | '\'' :: rest => titleBody? '\'' rest
  | '(' :: rest => titleBody? ')' rest
  | _ => none

/-- The rest after spaces, tabs and line feeds. -/
def skipGaps (s : List Char) : List Char :=
  s.dropWhile isGap

/-- The title that stands after a gap, and the rest; without one, the rest after the
gap. -/
def titleAfterGap? (s : List Char) : Option (List Char × List Char) :=
  let start := skipGaps s
  if start.length < s.length then title? start else none

/-! ## Labels -/

/-- A label as it is compared: blanks and case do not count. -/
def foldLabel (label : List Char) : List Char :=
  ([' '].intercalate (Text.words label)).flatMap fun c =>
    if c = 'ß' || c = 'ẞ' then ['s', 's'] else [Wire.HostName.lowerLetter c]

/-- A label with the address it stands for. -/
structure Definition where
  label : List Char
  address : String
  deriving Repr, DecidableEq

/-- Definitions in the order in which they were made. -/
abbrev Definitions := List Definition

/-- The address of a label; its first definition counts. -/
def Definitions.find? (definitions : Definitions) (label : List Char) : Option String :=
  let folded := foldLabel label
  (List.find? (fun (d : Definition) => d.label == folded) definitions).map Definition.address

/-- The label of a definition up to its closing bracket, given what follows the
opening one. -/
def definitionLabel? : List Char → Option (List Char × List Char)
  | [] => none
  | '[' :: _ => none
  | ']' :: rest => some ([], rest)
  | ['\\'] => none
  | '\\' :: c :: rest => (definitionLabel? rest).map fun (s, after) => ('\\' :: c :: s, after)
  | c :: rest => (definitionLabel? rest).map fun (s, after) => (c :: s, after)

/-- What is left of a text if the current line holds nothing more. -/
def lineEnd? (s : List Char) : Option (List Char) :=
  match s.dropWhile isSpace with
  | [] => some []
  | c :: rest => if c = '\n' then some (c :: rest) else none

/-- What is left after a destination and the title that may follow it.  A title that is
followed by something else is not one, and then only the destination counts. -/
def afterTitle? (s : List Char) : Option (List Char) :=
  match titleAfterGap? s with
  | some (title, rest) => lineEnd? rest <|> if title.isEmpty then none else lineEnd? s
  | none => lineEnd? s

/-- The definition at the start of a text, and what is left of the text from the end
of the line on. -/
def definition? (s : List Char) : Option (Definition × List Char) :=
  match s with
  | '[' :: rest =>
      match definitionLabel? rest with
      | some (label, ':' :: rest) =>
          match destination? (skipGaps rest) with
          | some (destination, rest) =>
              match Address.ofDestination? destination, afterTitle? rest with
              | some address, some left =>
                  let label := foldLabel label
                  if label.isEmpty then none else some (⟨label, address⟩, left)
              | _, _ => none
          | none => none
      | _ => none
  | _ => none

end Parley.Markdown
