import Parley.Terminal.Escape

/-!
# Plain output

What the program writes may go to a file or to another program.  Sequences that
control a terminal are left out of a text that is written there: the escape
character, an opening bracket, parameters, and a letter.
-/

namespace Parley.CommandLine

open Terminal

/-- Whether a character may stand among the parameters of a control sequence. -/
def isParameter (c : Char) : Bool :=
  c.isDigit || c == ';' || c == '?'

/-- The number of characters of the control sequence that a text begins with. -/
def controlLength? : List Char → Option Nat
  | escape :: '[' :: rest =>
      let parameters := rest.takeWhile isParameter
      match rest.drop parameters.length with
      | last :: _ =>
          if escape == escapeChar && last.isAlpha then some (parameters.length + 3) else none
      | [] => none
  | _ => none

/-- A text without its control sequences, after `skip` characters that belong to
one. -/
def withoutControls (skip : Nat) : List Char → List Char
  | [] => []
  | c :: rest =>
      match skip, controlLength? (c :: rest) with
      | more + 1, _ => withoutControls more rest
      | 0, some length => withoutControls (length - 1) rest
      | 0, none => c :: withoutControls 0 rest

/-- A text as it is written where no terminal is. -/
def plainOutput (text : String) : String :=
  String.ofList (withoutControls 0 text.toList)

end Parley.CommandLine
