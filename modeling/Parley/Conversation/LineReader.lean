import Parley.Failure

/-!
# Reading lines

The inline mode reads one line at a time.  The end of the input is no failure:
it reads as no line.
-/

namespace Parley

/-- What a read yields: a line, nothing at the end of the input, or a failure. -/
def readLine (read : Except Failure String) : Except Failure (Option String) :=
  match read with
  | .ok line => .ok (some line)
  | .error (.unexpected .endOfInput ..) => .ok none
  | .error failure => .error failure

end Parley
