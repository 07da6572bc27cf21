import Parley.Markdown.Character

/-!
# Emphasis

Runs of `*`, `_` and `~` may open and close emphasis.  Whether they can is decided
by the characters around a run; which of them belong together is decided from left
to right, each closing delimiter taking the nearest opening one that fits.
-/

namespace Parley.Markdown

/-- One delimiter: a star, an underscore or two tildes. -/
structure Delimiter where
  mark : Char
  /-- The length of the run that it belongs to; for tildes it does not count. -/
  run : Nat
  opens : Bool
  closes : Bool
  deriving Repr, DecidableEq

namespace Delimiter

/-- Whether a run may open and whether it may close emphasis, given the characters on
its sides.  Inside a word, only runs with `inWord` can do both. -/
def flanks (before after : Char) (inWord : Bool) : Bool × Bool :=
  let left := !isWhite after && (!isPunctuation after || isWhite before || isPunctuation before)
  let right := !isWhite before && (!isPunctuation before || isWhite after || isPunctuation after)
  (left && (inWord || !right || isPunctuation before),
    right && (inWord || !left || isPunctuation after))

/-- Whether two delimiters fit together.  Where one of them can do both, the lengths of
their runs must not add up to a multiple of three, unless both are one. -/
def fits (opener closer : Delimiter) : Bool :=
  opener.mark == closer.mark &&
    !((opener.closes || closer.opens) && (opener.run + closer.run) % 3 == 0 &&
      (opener.run % 3 != 0 || closer.run % 3 != 0))

end Delimiter

/-- Delimiters that were matched so far. -/
structure Matching where
  /-- The delimiters that can still be closed, with their places, the last one first. -/
  openers : List (Nat × Delimiter) := []
  /-- How many of them belong to the run that is being read. -/
  current : Nat := 0
  /-- The place after the run that is being read, and its mark. -/
  next : Option (Nat × Char) := none
  /-- The places of the pairs. -/
  pairs : List (Nat × Nat) := []

namespace Matching

/-- Keeps a delimiter that closes nothing. -/
def keep (m : Matching) (place : Nat) (d : Delimiter) : Matching :=
  let next := some (place + 1, d.mark)
  if d.opens then { m with openers := (place, d) :: m.openers, current := m.current + 1, next }
  else { m with next }

/-- Reads a delimiter.  Those of its own run are not looked at, and a match leaves out
what stands between its two ends. -/
def read (m : Matching) (place : Nat) (d : Delimiter) : Matching :=
  let m := { m with current := if m.next = some (place, d.mark) then m.current else 0 }
  if d.closes then
    match (m.openers.drop m.current).dropWhile fun opener => !opener.2.fits d with
    | (start, _) :: rest => ⟨rest, 0, none, (start, place) :: m.pairs⟩
    | [] => m.keep place d
  else m.keep place d

end Matching

/-- The pairs among delimiters with ascending places, the last opening one first. -/
def matchDelimiters (delimiters : List (Nat × Delimiter)) : List (Nat × Nat) :=
  let found := delimiters.foldl (fun (m : Matching) (place, d) => m.read place d) {}
  found.pairs.mergeSort fun a b => b.1 ≤ a.1

/-- A way to emphasise. -/
inductive Stress
  | emphasis
  | strong
  | strike
  deriving Repr, DecidableEq

/-- What becomes of a matched delimiter. -/
inductive Role
  | opens (stress : Stress)
  | closes (stress : Stress)
  /-- It is part of a longer one beside it. -/
  | silent
  deriving Repr, DecidableEq

/-- The roles of matched delimiters.  Two pairs right inside each other are one strong
emphasis. -/
def roles (markAt : Nat → Option Char) : List (Nat × Nat) → List (Nat × Role)
  | [] => []
  | [(start, stop)] =>
      let stress := if markAt start = some '~' then Stress.strike else .emphasis
      [(start, .opens stress), (stop, .closes stress)]
  | (start, stop) :: (start', stop') :: rest =>
      if markAt start = some '~' then
        (start, .opens .strike) :: (stop, .closes .strike) :: roles markAt ((start', stop') :: rest)
      else if start' + 1 = start && stop + 1 = stop' && markAt start' = markAt start then
        (start, .opens .strong) :: (stop, .closes .strong) :: (start', .silent) ::
          (stop', .silent) :: roles markAt rest
      else
        (start, .opens .emphasis) :: (stop, .closes .emphasis) ::
          roles markAt ((start', stop') :: rest)

end Parley.Markdown
