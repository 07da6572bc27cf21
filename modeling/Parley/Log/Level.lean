import Parley.Number.Read

/-!
# Log levels

What happens during an exchange is traced.  Every trace has a level, and a
receiver shows the traces at or above its own.
-/

namespace Parley

/-- How much a trace matters. -/
inductive Level
  | debug
  | info
  | warning
  | error
  deriving Repr, DecidableEq

namespace Level

/-- All levels, from the least to the greatest. -/
def all : List Level :=
  [debug, info, warning, error]

/-- The rank of a level. -/
def rank : Level → Int
  | debug => 10
  | info => 20
  | warning => 30
  | error => 40

/-- The word for a level. -/
def word : Level → String
  | debug => "debug"
  | info => "info"
  | warning => "warning"
  | error => "error"

/-- The name of a level as it is shown. -/
def name (level : Level) : String :=
  level.word.toUpper

/-- The name of a rank, which need not be the rank of a level. -/
def nameOfRank (rank : Int) : String :=
  ((all.find? fun level => level.rank == rank).map name).getD "UNKNOWN"

/-- The level of a word in any letter case. -/
def ofWord? (s : String) : Option Level :=
  all.find? fun level => level.word.toList == lowerAscii s.toList

/-- The level of a word; words that name no level count as the least level. -/
def ofWord (s : String) : Level :=
  (ofWord? s).getD debug

/-- Whether a trace of this level passes a threshold. -/
def reaches (level threshold : Level) : Bool :=
  threshold.rank ≤ level.rank

end Level

/-- A trace of what happens.  Its level is given by a word, which receivers read
with `Level.ofWord`. -/
structure Trace where
  level : String
  component : String
  message : String
  deriving Repr, DecidableEq

end Parley
