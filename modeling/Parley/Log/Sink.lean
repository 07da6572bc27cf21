import Parley.Log.Level
import Parley.Terminal.Console

/-!
# Traces on a console

A console can receive traces: it prints those that reach its level, one line each,
with the time, the level and the component.
-/

namespace Parley.Log

/-- The time that traces are stamped with. -/
abbrev Timestamp := String

/-- A level name of five characters at least. -/
def paddedName (level : Level) : String :=
  level.name ++ Text.replicateText (5 - level.name.length) ' '

/-- A trace as a line. -/
def line (time : Timestamp) (trace : Trace) : String :=
  time ++ " " ++ paddedName (.ofWord trace.level) ++ " [" ++ trace.component ++ "] " ++
    trace.message

/-- What a console with a threshold prints for a trace. -/
def print (console : Terminal.Console) (time : Timestamp) (threshold : Level) (trace : Trace) :
    String :=
  if (Level.ofWord trace.level).reaches threshold then
    console.printPlain (line time trace) (.attributes [.dim])
  else ""

end Parley.Log
