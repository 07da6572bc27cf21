import Parley.Log.Sink

/-!
# The log panel

The log panel keeps the traces that reach its level, one line of markup each.  Its
border says at which level it shows, or that it is hidden.
-/

namespace Parley.Screen

/-- The log panel. -/
structure LogPanel where
  /-- The least rank that is logged. -/
  threshold : Int := Level.debug.rank
  shown : Bool := false
  subtitle : String := "Trace log"
  /-- The logged lines. -/
  lines : List String := []
  deriving Repr, DecidableEq

namespace LogPanel

/-- The words for the colour of a rank. -/
def rankColor (rank : Int) : String :=
  match Level.all.find? fun level => level.rank == rank with
  | some .debug => "dim white"
  | some .info => "cyan"
  | some .warning => "yellow"
  | some .error => "red"
  | none => "white"

/-- The words for the colour of a component. -/
def componentColor (component : String) : String :=
  if component = "TUI" then "cyan"
  else if component = "HTTP" then "magenta"
  else if component = "Stream" then "bright_yellow"
  else "white"

/-- A text in a colour, as markup. -/
def inColor (color text : String) : String :=
  "[" ++ color ++ "]" ++ text ++ "[/]"

/-- A logged line. -/
def line (time : Log.Timestamp) (component message : String) (rank : Int) : String :=
  let name := Level.nameOfRank rank
  inColor "dim" time ++ " " ++
    inColor (rankColor rank) (name ++ Text.replicateText (5 - name.length) ' ') ++ " " ++
    inColor (componentColor component) ("\\[" ++ component ++ "]") ++ " " ++
    Terminal.Markup.escape message

/-- Logs a message. -/
def log (panel : LogPanel) (time : Log.Timestamp) (component message : String) (rank : Int) :
    LogPanel :=
  if rank < panel.threshold then panel
  else { panel with lines := panel.lines ++ [line time component message rank] }

/-- Logs a trace. -/
def trace (panel : LogPanel) (time : Log.Timestamp) (t : Trace) : LogPanel :=
  panel.log time t.component t.message (Level.ofWord t.level).rank

/-- What the border says. -/
def label (panel : LogPanel) : String :=
  if panel.shown then "Level: " ++ Level.nameOfRank panel.threshold else "Hidden"

/-- Updates the border. -/
def relabel (panel : LogPanel) : LogPanel :=
  { panel with subtitle := panel.label }

/-- Sets the least rank that is logged. -/
def setThreshold (panel : LogPanel) (rank : Int) : LogPanel :=
  { panel with threshold := rank }.relabel

/-- Shows or hides the panel. -/
def setShown (panel : LogPanel) (shown : Bool) : LogPanel :=
  { panel with shown }.relabel

/-- Shows the panel at a level that was asked for. -/
def enable (panel : LogPanel) (time : Log.Timestamp) (level : String) : LogPanel :=
  ((panel.setThreshold (Level.ofWord level).rank).setShown true).log time "TUI"
    ("Log panel enabled with level: " ++ level.toUpper) Level.info.rank

end LogPanel

end Parley.Screen
