import Parley.Screen.State

/-!
# Running the screen

A run connects the screen to an endpoint.  The worker of each turn gets the next
answer, and passes on what its exchange shows until the server falls silent or the
exchange ends.  After every input, everything that is pending is handled before the
next one.
-/

namespace Parley.Screen

/-- A screen with the exchange of its worker. -/
structure Run where
  screen : Screen
  config : Config
  /-- The answers of the server, in the order of the requests. -/
  answers : List Answer
  /-- The answer once these are used up. -/
  otherwise : Answer
  /-- How many turns were connected to the server. -/
  connected : Nat := 0
  /-- The exchange of the worker. -/
  exchange : Option StreamState := none
  /-- The requests that reached the server. -/
  requests : List SentRequest := []

namespace Run

variable [Wire.Platform]

/-- The worker passes signals on; when the exchange has ended, it ends too. -/
def proceed (run : Run) (step : List Signal × StreamState) : Run :=
  let screen := step.1.foldl workerSignal run.screen
  match step.2 with
  | .ended outcome => { run with screen := screen.workerEnds outcome, exchange := none }
  | state => { run with screen, exchange := some state }

/-- Connects a turn that has just begun. -/
def connect (run : Run) (worker : Worker) : Run :=
  let (request, signals, state) :=
    Turn.opening run.config worker.messages (run.answers.headD run.otherwise)
  { run with
    connected := worker.turn + 1
    answers := if request.isSome then run.answers.drop 1 else run.answers
    requests := run.requests ++ request.toList }.proceed (signals, state)

/-- Connects the worker, unless it is connected already. -/
def connectWorker (run : Run) : Run :=
  match run.screen.worker with
  | some worker => if run.connected ≤ worker.turn then run.connect worker else run
  | none => run

/-- Does something as often as given, unless the screen was left. -/
def repeatOn (f : Screen → Screen) : Nat → Screen → Screen
  | 0, screen => screen
  | n + 1, screen => if screen.exited then screen else repeatOn f n (f screen)

/-- Handles what is in the two queues. -/
def drain (render : Renderer) (screen : Screen) : Screen :=
  let told := repeatOn (handleNotice render) (4 * screen.notices.length) screen
  repeatOn (handlePosted render) told.posted.length told

/-- Handles what is pending, connects a worker, and handles what that brings. -/
def settle (render : Renderer) (run : Run) : Run :=
  let drained := { run with screen := drain render run.screen }
  if drained.screen.exited then drained
  else
    let connected := drained.connectWorker
    { connected with screen := drain render connected.screen }

/-- Does something with the screen, and everything that follows. -/
def act (render : Renderer) (run : Run) (f : Screen → Screen) : Run :=
  { run with screen := f run.screen }.settle render

/-- The server goes on. -/
def release (render : Renderer) (run : Run) : Run :=
  match run.exchange with
  | some state => (run.proceed (state.resume run.config)).settle render
  | none => run

end Run

end Parley.Screen
