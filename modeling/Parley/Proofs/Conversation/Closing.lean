import Parley.Proofs.Inline.Conduct

/-!
# The closing event of a turn

Whatever the client of a turn does, the turn hands over the pieces of the reply in their
order and then one closing event.  It closes its relay with this event, so nothing that is
told to the relay afterwards reaches the interface.
-/

namespace Parley

/-! ## Calls that come too late -/

namespace Relay

/-- A call to a relay that would hand an event over. -/
inductive Call
  | delta (text : String)
  | done (error : Option Failure) (result : Option StreamResult)
  deriving Repr, DecidableEq

def take (relay : Relay) : Call → List Delivery × Relay
  | .delta text => (relay.delta text, relay)
  | .done error result => relay.done error result

def takeAll (relay : Relay) : List Call → List Delivery × Relay
  | [] => ([], relay)
  | call :: rest =>
      let taken := relay.take call
      let others := taken.2.takeAll rest
      (taken.1 ++ others.1, others.2)

variable {relay : Relay}

theorem take_of_finished (hfinished : relay.finished = true) (call : Call) :
    relay.take call = ([], relay) := by
  cases call with
  | delta text => rw [take, delta, if_pos hfinished]
  | done error result => rw [take, done, if_pos hfinished]

/-- A relay that is closed hands nothing over. -/
theorem takeAll_of_finished (hfinished : relay.finished = true) (calls : List Call) :
    relay.takeAll calls = ([], relay) := by
  induction calls with
  | nil => rfl
  | cons call rest ih => rw [takeAll, take_of_finished hfinished, ih, List.append_nil]

theorem finished_done (relay : Relay) (error : Option Failure) (result : Option StreamResult) :
    (relay.done error result).2.finished = true := by
  rw [done]
  split
  case isTrue hfinished => exact hfinished
  case isFalse => rfl

end Relay

namespace Turn

open Screen (Ending)

/-! ## What a client does -/

/-- Whether an exchange is still going on. -/
def goesOn : StreamState → Bool
  | .ended _ => false
  | _ => true

/-- What the client of a turn does: it hands signals over and waits, until it ends with the
last signals or is cancelled while it waits. -/
inductive Course
  | waits (signals : List Signal) (state : StreamState) (going : goesOn state = true)
      (rest : Course)
  | ends (signals : List Signal) (ending : Ending)
  | cancelled

namespace Course

/-- The pieces of the reply that a client hands over. -/
def deltas : Course → List String
  | waits signals _ _ rest => signals.filterMap Signal.delta? ++ rest.deltas
  | ends signals _ => signals.filterMap Signal.delta?
  | cancelled => []

/-- How a client ends, unless it is cancelled. -/
def ending? : Course → Option Ending
  | waits _ _ _ rest => rest.ending?
  | ends _ ending => some ending
  | cancelled => none

/-- Carries a turn out: what it hands over, the turn afterwards, and what escapes. -/
def run (turn : Turn) : Course → List Delivery × Turn × Option Escape
  | waits signals state _ rest =>
      let next := turn.proceed (signals, state)
      let later := rest.run next.2
      (next.1 ++ later.1, later.2)
  | ends signals ending =>
      let last := turn.proceed (signals, .ended ending.outcome)
      (last.1, last.2, last.2.escape? false)
  | cancelled =>
      let last := turn.cancel
      (last.1, last.2, turn.escape? true)

end Course

/-! ## One step -/

theorem proceed_of_goesOn {state : StreamState} (hgoing : goesOn state = true) (turn : Turn)
    (signals : List Signal) :
    turn.proceed (signals, state) =
      (signals.flatMap (deliver turn.relay turn.traced), { turn with state }) := by
  cases state with
  | reading reader rest => rfl
  | refused status data rest => rfl
  | ended outcome => exact Bool.noConfusion hgoing

theorem isRunning_of_goesOn {state : StreamState} (hgoing : goesOn state = true) (relay : Relay)
    (traced : Bool) : isRunning ⟨relay, traced, state⟩ = true := by
  cases state with
  | reading reader rest => rfl
  | refused status data rest => rfl
  | ended outcome => exact Bool.noConfusion hgoing

theorem finished_close (relay : Relay) (ending : Ending) :
    (close relay ending.outcome).2.finished = true := by
  cases ending with
  | replied result => exact relay.finished_done _ _
  | failed cause going =>
      cases cause with
      | stop request kind text => exact Bool.noConfusion going
      | _ => exact relay.finished_done _ _

theorem stop?_of_ending (relay : Relay) (traced : Bool) (ending : Ending) :
    stop? ⟨relay, traced, .ended ending.outcome⟩ = none := by
  cases ending with
  | replied result => rfl
  | failed cause going => exact if_neg (Bool.eq_false_iff.mp going)

/-! ## Whole turns -/

/-- A turn that is over: the events it has handed over are those of the pieces and one
closing event, and its relay is closed. -/
structure Closes (pieces : List String) (error : Option Failure) (result : Option StreamResult)
    (deliveries : List Delivery) (relay : Relay) : Prop where
  events : deliveries.filterMap Delivery.event? = pieces.map Event.delta ++ [.done error result]
  finished : relay.finished = true

section Open

variable {turn : Turn} (hopen : turn.relay.finished = false)
include hopen

/-- What a client hands over before it waits comes before all that follows. -/
theorem Closes.proceed {state : StreamState} (hgoing : goesOn state = true)
    (signals : List Signal) {pieces : List String} {error : Option Failure}
    {result : Option StreamResult} {later : List Delivery} {relay : Relay}
    (h : Closes pieces error result later relay) :
    Closes (signals.filterMap Signal.delta? ++ pieces) error result
      ((turn.proceed (signals, state)).1 ++ later) relay := by
  refine ⟨?_, h.finished⟩
  rw [proceed_of_goesOn hgoing, List.filterMap_append, h.events,
    filterMap_event?_flatMap_deliver hopen, List.map_append, List.append_assoc]

theorem closes_proceed_ended (signals : List Signal) (ending : Ending) :
    let last := turn.proceed (signals, .ended ending.outcome)
    Closes (signals.filterMap Signal.delta?) ending.failure? ending.result? last.1
      last.2.relay := by
  refine ⟨?_, finished_close turn.relay ending⟩
  have hlast : (turn.proceed (signals, .ended ending.outcome)).1 =
      signals.flatMap (deliver turn.relay turn.traced) ++
        (close turn.relay ending.outcome).1 := rfl
  rw [hlast, List.filterMap_append, filterMap_event?_flatMap_deliver hopen,
    Screen.filterMap_event?_close hopen]

theorem closes_cancel :
    Closes [] (some .cancelled) none turn.cancel.1 turn.cancel.2.relay :=
  ⟨Screen.filterMap_event?_done hopen _ _, turn.relay.finished_done _ _⟩

end Open

namespace Course

/-- What the closing event tells and what escapes, by how the client ends. -/
def Tells (ending : Option Ending) (error : Option Failure) (result : Option StreamResult)
    (escape : Option Escape) : Prop :=
  match ending with
  | some (.replied reply) => error = none ∧ result = some reply ∧ escape = none
  | some (.failed cause _) => error = some cause ∧ result = none ∧ escape = none
  | none =>
      error = some (.chat (.interrupted "request cancelled" "")) ∧ result = none ∧
        escape = some .cancellation

theorem tells_ending (ending : Ending) :
    Tells (some ending) ending.failure? ending.result? none := by
  cases ending with
  | replied result => exact ⟨rfl, rfl, rfl⟩
  | failed cause going => exact ⟨rfl, rfl, rfl⟩

theorem exists_closes (course : Course) {turn : Turn} (hopen : turn.relay.finished = false)
    (hrunning : turn.isRunning = true) :
    ∃ error result,
      Closes course.deltas error result (course.run turn).1 (course.run turn).2.1.relay ∧
      Tells course.ending? error result (course.run turn).2.2 := by
  induction course generalizing turn with
  | waits signals state hgoing rest ih =>
      have hnext := proceed_of_goesOn hgoing turn signals
      have hopen' : (turn.proceed (signals, state)).2.relay.finished = false := by
        rw [hnext]
        exact hopen
      have hrunning' : (turn.proceed (signals, state)).2.isRunning = true := by
        rw [hnext]
        exact isRunning_of_goesOn hgoing _ _
      obtain ⟨error, result, hcloses, htells⟩ := ih hopen' hrunning'
      exact ⟨error, result, hcloses.proceed hopen hgoing signals, htells⟩
  | ends signals ending =>
      refine ⟨ending.failure?, ending.result?, closes_proceed_ended hopen signals ending, ?_⟩
      have hescape : (turn.proceed (signals, .ended ending.outcome)).2.escape? false = none :=
        congrArg (Option.map Escape.stop) (stop?_of_ending _ turn.traced ending)
      rw [run, hescape]
      exact tells_ending ending
  | cancelled =>
      refine ⟨some .cancelled, none, closes_cancel hopen, rfl, rfl, ?_⟩
      rw [run, escape?, hrunning]
      rfl

/-- Whatever the client of a turn does, and whatever is told to the relay afterwards, the
interface gets the pieces of the reply in their order and then one closing event.  The event
tells the result, the failure of the client, or that the turn was cancelled; and nothing
escapes but the cancellation. -/
theorem events_run (course : Course) {turn : Turn} (hopen : turn.relay.finished = false)
    (hrunning : turn.isRunning = true) (late : List Relay.Call) :
    let told := course.run turn
    let after := told.2.1.relay.takeAll late
    ∃ error result,
      told.1.filterMap Delivery.event? = course.deltas.map .delta ++ [.done error result] ∧
      after.1 = [] ∧ after.2.finished = true ∧
      Tells course.ending? error result told.2.2 := by
  intro told after
  obtain ⟨error, result, hcloses, htells⟩ := exists_closes course hopen hrunning
  have hafter : after = ([], told.2.1.relay) := Relay.takeAll_of_finished hcloses.finished late
  refine ⟨error, result, hcloses.events, ?_, ?_, htells⟩
  · rw [hafter]
  · rw [hafter]
    exact hcloses.finished

/-- A client that hands two pieces over and is cancelled before the third. -/
def brokenOff : Course :=
  .waits [.delta "a"] (.refused 200 [] []) rfl
    (.waits [.trace ⟨"debug", "HTTP", "t"⟩, .delta "b"] (.refused 200 [] []) rfl .cancelled)

theorem events_run_brokenOff :
    let turn : Turn := ⟨.start true true, true, .refused 200 [] []⟩
    let told := brokenOff.run turn
    let after := told.2.1.relay.takeAll [.delta "c", .done none (some ⟨"abc", none, 3⟩)]
    turn.relay.finished = false ∧ turn.isRunning = true ∧
    told.1.filterMap Delivery.event? =
      [.delta "a", .delta "b", .done (some .cancelled) none] ∧
    after.1 = [] ∧ told.2.2 = some .cancellation := by
  intro turn told after
  have hopen : turn.relay.finished = false := rfl
  have hrunning : turn.isRunning = true := rfl
  obtain ⟨error, result, hevents, hlate, -, herror, hresult, hescape⟩ :=
    events_run brokenOff hopen hrunning [.delta "c", .done none (some ⟨"abc", none, 3⟩)]
  rw [herror, hresult] at hevents
  exact ⟨hopen, hrunning, hevents, hlate, hescape⟩

end Course

end Turn

end Parley
