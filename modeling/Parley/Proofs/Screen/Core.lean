import Parley.Proofs.Screen.World

/-!
# The core of the screen

A turn goes through a few parts of the screen: the conversation, the worker, the queue
of what was posted, and the count of turns.  What a move does to them depends on them
alone, and of an input they take only the events that it feeds to the conversation.
-/

namespace Parley.Screen

/-- The parts of a screen that a turn goes through. -/
structure Core where
  conversation : Conversation
  worker : Option Worker
  posted : List Posted
  turns : Nat

def core (s : Screen) : Core :=
  ⟨s.conversation, s.worker, s.posted, s.turns⟩

theorem core_refresh (s : Screen) : s.refresh.core = s.core :=
  rfl

theorem core_redrawViews (s : Screen) : s.redrawViews.core = s.core :=
  rfl

/-- What drawing after an event changes is not in the core. -/
theorem core_shown (s : Screen) (event : Event) :
    (match event with
      | .resize .. => s.redrawViews.refresh
      | _ => s.refresh).core = s.core := by
  cases event with
  | resize width height => exact (core_refresh _).trans (core_redrawViews s)
  | edit text => exact core_refresh s
  | submit => exact core_refresh s
  | delta text => exact core_refresh s
  | done error result => exact core_refresh s
  | quit => exact core_refresh s

/-- An event that begins no turn changes nothing of the core but the conversation. -/
theorem core_feed {s : Screen} {render : Renderer} {event : Event} {next : Conversation}
    {action : Action} (hhandle : s.conversation.handle render event = (next, action))
    (haction : action ≠ .startTurn) :
    (s.feed render event).core = { s.core with conversation := next } := by
  rw [feed, dispatch, hhandle]
  cases action with
  | startTurn => exact absurd rfl haction
  | clear => exact core_shown _ event
  | quit => rfl
  | none => exact core_shown _ event
  | render => exact core_shown _ event

/-- The events that the worker, if there is one, posts of what its relay hands over. -/
def postedBy (said : Relay → List Delivery) (worker : Option Worker) : List Posted :=
  worker.elim [] fun worker =>
    ((said worker.relay).filterMap Delivery.event?).map (Posted.mk worker.turn)

/-- The deliveries of a worker that is cancelled. -/
def farewell (relay : Relay) : List Delivery :=
  (relay.done (some .cancelled) none).1

theorem core_workerSignal (s : Screen) (signal : Signal) :
    (s.workerSignal signal).core =
      { s.core with
        posted := s.posted ++
          postedBy (fun relay => Turn.deliver relay true signal) s.worker } := by
  rw [workerSignal]
  cases hworker : s.worker with
  | none =>
      rw [postedBy, Option.elim_none, List.append_nil]
      rfl
  | some worker => rfl

theorem core_workerEnds (s : Screen) (outcome : Except Failure StreamResult) :
    (s.workerEnds outcome).core =
      { s.core with
        worker := none
        posted := s.posted ++
          postedBy (fun relay => (Turn.close relay outcome).1) s.worker } := by
  rw [workerEnds]
  cases hworker : s.worker with
  | none =>
      rw [postedBy, Option.elim_none, List.append_nil, core, hworker]
  | some worker => rfl

theorem core_cancelWorker (s : Screen) :
    s.cancelWorker.core =
      { s.core with worker := none, posted := s.posted ++ postedBy farewell s.worker } := by
  rw [cancelWorker]
  cases hworker : s.worker with
  | none =>
      rw [postedBy, Option.elim_none, List.append_nil, core, hworker]
  | some worker => rfl

/-- A turn that begins cancels the worker, if there is one, and starts the next. -/
theorem core_beginTurn (s : Screen) :
    s.beginTurn.core =
      ⟨s.conversation, some ⟨s.turns, s.conversation.history, Relay.start true false⟩,
        s.posted ++ postedBy farewell s.worker, s.turns + 1⟩ := by
  rw [beginTurn, cancelWorker]
  split
  · rename_i worker hrunning
    have hworker : s.worker = some worker := hrunning
    rw [hworker]
    rfl
  · rename_i hnone
    have hworker : s.worker = none := hnone
    rw [hworker, postedBy, Option.elim_none, List.append_nil]
    rfl

theorem core_feed_startTurn {s : Screen} {render : Renderer} {event : Event}
    {next : Conversation}
    (hhandle : s.conversation.handle render event = (next, .startTurn)) :
    (s.feed render event).core =
      ⟨next, some ⟨s.turns, next.history, Relay.start true false⟩,
        s.posted ++ postedBy farewell s.worker, s.turns + 1⟩ := by
  rw [feed, dispatch, hhandle]
  exact (core_shown _ event).trans (core_beginTurn _)

/-- What an event does to the core depends on the core only. -/
theorem core_feed_congr {s t : Screen} (hcore : s.core = t.core) (render : Renderer)
    (event : Event) : (s.feed render event).core = (t.feed render event).core := by
  have hconversation : s.conversation = t.conversation := congrArg Core.conversation hcore
  rcases hhandle : s.conversation.handle render event with ⟨next, action⟩
  have hother := hhandle
  rw [hconversation] at hother
  by_cases haction : action = .startTurn
  · subst haction
    have hworker : s.worker = t.worker := congrArg Core.worker hcore
    have hposted : s.posted = t.posted := congrArg Core.posted hcore
    have hturns : s.turns = t.turns := congrArg Core.turns hcore
    rw [core_feed_startTurn hhandle, core_feed_startTurn hother, hworker, hposted, hturns]
  · rw [core_feed hhandle haction, core_feed hother haction, hcore]

theorem core_foldl_feed_congr {s t : Screen} (hcore : s.core = t.core) (render : Renderer)
    (events : List Event) :
    (events.foldl (feed render) s).core = (events.foldl (feed render) t).core := by
  induction events generalizing s t with
  | nil => exact hcore
  | cons event rest ih => exact ih (core_feed_congr hcore render event)

/-! ## Inputs -/

theorem core_handle (render : Renderer) (s : Screen) (notice : Notice) :
    (s.handle render notice).core =
      ((Input.eventsOf notice).foldl (feed render) s).core := by
  cases notice with
  | changed text =>
      rcases hdispatch : s.dispatch render (.edit text) with ⟨fed, action⟩
      have hfed : (Input.eventsOf (.changed text)).foldl (feed render) s = fed :=
        congrArg Prod.fst hdispatch
      rw [hfed, handle, hdispatch]
      dsimp only
      split
      · rfl
      · rfl
  | submitted text => rfl

/-- The core of a screen takes from an input only the events that it feeds. -/
theorem core_apply (render : Renderer) (s : Screen) (given : Input) :
    (given.apply render s).core = ((given.events s).foldl (feed render) s).core := by
  cases given with
  | edit text => rfl
  | submit => rfl
  | quit => rfl
  | paste text => rfl
  | typeText text => rfl
  | resize width height => rfl
  | tick =>
      rw [Input.apply, tick]
      split
      · rfl
      · rfl
  | notice =>
      rw [Input.apply, handleNotice, Input.events]
      cases hnotices : s.notices with
      | nil => rfl
      | cons notice rest =>
          rw [core_handle]
          have hrest : core { s with notices := rest } = s.core := rfl
          exact core_foldl_feed_congr hrest render (Input.eventsOf notice)
  | press key =>
      cases key with
      | clearChat =>
          rw [Input.apply, press, clearChat, Input.events]
          split
          · rfl
          · rfl
      | copyReply =>
          rw [Input.apply, press, copyReply]
          split
          · rfl
          · rfl
      | char c => rfl
      | left => rfl
      | toEnd => rfl
      | backspace => rfl
      | delete => rfl
      | up => rfl
      | down => rfl
      | enter => rfl
      | quit => rfl
      | toggleLog => rfl

end Parley.Screen
