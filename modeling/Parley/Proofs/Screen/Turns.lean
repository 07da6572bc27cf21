import Parley.Proofs.Screen.Coupling

/-!
# Turns on the screen

What the coupling of conversation, worker and queue comes to: one worker at most, a queue
that holds events of the current turn in their order, and a history in which each reply is
what its own worker has emitted.
-/

namespace Parley.Screen

theorem mem_queued {turn : Nat} {pieces : List String} {closing : List Event}
    {posted : Posted} (hposted : posted ∈ queued turn pieces closing) :
    posted.turn = turn := by
  obtain ⟨event, -, hevent⟩ := List.mem_map.mp hposted
  rw [← hevent]

theorem map_event_queued (turn : Nat) (pieces : List String) (closing : List Event) :
    (queued turn pieces closing).map Posted.event = pieces.map Event.delta ++ closing := by
  rw [queued, List.map_map]
  exact List.map_id _

theorem Working.length_le {turn : Nat} {worker : Option Worker} {closing : List Event}
    (h : Working turn worker closing) :
    closing.length ≤ 1 ∧ ∀ event ∈ closing, isClosing event = true := by
  cases h with
  | runs => exact ⟨Nat.zero_le 1, fun event hevent => absurd hevent List.not_mem_nil⟩
  | ended error result =>
      refine ⟨Nat.le_refl 1, fun event hevent => ?_⟩
      rw [List.mem_singleton.mp hevent]
      rfl

/-- A turn is underway for as long as its worker runs or its closing event is queued. -/
theorem Working.runs_or_closing {turn : Nat} {worker : Option Worker} {closing : List Event}
    (h : Working turn worker closing) :
    worker ≠ none ∨ ∃ event ∈ closing, isClosing event = true := by
  cases h with
  | runs => exact Or.inl (Option.some_ne_none _)
  | ended error result => exact Or.inr ⟨_, List.mem_cons_self, rfl⟩

theorem Working.pieces {turn : Nat} {worker : Option Worker} {closing : List Event}
    (h : Working turn worker closing) (pieces : List String) :
    (pieces.map Event.delta ++ closing).filterMap piece? = pieces := by
  have hclosing : closing.filterMap piece? = [] := by
    cases h with
    | runs => rfl
    | ended error result => rfl
  have hpieces : piece? ∘ Event.delta = some := rfl
  rw [List.filterMap_append, hclosing, List.append_nil, List.filterMap_map, hpieces,
    List.filterMap_some]

namespace Coupled

variable {c : Core} {records : List TurnRecord} {running : List Nat}

theorem length_running_le (h : Coupled c records running) : running.length ≤ 1 := by
  rw [h.running, List.length_map]
  cases c.worker with
  | none => exact Nat.zero_le 1
  | some worker => exact Nat.le_refl 1

theorem running_current (h : Coupled c records running) :
    ∀ turn ∈ running, turn + 1 = c.turns := by
  intro turn hturn
  rw [h.running] at hturn
  obtain ⟨worker, hworker, hnumber⟩ := List.mem_map.mp hturn
  rw [Option.mem_toList] at hworker
  obtain ⟨past, current, pieces, -, -, hcurrent, hworkerTurn, -⟩ :=
    h.flow.underway_of_worker hworker
  rw [← hnumber, hworkerTurn, hcurrent.turn]

theorem streaming_iff (h : Coupled c records running) :
    c.conversation.streaming = true ↔
      c.worker ≠ none ∨ ∃ posted ∈ c.posted, isClosing posted.event = true := by
  cases h.flow with
  | idle hstreaming hworker hposted hclosed =>
      rw [hstreaming, hworker, hposted]
      simp
  | @underway past current pieces closing hclosed hturn =>
      refine iff_of_true hturn.streaming ?_
      obtain hruns | ⟨event, hevent, hclosing⟩ := hturn.working.runs_or_closing
      · exact Or.inl hruns
      · refine Or.inr ⟨⟨current.turn, event⟩, ?_, hclosing⟩
        rw [hturn.posted]
        exact List.mem_map_of_mem (List.mem_append_right _ hevent)

/-- Only the current turn is not closed yet. -/
theorem unclosed_current (h : Coupled c records running) :
    ∀ record ∈ records, record.closed = none →
      c.conversation.streaming = true ∧ record.turn + 1 = c.turns := by
  intro record hrecord hunclosed
  cases h.flow with
  | idle hstreaming hworker hposted hclosed =>
      exact absurd hunclosed (hclosed record hrecord)
  | underway pieces closing hclosed hturn =>
      obtain hearlier | hlast := List.mem_append.mp hrecord
      · exact absurd hunclosed (hclosed record hearlier)
      · rw [List.mem_singleton.mp hlast]
        exact ⟨hturn.streaming, hturn.turn⟩

theorem posted_current (h : Coupled c records running) :
    ∀ posted ∈ c.posted, c.conversation.streaming = true ∧ posted.turn + 1 = c.turns := by
  intro posted hmem
  cases h.flow with
  | idle hstreaming hworker hposted hclosed =>
      rw [hposted] at hmem
      exact absurd hmem List.not_mem_nil
  | underway pieces closing hclosed hturn =>
      rw [hturn.posted] at hmem
      exact ⟨hturn.streaming, (congrArg (· + 1) (mem_queued hmem)).trans hturn.turn⟩

theorem posted_order (h : Coupled c records running) :
    ∃ (pieces : List String) (closing : List Event),
      c.posted.map Posted.event = pieces.map Event.delta ++ closing ∧
      closing.length ≤ 1 ∧ ∀ event ∈ closing, isClosing event = true := by
  cases h.flow with
  | idle hstreaming hworker hposted hclosed =>
      rw [hposted]
      exact ⟨[], [], rfl, Nat.zero_le 1, fun event hevent => absurd hevent List.not_mem_nil⟩
  | underway pieces closing hclosed hturn =>
      refine ⟨pieces, closing, ?_, hturn.working.length_le⟩
      rw [hturn.posted, map_event_queued]

theorem reply_emitted (h : Coupled c records running)
    (hstreaming : c.conversation.streaming = true) :
    ∃ past current, records = past ++ [current] ∧ current.turn + 1 = c.turns ∧
      c.conversation.reply ++ String.join ((c.posted.map Posted.event).filterMap piece?) =
        current.text := by
  cases h.flow with
  | idle hidle => exact absurd (hidle.symm.trans hstreaming) Bool.false_ne_true
  | @underway past current pieces closing hclosed hturn =>
      refine ⟨past, current, rfl, hturn.turn, ?_⟩
      rw [hturn.posted, map_event_queued, hturn.working.pieces, hturn.reply]

end Coupled

namespace World

/-- In whichever order the moves of the user, the worker and the queue come, at most one
worker runs, that of the current turn.  The conversation is streaming exactly while it
runs or its closing event is queued.  The queue holds events of the current turn only,
the closing event once and last.  What the conversation has of the reply and what is
queued of it is what the worker has emitted.  Every turn but the current one was closed,
and each turn in the history has the question and, once it was closed, all that its own
worker emitted. -/
theorem turns_run_start (render : Renderer) (config : Config) (time : Log.Timestamp)
    (width height : Int) (logLevel : Option String) (moves : List Move) :
    let first := Screen.start render config time width height logLevel
    let w := (start first).run render moves
    let s := w.screen
    s = moves.foldl (Move.apply render) first ∧
    (w.running = s.worker.toList.map Worker.turn ∧ w.running.length ≤ 1 ∧
      ∀ turn ∈ w.running, turn + 1 = s.turns) ∧
    (s.conversation.streaming = true ↔
      s.worker ≠ none ∨ ∃ posted ∈ s.posted, isClosing posted.event = true) ∧
    (∀ posted ∈ s.posted, s.conversation.streaming = true ∧ posted.turn + 1 = s.turns) ∧
    (∃ (pieces : List String) (closing : List Event),
      s.posted.map Posted.event = pieces.map Event.delta ++ closing ∧
      closing.length ≤ 1 ∧ ∀ event ∈ closing, isClosing event = true) ∧
    (s.conversation.streaming = true → ∃ past current, w.records = past ++ [current] ∧
      current.turn + 1 = s.turns ∧
      s.conversation.reply ++ String.join ((s.posted.map Posted.event).filterMap piece?) =
        current.text) ∧
    (∀ record ∈ w.records, record.closed = none →
      s.conversation.streaming = true ∧ record.turn + 1 = s.turns) ∧
    s.conversation.history = w.records.flatMap TurnRecord.messages := by
  intro first w s
  have hcoupled : w.Coupled :=
    coupled_run (coupled_start render config time width height logLevel) render moves
  refine ⟨screen_run render _ moves,
    ⟨hcoupled.running, hcoupled.length_running_le, hcoupled.running_current⟩,
    hcoupled.streaming_iff, hcoupled.posted_current, hcoupled.posted_order,
    hcoupled.reply_emitted, hcoupled.unclosed_current, hcoupled.history⟩

/-- A turn whose worker has ended while a piece of the reply and the closing event are
still queued.  The user edits, submits and clears meanwhile. -/
def midway : List Move :=
  [.input (.edit " hello "), .input .submit, .signal (.delta "one "), .deliver,
    .input (.edit "more"), .signal (.delta "two"), .input .submit,
    .ends (.replied ⟨"one two", none, 2⟩), .input (.press .clearChat), .cancel]

theorem turns_run_start_midway :
    let w := (start (Screen.start (fun text _ => text)
      ⟨"e", "k", "m", Config.defaultTimeout⟩ "t" 80 24 none)).run (fun text _ => text) midway
    let s := w.screen
    s.conversation.streaming = true ∧ s.worker = none ∧
      s.posted.map Posted.event = [.delta "two", .done none (some ⟨"one two", none, 2⟩)] ∧
      (∃ past current, w.records = past ++ [current] ∧ current.turn + 1 = s.turns ∧
        s.conversation.reply ++ String.join ((s.posted.map Posted.event).filterMap piece?) =
          current.text) ∧
      s.conversation.reply = "one " ∧ s.conversation.history = [⟨.user, "hello"⟩] := by
  intro w s
  have hstreaming : s.conversation.streaming = true := by decide +kernel
  obtain ⟨-, -, -, -, -, hreply, -⟩ := turns_run_start (fun text _ => text)
    ⟨"e", "k", "m", Config.defaultTimeout⟩ "t" 80 24 none midway
  exact ⟨hstreaming, by decide +kernel, by decide +kernel, hreply hstreaming,
    by decide +kernel, by decide +kernel⟩

end World

end Parley.Screen
