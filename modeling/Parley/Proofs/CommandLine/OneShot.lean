import Parley.CommandLine.Run
import Parley.Proofs.CommandLine.PlainOutput
import Parley.Proofs.Exchange.Containment
import Parley.Proofs.Exchange.EventStream

/-!
# Sending one message

A command line with a message sends it and writes what arrives of the reply, piece by
piece.  Whether the reply is complete or fails after some pieces, nothing is added to them;
what is left out of them are the control sequences, as long as they stand in one piece.
-/

namespace Parley

section Sending

variable [Wire.Platform]

theorem Exchange.isStop_of_unsent {config : Config} {messages : List Message} {stream : Bool}
    {failure : Failure} (hunsent : (start config messages stream).request = .error failure) :
    failure.isStop = false := by
  rw [start] at hunsent
  cases hbody : Request.encode config.model messages stream with
  | error problems =>
      rw [hbody] at hunsent
      rw [← Except.error.inj hunsent]
      rfl
  | ok body =>
      rw [hbody] at hunsent
      cases obstacle_of_address hunsent with
      | address => rfl
      | header => rfl

/-- Unless the server asks the program to stop, no exchange does. -/
theorem StreamRun.isStop_of_failed {config : Config} {messages : List Message} {answer : Answer}
    {failure : Failure} (hserver : ∀ cause ∈ answer.failures, cause.isStop = false)
    (hfailed : (run config messages answer).outcome = .error failure) :
    failure.isStop = false := by
  cases hstart : (Exchange.start config messages true).request with
  | error cause =>
      rw [run_of_unsent hstart] at hfailed
      rw [← Except.error.inj hfailed]
      exact Exchange.isStop_of_unsent hstart
  | ok request =>
      cases hseen : answer.seen? with
      | none =>
          rcases outcome_of_unseen hseen hstart with
            ⟨result, houtcome, -⟩ | ⟨status, body, houtcome, -⟩
          · exact absurd (houtcome.symm.trans hfailed) (by simp)
          · rw [← Except.error.inj (houtcome.symm.trans hfailed)]
            rfl
      | some cause =>
          have houtcome := (outcome_of_seen? hseen hstart).1
          rw [← Except.error.inj (houtcome.symm.trans hfailed), StreamState.failedBy]
          split
          · rfl
          · rcases Answer.mem_of_seen? hseen with hmem | rfl | ⟨-, error, rfl⟩
            · exact hserver cause hmem
            · rfl
            · rfl

namespace CommandLine

omit [Wire.Platform] in
/-- A failure that asks nothing of the program is not seen in the output. -/
theorem output_failing (outcome : Outcome) {failure : Failure} (hgoing : failure.isStop = false) :
    (outcome.failing failure).output = outcome.output := by
  cases failure with
  | stop request kind text => exact absurd hgoing (by simp [Failure.isStop])
  | unexpected fault kind text => cases fault <;> rfl
  | _ => rfl

theorem Manner.output_streamOnce (manner : Manner) (config : Config) (text : String)
    (hserver : ∀ failure ∈ (manner.surroundings.answerAt 0).failures, failure.isStop = false) :
    (manner.streamOnce config text).output = String.join
      ((StreamRun.run config [⟨.user, text⟩] (manner.surroundings.answerAt 0)).deltas.map
        plainOutput) := by
  rw [streamOnce]
  split
  case h_1 => rfl
  case h_2 failure hfailed =>
      exact output_failing _ (StreamRun.isStop_of_failed hserver hfailed)

/-- A command line that can be understood and has a message and valid settings. -/
structure Asks (surroundings : Surroundings) (arguments : List String) (options : ChatOptions)
    (config : Config) : Prop where
  read : Command.read arguments = .ok (.chat options)
  message : options.text ≠ ""
  level : ∀ word, options.logLevel = some word → Level.ofWord? word ≠ none
  settings : Config.choose options.flags surroundings.environment surroundings.now = .ok config

variable {surroundings : Surroundings} {arguments : List String} {options : ChatOptions}
  {config : Config}

omit [Wire.Platform] in
theorem Asks.exists_job (h : Asks surroundings arguments options config) :
    ∃ manner : Manner, manner.surroundings = surroundings ∧
      Job.ofArguments surroundings arguments =
        if options.wholeReply then .ask manner config options.text
        else .stream manner config options.text := by
  have hjob (threshold : Option Level) : Job.ofManner ⟨surroundings, threshold⟩ options =
      if options.wholeReply then .ask ⟨surroundings, threshold⟩ config options.text
      else .stream ⟨surroundings, threshold⟩ config options.text := by
    have hmessage : (!options.text.isEmpty) = true := by simpa using h.message
    rw [Job.ofManner, h.settings]
    exact if_pos hmessage
  rw [Job.ofArguments, h.read]
  dsimp only
  rw [Job.ofOptions]
  cases hlevel : options.logLevel with
  | none => exact ⟨_, rfl, hjob none⟩
  | some word =>
      cases hword : Level.ofWord? word with
      | none => exact absurd hword (h.level word hlevel)
      | some level =>
          refine ⟨⟨surroundings, some level⟩, rfl, ?_⟩
          dsimp only
          rw [hword]
          exact hjob (some level)

/-- The pieces of the reply are written one by one, and nothing else is. -/
theorem Asks.output_streamed (h : Asks surroundings arguments options config)
    (hstream : options.wholeReply = false)
    (hserver : ∀ failure ∈ (surroundings.answerAt 0).failures, failure.isStop = false) :
    (run surroundings arguments).output = String.join
      ((StreamRun.run config [⟨.user, options.text⟩] (surroundings.answerAt 0)).deltas.map
        plainOutput) := by
  obtain ⟨manner, hmanner, hjob⟩ := h.exists_job
  subst hmanner
  rw [hstream] at hjob
  calc (run manner.surroundings arguments).output
      = (manner.streamOnce config options.text).output :=
        congrArg (fun job => (Job.run job).output) hjob
    _ = _ := manner.output_streamOnce config options.text hserver

/-- Whatever the server does short of asking the program to stop, the pieces of the reply
are written one by one and nothing else is.  They are written as they are exactly if no
control sequence stands in one of them, and what is written does not depend on how the reply
is cut into them exactly if none stands in the reply. -/
theorem output_run_streamed (h : Asks surroundings arguments options config)
    (hstream : options.wholeReply = false)
    (hserver : ∀ failure ∈ (surroundings.answerAt 0).failures, failure.isStop = false) :
    let deltas := (StreamRun.run config [⟨.user, options.text⟩] (surroundings.answerAt 0)).deltas
    let output := (run surroundings arguments).output
    output = String.join (deltas.map plainOutput) ∧
    (output = String.join deltas ↔ ∀ delta ∈ deltas, ¬HasControl delta.toList) ∧
    ((∀ cut, String.join cut = String.join deltas →
      String.join (cut.map plainOutput) = output) ↔
        ¬HasControl (String.join deltas).toList) ∧
    (¬HasControl (String.join deltas).toList → output = String.join deltas) := by
  intro deltas output
  have houtput : output = String.join (deltas.map plainOutput) :=
    h.output_streamed hstream hserver
  rw [houtput]
  refine ⟨rfl, join_plainOutput_eq_iff deltas, join_plainOutput_of_cut_iff deltas, ?_⟩
  intro hnone
  apply (join_plainOutput_eq_iff deltas).mpr
  intro delta hdelta hcontrol
  exact hnone (hcontrol.join hdelta)

end CommandLine

end Sending

namespace CommandLine

section Installed

attribute [local instance] Wire.Platform.installed

/-- Surroundings in which the server gives one answer. -/
def answering (answer : Answer) : Surroundings :=
  ⟨[(Config.sessionVariable, "k")], 0, "t", fun _ => answer, ""⟩

theorem asks_answering (answer : Answer) :
    Asks (answering answer) ["chat", "hi"] ⟨["hi"], {}, false, false, none⟩ (.defaults "k") := by
  have htimeout : Config.chosenTimeout {} [(Config.sessionVariable, "k")] =
      .ok (.float Config.defaultTimeout) := rfl
  have hchosen : Config.chosen {} [(Config.sessionVariable, "k")] (.float Config.defaultTimeout) =
      .object [("base_url", .string Config.defaultServer), ("session_key", .string "k"),
        ("model", .string Config.defaultModel), ("timeout", .float Config.defaultTimeout)] := rfl
  refine ⟨rfl, by decide, ?_, ?_⟩
  · intro word hword
    exact absurd hword (Option.some_ne_none word).symm
  · rw [answering, Config.choose, htimeout]
    dsimp only
    rw [hchosen]
    rfl

theorem output_run_streamed_cutReply :
    let surroundings := answering StreamRun.cutReply
    (∀ failure ∈ (surroundings.answerAt 0).failures, failure.isStop = false) ∧
      (run surroundings ["chat", "hi"]).output = "Hé" := by
  intro surroundings
  have hserver : ∀ failure ∈ (surroundings.answerAt 0).failures, failure.isStop = false := by
    decide
  obtain ⟨houtput, -⟩ := output_run_streamed (asks_answering StreamRun.cutReply) rfl hserver
  have hmessage : ChatOptions.text ⟨["hi"], {}, false, false, none⟩ = "hi" := by decide
  have hdeltas : (StreamRun.run (.defaults "k") [⟨.user, "hi"⟩] (surroundings.answerAt 0)).deltas =
      ["Hé"] := StreamRun.deltas_cutReply
  rw [hmessage, hdeltas] at houtput
  exact ⟨hserver, houtput.trans (by decide +kernel)⟩

/-- An answer that streams a reply in pieces, given as they stand in JSON strings. -/
def streaming (contents : List String) : Answer :=
  .complete 200 none [Wire.Utf8.encode <|
    eventStream ['\n'] (contents.map fun content => Chunk.compactText content.toList)]

/-- A reply in one piece, and the same reply cut inside its control sequences. -/
theorem output_run_red :
    let whole := streaming ["a\\u001b[31mred\\u001b[0mb"]
    let cut := streaming ["a\\u001b", "[31mred\\u001b", "[0mb"]
    let deltas (answer : Answer) :=
      (StreamRun.run (.defaults "k") [⟨.user, "hi"⟩] answer).deltas
    let output (answer : Answer) := (run (answering answer) ["chat", "hi"]).output
    (∀ answer ∈ [whole, cut],
      Asks (answering answer) ["chat", "hi"] ⟨["hi"], {}, false, false, none⟩ (.defaults "k") ∧
      answer.failures = [] ∧ String.join (deltas answer) = "a\x1b[31mred\x1b[0mb") ∧
    output whole = "aredb" ∧ output cut = "a\x1b[31mred\x1b[0mb" := by
  intro whole cut deltas output
  have hmessage : ChatOptions.text ⟨["hi"], {}, false, false, none⟩ = "hi" := by decide
  have houtput (answer : Answer) (hserver : answer.failures = []) :
      output answer = String.join ((deltas answer).map plainOutput) := by
    have hstreamed := (asks_answering answer).output_streamed rfl
      (fun failure hfailure => absurd hfailure (by simp [answering, hserver]))
    rwa [hmessage] at hstreamed
  have hwhole : deltas whole = ["a\x1b[31mred\x1b[0mb"] := by decide +kernel
  have hcut : deltas cut = ["a\x1b", "[31mred\x1b", "[0mb"] := by decide +kernel
  simp only [List.forall_mem_cons]
  rw [houtput whole rfl, houtput cut rfl, hwhole, hcut]
  refine ⟨⟨⟨asks_answering whole, rfl, by decide +kernel⟩,
    ⟨asks_answering cut, rfl, by decide +kernel⟩, ?_⟩, by decide +kernel, by decide +kernel⟩
  exact fun _ hanswer => absurd hanswer List.not_mem_nil

end Installed

end CommandLine

end Parley
