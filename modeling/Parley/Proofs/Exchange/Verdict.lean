import Mathlib.Data.List.Basic
import Parley.Exchange.Reply
import Parley.Proofs.Chat.ReplyBody
import Parley.Proofs.Exchange.Interruption

/-!
# What a whole reply comes to

An exchange for a whole reply looks at its answer in a fixed order: whether it arrives,
whether the body can be read, whether it reports an error, whether the status says success,
and whether there is a message.  Here every end of the exchange has its own condition, none
of which mentions an order, and the exchange ends in a given way exactly if the answer meets
the condition for it.  A refusal whose text cannot be decoded is an end of its own, which is no
failure of the chat.
-/

namespace Parley

/-! ## What an answer brings -/

namespace Answer

variable {answer : Answer}

/-- An answer that arrives as a whole, in any number of pieces. -/
def Brings (answer : Answer) (status : Int) (contentType : Option String)
    (data : List Wire.Byte) : Prop :=
  ∃ pieces, answer = .complete status contentType pieces ∧ pieces.flatten = data

theorem exists_brings_of_broken?_eq_none (hwhole : answer.broken? = none) :
    ∃ status contentType data, answer.Brings status contentType data := by
  cases answer with
  | failure cause => exact absurd hwhole (Option.some_ne_none cause)
  | response status contentType body =>
      obtain ⟨pieces, rfl⟩ := Arrival.exists_pieces_of_breakOff?_eq_none hwhole
      exact ⟨status, contentType, pieces.flatten, pieces, rfl, rfl⟩

/-- An answer that arrives as a whole with an error status, and whose body reports no error. -/
structure Refuses (answer : Answer) (status : Int) (contentType : Option String)
    (data : List Wire.Byte) : Prop where
  brings : answer.Brings status contentType data
  status : isSuccess status = false
  quiet : ∀ reply, Reply.ofBytes data = .ok reply → reply.Quiet

/-- A refusal whose text cannot be decoded. -/
def Illegible [Wire.Platform] (answer : Answer) (error : Wire.CodecError) : Prop :=
  ∃ status contentType data, answer.Refuses status contentType data ∧
    (Wire.Codec.ofContentType contentType).readWhole data = .error error

end Answer

/-! ## What an answer leads to -/

namespace ReplyRun

section Sending

variable {config : Config} {messages : List Message} {answer : Answer} {request : SentRequest}
  {failure : Failure}

theorem ofFailure_eq {cause : Failure} (hcause : cause.isConnection = true) :
    ofFailure config cause = .chat (StreamState.brokenBy config false "" cause) := by
  cases cause with
  | deadline text => rfl
  | transport kind text => cases kind <;> rfl
  | chat | address | header | unexpected | stop => exact absurd hcause Bool.false_ne_true

variable [Wire.Platform]

theorem run_of_unsent (hstart : (Exchange.start config messages false).request = .error failure)
    (answer : Answer) :
    run config messages answer =
      ⟨(Exchange.start config messages false).traces, none, .error failure⟩ := by
  rw [run, hstart]

theorem request_run (config : Config) (messages : List Message) (answer : Answer) :
    (run config messages answer).request =
      (Exchange.start config messages false).request.toOption := by
  cases hstart : (Exchange.start config messages false).request with
  | error failure =>
      rw [run_of_unsent hstart]
      rfl
  | ok request =>
      rw [run, hstart]
      rfl

/-- Whether a request is sent does not depend on the answer to it. -/
theorem start_of_sent {sent : SentRequest}
    (hsent : (run config messages answer).request = some sent) :
    (Exchange.start config messages false).request = .ok sent := by
  rw [request_run] at hsent
  cases hstart : (Exchange.start config messages false).request with
  | error failure =>
      rw [hstart] at hsent
      cases hsent
  | ok request =>
      rw [hstart] at hsent
      cases hsent
      rfl

theorem ofAnswer_of_broken {cause : Failure} (hbroken : answer.broken? = some cause)
    (hcause : cause.isConnection = true) :
    (ofAnswer config answer).2 =
      .error (.chat (StreamState.brokenBy config false "" cause)) := by
  rw [← ofFailure_eq hcause]
  cases answer with
  | failure raised => rw [ofAnswer, Option.some.inj hbroken]
  | response status contentType body =>
      rw [ofAnswer, Collected.ofArrivals_eq]
      rcases Arrival.dropWhile_of_breakOff?_eq_some hbroken with
        ⟨rest, hrest⟩ | ⟨rfl, rest, hrest⟩
      · rw [hrest, Collected.ofArrivals]
      · rw [hrest, Collected.ofArrivals]

theorem ofAnswer_of_brings {status : Int} {contentType : Option String}
    {data : List Wire.Byte} (hbrings : answer.Brings status contentType data) :
    (ofAnswer config answer).2 = judge status contentType data := by
  obtain ⟨pieces, rfl, rfl⟩ := hbrings
  rw [Answer.complete, ofAnswer, Collected.ofArrivals_eq, Arrival.arrived_map_piece,
    Arrival.dropWhile_map_piece, List.nil_append, Collected.ofArrivals]

theorem judge_of_refuses {status : Int} {contentType : Option String} {data : List Wire.Byte}
    (hrefuses : answer.Refuses status contentType data) :
    judge status contentType data = .error (refusal status contentType data) := by
  have hstatus := hrefuses.status
  rw [judge]
  cases hread : Reply.ofBytes data with
  | error problems => exact if_neg (by simp [hstatus])
  | ok reply =>
      have hnone := Reply.reported?_eq_none_iff.mpr (hrefuses.quiet reply hread)
      simp [hnone, hstatus]

theorem outcome_run_of_sent (hsent : (run config messages answer).request = some request) :
    (run config messages answer).outcome = (ofAnswer config answer).2 := by
  rw [run, start_of_sent hsent]

/-- The ways in which an exchange for a whole reply ends, each with its condition on the
answer. -/
inductive Verdict (config : Config) (answer : Answer) : Except Failure String → Prop
  | timedOut {cause : Failure} :
      answer.broken? = some cause → cause.isTimeout = true →
      Verdict config answer (.error (.chat (.timedOut (Exchange.timeoutText config) "")))
  | disconnected {cause : Failure} :
      answer.broken? = some cause → cause.isTimeout = false →
      Verdict config answer
        (.error (.chat (.connectionFailed ("http request: " ++ cause.described))))
  | unreadable {status : Int} {contentType : Option String} {data : List Wire.Byte}
      {problems : List Problem} :
      answer.Brings status contentType data → isSuccess status = true →
      Reply.ofBytes data = .error problems →
      Verdict config answer
        (.error (.chat (.general
          ("unmarshal response: " ++ Problem.headline Reply.recordName problems) problems)))
  | reported {status : Int} {contentType : Option String} {data : List Wire.Byte}
      {reply : Reply} {text : String} :
      answer.Brings status contentType data →
      Reply.ofBytes data = .ok reply → reply.Reports text →
      Verdict config answer (.error (.chat (.serverReported ("server error: " ++ text))))
  | refused {status : Int} {contentType : Option String} {data : List Wire.Byte}
      {text : String} :
      answer.Refuses status contentType data →
      (Wire.Codec.ofContentType contentType).readWhole data = .ok text →
      Verdict config answer (.error (.chat (.ofStatus status text)))
  | illegible {error : Wire.CodecError} :
      answer.Illegible error → Verdict config answer (.error (.undecodable error))
  | empty {status : Int} {contentType : Option String} {data : List Wire.Byte}
      {reply : Reply} :
      answer.Brings status contentType data → isSuccess status = true →
      Reply.ofBytes data = .ok reply → reply.Quiet → (∀ text, ¬reply.Holds text) →
      Verdict config answer (.error (.chat (.emptyReply "empty response from server")))
  | returned {status : Int} {contentType : Option String} {data : List Wire.Byte}
      {reply : Reply} {text : String} :
      answer.Brings status contentType data → isSuccess status = true →
      Reply.ofBytes data = .ok reply → reply.Quiet → reply.Holds text →
      Verdict config answer (.ok text)

theorem Verdict.of_refuses {status : Int} {contentType : Option String} {data : List Wire.Byte}
    (hrefuses : answer.Refuses status contentType data) :
    Verdict config answer (.error (refusal status contentType data)) := by
  rw [refusal]
  cases htext : (Wire.Codec.ofContentType contentType).readWhole data with
  | ok text => exact .refused hrefuses htext
  | error error => exact .illegible ⟨_, _, _, hrefuses, htext⟩

/-- A whole answer meets one of the conditions. -/
theorem verdict_judge {status : Int} {contentType : Option String} {data : List Wire.Byte}
    (hbrings : answer.Brings status contentType data) :
    Verdict config answer (judge status contentType data) := by
  rw [judge]
  cases hread : Reply.ofBytes data with
  | error problems =>
      dsimp only
      cases hstatus : isSuccess status with
      | true => exact .unreadable hbrings hstatus hread
      | false =>
          apply Verdict.of_refuses ⟨hbrings, hstatus, ?_⟩
          intro reply hreply
          exact absurd (hread.symm.trans hreply) (by simp)
  | ok reply =>
      dsimp only
      cases hreported : reply.reported? with
      | some text => exact .reported hbrings hread (Reply.reported?_eq_some_iff.mp hreported)
      | none =>
          have hquiet := Reply.reported?_eq_none_iff.mp hreported
          cases hstatus : isSuccess status with
          | false =>
              apply Verdict.of_refuses ⟨hbrings, hstatus, ?_⟩
              intro other hother
              exact Except.ok.inj (hread.symm.trans hother) ▸ hquiet
          | true =>
              cases hcontent : reply.content? with
              | some text =>
                  exact .returned hbrings hstatus hread hquiet
                    (Reply.content?_eq_some_iff.mp hcontent)
              | none =>
                  apply Verdict.empty hbrings hstatus hread hquiet
                  intro text hholds
                  have hsome := Reply.content?_eq_some_iff.mpr hholds
                  exact absurd (hcontent.symm.trans hsome) (by simp)

theorem verdict_ofAnswer
    (hscript : ∀ failure ∈ answer.failures, failure.isConnection = true) :
    Verdict config answer (ofAnswer config answer).2 := by
  cases hbroken : answer.broken? with
  | none =>
      obtain ⟨status, contentType, data, hbrings⟩ :=
        Answer.exists_brings_of_broken?_eq_none hbroken
      rw [ofAnswer_of_brings hbrings]
      exact verdict_judge hbrings
  | some cause =>
      rw [ofAnswer_of_broken hbroken (Answer.isConnection_of_broken? hscript hbroken),
        StreamState.brokenBy]
      split
      case isTrue htimeout => exact .timedOut hbroken htimeout
      case isFalse hother => exact .disconnected hbroken (Bool.not_eq_true _ ▸ hother)

/-- The conditions exclude each other: whichever is met, the exchange ends that way. -/
theorem Verdict.eq_ofAnswer {outcome : Except Failure String}
    (hscript : ∀ failure ∈ answer.failures, failure.isConnection = true)
    (h : Verdict config answer outcome) : outcome = (ofAnswer config answer).2 := by
  cases h with
  | timedOut hbroken htimeout =>
      rw [ofAnswer_of_broken hbroken (Answer.isConnection_of_broken? hscript hbroken),
        StreamState.brokenBy, if_pos htimeout]
  | disconnected hbroken hother =>
      rw [ofAnswer_of_broken hbroken (Answer.isConnection_of_broken? hscript hbroken),
        StreamState.brokenBy, if_neg (by simp [hother]), if_neg Bool.false_ne_true]
  | unreadable hbrings hstatus hread =>
      rw [ofAnswer_of_brings hbrings, judge, hread]
      exact (if_pos hstatus).symm
  | reported hbrings hread hreports =>
      rw [ofAnswer_of_brings hbrings]
      simp only [judge, hread, Reply.reported?_eq_some_iff.mpr hreports]
  | refused hrefuses htext =>
      rw [ofAnswer_of_brings hrefuses.brings, judge_of_refuses hrefuses, refusal, htext]
  | illegible hillegible =>
      obtain ⟨status, contentType, data, hrefuses, htext⟩ := hillegible
      rw [ofAnswer_of_brings hrefuses.brings, judge_of_refuses hrefuses, refusal, htext]
  | @empty status contentType data reply hbrings hstatus hread hquiet hnothing =>
      have hnone : reply.content? = none := by
        rw [Option.eq_none_iff_forall_ne_some]
        intro text hsome
        exact hnothing text (Reply.content?_eq_some_iff.mp hsome)
      rw [ofAnswer_of_brings hbrings]
      simp [judge, hread, Reply.reported?_eq_none_iff.mpr hquiet, hstatus, hnone]
  | returned hbrings hstatus hread hquiet hholds =>
      rw [ofAnswer_of_brings hbrings]
      simp [judge, hread, Reply.reported?_eq_none_iff.mpr hquiet, hstatus,
        Reply.content?_eq_some_iff.mpr hholds]

/-- An exchange for a whole reply ends in a given way exactly if the answer meets the condition
for it, whatever the status, the body and its cuts are and wherever the connection fails. -/
theorem outcome_run_iff (hsent : (run config messages answer).request = some request)
    (hscript : ∀ failure ∈ answer.failures, failure.isConnection = true)
    (outcome : Except Failure String) :
    (run config messages answer).outcome = outcome ↔ Verdict config answer outcome := by
  rw [outcome_run_of_sent hsent]
  constructor
  · rintro rfl
    exact verdict_ofAnswer hscript
  · intro hverdict
    exact (hverdict.eq_ofAnswer hscript).symm

end Sending

section Installed

attribute [local instance] Wire.Platform.installed

/-- The bytes of a body that reports an error. -/
def reportingBody : List Wire.Byte :=
  Wire.Utf8.encode "\x7b\"error\":\x7b\"message\":\"bad modél\"\x7d\x7d".toList

/-- A refusal with this body, which is cut inside a character. -/
def reportingRefusal : Answer :=
  .complete 404 none [reportingBody.take 29, reportingBody.drop 29]

theorem outcome_run_iff_reportingRefusal :
    (run (.defaults "k") [⟨.user, "hi"⟩] reportingRefusal).request.isSome ∧
    (∀ failure ∈ reportingRefusal.failures, failure.isConnection = true) ∧
    (run (.defaults "k") [⟨.user, "hi"⟩] reportingRefusal).outcome =
      .error (.chat (.serverReported "server error: bad modél")) := by
  have hsome : (run (.defaults "k") [⟨.user, "hi"⟩] reportingRefusal).request.isSome := by
    rw [request_run]
    decide +kernel
  have hscript : ∀ failure ∈ reportingRefusal.failures, failure.isConnection = true := by
    decide +kernel
  have hbrings : reportingRefusal.Brings 404 none reportingBody := by
    refine ⟨_, rfl, ?_⟩
    rw [List.flatten_cons, List.flatten_singleton, List.take_append_drop]
  have hread : Reply.ofBytes reportingBody = .ok ⟨"", [], some ⟨"bad modél", ""⟩⟩ := by
    apply Checked.eq_ok_of_toOption
    decide +kernel
  obtain ⟨request, hsent⟩ := Option.isSome_iff_exists.mp hsome
  refine ⟨hsome, hscript, ?_⟩
  apply (outcome_run_iff hsent hscript _).mpr
  exact .reported hbrings hread ⟨_, rfl, rfl, by decide⟩

/-- A refusal whose content type names a character set that refuses every text. -/
theorem outcome_run_undefined :
    let answer := Answer.complete 500 (some "text/plain; charset=undefined")
      [Wire.Utf8.encode "oops".toList]
    let outcome := (run (.defaults "k") [⟨.user, "hi"⟩] answer).outcome
    answer.failures = [] ∧
    (∀ reply, Reply.ofBytes (Wire.Utf8.encode "oops".toList) ≠ .ok reply) ∧
    (∀ failure, outcome ≠ .error (.chat failure)) ∧
    outcome = .error (.undecodable ⟨"UnicodeError", "undefined encoding"⟩) := by
  intro answer outcome
  have hsome : (run (.defaults "k") [⟨.user, "hi"⟩] answer).request.isSome := by
    rw [request_run]
    decide +kernel
  obtain ⟨request, hsent⟩ := Option.isSome_iff_exists.mp hsome
  have hbrings : answer.Brings 500 (some "text/plain; charset=undefined")
      (Wire.Utf8.encode "oops".toList) := ⟨_, rfl, List.flatten_singleton⟩
  have hunread : ∀ reply, Reply.ofBytes (Wire.Utf8.encode "oops".toList) ≠ .ok reply := by
    have hnone : (Reply.ofBytes (Wire.Utf8.encode "oops".toList)).toOption = none := by
      decide +kernel
    intro reply hread
    rw [hread] at hnone
    exact absurd hnone (Option.some_ne_none reply)
  have htext : (Wire.Codec.ofContentType (some "text/plain; charset=undefined")).readWhole
      (Wire.Utf8.encode "oops".toList) =
        .error ⟨"UnicodeError", "undefined encoding"⟩ := by
    decide +kernel
  have hrefuses : answer.Refuses 500 (some "text/plain; charset=undefined")
      (Wire.Utf8.encode "oops".toList) :=
    ⟨hbrings, by decide, fun reply hread => absurd hread (hunread reply)⟩
  have houtcome : outcome = .error (.undecodable ⟨"UnicodeError", "undefined encoding"⟩) := by
    have hverdict : _ = (ofAnswer (.defaults "k") answer).2 :=
      Verdict.eq_ofAnswer (by decide +kernel) (.illegible ⟨_, _, _, hrefuses, htext⟩)
    exact (outcome_run_of_sent hsent).trans hverdict.symm
  refine ⟨rfl, hunread, ?_, houtcome⟩
  intro failure hfailure
  exact absurd (houtcome.symm.trans hfailure) (by simp [Failure.undecodable])

end Installed

end ReplyRun

end Parley
