import Parley.Proofs.Exchange.CompleteReply

/-!
# Interrupted exchanges

A connection can fail instead of an answer or after any part of a body.  What
the exchange makes of the failure depends on its kind and on whether a reply had
begun; once the closing line was read, nothing that comes later is seen.  A codec that
refuses a reply is no failure of the connection, and its error goes through.  In every
case the outcome tells the text that the deltas form.
-/

namespace Parley

namespace Failure

/-- Whether a failure is one of the connection. -/
def isConnection : Failure → Bool
  | transport .. | deadline _ => true
  | _ => false

/-- Whether something took too long. -/
def isTimeout : Failure → Bool
  | deadline _ => true
  | transport kind _ => kind.isTimeout
  | _ => false

theorem isConnection_of_isTimeout {failure : Failure} (h : failure.isTimeout = true) :
    failure.isConnection = true := by
  cases failure with
  | transport | deadline => rfl
  | chat | address | header | unexpected | stop => exact absurd h Bool.false_ne_true

end Failure

namespace Collected

theorem ofArrivals_eq (data : List Wire.Byte) (body : List (Arrival Wire.Byte)) :
    ofArrivals data body =
      ofArrivals (data ++ Arrival.arrived body) (body.dropWhile Arrival.isPiece) := by
  induction body generalizing data with
  | nil => simp [Arrival.arrived]
  | cons arrival rest ih =>
      cases arrival with
      | piece more =>
          rw [ofArrivals, ih, Arrival.arrived, List.append_assoc]
          rfl
      | failure cause => simp [Arrival.arrived, Arrival.isPiece]
      | silence => simp [Arrival.arrived, Arrival.isPiece]

end Collected

/-! ## Answers that break off -/

namespace Answer

/-- The failures that an answer may raise. -/
def failures : Answer → List Failure
  | failure cause => [cause]
  | response _ _ body => body.filterMap Arrival.failure?

/-- Whether a response with success arrives. -/
def begins : Answer → Bool
  | failure _ => false
  | response status _ _ => isSuccess status

/-- The failure that keeps an answer from arriving as a whole. -/
def broken? : Answer → Option Failure
  | failure cause => some cause
  | response _ _ body => Arrival.breakOff? body

theorem isConnection_of_broken? {answer : Answer} {cause : Failure}
    (hscript : ∀ failure ∈ answer.failures, failure.isConnection = true)
    (hbroken : answer.broken? = some cause) : cause.isConnection = true := by
  cases answer with
  | failure raised =>
      have hraised : raised = cause := by simpa [broken?] using hbroken
      exact hscript cause (by simp [failures, hraised])
  | response status contentType body =>
      rcases Arrival.mem_failures_of_breakOff?_eq_some hbroken with hmem | rfl
      · exact hscript cause hmem
      · rfl

variable [Wire.Platform]

/-- Whether the closing line of a reply is read before anything else happens. -/
def closes : Answer → Bool
  | failure _ => false
  | response status contentType body =>
      isSuccess status &&
        decide (StreamLine.closing ∈ StreamReader.heardLines
          (Arrival.arrived (Arrival.decode (.ofContentType contentType) body)))

/-- The failure that an exchange gets to see: what breaks a refusal off, or what breaks the
text of a reply off before it is closed. -/
def seen? : Answer → Option Failure
  | failure cause => some cause
  | response status contentType body =>
      if isSuccess status then
        if (response status contentType body).closes then none
        else Arrival.breakOff? (Arrival.decode (.ofContentType contentType) body)
      else Arrival.breakOff? body

/-- An exchange gets to see a failure of its answer, or that the time runs out, or that a
reply cannot be decoded. -/
theorem mem_of_seen? {answer : Answer} {cause : Failure} (hseen : answer.seen? = some cause) :
    cause ∈ answer.failures ∨ cause = .deadline "" ∨
      answer.begins = true ∧ ∃ error, cause = .undecodable error := by
  cases answer with
  | failure raised =>
      have hraised : raised = cause := by simpa [seen?] using hseen
      simp [failures, hraised]
  | response status contentType body =>
      rw [seen?] at hseen
      cases hstatus : isSuccess status with
      | false =>
          rw [if_neg (by simp [hstatus])] at hseen
          exact (Arrival.mem_failures_of_breakOff?_eq_some hseen).imp_right .inl
      | true =>
          rw [if_pos hstatus] at hseen
          split at hseen
          case isTrue => cases hseen
          case isFalse =>
              rcases Arrival.mem_failures_of_breakOff?_eq_some hseen with hmem | hdeadline
              · exact (Arrival.mem_decode hmem).imp_right fun herror => .inr ⟨hstatus, herror⟩
              · exact .inr (.inl hdeadline)

theorem isConnection_of_seen? {answer : Answer} {cause : Failure}
    (hscript : ∀ failure ∈ answer.failures, failure.isConnection = true)
    (hseen : answer.seen? = some cause) :
    cause.isConnection = true ∨ answer.begins = true ∧ ∃ error, cause = .undecodable error := by
  rcases mem_of_seen? hseen with hmem | rfl | herror
  · exact .inl (hscript cause hmem)
  · exact .inl rfl
  · exact .inr herror

end Answer

/-! ## What a failure becomes -/

namespace StreamState

/-- The failure of the chat that a failure of the connection is. -/
def brokenBy (config : Config) (begun : Bool) (received : String) (cause : Failure) :
    ChatFailure :=
  if cause.isTimeout then .timedOut (Exchange.timeoutText config) received
  else if begun then .interrupted ("read stream: " ++ cause.described) received
  else .connectionFailed ("http request: " ++ cause.described)

/-- The failure that an exchange ends with: any failure but one of the connection goes
through. -/
def failedBy (config : Config) (begun : Bool) (received : String) (cause : Failure) : Failure :=
  if cause.isConnection then .chat (brokenBy config begun received cause) else cause

theorem fail_eq (config : Config) (begun : Bool) (received : String) (cause : Failure) :
    ∃ shown : List Trace, fail config begun received cause =
      (shown.map Signal.trace, .ended (.error (failedBy config begun received cause))) := by
  cases cause with
  | deadline text => exact ⟨[_], rfl⟩
  | transport kind text => exact ⟨[_], rfl⟩
  | chat | address | header | unexpected | stop => exact ⟨[], rfl⟩

end StreamState

namespace StreamRun

open Transcript StreamReader

section Sending

variable [Wire.Platform]
variable {config : Config} {messages : List Message} {request : SentRequest}

/-- A server that fails instead of giving an answer. -/
theorem run_failure (cause : Failure)
    (hstart : (Exchange.start config messages true).request = .ok request) :
    (run config messages (.failure cause)).outcome =
        .error (StreamState.failedBy config false "" cause) ∧
      (run config messages (.failure cause)).deltas = [] := by
  obtain ⟨shown, hfail⟩ := StreamState.fail_eq config false "" cause
  have hanswer : StreamState.ofAnswer config (.failure cause) =
      StreamState.fail config false "" cause := rfl
  rw [hfail] at hanswer
  rw [run_of_ended hstart hanswer, deltas_announced]
  exact ⟨rfl, filterMap_delta?_map_trace shown⟩

/-- A refusal that is read to its end. -/
theorem run_refusal {status : Int} (hstatus : isSuccess status = false)
    (contentType : Option String) (pieces : List (List Wire.Byte))
    (hstart : (Exchange.start config messages true).request = .ok request) :
    (run config messages (.complete status contentType pieces)).outcome =
        .error (.chat (.ofStatus status (Wire.Utf8.decode pieces.flatten))) ∧
      (run config messages (.complete status contentType pieces)).deltas = [] := by
  have hbody : Collected.ofArrivals [] (pieces.map Arrival.piece) =
      .complete pieces.flatten := by
    rw [Collected.ofArrivals_eq, Arrival.arrived_map_piece, Arrival.dropWhile_map_piece]
    rfl
  have hanswer := StreamState.ofAnswer_refusal hstatus config contentType
    (pieces.map Arrival.piece)
  rw [StreamState.listenRefused, hbody] at hanswer
  rw [Answer.complete, run_of_ended hstart hanswer, deltas_announced]
  exact ⟨rfl, rfl⟩

/-- A refusal that breaks off. -/
theorem run_refusal_broken {status : Int} (hstatus : isSuccess status = false)
    (contentType : Option String) {body : List (Arrival Wire.Byte)} {cause : Failure}
    (hbody : Arrival.breakOff? body = some cause)
    (hstart : (Exchange.start config messages true).request = .ok request) :
    (run config messages (.response status contentType body)).outcome =
        .error (StreamState.failedBy config false "" cause) ∧
      (run config messages (.response status contentType body)).deltas = [] := by
  obtain ⟨shown, hfail⟩ := StreamState.fail_eq config false "" cause
  have hanswer := StreamState.ofAnswer_refusal hstatus config contentType body
  rw [StreamState.listenRefused, Collected.ofArrivals_eq] at hanswer
  rcases Arrival.dropWhile_of_breakOff?_eq_some hbody with ⟨rest, hrest⟩ | ⟨rfl, rest, hrest⟩
  · rw [hrest, Collected.ofArrivals] at hanswer
    simp only [hfail] at hanswer
    rw [run_of_ended hstart hanswer, deltas_announced]
    exact ⟨rfl, filterMap_delta?_map_trace shown⟩
  · rw [hrest, Collected.ofArrivals] at hanswer
    rw [run_of_refused hstart hanswer hfail, List.append_assoc, deltas_announced]
    exact ⟨rfl, filterMap_delta?_map_trace shown⟩

omit [Wire.Platform] in
/-- What was received is what the deltas form. -/
theorem content_advance_start (text : List Char) :
    (start.advance text).transcript.content =
      String.join ((signalsOf (heardLines text)).filterMap Signal.delta?) := by
  rw [transcript_advance_start, addAll_eq, filterMap_delta?_signalsOf]
  exact String.empty_append

/-- A reply whose text breaks off while it is open. -/
theorem run_reply_broken {status : Int} (hstatus : isSuccess status = true)
    {contentType : Option String} {body : List (Arrival Wire.Byte)} {cause : Failure}
    (hopen : StreamLine.closing ∉
      heardLines (Arrival.arrived (Arrival.decode (.ofContentType contentType) body)))
    (hbody : Arrival.breakOff? (Arrival.decode (.ofContentType contentType) body) = some cause)
    (hstart : (Exchange.start config messages true).request = .ok request) :
    (run config messages (.response status contentType body)).outcome =
      .error (StreamState.failedBy config true
        (String.join (run config messages (.response status contentType body)).deltas)
        cause) := by
  let decoded := Arrival.decode (.ofContentType contentType) body
  let heard := heardLines (Arrival.arrived decoded)
  let reader := start.advance (Arrival.arrived decoded)
  obtain ⟨shown, hfail⟩ :=
    StreamState.fail_eq config true reader.transcript.content cause
  have hcontent : reader.transcript.content =
      String.join ((signalsOf heard).filterMap Signal.delta?) :=
    content_advance_start (Arrival.arrived decoded)
  have hanswer : StreamState.ofAnswer config (.response status contentType body) =
      StreamState.after ([StreamState.begins status] ++ signalsOf heard)
        (StreamState.listen config reader (decoded.dropWhile Arrival.isPiece)) := by
    rw [StreamState.ofAnswer_success hstatus, StreamState.listen_eq, linesIn_start,
      if_neg hopen, StreamState.after_after]
  have hshown : ([StreamState.begins status] ++ signalsOf heard ++
      shown.map Signal.trace).filterMap Signal.delta? =
        (signalsOf heard).filterMap Signal.delta? := by
    rw [List.filterMap_append, filterMap_delta?_map_trace, List.append_nil]
    rfl
  rcases Arrival.dropWhile_of_breakOff?_eq_some hbody with ⟨rest, hrest⟩ | ⟨rfl, rest, hrest⟩
  · rw [hrest, StreamState.listen, hfail, StreamState.after] at hanswer
    rw [run_of_ended hstart hanswer, deltas_announced, hshown, hcontent]
  · rw [hrest, StreamState.listen, StreamState.after, List.append_nil] at hanswer
    rw [run_of_reading hstart hanswer hfail, List.append_assoc, deltas_announced, hshown,
      hcontent]

/-- A reply that is closed is as good as one that ends there. -/
theorem run_reply_closed {status : Int} (hstatus : isSuccess status = true)
    {contentType : Option String} {pieces : List (List Wire.Byte)}
    (hclosed : StreamLine.closing ∈
      heardLines (Arrival.openText (.ofContentType contentType) pieces))
    (config : Config) (messages : List Message) (later : List (Arrival Wire.Byte)) :
    run config messages (.response status contentType (pieces.map Arrival.piece ++ later)) =
      run config messages (.complete status contentType pieces) := by
  have hfront := Arrival.openText_isPrefix (.ofContentType contentType) pieces
  have hwhole := hfront []
  rw [List.append_nil] at hwhole
  have hanswer : StreamState.ofAnswer config
      (.response status contentType (pieces.map Arrival.piece ++ later)) =
        StreamState.ofAnswer config (.complete status contentType pieces) := by
    rw [Answer.complete, StreamState.ofAnswer_success hstatus,
      StreamState.ofAnswer_success hstatus,
      StreamState.listen_of_closed (hfront later) hclosed,
      StreamState.listen_of_closed hwhole hclosed]
  rw [run, run, hanswer]

/-- A reply that is heard to its end, or up to its closing line. -/
theorem run_heard {status : Int} {answer : Answer} {lines : List String}
    (hanswer : StreamState.ofAnswer config answer =
      StreamState.after [StreamState.begins status] (StreamState.after (signalsOf lines)
        (StreamState.complete (empty.addAll (chunksOf (replyLines lines))))))
    (hstart : (Exchange.start config messages true).request = .ok request) :
    ∃ result, (run config messages answer).outcome = .ok result ∧
      result.content = String.join (run config messages answer).deltas := by
  rw [StreamState.after_after, StreamState.complete, StreamState.after] at hanswer
  refine ⟨(empty.addAll (chunksOf (replyLines lines))).result, ?_, ?_⟩
  · rw [run_of_ended hstart hanswer]
  · rw [run_of_ended hstart hanswer, deltas_announced, addAll_eq]
    simp [StreamState.begins, filterMap_delta?_signalsOf, filterMap_delta?_completion, empty,
      result]

/-! ## Every end of an exchange -/

/-- What an exchange makes of the failure that it gets to see. -/
theorem outcome_of_seen? {answer : Answer} {cause : Failure}
    (hseen : answer.seen? = some cause)
    (hstart : (Exchange.start config messages true).request = .ok request) :
    (run config messages answer).outcome =
        .error (StreamState.failedBy config answer.begins
          (String.join (run config messages answer).deltas) cause) ∧
      (answer.begins = false → (run config messages answer).deltas = []) := by
  cases answer with
  | failure raised =>
      have hraised : raised = cause := by simpa [Answer.seen?] using hseen
      subst hraised
      obtain ⟨houtcome, hdeltas⟩ := run_failure raised hstart
      rw [houtcome, hdeltas]
      exact ⟨rfl, fun _ => rfl⟩
  | response status contentType body =>
      rw [Answer.seen?] at hseen
      cases hstatus : isSuccess status with
      | true =>
          rw [if_pos hstatus] at hseen
          split at hseen
          case isTrue => cases hseen
          case isFalse hcloses =>
              have hopen : StreamLine.closing ∉ heardLines
                  (Arrival.arrived (Arrival.decode (.ofContentType contentType) body)) := by
                simpa [Answer.closes, hstatus] using hcloses
              have hbegins : (Answer.response status contentType body).begins = true := hstatus
              rw [hbegins]
              exact ⟨run_reply_broken hstatus hopen hseen hstart, by simp⟩
      | false =>
          rw [if_neg (by simp [hstatus])] at hseen
          have hbegins : (Answer.response status contentType body).begins = false := hstatus
          obtain ⟨houtcome, hdeltas⟩ := run_refusal_broken hstatus contentType hseen hstart
          rw [hbegins, houtcome, hdeltas]
          exact ⟨rfl, fun _ => rfl⟩

/-- An exchange that gets to see no failure brings a reply or a refusal. -/
theorem outcome_of_unseen {answer : Answer} (hseen : answer.seen? = none)
    (hstart : (Exchange.start config messages true).request = .ok request) :
    (∃ result, (run config messages answer).outcome = .ok result ∧
      result.content = String.join (run config messages answer).deltas) ∨
    (∃ status body, (run config messages answer).outcome =
        .error (.chat (.serverStatus status body)) ∧
      (run config messages answer).deltas = []) := by
  cases answer with
  | failure raised => cases hseen
  | response status contentType body =>
      rw [Answer.seen?] at hseen
      cases hstatus : isSuccess status with
      | true =>
          left
          rw [if_pos hstatus] at hseen
          have hanswer := StreamState.ofAnswer_success hstatus config contentType body
          split at hseen
          case isTrue hcloses =>
              have hclosed : StreamLine.closing ∈ heardLines
                  (Arrival.arrived (Arrival.decode (.ofContentType contentType) body)) := by
                simpa [Answer.closes, hstatus] using hcloses
              rw [StreamState.listen_of_closed List.prefix_rfl hclosed] at hanswer
              exact run_heard hanswer hstart
          case isFalse =>
              obtain ⟨texts, htexts⟩ := Arrival.exists_pieces_of_breakOff?_eq_none hseen
              rw [htexts, StreamState.listen_pieces] at hanswer
              exact run_heard hanswer hstart
      | false =>
          right
          rw [if_neg (by simp [hstatus])] at hseen
          obtain ⟨pieces, rfl⟩ := Arrival.exists_pieces_of_breakOff?_eq_none hseen
          obtain ⟨houtcome, hdeltas⟩ := run_refusal hstatus contentType pieces hstart
          rw [Answer.complete] at houtcome hdeltas
          rw [houtcome, hdeltas, ChatFailure.ofStatus]
          split
          · exact ⟨_, _, rfl, rfl⟩
          · exact ⟨_, _, rfl, rfl⟩

/-- The outcome of an exchange says of the reply what the text of its deltas is. -/
def Agrees (text : String) : Except Failure StreamResult → Prop
  | .ok result => result.content = text
  | .error (.chat (.interrupted _ received)) => received = text
  | .error (.chat (.timedOut _ received)) => received = text
  | .error (.chat (.connectionFailed _)) => text = ""
  | .error (.chat (.serverStatus ..)) => text = ""
  | .error _ => True

omit [Wire.Platform] in
theorem agrees_brokenBy {begun : Bool} {text : String} (hbegun : begun = false → text = "")
    (config : Config) (cause : Failure) :
    Agrees text (.error (.chat (StreamState.brokenBy config begun text cause))) := by
  rw [StreamState.brokenBy]
  by_cases htimeout : cause.isTimeout
  · rw [if_pos htimeout, Agrees]
  · rw [if_neg htimeout]
    cases begun with
    | true => exact rfl
    | false => exact hbegun rfl

theorem agrees_unsent {failure : Failure}
    (hstart : (Exchange.start config messages true).request = .error failure)
    (text : String) : Agrees text (.error failure) := by
  rw [Exchange.start] at hstart
  cases hbody : Request.encode config.model messages true with
  | error problems =>
      simp only [hbody, Except.error.injEq] at hstart
      rw [← hstart]
      trivial
  | ok body =>
      simp only [hbody, Exchange.address, Exchange.sessionHeader] at hstart
      cases htarget : Wire.Target.ofAddress config.completionsUrl with
      | error error =>
          simp only [htarget, Except.error.injEq] at hstart
          rw [← hstart]
          trivial
      | ok url =>
          simp only [htarget] at hstart
          by_cases hkey : config.sessionKey.isEmpty
          · rw [if_pos hkey] at hstart
            cases hstart
          · rw [if_neg hkey] at hstart
            cases hfault : Exchange.headerFault? config.sessionKey.toList with
            | none =>
                rw [hfault] at hstart
                cases hstart
            | some fault =>
                rw [hfault] at hstart
                cases hstart
                trivial

theorem agrees_run {answer : Answer}
    (hscript : ∀ failure ∈ answer.failures, failure.isConnection = true) :
    Agrees (String.join (run config messages answer).deltas)
      (run config messages answer).outcome := by
  cases hstart : (Exchange.start config messages true).request with
  | error failure =>
      rw [run_of_unsent hstart]
      exact agrees_unsent hstart _
  | ok request =>
      cases hseen : answer.seen? with
      | some cause =>
          obtain ⟨houtcome, hdeltas⟩ := outcome_of_seen? hseen hstart
          rw [houtcome, StreamState.failedBy]
          rcases Answer.isConnection_of_seen? hscript hseen with hcause | ⟨-, error, rfl⟩
          · rw [if_pos hcause]
            apply agrees_brokenBy
            intro hbegins
            rw [hdeltas hbegins, String.join_nil]
          · trivial
      | none =>
          rcases outcome_of_unseen hseen hstart with
            ⟨result, houtcome, hcontent⟩ | ⟨status, body, houtcome, hdeltas⟩
          · rw [houtcome]
            exact hcontent
          · rw [houtcome, hdeltas]
            exact String.join_nil

/-- How every streaming exchange ends in which the connection may fail at any point.
A timeout that is seen is a timeout of the chat.  Any other failure of the connection breaks
a reply that had begun, and otherwise is a failure to connect.  What else is seen is that a
reply cannot be decoded, and it goes through.  A refusal that is read to its end brings no
delta.  What follows the closing line of a reply is not seen.  Whatever the end is, it tells
the text of the deltas. -/
theorem run_broken_off {answer : Answer}
    (hscript : ∀ failure ∈ answer.failures, failure.isConnection = true) :
    let shown := run config messages answer
    let text := String.join shown.deltas
    (∀ request, shown.request = some request →
      (∀ cause, answer.seen? = some cause → cause.isTimeout = true →
        shown.outcome = .error (.chat (.timedOut (Exchange.timeoutText config) text))) ∧
      (∀ cause, answer.seen? = some cause → cause.isTimeout = false →
        answer.begins = false →
        shown.outcome =
          .error (.chat (.connectionFailed ("http request: " ++ cause.described)))) ∧
      (∀ cause, answer.seen? = some cause → cause.isTimeout = false →
        answer.begins = true → cause.isConnection = true →
        shown.outcome =
          .error (.chat (.interrupted ("read stream: " ++ cause.described) text))) ∧
      (∀ cause, answer.seen? = some cause → cause.isConnection = false →
        shown.outcome = .error cause ∧ ∃ error, cause = .undecodable error) ∧
      (∀ status contentType pieces, answer = .complete status contentType pieces →
        isSuccess status = false →
        (∃ body, shown.outcome = .error (.chat (.serverStatus status body))) ∧
          shown.deltas = []) ∧
      (∀ status contentType pieces later,
        answer = .response status contentType (pieces.map Arrival.piece ++ later) →
        isSuccess status = true →
        StreamLine.closing ∈ heardLines (Arrival.openText (.ofContentType contentType) pieces) →
        (∃ result, shown.outcome = .ok result) ∧
          shown = run config messages (.complete status contentType pieces))) ∧
    Agrees text shown.outcome := by
  intro shown text
  refine ⟨?_, agrees_run hscript⟩
  intro request hsent
  have hstart := start_of_sent hsent
  have hseen_eq (cause : Failure) (hseen : answer.seen? = some cause)
      (hcause : cause.isConnection = true) : shown.outcome =
        .error (.chat (StreamState.brokenBy config answer.begins text cause)) := by
    rw [(outcome_of_seen? hseen hstart).1, StreamState.failedBy, if_pos hcause]
  refine ⟨?_, ?_, ?_, ?_, ?_, ?_⟩
  · intro cause hseen htimeout
    rw [hseen_eq cause hseen (Failure.isConnection_of_isTimeout htimeout), StreamState.brokenBy,
      if_pos htimeout]
  · intro cause hseen htimeout hbegins
    have hcause : cause.isConnection = true :=
      (Answer.isConnection_of_seen? hscript hseen).resolve_right
        fun h => absurd (hbegins.symm.trans h.1) Bool.false_ne_true
    rw [hseen_eq cause hseen hcause, StreamState.brokenBy,
      if_neg (by simp [htimeout]), if_neg (by simp [hbegins])]
  · intro cause hseen htimeout hbegins hcause
    rw [hseen_eq cause hseen hcause, StreamState.brokenBy,
      if_neg (by simp [htimeout]), if_pos hbegins]
  · intro cause hseen hother
    refine ⟨?_, ?_⟩
    · rw [(outcome_of_seen? hseen hstart).1, StreamState.failedBy, if_neg (by simp [hother])]
    · exact ((Answer.isConnection_of_seen? hscript hseen).resolve_left (by simp [hother])).2
  · rintro status contentType pieces rfl hstatus
    obtain ⟨houtcome, hdeltas⟩ := run_refusal hstatus contentType pieces hstart
    refine ⟨?_, hdeltas⟩
    rw [houtcome, ChatFailure.ofStatus]
    split
    · exact ⟨_, rfl⟩
    · exact ⟨_, rfl⟩
  · rintro status contentType pieces later rfl hstatus hclosed
    have hsame : shown = run config messages (.complete status contentType pieces) :=
      run_reply_closed hstatus hclosed config messages later
    refine ⟨?_, hsame⟩
    have hanswer := StreamState.ofAnswer_success hstatus config contentType
      (pieces.map Arrival.piece ++ later)
    rw [StreamState.listen_of_closed (Arrival.openText_isPrefix _ pieces later) hclosed] at hanswer
    obtain ⟨result, houtcome, -⟩ := run_heard hanswer hstart
    exact ⟨result, houtcome⟩

end Sending

section Installed

attribute [local instance] Wire.Platform.installed

/-- A reply that is cut inside its second chunk by a failing connection. -/
def cutReply : Answer :=
  .response 200 none [
    .piece (Wire.Utf8.encode
      "data: \x7b\"choices\":[\x7b\"delta\":\x7b\"content\":\"Hé\"\x7d\x7d]\x7d\n".toList),
    .piece (Wire.Utf8.encode "data: \x7b\"choi".toList),
    .failure (.transport .readError "reset")]

theorem deltas_cutReply :
    (run (.defaults "k") [⟨.user, "hi"⟩] cutReply).deltas = ["Hé"] := by
  decide +kernel

theorem run_broken_off_cutReply :
    (∀ failure ∈ cutReply.failures, failure.isConnection = true) ∧
    (run (.defaults "k") [⟨.user, "hi"⟩] cutReply).request.isSome ∧
    cutReply.seen? = some (.transport .readError "reset") ∧
    (run (.defaults "k") [⟨.user, "hi"⟩] cutReply).outcome =
      .error (.chat (.interrupted "read stream: reset" "Hé")) := by
  have hscript : ∀ failure ∈ cutReply.failures, failure.isConnection = true := by decide
  have hsome : (run (.defaults "k") [⟨.user, "hi"⟩] cutReply).request.isSome := by
    rw [request_run]
    decide +kernel
  have hseen : cutReply.seen? = some (.transport .readError "reset") := by decide +kernel
  obtain ⟨request, hsent⟩ := Option.isSome_iff_exists.mp hsome
  obtain ⟨-, -, hbroken, -, -, -⟩ := (run_broken_off hscript).1 request hsent
  have htext : "read stream: " ++ (Failure.transport .readError "reset").described =
      "read stream: reset" := by decide +kernel
  have hjoin : String.join ["Hé"] = "Hé" := by decide +kernel
  refine ⟨hscript, hsome, hseen, ?_⟩
  rw [hbroken _ hseen rfl rfl rfl, deltas_cutReply, htext, hjoin]

end Installed

end StreamRun

end Parley
