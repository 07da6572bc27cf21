import Parley.Proofs.Exchange.Arrivals
import Parley.Proofs.Exchange.ReplyLines
import Parley.Proofs.Wire.Cutting

/-!
# Listening to a reply

The text of a reply arrives in pieces, and may break off between them.  The main
lemma says what listening comes to in terms of the lines that the text completes
before anything else happens; where the text was cut plays no part in it.
-/

namespace Parley

/-! ## Readers -/

namespace StreamReader

open Transcript

/-- The lines that a piece of the text completes. -/
def linesIn (reader : StreamReader) (text : List Char) : List String :=
  (reader.cutter.feed text).1

/-- The reader after a piece that does not close the reply. -/
def advance (reader : StreamReader) (text : List Char) : StreamReader :=
  ⟨(reader.cutter.feed text).2,
    reader.transcript.addAll (chunksOf (replyLines (reader.linesIn text)))⟩

/-- The lines that the end of the text completes. -/
def lastLines (reader : StreamReader) : List String :=
  reader.cutter.finish

@[simp]
theorem linesIn_nil (reader : StreamReader) : reader.linesIn [] = [] := by
  simp [linesIn]

@[simp]
theorem advance_nil (reader : StreamReader) : reader.advance [] = reader := by
  simp [advance, chunksOf, replyLines, addAll]

theorem feed_eq (reader : StreamReader) (text : List Char) :
    reader.feed text =
      (signalsOf (reader.linesIn text), reader.advance text,
        decide (StreamLine.closing ∈ reader.linesIn text)) := by
  simp only [feed, readLines_eq]
  rfl

theorem finish_eq (reader : StreamReader) :
    reader.finish =
      (signalsOf reader.lastLines,
        reader.transcript.addAll (chunksOf (replyLines reader.lastLines))) := by
  simp only [finish, readLines_eq]
  rfl

theorem linesIn_append (reader : StreamReader) (a b : List Char) :
    reader.linesIn (a ++ b) = reader.linesIn a ++ (reader.advance a).linesIn b := by
  rw [linesIn, Wire.LineCutter.feed_append]
  rfl

/-- Two pieces that leave the reply open lead to the same reader as their characters. -/
theorem advance_append {reader : StreamReader} {a : List Char}
    (hopen : StreamLine.closing ∉ reader.linesIn a) (b : List Char) :
    reader.advance (a ++ b) = (reader.advance a).advance b := by
  rw [advance, linesIn_append, replyLines_append_of_not_mem hopen, chunksOf_append,
    addAll_append, Wire.LineCutter.feed_append]
  simp only [advance, replyLines_of_not_mem hopen]

/-- What follows the piece that closes the reply adds nothing. -/
theorem transcript_advance_append {reader : StreamReader} {a : List Char}
    (hclosed : StreamLine.closing ∈ reader.linesIn a) (b : List Char) :
    (reader.advance (a ++ b)).transcript = (reader.advance a).transcript := by
  simp only [advance, linesIn_append, replyLines_append_of_mem hclosed]

end StreamReader

/-! ## Texts -/

namespace StreamState

open Transcript

theorem after_nil (rest : List Signal × StreamState) : after [] rest = rest := rfl

theorem after_after (a b : List Signal) (rest : List Signal × StreamState) :
    after a (after b rest) = after (a ++ b) rest := by
  simp [after]

theorem listen_piece (config : Config) (reader : StreamReader) (text : List Char)
    (rest : List (Arrival Char)) :
    listen config reader (.piece text :: rest) =
      after (signalsOf (reader.linesIn text))
        (if StreamLine.closing ∈ reader.linesIn text then
          complete (reader.advance text).transcript
        else listen config (reader.advance text) rest) := by
  rw [listen, StreamReader.feed_eq]
  simp only [decide_eq_true_eq]

theorem listen_end (config : Config) (reader : StreamReader) :
    listen config reader [] =
      after (signalsOf reader.lastLines)
        (complete
          (reader.transcript.addAll (chunksOf (replyLines reader.lastLines)))) := by
  rw [listen, StreamReader.finish_eq]

/-- Listening reads all of the text that arrives, and goes on from there unless the reply
was closed. -/
theorem listen_eq (config : Config) (reader : StreamReader) (heard : List (Arrival Char)) :
    listen config reader heard =
      after (signalsOf (reader.linesIn (Arrival.arrived heard)))
        (if StreamLine.closing ∈ reader.linesIn (Arrival.arrived heard) then
          complete (reader.advance (Arrival.arrived heard)).transcript
        else
          listen config (reader.advance (Arrival.arrived heard))
            (heard.dropWhile Arrival.isPiece)) := by
  induction heard generalizing reader with
  | nil => simp [Arrival.arrived, signalsOf, replyLines, after_nil]
  | cons arrival rest ih =>
      cases arrival with
      | failure failure =>
          simp [Arrival.arrived, Arrival.isPiece, signalsOf, replyLines, after_nil]
      | silence =>
          simp [Arrival.arrived, Arrival.isPiece, signalsOf, replyLines, after_nil]
      | piece text =>
          have hdrop : (Arrival.piece text :: rest).dropWhile Arrival.isPiece =
              rest.dropWhile Arrival.isPiece := rfl
          rw [listen_piece, Arrival.arrived, hdrop, StreamReader.linesIn_append]
          by_cases hclosed : StreamLine.closing ∈ reader.linesIn text
          · rw [if_pos hclosed, if_pos (List.mem_append_left _ hclosed),
              signalsOf_append_of_mem hclosed,
              StreamReader.transcript_advance_append hclosed]
          · rw [if_neg hclosed, ih, after_after,
              signalsOf_append_of_not_mem hclosed, StreamReader.advance_append hclosed]
            simp only [List.mem_append, hclosed, false_or]

end StreamState

/-! ## From the start of a text -/

namespace StreamReader

open Transcript

/-- The lines that are sure to have ended in a text, whose end is not known. -/
def heardLines (text : List Char) : List String :=
  (Wire.endedLines text).map String.ofList

/-- The lines of a text whose end is known. -/
def bodyLines (text : List Char) : List String :=
  (Wire.linesOf text).map String.ofList

theorem linesIn_start (text : List Char) : start.linesIn text = heardLines text :=
  Wire.feed_start text

/-- What was heard remains so when more arrives. -/
theorem heardLines_append (a b : List Char) :
    heardLines (a ++ b) = heardLines a ++ (start.advance a).linesIn b := by
  rw [← linesIn_start, linesIn_append, linesIn_start]

theorem transcript_advance_start (text : List Char) :
    (start.advance text).transcript =
      empty.addAll (chunksOf (replyLines (heardLines text))) := by
  rw [← linesIn_start]
  rfl

/-- The lines heard before the end of a text and those that the end completes are the
lines of the text. -/
theorem heardLines_append_lastLines (text : List Char) :
    heardLines text ++ (start.advance text).lastLines = bodyLines text := by
  rw [bodyLines, ← Wire.splitLines_eq, ← linesIn_start]
  rfl

end StreamReader

namespace StreamState

open Transcript

/-- A text that closes the reply is heard, and what comes after it is not. -/
theorem listen_of_closed {heard : List (Arrival Char)} {front : List Char}
    (hfront : front <+: Arrival.arrived heard)
    (hclosed : StreamLine.closing ∈ StreamReader.heardLines front) (config : Config) :
    listen config .start heard =
      after (signalsOf (StreamReader.heardLines front))
        (complete (empty.addAll (chunksOf (replyLines (StreamReader.heardLines front))))) := by
  obtain ⟨more, hmore⟩ := hfront
  have hlonger : StreamLine.closing ∈ StreamReader.heardLines (front ++ more) := by
    rw [StreamReader.heardLines_append]
    exact List.mem_append_left _ hclosed
  rw [listen_eq, ← hmore, StreamReader.linesIn_start, if_pos hlonger,
    StreamReader.transcript_advance_start, StreamReader.heardLines_append,
    signalsOf_append_of_mem hclosed, replyLines_append_of_mem hclosed]

/-- A text that ends gives all of its lines. -/
theorem listen_pieces (config : Config) (texts : List (List Char)) :
    listen config .start (texts.map Arrival.piece) =
      after (signalsOf (StreamReader.bodyLines texts.flatten))
        (complete (empty.addAll (chunksOf (replyLines
          (StreamReader.bodyLines texts.flatten))))) := by
  rw [listen_eq, StreamReader.linesIn_start, Arrival.arrived_map_piece,
    Arrival.dropWhile_map_piece, ← StreamReader.heardLines_append_lastLines]
  by_cases hclosed : StreamLine.closing ∈ StreamReader.heardLines texts.flatten
  · rw [if_pos hclosed, signalsOf_append_of_mem hclosed, replyLines_append_of_mem hclosed,
      StreamReader.transcript_advance_start]
  · rw [if_neg hclosed, listen_end, after_after, signalsOf_append_of_not_mem hclosed,
      replyLines_append_of_not_mem hclosed, chunksOf_append, addAll_append,
      StreamReader.transcript_advance_start, replyLines_of_not_mem hclosed]

end StreamState

/-! ## Answers -/

namespace StreamState

/-- The signal of a status of success. -/
def begins (status : Int) : Signal :=
  .trace (Exchange.trace .debug ("Status " ++ toString status ++ ", reading stream"))

variable [Wire.Platform]

theorem ofAnswer_success {status : Int} (hstatus : isSuccess status = true)
    (config : Config) (contentType : Option String) (body : List (Arrival Wire.Byte)) :
    ofAnswer config (.response status contentType body) =
      after [begins status]
        (listen config .start (Arrival.decode (.ofContentType contentType) body)) := by
  rw [ofAnswer, if_pos hstatus]
  rfl

theorem ofAnswer_refusal {status : Int} (hstatus : isSuccess status = false)
    (config : Config) (contentType : Option String) (body : List (Arrival Wire.Byte)) :
    ofAnswer config (.response status contentType body) =
      listenRefused config status [] body := by
  rw [ofAnswer, if_neg (by simp [hstatus])]

end StreamState

/-- Settings that are defaults but for the session key. -/
def Config.defaults (key : String) : Config :=
  ⟨defaultServer, key, defaultModel, defaultTimeout⟩

/-! ## Exchanges that were sent -/

namespace StreamRun

@[simp]
theorem filterMap_delta?_trace (shown : Trace) (rest : List Signal) :
    (Signal.trace shown :: rest).filterMap Signal.delta? = rest.filterMap Signal.delta? := rfl

theorem filterMap_delta?_map_trace (shown : List Trace) :
    (shown.map Signal.trace).filterMap Signal.delta? = [] := by
  rw [List.filterMap_map]
  exact List.filterMap_eq_nil_iff.mpr fun _ _ => rfl

/-- Traces that come first bring no delta. -/
theorem deltas_announced (traces : List Trace) (signals : List Signal)
    (request : Option SentRequest) (outcome : Except Failure StreamResult) :
    deltas ⟨traces.map Signal.trace ++ signals, request, outcome⟩ =
      signals.filterMap Signal.delta? := by
  rw [deltas, List.filterMap_append, filterMap_delta?_map_trace, List.nil_append]

variable [Wire.Platform]

theorem run_of_ended {config : Config} {messages : List Message} {answer : Answer}
    {request : SentRequest} {signals : List Signal} {outcome : Except Failure StreamResult}
    (hstart : (Exchange.start config messages true).request = .ok request)
    (hanswer : StreamState.ofAnswer config answer = (signals, .ended outcome)) :
    run config messages answer =
      ⟨(Exchange.start config messages true).traces.map Signal.trace ++ signals, some request,
        outcome⟩ := by
  rw [run, hstart]
  simp only [hanswer]

/-- A server that falls silent lets the time run out. -/
theorem run_of_reading {config : Config} {messages : List Message} {answer : Answer}
    {request : SentRequest} {signals more : List Signal} {reader : StreamReader}
    {rest : List (Arrival Char)} {outcome : Except Failure StreamResult}
    (hstart : (Exchange.start config messages true).request = .ok request)
    (hanswer : StreamState.ofAnswer config answer = (signals, .reading reader rest))
    (hfail : StreamState.fail config true reader.transcript.content (.deadline "") =
      (more, .ended outcome)) :
    run config messages answer =
      ⟨(Exchange.start config messages true).traces.map Signal.trace ++ signals ++ more,
        some request, outcome⟩ := by
  rw [run, hstart]
  simp only [hanswer, StreamState.expire, hfail]

theorem run_of_refused {config : Config} {messages : List Message} {answer : Answer}
    {request : SentRequest} {signals more : List Signal} {status : Int}
    {data : List Wire.Byte} {rest : List (Arrival Wire.Byte)}
    {outcome : Except Failure StreamResult}
    (hstart : (Exchange.start config messages true).request = .ok request)
    (hanswer : StreamState.ofAnswer config answer = (signals, .refused status data rest))
    (hfail : StreamState.fail config false "" (.deadline "") = (more, .ended outcome)) :
    run config messages answer =
      ⟨(Exchange.start config messages true).traces.map Signal.trace ++ signals ++ more,
        some request, outcome⟩ := by
  rw [run, hstart]
  simp only [hanswer, StreamState.expire, hfail]

/-- An exchange in which no request is sent fails, and shows no more than the
announcement. -/
theorem run_of_unsent {config : Config} {messages : List Message} {failure : Failure}
    (hstart : (Exchange.start config messages true).request = .error failure)
    (answer : Answer) :
    run config messages answer =
      ⟨(Exchange.start config messages true).traces.map Signal.trace, none,
        .error failure⟩ := by
  rw [run, hstart]

theorem request_run (config : Config) (messages : List Message) (answer : Answer) :
    (run config messages answer).request =
      (Exchange.start config messages true).request.toOption := by
  cases hstart : (Exchange.start config messages true).request with
  | error failure =>
      rw [run_of_unsent hstart]
      rfl
  | ok request =>
      rcases hanswer : StreamState.ofAnswer config answer with ⟨signals, state⟩
      cases state with
      | ended outcome =>
          rw [run_of_ended hstart hanswer]
          rfl
      | reading reader rest =>
          rw [run_of_reading hstart hanswer rfl]
          rfl
      | refused status data rest =>
          rw [run_of_refused hstart hanswer rfl]
          rfl

/-- Whether a request is sent does not depend on the answer to it. -/
theorem start_of_sent {config : Config} {messages : List Message} {answer : Answer}
    {request : SentRequest} (hsent : (run config messages answer).request = some request) :
    (Exchange.start config messages true).request = .ok request := by
  rw [request_run] at hsent
  cases hstart : (Exchange.start config messages true).request with
  | error failure => 
      rw [hstart] at hsent
      cases hsent
  | ok sent =>
      rw [hstart] at hsent
      cases hsent
      rfl

theorem traces_start_of_ok {config : Config} {messages : List Message}
    {request : SentRequest}
    (hstart : (Exchange.start config messages true).request = .ok request) :
    (Exchange.start config messages true).traces =
      [Exchange.announcement config messages true] := by
  rw [Exchange.start] at hstart ⊢
  cases hbody : Request.encode config.model messages true with
  | error problems =>
      rw [hbody] at hstart
      cases hstart
  | ok body => rfl

end StreamRun

end Parley
