import Parley.Proofs.Exchange.Listening
import Parley.Wire.Installed

/-!
# Complete replies

What a streaming exchange yields when the server answers with success and the
body comes to its end.  The result, the deltas and the warnings are functions of
the lines before the closing one, and all but the warnings depend on nothing but
the chunks in them.  The lines are those of the text that the codec reads in the body,
which in UTF-8 is there for every body.
-/

namespace Parley

/-- An answer with success, whose body comes to its end after some pieces. -/
def Answer.complete (status : Int) (contentType : Option String)
    (pieces : List (List Wire.Byte)) : Answer :=
  .response status contentType (pieces.map Arrival.piece)

namespace StreamRun

open Transcript StreamReader

/-- The lines that count in the text of a complete reply. -/
def countedLines (text : List Char) : List String :=
  replyLines (bodyLines text)

theorem isWarning_trace (level : Level) (message : String) :
    isWarning (.trace (Exchange.trace level message)) = (level == .warning) := by
  change (level.word == Level.warning.word) = (level == .warning)
  cases level <;> decide

theorem filterMap_delta?_completion (t : Transcript) :
    t.completion.filterMap Signal.delta? = [] := by
  rw [completion]
  cases t.finishReason <;> simp

theorem filter_isWarning_completion (t : Transcript) :
    t.completion.filter isWarning = [] := by
  rw [completion]
  cases t.finishReason <;> simp [isWarning_trace]

section Complete

variable [Wire.Platform]
variable {config : Config} {messages : List Message} {request : SentRequest}
variable {status : Int} {contentType : Option String} {pieces : List (List Wire.Byte)}
variable {text : List Char}

theorem ofAnswer_complete (hstatus : isSuccess status = true)
    (hread : (Wire.Codec.ofContentType contentType).read pieces = .ok text) :
    StreamState.ofAnswer config (.complete status contentType pieces) =
      StreamState.after ([StreamState.begins status] ++ signalsOf (bodyLines text))
        (StreamState.complete (empty.addAll (chunksOf (countedLines text)))) := by
  obtain ⟨texts, hdecode, rfl⟩ := Arrival.decode_of_read hread
  rw [Answer.complete, StreamState.ofAnswer_success hstatus, hdecode, StreamState.listen_pieces,
    StreamState.after_after, countedLines]

/-- A complete reply from its announcement to its result. -/
theorem run_complete_eq (hstatus : isSuccess status = true)
    (hsent : (run config messages (.complete status contentType pieces)).request =
      some request)
    (hread : (Wire.Codec.ofContentType contentType).read pieces = .ok text) :
    run config messages (.complete status contentType pieces) =
      ⟨[.trace (Exchange.announcement config messages true)] ++
          ([StreamState.begins status] ++ signalsOf (bodyLines text) ++
            (empty.addAll (chunksOf (countedLines text))).completion),
        some request,
        .ok (empty.addAll (chunksOf (countedLines text))).result⟩ := by
  have hstart := start_of_sent hsent
  have hanswer : StreamState.ofAnswer config (.complete status contentType pieces) = _ :=
    ofAnswer_complete hstatus hread
  rw [StreamState.complete, StreamState.after] at hanswer
  rw [run_of_ended hstart hanswer, traces_start_of_ok hstart, List.map_singleton]

theorem deltas_complete (hstatus : isSuccess status = true)
    (hsent : (run config messages (.complete status contentType pieces)).request =
      some request)
    (hread : (Wire.Codec.ofContentType contentType).read pieces = .ok text) :
    (run config messages (.complete status contentType pieces)).deltas =
      (chunksOf (countedLines text)).flatMap Chunk.deltas := by
  rw [deltas, run_complete_eq hstatus hsent hread]
  simp [filterMap_delta?_signalsOf, filterMap_delta?_completion, StreamState.begins,
    countedLines]

theorem outcome_complete (hstatus : isSuccess status = true)
    (hsent : (run config messages (.complete status contentType pieces)).request =
      some request)
    (hread : (Wire.Codec.ofContentType contentType).read pieces = .ok text) :
    (run config messages (.complete status contentType pieces)).outcome =
      .ok ⟨String.join ((chunksOf (countedLines text)).flatMap Chunk.deltas),
        (reasonsOf (chunksOf (countedLines text))).getLast?,
        (chunksOf (countedLines text)).length⟩ := by
  rw [run_complete_eq hstatus hsent hread, addAll_eq]
  simp [empty, result]

theorem warnings_complete (hstatus : isSuccess status = true)
    (hsent : (run config messages (.complete status contentType pieces)).request =
      some request)
    (hread : (Wire.Codec.ofContentType contentType).read pieces = .ok text) :
    (run config messages (.complete status contentType pieces)).signals.filter isWarning =
      ((countedLines text).filter StreamLine.isMalformed).map skipped := by
  rw [run_complete_eq hstatus hsent hread]
  simp [filter_isWarning_signalsOf, filter_isWarning_completion, StreamState.begins,
    Exchange.announcement, isWarning_trace, countedLines]

omit [Wire.Platform] in
theorem chunk?_isSome_of_counted {line : String}
    (hline : line ∈ countedLines text) (hdata : StreamLine.isData line = true) :
    (StreamLine.decode line).chunk?.isSome = !StreamLine.isMalformed line := by
  have hopen : line ≠ StreamLine.closing := by
    rintro rfl
    exact closing_notMem_replyLines _ hline
  rw [StreamLine.isMalformed, hdata]
  cases hdecode : StreamLine.decode line with
  | done => exact absurd ((StreamLine.decode_eq_done_iff line).mp hdecode) hopen
  | nothing => rfl
  | chunk c => rfl

/-- The deltas, the result and the warnings of a complete reply are those of the
lines before its closing line.  Each of these lines that has the data mark carries
a chunk or causes one warning, and another body whose lines carry the same chunks
brings the same deltas and the same result. -/
theorem run_complete (hstatus : isSuccess status = true)
    (hsent : (run config messages (.complete status contentType pieces)).request =
      some request)
    (hread : (Wire.Codec.ofContentType contentType).read pieces = .ok text) :
    let shown := run config messages (.complete status contentType pieces)
    let lines := countedLines text
    let chunks := chunksOf lines
    shown.deltas = chunks.flatMap Chunk.deltas ∧
    shown.outcome =
      .ok ⟨String.join shown.deltas, (reasonsOf chunks).getLast?, chunks.length⟩ ∧
    shown.signals.filter isWarning = (lines.filter StreamLine.isMalformed).map skipped ∧
    (∀ line ∈ lines, StreamLine.isData line = true →
      (StreamLine.decode line).chunk?.isSome = !StreamLine.isMalformed line) ∧
    (∀ status' contentType' pieces' text', isSuccess status' = true →
      (Wire.Codec.ofContentType contentType').read pieces' = .ok text' →
      chunksOf (countedLines text') = chunks →
      (run config messages (.complete status' contentType' pieces')).outcome =
          shown.outcome ∧
        (run config messages (.complete status' contentType' pieces')).deltas =
          shown.deltas) := by
  intro shown lines chunks
  have hdeltas : shown.deltas = chunks.flatMap Chunk.deltas :=
    deltas_complete hstatus hsent hread
  have houtcome : shown.outcome = .ok ⟨String.join (chunks.flatMap Chunk.deltas),
      (reasonsOf chunks).getLast?, chunks.length⟩ := outcome_complete hstatus hsent hread
  refine ⟨hdeltas, ?_, warnings_complete hstatus hsent hread, ?_, ?_⟩
  · rw [houtcome, hdeltas]
  · intro line hline hdata
    exact chunk?_isSome_of_counted hline hdata
  · intro status' contentType' pieces' text' hstatus' hread' hchunks
    have hsent' : (run config messages (.complete status' contentType' pieces')).request =
        some request := by
      rw [request_run, ← hsent, request_run]
    constructor
    · rw [outcome_complete hstatus' hsent' hread', hchunks, houtcome]
    · rw [deltas_complete hstatus' hsent' hread', hchunks, hdeltas]

end Complete

section Installed

attribute [local instance] Wire.Platform.installed

/-- A body with a chunk, a comment, a malformed line and a line after the closing one,
cut inside its only character of two bytes. -/
def cutPieces : List (List Wire.Byte) :=
  let body := Wire.Utf8.encode
    ("data: \x7b\"choices\":[\x7b\"delta\":\x7b\"content\":\"Hé\"\x7d\x7d]\x7d\r\n" ++
      ": note\ndata: nothing\n\ndata: [DONE]\ndata: \x7b\x7d").toList
  [body.take 42, body.drop 42]

theorem countedLines_cutPieces :
    countedLines (Wire.Utf8.decode cutPieces.flatten).toList =
      ["data: \x7b\"choices\":[\x7b\"delta\":\x7b\"content\":\"Hé\"\x7d\x7d]\x7d", ": note",
        "data: nothing", ""] := by
  decide +kernel

theorem run_complete_cutPieces :
    isSuccess 200 = true ∧
    (run (.defaults "k") [⟨.user, "hi"⟩] (.complete 200 none cutPieces)).request.isSome ∧
    (Wire.Codec.ofContentType none).read cutPieces =
      .ok (Wire.Utf8.decode cutPieces.flatten).toList ∧
    (run (.defaults "k") [⟨.user, "hi"⟩] (.complete 200 none cutPieces)).outcome =
      .ok ⟨"Hé", none, 1⟩ ∧
    (run (.defaults "k") [⟨.user, "hi"⟩]
        (.complete 200 none cutPieces)).signals.filter isWarning =
      [skipped "data: nothing"] := by
  have hstatus : isSuccess 200 = true := by decide
  have hsome : (run (.defaults "k") [⟨.user, "hi"⟩]
      (.complete 200 none cutPieces)).request.isSome := by
    rw [request_run]
    decide +kernel
  have hread : (Wire.Codec.ofContentType none).read cutPieces =
      .ok (Wire.Utf8.decode cutPieces.flatten).toList := Wire.Codec.read_utf8 cutPieces
  obtain ⟨request, hsent⟩ := Option.isSome_iff_exists.mp hsome
  obtain ⟨hdeltas, houtcome, hwarnings, -, -⟩ := run_complete hstatus hsent hread
  refine ⟨hstatus, hsome, hread, ?_, ?_⟩
  · rw [houtcome, hdeltas, countedLines_cutPieces]
    exact congrArg Except.ok (by decide +kernel)
  · rw [hwarnings, countedLines_cutPieces]
    decide +kernel

end Installed

end StreamRun

end Parley
