import Parley.Exchange.Stream

/-!
# The lines of a reply

A reply is read line by line up to its closing line.  Here the lines that count
are taken from all lines at once, and what a reader shows and keeps is stated
as a function of them: the deltas of the chunks they carry, the warnings about
those that are malformed, and the transcript.
-/

namespace Parley

/-! ## Single lines -/

namespace StreamLine

/-- The line that closes a reply. -/
def closing : String := "data: [DONE]"

/-- The chunk that a line carries. -/
def chunk? : StreamLine → Option Chunk
  | .chunk c => some c
  | _ => none

theorem isData_iff (line : String) :
    isData line = true ↔ dataMark.toList <+: line.toList :=
  List.isPrefixOf_iff_prefix

theorem isData_closing : isData closing = true := by
  decide

theorem dropText_closing : Text.dropText closing dataMark.length = doneMark := by
  decide

theorem decode_of_not_isData {line : String} (hline : isData line = false) :
    decode line = nothing := by
  rw [decode, if_neg (by simp [hline])]

theorem decode_of_isData {line : String} (hline : isData line = true)
    (hrest : Text.dropText line dataMark.length ≠ doneMark) : decode line ≠ done := by
  rw [decode, if_pos hline, if_neg hrest]
  cases Chunk.decode (Text.dropText line dataMark.length) with
  | ok c => simp
  | error problems => simp

/-- Only the closing line closes a reply. -/
theorem decode_eq_done_iff (line : String) : decode line = done ↔ line = closing := by
  constructor
  · intro hdone
    by_cases hdata : isData line = true
    · by_cases hrest : Text.dropText line dataMark.length = doneMark
      · obtain ⟨rest, hline⟩ := (isData_iff line).mp hdata
        have htail := congrArg String.toList hrest
        rw [Text.dropText, String.toList_ofList, ← hline, ← String.length_toList,
          List.drop_left] at htail
        apply String.toList_injective
        rw [← hline, htail]
        rfl
      · exact absurd hdone (decode_of_isData hdata hrest)
    · rw [decode_of_not_isData (Bool.eq_false_iff.mpr hdata)] at hdone
      exact absurd hdone (by simp)
  · rintro rfl
    rw [decode, if_pos isData_closing, dropText_closing]
    rfl

/-- A line with the data mark that carries neither a chunk nor the end. -/
def isMalformed (line : String) : Bool :=
  isData line && decode line == nothing

/-- The signals of a line before the closing one. -/
def signals (line : String) : List Signal :=
  match decode line with
  | .chunk c => c.deltas.map Signal.delta
  | .done => []
  | .nothing => if isData line then [Transcript.skipped line] else []

end StreamLine

/-! ## The lines that count -/

namespace Transcript

/-- The lines of a reply: those before the first closing line. -/
def replyLines (lines : List String) : List String :=
  lines.takeWhile fun line => line != StreamLine.closing

/-- The chunks that lines carry. -/
def chunksOf (lines : List String) : List Chunk :=
  lines.filterMap fun line => (StreamLine.decode line).chunk?

/-- The signals of all lines of a reply, with the one of its closing line. -/
def signalsOf (lines : List String) : List Signal :=
  (replyLines lines).flatMap StreamLine.signals ++
    if StreamLine.closing ∈ lines then [closed] else []

/-- The transcript of all chunks of a reply. -/
def addAll (t : Transcript) (chunks : List Chunk) : Transcript :=
  chunks.foldl add t

theorem replyLines_cons_closing (lines : List String) :
    replyLines (StreamLine.closing :: lines) = [] := by
  simp [replyLines]

theorem replyLines_cons_of_ne {line : String} (hline : line ≠ StreamLine.closing)
    (lines : List String) : replyLines (line :: lines) = line :: replyLines lines := by
  simp [replyLines, hline]

/-- Once a reply is closed, the lines after it do not count. -/
theorem replyLines_append_of_mem {lines : List String} (hclosed : StreamLine.closing ∈ lines)
    (more : List String) : replyLines (lines ++ more) = replyLines lines := by
  induction lines with
  | nil => exact absurd hclosed (by simp)
  | cons line rest ih =>
      by_cases hline : line = StreamLine.closing
      · subst hline
        rw [List.cons_append, replyLines_cons_closing, replyLines_cons_closing]
      · have hrest : StreamLine.closing ∈ rest := by
          simpa [Ne.symm hline] using hclosed
        rw [List.cons_append, replyLines_cons_of_ne hline, replyLines_cons_of_ne hline,
          ih hrest]

theorem replyLines_append_of_not_mem {lines : List String}
    (hopen : StreamLine.closing ∉ lines) (more : List String) :
    replyLines (lines ++ more) = lines ++ replyLines more := by
  apply List.takeWhile_append_of_pos
  intro line hline
  rw [bne_iff_ne]
  rintro rfl
  exact hopen hline

theorem replyLines_of_not_mem {lines : List String} (hopen : StreamLine.closing ∉ lines) :
    replyLines lines = lines := by
  have happend := replyLines_append_of_not_mem hopen []
  rw [List.append_nil] at happend
  rw [happend]
  exact List.append_nil lines

theorem closing_notMem_replyLines (lines : List String) :
    StreamLine.closing ∉ replyLines lines := by
  intro hmem
  have hne := List.all_eq_true.mp List.all_takeWhile StreamLine.closing hmem
  simp at hne

theorem signalsOf_append_of_mem {lines : List String} (hclosed : StreamLine.closing ∈ lines)
    (more : List String) : signalsOf (lines ++ more) = signalsOf lines := by
  rw [signalsOf, signalsOf, replyLines_append_of_mem hclosed,
    if_pos (List.mem_append_left more hclosed), if_pos hclosed]

theorem signalsOf_append_of_not_mem {lines : List String}
    (hopen : StreamLine.closing ∉ lines) (more : List String) :
    signalsOf (lines ++ more) = signalsOf lines ++ signalsOf more := by
  rw [signalsOf, signalsOf, signalsOf, replyLines_append_of_not_mem hopen,
    replyLines_of_not_mem hopen, if_neg hopen]
  simp [hopen]

theorem addAll_append (t : Transcript) (a b : List Chunk) :
    t.addAll (a ++ b) = (t.addAll a).addAll b :=
  List.foldl_append

theorem chunksOf_append (a b : List String) :
    chunksOf (a ++ b) = chunksOf a ++ chunksOf b :=
  List.filterMap_append

/-- What reading lines shows and keeps, and whether it closes the reply. -/
theorem readLines_eq (t : Transcript) (lines : List String) :
    t.readLines lines =
      (signalsOf lines, t.addAll (chunksOf (replyLines lines)),
        decide (StreamLine.closing ∈ lines)) := by
  induction lines generalizing t with
  | nil => rfl
  | cons line rest ih =>
      by_cases hline : line = StreamLine.closing
      · have hdone := (StreamLine.decode_eq_done_iff line).mpr hline
        subst hline
        rw [readLines, hdone, signalsOf, replyLines_cons_closing]
        simp [chunksOf, addAll]
      · have hmem : StreamLine.closing ∈ line :: rest ↔ StreamLine.closing ∈ rest := by
          simp [Ne.symm hline]
        rw [readLines, signalsOf, replyLines_cons_of_ne hline]
        cases hdecode : StreamLine.decode line with
        | done => exact absurd ((StreamLine.decode_eq_done_iff line).mp hdecode) hline
        | nothing =>
            simp only [ih t]
            by_cases hdata : StreamLine.isData line <;>
              simp [hdata, hdecode, hmem, signalsOf, chunksOf, StreamLine.signals,
                StreamLine.chunk?]
        | chunk c =>
            simp only [ih (t.add c)]
            simp [hdecode, hmem, signalsOf, chunksOf, StreamLine.signals, StreamLine.chunk?,
              addAll]

/-! ## What the chunks amount to -/

/-- The non-empty finish reasons of chunks, in the order of their choices. -/
def reasonsOf (chunks : List Chunk) : List String :=
  chunks.flatMap fun chunk =>
    chunk.choices.filterMap fun choice => nonEmpty? choice.finishReason

theorem addAll_eq (t : Transcript) (chunks : List Chunk) :
    t.addAll chunks =
      ⟨t.content ++ String.join (chunks.flatMap Chunk.deltas),
        (reasonsOf chunks).getLast?.or t.finishReason, t.chunks + chunks.length⟩ := by
  induction chunks generalizing t with
  | nil => simp [addAll, reasonsOf]
  | cons chunk rest ih =>
      have hstep : t.addAll (chunk :: rest) = (t.add chunk).addAll rest := rfl
      rw [hstep, ih]
      rw [Transcript.mk.injEq]
      refine ⟨?_, ?_, ?_⟩
      · simp [add, String.append_assoc]
      · simp [add, Chunk.finishReason, reasonsOf, List.getLast?_append, Option.or_assoc]
      · simp only [add, List.length_cons]
        omega

/-! ## What the signals amount to -/

/-- Whether a signal is a warning. -/
def isWarning : Signal → Bool
  | .trace shown => shown.level == Level.warning.word
  | .delta _ => false

theorem filterMap_delta?_signals (line : String) :
    (StreamLine.signals line).filterMap Signal.delta? =
      ((StreamLine.decode line).chunk?.map Chunk.deltas).getD [] := by
  rw [StreamLine.signals]
  cases StreamLine.decode line with
  | chunk c => simp [StreamLine.chunk?, List.filterMap_map, Function.comp_def, Signal.delta?]
  | done => rfl
  | nothing =>
      by_cases hdata : StreamLine.isData line
      · simp [hdata, StreamLine.chunk?, skipped, Signal.delta?]
      · simp [hdata, StreamLine.chunk?]

/-- The deltas among the signals are those of the chunks. -/
theorem filterMap_delta?_signalsOf (lines : List String) :
    (signalsOf lines).filterMap Signal.delta? =
      (chunksOf (replyLines lines)).flatMap Chunk.deltas := by
  have hclosed : ∀ b : Prop, [Decidable b] →
      (if b then [closed] else []).filterMap Signal.delta? = [] := by
    intro b _
    by_cases hb : b <;> simp [hb, closed, Signal.delta?]
  rw [signalsOf, List.filterMap_append, hclosed, List.append_nil]
  induction replyLines lines with
  | nil => rfl
  | cons line rest ih =>
      rw [List.flatMap_cons, List.filterMap_append, filterMap_delta?_signals, ih]
      cases hchunk : (StreamLine.decode line).chunk? <;> simp [chunksOf, hchunk]

theorem filter_isWarning_signals (line : String) :
    (StreamLine.signals line).filter isWarning =
      if StreamLine.isMalformed line then [skipped line] else [] := by
  rw [StreamLine.signals, StreamLine.isMalformed]
  cases hdecode : StreamLine.decode line with
  | chunk c => simp [isWarning]
  | done => simp
  | nothing =>
      by_cases hdata : StreamLine.isData line
      · simp [hdata, skipped, isWarning, Exchange.trace]
      · simp [hdata]

/-- There is one warning for each malformed line, and no other. -/
theorem filter_isWarning_signalsOf (lines : List String) :
    (signalsOf lines).filter isWarning =
      ((replyLines lines).filter StreamLine.isMalformed).map skipped := by
  have hclosed : ∀ b : Prop, [Decidable b] →
      (if b then [closed] else []).filter isWarning = [] := by
    intro b _
    by_cases hb : b <;> simp [hb, closed, isWarning, Exchange.trace, Level.word]
  rw [signalsOf, List.filter_append, hclosed, List.append_nil]
  induction replyLines lines with
  | nil => rfl
  | cons line rest ih =>
      rw [List.flatMap_cons, List.filter_append, filter_isWarning_signals, ih]
      by_cases hline : StreamLine.isMalformed line <;> simp [hline]

end Transcript

end Parley
