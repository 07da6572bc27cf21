import Parley.Proofs.Inline.Lines
import Parley.Proofs.Terminal.Display

/-!
# Erasing a written reply

On a terminal the pieces of a reply are written as they arrive, and when the turn is over the
rows that they took are erased from the last one up.  The cursor then stands where the
reply began, and the drawn reply takes its place.  The rows are not looked up but counted
from the text.  A line that fills its last row counts no further row, since the cursor
waits at the end of the row, and a line feed at the end of the text counts none, since no
other one is written then.
-/

namespace Parley.Inline

open Terminal (Display)
open Terminal.Display (IsPlain)

/-! ## On the display -/

namespace Printer

variable (width : Nat) {d : Display} (hsequence : d.sequence = .outside)
include hsequence

theorem write_clearLine :
    d.write width clearLine = { d with column := 0 }.clearRow := by
  have hchars : clearLine.toList = ['\r'] ++ ['\x1b', '[', 'K'] := rfl
  rw [Display.write, hchars, Display.feed_append, Display.feed_return width hsequence]
  exact Display.feed_clearRow width hsequence rfl

theorem write_upClear (hcolumn : d.column = 0) :
    d.write width upClear = { d with row := d.row - 1 }.clearRow := by
  have hchars : upClear.toList = ['\x1b', '[', 'A'] ++ ['\x1b', '[', 'K'] := rfl
  have hup : d.up width = { d with row := d.row - 1 } := by
    rw [Display.up, hcolumn, Nat.zero_min]
  rw [Display.write, hchars, Display.feed_append, Display.feed_up width hsequence, hup]
  exact Display.feed_clearRow width hsequence hcolumn

/-- Going up from row to row clears them all, and the cursor ends in the highest of them. -/
theorem write_upClears (hcolumn : d.column = 0) {start : Nat} (count : Nat)
    (hrow : d.row = start + count) :
    let e := d.write width (String.join (List.replicate count upClear))
    e.row = start ∧ e.column = 0 ∧
      (∀ row, start ≤ row ∧ row < start + count → e.IsBlank row) ∧
      ∀ row, ¬ (start ≤ row ∧ row < start + count) → e.cells row = d.cells row := by
  induction count generalizing d with
  | zero =>
      refine ⟨hrow, hcolumn, ?_, fun row _ => rfl⟩
      intro row hbetween
      omega
  | succ count ih =>
      let next := { d with row := d.row - 1 }.clearRow
      have hfirst : d.write width upClear = next := write_upClear width hsequence hcolumn
      have hnext : next.row = start + count := by
        show d.row - 1 = start + count
        omega
      obtain ⟨hlast, hhome, hblank, hkept⟩ := @ih next hsequence hcolumn hnext
      intro e
      have he : e = next.write width (String.join (List.replicate count upClear)) := by
        rw [← hfirst, ← Display.write_append, ← String.join_cons, ← List.replicate_succ]
      rw [he]
      refine ⟨hlast, hhome, ?_, ?_⟩
      · intro row hbetween
        by_cases hlowest : row = d.row - 1
        · intro column
          rw [hkept row (by omega), hlowest]
          exact Display.isBlank_clearRow _ column
        · exact hblank row (by omega)
      · intro row hbetween
        rw [hkept row (by omega)]
        exact Display.cells_clearRow _ (by show row ≠ d.row - 1; omega)

end Printer

/-- What is left of a display when everything from the row of its cursor on is erased, and the
cursor stands at the start of that row. -/
structure Erased (d e : Display) : Prop where
  row : e.row = d.row
  column : e.column = 0
  above : ∀ row < d.row, e.cells row = d.cells row
  below : ∀ row, d.row ≤ row → e.IsBlank row

theorem erased_clearLine (width : Nat) {d : Display} (hsequence : d.sequence = .outside)
    (hbelow : ∀ row, d.row < row → d.IsBlank row) :
    Erased d (d.write width Printer.clearLine) := by
  rw [Printer.write_clearLine width hsequence]
  refine ⟨rfl, rfl, ?_, ?_⟩
  · intro row hrow
    exact Display.cells_clearRow _ (Nat.ne_of_lt hrow)
  · intro row hrow column
    obtain hsame | hlater := Nat.eq_or_lt_of_le hrow
    · rw [← hsame]
      exact Display.isBlank_clearRow _ column
    · have hkept := Display.cells_clearRow { d with column := 0 } (Nat.ne_of_gt hlater)
      exact (congrFun hkept column).trans (hbelow row hlater column)

/-- Writing plain text, ending its last line and going up again erases what was written. -/
theorem Erased.write {width : Nat} (hwidth : 0 < width) {d start : Display}
    (hstart : Erased d start) (hsequence : start.sequence = .outside) {s : String}
    (hs : ∀ c ∈ s.toList, IsPlain c) :
    Erased d (start.write width
      (s ++ "\n" ++ String.join (List.replicate (Text.displayRows s width) Printer.upClear))) := by
  let written := start.write width (s ++ "\n")
  have hended : ∀ c ∈ (s ++ "\n").toList, IsPlain c := by
    intro c hc
    rw [String.toList_append, List.mem_append] at hc
    obtain hc | hc := hc
    · exact hs c hc
    · exact Or.inl (List.mem_singleton.mp hc)
  have hcontinues : Display.Continues start written :=
    (Display.Continues.refl hsequence).feed width hended
  obtain ⟨hhome, hdown⟩ := Display.write_text hwidth hsequence hstart.column hs
  rw [hstart.row] at hdown
  obtain ⟨hrow, hcolumn, hblank, hkept⟩ := Printer.write_upClears width hcontinues.sequence
    hhome (Text.displayRows s width) hdown
  rw [Display.write_append]
  refine ⟨hrow, hcolumn, ?_, ?_⟩
  · intro row hlow
    rw [hkept row (by omega), hcontinues.above row (by rw [hstart.row]; exact hlow)]
    exact hstart.above row hlow
  · intro row hhigh
    by_cases hbetween : row < d.row + Text.displayRows s width
    · exact hblank row ⟨hhigh, hbetween⟩
    -- below the last line nothing was written
    · intro column
      have hahead : written.row < row ∨ row = written.row ∧ written.column = 0 := by
        have hrow : written.row ≤ row := by
          show (start.write width (s ++ "\n")).row ≤ row
          omega
        obtain hsame | hlater := Nat.eq_or_lt_of_le hrow
        · exact Or.inr ⟨hsame.symm, hhome⟩
        · exact Or.inl hlater
      rw [hkept row (by omega), hcontinues.ahead row hahead]
      exact hstart.below row hhigh column

/-! ## What a turn writes -/

namespace Printer

/-- The line feed that ends a reply which does not end with one itself. -/
def lineEnd (raw : String) : String :=
  if raw.isEmpty || Text.endsWith raw "\n" then "" else "\n"

/-- What erases a written reply. -/
def erasing (p : Printer) (raw : String) : String :=
  String.join (List.replicate (p.writtenRows raw) upClear)

/-- A written reply is a text and one line feed, and the text is what counts. -/
theorem exists_written (p : Printer) {raw : String} (hraw : raw ≠ "") :
    ∃ s, raw ++ lineEnd raw = s ++ "\n" ∧ p.writtenRows raw = Text.displayRows s p.width ∧
      ∀ c ∈ s.toList, c ∈ raw.toList := by
  cases hends : Text.endsWith raw "\n" with
  | true =>
      refine ⟨Text.takeText raw (raw.length - 1), ?_, ?_, ?_⟩
      · rw [Text.takeText_of_endsWith hends, lineEnd, hends, Bool.or_true, if_pos rfl,
          String.append_empty]
      · rw [writtenRows, if_pos hends]
      · intro c hc
        rw [Text.takeText, String.toList_ofList] at hc
        exact List.mem_of_mem_take hc
  | false =>
      refine ⟨raw, ?_, ?_, fun c hc => hc⟩
      · rw [lineEnd, hends, String.isEmpty_eq_false_iff.mpr hraw]
        rfl
      · rw [writtenRows, if_neg (ne_true_of_eq_false hends)]

theorem finish_eq {p : Printer} (hthinking : p.thinking = false) (added : List Entry)
    (finishReason : Option String) :
    (p.finish added finishReason).1 =
      lineEnd p.raw ++ (String.join (added.map (p.committed p.raw)) ++
        (p.reason finishReason ++ emptyLine)) := by
  have hcleared : p.clearThinking = ("", p) := by
    rw [clearThinking, hthinking]
    rfl
  rw [finish, hcleared]
  show "" ++ lineEnd p.raw ++ String.join (added.map (p.committed p.raw)) ++
    p.reason finishReason ++ emptyLine = _
  rw [String.empty_append, String.append_assoc, String.append_assoc]

end Printer

/-- The entries that the end of a turn adds, if any of the reply arrived. -/
theorem entries_finish (render : Renderer) {c : Conversation} (hreply : c.reply ≠ "")
    (error : Option Failure) (finishReason : Option String) :
    (c.finish render error finishReason).entries =
      c.entries ++ ⟨.assistant, c.reply, some (render c.reply c.contentWidth)⟩ ::
        error.toList.map fun failure => ⟨.error, failure.described, none⟩ := by
  have harrived : (error.isNone || !c.reply.isEmpty) = true := by
    rw [String.isEmpty_eq_false_iff.mpr hreply, Bool.not_false, Bool.or_true]
  rw [Conversation.finish, if_pos harrived]
  cases error with
  | none => rfl
  | some failure => exact List.append_assoc c.entries _ _

namespace Chat

variable (render : Renderer)

theorem exists_pieces {told : Conduct} {before after : List Event} {event : Event}
    (hevents : told.events = before ++ event :: after) :
    ∃ pieces : List String, before = pieces.map Event.delta := by
  rw [Conduct.events] at hevents
  obtain ⟨rest, hbefore, hrest⟩ | ⟨rest, hdeltas, -⟩ := List.append_eq_append_iff.mp hevents
  · cases rest with
    | nil => exact ⟨told.run.deltas, by rw [hbefore, List.append_nil]⟩
    | cons first others =>
        obtain ⟨-, hnone⟩ := List.cons.inj hrest
        exact absurd hnone.symm (List.append_ne_nil_of_right_ne_nil _ (List.cons_ne_nil _ _))
  · obtain ⟨pieces, later, -, hpieces, -⟩ := List.map_eq_append_iff.mp hdeltas
    exact ⟨pieces, hpieces.symm⟩

/-- At each event of a turn the reply was written as far as it has arrived. -/
theorem raw_hearAll {chat : Chat} (hstreaming : chat.conversation.streaming = true)
    (hraw : chat.printer.raw = chat.conversation.reply) (told : Conduct)
    {before after : List Event} {event : Event}
    (hevents : told.events = before ++ event :: after) :
    let reached := (chat.hearAll render before).2
    reached.printer.raw = reached.conversation.reply := by
  obtain ⟨pieces, hbefore⟩ := exists_pieces hevents
  rw [hbefore, hearAll_deltas render hstreaming]
  exact congrArg (· ++ String.join pieces) hraw

/-- What is shown when a turn ends on a terminal, if any of the reply has arrived. -/
theorem output_closing (chat : Chat) (hstreaming : chat.conversation.streaming = true)
    (hterminal : chat.printer.isTerminal = true) (hthinking : chat.printer.thinking = false)
    (hraw : chat.printer.raw = chat.conversation.reply)
    (hreply : chat.conversation.reply ≠ "") (told : Conduct) :
    let reply := chat.conversation.reply
    ∃ rest, (chat.hear render told.closing).1 =
      Printer.lineEnd reply ++ (chat.printer.erasing reply ++
        (render reply chat.conversation.contentWidth ++ "\n" ++ rest)) := by
  intro reply
  let ended := chat.conversation.finish render told.ending.failure?
    (told.ending.result?.bind StreamResult.finishReason)
  let drawn := render reply chat.conversation.contentWidth
  let errors : List Entry :=
    told.ending.failure?.toList.map fun failure => ⟨.error, failure.described, none⟩
  have hhandle : chat.conversation.handle render told.closing = (ended, .render) :=
    if_pos hstreaming
  have hhear : (chat.hear render told.closing).1 =
      (chat.printer.finish
        ((chat.conversation.handle render told.closing).1.entries.drop
          chat.conversation.entries.length)
        (chat.conversation.handle render told.closing).1.finishReason).1 :=
    rfl
  have hadded : ended.entries.drop chat.conversation.entries.length =
      ⟨.assistant, reply, some drawn⟩ :: errors := by
    rw [entries_finish render hreply, List.drop_left]
  have hreplaced : chat.printer.committed reply ⟨.assistant, reply, some drawn⟩ =
      chat.printer.erasing reply ++ (drawn ++ "\n") := by
    have hshown : (chat.printer.isTerminal && !reply.isEmpty) = true := by
      rw [hterminal, String.isEmpty_eq_false_iff.mpr hreply]
      rfl
    show chat.printer.replaceRaw reply drawn = _
    rw [Printer.replaceRaw, if_pos hshown, String.append_assoc]
    rfl
  rw [hhear, hhandle, hadded, Printer.finish_eq hthinking, hraw, List.map_cons,
    String.join_cons, hreplaced]
  refine ⟨String.join (errors.map (chat.printer.committed reply)) ++
    (chat.printer.reason ended.finishReason ++ Printer.emptyLine), ?_⟩
  simp only [String.append_assoc]
  rfl

/-- What is shown of a turn on a terminal, if any of the reply arrives. -/
theorem output_hearAll {chat : Chat} (hstreaming : chat.conversation.streaming = true)
    (hreply : chat.conversation.reply = "") (hterminal : chat.printer.isTerminal = true)
    (hraw : chat.printer.raw = "") (hthinking : chat.printer.thinking = true)
    {told : Conduct} (htext : told.text ≠ "") :
    ∃ rest, (chat.hearAll render told.events).1 =
      Printer.clearLine ++
        (told.text ++ Printer.lineEnd told.text ++ (chat.printer.erasing told.text ++
          (render told.text chat.conversation.contentWidth ++ "\n" ++ rest))) := by
  have hany : told.run.deltas.isEmpty = false := by
    cases hdeltas : told.run.deltas with
    | nil => exact absurd (congrArg String.join hdeltas) htext
    | cons piece pieces => rfl
  have hmark : chat.mark told.run.deltas = Printer.clearLine := by
    rw [mark, hthinking, hany]
    rfl
  let heard := chat.arrived told.run.deltas
  have hwritten : heard.printer.raw = told.text := by
    show chat.printer.raw ++ told.text = told.text
    rw [hraw, String.empty_append]
  have harrived : heard.conversation.reply = told.text := by
    show chat.conversation.reply ++ told.text = told.text
    rw [hreply, String.empty_append]
  have hquiet : heard.printer.thinking = false := by
    show (chat.printer.thinking && told.run.deltas.isEmpty) = false
    rw [hany, Bool.and_false]
  obtain ⟨rest, hclosing⟩ := output_closing render heard hstreaming hterminal hquiet
    (hwritten.trans harrived.symm) (by rw [harrived]; exact htext) told
  rw [harrived] at hclosing
  refine ⟨rest, ?_⟩
  rw [Conduct.events, hearAll_append, hearAll_deltas render hstreaming, hmark]
  show Printer.clearLine ++ told.text ++ ((heard.hear render told.closing).1 ++ "") = _
  rw [hclosing]
  simp only [String.append_empty, String.append_assoc]
  rfl

theorem startReply_of_terminal {p : Printer} (hterminal : p.isTerminal = true) :
    p.startReply.2 = { p with raw := "", thinking := true } := by
  rw [Printer.startReply, if_pos hterminal]

/-- On a terminal a turn writes the reply as it arrives: at each of its events the printer has
written what the conversation holds.  If any of it arrives, the rows that it takes are
erased at the end of the turn, those and no others, so that the cursor is back where the
reply began. -/
theorem erases_written (chat : Chat) (input : Input) (told : Conduct) (traced : Bool)
    (hidle : chat.conversation.streaming = false)
    (hterminal : chat.printer.isTerminal = true)
    (hwidth : 0 < input.width.getD chat.printer.console.width) (hasks : input.asks = true)
    (hplain : ∀ piece ∈ told.run.deltas, ∀ c ∈ piece.toList, IsPlain c) :
    let width := input.width.getD chat.printer.console.width
    let asking := chat.asking render input
    let begun := asking.opened
    (chat.read render (.ofConduct traced fun _ _ => told) input).output =
      asking.heading ++ (begun.hearAll render told.events).1 ∧
    (∀ before event after, told.events = before ++ event :: after →
      let reached := (begun.hearAll render before).2
      reached.printer.raw = reached.conversation.reply) ∧
    (told.text ≠ "" →
      let written := told.text ++ Printer.lineEnd told.text
      let erasing := begun.printer.erasing told.text
      (∃ rest, (begun.hearAll render told.events).1 =
        Printer.clearLine ++ (written ++ (erasing ++
          (render told.text begun.conversation.contentWidth ++ "\n" ++ rest)))) ∧
      ∀ d : Display, d.sequence = .outside → (∀ row, d.row < row → d.IsBlank row) →
        let start := d.write width Printer.clearLine
        Erased d start ∧ Erased d (start.write width (written ++ erasing))) := by
  intro width asking begun
  have hread : chat.read render (.ofConduct traced fun _ _ => told) input =
      asking.turn render (.ofConduct traced fun _ _ => told) :=
    read_of_asks render hidle input _ hasks
  have hprinter : begun.printer = { asking.printer with raw := "", thinking := true } :=
    startReply_of_terminal hterminal
  have hraw : begun.printer.raw = "" := by rw [hprinter]
  have hstreaming : begun.conversation.streaming = true := rfl
  have hreply : begun.conversation.reply = "" := rfl
  refine ⟨?_, ?_, ?_⟩
  · rw [hread, turn_ofConduct]
  · intro before event after hevents
    exact raw_hearAll render hstreaming hraw told hevents
  · intro htext written erasing
    refine ⟨?_, ?_⟩
    · exact output_hearAll render hstreaming hreply (by rw [hprinter]; exact hterminal) hraw
        (by rw [hprinter]) htext
    · intro d hsequence hbelow start
      have hstart : Erased d start := erased_clearLine width hsequence hbelow
      obtain ⟨s, hwritten, hrows, hchars⟩ := begun.printer.exists_written htext
      have hs : ∀ c ∈ s.toList, IsPlain c := by
        intro c hc
        have hmem : c ∈ told.run.deltas.flatMap String.toList := by
          rw [← String.toList_join]
          exact hchars c hc
        obtain ⟨piece, hpiece, hc⟩ := List.mem_flatMap.mp hmem
        exact hplain piece hpiece c hc
      have hcolumns : begun.printer.width = (width : Int) := by
        rw [hprinter]
        rfl
      have herasing : erasing =
          String.join (List.replicate (Text.displayRows s width) Printer.upClear) := by
        rw [← hcolumns, ← hrows]
        rfl
      have hquiet : start.sequence = .outside := by
        have hcleared : start = { d with column := 0 }.clearRow :=
          Printer.write_clearLine width hsequence
        rw [hcleared]
        exact hsequence
      refine ⟨hstart, ?_⟩
      rw [herasing]
      show Erased d (start.write width (told.text ++ Printer.lineEnd told.text ++ _))
      rw [hwritten]
      exact hstart.write hwidth hquiet hs

/-- A reply of two lines in two pieces, broken off.  At a width of two columns its first line
fills a row, and its second one takes two. -/
def cutReply : Conduct :=
  ⟨none, [.delta "a", .delta "b\ncde"],
    .failed (.chat (.interrupted "lost" "ab\ncde")) rfl⟩

/-- A display whose cursor stands behind a character of its seventh row. -/
def partlyFilled : Display :=
  ⟨fun row _ => if row ≤ 7 then 'x' else Terminal.Display.blank, 7, 1, .outside⟩

theorem erases_written_cutReply :
    let config : Config := ⟨"http://localhost", "k", "m", Config.defaultTimeout⟩
    let chat := start config ⟨2, false⟩ true 24
    let begun := (chat.asking (fun text _ => text) ⟨"hi", none⟩).opened
    let written := cutReply.text ++ Printer.lineEnd cutReply.text
    let erasing := begun.printer.erasing cutReply.text
    (∀ piece ∈ cutReply.run.deltas, ∀ c ∈ piece.toList, IsPlain c) ∧ cutReply.text ≠ "" ∧
    begun.printer.writtenRows cutReply.text = 3 ∧
    Erased partlyFilled
      ((partlyFilled.write 2 Printer.clearLine).write 2 (written ++ erasing)) := by
  intro config chat begun written erasing
  have hchars : cutReply.run.deltas.map String.toList = [['a'], ['b', '\n', 'c', 'd', 'e']] :=
    rfl
  have hall : ∀ chars ∈ [['a'], ['b', '\n', 'c', 'd', 'e']], ∀ c ∈ chars, IsPlain c := by
    simp [IsPlain, Text.IsNarrow, Text.charCells]
  have hplain : ∀ piece ∈ cutReply.run.deltas, ∀ c ∈ piece.toList, IsPlain c := by
    intro piece hpiece
    have hmem : piece.toList ∈ cutReply.run.deltas.map String.toList :=
      List.mem_map_of_mem hpiece
    rw [hchars] at hmem
    exact hall piece.toList hmem
  have htext : cutReply.text ≠ "" := by
    decide +kernel
  have hbelow : ∀ row, partlyFilled.row < row → partlyFilled.IsBlank row :=
    fun row hrow column => if_neg (Nat.not_le_of_gt hrow)
  obtain ⟨-, -, herases⟩ := erases_written (fun text _ => text) chat ⟨"hi", none⟩ cutReply true
    rfl rfl (by decide) (by decide +kernel) hplain
  obtain ⟨-, herased⟩ := herases htext
  exact ⟨hplain, htext, by decide +kernel, (herased partlyFilled rfl hbelow).2⟩

end Chat

end Parley.Inline
