import Parley.Proofs.Exchange.CompleteReply
import Parley.Proofs.Json.Quotation
import Parley.Proofs.Json.Writing
import Parley.Proofs.Wire.Encoding
import Parley.Proofs.Wire.LineEnds
import Parley.Wire.Installed

/-!
# Replies sent as an event stream

A server sends each delta of a reply in a JSON text of its own, on a line with the data
mark.  However the texts are written, their deltas arrive in this order, unless a text
holds one of the three line separators that JSON lets stand in a string.  Such a text is
cut into lines of which none carries a delta.
-/

namespace Parley

namespace Chunk

/-- The JSON form of a chunk with one delta. -/
def deltaJson (delta : String) : Json :=
  .object [("choices", .array [.object [("delta", .object [("content", .string delta)])]])]

/-- A chunk with one delta. -/
def ofDelta (delta : String) : Chunk :=
  ⟨"", [⟨some ⟨none, some delta⟩, none⟩]⟩

theorem deltas_ofDelta {delta : String} (hdelta : delta ≠ "") :
    (ofDelta delta).deltas = [delta] := by
  simp [ofDelta, deltas, ChunkChoice.content?, nonEmpty?, hdelta]

theorem ofMembers_nil : ofMembers [] = .ok ⟨"", []⟩ := rfl

theorem object_deltaJson (delta : String) :
    Checked.object ofMembers (deltaJson delta) = .ok (ofDelta delta) := rfl

theorem carries_deltaJson {delta : String} {t : List Char}
    (ht : Json.Padded (deltaJson delta) t) : Json.Carries delta t := by
  have hnames : ∀ name ∈ ["choices", "delta", "content"], ∀ c ∈ name.toList, Json.Visible c := by
    simp only [List.forall_mem_cons, ← List.all_iff_forall_prop]
    decide
  have hcontent {u : List Char} :
      Json.Padded (.object [("content", .string delta)]) u → Json.Carries delta u :=
    Json.Carries.of_object (hnames _ (by decide)) Json.Carries.of_string
  have hchoice {u : List Char} :
      Json.Padded (.object [("delta", .object [("content", .string delta)])]) u →
        Json.Carries delta u :=
    Json.Carries.of_object (hnames _ (by decide)) hcontent
  exact Json.Carries.of_object (hnames _ (by decide)) (Json.Carries.of_array hchoice) ht

theorem nesting_deltaJson (delta : String) : (deltaJson delta).nesting ≤ Json.maxDepth := by
  have hnesting : (deltaJson delta).nesting = 4 := by
    simp [deltaJson, Json.nesting, Json.nestingMembers, Json.nestingItems]
  rw [hnesting]
  decide

theorem isPlain_deltaJson (delta : String) : (deltaJson delta).IsPlain := by
  simp [deltaJson, Json.IsPlain, Json.ArePlain, Json.HasPlainMembers]

theorem decode_padded {delta : String} {t : List Char} (ht : Json.Padded (deltaJson delta) t) :
    decode (String.ofList t) = .ok (ofDelta delta) := by
  have hread : Json.read (String.ofList t) = some (deltaJson delta) := by
    rw [Json.read, String.toList_ofList]
    obtain ⟨digits, hdigits⟩ := ht
    exact Json.readWithin_padded (hdigits.of_isPlain (isPlain_deltaJson delta))
      (nesting_deltaJson delta)
  rw [decode, hread]
  exact object_deltaJson delta

/-- The text of a chunk without white space, around that of its delta. -/
def compactText (content : List Char) : List Char :=
  "\x7b\"choices\":[\x7b\"delta\":\x7b\"content\":\"".toList ++
    (content ++ "\"\x7d\x7d]\x7d".toList)

theorem padded_compactText {delta : String} {content : List Char}
    (hcontent : Json.SpelledText delta.toList content) :
    Json.Padded (deltaJson delta) (compactText content) := by
  have hname {name : String} {n : List Char} (hn : Json.writtenString name.toList = n) :
      Json.SpelledName name n := hn ▸ Json.spelledName_written name
  have hchoicesName : Json.SpelledName "choices" "\"choices\"".toList := hname (by decide)
  have hdeltaName : Json.SpelledName "delta" "\"delta\"".toList := hname (by decide)
  have hcontentName : Json.SpelledName "content" "\"content\"".toList := hname (by decide)
  have hdelta : Json.PaddedWithin 0 (.string delta) _ := (Json.Spelled.string hcontent).padded
  have hobject := (Json.Spelled.object (.last hcontentName hdelta)).padded
  have hchoice := (Json.Spelled.object (.last hdeltaName hobject)).padded
  have hchoices := (Json.Spelled.array (.last hchoice)).padded
  have hchunk := (Json.Spelled.object (.last hchoicesName hchoices)).padded
  refine ⟨0, ?_⟩
  unfold deltaJson compactText
  simpa using hchunk

/-- Only an object with members has deltas. -/
theorem exists_members_of_decode {text : String} {chunk : Chunk}
    (hdecode : decode text = .ok chunk) (hdeltas : chunk.deltas ≠ []) :
    ∃ members, members ≠ [] ∧ Json.read text = some (.object members) := by
  rw [decode] at hdecode
  cases hread : Json.read text with
  | none => exact absurd hdecode (by simp [hread, Checked.fail])
  | some value =>
      rw [hread] at hdecode
      dsimp only at hdecode
      cases value with
      | object members =>
          refine ⟨members, ?_, rfl⟩
          rintro rfl
          have hchunk : ofMembers [] = .ok chunk := hdecode
          rw [ofMembers_nil, Except.ok.injEq] at hchunk
          exact hdeltas (by rw [← hchunk]; rfl)
      | null | bool _ | integer _ | float _ | string _ | array _ =>
          exact absurd hdecode (by simp [Checked.object, Checked.members, Checked.fail])

end Chunk

/-! ## Deltas of single lines -/

namespace StreamLine

/-- The deltas that a line carries. -/
def deltas (line : List Char) : List String :=
  ((decode (String.ofList line)).chunk?.map Chunk.deltas).getD []

theorem decode_mark (t : List Char) :
    decode (String.ofList (dataMark.toList ++ t)) =
      if String.ofList t = doneMark then done
      else (Chunk.decode (String.ofList t)).toOption.elim nothing chunk := by
  have hdata : isData (String.ofList (dataMark.toList ++ t)) = true := by
    rw [isData_iff, String.toList_ofList]
    exact List.prefix_append _ _
  have hrest : Text.dropText (String.ofList (dataMark.toList ++ t)) dataMark.length =
      String.ofList t := by
    rw [Text.dropText, String.toList_ofList, ← String.length_toList, List.drop_left]
  rw [decode, if_pos hdata, hrest]
  refine if_congr Iff.rfl rfl ?_
  cases Chunk.decode (String.ofList t) <;> rfl

theorem decode_of_padded {delta : String} {t : List Char}
    (ht : Json.Padded (Chunk.deltaJson delta) t) :
    decode (String.ofList (dataMark.toList ++ t)) = chunk (Chunk.ofDelta delta) := by
  have hdecode := Chunk.decode_padded ht
  have hopen : String.ofList t ≠ doneMark := by
    intro hdone
    have hmark : Json.read doneMark = none := by decide +kernel
    rw [hdone, Chunk.decode, hmark] at hdecode
    exact absurd hdecode (by simp [Checked.fail])
  rw [decode_mark, if_neg hopen, hdecode]
  rfl

/-- A line with deltas is the data mark and an object with members. -/
theorem exists_members_of_deltas {line : List Char} (hline : deltas line ≠ []) :
    ∃ t members, line = dataMark.toList ++ t ∧ members ≠ [] ∧
      Json.read (String.ofList t) = some (.object members) := by
  by_cases hdata : isData (String.ofList line) = true
  · obtain ⟨t, ht⟩ := (isData_iff _).mp hdata
    rw [String.toList_ofList] at ht
    subst ht
    rw [deltas, decode_mark] at hline
    split at hline
    · exact absurd rfl hline
    · cases hdecode : Chunk.decode (String.ofList t) with
      | error problems => exact absurd (by rw [hdecode]; rfl) hline
      | ok c =>
          rw [hdecode] at hline
          obtain ⟨members, hne, hread⟩ := Chunk.exists_members_of_decode hdecode hline
          exact ⟨t, members, rfl, hne, hread⟩
  · rw [deltas, decode_of_not_isData (Bool.eq_false_iff.mpr hdata)] at hline
    exact absurd rfl hline

theorem deltas_of_unreadable {t : List Char} (ht : Json.Unreadable t) :
    deltas (dataMark.toList ++ t) = [] := by
  by_contra hdeltas
  obtain ⟨t', members, heq, -, hread⟩ := exists_members_of_deltas hdeltas
  rw [← List.append_cancel_left heq, ht.read_eq_none] at hread
  exact absurd hread (by simp)

/-- No part of a string carries a delta, not even with what closes the containers around
the string. -/
theorem deltas_of_infix {s text back line : List Char} (htext : Json.SpelledText s text)
    (hback : '"' ∉ back) (hline : line <:+: text ++ '"' :: back) : deltas line = [] := by
  by_contra hdeltas
  obtain ⟨t, members, rfl, hne, hread⟩ := exists_members_of_deltas hdeltas
  obtain ⟨x, c, y, ht, hc, hmem⟩ := Json.exists_quotes_of_read hne hread
  obtain ⟨before, after, hwhole⟩ := hline
  rw [String.toList_ofList] at ht
  have heq : text ++ '"' :: back =
      (before ++ dataMark.toList ++ x) ++ c :: '"' :: (y ++ after) := by
    rw [← hwhole, ht]
    simp
  exact Json.notMem_of_guards htext.guards.1 hback hc heq (List.mem_append_left after hmem)

end StreamLine

/-! ## Texts of deltas -/

/-- A text of a chunk with one delta, on one line. -/
structure DeltaText (delta : String) (t : List Char) : Prop where
  nonEmpty : delta ≠ ""
  padded : Json.Padded (Chunk.deltaJson delta) t
  noReturn : '\r' ∉ t
  noFeed : '\n' ∉ t

/-- The line separators that may stand in a string. -/
def rawSeparators : List Char :=
  ['\u0085', '\u2028', '\u2029']

/-- The line separators that are control characters. -/
def lineControls : List Char :=
  ['\n', '\r', '\x0b', '\x0c', '\x1c', '\x1d', '\x1e']

/-- Whether a text holds no line separator. -/
def isUnbroken (t : List Char) : Bool :=
  t.all fun c => !Wire.isLineBreak c

theorem isUnbroken_iff {t : List Char} :
    isUnbroken t = true ↔ ∀ c ∈ t, Wire.isLineBreak c = false := by
  simp [isUnbroken]

theorem isUnbroken_dataMark : isUnbroken StreamLine.dataMark.toList = true := by
  decide

theorem mem_of_isLineBreak {c : Char} (hc : Wire.isLineBreak c = true) :
    c ∈ lineControls ++ rawSeparators := by
  simp only [Wire.isLineBreak, Bool.or_eq_true, beq_iff_eq] at hc
  simp only [lineControls, rawSeparators, List.mem_append, List.mem_cons, List.not_mem_nil, or_false]
  tauto

theorem isLineBreak_of_visible {c : Char} (hc : Json.Visible c) :
    Wire.isLineBreak c = false := by
  by_contra hbreak
  have hmem := mem_of_isLineBreak (Bool.eq_true_of_not_eq_false hbreak)
  have hnone : ∀ x ∈ lineControls ++ rawSeparators, ¬Json.Visible x :=
    List.all_iff_forall_prop.mp (by decide)
  exact hnone c hmem hc

namespace DeltaText

variable {delta : String} {t : List Char}

theorem isLineBreak_of_ordinary (ht : DeltaText delta t) {c : Char} (hc : c ∈ t)
    (hordinary : Json.Ordinary c) : Wire.isLineBreak c = false := by
  obtain hcontrol | hvisible := hordinary
  · simp only [List.mem_cons, List.not_mem_nil, or_false] at hcontrol
    rcases hcontrol with rfl | rfl | rfl
    · rfl
    · exact absurd hc ht.noFeed
    · exact absurd hc ht.noReturn
  · exact isLineBreak_of_visible hvisible

theorem isUnbroken_iff_notMem (ht : DeltaText delta t) :
    isUnbroken t = true ↔ ∀ c ∈ rawSeparators, c ∉ t := by
  rw [isUnbroken_iff]
  constructor
  · intro hunbroken c hc hmem
    have hbreak : ∀ x ∈ rawSeparators, Wire.isLineBreak x = true := List.all_eq_true.mp rfl
    exact absurd (hbreak c hc) (by simp [hunbroken c hmem])
  · intro hnone c hc
    by_contra hbreak
    obtain hmem | hraw := List.mem_append.mp
      (mem_of_isLineBreak (Bool.eq_true_of_not_eq_false hbreak))
    · have hcontrol : ∀ x ∈ lineControls,
          (x ∈ ['\t', '\n', '\r'] ∨ 0x20 ≤ x.toNat) → x = '\n' ∨ x = '\r' :=
        List.all_iff_forall_prop.mp (by decide)
      have hends := hcontrol c hmem ((Chunk.carries_deltaJson ht.padded).not_control c hc)
      exact hends.elim (fun h => ht.noFeed (h ▸ hc)) (fun h => ht.noReturn (h ▸ hc))
    · exact hnone c hraw hc

/-- Separators stand in the string only. -/
theorem exists_parts (ht : DeltaText delta t) :
    ∃ front text back, t = front ++ '"' :: (text ++ '"' :: back) ∧
      Json.Encloses front back ∧ Json.SpelledText delta.toList text ∧
      (∀ x ∈ front, Wire.isLineBreak x = false) ∧
      ∀ x ∈ '"' :: back, Wire.isLineBreak x = false := by
  have hcarries := Chunk.carries_deltaJson ht.padded
  cases hcarries with
  | @intro front text back henclosed htext =>
      have hordinary := List.forall_mem_append.mp henclosed.ordinary
      refine ⟨front, text, back, rfl, henclosed, htext, fun x hx => ?_,
        List.forall_mem_cons.mpr ⟨by decide, fun x hx => ?_⟩⟩
      · exact ht.isLineBreak_of_ordinary (List.mem_append_left _ hx) (hordinary.1 x hx)
      · exact ht.isLineBreak_of_ordinary (by simp [hx]) (hordinary.2 x hx)

theorem exists_isLineBreak {front text back : List Char}
    (hfront : ∀ x ∈ front, Wire.isLineBreak x = false)
    (hback : ∀ x ∈ '"' :: back, Wire.isLineBreak x = false)
    (hbroken : isUnbroken (front ++ '"' :: (text ++ '"' :: back)) = false) :
    ∃ c ∈ text, Wire.isLineBreak c = true := by
  by_contra hnone
  have htext : ∀ x ∈ text, Wire.isLineBreak x = false := fun x hx =>
    Bool.eq_false_iff.mpr fun hbreak => hnone ⟨x, hx, hbreak⟩
  have hall : isUnbroken (front ++ '"' :: (text ++ '"' :: back)) = true :=
    isUnbroken_iff.mpr (List.forall_mem_append.mpr ⟨hfront, List.forall_mem_cons.mpr
      ⟨hback '"' List.mem_cons_self, List.forall_mem_append.mpr ⟨htext, hback⟩⟩⟩)
  rw [hbroken] at hall
  exact absurd hall (by decide)

theorem exists_getLast? (ht : DeltaText delta t) :
    ∃ c, (StreamLine.dataMark.toList ++ t).getLast? = some c ∧ Wire.isLineBreak c = false := by
  obtain ⟨front, text, back, rfl, -, -, -, hback⟩ := ht.exists_parts
  obtain ⟨init, c, hlast⟩ := (List.eq_nil_or_concat' ('"' :: back)).resolve_left (by simp)
  have hwhole : StreamLine.dataMark.toList ++ (front ++ '"' :: (text ++ (init ++ [c]))) =
      (StreamLine.dataMark.toList ++ (front ++ '"' :: (text ++ init))) ++ [c] := by
    simp
  refine ⟨c, ?_, hback c (hlast ▸ List.mem_append_right init List.mem_cons_self)⟩
  rw [hlast, hwhole, List.getLast?_concat]

theorem linesOf_of_unbroken (hunbroken : isUnbroken t = true) :
    Wire.linesOf (StreamLine.dataMark.toList ++ t) = [StreamLine.dataMark.toList ++ t] := by
  have hmark := isUnbroken_iff.mp isUnbroken_dataMark
  rw [Wire.linesOf_of_not_break
    (List.forall_mem_append.mpr ⟨hmark, isUnbroken_iff.mp hunbroken⟩), if_neg]
  simp [StreamLine.dataMark]

theorem deltas_of_broken (ht : DeltaText delta t) (hbroken : isUnbroken t = false) :
    (Wire.linesOf (StreamLine.dataMark.toList ++ t)).flatMap StreamLine.deltas = [] := by
  obtain ⟨front, text, back, rfl, henclosed, htext, hfront, hback⟩ := ht.exists_parts
  obtain ⟨s₀, t₀, c, s₁, t₁, rfl, ht₀, hc, hs₀, hs₁⟩ :=
    htext.exists_split (fun _ => isLineBreak_of_visible)
      (exists_isLineBreak hfront hback hbroken)
  have hreturn : c ≠ '\r' := by
    rintro rfl
    exact ht.noReturn (by simp)
  have hmark := isUnbroken_iff.mp isUnbroken_dataMark
  have hfirst : ∀ x ∈ StreamLine.dataMark.toList ++ (front ++ '"' :: t₀),
      Wire.isLineBreak x = false :=
    List.forall_mem_append.mpr ⟨hmark, List.forall_mem_append.mpr ⟨hfront,
      List.forall_mem_cons.mpr ⟨hback '"' List.mem_cons_self, ht₀⟩⟩⟩
  -- The first line stops inside the string, the others are parts of what is left of it.
  have hsplit : StreamLine.dataMark.toList ++
        (front ++ '"' :: ((t₀ ++ c :: t₁) ++ '"' :: back)) =
      (StreamLine.dataMark.toList ++ (front ++ '"' :: t₀)) ++ c :: (t₁ ++ '"' :: back) := by
    simp
  rw [hsplit, Wire.linesOf_append_of_not_break hfirst
    (Wire.linesOf_cons_of_break hc hreturn (t₁ ++ '"' :: back)), List.append_nil,
    List.flatMap_cons, StreamLine.deltas_of_unreadable (henclosed.unreadable hs₀),
    List.nil_append, List.flatMap_eq_nil_iff]
  intro line hline
  exact StreamLine.deltas_of_infix hs₁ henclosed.notMem (Wire.infix_of_mem_linesOf hline)

/-- However a string is written, its text has a place in a text of a delta. -/
theorem compact (hdelta : delta ≠ "") {content : List Char}
    (hcontent : Json.SpelledText delta.toList content) :
    DeltaText delta (Chunk.compactText content) := by
  have habsent {c : Char} (hcontrol : c.toNat < 0x20) (hc : c ∉ Chunk.compactText []) :
      c ∉ Chunk.compactText content := by
    unfold Chunk.compactText at hc ⊢
    simp only [List.mem_append, not_or, List.nil_append] at hc ⊢
    exact ⟨hc.1, fun hmem => absurd (hcontent.not_control c hmem) (Nat.not_le.mpr hcontrol),
      hc.2⟩
  exact ⟨hdelta, Chunk.padded_compactText hcontent, habsent (by decide) (by decide),
    habsent (by decide) (by decide)⟩

/-- A text brings its delta if no separator breaks it. -/
theorem deltas_linesOf (ht : DeltaText delta t) :
    (Wire.linesOf (StreamLine.dataMark.toList ++ t)).flatMap StreamLine.deltas =
      if isUnbroken t then [delta] else [] := by
  by_cases hunbroken : isUnbroken t = true
  · rw [if_pos hunbroken, linesOf_of_unbroken hunbroken, List.flatMap_singleton,
      StreamLine.deltas, StreamLine.decode_of_padded ht.padded]
    exact Chunk.deltas_ofDelta ht.nonEmpty
  · rw [if_neg hunbroken]
    exact ht.deltas_of_broken (Bool.eq_false_iff.mpr hunbroken)

end DeltaText

/-! ## Whole streams -/

/-- The text of an event stream: each text on a line with the data mark, followed by an
empty line, and the closing line. -/
def eventStream (eol : List Char) (texts : List (List Char)) : List Char :=
  texts.flatMap (fun t => StreamLine.dataMark.toList ++ (t ++ (eol ++ eol))) ++
    StreamLine.closing.toList

theorem eventStream_cons (eol t : List Char) (texts : List (List Char)) :
    eventStream eol (t :: texts) =
      (StreamLine.dataMark.toList ++ t) ++ (eol ++ (eol ++ eventStream eol texts)) := by
  simp [eventStream]

theorem head?_eventStream (eol : List Char) (texts : List (List Char)) :
    (eventStream eol texts).head? = some 'd' := by
  cases texts with
  | nil => rfl
  | cons t texts =>
      rw [eventStream_cons]
      rfl

theorem linesOf_eventStream {eol : List Char} (heol : eol ∈ Wire.lineEnds)
    {parts : List (String × List Char)} (hparts : ∀ part ∈ parts, DeltaText part.1 part.2) :
    Wire.linesOf (eventStream eol (parts.map Prod.snd)) =
      parts.flatMap (fun part =>
        Wire.linesOf (StreamLine.dataMark.toList ++ part.2) ++ [[]]) ++
          [StreamLine.closing.toList] := by
  induction parts with
  | nil => rfl
  | cons part others ih =>
      rw [List.forall_mem_cons] at hparts
      have hnext : (eventStream eol (others.map Prod.snd)).head? ≠ some '\n' := by
        rw [head?_eventStream]
        decide
      have hempty : eol = ['\r'] →
          (eol ++ eventStream eol (others.map Prod.snd)).head? ≠ some '\n' := by
        rintro rfl
        simp
      rw [List.map_cons, eventStream_cons,
        Wire.linesOf_append_lineEnd heol hempty hparts.1.exists_getLast?,
        Wire.linesOf_lineEnd heol fun _ => hnext, ih hparts.2, List.flatMap_cons]
      simp

/-- The deltas that all lines of a stream carry are those of its unbroken texts. -/
theorem deltas_eventStream {eol : List Char} (heol : eol ∈ Wire.lineEnds)
    {parts : List (String × List Char)} (hparts : ∀ part ∈ parts, DeltaText part.1 part.2) :
    (Wire.linesOf (eventStream eol (parts.map Prod.snd))).flatMap StreamLine.deltas =
      (parts.filter fun part => isUnbroken part.2).map Prod.fst := by
  have hclosing : StreamLine.deltas StreamLine.closing.toList = [] := by decide +kernel
  have hempty : StreamLine.deltas [] = [] := by decide +kernel
  rw [linesOf_eventStream heol hparts, List.flatMap_append, List.flatMap_singleton, hclosing,
    List.append_nil]
  clear heol
  induction parts with
  | nil => rfl
  | cons part others ih =>
      rw [List.forall_mem_cons] at hparts
      rw [List.flatMap_cons, List.flatMap_append, List.flatMap_append, hparts.1.deltas_linesOf,
        List.flatMap_singleton, hempty, List.append_nil, ih hparts.2, List.filter_cons]
      split <;> rfl

theorem chunksOf_eventStream {eol : List Char} (heol : eol ∈ Wire.lineEnds)
    {parts : List (String × List Char)} (hparts : ∀ part ∈ parts, DeltaText part.1 part.2)
    (hunbroken : ∀ part ∈ parts, isUnbroken part.2 = true) :
    Transcript.chunksOf (Transcript.replyLines
        ((Wire.linesOf (eventStream eol (parts.map Prod.snd))).map String.ofList)) =
      (parts.map Prod.fst).map Chunk.ofDelta := by
  rw [linesOf_eventStream heol hparts]
  clear heol
  induction parts with
  | nil => decide +kernel
  | cons part others ih =>
      rw [List.forall_mem_cons] at hparts hunbroken
      have hdecode := StreamLine.decode_of_padded hparts.1.padded
      have hopen : String.ofList (StreamLine.dataMark.toList ++ part.2) ≠ StreamLine.closing := by
        intro hclosed
        rw [(StreamLine.decode_eq_done_iff _).mpr hclosed] at hdecode
        exact absurd hdecode (by simp)
      have hempty : String.ofList [] ≠ StreamLine.closing := by decide
      have hnothing : (StreamLine.decode (String.ofList [])).chunk? = none := by decide +kernel
      have hchunk (rest : List String) :
          Transcript.chunksOf
              (String.ofList (StreamLine.dataMark.toList ++ part.2) :: rest) =
            Chunk.ofDelta part.1 :: Transcript.chunksOf rest :=
        List.filterMap_cons_some (by rw [hdecode]; rfl)
      have hskip (rest : List String) :
          Transcript.chunksOf (String.ofList [] :: rest) = Transcript.chunksOf rest :=
        List.filterMap_cons_none hnothing
      rw [List.flatMap_cons, DeltaText.linesOf_of_unbroken hunbroken.1, List.append_assoc,
        List.append_assoc, List.singleton_append, List.singleton_append, List.map_cons,
        List.map_cons, Transcript.replyLines_cons_of_ne hopen,
        Transcript.replyLines_cons_of_ne hempty, hchunk, hskip, ih hparts.2 hunbroken.2]
      rfl

theorem flatMap_deltas_ofDelta {parts : List (String × List Char)}
    (hparts : ∀ part ∈ parts, DeltaText part.1 part.2) :
    ((parts.map Prod.fst).map Chunk.ofDelta).flatMap Chunk.deltas = parts.map Prod.fst := by
  induction parts with
  | nil => rfl
  | cons part others ih =>
      rw [List.forall_mem_cons] at hparts
      rw [List.map_cons, List.map_cons, List.flatMap_cons,
        Chunk.deltas_ofDelta hparts.1.nonEmpty, ih hparts.2]
      rfl

theorem reasonsOf_ofDelta (deltas : List String) :
    Transcript.reasonsOf (deltas.map Chunk.ofDelta) = [] := by
  simp [Transcript.reasonsOf, Chunk.ofDelta, nonEmpty?]

namespace StreamRun

open Transcript

/-- The deltas of the lines that count are among those of all lines. -/
theorem sublist_deltas_replyLines (lines : List (List Char)) :
    ((chunksOf (replyLines (lines.map String.ofList))).flatMap Chunk.deltas).Sublist
      (lines.flatMap StreamLine.deltas) := by
  have hall : (chunksOf (lines.map String.ofList)).flatMap Chunk.deltas =
      lines.flatMap StreamLine.deltas := by
    induction lines with
    | nil => rfl
    | cons line rest ih =>
        rw [List.map_cons, List.flatMap_cons, ← ih, StreamLine.deltas]
        cases hchunk : (StreamLine.decode (String.ofList line)).chunk? <;>
          simp [chunksOf, hchunk]
  obtain ⟨later, hlater⟩ : replyLines (lines.map String.ofList) <+: lines.map String.ofList :=
    List.takeWhile_prefix _
  have hsplit : chunksOf (lines.map String.ofList) =
      chunksOf (replyLines (lines.map String.ofList)) ++ chunksOf later := by
    rw [← chunksOf_append, hlater]
  rw [← hall, hsplit, List.flatMap_append]
  exact List.sublist_append_left _ _

section EventStream

variable [Wire.Platform]
variable {config : Config} {messages : List Message} {request : SentRequest}
variable {status : Int} {contentType : Option String} {pieces : List (List Wire.Byte)}
variable {eol : List Char} {parts : List (String × List Char)}

theorem read_encode {s : List Char} (hset : Wire.Codec.ofContentType contentType = .utf8)
    (hbody : pieces.flatten = Wire.Utf8.encode s) :
    (Wire.Codec.ofContentType contentType).read pieces = .ok s := by
  rw [hset, Wire.Codec.read_utf8, hbody, Wire.Utf8.decode_encode, String.toList_ofList]

/-- The deltas of an event stream arrive, each of them once and in their order, exactly if
none of the three line separators that JSON allows in a string stands in a text.  The
result then is what the deltas form. -/
theorem run_eventStream (hstatus : isSuccess status = true)
    (hsent : (run config messages (.complete status contentType pieces)).request =
      some request)
    (hset : Wire.Codec.ofContentType contentType = .utf8) (heol : eol ∈ Wire.lineEnds)
    (hparts : ∀ part ∈ parts, DeltaText part.1 part.2)
    (hbody : pieces.flatten = Wire.Utf8.encode (eventStream eol (parts.map Prod.snd))) :
    let shown := run config messages (.complete status contentType pieces)
    (shown.deltas = parts.map Prod.fst ↔
      ∀ part ∈ parts, ∀ c ∈ rawSeparators, c ∉ part.2) ∧
    ((∀ part ∈ parts, ∀ c ∈ rawSeparators, c ∉ part.2) →
      shown.outcome = .ok ⟨String.join (parts.map Prod.fst), none, parts.length⟩) := by
  intro shown
  have hunbroken : (∀ part ∈ parts, ∀ c ∈ rawSeparators, c ∉ part.2) ↔
      ∀ part ∈ parts, isUnbroken part.2 = true :=
    forall₂_congr fun part hpart => (hparts part hpart).isUnbroken_iff_notMem.symm
  let text := eventStream eol (parts.map Prod.snd)
  have hread := read_encode hset hbody
  have hdeltas : shown.deltas = (chunksOf (countedLines text)).flatMap Chunk.deltas :=
    deltas_complete hstatus hsent hread
  have hlines : countedLines text = replyLines ((Wire.linesOf text).map String.ofList) := rfl
  have hchunks (hall : ∀ part ∈ parts, isUnbroken part.2 = true) :
      chunksOf (countedLines text) = (parts.map Prod.fst).map Chunk.ofDelta := by
    rw [hlines, chunksOf_eventStream heol hparts hall]
  have hjoined := flatMap_deltas_ofDelta hparts
  rw [hunbroken]
  refine ⟨⟨fun hshown => ?_, fun hall => ?_⟩, fun hall => ?_⟩
  · have hsublist := sublist_deltas_replyLines (Wire.linesOf text)
    -- As many deltas as texts arrive only if no text is left out.
    rw [deltas_eventStream heol hparts, ← hlines, ← hdeltas, hshown] at hsublist
    have hlength := hsublist.length_le
    rw [List.length_map, List.length_map] at hlength
    exact List.length_filter_eq_length_iff.mp
      (Nat.le_antisymm (List.length_filter_le _ _) hlength)
  · rw [hdeltas, hchunks hall, hjoined]
  · have houtcome := outcome_complete hstatus hsent hread
    rw [hchunks hall, hjoined, reasonsOf_ofDelta, List.length_map, List.length_map] at houtcome
    exact houtcome

end EventStream

section Installed

attribute [local instance] Wire.Platform.installed

/-- A separator that is written as its code, and a line feed. -/
def escapedParts : List (String × List Char) :=
  [("a\u2028", Chunk.compactText "a\\u2028".toList), ("\n", Chunk.compactText "\\n".toList)]

theorem deltaText_escapedParts : ∀ part ∈ escapedParts, DeltaText part.1 part.2 := by
  have hcode : Json.HexCode '\u2028'.toNat "2028".toList :=
    .intro (a := 2) (b := 0) (c := 2) (d := 8) (Or.inl rfl) (Or.inl rfl) (Or.inl rfl)
      (Or.inl rfl)
  have hfirst : Json.SpelledText "a\u2028".toList "a\\u2028".toList :=
    .cons (.itself (by decide) (by decide) (by decide)) (.cons (.code hcode) .nil)
  have hsecond : Json.SpelledText "\n".toList "\\n".toList :=
    .cons (.letter (by decide)) .nil
  simp only [escapedParts, List.forall_mem_cons]
  exact ⟨.compact (by decide) hfirst, .compact (by decide) hsecond,
    fun _ hpart => absurd hpart List.not_mem_nil⟩

theorem run_eventStream_escapedParts :
    let pieces := [Wire.Utf8.encode (eventStream ['\r', '\n'] (escapedParts.map Prod.snd))]
    let shown := run (.defaults "k") [⟨.user, "hi"⟩] (.complete 200 none pieces)
    isSuccess 200 = true ∧ shown.request.isSome ∧
    Wire.Codec.ofContentType none = .utf8 ∧ ['\r', '\n'] ∈ Wire.lineEnds ∧
    (∀ part ∈ escapedParts, DeltaText part.1 part.2) ∧
    (∀ part ∈ escapedParts, ∀ c ∈ rawSeparators, c ∉ part.2) ∧
    shown.deltas = ["a\u2028", "\n"] ∧ shown.outcome = .ok ⟨"a\u2028\n", none, 2⟩ := by
  intro pieces shown
  have hsome : shown.request.isSome := by
    rw [request_run]
    decide +kernel
  obtain ⟨request, hsent⟩ := Option.isSome_iff_exists.mp hsome
  have hunbroken : ∀ part ∈ escapedParts, isUnbroken part.2 = true := by decide
  have hraw : ∀ part ∈ escapedParts, ∀ c ∈ rawSeparators, c ∉ part.2 := fun part hpart =>
    (deltaText_escapedParts part hpart).isUnbroken_iff_notMem.mp (hunbroken part hpart)
  obtain ⟨hdeltas, houtcome⟩ := run_eventStream (by decide) hsent rfl (by decide)
    deltaText_escapedParts List.flatten_singleton
  exact ⟨by decide, hsome, rfl, by decide, deltaText_escapedParts, hraw, hdeltas.mpr hraw,
    houtcome hraw⟩

/-- A text in which a separator stands for itself is cut, and its delta is lost. -/
theorem deltas_lineSeparator :
    let text := Chunk.compactText "a\u2028b".toList
    let shown := run (.defaults "k") [⟨.user, "hi"⟩]
      (.complete 200 none [Wire.Utf8.encode (eventStream ['\n'] [text])])
    DeltaText "a\u2028b" text ∧ shown.request.isSome ∧ shown.deltas ≠ ["a\u2028b"] ∧
      shown.deltas = [] ∧ shown.outcome = .ok ⟨"", none, 0⟩ := by
  intro text shown
  have htext : Json.SpelledText "a\u2028b".toList "a\u2028b".toList :=
    .cons (.itself (by decide) (by decide) (by decide))
      (.cons (.itself (by decide) (by decide) (by decide))
        (.cons (.itself (by decide) (by decide) (by decide)) .nil))
  have hsome : shown.request.isSome := by
    rw [request_run]
    decide +kernel
  obtain ⟨request, hsent⟩ := Option.isSome_iff_exists.mp hsome
  have hstatus : isSuccess 200 = true := by decide
  have hread : (Wire.Codec.ofContentType none).read
      [Wire.Utf8.encode (eventStream ['\n'] [text])] = .ok (eventStream ['\n'] [text]) :=
    read_encode rfl List.flatten_singleton
  have hchunks : chunksOf (countedLines (eventStream ['\n'] [text])) = [] := by decide +kernel
  have hlost : shown.deltas = [] := by
    rw [deltas_complete hstatus hsent hread, hchunks, List.flatMap_nil]
  refine ⟨.compact (by decide) htext, hsome, by simp [hlost], hlost, ?_⟩
  rw [outcome_complete hstatus hsent hread, hchunks]
  rfl

end Installed

end StreamRun

end Parley
