import Mathlib.Data.List.Nodup
import Parley.Proofs.Terminal.Shown
import Parley.Proofs.View.BannerLayout

/-!
# The values in the banner

The values of the banner are read as markup.  On a console that is wide enough the banner shows
each of them behind its label exactly if they all read as themselves; otherwise one of them
comes out with fewer brackets, backslashes and colons, or there is no banner at all.
-/

namespace Parley.Terminal.Markup

open Text (isBlank joiner)

/-! ## Values of one line -/

/-- What is shown of a part of a value: it has no blank and no control that is dropped, and it
does not end in a joiner. -/
structure IsValuePart (s : List Char) : Prop where
  solid : Text.IsSolid s
  kept : ∀ c ∈ s, Styled.isDropped c = false
  closed : Text.IsClosed s

theorem IsValuePart.append {s t : List Char} (hs : IsValuePart s) (ht : IsValuePart t) :
    IsValuePart (s ++ t) where
  solid := List.forall_mem_append.mpr ⟨hs.solid, ht.solid⟩
  kept := List.forall_mem_append.mpr ⟨hs.kept, ht.kept⟩
  closed := hs.closed.append ht.closed

theorem IsPicture.isValuePart {s : List Char} (h : IsPicture s) : IsValuePart s := by
  have hall (c : Char) (hc : c ∈ s) : Text.isBlank c = false ∧ Styled.isDropped c = false := by
    have hpictorial := h.pictorial c hc
    simp only [isPictorial, Bool.and_eq_true, Bool.not_eq_true'] at hpictorial
    exact ⟨hpictorial.1.2, hpictorial.2⟩
  exact ⟨fun c hc => (hall c hc).1, fun c hc => (hall c hc).2, h.closed⟩

theorem isValuePart_nil : IsValuePart [] where
  solid := fun _ hmem => absurd hmem List.not_mem_nil
  kept := fun _ hmem => absurd hmem List.not_mem_nil
  closed := fun hlast => nomatch hlast

theorem IsOneCell.isValuePart {s : List Char} (h : IsOneCell s) : IsValuePart s where
  solid := h.isSolid
  kept := fun c hc => by simpa using List.filter_eq_self.mp h.kept c hc
  closed := Text.isClosed_of_notMem h.notMem_joiner

theorem IsValuePart.ofChars {s : List Char} (h : IsValuePart s) (style : Style) :
    Styled.ofChars s style = [Line.ofChars s style] := by
  have hkept : Styled.kept s = s := List.filter_eq_self.mpr fun c hc => by simp [h.kept c hc]
  have hfeed : '\n' ∉ s := fun hmem => absurd (h.solid '\n' hmem) (by decide)
  rw [Styled.ofChars, hkept, Text.lines_of_notMem hfeed, List.map_singleton]

/-- What is shown of the parts of a value is like a value. -/
theorem isValuePart_shown {s : List Char} (h : IsOneCell s) :
    ∀ part ∈ pieces s, IsValuePart part.shown := by
  have hmarks : ∀ c ∈ ['[', ']', '\\'], Text.charCells c = 1 ∧ isBlank c = false := by
    rw [List.forall_mem_cons, List.forall_mem_cons, List.forall_mem_singleton]
    decide
  intro part hpart
  refine Piece.shown_induction isValuePart_nil IsValuePart.append IsPicture.isValuePart
    fun c hc => IsOneCell.isValuePart (List.forall_mem_singleton.mpr ?_)
  exact forall_mem_pieces hmarks h part hpart c hc

/-- The texts of such parts are lines of which no run ends in a joiner. -/
theorem exists_lines_of_style {opened : List OpenStyle} {parts : List Piece}
    (hparts : ∀ part ∈ parts, IsValuePart part.shown) {texts : List Styled}
    (hstyle : style opened parts = .ok texts) :
    ∀ text ∈ texts, ∃ line, text = [line] ∧ line.IsWhole := by
  induction parts generalizing opened texts with
  | nil =>
      obtain rfl := Except.ok.inj hstyle
      exact fun _ hmem => absurd hmem List.not_mem_nil
  | cons part rest ih =>
      obtain ⟨hpart, hrest⟩ := List.forall_mem_cons.mp hparts
      cases part with
      | text s =>
          rw [style_text] at hstyle
          cases hothers : style opened rest with
          | error error =>
              rw [hothers] at hstyle
              cases hstyle
          | ok others =>
              rw [hothers] at hstyle
              obtain rfl := Except.ok.inj hstyle
              refine List.forall_mem_cons.mpr ⟨⟨_, hpart.ofChars _, ?_⟩, ih hrest hothers⟩
              refine ⟨?_, Line.isClosed_ofChars hpart.closed _⟩
              rw [Line.chars_ofChars]
              exact hpart.solid
      | tag position body =>
          obtain ⟨others, hothers⟩ | ⟨error, herror⟩ := style_tag opened position body rest
          · exact ih hrest (hothers.symm.trans hstyle)
          · exact absurd (herror.symm.trans hstyle) (by simp)

theorem exists_line_of_join {texts : List Styled}
    (htexts : ∀ text ∈ texts, ∃ line, text = [line] ∧ line.IsWhole) :
    ∃ line, Styled.join texts = [line] ∧ line.IsWhole := by
  induction texts with
  | nil =>
      refine ⟨[], rfl, fun _ hmem => absurd hmem List.not_mem_nil, ?_⟩
      exact fun _ hmem => absurd hmem List.not_mem_nil
  | cons text rest ih =>
      obtain ⟨⟨first, rfl, hfirst⟩, hrest⟩ := List.forall_mem_cons.mp htexts
      obtain ⟨second, hjoin, hsecond⟩ := ih hrest
      refine ⟨first ++ second, by rw [Styled.join, hjoin]; rfl, ?_, ?_⟩
      · rw [Line.chars_append]
        exact List.forall_mem_append.mpr ⟨hfirst.solid, hsecond.solid⟩
      · exact hfirst.closed.append hsecond.closed

variable {s : String} (h : IsOneCell s.toList)
include h

/-- A text without blanks is read as one line. -/
theorem exists_line_of_read {text : Styled} (hread : read s = .ok text) :
    ∃ line, text = [line] ∧ line.chars = shown s.toList ∧ line.IsWhole := by
  obtain ⟨texts, hstyle, rfl⟩ := exists_texts_of_read hread
  obtain ⟨line, hline, hwhole⟩ :=
    exists_line_of_join (exists_lines_of_style (isValuePart_shown h) hstyle)
  have hkept : Styled.kept (shown s.toList) = shown s.toList := by
    refine List.filter_eq_self.mpr fun c hc => ?_
    obtain ⟨part, hpart, hc⟩ := List.mem_flatMap.mp hc
    rw [(isValuePart_shown h part hpart).kept c hc]
    rfl
  refine ⟨line, hline, ?_, hwhole⟩
  rw [← hkept, ← chars_of_read hread, hline]
  exact List.intercalate_singleton.symm

theorem IsPlain.read_eq (hplain : IsPlain s.toList) :
    read s = .ok [Line.ofChars s.toList .none] := by
  have hpieces : pieces s.toList = flush s.toList.reverse := by
    rw [pieces, piecesAfter_of_untagged hplain.untagged, List.append_nil]
  rw [read, hpieces, flush, List.reverse_reverse]
  split
  case isTrue hempty =>
      rw [List.isEmpty_iff, List.reverse_eq_nil_iff] at hempty
      rw [hempty]
      rfl
  case isFalse =>
      have hstyle : style [] [.text s.toList] = .ok [[Line.ofChars s.toList .none]] := by
        rw [style_text, hplain.unescaped, hplain.unpictured, h.ofChars]
        rfl
      rw [hstyle]
      exact congrArg (fun line => Except.ok [line]) (List.append_nil _)

end Parley.Terminal.Markup

namespace Parley.View

open Terminal Terminal.Markup
open Text (words)

/-! ## Words behind a label -/

/-- Rows of words in which what stands behind the label is plain text or the value. -/
structure IsLabelled (label value : List Char) (row : List (List Char)) : Prop where
  behind : row.IsChain fun x y => x = label → IsPlain y ∨ y = value
  head : ∀ y ∈ row.head?, IsPlain y

section Labelled

variable {label value : List Char} {row other : List (List Char)}

theorem isLabelled_of_isPlain (h : ∀ word ∈ row, IsPlain word) : IsLabelled label value row where
  behind := by
    rw [List.isChain_iff_getElem]
    exact fun i hi _ => Or.inl (h _ (List.getElem_mem _))
  head := fun y hy => h y (List.mem_of_head? hy)

theorem IsLabelled.append (h : IsLabelled label value row)
    (hother : IsLabelled label value other) : IsLabelled label value (row ++ other) where
  behind := List.isChain_append.mpr
    ⟨h.behind, hother.behind, fun _ _ y hy _ => Or.inl (hother.head y hy)⟩
  head := by
    cases row with
    | nil => exact hother.head
    | cons word rest => exact h.head

theorem IsLabelled.isPlain_or_eq (h : IsLabelled label value row) {word : List Char}
    (hword : [label, word] <:+: row) : IsPlain word ∨ word = value := by
  have hpair := List.IsChain.infix h.behind hword
  exact List.isChain_pair.mp hpair rfl

end Labelled

section Rows

variable {version : String} {fields : List (String × Line)} {field : String × Line}

theorem isLabelled_fieldWords {other : String × Line} (h : IsField other)
    (hneutral : IsNeutral other.1.toList)
    (hsame : other.1.toList = field.1.toList → other.2.chars = field.2.chars) :
    IsLabelled field.1.toList field.2.chars (fieldWords other) where
  behind := by
    by_cases hempty : other.2.chars = []
    · rw [fieldWords, hempty]
      exact List.isChain_singleton _
    · rw [fieldWords, Text.words_of_isSolid h.value.solid hempty]
      exact List.isChain_pair.mpr fun heq => Or.inr (hsame heq)
  head := by
    intro y hy
    rw [← Option.some_inj.mp hy]
    exact hneutral.isPlain

theorem isLabelled_titleWords (hlabel : field.1.toList ≠ "Chat".toList) :
    IsLabelled field.1.toList field.2.chars (titleWords version) where
  behind := by
    refine List.isChain_cons_cons.mpr ⟨fun _ => Or.inl (IsNeutral.isPlain (by decide)), ?_⟩
    exact List.isChain_pair.mpr fun heq => absurd heq.symm hlabel
  head := by
    intro y hy
    rw [← Option.some_inj.mp hy]
    exact IsNeutral.isPlain (by decide)

theorem isPlain_of_mem_tipWords : ∀ row ∈ tipWords, ∀ word ∈ row, IsPlain word := by
  have hall : ∀ row ∈ tipWords, ∀ word ∈ row, IsNeutral word := by decide +kernel
  exact fun row hrow word hword => (hall row hrow word hword).isPlain

theorem isPlain_bar : ∀ ends ∈ barEnds, ∀ n, IsPlain (ends.1 ++ bar n ++ ends.2) := by
  intro ends hends n
  have hborders := mem_borders_of_mem_bar ends hends n
  refine (isNeutral_of_notMem ?_ ?_ ?_).isPlain
  · exact fun hmem => absurd (hborders _ hmem) (by decide)
  · exact fun hmem => absurd (hborders _ hmem) (by decide)
  · exact fun hmem => absurd (hborders _ hmem) (by decide)

/-- No other word behind a label than its value can be markup. -/
theorem isLabelled_bannerWords (version : String) (width : Nat)
    (h : ∀ other ∈ fields, IsField other) (hneutral : ∀ other ∈ fields, IsNeutral other.1.toList)
    (hsame : ∀ other ∈ fields, other.1.toList = field.1.toList → other.2.chars = field.2.chars)
    (hlabel : field.1.toList ≠ "Chat".toList) :
    IsLabelled field.1.toList field.2.chars (bannerWords version fields width).flatten := by
  apply bannerWords_induction
  · exact isLabelled_of_isPlain fun _ hmem => absurd hmem List.not_mem_nil
  · exact fun _ _ hrow hother => hrow.append hother
  · exact fun ends hends n =>
      isLabelled_of_isPlain (List.forall_mem_singleton.mpr (isPlain_bar ends hends n))
  · exact isLabelled_of_isPlain (List.forall_mem_singleton.mpr (IsNeutral.isPlain (by decide)))
  · exact isLabelled_titleWords hlabel
  · exact fun row hrow => isLabelled_of_isPlain (isPlain_of_mem_tipWords row hrow)
  · exact fun other hother =>
      isLabelled_fieldWords (h other hother) (hneutral other hother) (hsame other hother)

end Rows

/-! ## The printed banner -/

/-- The labels of the banner with the lines of their values. -/
def bannerFields (model server session : Line) : List (String × Line) :=
  [("Model", model), ("Server", server), ("Session", session)]

/-- A value of the banner and the line that it is read as. -/
structure IsReadAs (value : String) (line : Line) : Prop where
  read : Markup.read value = .ok [line]
  chars : line.chars = shown value.toList

theorem IsReadAs.isWhole {value : String} {line : Line} (h : IsReadAs value line)
    (hvalue : IsOneCell value.toList) : line.IsWhole := by
  obtain ⟨other, hother, -, hwhole⟩ := exists_line_of_read hvalue h.read
  rw [List.singleton_inj.mp hother]
  exact hwhole

theorem exists_isReadAs {value : String} (h : IsOneCell value.toList) {text : Styled}
    (hread : Markup.read value = .ok text) : ∃ line, IsReadAs value line := by
  obtain ⟨line, rfl, hchars, -⟩ := exists_line_of_read h hread
  exact ⟨line, hread, hchars⟩

theorem isReadAs_of_isPlain {value : String} (h : IsOneCell value.toList)
    (hplain : IsPlain value.toList) : IsReadAs value (Line.ofChars value.toList .none) where
  read := hplain.read_eq h
  chars := by rw [Line.chars_ofChars, hplain.shown]

/-- The labels are plain words that are not in the title. -/
theorem forall_mem_labels : ∀ label ∈ ["Model", "Server", "Session"],
    IsOneCell label.toList ∧ label.toList ≠ [] ∧ IsNeutral label.toList ∧
      label.toList ≠ "Chat".toList := by
  decide

section Shown

variable {modelLine serverLine sessionLine : Line}

theorem model_mem_bannerFields :
    ("Model", modelLine) ∈ bannerFields modelLine serverLine sessionLine :=
  List.mem_cons_self

theorem server_mem_bannerFields :
    ("Server", serverLine) ∈ bannerFields modelLine serverLine sessionLine :=
  List.mem_cons_of_mem _ List.mem_cons_self

theorem session_mem_bannerFields :
    ("Session", sessionLine) ∈ bannerFields modelLine serverLine sessionLine :=
  List.mem_cons_of_mem _ (List.mem_cons_of_mem _ List.mem_cons_self)

theorem label_mem_labels {field : String × Line}
    (hfield : field ∈ bannerFields modelLine serverLine sessionLine) :
    field.1 ∈ ["Model", "Server", "Session"] := by
  have hlabel : field.1 ∈ (bannerFields modelLine serverLine sessionLine).map Prod.fst :=
    List.mem_map_of_mem hfield
  exact hlabel

/-- The labels are different. -/
theorem line_eq_of_label_eq {field other : String × Line}
    (hfield : field ∈ bannerFields modelLine serverLine sessionLine)
    (hother : other ∈ bannerFields modelLine serverLine sessionLine)
    (hlabel : other.1.toList = field.1.toList) : other.2.chars = field.2.chars := by
  have hnodup : ((bannerFields modelLine serverLine sessionLine).map Prod.fst).Nodup :=
    show ["Model", "Server", "Session"].Nodup by decide
  rw [List.inj_on_of_nodup_map hnodup hother hfield (String.toList_inj.mp hlabel)]

theorem isField_of_mem_bannerFields (hmodel : modelLine.IsWhole) (hserver : serverLine.IsWhole)
    (hsession : sessionLine.IsWhole) :
    ∀ field ∈ bannerFields modelLine serverLine sessionLine, IsField field := by
  intro field hfield
  obtain ⟨hcells, hne, -, -⟩ := forall_mem_labels field.1 (label_mem_labels hfield)
  have hwhole : ∀ field ∈ bannerFields modelLine serverLine sessionLine, field.2.IsWhole := by
    simp [bannerFields, hmodel, hserver, hsession]
  exact ⟨hcells, hne, hwhole field hfield⟩

/-- A value stands behind its label in the banner exactly if it reads as itself. -/
theorem infix_bannerWords_iff (version : String) (width : Nat) {field : String × Line}
    {value : String}
    (h : ∀ other ∈ bannerFields modelLine serverLine sessionLine, IsField other)
    (hfield : field ∈ bannerFields modelLine serverLine sessionLine)
    (hvalue : IsOneCell value.toList) (hshown : field.2.chars = shown value.toList) :
    field.1.toList :: words value.toList <:+:
        (bannerWords version (bannerFields modelLine serverLine sessionLine) width).flatten ↔
      IsPlain value.toList := by
  constructor
  · intro hinside
    by_contra hmarkup
    have hne : value.toList ≠ [] := by
      intro hempty
      rw [hempty] at hmarkup
      exact hmarkup isPlain_nil
    rw [Text.words_of_isSolid hvalue.isSolid hne] at hinside
    obtain ⟨-, -, -, hchat⟩ := forall_mem_labels field.1 (label_mem_labels hfield)
    have hlabelled := isLabelled_bannerWords version width h
      (fun other hother => (forall_mem_labels other.1 (label_mem_labels hother)).2.2.1)
      (fun other hother => line_eq_of_label_eq hfield hother) hchat
    obtain hplain | hsame := hlabelled.isPlain_or_eq hinside
    · exact hmarkup hplain
    · have hlost := markCount_shown_lt hmarkup
      rw [← hshown, ← hsame] at hlost
      exact Nat.lt_irrefl _ hlost
  · intro hplain
    have hwords := fieldWords_infix_bannerWords version width hfield
    rwa [fieldWords, hshown, hplain.shown] at hwords

end Shown

/-- Whether the banner is printed with each of the values in one of its lines. -/
def ShowsValues (console : Console) (model server sessionKey version : String) : Prop :=
  ∃ printed, printBanner console model server sessionKey version = .ok printed ∧
    ∀ value ∈ [model, server, sessionKey],
      ∃ row ∈ Text.lines printed.toList, value.toList <:+: row

/-- Whether the banner is printed with each of the values right behind its label. -/
def ShowsFields (console : Console) (model server sessionKey version : String) : Prop :=
  ∃ printed, printBanner console model server sessionKey version = .ok printed ∧
    ∀ field ∈ [("Model", model), ("Server", server), ("Session", sessionKey)],
      field.1.toList :: words field.2.toList <:+: words printed.toList

section Printed

variable {model server sessionKey version : String} {console : Console}

theorem printBanner_eq {modelLine serverLine sessionLine : Line} (hmodel : IsReadAs model modelLine)
    (hserver : IsReadAs server serverLine) (hsession : IsReadAs sessionKey sessionLine)
    (hnew : sessionKey ≠ "") (hroom : leastBannerWidth ≤ console.width) :
    printBanner console model server sessionKey version = .ok (console.printLines
      (bannerLines version (bannerFields modelLine serverLine sessionLine) console.width)) := by
  have hempty : sessionKey.isEmpty = false := by
    simpa using hnew
  rw [printBanner, if_neg (Nat.not_lt.mpr hroom), banner, hmodel.read, hserver.read, hempty,
    if_neg Bool.false_ne_true, hsession.read]
  rfl

variable (hmodel : IsOneCell model.toList) (hserver : IsOneCell server.toList)
  (hsession : IsOneCell sessionKey.toList) (hnew : sessionKey ≠ "")
include hmodel hserver hsession hnew

/-- Where there is room, a banner is printed only if all values can be read. -/
theorem exists_isReadAs_of_printBanner {printed : String}
    (hroom : leastBannerWidth ≤ console.width)
    (hprinted : printBanner console model server sessionKey version = .ok printed) :
    ∃ modelLine serverLine sessionLine, IsReadAs model modelLine ∧
      IsReadAs server serverLine ∧ IsReadAs sessionKey sessionLine := by
  have hempty : sessionKey.isEmpty = false := by
    simpa using hnew
  rw [printBanner, if_neg (Nat.not_lt.mpr hroom), banner, hempty,
    if_neg Bool.false_ne_true] at hprinted
  cases hfirst : Markup.read model with
  | error error =>
      rw [hfirst] at hprinted
      cases hprinted
  | ok modelText =>
      cases hsecond : Markup.read server with
      | error error =>
          rw [hfirst, hsecond] at hprinted
          cases hprinted
      | ok serverText =>
          cases hthird : Markup.read sessionKey with
          | error error =>
              rw [hfirst, hsecond, hthird] at hprinted
              cases hprinted
          | ok sessionText =>
              obtain ⟨modelLine, hmodelLine⟩ := exists_isReadAs hmodel hfirst
              obtain ⟨serverLine, hserverLine⟩ := exists_isReadAs hserver hsecond
              obtain ⟨sessionLine, hsessionLine⟩ := exists_isReadAs hsession hthird
              exact ⟨modelLine, serverLine, sessionLine, hmodelLine, hserverLine, hsessionLine⟩

end Printed

/-! ## Banners that are wide enough -/

section Wide

variable {version : String} {fields : List (String × Line)} {width : Nat}

theorem infix_printLines_bannerLines
    (hblock : IsBlock width (bannerWords version fields width) (fieldTexts fields)
      (bannerLines version fields width)) {field : String × Line} (hfield : field ∈ fields)
    {value : String} (h : IsOneCell value.toList) (hread : IsReadAs value field.2)
    (hplain : IsPlain value.toList) (colored : Bool) :
    ∃ row ∈ Text.lines ((⟨width, colored⟩ : Console).printLines
      (bannerLines version fields width)).toList, value.toList <:+: row := by
  apply Text.exists_infix_of_infix
  · by_cases hempty : value.toList = []
    · rw [hempty]
      exact List.nil_infix
    · have hline : [Line.ofChars value.toList .none] = [field.2] :=
        Except.ok.inj ((hplain.read_eq h).symm.trans hread.read)
      have hrun : value.toList ∈ field.2.map Run.text := by
        rw [← List.singleton_inj.mp hline, Line.ofChars, if_neg (by simpa using hempty)]
        exact List.mem_singleton_self _
      exact Console.infix_printLines hblock colored (List.mem_flatMap.mpr ⟨field, hfield, hrun⟩)
  · intro hmem
    exact absurd (h.isSolid '\n' hmem) (by decide)

/-- The letters of a banner are those of its frame, its texts and its fields. -/
theorem mem_bannerMarks_or_fieldWords_of_printed
    (hblock : IsBlock width (bannerWords version fields width) (fieldTexts fields)
      (bannerLines version fields width)) {c : Char}
    (hc : c ∈ ((⟨width, false⟩ : Console).printLines (bannerLines version fields width)).toList)
    (hletter : Text.isBlank c = false) :
    c ∈ bannerMarks version ∨ ∃ field ∈ fields, c ∈ (fieldWords field).flatten := by
  apply mem_bannerMarks_or_fieldWords
  rw [← Console.words_printLines hblock, Text.flatten_words, Text.letters, List.mem_filter]
  exact ⟨hc, by rw [hletter]; rfl⟩

section Values

variable {model server sessionKey : String} {modelLine serverLine sessionLine : Line}
  (hmodel : IsOneCell model.toList) (hserver : IsOneCell server.toList)
  (hsession : IsOneCell sessionKey.toList) (hnew : sessionKey ≠ "")
  (hmodelLine : IsReadAs model modelLine) (hserverLine : IsReadAs server serverLine)
  (hsessionLine : IsReadAs sessionKey sessionLine)
  (hblock : IsBlock width
    (bannerWords version (bannerFields modelLine serverLine sessionLine) width)
    (fieldTexts (bannerFields modelLine serverLine sessionLine))
    (bannerLines version (bannerFields modelLine serverLine sessionLine) width))
  (hroom : leastBannerWidth ≤ width)
include hmodel hserver hsession hnew hmodelLine hserverLine hsessionLine hblock hroom

theorem showsFields_iff_isPlain
    (hfields : ∀ field ∈ bannerFields modelLine serverLine sessionLine, IsField field) :
    ShowsFields ⟨width, false⟩ model server sessionKey version ↔
      ∀ value ∈ [model, server, sessionKey], IsPlain value.toList := by
  have hshows : ShowsFields ⟨width, false⟩ model server sessionKey version ↔
      ∀ field ∈ [("Model", model), ("Server", server), ("Session", sessionKey)],
        field.1.toList :: words field.2.toList <:+: (bannerWords version
          (bannerFields modelLine serverLine sessionLine) width).flatten := by
    rw [ShowsFields, printBanner_eq hmodelLine hserverLine hsessionLine hnew hroom,
      ← Console.words_printLines hblock]
    simp
  rw [hshows, List.forall_mem_cons, List.forall_mem_cons, List.forall_mem_singleton,
    List.forall_mem_cons, List.forall_mem_cons, List.forall_mem_singleton,
    infix_bannerWords_iff version width hfields model_mem_bannerFields hmodel hmodelLine.chars,
    infix_bannerWords_iff version width hfields server_mem_bannerFields hserver hserverLine.chars,
    infix_bannerWords_iff version width hfields session_mem_bannerFields hsession
      hsessionLine.chars]

theorem showsValues_of_isPlain
    (hplain : ∀ value ∈ [model, server, sessionKey], IsPlain value.toList) (colored : Bool) :
    ShowsValues ⟨width, colored⟩ model server sessionKey version := by
  refine ⟨_, printBanner_eq hmodelLine hserverLine hsessionLine hnew hroom, ?_⟩
  rw [List.forall_mem_cons, List.forall_mem_cons, List.forall_mem_singleton] at hplain ⊢
  obtain ⟨hmodelPlain, hserverPlain, hsessionPlain⟩ := hplain
  exact ⟨infix_printLines_bannerLines hblock model_mem_bannerFields hmodel hmodelLine hmodelPlain
      colored,
    infix_printLines_bannerLines hblock server_mem_bannerFields hserver hserverLine hserverPlain
      colored,
    infix_printLines_bannerLines hblock session_mem_bannerFields hsession hsessionLine hsessionPlain
      colored⟩

end Values

end Wide

/-- The banner of one-cell values is drawn without a loss where it is wide enough. -/
theorem isBlock_of_isReadAs {model server sessionKey version : String}
    {modelLine serverLine sessionLine : Line} (hmodel : IsOneCell model.toList)
    (hserver : IsOneCell server.toList) (hsession : IsOneCell sessionKey.toList)
    (hversion : IsOneCell version.toList) (hmodelLine : IsReadAs model modelLine)
    (hserverLine : IsReadAs server serverLine) (hsessionLine : IsReadAs sessionKey sessionLine)
    {width : Nat}
    (hwidth : wideEnough version (bannerFields modelLine serverLine sessionLine) ≤ width) :
    IsBlock width (bannerWords version (bannerFields modelLine serverLine sessionLine) width)
      (fieldTexts (bannerFields modelLine serverLine sessionLine))
      (bannerLines version (bannerFields modelLine serverLine sessionLine) width) :=
  isBlock_bannerLines (isField_of_mem_bannerFields (hmodelLine.isWhole hmodel)
    (hserverLine.isWhole hserver) (hsessionLine.isWhole hsession)) (List.cons_ne_nil _ _) hversion
    hwidth

theorem leastBannerWidth_le_wideEnough (version : String) (fields : List (String × Line)) :
    leastBannerWidth ≤ wideEnough version fields := by
  rw [leastBannerWidth, wideEnough]
  omega

/-- For values of one-cell characters there is a width from which on the banner shows each value
right behind its label exactly if they all read as themselves, and then each of them stands in
one of its lines. -/
theorem exists_showsFields_iff_isPlain {model server sessionKey version : String}
    (hmodel : IsOneCell model.toList) (hserver : IsOneCell server.toList)
    (hsession : IsOneCell sessionKey.toList) (hversion : IsOneCell version.toList)
    (hnew : sessionKey ≠ "") :
    ∃ least, ∀ width, least ≤ width →
      (ShowsFields ⟨width, false⟩ model server sessionKey version ↔
        ∀ value ∈ [model, server, sessionKey], IsPlain value.toList) ∧
      ((∀ value ∈ [model, server, sessionKey], IsPlain value.toList) →
        ∀ colored, ShowsValues ⟨width, colored⟩ model server sessionKey version) := by
  by_cases hread : ∃ modelLine serverLine sessionLine, IsReadAs model modelLine ∧
      IsReadAs server serverLine ∧ IsReadAs sessionKey sessionLine
  · obtain ⟨modelLine, serverLine, sessionLine, hmodelLine, hserverLine, hsessionLine⟩ := hread
    have hfields := isField_of_mem_bannerFields (hmodelLine.isWhole hmodel)
      (hserverLine.isWhole hserver) (hsessionLine.isWhole hsession)
    refine ⟨wideEnough version (bannerFields modelLine serverLine sessionLine),
      fun width hwidth => ?_⟩
    have hblock := isBlock_of_isReadAs hmodel hserver hsession hversion hmodelLine hserverLine
      hsessionLine hwidth
    have hroom := (leastBannerWidth_le_wideEnough version _).trans hwidth
    exact ⟨showsFields_iff_isPlain hmodel hserver hsession hnew hmodelLine hserverLine hsessionLine
      hblock hroom hfields, showsValues_of_isPlain hmodel hserver hsession hnew hmodelLine
        hserverLine hsessionLine hblock hroom⟩
  · have hnone : ¬∀ value ∈ [model, server, sessionKey], IsPlain value.toList := by
      intro hplain
      rw [List.forall_mem_cons, List.forall_mem_cons, List.forall_mem_singleton] at hplain
      obtain ⟨hmodelPlain, hserverPlain, hsessionPlain⟩ := hplain
      exact hread ⟨_, _, _, isReadAs_of_isPlain hmodel hmodelPlain,
        isReadAs_of_isPlain hserver hserverPlain, isReadAs_of_isPlain hsession hsessionPlain⟩
    refine ⟨leastBannerWidth, fun width hroom => ⟨iff_of_false ?_ hnone, fun hplain =>
      absurd hplain hnone⟩⟩
    rintro ⟨printed, hprinted, -⟩
    exact hread (exists_isReadAs_of_printBanner hmodel hserver hsession hnew hroom hprinted)

/-- The brackets of an address of digits start no tag. -/
theorem showsValues_loopback : ∃ least, ∀ width, least ≤ width → ∀ colored,
    ShowsValues ⟨width, colored⟩ "Echoryn" "http://[::1]:11789" "sess-1" version := by
  have hmodel : IsOneCell "Echoryn".toList := by decide
  have hserver : IsOneCell "http://[::1]:11789".toList := by decide
  have hsession : IsOneCell "sess-1".toList := by decide
  have hversion : IsOneCell version.toList := by decide
  obtain ⟨least, hleast⟩ :=
    exists_showsFields_iff_isPlain hmodel hserver hsession hversion (by decide)
  exact ⟨least, fun width hwidth => (hleast width hwidth).2 (by decide)⟩

/-- The brackets of an address that begins with a letter are a tag, which is not shown. -/
theorem not_showsValues_linkLocal : ¬∃ least, ∀ width, least ≤ width →
    ShowsValues ⟨width, false⟩ "Echoryn" "http://[fe80::1]:11789" "sess-1" version := by
  rintro ⟨least, hleast⟩
  have hmodel : IsOneCell "Echoryn".toList := by decide
  have hserver : IsOneCell "http://[fe80::1]:11789".toList := by decide
  have hsession : IsOneCell "sess-1".toList := by decide
  have hversion : IsOneCell version.toList := by decide
  have hnew : "sess-1" ≠ "" := by decide
  obtain ⟨printed, hprinted, -⟩ := hleast _ (Nat.le_max_left least leastBannerWidth)
  obtain ⟨modelLine, serverLine, sessionLine, hmodelLine, hserverLine, hsessionLine⟩ :=
    exists_isReadAs_of_printBanner hmodel hserver hsession hnew
      (Nat.le_max_right least leastBannerWidth) hprinted
  have hblock := isBlock_of_isReadAs hmodel hserver hsession hversion hmodelLine hserverLine
    hsessionLine (Nat.le_max_right least _)
  obtain ⟨printed, hprinted, hrows⟩ := hleast _ (Nat.le_max_left least
    (wideEnough version (bannerFields modelLine serverLine sessionLine)))
  rw [printBanner_eq hmodelLine hserverLine hsessionLine hnew
    ((leastBannerWidth_le_wideEnough version _).trans (Nat.le_max_right least _))] at hprinted
  obtain rfl := Except.ok.inj hprinted
  obtain ⟨row, hrow, hvalue⟩ := hrows "http://[fe80::1]:11789" (by simp)
  have hbracket := (Text.mem_of_mem_pieces hrow (hvalue.subset (show ']' ∈ _ by decide))).1
  obtain hmark | ⟨field, hfield, hword⟩ :=
    mem_bannerMarks_or_fieldWords_of_printed hblock hbracket rfl
  · exact absurd hmark (by decide)
  · rw [fieldWords, List.flatten_cons, Text.flatten_words] at hword
    simp only [bannerFields, List.mem_cons, List.not_mem_nil, or_false] at hfield
    have hmodelShown : ']' ∉ "Model".toList ++ Text.letters (shown "Echoryn".toList) := by decide
    have hserverShown :
        ']' ∉ "Server".toList ++ Text.letters (shown "http://[fe80::1]:11789".toList) := by decide
    have hsessionShown : ']' ∉ "Session".toList ++ Text.letters (shown "sess-1".toList) := by decide
    obtain rfl | rfl | rfl := hfield
    · exact hmodelShown (hmodelLine.chars ▸ hword)
    · exact hserverShown (hserverLine.chars ▸ hword)
    · exact hsessionShown (hsessionLine.chars ▸ hword)

end Parley.View
