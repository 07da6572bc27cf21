import Parley.Proofs.Terminal.Columns
import Parley.View.Banner

/-!
# The layout of the banner

From a width on, nothing in the banner is broken or cut: its rows are the title, a rule and the
hints with the labels and values beside them, each between the borders.
-/

namespace Parley.View

open Terminal
open Text (words cellLen)

/-! ## Labels and values -/

/-- A label and a value that are set in one piece each. -/
structure IsField (field : String × Line) : Prop where
  label : IsOneCell field.1.toList
  named : field.1.toList ≠ []
  value : field.2.IsWhole

/-- The grid of labels and values of one line each. -/
def fieldGrid (fields : List (String × Line)) : Grid :=
  infoGrid (fields.map fun field => (field.1, [field.2]))

/-- The words of a label and of its value. -/
def fieldWords (field : String × Line) : List (List Char) :=
  field.1.toList :: words field.2.chars

/-- The texts of one style in the values. -/
def fieldTexts (fields : List (String × Line)) : List (List Char) :=
  fields.flatMap fun field => field.2.map Run.text

/-- The cells of the widest label, with the gap, and those of the widest value. -/
def fieldWidths (fields : List (String × Line)) : List Nat :=
  [max 1 ((fields.map fun field => cellLen field.1.toList + 1).foldl max 0),
    max 1 ((fields.map fun field => field.2.cells).foldl max 0)]

theorem ofString_label {field : String × Line} (h : IsField field) :
    Styled.ofString field.1 = [Line.ofChars field.1.toList .none] :=
  h.label.ofChars .none

section Fields

variable {fields : List (String × Line)} {width : Nat} (h : ∀ field ∈ fields, IsField field)
include h

theorem labelCells_fieldGrid : (fieldGrid fields).columnCells 0 =
    (fields.map fun field => Line.ofChars field.1.toList .none).map fun line =>
      (Drawing.ofStyled [line]).padded 0 1 := by
  have hcells : (fieldGrid fields).columnCells 0 = fields.map fun field =>
      (Drawing.ofStyled (Styled.ofString field.1)).padded 0 1 := by
    simp [Grid.columnCells, fieldGrid, infoGrid, Grid.cell, Function.comp_def]
  rw [hcells, List.map_map]
  refine List.map_congr_left fun field hfield => ?_
  rw [ofString_label (h field hfield)]
  rfl

omit h in
theorem valueCells_fieldGrid : (fieldGrid fields).columnCells 1 =
    (fields.map Prod.snd).map fun line => (Drawing.ofStyled [line]).padded 0 0 := by
  simp [Grid.columnCells, fieldGrid, infoGrid, Grid.cell, Function.comp_def]

theorem widths_fieldGrid (hne : fields ≠ []) (hroom : sumOf (fieldWidths fields) ≤ width) :
    (fieldGrid fields).widths width = fieldWidths fields := by
  have hsum : max 1 ((fields.map fun field => cellLen field.1.toList + 1).foldl max 0) +
      max 1 ((fields.map fun field => field.2.cells).foldl max 0) ≤ width := hroom
  have hlabelSpans : ((fields.map fun field => Line.ofChars field.1.toList .none).map fun line =>
      line.cells + (0 + 1)) = fields.map fun field => cellLen field.1.toList + 1 := by
    simp [Line.cells, Function.comp_def]
  have hvalueSpans : ((fields.map Prod.snd).map fun line => line.cells + (0 + 0)) =
      fields.map fun field => field.2.cells := by
    simp [Function.comp_def]
  have hlabels := Grid.most_columnExtent_texts width (labelCells_fieldGrid h)
    (List.forall_mem_map.mpr fun field hfield => by
      rw [Line.chars_ofChars]
      exact (h field hfield).label.isSolid)
    (List.map_eq_nil_iff.not.mpr hne) (by omega) (by rw [hlabelSpans]; omega)
  have hvalues := Grid.most_columnExtent_texts width valueCells_fieldGrid
    (List.forall_mem_map.mpr fun field hfield => (h field hfield).value.solid)
    (List.map_eq_nil_iff.not.mpr hne) (by omega) (by rw [hvalueSpans]; omega)
  rw [hlabelSpans] at hlabels
  rw [hvalueSpans] at hvalues
  have hwished : (fieldGrid fields).wishedWidths width = fieldWidths fields := by
    rw [fieldWidths, ← hlabels, ← hvalues]
    rfl
  exact Grid.widths_of_room rfl hwished hroom

end Fields

/-! ## Rows of labels and values -/

/-- A text of one line is one row, if it fits. -/
theorem isBlock_line {line : Line} {width : Nat} (hwidth : width ≠ 0) (hfits : line.FitsIn width) :
    IsBlock width [words line.chars] (line.map Run.text)
      ((Drawing.ofStyled [line]).lines (Grid.cellSetting width)) := by
  refine isBlock_ofStyled hwidth (List.forall_mem_singleton.mpr hfits) fun text htext => ?_
  obtain ⟨run, hrun, rfl⟩ := List.mem_map.mp htext
  exact ⟨line, List.mem_singleton_self line, run, hrun, List.infix_refl _⟩

theorem isBlock_field (fields : List (String × Line)) {field : String × Line} (h : IsField field)
    {first second : Nat} (hlabel : cellLen field.1.toList + 1 ≤ first)
    (hvalue : field.2.cells ≤ second) (hsecond : second ≠ 0) :
    IsBlock (first + second) [fieldWords field] (field.2.map Run.text)
      ((fieldGrid fields).drawRow [first, second]
        [Drawing.ofStyled (Styled.ofString field.1), Drawing.ofStyled [field.2]]) := by
  have hcells : cellLen field.1.toList = field.1.toList.length := h.label.cellLen
  have hpositive := List.length_pos_iff.mpr h.named
  have hwords : words field.1.toList = [field.1.toList] :=
    Text.words_of_isSolid h.label.isSolid h.named
  have hnameFits : (Line.ofChars field.1.toList .none).FitsIn (first - (0 + 1)) := by
    refine (h.label.isWhole .none).fitsIn ?_
    rw [Line.cells, Line.chars_ofChars]
    omega
  have hfirst := isBlock_line (by omega) hnameFits
  rw [Line.chars_ofChars, hwords, ← ofString_label h] at hfirst
  have hlabelCell : IsBlock first [[field.1.toList]] _
      (((Drawing.ofStyled (Styled.ofString field.1)).padded 0 1).lines (Grid.cellSetting first)) :=
    isBlock_padded rfl (by omega) (by omega) hfirst
  have hvalueCell : IsBlock second [words field.2.chars] (field.2.map Run.text)
      (((Drawing.ofStyled [field.2]).padded 0 0).lines (Grid.cellSetting second)) :=
    isBlock_padded rfl hsecond (Nat.zero_le _) (isBlock_line hsecond (h.value.fitsIn hvalue))
  have hopen : AreOpen (((Drawing.ofStyled (Styled.ofString field.1)).padded 0 1).lines
    (Grid.cellSetting first)) := areOpen_padded (show first ≠ 0 by omega) Nat.one_ne_zero
  have hrow := (fieldGrid fields).isBlock_drawRow_pair rfl hlabelCell hopen
    (by omega) hvalueCell
  exact hrow.mono (Nat.le_refl _) (List.subset_append_right _ _)

theorem isBlock_fields (fields : List (String × Line)) {parts : List (String × Line)}
    (h : ∀ field ∈ parts, IsField field) {first second : Nat}
    (hlabels : ∀ field ∈ parts, cellLen field.1.toList + 1 ≤ first)
    (hvalues : ∀ field ∈ parts, field.2.cells ≤ second) (hsecond : second ≠ 0) :
    IsBlock (first + second) (parts.map fieldWords) (fieldTexts parts)
      (parts.flatMap fun field => (fieldGrid fields).drawRow [first, second]
        [Drawing.ofStyled (Styled.ofString field.1), Drawing.ofStyled [field.2]]) := by
  induction parts with
  | nil => exact isBlock_nil _
  | cons field rest ih =>
      obtain ⟨hfield, hrest⟩ := List.forall_mem_cons.mp h
      obtain ⟨hlabel, hlabels⟩ := List.forall_mem_cons.mp hlabels
      obtain ⟨hvalue, hvalues⟩ := List.forall_mem_cons.mp hvalues
      exact (isBlock_field fields hfield hlabel hvalue hsecond).append (ih hrest hlabels hvalues)

/-! ## The title and the hints -/

/-- The words of the title. -/
def titleWords (version : String) : List (List Char) :=
  ["Echoryn".toList, "Chat".toList, 'v' :: version.toList]

section Title

variable {version : String} (hversion : IsOneCell version.toList)
include hversion

theorem isOneCell_number : IsOneCell ('v' :: version.toList) :=
  List.forall_mem_cons.mpr ⟨⟨rfl, rfl⟩, hversion⟩

theorem exists_line_bannerTitle : ∃ line, bannerTitle version = [line] ∧
    line.chars = "Echoryn Chat ".toList ++ 'v' :: version.toList := by
  have hlabel : ("v" ++ version).toList = 'v' :: version.toList := String.toList_append
  have hnumber : Styled.ofString ("v" ++ version) (.colored mutedColor) =
      [Line.ofChars ('v' :: version.toList) (.colored mutedColor)] := by
    rw [Styled.ofString, hlabel, (isOneCell_number hversion).ofChars]
  refine ⟨Line.ofChars "Echoryn Chat".toList (.boldColored accentColor) ++
    (Line.ofChars " ".toList .none ++
      (Line.ofChars ('v' :: version.toList) (.colored mutedColor) ++ [])), ?_, ?_⟩
  · rw [bannerTitle, hnumber]
    rfl
  · simp only [Line.chars_append, Line.chars_ofChars, List.append_nil]
    rfl

theorem isBlock_bannerTitle {width : Nat} (hwidth : version.length + 14 ≤ width) :
    IsBlock width [titleWords version] []
      ((Drawing.ofStyled (bannerTitle version)).lines (Grid.cellSetting width)) := by
  obtain ⟨line, htitle, hchars⟩ := exists_line_bannerTitle hversion
  have hnumber := isOneCell_number hversion
  have hall : ("Echoryn Chat ".toList.all fun c => Text.charCells c = 1) = true := by decide
  have hname : ∀ c ∈ "Echoryn Chat ".toList, Text.charCells c = 1 := by
    simpa only [List.all_eq_true, decide_eq_true_eq] using hall
  have hnarrow : ∀ c ∈ line.chars, Text.IsNarrow c := by
    rw [hchars]
    exact List.forall_mem_append.mpr ⟨hname, fun c hc => (hnumber c hc).1⟩
  have hlength : line.chars.length = version.length + 14 := by
    have hfront : "Echoryn Chat ".toList.length = 13 := rfl
    have hlast : version.toList.length = version.length := String.length_toList
    rw [hchars, List.length_append, List.length_cons]
    omega
  have hfits : line.FitsIn width := by
    refine ⟨fun hmem => (hnarrow _ hmem).ne rfl rfl,
      Line.isClosed_of_notMem fun hmem => (hnarrow _ hmem).ne Text.charCells_joiner rfl, ?_, ?_⟩
    · rw [hchars, List.getLast?_append_cons]
      exact fun c hc => (hnumber c (List.mem_of_getLast? hc)).2
    · rwa [Line.cells, cellLen, Text.cellLenAfter_of_narrow hnarrow, hlength]
  have hwords : words line.chars = titleWords version := by
    rw [hchars, Text.words_append_of_last ⟨' ', rfl, rfl⟩,
      Text.words_of_isSolid hnumber.isSolid (List.cons_ne_nil _ _)]
    rfl
  rw [htitle, ← hwords]
  exact (isBlock_line (by omega) hfits).mono (Nat.le_refl _) (List.nil_subset _)

end Title

/-- The words of the hints, row by row. -/
def tipWords : List (List (List Char)) :=
  bannerTips.map fun line => words line.chars

/-- The widest of the hints takes 38 cells. -/
theorem fitsIn_bannerTips {width : Nat} (hwidth : 38 ≤ width) :
    ∀ line ∈ bannerTips, line.FitsIn width := by
  have hall : ∀ line ∈ bannerTips, ('\t' ∉ line.chars ∧ Text.joiner ∉ line.chars) ∧
      line.chars.getLast?.any Text.isBlank = false ∧ line.cells ≤ 38 := by
    decide +kernel
  intro line hline
  obtain ⟨⟨htab, hjoiner⟩, hlast, hcells⟩ := hall line hline
  refine ⟨htab, Line.isClosed_of_notMem hjoiner, fun c hc => ?_, hcells.trans hwidth⟩
  rwa [Option.mem_def.mp hc] at hlast

/-! ## The whole banner -/

section Layout

variable {fields : List (String × Line)} {width : Nat} {setting : Line.Setting}
  (h : ∀ field ∈ fields, IsField field) (hne : fields ≠ []) (hsetting : setting.width = width)
include h hne hsetting

theorem isBlock_fieldGrid (hroom : sumOf (fieldWidths fields) ≤ width) :
    IsBlock width (fields.map fieldWords) (fieldTexts fields)
      ((fieldGrid fields).drawing.lines setting) := by
  subst hsetting
  obtain ⟨-, hlabels⟩ := le_foldl_max (fields.map fun field => cellLen field.1.toList + 1) 0
  obtain ⟨-, hvalues⟩ := le_foldl_max (fields.map fun field => field.2.cells) 0
  have hsum : max 1 ((fields.map fun field => cellLen field.1.toList + 1).foldl max 0) +
      max 1 ((fields.map fun field => field.2.cells).foldl max 0) ≤ setting.width := hroom
  have hlines : (fieldGrid fields).drawing.lines setting = fields.flatMap fun field =>
      (fieldGrid fields).drawRow (fieldWidths fields)
        [Drawing.ofStyled (Styled.ofString field.1), Drawing.ofStyled [field.2]] := by
    rw [Drawing.lines, if_neg (by omega), Grid.drawing]
    dsimp only
    rw [widths_fieldGrid h hne hroom]
    simp only [fieldGrid, infoGrid, List.map_map, List.flatMap_map]
    rfl
  rw [hlines]
  refine (isBlock_fields fields h (fun field hfield => ?_) (fun field hfield => ?_)
    (by omega)).mono hsum (List.Subset.refl _)
  · have hlabel := hlabels _ (List.mem_map_of_mem hfield)
    omega
  · have hvalue := hvalues _ (List.mem_map_of_mem hfield)
    omega

theorem isBlock_bodyGrid (hwidth : 80 ≤ width) (hroom : sumOf (fieldWidths fields) ≤ width / 2) :
    IsBlock width (Grid.sideBySide tipWords (fields.map fieldWords)) (fieldTexts fields)
      ((bodyGrid (fieldGrid fields)).drawing.lines setting) := by
  have htips : IsBlock ((width + 1) / 2) tipWords []
      (((Drawing.ofStyled bannerTips).padded 0 2).lines (Grid.cellSetting ((width + 1) / 2))) := by
    refine isBlock_padded rfl (by omega) (by omega) ?_
    exact isBlock_ofStyled (by omega) (fitsIn_bannerTips (by omega))
      fun _ hmem => absurd hmem List.not_mem_nil
  have hinfo : IsBlock (width / 2) (fields.map fieldWords) (fieldTexts fields)
      (((fieldGrid fields).drawing.padded 0 0).lines (Grid.cellSetting (width / 2))) :=
    isBlock_padded rfl (by omega) (Nat.zero_le _) (isBlock_fieldGrid h hne rfl hroom)
  have hopen : AreOpen (((Drawing.ofStyled bannerTips).padded 0 2).lines
      (Grid.cellSetting ((width + 1) / 2))) :=
    areOpen_padded (show (width + 1) / 2 ≠ 0 by omega) (by decide)
  have hrow := (bodyGrid (fieldGrid fields)).isBlock_drawRow_pair rfl htips hopen
    (by omega) hinfo
  have hwidths : (bodyGrid (fieldGrid fields)).widths setting.width =
      [(width + 1) / 2, width / 2] := by
    rw [hsetting]
    exact Grid.widths_of_halves rfl rfl rfl rfl (show 2 * (1 + 2 * 2) ≤ width by omega)
  have hlines : (bodyGrid (fieldGrid fields)).drawing.lines setting =
      (bodyGrid (fieldGrid fields)).drawRow [(width + 1) / 2, width / 2]
        [Drawing.ofStyled bannerTips, (fieldGrid fields).drawing] := by
    rw [Drawing.lines, if_neg (by omega), Grid.drawing]
    dsimp only
    rw [hwidths]
    exact List.append_nil _
  rw [hlines]
  exact hrow.mono (by omega) (List.Subset.refl _)

/-- The words inside the border, row by row. -/
def contentWords (version : String) (fields : List (String × Line)) (width : Nat) :
    List (List (List Char)) :=
  titleWords version :: [bar width] :: Grid.sideBySide tipWords (fields.map fieldWords)

theorem isBlock_layoutGrid {version : String} (hversion : IsOneCell version.toList)
    (htitle : version.length + 14 ≤ width) (hwidth : 80 ≤ width)
    (hroom : sumOf (fieldWidths fields) ≤ width / 2) :
    IsBlock width (contentWords version fields width) (fieldTexts fields)
      ((layoutGrid version (bodyGrid (fieldGrid fields))).drawing.lines setting) := by
  obtain ⟨grid, hgrid⟩ : ∃ grid, grid = layoutGrid version (bodyGrid (fieldGrid fields)) :=
    ⟨_, rfl⟩
  have hcolumns : grid.columns = [{}] := by rw [hgrid]; rfl
  have hcell (drawing : Drawing) : grid.cell 0 drawing = drawing := by rw [hgrid]; rfl
  have hwidths : grid.widths setting.width = [width] := by
    rw [hsetting]
    exact Grid.widths_of_single hcolumns rfl (by rw [hgrid]; rfl) (by omega)
  have hrow {drawing : Drawing} {rows : List (List (List Char))} {held : List (List Char)}
      (hblock : IsBlock width rows held (drawing.lines (Grid.cellSetting width)))
      (hrows : rows ≠ []) : IsBlock width rows held (grid.drawRow [width] [drawing]) :=
    Grid.isBlock_drawRow_single hcolumns (by rwa [hcell]) hrows
  have htop := hrow (isBlock_bannerTitle hversion htitle) (List.cons_ne_nil _ _)
  have hrule := hrow (isBlock_rule (show width ≠ 0 by omega) (.colored mutedColor))
    (List.cons_ne_nil _ _)
  have hbody := hrow (isBlock_bodyGrid h hne rfl hwidth hroom) (Grid.sideBySide_ne_nil _ _)
  have hlines : grid.drawing.lines setting =
      grid.drawRow [width] [Drawing.ofStyled (bannerTitle version)] ++
        (grid.drawRow [width] [Drawing.rule (.colored mutedColor)] ++
          grid.drawRow [width] [(bodyGrid (fieldGrid fields)).drawing]) := by
    rw [Drawing.lines, if_neg (by omega), Grid.drawing]
    dsimp only
    rw [hwidths, hgrid, layoutGrid]
    simp only [List.flatMap_cons, List.flatMap_nil, List.append_nil]
  rw [← hgrid, hlines]
  exact htop.append (hrule.append hbody)

/-- The words of the banner, row by row. -/
def bannerWords (version : String) (fields : List (String × Line)) (width : Nat) :
    List (List (List Char)) :=
  ['╭' :: bar (width - 2) ++ ['╮']] ::
    ((contentWords version fields (width - 4)).map bordered ++
      [['╰' :: bar (width - 2) ++ ['╯']]])

/-- The lines of the banner. -/
def bannerLines (version : String) (fields : List (String × Line)) (width : Nat) : List Line :=
  (panel (.colored accentColor) (layoutGrid version (bodyGrid (fieldGrid fields))).drawing).lines
    ⟨width, .ragged, .fold⟩

/-- A width at which nothing in the banner is broken or cut. -/
def wideEnough (version : String) (fields : List (String × Line)) : Nat :=
  version.length + 2 * sumOf (fieldWidths fields) + 100

omit hsetting in
/-- From a width on, the banner is drawn without a loss. -/
theorem isBlock_bannerLines {version : String} (hversion : IsOneCell version.toList)
    (hwidth : wideEnough version fields ≤ width) :
    IsBlock width (bannerWords version fields width) (fieldTexts fields)
      (bannerLines version fields width) := by
  rw [wideEnough] at hwidth
  have hsetting (n : Nat) : Line.Setting.width ⟨n, .ragged, .fold⟩ = n := rfl
  have hcontent : IsBlock (width - 2 - (1 + 1)) (contentWords version fields (width - 4))
      (fieldTexts fields) ((layoutGrid version (bodyGrid (fieldGrid fields))).drawing.lines
        ⟨width - 2 - (1 + 1), .ragged, .fold⟩) :=
    isBlock_layoutGrid h hne (hsetting _) hversion (by omega) (by omega) (by omega)
  exact isBlock_panel (hsetting width) (by omega) (.colored accentColor) hcontent

end Layout

/-! ## Words of the banner -/

/-- The ends of the bars in the banner. -/
def barEnds : List (List Char × List Char) :=
  [([], []), (['╭'], ['╮']), (['╰'], ['╯'])]

theorem mem_borders_of_mem_bar : ∀ ends ∈ barEnds, ∀ n, ∀ c ∈ ends.1 ++ bar n ++ ends.2,
    c ∈ ['─', '╭', '╮', '╰', '╯'] := by
  have hends : ∀ ends ∈ barEnds, ends.1 ++ ends.2 ⊆ ['─', '╭', '╮', '╰', '╯'] := by
    simp [barEnds]
  intro ends hmem n c hc
  rw [List.append_assoc, List.mem_append, List.mem_append] at hc
  obtain hleft | hbar | hright := hc
  · exact hends ends hmem (List.mem_append_left _ hleft)
  · rw [List.eq_of_mem_replicate hbar]
    exact List.mem_cons_self
  · exact hends ends hmem (List.mem_append_right _ hright)

section Words

variable {p : List (List Char) → Prop} (hnil : p [])
  (happend : ∀ row other, p row → p other → p (row ++ other))
include hnil happend

theorem flatten_of_append {rows : List (List (List Char))} (h : ∀ row ∈ rows, p row) :
    p rows.flatten := by
  induction rows with
  | nil => exact hnil
  | cons row rest ih =>
      obtain ⟨hrow, hrest⟩ := List.forall_mem_cons.mp h
      exact happend row _ hrow (ih hrest)

/-- What is true of bars and sides, of the title, of the hints and of the fields is true of all
words of the banner, if it stays true where rows are joined. -/
theorem bannerWords_induction (version : String) (fields : List (String × Line)) (width : Nat)
    (hbars : ∀ ends ∈ barEnds, ∀ n, p [ends.1 ++ bar n ++ ends.2]) (hside : p [['│']])
    (htitle : p (titleWords version)) (htips : ∀ row ∈ tipWords, p row)
    (hfields : ∀ field ∈ fields, p (fieldWords field)) :
    p (bannerWords version fields width).flatten := by
  have hrule : p [bar (width - 4)] := by
    simpa using hbars ([], []) (by simp [barEnds]) (width - 4)
  have htop := hbars (['╭'], ['╮']) (by simp [barEnds]) (width - 2)
  have hbottom := hbars (['╰'], ['╯']) (by simp [barEnds]) (width - 2)
  have hbody : ∀ row ∈ Grid.sideBySide tipWords (fields.map fieldWords), p row := by
    intro row hrow
    obtain ⟨left, right, hleft, hright, rfl⟩ := Grid.exists_append_of_mem_sideBySide hrow
    apply happend
    · obtain htip | rfl := hleft
      · exact htips left htip
      · exact hnil
    · obtain hfield | rfl := hright
      · exact List.forall_mem_map.mpr hfields right hfield
      · exact hnil
  have hcontent : ∀ row ∈ contentWords version fields (width - 4), p row :=
    List.forall_mem_cons.mpr ⟨htitle, List.forall_mem_cons.mpr ⟨hrule, hbody⟩⟩
  apply flatten_of_append hnil happend
  refine List.forall_mem_cons.mpr ⟨htop, List.forall_mem_append.mpr
    ⟨List.forall_mem_map.mpr fun row hrow => ?_, List.forall_mem_singleton.mpr hbottom⟩⟩
  exact happend _ _ hside (happend _ _ (hcontent row hrow) hside)

end Words

/-- The characters of the banner besides those of the fields. -/
def bannerMarks (version : String) : List Char :=
  ['│', '─', '╭', '╮', '╰', '╯'] ++ ((titleWords version).flatten ++ tipWords.flatten.flatten)

theorem mem_bannerMarks_or_fieldWords {version : String} {fields : List (String × Line)}
    {width : Nat} : ∀ c ∈ (bannerWords version fields width).flatten.flatten,
      c ∈ bannerMarks version ∨ ∃ field ∈ fields, c ∈ (fieldWords field).flatten := by
  refine bannerWords_induction (p := fun row => ∀ c ∈ row.flatten,
    c ∈ bannerMarks version ∨ ∃ field ∈ fields, c ∈ (fieldWords field).flatten)
    (fun _ hmem => absurd hmem List.not_mem_nil) (fun row other hrow hother => ?_) version fields
    width (fun ends hends n c hc => ?_) (fun c hc => ?_) (fun c hc => ?_)
    (fun row hrow c hc => ?_) fun field hfield c hc => Or.inr ⟨field, hfield, hc⟩
  · rw [List.flatten_append]
    exact List.forall_mem_append.mpr ⟨hrow, hother⟩
  · rw [List.flatten_singleton] at hc
    exact Or.inl (List.mem_append_left _
      (List.mem_cons_of_mem _ (mem_borders_of_mem_bar ends hends n c hc)))
  · rw [List.flatten_singleton] at hc
    exact Or.inl (List.mem_append_left _ (List.mem_singleton.mp hc ▸ List.mem_cons_self))
  · exact Or.inl (List.mem_append_right _ (List.mem_append_left _ hc))
  · obtain ⟨word, hword, hc⟩ := List.mem_flatten.mp hc
    have htips := List.mem_flatten_of_mem (List.mem_flatten_of_mem hrow hword) hc
    exact Or.inl (List.mem_append_right _ (List.mem_append_right _ htips))

/-- The words of each label and value stand in a row. -/
theorem fieldWords_infix_bannerWords (version : String) (width : Nat)
    {fields : List (String × Line)} {field : String × Line} (hfield : field ∈ fields) :
    fieldWords field <:+: (bannerWords version fields width).flatten := by
  have hmem : fieldWords field ∈ fields.map fieldWords := List.mem_map_of_mem hfield
  obtain ⟨left, hrow⟩ := Grid.exists_append_mem_sideBySide tipWords hmem
  have hcontent : left ++ fieldWords field ∈ contentWords version fields (width - 4) :=
    List.mem_cons_of_mem _ (List.mem_cons_of_mem _ hrow)
  have hbordered : bordered (left ++ fieldWords field) ∈ bannerWords version fields width :=
    List.mem_cons_of_mem _ (List.mem_append_left _ (List.mem_map_of_mem hcontent))
  have hinside : fieldWords field <:+: bordered (left ++ fieldWords field) :=
    (List.suffix_append _ _).isInfix.trans (List.infix_append [['│']] _ [['│']])
  exact hinside.trans (List.infix_of_mem_flatten hbordered)

end Parley.View
