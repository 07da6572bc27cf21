import Mathlib.Data.List.TakeWhile
import Parley.CommandLine.Echo

/-!
# What plain output leaves out

A text is written as it is exactly if it holds no control sequence, and is shorter
otherwise.  So pieces that are written one by one make up the whole text exactly if none of
them holds a control sequence; a sequence that is cut apart is written, and one that stands
in a single piece is not.
-/

namespace Parley.CommandLine

open Terminal

/-! ## Control sequences -/

/-- A sequence that controls a terminal. -/
def controlSequence (parameters : List Char) (last : Char) : List Char :=
  escapeChar :: '[' :: (parameters ++ [last])

/-- Whether a control sequence stands in a text. -/
def HasControl (s : List Char) : Prop :=
  ∃ parameters last, (∀ c ∈ parameters, isParameter c = true) ∧ last.isAlpha = true ∧
    controlSequence parameters last <:+: s

theorem HasControl.mono {s t : List Char} (h : HasControl s) (hwithin : s <:+: t) :
    HasControl t := by
  obtain ⟨parameters, last, hparameters, hlast, hsequence⟩ := h
  exact ⟨parameters, last, hparameters, hlast, hsequence.trans hwithin⟩

theorem isParameter_of_isAlpha {c : Char} (hc : c.isAlpha = true) : isParameter c = false := by
  have hletter :
      (decide ('A' ≤ c ∧ c ≤ 'Z') || (decide ('a' ≤ c) && decide (c ≤ 'z'))) = true := hc
  have hdigit : (decide ('0' ≤ c) && decide (c ≤ '9')) = false := by
    have hnine : '9'.val.toNat < 'A'.val.toNat ∧ '9'.val.toNat < 'a'.val.toNat := by decide
    simp only [Bool.or_eq_true, Bool.and_eq_true, decide_eq_true_eq, Char.le_def,
      UInt32.le_iff_toNat_le] at hletter
    simp only [Bool.and_eq_false_iff, decide_eq_false_iff_not, Char.le_def,
      UInt32.le_iff_toNat_le]
    omega
  have hsemicolon : c ≠ ';' := by
    rintro rfl
    exact absurd hc (by decide)
  have hquestion : c ≠ '?' := by
    rintro rfl
    exact absurd hc (by decide)
  have hnone : c.isDigit = false := hdigit
  simp [isParameter, hnone, hsemicolon, hquestion]

theorem controlLength?_controlSequence {parameters : List Char} {last : Char}
    (hparameters : ∀ c ∈ parameters, isParameter c = true) (hlast : last.isAlpha = true)
    (after : List Char) :
    controlLength? (controlSequence parameters last ++ after) = some (parameters.length + 3) := by
  have hrest : (parameters ++ last :: after).takeWhile isParameter = parameters := by
    rw [List.takeWhile_append_of_pos hparameters,
      List.takeWhile_cons_of_neg (by simp [isParameter_of_isAlpha hlast]), List.append_nil]
  have hsequence : controlSequence parameters last ++ after =
      escapeChar :: '[' :: (parameters ++ last :: after) := by
    simp [controlSequence]
  rw [hsequence, controlLength?, hrest, List.drop_left]
  simp [hlast]

theorem exists_controlSequence {s : List Char} {length : Nat}
    (hlength : controlLength? s = some length) :
    ∃ parameters last after, (∀ c ∈ parameters, isParameter c = true) ∧ last.isAlpha = true ∧
      s = controlSequence parameters last ++ after := by
  unfold controlLength? at hlength
  split at hlength
  case h_2 => exact absurd hlength (Option.some_ne_none _).symm
  case h_1 escape rest =>
      dsimp only at hlength
      split at hlength
      case h_2 => exact absurd hlength (Option.some_ne_none _).symm
      case h_1 last after hlast =>
          split at hlength
          case isFalse => exact absurd hlength (Option.some_ne_none _).symm
          case isTrue hends =>
              obtain ⟨hescape, halpha⟩ : escape = escapeChar ∧ last.isAlpha = true := by
                simpa using hends
              have hrest : rest.takeWhile isParameter ++ last :: after = rest := by
                rw [← hlast]
                exact List.prefix_iff_eq_append.mp (List.takeWhile_prefix isParameter)
              refine ⟨rest.takeWhile isParameter, last, after, ?_, halpha, ?_⟩
              · intro c hc
                exact List.mem_takeWhile_imp hc
              · rw [hescape, controlSequence]
                simpa using hrest.symm

/-! ## Texts -/

theorem withoutControls_skip (more : Nat) (c : Char) (rest : List Char) :
    withoutControls (more + 1) (c :: rest) = withoutControls more rest := by
  rw [withoutControls]

theorem withoutControls_some {c : Char} {rest : List Char} {length : Nat}
    (hlength : controlLength? (c :: rest) = some length) :
    withoutControls 0 (c :: rest) = withoutControls (length - 1) rest := by
  simp only [withoutControls, hlength]

theorem withoutControls_none {c : Char} {rest : List Char}
    (hlength : controlLength? (c :: rest) = none) :
    withoutControls 0 (c :: rest) = c :: withoutControls 0 rest := by
  simp only [withoutControls, hlength]

theorem length_withoutControls_le (skip : Nat) (s : List Char) :
    (withoutControls skip s).length ≤ s.length := by
  induction s generalizing skip with
  | nil => exact Nat.le_refl 0
  | cons c rest ih =>
      cases skip with
      | succ more =>
          rw [withoutControls_skip]
          exact Nat.le_succ_of_le (ih more)
      | zero =>
          cases hlength : controlLength? (c :: rest) with
          | some length =>
              rw [withoutControls_some hlength]
              exact Nat.le_succ_of_le (ih _)
          | none =>
              rw [withoutControls_none hlength]
              exact Nat.succ_le_succ (ih 0)

theorem hasControl_cons {c : Char} {rest : List Char} (hnone : controlLength? (c :: rest) = none) :
    HasControl (c :: rest) ↔ HasControl rest := by
  constructor
  · rintro ⟨parameters, last, hparameters, hlast, hsequence⟩
    obtain hfront | hlater := List.infix_cons_iff.mp hsequence
    · obtain ⟨after, hafter⟩ := hfront
      rw [← hafter, controlLength?_controlSequence hparameters hlast] at hnone
      exact absurd hnone (Option.some_ne_none _)
    · exact ⟨parameters, last, hparameters, hlast, hlater⟩
  · intro h
    exact h.mono (List.suffix_cons c rest).isInfix

theorem withoutControls_eq_self_iff (s : List Char) :
    withoutControls 0 s = s ↔ ¬HasControl s := by
  induction s with
  | nil =>
      refine iff_of_true rfl ?_
      rintro ⟨parameters, last, -, -, hsequence⟩
      exact absurd (List.infix_nil.mp hsequence) (List.cons_ne_nil _ _)
  | cons c rest ih =>
      cases hlength : controlLength? (c :: rest) with
      | some length =>
          obtain ⟨parameters, last, after, hparameters, hlast, hsequence⟩ :=
            exists_controlSequence hlength
          refine iff_of_false ?_ ?_
          · rw [withoutControls_some hlength]
            intro hsame
            have hle := length_withoutControls_le (length - 1) rest
            rw [hsame] at hle
            exact absurd hle (Nat.not_succ_le_self _)
          · apply not_not_intro
            refine ⟨parameters, last, hparameters, hlast, ?_⟩
            rw [hsequence]
            exact (List.prefix_append _ _).isInfix
      | none =>
          rw [withoutControls_none hlength, hasControl_cons hlength, ← ih]
          exact List.cons_inj_right c

theorem plainOutput_eq_self_iff (text : String) :
    plainOutput text = text ↔ ¬HasControl text.toList := by
  rw [← withoutControls_eq_self_iff, plainOutput]
  constructor
  · intro hsame
    have hchars := congrArg String.toList hsame
    rwa [String.toList_ofList] at hchars
  · intro hsame
    rw [hsame, String.ofList_toList]

/-! ## Pieces -/

theorem length_plainOutput_le (text : String) : (plainOutput text).length ≤ text.length := by
  rw [← String.length_toList, ← String.length_toList, plainOutput, String.toList_ofList]
  exact length_withoutControls_le 0 text.toList

theorem length_join_plainOutput_le (pieces : List String) :
    (String.join (pieces.map plainOutput)).length ≤ (String.join pieces).length := by
  induction pieces with
  | nil => exact Nat.le_refl 0
  | cons piece rest ih =>
      rw [List.map_cons, String.join_cons, String.join_cons, String.length_append,
        String.length_append]
      exact Nat.add_le_add (length_plainOutput_le piece) ih

/-- No piece makes up for what another one leaves out. -/
theorem join_plainOutput_eq_iff (pieces : List String) :
    String.join (pieces.map plainOutput) = String.join pieces ↔
      ∀ piece ∈ pieces, ¬HasControl piece.toList := by
  induction pieces with
  | nil => simp
  | cons piece rest ih =>
      rw [List.forall_mem_cons, ← ih, ← plainOutput_eq_self_iff, List.map_cons, String.join_cons,
        String.join_cons]
      constructor
      · intro hsame
        have hlength : (plainOutput piece).length = piece.length := by
          have hwhole := congrArg String.length hsame
          rw [String.length_append, String.length_append] at hwhole
          have hpiece := length_plainOutput_le piece
          have hrest := length_join_plainOutput_le rest
          omega
        have hchars := congrArg String.toList hsame
        rw [String.toList_append, String.toList_append] at hchars
        rw [← String.length_toList, ← String.length_toList] at hlength
        obtain ⟨hpiece, hrest⟩ := List.append_inj hchars hlength
        exact ⟨String.toList_inj.mp hpiece, String.toList_inj.mp hrest⟩
      · rintro ⟨hpiece, hrest⟩
        rw [hpiece, hrest]

theorem HasControl.join {pieces : List String} {piece : String} (hpiece : piece ∈ pieces)
    (h : HasControl piece.toList) : HasControl (String.join pieces).toList := by
  apply h.mono
  rw [String.toList_join]
  exact List.infix_of_mem_flatten (List.mem_map_of_mem hpiece)

/-- A text that is cut into its characters. -/
def characters (text : String) : List String :=
  text.toList.map String.singleton

theorem join_characters (text : String) : String.join (characters text) = text := by
  rw [← String.toList_inj, String.toList_join, characters, List.flatMap_map]
  simp

/-- No control sequence stands in a single character. -/
theorem join_plainOutput_characters (text : String) :
    String.join ((characters text).map plainOutput) = text := by
  refine ((join_plainOutput_eq_iff _).mpr ?_).trans (join_characters text)
  intro piece hpiece
  obtain ⟨c, -, rfl⟩ := List.mem_map.mp hpiece
  rintro ⟨parameters, last, -, -, hsequence⟩
  have hlength := hsequence.length_le
  simp [controlSequence] at hlength

/-- However the text of some pieces is cut, the same is written, exactly if no control
sequence stands in the text. -/
theorem join_plainOutput_of_cut_iff (pieces : List String) :
    (∀ cut, String.join cut = String.join pieces →
      String.join (cut.map plainOutput) = String.join (pieces.map plainOutput)) ↔
        ¬HasControl (String.join pieces).toList := by
  constructor
  · intro hcuts
    have hwhole := hcuts [String.join pieces] String.empty_append
    have hcharacters := hcuts (characters (String.join pieces)) (join_characters _)
    rw [join_plainOutput_characters, ← hwhole] at hcharacters
    rw [← plainOutput_eq_self_iff]
    exact (hcharacters.trans String.empty_append).symm
  · intro hnone cut hcut
    have hverbatim (other : List String) (hother : String.join other = String.join pieces) :
        String.join (other.map plainOutput) = String.join pieces := by
      rw [← hother]
      apply (join_plainOutput_eq_iff other).mpr
      intro piece hpiece hcontrol
      apply hnone
      rw [← hother]
      exact hcontrol.join hpiece
    exact (hverbatim cut hcut).trans (hverbatim pieces rfl).symm

end Parley.CommandLine
