import Parley.Endpoint.Choice
import Parley.Proofs.Endpoint.Settings
import Parley.Proofs.Terminal.Tags
import Parley.Proofs.Text.Printed

/-!
# Problems of settings

Every problem of settings is one of a setting, and its line is made of the name of the setting
and a sentence that markup leaves as it is: the only part of it that was given from outside is
the scheme of an address.
-/

namespace Parley

open Terminal.Markup (IsNeutral)
open Text (IsPrinted)

/-- A sentence that shows as it is: printable text without a meaning to markup. -/
structure IsCalm (s : String) : Prop where
  neutral : IsNeutral s.toList
  printed : IsPrinted s.toList
  ne_empty : s ≠ ""

instance (s : String) : Decidable (IsCalm s) :=
  decidable_of_iff (IsNeutral s.toList ∧ IsPrinted s.toList ∧ s ≠ "")
    ⟨fun ⟨hneutral, hprinted, hne⟩ => ⟨hneutral, hprinted, hne⟩,
      fun h => ⟨h.neutral, h.printed, h.ne_empty⟩⟩

theorem IsCalm.append {s t : String} (hs : IsCalm s) (ht : IsCalm t) : IsCalm (s ++ t) where
  neutral := by
    rw [String.toList_append]
    exact hs.neutral.append ht.neutral (String.toList_eq_nil_iff.not.mpr ht.ne_empty)
  printed := by
    rw [String.toList_append]
    exact Text.isPrinted_append_iff.mpr ⟨hs.printed, ht.printed⟩
  ne_empty := by
    intro hempty
    exact ht.ne_empty (String.append_eq_empty_iff.mp hempty).2

namespace Checked

variable {α β γ : Type} {P Q : Problem → Prop}

/-- Whether all problems of a check, if there are any, are of a kind. -/
def FailsOnly (P : Problem → Prop) (outcome : Checked α) : Prop :=
  ∀ problems, outcome = .error problems → ∀ problem ∈ problems, P problem

theorem failsOnly_ok (a : α) : FailsOnly P (.ok a : Checked α) :=
  fun _ herror => nomatch herror

theorem failsOnly_fail {cause : Cause} (hcause : P (.here cause)) :
    FailsOnly P (fail cause : Checked α) := by
  intro problems herror
  rw [← Except.error.inj herror]
  exact List.forall_mem_singleton.mpr hcause

theorem FailsOnly.both {f : α → β → γ} {first : Checked α} {second : Checked β}
    (hfirst : FailsOnly P first) (hsecond : FailsOnly P second) :
    FailsOnly P (both f first second) := by
  intro problems herror
  cases first with
  | ok a =>
      cases second with
      | ok b => cases herror
      | error others =>
          rw [← Except.error.inj herror]
          exact hsecond others rfl
  | error found =>
      cases second with
      | ok b =>
          rw [← Except.error.inj herror]
          exact hfirst found rfl
      | error others =>
          rw [← Except.error.inj herror]
          exact List.forall_mem_append.mpr ⟨hfirst found rfl, hsecond others rfl⟩

theorem FailsOnly.under {step : PathStep} {outcome : Checked α} (houtcome : FailsOnly Q outcome)
    (hstep : ∀ problem, Q problem → P (problem.under step)) : FailsOnly P (under step outcome) := by
  intro problems herror
  cases outcome with
  | ok a => cases herror
  | error found =>
      rw [← Except.error.inj herror]
      exact List.forall_mem_map.mpr fun problem hmem => hstep problem (houtcome found rfl problem hmem)

theorem FailsOnly.optional {name : String} {default : α} {check : Json → Checked α}
    (hcheck : ∀ value, FailsOnly Q (check value))
    (hstep : ∀ problem, Q problem → P (problem.under (.field name)))
    (found : List (String × Json)) : FailsOnly P (optional name default check found) := by
  rw [Checked.optional]
  split
  case h_1 value _ => exact (hcheck value).under hstep
  case h_2 => exact (failsOnly_ok default).under hstep

/-! ## Checks of single settings -/

/-- A problem right here, with a sentence that shows as it is. -/
def IsPlainProblem (problem : Problem) : Prop :=
  ∃ cause : Cause, problem = .here cause ∧ IsCalm cause.message

theorem failsOnly_fail_of_isCalm {cause : Cause} (hcause : IsCalm cause.message) :
    FailsOnly IsPlainProblem (fail cause : Checked α) :=
  failsOnly_fail ⟨cause, rfl, hcause⟩

theorem failsOnly_text (value : Json) : FailsOnly IsPlainProblem (text value) := by
  cases value with
  | string s => exact failsOnly_ok s
  | _ => exact failsOnly_fail_of_isCalm (by decide)

theorem failsOnly_nonEmptyText (value : Json) : FailsOnly IsPlainProblem (nonEmptyText value) := by
  rw [nonEmptyText]
  split
  case h_1 s _ =>
      split
      · exact failsOnly_fail_of_isCalm (by decide)
      · exact failsOnly_ok s
  case h_2 => exact failsOnly_text value

theorem failsOnly_number (value : Json) : FailsOnly IsPlainProblem (number value) := by
  have hnumber : FailsOnly IsPlainProblem (fail .notNumber : Checked Binary64) :=
    failsOnly_fail_of_isCalm (by decide)
  cases value with
  | integer n =>
      rw [number]
      split
      · exact hnumber
      · exact failsOnly_ok _
  | float x => exact failsOnly_ok x
  | bool b => exact failsOnly_ok _
  | string s =>
      rw [number]
      cases fieldNumber s with
      | none => exact failsOnly_fail_of_isCalm (by decide +kernel)
      | some x => exact failsOnly_ok x
  | _ => exact hnumber

theorem failsOnly_positiveNumber (value : Json) :
    FailsOnly IsPlainProblem (positiveNumber value) := by
  rw [positiveNumber]
  split
  case h_1 x _ =>
      split
      · exact failsOnly_ok x
      · exact failsOnly_fail_of_isCalm (by decide)
  case h_2 => exact failsOnly_number value

end Checked

namespace Config

open Checked

theorem isPrintable_of_isSchemeChar {c : Char} (hc : Address.isSchemeChar c = true) :
    Text.isPrintable c = true := by
  have hcode : 43 ≤ c.toNat ∧ c.toNat ≤ 122 := by
    simp only [Address.isSchemeChar, Bool.or_eq_true, beq_iff_eq] at hc
    obtain (((hletter | hdigit) | rfl) | rfl) | rfl := hc
    · have hletter := Address.toNat_of_isAlpha hletter
      omega
    · have hdigit : 48 ≤ c.toNat ∧ c.toNat ≤ 57 := Char.isDigit_iff_toNat.mp hdigit
      omega
    · decide
    · decide
    · decide
  have hsmall : c.toNat < 0x300 := by omega
  rw [Text.isPrintable, if_pos hsmall]
  simp only [Bool.and_eq_true, Bool.not_eq_true', Bool.and_eq_false_iff, bne_iff_ne,
    decide_eq_true_eq, decide_eq_false_iff_not]
  omega

theorem isCalm_scheme {scheme : List Char} (hscheme : Address.IsScheme scheme) :
    IsCalm (String.ofList scheme) where
  neutral := by
    rw [String.toList_ofList]
    exact Terminal.Markup.isNeutral_of_notMem (hscheme.notMem (by decide))
      (hscheme.notMem (by decide)) (hscheme.notMem (by decide))
  printed := by
    rw [String.toList_ofList]
    obtain ⟨first, rest, rfl, hfirst, hrest⟩ := hscheme
    exact List.forall_mem_cons.mpr
      ⟨isPrintable_of_isSchemeChar (Address.isSchemeChar_of_isAlpha hfirst),
        fun c hc => isPrintable_of_isSchemeChar (hrest c hc)⟩
  ne_empty := by
    obtain ⟨first, rest, rfl, -, -⟩ := hscheme
    simp

theorem isCalm_of_finish {s : List Char} {error : AddressError}
    (herror : Address.finish s = .error error) : IsCalm (Cause.refused error.message).message := by
  rw [Address.finish] at herror
  split at herror
  case isTrue =>
      rw [← Except.error.inj herror]
      decide
  case isFalse => cases herror

theorem isCalm_of_normalize {address : String} {error : AddressError}
    (herror : Address.normalize address = .error error) :
    IsCalm (Cause.refused error.message).message := by
  rw [Address.normalize] at herror
  cases hchars : Address.normalizeChars address.toList with
  | ok normal =>
      rw [hchars] at herror
      cases herror
  | error found =>
      rw [hchars] at herror
      obtain rfl := Except.error.inj herror
      cases hscheme : Address.scheme? (Text.strip address.toList) with
      | none =>
          rw [Address.normalizeChars_of_none hscheme] at hchars
          exact isCalm_of_finish hchars
      | some scheme =>
          rw [Address.normalizeChars_of_some hscheme] at hchars
          split at hchars
          case isTrue => exact isCalm_of_finish hchars
          case isFalse =>
              obtain ⟨hname, -⟩ := Address.scheme?_eq_some_iff.mp hscheme
              rw [← Except.error.inj hchars]
              have hfront : IsCalm "unsupported scheme '" := by decide
              have hback : IsCalm "' (use http or https)" := by decide
              have hlead : IsCalm "Value error, " := by decide
              exact hlead.append ((hfront.append (isCalm_scheme hname)).append hback)

theorem failsOnly_checkUrl (value : Json) : FailsOnly IsPlainProblem (checkUrl value) := by
  rw [checkUrl]
  split
  case h_1 s _ =>
      split
      case h_1 url _ => exact failsOnly_ok url
      case h_2 error herror => exact failsOnly_fail_of_isCalm (isCalm_of_normalize herror)
  case h_2 => exact failsOnly_text value

/-- The names of settings. -/
def settingNames : List String := ["base_url", "session_key", "model", "timeout"]

/-- A problem of a setting. -/
def IsSettingProblem (problem : Problem) : Prop :=
  ∃ name ∈ settingNames, ∃ cause : Cause,
    problem = ⟨[.field name], cause⟩ ∧ IsCalm cause.message

theorem failsOnly_ofMembers (found : List (String × Json)) :
    FailsOnly IsSettingProblem (ofMembers found) := by
  have hunder (name : String) (hname : name ∈ settingNames) (problem : Problem)
      (hproblem : IsPlainProblem problem) : IsSettingProblem (problem.under (.field name)) := by
    obtain ⟨cause, rfl, hcalm⟩ := hproblem
    exact ⟨name, hname, cause, rfl, hcalm⟩
  have hurl : FailsOnly IsSettingProblem
      (Checked.optional "base_url" defaultServer checkUrl found) :=
    .optional failsOnly_checkUrl (hunder "base_url" (by decide)) found
  have hkey : FailsOnly IsSettingProblem (Checked.optional "session_key" "" Checked.text found) :=
    .optional failsOnly_text (hunder "session_key" (by decide)) found
  have hmodel : FailsOnly IsSettingProblem
      (Checked.optional "model" defaultModel Checked.nonEmptyText found) :=
    .optional failsOnly_nonEmptyText (hunder "model" (by decide)) found
  have htimeout : FailsOnly IsSettingProblem
      (Checked.optional "timeout" defaultTimeout Checked.positiveNumber found) :=
    .optional failsOnly_positiveNumber (hunder "timeout" (by decide)) found
  exact hurl.both (hkey.both (hmodel.both htimeout))

theorem failsOnly_check (now : Int) (found : List (String × Json)) :
    FailsOnly IsSettingProblem (check now (.object found)) :=
  failsOnly_ofMembers (withKey now found)

theorem isCalm_line {problem : Problem} (h : IsSettingProblem problem) : IsCalm problem.line := by
  obtain ⟨name, hname, cause, rfl, hcalm⟩ := h
  have hfront : ∀ name ∈ settingNames, name.isEmpty = false ∧ IsCalm (name ++ ": ") := by
    decide
  obtain ⟨hnonempty, hstart⟩ := hfront name hname
  have hline : Problem.line ⟨[.field name], cause⟩ = name ++ ": " ++ cause.message := by
    have hlocation : Problem.location ⟨[.field name], cause⟩ = name := String.intercalate_singleton
    rw [Problem.line, hlocation, hnonempty]
    rfl
  rw [hline]
  exact hstart.append hcalm

theorem isCalm_summary {problems : List Problem} (hne : problems ≠ [])
    (hproblems : ∀ problem ∈ problems, IsSettingProblem problem) :
    IsCalm (Problem.summary problems) := by
  induction problems with
  | nil => exact absurd rfl hne
  | cons problem rest ih =>
      obtain ⟨hproblem, hrest⟩ := List.forall_mem_cons.mp hproblems
      have hline := isCalm_line hproblem
      cases rest with
      | nil =>
          have hsummary : Problem.summary [problem] = problem.line := String.intercalate_singleton
          rwa [hsummary]
      | cons next others =>
          have hsummary : Problem.summary (problem :: next :: others) =
              problem.line ++ "; " ++ Problem.summary (next :: others) :=
            String.intercalate_cons_cons
          have hmark : IsCalm "; " := by decide
          rw [hsummary]
          exact (hline.append hmark).append (ih (List.cons_ne_nil _ _) hrest)

section Choice

variable {flags : Flags} {environment : Environment} {now : Int} {error : ChoiceError}

theorem exists_of_chosenTimeout_eq_error
    (herror : chosenTimeout flags environment = .error error) :
    ∃ text, flags.timeout = none ∧ environment.get? timeoutVariable = some text ∧
      error = .unreadableTimeout text := by
  rw [chosenTimeout] at herror
  split at herror
  case h_1 => cases herror
  case h_2 text hflag hvariable =>
      refine ⟨text, hflag, hvariable, ?_⟩
      cases hnumber : lenientNumber text with
      | none =>
          rw [hnumber] at herror
          exact (Except.error.inj herror).symm
      | some x =>
          rw [hnumber] at herror
          cases herror
  case h_3 => cases herror

/-- Settings are refused for a timeout in the environment that is no number, or else for the
problems of the record, and what these say shows as it is. -/
theorem refusal_of_choose (herror : choose flags environment now = .error error) :
    (∃ text, flags.timeout = none ∧ environment.get? timeoutVariable = some text ∧
      error = .unreadableTimeout text) ∨
    ∃ problems, error = .invalid problems ∧ IsNeutral error.message.toList ∧
      IsPrinted error.message.toList := by
  rw [choose] at herror
  cases htimeout : chosenTimeout flags environment with
  | error found =>
      rw [htimeout] at herror
      rw [← Except.error.inj herror]
      exact Or.inl (exists_of_chosenTimeout_eq_error htimeout)
  | ok timeout =>
      rw [htimeout] at herror
      cases hcheck : check now (chosen flags environment timeout) with
      | ok config =>
          simp only [hcheck] at herror
          cases herror
      | error problems =>
          simp only [hcheck] at herror
          have hsame : error = .invalid problems := (Except.error.inj herror).symm
          have hproblems := failsOnly_check now _ problems hcheck
          refine Or.inr ⟨problems, hsame, ?_⟩
          have hmessage : error.message = Problem.summary problems := by rw [hsame]; rfl
          rw [hmessage]
          by_cases hne : problems = []
          · have hempty : Problem.summary [] = "" := String.intercalate_nil
            rw [hne, hempty]
            exact ⟨Terminal.Markup.isNeutral_nil, fun _ hmem => absurd hmem List.not_mem_nil⟩
          · have hcalm := isCalm_summary hne hproblems
            exact ⟨hcalm.neutral, hcalm.printed⟩

end Choice

end Config

end Parley
