import Parley.CommandLine.Outcome
import Parley.Proofs.Endpoint.Problems
import Parley.Proofs.Terminal.Letters
import Parley.Proofs.Terminal.Shown
import Parley.Proofs.Text.Printed

/-!
# Reports of refused settings

Settings that are refused are reported in red on the console.  The report is read as markup, so
what was given from outside can change it: it says what is wrong exactly if that reads as
itself, and only a timeout of the environment may not.
-/

namespace Parley

open Terminal Terminal.Markup
open Text (letters IsPrinted)

/-! ## Printed markup -/

namespace Terminal

theorem Styled.kept_of_isPrinted {s : List Char} (hs : IsPrinted s) : kept s = s := by
  refine List.filter_eq_self.mpr fun c hc => ?_
  cases hdropped : isDropped c with
  | false => rfl
  | true =>
      have hcontrol : Text.isPrintable c = false := by
        simp only [isDropped, Bool.or_eq_true, beq_iff_eq] at hdropped
        obtain (((rfl | rfl) | rfl) | rfl) | rfl := hdropped <;> rfl
      exact absurd ((hs c hc).symm.trans hcontrol) (by decide)

/-- What is printed of a text with markup has the letters that are shown of it. -/
theorem Console.letters_printMarkup {width : Nat} (hwidth : 2 ≤ width) {report printed : String}
    (hshown : IsPrinted (shown report.toList))
    (hprinted : (⟨width, false⟩ : Console).printMarkup report = .ok printed) :
    letters printed.toList = letters (shown report.toList) := by
  cases hread : read report with
  | error error =>
      rw [printMarkup, hread] at hprinted
      cases hprinted
  | ok text =>
      rw [printMarkup, hread] at hprinted
      obtain rfl := Except.ok.inj hprinted
      have hchars : text.chars = shown report.toList := by
        rw [chars_of_read hread, Styled.kept_of_isPrinted hshown]
      rw [letters_printText hwidth, hchars]
      intro line hline
      have hsub : line.chars ⊆ text.chars :=
        Text.subset_intercalate _ (List.mem_map_of_mem hline)
      have hline := hshown.of_subset (hchars ▸ hsub)
      exact ⟨hline.notMem_joiner, fun c hc => Text.eq_space_of_isPrintable (hline c hc)⟩

end Terminal

/-! ## What a report holds -/

/-- Behind a text that cannot be found before its end, a rest is found in the rest. -/
theorem sublist_of_append_sublist {front lead tail other : List Char}
    (hlead : ¬lead.Sublist (front ++ lead).dropLast)
    (h : (lead ++ tail).Sublist (front ++ (lead ++ other))) : tail.Sublist other := by
  obtain ⟨first, rest, hsplit, hfirst, hrest⟩ := List.append_sublist_iff.mp h
  rw [← List.append_assoc] at hsplit
  obtain ⟨middle, hshort, hother⟩ | ⟨middle, hlong, hother⟩ :=
    List.append_eq_append_iff.mp hsplit
  · rw [hother]
    exact hrest.trans (List.sublist_append_right middle rest)
  · obtain rfl | ⟨init, c, rfl⟩ := List.eq_nil_or_concat' middle
    · rwa [hother] at hrest
    · refine absurd (hfirst.trans ?_) hlead
      rw [hlong, ← List.append_assoc, List.dropLast_concat]
      exact List.sublist_append_left first init

namespace ChoiceError

/-- What a report begins with. -/
def reportFront : List Char := "Error: invalid configuration: ".toList

/-- What a report says of a timeout that is no number. -/
def timeoutFront : List Char := "could not convert string to float: ".toList

theorem isNeutral_reportFront : IsNeutral reportFront := by decide

theorem isNeutral_timeoutFront : IsNeutral timeoutFront := by decide

theorem toList_report (error : ChoiceError) :
    error.report.toList = reddened (reportFront ++ error.message.toList) := by
  have hfront : "[red]Error: invalid configuration: ".toList = "[red]".toList ++ reportFront := by
    decide
  have hreport : error.report =
      "[red]Error: invalid configuration: " ++ error.message ++ "[/red]" := rfl
  simp only [hreport, String.toList_append, hfront, reddened, List.append_assoc]

/-- Whether the report of an error says what is wrong: a text is printed that has the whole
message in it, but for the blanks. -/
def IsReported (console : Console) (error : ChoiceError) : Prop :=
  ∃ printed, console.printMarkup error.report = .ok printed ∧
    letters error.message.toList <:+: letters printed.toList

/-- A message that can be put between tags: printable text that ends in no backslash. -/
structure IsSayable (s : List Char) : Prop where
  printed : IsPrinted s
  last : s.getLast? ≠ some '\\'

section Message

variable {width : Nat} {error : ChoiceError}

theorem IsSayable.last_append {s : List Char} (h : IsSayable s) :
    (reportFront ++ s).getLast? ≠ some '\\' := by
  rw [List.getLast?_append]
  intro hslash
  obtain hlast | ⟨-, hfront⟩ := Option.or_eq_some_iff.mp hslash
  · exact h.last hlast
  · exact absurd hfront (by decide)

theorem shown_report (hmessage : IsSayable error.message.toList) :
    shown error.report.toList = reportFront ++ shown error.message.toList := by
  rw [toList_report, shown_reddened hmessage.last_append, isNeutral_reportFront.shown_append]

theorem letters_of_printMarkup (hwidth : 2 ≤ width) (hmessage : IsSayable error.message.toList)
    {printed : String}
    (hplain : IsPlain error.message.toList)
    (hok : (⟨width, false⟩ : Console).printMarkup error.report = .ok printed) :
    letters printed.toList = letters reportFront ++ letters error.message.toList := by
  have hfront : IsPrinted reportFront := by decide
  have hshown : shown error.report.toList = reportFront ++ error.message.toList := by
    rw [shown_report hmessage, hplain.shown]
  rw [Console.letters_printMarkup hwidth _ hok, hshown, Text.letters_append]
  rw [hshown, Text.isPrinted_append_iff]
  exact ⟨hfront, hmessage.printed⟩

theorem isReported_of_isPlain (hwidth : 2 ≤ width) (hmessage : IsSayable error.message.toList)
    (hplain : IsPlain error.message.toList) : IsReported ⟨width, false⟩ error := by
  have hwhole : IsPlain (reportFront ++ error.message.toList) :=
    isNeutral_reportFront.isPlain_append_iff.mpr hplain
  obtain ⟨text, htext⟩ := hwhole.exists_read (hmessage.last_append) (toList_report error)
  have hok : (⟨width, false⟩ : Console).printMarkup error.report =
      .ok ((⟨width, false⟩ : Console).printText text) := by rw [Console.printMarkup, htext]; rfl
  refine ⟨_, hok, ?_⟩
  rw [letters_of_printMarkup hwidth hmessage hplain hok]
  exact (List.suffix_append _ _).isInfix

end Message

theorem isReported_unreadableTimeout_iff {width : Nat} (hwidth : 2 ≤ width) (text : String) :
    IsReported ⟨width, false⟩ (.unreadableTimeout text) ↔
      IsPlain (unreadableTimeout text).message.toList := by
  have htext : (unreadableTimeout text).message.toList =
      timeoutFront ++ (Text.quoted text).toList := String.toList_append
  have hfront : IsPrinted timeoutFront := by decide
  have hmessage : IsSayable (unreadableTimeout text).message.toList := by
    rw [htext]
    refine ⟨Text.isPrinted_append_iff.mpr ⟨hfront, Text.isPrinted_quoted text⟩, ?_⟩
    have hne : (Text.quoted text).toList ≠ [] := by
      rw [Text.quoted, String.toList_ofList]
      exact List.cons_ne_nil _ _
    rw [List.getLast?_append_of_ne_nil _ hne]
    exact Text.getLast?_quoted text
  refine ⟨?_, isReported_of_isPlain hwidth hmessage⟩
  rintro ⟨printed, hok, hfound⟩
  by_contra hplain
  have hquoted : ¬IsPlain (Text.quoted text).toList := by
    rwa [htext, isNeutral_timeoutFront.isPlain_append_iff] at hplain
  -- Whatever is printed, no letter comes in, so the quotation has to be found in what is shown.
  have hletters := hfound.sublist.trans (Console.letters_printMarkup_sublist hok)
  rw [shown_report hmessage, htext, isNeutral_timeoutFront.shown_append] at hletters
  simp only [Text.letters_append] at hletters
  have hnowhere :
      ¬(letters timeoutFront).Sublist (letters reportFront ++ letters timeoutFront).dropLast := by
    decide
  have hmarks := markCount_le_of_sublist (sublist_of_append_sublist hnowhere hletters)
  rw [markCount_letters, markCount_letters] at hmarks
  exact absurd (markCount_shown_lt hquoted) (Nat.not_lt.mpr hmarks)

end ChoiceError

open CommandLine (Outcome)

/-- Settings are accepted, or what is wrong with them is printed and the run exits with code 1,
exactly if the message reads as itself when it is taken for markup.  A message that does not is
that of a timeout of the environment that is no number: part of the quoted text is lost then, or
nothing is printed and the run fails. -/
theorem Config.choose_reported (flags : Flags) (environment : Environment) (now : Int) :
    (∃ config, choose flags environment now = .ok config) ∨
    ∃ error, choose flags environment now = .error error ∧
      (∀ width, 2 ≤ width →
        (error.IsReported ⟨width, false⟩ ↔ IsPlain error.message.toList)) ∧
      (IsPlain error.message.toList → ∃ reports,
        Outcome.refused error.report = { ending := .exit 1, reports } ∧
          letters error.message.toList <:+: letters reports.toList) ∧
      (IsPlain error.message.toList ∨ flags.timeout = none ∧
        ∃ text, environment.get? timeoutVariable = some text ∧
          error = .unreadableTimeout text) := by
  cases hchoose : choose flags environment now with
  | ok config => exact Or.inl ⟨config, rfl⟩
  | error error =>
      have hkind := refusal_of_choose hchoose
      have hreported : ∀ width, 2 ≤ width →
          (error.IsReported ⟨width, false⟩ ↔ IsPlain error.message.toList) := by
        intro width hwidth
        obtain ⟨text, -, -, rfl⟩ | ⟨problems, -, hneutral, hprinted⟩ := hkind
        · exact ChoiceError.isReported_unreadableTimeout_iff hwidth text
        · have hlast : error.message.toList.getLast? ≠ some '\\' :=
            fun hlast => hneutral.backslash (List.mem_of_getLast? hlast)
          exact iff_of_true (ChoiceError.isReported_of_isPlain hwidth ⟨hprinted, hlast⟩
            hneutral.isPlain) hneutral.isPlain
      refine Or.inr ⟨error, rfl, hreported, fun hplain => ?_, ?_⟩
      · obtain ⟨reports, hok, hfound⟩ := (hreported 80 (by decide)).mpr hplain
        exact ⟨reports, by rw [Outcome.refused, CommandLine.console, hok], hfound⟩
      · obtain ⟨text, hflag, hvariable, hsame⟩ | ⟨problems, -, hneutral, -⟩ := hkind
        · exact Or.inr ⟨hflag, text, hvariable, hsame⟩
        · exact Or.inl hneutral.isPlain

theorem Config.choose_reported_word :
    choose {} [(timeoutVariable, "abc")] 0 = .error (.unreadableTimeout "abc") ∧
      IsPlain (ChoiceError.unreadableTimeout "abc").message.toList ∧
      ChoiceError.IsReported ⟨40, false⟩ (.unreadableTimeout "abc") := by
  have hchoose : choose {} [(timeoutVariable, "abc")] 0 = .error (.unreadableTimeout "abc") := by
    decide
  have hneutral : IsNeutral (ChoiceError.unreadableTimeout "abc").message.toList := by
    decide
  obtain ⟨config, hconfig⟩ | ⟨error, herror, hreported, -⟩ :=
    choose_reported {} [(timeoutVariable, "abc")] 0
  · exact absurd (hconfig.symm.trans hchoose) (by simp)
  · obtain rfl := Except.error.inj (herror.symm.trans hchoose)
    exact ⟨hchoose, hneutral.isPlain, (hreported 40 (by decide)).mpr hneutral.isPlain⟩

/-- A timeout that is written like the tag that ends the report closes it too early. -/
theorem Config.not_isReported_closingTag :
    choose {} [(timeoutVariable, "[/red]")] 0 = .error (.unreadableTimeout "[/red]") ∧
      Outcome.refused (ChoiceError.unreadableTimeout "[/red]").report =
        { ending := .markup (.notOpen "[/red]" 78) } ∧
      ¬ChoiceError.IsReported ⟨80, false⟩ (.unreadableTimeout "[/red]") := by
  have hmarkup : (⟨80, false⟩ : Console).printMarkup
      (ChoiceError.unreadableTimeout "[/red]").report = .error (.notOpen "[/red]" 78) := by
    decide
  refine ⟨by decide, ?_, ?_⟩
  · rw [Outcome.refused, CommandLine.console, hmarkup]
  · rintro ⟨printed, hok, -⟩
    exact absurd (hok.symm.trans hmarkup) (by simp)

end Parley
