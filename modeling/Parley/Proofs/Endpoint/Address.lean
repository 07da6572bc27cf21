import Mathlib.Data.List.TakeWhile
import Parley.Endpoint.Address
import Parley.Proofs.Text.Trimming

/-!
# Normal forms of server addresses

An accepted address becomes a scheme that the client speaks, the mark, and a host part that
ends in no slash.  Blanks around the address are removed first and slashes at its end last, so
a blank that stands before the slashes comes to light.  Without one the result is a normal
form: it ends in no blank, its host part is more than blanks and slashes, and it is its own
normal form.
-/

namespace Parley.Address

open Text (dropTailWhile isBlank)

/-! ## Schemes -/

/-- A letter and scheme characters. -/
def IsScheme (name : List Char) : Prop :=
  ∃ first rest, name = first :: rest ∧ first.isAlpha = true ∧ ∀ c ∈ rest, isSchemeChar c = true

theorem isSchemeChar_of_isAlpha {c : Char} (hc : c.isAlpha = true) : isSchemeChar c = true := by
  simp [isSchemeChar, hc]

theorem toNat_of_isAlpha {c : Char} (hc : c.isAlpha = true) :
    65 ≤ c.toNat ∧ c.toNat ≤ 90 ∨ 97 ≤ c.toNat ∧ c.toNat ≤ 122 := by
  obtain hupper | hlower := Bool.or_eq_true_iff.mp hc
  · obtain ⟨hlow, hhigh⟩ := of_decide_eq_true hupper
    exact Or.inl ⟨hlow, hhigh⟩
  · obtain ⟨hlow, hhigh⟩ := Bool.and_eq_true_iff.mp hlower
    exact Or.inr ⟨of_decide_eq_true hlow, of_decide_eq_true hhigh⟩

theorem isBlank_of_isAlpha {c : Char} (hc : c.isAlpha = true) : isBlank c = false := by
  have hcode := toNat_of_isAlpha hc
  simp only [isBlank, Bool.or_eq_false_iff, Bool.and_eq_false_iff, decide_eq_false_iff_not,
    beq_eq_false_iff_ne]
  omega

theorem IsScheme.notMem {name : List Char} (h : IsScheme name) {c : Char}
    (hc : isSchemeChar c = false) : c ∉ name := by
  obtain ⟨first, rest, rfl, hfirst, hrest⟩ := h
  intro hmem
  obtain rfl | hmem := List.mem_cons.mp hmem
  · exact absurd (isSchemeChar_of_isAlpha hfirst) (ne_true_of_eq_false hc)
  · exact absurd (hrest c hmem) (ne_true_of_eq_false hc)

/-- The mark ends a scheme, so a text starts with one scheme at most. -/
theorem scheme?_eq_some_iff {s name : List Char} :
    scheme? s = some name ↔ IsScheme name ∧ name ++ schemeMark <+: s := by
  cases s with
  | nil =>
      constructor
      · intro hsome
        cases hsome
      · rintro ⟨-, hprefix⟩
        exact absurd (List.prefix_nil.mp hprefix) (by simp [schemeMark])
  | cons first rest =>
      rw [scheme?, Text.drop_length_takeWhile, Option.ite_none_right_eq_some, Bool.and_eq_true,
        List.isPrefixOf_iff_prefix, Option.some_inj]
      constructor
      · rintro ⟨⟨hfirst, tail, hmark⟩, rfl⟩
        refine ⟨⟨first, _, rfl, hfirst, List.all_eq_true.mp List.all_takeWhile⟩, tail, ?_⟩
        rw [List.append_assoc, hmark, List.cons_append, List.takeWhile_append_dropWhile]
      · rintro ⟨⟨letter, others, rfl, hletter, hothers⟩, tail, happend⟩
        rw [List.cons_append, List.cons_append, List.append_assoc] at happend
        obtain ⟨rfl, rfl⟩ := List.cons.inj happend
        have hmark : schemeMark ++ tail = ':' :: '/' :: '/' :: tail := rfl
        have hcolon : ¬isSchemeChar ':' = true := by decide
        rw [List.takeWhile_append_of_pos hothers, List.dropWhile_append_of_pos hothers, hmark,
          List.takeWhile_cons_of_neg hcolon, List.dropWhile_cons_of_neg hcolon, List.append_nil]
        exact ⟨⟨hletter, tail, rfl⟩, rfl⟩

theorem scheme?_append {name : List Char} (h : IsScheme name) (tail : List Char) :
    scheme? (name ++ schemeMark ++ tail) = some name :=
  scheme?_eq_some_iff.mpr ⟨h, List.prefix_append _ tail⟩

theorem isScheme_defaultScheme : IsScheme defaultScheme :=
  ⟨'h', ['t', 't', 'p'], rfl, rfl, List.all_eq_true.mp rfl⟩

/-! ## Hosts -/

theorem afterMark_of_notMem {s : List Char} (hs : '/' ∉ s) : afterMark s = [] := by
  induction s with
  | nil => rfl
  | cons c rest ih =>
      have hmark : ¬schemeMark.isPrefixOf (c :: rest) = true := by
        rw [List.isPrefixOf_iff_prefix]
        rintro ⟨tail, htail⟩
        exact hs (htail ▸ by simp [schemeMark])
      rw [afterMark, if_neg hmark, ih fun hmem => hs (List.mem_cons_of_mem c hmem)]

theorem afterMark_append {front : List Char} (hfront : ':' ∉ front) (tail : List Char) :
    afterMark (front ++ schemeMark ++ tail) = tail := by
  induction front with
  | nil => rfl
  | cons c rest ih =>
      obtain ⟨hc, hrest⟩ := not_or.mp (mt List.mem_cons.mpr hfront)
      have hmark : ¬schemeMark.isPrefixOf (c :: (rest ++ schemeMark ++ tail)) = true := by
        simp [schemeMark, List.isPrefixOf, hc]
      rw [List.cons_append, List.cons_append, afterMark, if_neg hmark, ih hrest]

section Scheme

variable {scheme : List Char} (hscheme : IsScheme scheme)
include hscheme

/-- An address is finished if its host part is more than slashes. -/
theorem finish_append_eq_ok_iff {tail address : List Char} :
    finish (scheme ++ schemeMark ++ tail) = .ok address ↔
      dropSlashes tail ≠ [] ∧ address = scheme ++ schemeMark ++ dropSlashes tail := by
  have hcolon : ':' ∉ scheme := hscheme.notMem (by decide)
  have hslash : '/' ∉ scheme := hscheme.notMem (by decide)
  by_cases hempty : dropSlashes tail = []
  · have hbare : dropSlashes (scheme ++ schemeMark ++ tail) = scheme ++ [':'] := by
      rw [dropSlashes, Text.dropTailWhile_append_of_forall _
        (Text.dropTailWhile_eq_nil_iff.mp hempty)]
      exact Text.dropTailWhile_append_of_ne_nil scheme (List.cons_ne_nil ':' [])
    have hnone : afterMark (scheme ++ [':']) = [] := afterMark_of_notMem (by simp [hslash])
    rw [finish, hbare, hnone]
    simp [hempty]
  · have hkept : dropSlashes (scheme ++ schemeMark ++ tail) =
        scheme ++ schemeMark ++ dropSlashes tail :=
      Text.dropTailWhile_append_of_ne_nil _ hempty
    have hhost := afterMark_append hcolon (dropSlashes tail)
    rw [finish, hkept, hhost, if_neg (by simpa using hempty), Except.ok.injEq]
    simp [hempty, eq_comm]

end Scheme

/-! ## Accepted addresses -/

theorem normalizeChars_of_none {s : List Char} (hs : scheme? (Text.strip s) = none) :
    normalizeChars s = finish (defaultScheme ++ schemeMark ++ Text.strip s) := by
  simp only [normalizeChars, hs]

theorem normalizeChars_of_some {s scheme : List Char}
    (hs : scheme? (Text.strip s) = some scheme) :
    normalizeChars s =
      if isSupported scheme then finish (Text.strip s)
      else .error (.unsupportedScheme (String.ofList scheme)) := by
  simp only [normalizeChars, hs]

theorem normalize_eq_ok_iff {s address : String} :
    normalize s = .ok address ↔ normalizeChars s.toList = .ok address.toList := by
  rw [normalize]
  cases normalizeChars s.toList with
  | error error => simp [Except.map]
  | ok found =>
      rw [Except.map, Except.ok.injEq, Except.ok.injEq, ← String.toList_inj, String.toList_ofList]

/-- An accepted address has a scheme, its own or the one that addresses without one get, and
the rest of the stripped text without the slashes at its end. -/
theorem exists_of_normalizeChars_eq_ok {s address : List Char}
    (hs : normalizeChars s = .ok address) :
    ∃ scheme tail front, IsScheme scheme ∧ isSupported scheme = true ∧
      Text.strip s = front ++ tail ∧ dropSlashes tail ≠ [] ∧
      address = scheme ++ schemeMark ++ dropSlashes tail := by
  cases hscheme : scheme? (Text.strip s) with
  | none =>
      rw [normalizeChars_of_none hscheme, finish_append_eq_ok_iff isScheme_defaultScheme] at hs
      exact ⟨defaultScheme, _, [], isScheme_defaultScheme, by decide, rfl, hs⟩
  | some scheme =>
      obtain ⟨hname, tail, htail⟩ := scheme?_eq_some_iff.mp hscheme
      rw [normalizeChars_of_some hscheme] at hs
      split at hs
      case isTrue hsupported =>
          rw [← htail, finish_append_eq_ok_iff hname] at hs
          exact ⟨scheme, tail, scheme ++ schemeMark, hname, hsupported, htail.symm, hs⟩
      case isFalse => cases hs

/-! ## Blanks before slashes -/

/-- Whether a text ends in slashes with a blank before them, apart from the blanks around it. -/
def HidesBlank (s : List Char) : Prop :=
  ∃ front c k, Text.strip s = front ++ c :: List.replicate (k + 1) '/' ∧ isBlank c = true

theorem hidesBlank_iff {s : List Char} :
    HidesBlank s ↔ ∃ c ∈ (dropSlashes (Text.strip s)).getLast?, isBlank c = true := by
  constructor
  · rintro ⟨front, c, k, hs, hc⟩
    have hslashes : ∀ d ∈ List.replicate (k + 1) '/', (d == '/') = true := by simp
    have hkept : ∀ d ∈ (front ++ [c]).getLast?, (d == '/') = false := by
      intro d hd
      rw [List.getLast?_concat, Option.mem_some_iff] at hd
      apply beq_false_of_ne
      rintro rfl
      rw [hd] at hc
      exact absurd hc (by decide)
    have hdrop : dropSlashes (Text.strip s) = front ++ [c] := by
      rw [hs, List.append_cons, dropSlashes, Text.dropTailWhile_append_of_forall _ hslashes,
        Text.dropTailWhile_eq_self_iff.mpr hkept]
    exact ⟨c, by rw [hdrop, List.getLast?_concat, Option.mem_some_iff], hc⟩
  · rintro ⟨c, hlast, hc⟩
    obtain ⟨slashes, hsplit, hslashes, -⟩ :=
      Text.exists_dropTailWhile (· == '/') (Text.strip s)
    obtain ⟨front, hfront⟩ := List.getLast?_eq_some_iff.mp hlast
    have hreplicate : slashes = List.replicate slashes.length '/' :=
      List.eq_replicate_of_mem fun d hd => by simpa using hslashes d hd
    cases hlength : slashes.length with
    | zero =>
        -- the stripped text ends in no blank
        rw [List.length_eq_zero_iff.mp hlength, List.append_nil] at hsplit
        have hsolid := Text.isBlank_last_strip s c (by rw [hsplit]; exact hlast)
        exact absurd hc (ne_true_of_eq_false hsolid)
    | succ k =>
        refine ⟨front, c, k, ?_, hc⟩
        rw [hlength] at hreplicate
        rw [hsplit, hreplicate]
        exact (congrArg (· ++ _) hfront).trans (List.append_cons front c _).symm

/-! ## Normal forms -/

/-- An address in normal form. -/
structure IsNormal (address : String) : Prop where
  host : ∃ scheme host, address.toList = scheme ++ schemeMark ++ host ∧
    isSupported scheme = true ∧ ∃ c ∈ host, isBlank c = false ∧ c ≠ '/'
  last : ∀ c ∈ address.toList.getLast?, isBlank c = false ∧ c ≠ '/'
  fixed : normalize address = .ok address

section Fixed

variable {scheme host : List Char} (hscheme : IsScheme scheme)
include hscheme

theorem strip_append (host : List Char) :
    Text.strip (scheme ++ schemeMark ++ host) =
      scheme ++ schemeMark ++ dropTailWhile isBlank host := by
  obtain ⟨first, rest, rfl, hfirst, -⟩ := hscheme
  have hletter : isBlank first = false := isBlank_of_isAlpha hfirst
  have hfront : ∀ c ∈ (first :: rest ++ schemeMark).getLast?, isBlank c = false := by
    intro c hc
    have hmark : schemeMark ≠ [] := List.cons_ne_nil _ _
    rw [List.getLast?_append_of_ne_nil _ hmark] at hc
    cases hc
    rfl
  rw [Text.strip, List.cons_append, List.cons_append,
    List.dropWhile_cons_of_neg (ne_true_of_eq_false hletter)]
  exact Text.dropTailWhile_append_of_last hfront host

/-- An address without slashes at its end is kept if it ends in no blank. -/
theorem normalizeChars_append_eq_self_iff (hsupported : isSupported scheme = true)
    (hne : host ≠ []) (hslashes : dropSlashes host = host) :
    normalizeChars (scheme ++ schemeMark ++ host) = .ok (scheme ++ schemeMark ++ host) ↔
      ∀ c ∈ host.getLast?, isBlank c = false := by
  have hstrip := strip_append hscheme host
  have hname : scheme? (Text.strip (scheme ++ schemeMark ++ host)) = some scheme := by
    rw [hstrip, scheme?_append hscheme]
  rw [normalizeChars_of_some hname, if_pos hsupported, hstrip, finish_append_eq_ok_iff hscheme,
    List.append_cancel_left_eq, ← Text.dropTailWhile_eq_self_iff]
  constructor
  · rintro ⟨-, hkept⟩
    -- what both cuts leave is all of the host part, so neither took anything away
    have hslashCut : dropSlashes (dropTailWhile isBlank host) <+: dropTailWhile isBlank host :=
      Text.dropTailWhile_prefix _ _
    have hblankCut := Text.dropTailWhile_prefix isBlank host
    rw [← hkept] at hslashCut
    exact hblankCut.sublist.antisymm hslashCut.sublist
  · intro hkept
    rw [hkept, hslashes]
    exact ⟨hne, rfl⟩

end Fixed

/-- What an accepted address becomes: it is in normal form exactly if no blank stands before the
slashes at its end.  In any case it has a scheme that the client speaks, a host part, and no
slash at its end; a blank before the slashes becomes its end, and then it is not its own
normal form. -/
theorem normalize_isNormal_iff {s address : String} (hs : normalize s = .ok address) :
    (IsNormal address ↔ ¬HidesBlank s.toList) ∧
    (∃ scheme host, address.toList = scheme ++ schemeMark ++ host ∧
      isSupported scheme = true ∧ host ≠ [] ∧ address.toList.getLast? ≠ some '/') ∧
    (HidesBlank s.toList →
      (∃ c ∈ address.toList.getLast?, isBlank c = true) ∧ normalize address ≠ .ok address) := by
  obtain ⟨scheme, tail, front, hscheme, hsupported, hstrip, hne, haddress⟩ :=
    exists_of_normalizeChars_eq_ok (normalize_eq_ok_iff.mp hs)
  have hlast : address.toList.getLast? = (dropSlashes tail).getLast? := by
    rw [haddress, List.getLast?_append_of_ne_nil _ hne]
  have hhides : HidesBlank s.toList ↔ ∃ c ∈ (dropSlashes tail).getLast?, isBlank c = true := by
    have hdrop : dropSlashes (Text.strip s.toList) = front ++ dropSlashes tail := by
      rw [hstrip]
      exact Text.dropTailWhile_append_of_ne_nil front hne
    rw [hidesBlank_iff, hdrop, List.getLast?_append_of_ne_nil _ hne]
  have hslashes : dropSlashes (dropSlashes tail) = dropSlashes tail :=
    Text.dropTailWhile_dropTailWhile _ tail
  have hnoSlash : ∀ c ∈ (dropSlashes tail).getLast?, (c == '/') = false :=
    Text.dropTailWhile_eq_self_iff.mp hslashes
  have hfixed : normalize address = .ok address ↔ ¬HidesBlank s.toList := by
    rw [normalize_eq_ok_iff, haddress,
      normalizeChars_append_eq_self_iff hscheme hsupported hne hslashes, hhides]
    simp
  refine ⟨⟨fun h => hfixed.mp h.fixed, ?_⟩, ?_, ?_⟩
  · intro hplain
    have hsolid : ∀ c ∈ (dropSlashes tail).getLast?, isBlank c = false ∧ c ≠ '/' := by
      intro c hc
      refine ⟨eq_false_of_ne_true fun hblank => ?_, by simpa using hnoSlash c hc⟩
      exact hplain (hhides.mpr ⟨c, hc, hblank⟩)
    have hmem := List.getLast_mem_getLast? hne
    exact ⟨⟨scheme, _, haddress, hsupported, _, List.getLast_mem hne, hsolid _ hmem⟩,
      by rwa [hlast], hfixed.mpr hplain⟩
  · refine ⟨scheme, _, haddress, hsupported, hne, ?_⟩
    intro hslash
    rw [hlast] at hslash
    exact absurd (hnoSlash '/' hslash) (by decide)
  · intro hblank
    exact ⟨by rw [hlast]; exact hhides.mp hblank, fun hself => hfixed.mp hself hblank⟩

theorem normalize_isNormal_iff_upperCase :
    normalize " HTTP://a b// " = .ok "HTTP://a b" ∧ IsNormal "HTTP://a b" := by
  have haddress : normalize " HTTP://a b// " = .ok "HTTP://a b" := by decide +kernel
  have hself : normalize "HTTP://a b" = .ok "HTTP://a b" := by decide +kernel
  obtain ⟨hnormal, -, hhides⟩ := normalize_isNormal_iff haddress
  exact ⟨haddress, hnormal.mpr fun hblank => (hhides hblank).2 hself⟩

/-- A blank before a slash becomes the end of the address, or all of its host part. -/
theorem normalize_hiddenBlank :
    normalize "http://a /" = .ok "http://a " ∧ normalize "http://a " = .ok "http://a" ∧
      normalize "http:// /" = .ok "http:// " ∧ normalize "http:// " = .error .noHost ∧
      ¬IsNormal "http://a " ∧ ¬IsNormal "http:// " := by
  have hblank : isBlank ' ' = true := by decide
  refine ⟨by decide +kernel, by decide +kernel, by decide +kernel, by decide +kernel, ?_, ?_⟩
  · intro h
    exact absurd (h.last ' ' rfl).1 (ne_false_of_eq_true hblank)
  · intro h
    exact absurd (h.last ' ' rfl).1 (ne_false_of_eq_true hblank)

end Parley.Address
