import Parley.Proofs.Text.Measure
import Parley.Terminal.Markup

/-!
# Pictures of names

The picture of a name has no character that means something in markup, no blank and no control
that is dropped, and no joiner at its end.  This holds of every picture in the table.
-/

namespace Parley.Terminal.Markup

open Text (joiner)

/-- Whether a character means something in markup. -/
def isMark (c : Char) : Bool :=
  c == ':' || c == '[' || c == ']' || c == '\\'

/-- Whether a picture may have a character. -/
def isPictorial (c : Char) : Bool :=
  !isMark c && !Text.isBlank c && !Styled.isDropped c

/-- What pictures are like. -/
structure IsPicture (s : List Char) : Prop where
  pictorial : ∀ c ∈ s, isPictorial c = true
  closed : Text.IsClosed s

/-- The code points in pictures: most of them lie beyond the general punctuation, and none is
the ideographic space. -/
def isPictureCode (n : Nat) : Bool :=
  (0x2060 ≤ n && n != 0x3000) ||
    [0x23, 0x2A, 0x30, 0x31, 0x32, 0x33, 0x34, 0x35, 0x36, 0x37, 0x38, 0x39, 0xA9, 0xAE, 0x200D,
      0x203C, 0x2049].contains n

theorem isPictorial_of_le {c : Char} (hc : 0x2060 ≤ c.toNat) (hspace : c.toNat ≠ 0x3000) :
    isPictorial c = true := by
  have hne {d : Char} (hd : d.toNat < 0x2060) : c ≠ d := by
    rintro rfl
    omega
  have hmark : isMark c = false := by
    simp [isMark, hne (show ':'.toNat < 0x2060 by decide), hne (show '['.toNat < 0x2060 by decide),
      hne (show ']'.toNat < 0x2060 by decide), hne (show '\\'.toNat < 0x2060 by decide)]
  have hdropped : Styled.isDropped c = false := by
    simp [Styled.isDropped, hne (show '\x07'.toNat < 0x2060 by decide),
      hne (show '\x08'.toNat < 0x2060 by decide), hne (show '\x0b'.toNat < 0x2060 by decide),
      hne (show '\x0c'.toNat < 0x2060 by decide), hne (show '\r'.toNat < 0x2060 by decide)]
  have hblank : Text.isBlank c = false := by
    simp only [Text.isBlank, Bool.or_eq_false_iff, Bool.and_eq_false_iff, decide_eq_false_iff_not,
      beq_eq_false_iff_ne]
    omega
  rw [isPictorial, hmark, hdropped, hblank]
  rfl

theorem isPictorial_ofNat {n : Nat} (hn : isPictureCode n = true) :
    isPictorial (Char.ofNat n) = true := by
  obtain hhigh | hlow := Bool.or_eq_true_iff.mp hn
  · simp only [Bool.and_eq_true, decide_eq_true_eq, bne_iff_ne] at hhigh
    by_cases hvalid : n.isValidChar
    · have hcode : (Char.ofNat n).toNat = n := by
        rw [Char.ofNat, dif_pos hvalid]
        rfl
      exact isPictorial_of_le (hcode.symm ▸ hhigh.1) (hcode.symm ▸ hhigh.2)
    · rw [Char.ofNat, dif_neg hvalid]
      decide
  · have hall : ∀ code ∈ [0x23, 0x2A, 0x30, 0x31, 0x32, 0x33, 0x34, 0x35, 0x36, 0x37, 0x38, 0x39,
        0xA9, 0xAE, 0x200D, 0x203C, 0x2049], isPictorial (Char.ofNat code) = true := by decide
    exact hall n (List.contains_iff_mem.mp hlow)

theorem all_pictures : (pictures.all fun group => group.2.all fun entry =>
    entry.2.all isPictureCode && entry.2.getLast?.map Char.ofNat != some joiner) = true := by
  decide +kernel

theorem isPicture_of_picture? {name shown : List Char} (hpicture : picture? name = some shown) :
    IsPicture shown := by
  have hmem {α β : Type} [BEq α] [LawfulBEq α] {key : α} {value : β} {table : List (α × β)}
      (hvalue : table.lookup key = some value) : (key, value) ∈ table := by
    obtain ⟨before, after, rfl, -⟩ := List.lookup_eq_some_iff.mp hvalue
    exact List.mem_append_right before List.mem_cons_self
  obtain ⟨first, -, hfirst⟩ := Option.bind_eq_some_iff.mp hpicture
  obtain ⟨named, hnamed, hcodes⟩ := Option.bind_eq_some_iff.mp hfirst
  obtain ⟨codes, hfound, rfl⟩ := Option.map_eq_some_iff.mp hcodes
  have hgroup := List.all_eq_true.mp all_pictures _ (hmem hnamed)
  have hentry := List.all_eq_true.mp hgroup _ (hmem hfound)
  rw [Bool.and_eq_true, bne_iff_ne] at hentry
  obtain ⟨hcodes, hlast⟩ := hentry
  have hpictorial := List.all_eq_true.mp hcodes
  refine ⟨List.forall_mem_map.mpr fun n hn => isPictorial_ofNat (hpictorial n hn), ?_⟩
  rw [Text.IsClosed, List.getLast?_map]
  exact hlast

/-- The selectors of forms can stand in pictures as well. -/
theorem isPicture_of_namedPicture? {name shown : List Char}
    (hpicture : namedPicture? name = some shown) : IsPicture shown := by
  rw [namedPicture?] at hpicture
  split at hpicture
  case h_1 v hv =>
      obtain ⟨plain, hplain, rfl⟩ := Option.map_eq_some_iff.mp hpicture
      have hall : ∀ v ∈ variants, isPictorial v.2 = true ∧ v.2 ≠ joiner := by decide
      obtain ⟨hform, hother⟩ := hall v (List.mem_of_find?_eq_some hv)
      exact ⟨List.forall_mem_append.mpr ⟨(isPicture_of_picture? hplain).pictorial,
        List.forall_mem_singleton.mpr hform⟩, Text.isClosed_concat hother plain⟩
  case h_2 => exact isPicture_of_picture? hpicture

end Parley.Terminal.Markup
