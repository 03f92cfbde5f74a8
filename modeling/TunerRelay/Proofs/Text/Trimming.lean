import Mathlib
import TunerRelay.Text.Blank

/-!
# Trimmed texts

Trimming takes all blanks off both ends of a text, and nothing else: what is left is the one text
that neither begins nor ends with a blank and is surrounded by blanks alone.
-/

namespace TunerRelay.Text

/-- Neither the first nor the last character is a blank. -/
def IsTrimmed (text : List Char) : Prop :=
  (∀ c ∈ text.head?, isBlank c = false) ∧ ∀ c ∈ text.getLast?, isBlank c = false

/-- What is left of a text without the blanks around it. -/
def Trims (text value : List Char) : Prop :=
  ∃ front back, text = front ++ value ++ back ∧ (∀ c ∈ front, isBlank c = true) ∧
    (∀ c ∈ back, isBlank c = true) ∧ IsTrimmed value

theorem trim_eq_rdropWhile (text : List Char) :
    trim text = (text.dropWhile isBlank).rdropWhile isBlank := rfl

theorem length_trim_le (text : List Char) : (trim text).length ≤ text.length :=
  ((List.rdropWhile_prefix isBlank _).length_le).trans (List.dropWhile_suffix isBlank).length_le

theorem dropWhile_eq_self_iff_head? {text : List Char} :
    text.dropWhile isBlank = text ↔ ∀ c ∈ text.head?, isBlank c = false := by
  cases text with
  | nil => simp
  | cons c rest =>
      rw [List.dropWhile_eq_self_iff]
      simp

theorem rdropWhile_eq_self_iff_getLast? {text : List Char} :
    text.rdropWhile isBlank = text ↔ ∀ c ∈ text.getLast?, isBlank c = false := by
  rw [List.rdropWhile, List.reverse_eq_iff, dropWhile_eq_self_iff_head?, List.head?_reverse]

theorem trim_eq_self_iff {text : List Char} : trim text = text ↔ IsTrimmed text := by
  unfold IsTrimmed
  rw [trim_eq_rdropWhile, ← dropWhile_eq_self_iff_head?, ← rdropWhile_eq_self_iff_getLast?]
  constructor
  · intro hsame
    have hdrop : text.dropWhile isBlank = text := by
      refine (List.dropWhile_suffix isBlank).eq_of_length_le ?_
      have hle := (List.rdropWhile_prefix isBlank (text.dropWhile isBlank)).length_le
      rwa [hsame] at hle
    rw [hdrop] at hsame
    exact ⟨hdrop, hsame⟩
  · rintro ⟨hdrop, hrdrop⟩
    rw [hdrop, hrdrop]

/-- A text that does not end with a blank is trimmed at its front alone. -/
theorem trim_suffix {text : List Char} (hlast : ∀ c ∈ text.getLast?, isBlank c = false) :
    trim text <:+ text := by
  have hsuffix := List.dropWhile_suffix (l := text) isBlank
  have hkept : (text.dropWhile isBlank).rdropWhile isBlank = text.dropWhile isBlank := by
    rw [rdropWhile_eq_self_iff_getLast?]
    intro c hc
    obtain ⟨front, hfront⟩ := hsuffix
    refine hlast c ?_
    rw [← hfront, List.getLast?_append_of_ne_nil _ (by rintro habsurd; simp [habsurd] at hc)]
    exact hc
  rw [trim_eq_rdropWhile, hkept]
  exact hsuffix

theorem isTrimmed_trim (text : List Char) : IsTrimmed (trim text) := by
  have hhead : ∀ c ∈ (text.dropWhile isBlank).head?, isBlank c = false :=
    dropWhile_eq_self_iff_head?.mp (List.dropWhile_idempotent isBlank text)
  refine ⟨?_, rdropWhile_eq_self_iff_getLast?.mp (List.rdropWhile_idempotent isBlank _)⟩
  intro c hc
  obtain ⟨back, hback⟩ := List.rdropWhile_prefix isBlank (text.dropWhile isBlank)
  refine hhead c ?_
  rw [← hback, List.head?_append]
  simp [show (trim text).head? = some c from hc, ← trim_eq_rdropWhile]

theorem trims_trim (text : List Char) : Trims text (trim text) := by
  have hfront := List.takeWhile_append_dropWhile (p := isBlank) (l := text)
  have hback := List.rdropWhile_append_rtakeWhile (p := isBlank) (l := text.dropWhile isBlank)
  refine ⟨text.takeWhile isBlank, (text.dropWhile isBlank).rtakeWhile isBlank, ?_, ?_, ?_,
    isTrimmed_trim text⟩
  · rw [trim_eq_rdropWhile, List.append_assoc, hback, hfront]
  · exact fun c hc => List.mem_takeWhile_imp hc
  · exact fun c hc => List.mem_rtakeWhile_imp hc

theorem trims_iff {text value : List Char} : Trims text value ↔ value = trim text := by
  constructor
  · rintro ⟨front, back, rfl, hfront, hback, htrimmed⟩
    rw [trim_eq_rdropWhile, List.append_assoc, List.dropWhile_append_of_pos hfront]
    cases value with
    | nil =>
        -- all blanks, which the front takes
        rw [List.nil_append, List.dropWhile_eq_nil_iff.mpr hback]
        rfl
    | cons c rest =>
        have hhead : (c :: rest ++ back).dropWhile isBlank = c :: rest ++ back :=
          dropWhile_eq_self_iff_head?.mpr fun other hother => htrimmed.1 other hother
        have hlast := rdropWhile_eq_self_iff_getLast?.mpr htrimmed.2
        rw [hhead, List.rdropWhile, List.reverse_append,
          List.dropWhile_append_of_pos fun c hc => hback c (List.mem_reverse.mp hc)]
        exact hlast.symm
  · rintro rfl
    exact trims_trim text

theorem isBlank_of_isDigit {c : Char} (hdigit : c.isDigit = true) : isBlank c = false := by
  obtain ⟨hlow, hhigh⟩ : 48 ≤ c.toNat ∧ c.toNat ≤ 57 := Char.isDigit_iff_toNat.mp hdigit
  simp only [isBlank, blankRanges, List.any_cons, List.any_nil, Bool.or_false, Bool.or_eq_false_iff,
    Bool.and_eq_false_iff, decide_eq_false_iff_not]
  omega

end TunerRelay.Text
