import Mathlib
import TunerRelay.Text.Numeral

/-!
# Numerals

Which texts spell an integer, and that just these are read: a reader for one width accepts the
spellings of the integers in its range, and reads each as the integer that it spells. The printed
form of a number is among its spellings.
-/

namespace TunerRelay.Text

/-- One or more decimal digits, with an optional plus before them. A minus may stand there instead
where numbers are signed. -/
inductive Spells (signed : Bool) : List Char → Int → Prop where
  | bare {digits : List Char} (hsome : digits ≠ []) (hdigits : ∀ c ∈ digits, c.isDigit = true) :
    Spells signed digits (Nat.ofDigitChars 10 digits 0)
  | plus {digits : List Char} (hsome : digits ≠ []) (hdigits : ∀ c ∈ digits, c.isDigit = true) :
    Spells signed ('+' :: digits) (Nat.ofDigitChars 10 digits 0)
  | minus {digits : List Char} (hsigned : signed = true) (hsome : digits ≠ [])
    (hdigits : ∀ c ∈ digits, c.isDigit = true) :
    Spells signed ('-' :: digits) (-(Nat.ofDigitChars 10 digits 0 : Nat))

theorem natural?_eq_some_iff {text : List Char} {n : Nat} :
    natural? text = some n ↔
      text ≠ [] ∧ (∀ c ∈ text, c.isDigit = true) ∧ n = Nat.ofDigitChars 10 text 0 := by
  unfold natural?
  split
  · rename_i hdigits
    rw [Option.some.injEq, eq_comm]
    exact ⟨fun h => ⟨hdigits.1, List.all_eq_true.mp hdigits.2, h⟩, fun h => h.2.2⟩
  · rename_i hdigits
    exact iff_of_false (Option.some_ne_none n).symm
      fun h => hdigits ⟨h.1, List.all_eq_true.mpr h.2.1⟩

/-! ### Spellings by their sign -/

section Signs

variable {signed : Bool} {text : List Char} {number : Int}

theorem spells_plus_iff :
    Spells signed ('+' :: text) number ↔ ∃ n, natural? text = some n ∧ number = (n : Int) := by
  constructor
  · intro hspells
    cases hspells with
    | bare hsome hdigits => exact absurd (hdigits '+' List.mem_cons_self) (by decide)
    | plus hsome hdigits => exact ⟨_, natural?_eq_some_iff.mpr ⟨hsome, hdigits, rfl⟩, rfl⟩
  · rintro ⟨n, hn, rfl⟩
    obtain ⟨hsome, hdigits, rfl⟩ := natural?_eq_some_iff.mp hn
    exact .plus hsome hdigits

theorem spells_minus_iff :
    Spells signed ('-' :: text) number ↔
      signed = true ∧ ∃ n, natural? text = some n ∧ number = -(n : Int) := by
  constructor
  · intro hspells
    cases hspells with
    | bare hsome hdigits => exact absurd (hdigits '-' List.mem_cons_self) (by decide)
    | minus hsigned hsome hdigits =>
        exact ⟨hsigned, _, natural?_eq_some_iff.mpr ⟨hsome, hdigits, rfl⟩, rfl⟩
  · rintro ⟨hsigned, n, hn, rfl⟩
    obtain ⟨hsome, hdigits, rfl⟩ := natural?_eq_some_iff.mp hn
    exact .minus hsigned hsome hdigits

theorem spells_bare_iff (hplus : ∀ rest, text ≠ '+' :: rest) (hminus : ∀ rest, text ≠ '-' :: rest) :
    Spells signed text number ↔ ∃ n, natural? text = some n ∧ number = (n : Int) := by
  constructor
  · intro hspells
    cases hspells with
    | bare hsome hdigits => exact ⟨_, natural?_eq_some_iff.mpr ⟨hsome, hdigits, rfl⟩, rfl⟩
    | plus hsome hdigits => exact absurd rfl (hplus _)
    | minus hsigned hsome hdigits => exact absurd rfl (hminus _)
  · rintro ⟨n, hn, rfl⟩
    obtain ⟨hsome, hdigits, rfl⟩ := natural?_eq_some_iff.mp hn
    exact .bare hsome hdigits

end Signs

/-! ### Readers -/

/-- The reader accepts just the spellings of the integers between two bounds, and gives for each the
value that stands for it. -/
structure Reads {α : Type} (signed : Bool) (low high : Int) (read? : List Char → Option α)
    (value : α → Int) : Prop where
  eq_some_iff : ∀ text result, read? text = some result ↔ Spells signed text (value result)
  bounded : ∀ result, low ≤ value result ∧ value result ≤ high
  onto : ∀ number, low ≤ number → number ≤ high → ∃ result, value result = number

theorem Reads.exists_iff {α : Type} {signed : Bool} {low high : Int}
    {read? : List Char → Option α} {value : α → Int} (hreads : Reads signed low high read? value)
    (text : List Char) :
    (∃ result, read? text = some result) ↔
      ∃ number, Spells signed text number ∧ low ≤ number ∧ number ≤ high := by
  constructor
  · rintro ⟨result, hread⟩
    exact ⟨value result, (hreads.eq_some_iff text result).mp hread, hreads.bounded result⟩
  · rintro ⟨number, hspells, hlow, hhigh⟩
    obtain ⟨result, rfl⟩ := hreads.onto number hlow hhigh
    exact ⟨result, (hreads.eq_some_iff text result).mpr hspells⟩

theorem unsigned?_eq_some_iff {bits : Nat} {text : List Char} {n : Nat} :
    unsigned? bits text = some n ↔ Spells false text n ∧ n < 2 ^ bits := by
  have hread : ∀ digits : List Char,
      (natural? digits).filter (· < Nat.pow 2 bits) = some n ↔
        (∃ m, natural? digits = some m ∧ (n : Int) = (m : Int)) ∧ n < 2 ^ bits := by
    intro digits
    rw [Option.filter_eq_some_iff, decide_eq_true_eq]
    refine and_congr_left fun _ => ⟨fun hn => ⟨n, hn, rfl⟩, ?_⟩
    rintro ⟨m, hm, hcast⟩
    rw [hm, Int.ofNat_inj.mp hcast]
  unfold unsigned?
  dsimp only
  rw [hread]
  split
  · rw [spells_plus_iff]
  · rename_i hplus
    by_cases hminus : ∃ rest, text = '-' :: rest
    · obtain ⟨rest, rfl⟩ := hminus
      refine iff_of_false ?_ ?_
      · rintro ⟨⟨m, hm, -⟩, -⟩
        exact absurd ((natural?_eq_some_iff.mp hm).2.1 '-' List.mem_cons_self) (by decide)
      · rw [spells_minus_iff]
        simp
    · rw [spells_bare_iff (fun rest heq => hplus rest heq) fun rest heq => hminus ⟨rest, heq⟩]

section Unsigned

variable {α : Type} {bits : Nat} {ofNat : Nat → α} {toNat : α → Nat}

theorem reads_unsigned (hlt : ∀ result, toNat result < 2 ^ bits)
    (htoNat : ∀ n < 2 ^ bits, toNat (ofNat n) = n) (hofNat : ∀ result, ofNat (toNat result) = result) :
    Reads false 0 (2 ^ bits - 1) (fun text => (unsigned? bits text).map ofNat)
      fun result => (toNat result : Int) where
  eq_some_iff text result := by
    rw [Option.map_eq_some_iff]
    constructor
    · rintro ⟨n, hread, rfl⟩
      obtain ⟨hspells, hbound⟩ := unsigned?_eq_some_iff.mp hread
      rw [htoNat n hbound]
      exact hspells
    · intro hspells
      exact ⟨toNat result, unsigned?_eq_some_iff.mpr ⟨hspells, hlt result⟩, hofNat result⟩
  bounded result := by
    have hbound : (toNat result : Int) < 2 ^ bits := by exact_mod_cast hlt result
    exact ⟨Int.natCast_nonneg _, Int.le_sub_one_of_lt hbound⟩
  onto number hlow hhigh := by
    obtain ⟨n, rfl⟩ := Int.eq_ofNat_of_zero_le hlow
    have hbound : n < 2 ^ bits := by exact_mod_cast Int.lt_of_le_sub_one hhigh
    exact ⟨ofNat n, by rw [htoNat n hbound]⟩

end Unsigned

theorem reads_uint16 :
    Reads false 0 (2 ^ 16 - 1) uint16? fun result => (result.toNat : Int) :=
  reads_unsigned UInt16.toNat_lt (fun _ hn => UInt16.toNat_ofNat_of_lt' hn)
    fun _ => UInt16.ofNat_toNat

theorem reads_uint64 :
    Reads false 0 (2 ^ 64 - 1) uint64? fun result => (result.toNat : Int) :=
  reads_unsigned UInt64.toNat_lt (fun _ hn => UInt64.toNat_ofNat_of_lt' hn)
    fun _ => UInt64.ofNat_toNat

theorem reads_int32 : Reads true (-2 ^ 31) (2 ^ 31 - 1) int32? Int32.toInt where
  eq_some_iff text result := by
    have hfits : ∀ value? : Option Int,
        (value?.filter fun n => Int32.minValue.toInt ≤ n ∧ n ≤ Int32.maxValue.toInt).map Int32.ofInt =
          some result ↔ value? = some result.toInt := by
      intro value?
      rw [Option.map_eq_some_iff]
      constructor
      · rintro ⟨number, hread, rfl⟩
        obtain ⟨hread, hbounds⟩ := Option.filter_eq_some_iff.mp hread
        obtain ⟨hlow, hhigh⟩ := of_decide_eq_true hbounds
        rw [Int32.toInt_ofInt_of_le hlow (Int.lt_add_one_of_le hhigh)]
        exact hread
      · intro hread
        refine ⟨result.toInt, Option.filter_eq_some_iff.mpr ⟨hread, ?_⟩, Int32.ofInt_toInt result⟩
        exact decide_eq_true ⟨Int32.minValue_le_toInt result, Int32.toInt_le result⟩
    unfold int32?
    dsimp only
    rw [hfits]
    split
    · rename_i rest
      rw [spells_minus_iff]
      cases natural? rest <;> simp [eq_comm]
    · rename_i rest
      rw [spells_plus_iff]
      cases natural? rest <;> simp [eq_comm]
    · rename_i hminus hplus
      rw [spells_bare_iff (fun rest heq => hplus rest heq) fun rest heq => hminus rest heq]
      cases natural? text <;> simp [eq_comm]
  bounded result := ⟨Int32.le_toInt result, Int.le_sub_one_of_lt (Int32.toInt_lt result)⟩
  onto number hlow hhigh :=
    ⟨.ofInt number, Int32.toInt_ofInt_of_le hlow (Int.lt_of_le_sub_one hhigh)⟩

/-! ### Printed numbers -/

theorem isDigit_of_mem_toString {n : Nat} {c : Char} (hc : c ∈ (toString n).toList) :
    c.isDigit = true := by
  rw [Nat.toString_eq_ofList_toDigits, String.toList_ofList] at hc
  exact Nat.isDigit_of_mem_toDigits (by decide) (by decide) hc

theorem toString_nat_ne_nil (n : Nat) : (toString n).toList ≠ [] := by
  rw [Nat.toString_eq_ofList_toDigits, String.toList_ofList]
  exact Nat.toDigits_ne_nil

theorem spells_toString_nat (signed : Bool) (n : Nat) : Spells signed (toString n).toList n := by
  have hvalue : Nat.ofDigitChars 10 (toString n).toList 0 = n := by
    rw [Nat.toString_eq_ofList_toDigits, String.toList_ofList, Nat.ofDigitChars_ten_toDigits]
  have hspells : Spells signed (toString n).toList _ :=
    .bare (toString_nat_ne_nil n) fun c hc => isDigit_of_mem_toString hc
  rwa [hvalue] at hspells

theorem toList_toString_negSucc (n : Nat) :
    (toString (Int.negSucc n)).toList = '-' :: (toString (n + 1)).toList := by
  simp [toString, Int.repr, String.toList_append]

theorem spells_toString_int (number : Int) : Spells true (toString number).toList number := by
  cases number with
  | ofNat n => exact spells_toString_nat true n
  | negSucc n =>
      rw [toList_toString_negSucc, spells_minus_iff]
      refine ⟨rfl, n + 1, natural?_eq_some_iff.mpr ⟨toString_nat_ne_nil _, ?_, ?_⟩, rfl⟩
      · exact fun c hc => isDigit_of_mem_toString hc
      · rw [Nat.toString_eq_ofList_toDigits, String.toList_ofList, Nat.ofDigitChars_ten_toDigits]

end TunerRelay.Text
