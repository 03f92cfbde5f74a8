import Mathlib
import TunerRelay.Tuner.Gain

/-!
# Positions by percentage

A percentage takes its hundredths of the table, rounded down and kept inside the table. The product of
the percentage and the length is taken in 64 bits, so this is right as long as the product fits. That
it fits for every percentage is a matter of the table's length: up to `2 ^ 32 + 1` entries it does,
while a longer table has a percentage whose position comes out too low.
-/

namespace TunerRelay.Tuner

/-- Hundredths of a table with this many entries, rounded down and kept inside the table. -/
def hundredths (percent count : Nat) : Nat := min (percent * count / 100) (count - 1)

/-- The percentage takes the position that it stands for. -/
def IsExact (percent : UInt32) (count : UInt64) : Prop :=
  (gainIndex? percent count).map UInt64.toNat =
    if count = 0 then none else some (hundredths percent.toNat count.toNat)

/-- Whole hundreds in what is left of the product in 64 bits. -/
def wrappedHundreds (percent count : Nat) : Nat := percent * count % 2 ^ 64 / 100

/-- The position that a percentage takes in a table with this many entries. -/
def takenPosition (percent count : Nat) : Nat := min (wrappedHundreds percent count) (count - 1)

theorem takenPosition_lt (percent : Nat) {count : Nat} (hcount : 0 < count) :
    takenPosition percent count < count := by
  unfold takenPosition
  omega

theorem toNat_pos_iff {count : UInt64} : 0 < count.toNat ↔ count ≠ 0 := by
  rw [Nat.pos_iff_ne_zero, ne_eq, ne_eq, ← UInt64.toNat_inj]
  rfl

/-! ### The position that is taken -/

theorem gainIndex?_eq_none_iff (percent : UInt32) (count : UInt64) :
    gainIndex? percent count = none ↔ count = 0 := by
  unfold gainIndex?
  split <;> simp_all

theorem toNat_clamped (percent : UInt32) {count : UInt64} (hcount : count ≠ 0) :
    (min (percent.toUInt64 * count / 100) (count - 1)).toNat =
      takenPosition percent.toNat count.toNat := by
  have hone : (1 : UInt64) ≤ count := UInt64.le_iff_toNat_le.mpr (toNat_pos_iff.mpr hcount)
  have hquotient : (percent.toUInt64 * count / 100).toNat =
      wrappedHundreds percent.toNat count.toNat := by
    simp [UInt64.toNat_div, UInt64.toNat_mul, wrappedHundreds]
  have hlast : (count - 1).toNat = count.toNat - 1 := UInt64.toNat_sub_of_le _ _ hone
  rw [UInt64.toNat_min, hquotient, hlast, takenPosition]

theorem gainIndex?_eq_some_iff {percent : UInt32} {count index : UInt64} :
    gainIndex? percent count = some index ↔
      count ≠ 0 ∧ index.toNat = takenPosition percent.toNat count.toNat := by
  unfold gainIndex?
  by_cases hcount : count = 0
  · simp [hcount]
  · rw [if_neg hcount, Option.some_inj, ← toNat_clamped percent hcount, UInt64.toNat_inj, eq_comm]
    exact (and_iff_right hcount).symm

theorem lt_of_gainIndex? {percent : UInt32} {count index : UInt64}
    (hindex : gainIndex? percent count = some index) : index < count := by
  obtain ⟨hcount, hvalue⟩ := gainIndex?_eq_some_iff.mp hindex
  rw [UInt64.lt_iff_toNat_lt, hvalue]
  exact takenPosition_lt percent.toNat (toNat_pos_iff.mpr hcount)

/-! ### Where it is the right one -/

theorem isExact_zero (percent : UInt32) : IsExact percent 0 := rfl

theorem isExact_iff_eq {percent : UInt32} {count : UInt64} (hcount : count ≠ 0) :
    IsExact percent count ↔
      takenPosition percent.toNat count.toNat = hundredths percent.toNat count.toNat := by
  unfold IsExact gainIndex?
  rw [if_neg hcount, if_neg hcount, Option.map_some, toNat_clamped percent hcount, Option.some_inj]

/-- A product that does not fit loses more than a hundred. -/
theorem wrappedHundreds_lt {percent count : Nat} (hover : 2 ^ 64 ≤ percent * count) :
    wrappedHundreds percent count < percent * count / 100 := by
  unfold wrappedHundreds
  omega

theorem isExact_iff {percent : UInt32} {count : UInt64} :
    IsExact percent count ↔
      percent.toNat * count.toNat < 2 ^ 64 ∨
        count.toNat - 1 ≤ wrappedHundreds percent.toNat count.toNat := by
  by_cases hcount : count = 0
  · subst hcount
    exact iff_of_true (isExact_zero percent) (.inl (by simp))
  · rw [isExact_iff_eq hcount, takenPosition, hundredths]
    by_cases hfits : percent.toNat * count.toNat < 2 ^ 64
    · rw [wrappedHundreds, Nat.mod_eq_of_lt hfits]
      exact iff_of_true rfl (.inl hfits)
    · have hlost := wrappedHundreds_lt (Nat.le_of_not_lt hfits)
      omega

/-- A table longer than that has a percentage whose product barely does not fit. -/
theorem exists_not_isExact {count : UInt64} (hlong : 2 ^ 32 + 1 < count.toNat) :
    ∃ percent, ¬ IsExact percent count := by
  have hcount : count.toNat < 2 ^ 64 := count.toNat_lt
  -- the least percentage whose product does not fit
  obtain ⟨least, hover, hbarely⟩ :
      ∃ least, 2 ^ 64 ≤ least * count.toNat ∧ least * count.toNat < 2 ^ 64 + count.toNat := by
    refine ⟨(2 ^ 64 + count.toNat - 1) / count.toNat, ?_, ?_⟩
    · have hdivided := Nat.div_add_mod (2 ^ 64 + count.toNat - 1) count.toNat
      have hmod := Nat.mod_lt (2 ^ 64 + count.toNat - 1) (show 0 < count.toNat by omega)
      rw [Nat.mul_comm] at hdivided
      omega
    · have hle := Nat.div_mul_le_self (2 ^ 64 + count.toNat - 1) count.toNat
      omega
  have hword : least < 2 ^ 32 := by
    by_contra hlarge
    have hproduct : 2 ^ 32 * count.toNat ≤ least * count.toNat :=
      Nat.mul_le_mul_right _ (Nat.le_of_not_lt hlarge)
    omega
  refine ⟨UInt32.ofNat least, fun hexact => ?_⟩
  have hleast : (UInt32.ofNat least).toNat = least := UInt32.toNat_ofNat_of_lt' hword
  have hwrapped : least * count.toNat % 2 ^ 64 = least * count.toNat - 2 ^ 64 := by omega
  have hreaches := isExact_iff.mp hexact
  rw [hleast, wrappedHundreds, hwrapped] at hreaches
  omega

theorem forall_isExact_iff {count : UInt64} :
    (∀ percent, IsExact percent count) ↔ count.toNat ≤ 2 ^ 32 + 1 := by
  constructor
  · intro hexact
    by_contra hlong
    obtain ⟨percent, hwrong⟩ := exists_not_isExact (Nat.lt_of_not_le hlong)
    exact hwrong (hexact percent)
  · intro hshort percent
    have hpercent : percent.toNat ≤ 2 ^ 32 - 1 := Nat.le_sub_one_of_lt percent.toNat_lt
    refine isExact_iff.mpr (.inl ?_)
    calc percent.toNat * count.toNat ≤ (2 ^ 32 - 1) * (2 ^ 32 + 1) :=
          Nat.mul_le_mul hpercent hshort
      _ < 2 ^ 64 := by decide

theorem toNat_eq_hundredths {percent : UInt32} {count index : UInt64}
    (hexact : IsExact percent count) (hindex : gainIndex? percent count = some index) :
    index.toNat = hundredths percent.toNat count.toNat := by
  obtain ⟨hcount, hvalue⟩ := gainIndex?_eq_some_iff.mp hindex
  exact hvalue.trans ((isExact_iff_eq hcount).mp hexact)

/-! ### The order of positions -/

theorem hundredths_mono {low high : Nat} (hle : low ≤ high) (count : Nat) :
    hundredths low count ≤ hundredths high count := by
  have hquotient : low * count / 100 ≤ high * count / 100 :=
    Nat.div_le_div_right (Nat.mul_le_mul_right count hle)
  unfold hundredths
  omega

theorem hundredths_eq_last {percent : Nat} (hall : 100 ≤ percent) (count : Nat) :
    hundredths percent count = count - 1 := by
  have hproduct : 100 * count ≤ percent * count := Nat.mul_le_mul_right count hall
  unfold hundredths
  omega

/-- **Percentages are exact until the product overflows.** An empty table has no position, and any
other gets one inside. It is the right one just if the product fits into 64 bits, or if what is left
of it still reaches the last position. Every percentage is exact just in tables of at most
`2 ^ 32 + 1` entries. Where they are exact, a larger percentage gets no smaller position, and a hundred
and more the last. -/
theorem exact_until_overflow (count : UInt64) :
    (∀ percent, (gainIndex? percent count = none ↔ count = 0) ∧
      ∀ index, gainIndex? percent count = some index → index < count) ∧
    (∀ percent, IsExact percent count ↔
      percent.toNat * count.toNat < 2 ^ 64 ∨
        count.toNat - 1 ≤ wrappedHundreds percent.toNat count.toNat) ∧
    ((∀ percent, IsExact percent count) ↔ count.toNat ≤ 2 ^ 32 + 1) ∧
    ∀ low high lower upper, IsExact low count → IsExact high count →
      gainIndex? low count = some lower → gainIndex? high count = some upper →
      (low ≤ high → lower ≤ upper) ∧ (100 ≤ high → upper = count - 1) := by
  refine ⟨fun percent => ⟨gainIndex?_eq_none_iff percent count, fun index => lt_of_gainIndex?⟩,
    fun percent => isExact_iff, forall_isExact_iff, ?_⟩
  intro low high lower upper hlow hhigh hlower hupper
  have hlowerNat := toNat_eq_hundredths hlow hlower
  have hupperNat := toNat_eq_hundredths hhigh hupper
  refine ⟨fun hle => ?_, fun hall => ?_⟩
  · rw [UInt64.le_iff_toNat_le, hlowerNat, hupperNat]
    exact hundredths_mono (UInt32.le_iff_toNat_le.mp hle) count.toNat
  · have hcount := (gainIndex?_eq_some_iff.mp hupper).1
    have hone : (1 : UInt64) ≤ count := UInt64.le_iff_toNat_le.mpr (toNat_pos_iff.mpr hcount)
    apply UInt64.toNat_inj.mp
    rw [hupperNat, UInt64.toNat_sub_of_le _ _ hone]
    exact hundredths_eq_last (UInt32.le_iff_toNat_le.mp hall) count.toNat

/-- In the shortest table for which products can overflow, the largest percentage is told a position
near the front, and not the last. -/
theorem overflow_takes_low_position :
    gainIndex? 4294967295 4294967298 = some 42949672 ∧
      hundredths 4294967295 4294967298 = 4294967297 := by
  decide

end TunerRelay.Tuner
