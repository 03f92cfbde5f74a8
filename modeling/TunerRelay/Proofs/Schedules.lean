import Mathlib

/-!
# Schedules

What is said of schedules without regard to what is scheduled: that a value settles if only so many
changes are left to it, and that one sequence gives every number its turn again and again.
-/

namespace TunerRelay

/-- A value that changes only with a decrease of its measure settles. -/
theorem exists_settled {α : Type} (value : Nat → α) (measure : α → Nat) (start : Nat)
    (hstep : ∀ count, start ≤ count →
      measure (value (count + 1)) < measure (value count) ∨ value (count + 1) = value count) :
    ∃ last, start ≤ last ∧ ∀ count, last ≤ count → value count = value last := by
  -- On the measure at the start: a change leads to a later start with a smaller one.
  induction hmeasure : measure (value start) using Nat.strongRecOn generalizing start with
  | _ bound ih =>
      by_cases hconstant : ∀ count, start ≤ count → value count = value start
      · exact ⟨start, Nat.le_refl start, hconstant⟩
      · have hdecrease : ∃ count, start ≤ count ∧
            measure (value (count + 1)) < measure (value start) := by
          by_contra hnone
          refine hconstant fun count hcount => ?_
          induction count, hcount using Nat.le_induction with
          | base => rfl
          | succ count hcount ihcount =>
              rcases hstep count hcount with hless | hsame
              · rw [ihcount] at hless
                exact absurd ⟨count, hcount, hless⟩ hnone
              · exact hsame.trans ihcount
        obtain ⟨count, hcount, hless⟩ := hdecrease
        obtain ⟨last, hlast, hsettled⟩ := ih _ (hmeasure ▸ hless) (count + 1)
          (fun later hlater => hstep later (by omega)) rfl
        exact ⟨last, by omega, hsettled⟩

/-- Some time from now the turn of each kind comes for each number. -/
theorem exists_round (kinds count number kind : Nat) (hkind : kind < kinds) :
    ∃ later, count ≤ later ∧ (Nat.unpair later).1 % kinds = kind ∧
      (Nat.unpair later).2 = number := by
  refine ⟨Nat.pair (kinds * count + kind) number, ?_, ?_, ?_⟩
  · have hle := Nat.left_le_pair (kinds * count + kind) number
    have hmul : count ≤ kinds * count := Nat.le_mul_of_pos_left count (Nat.zero_lt_of_lt hkind)
    omega
  · rw [Nat.unpair_pair, Nat.mul_add_mod, Nat.mod_eq_of_lt hkind]
  · rw [Nat.unpair_pair]

end TunerRelay
