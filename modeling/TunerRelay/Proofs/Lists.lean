import Mathlib

/-!
# One place of a list replaced

What becomes of a sum or a count over a list when one place is given another element.
-/

namespace TunerRelay.Lists

variable {α : Type}

theorem modify_of_getElem? {list : List α} {place : Nat} {old : α} (change : α → α)
    (hold : list[place]? = some old) : list.modify place change = list.set place (change old) := by
  obtain ⟨hlt, rfl⟩ := List.getElem?_eq_some_iff.mp hold
  apply List.ext_getElem?
  intro other
  rw [List.getElem?_modify, List.getElem?_set]
  by_cases heq : place = other
  · subst heq
    simp [hlt]
  · simp [heq]

theorem sum_map_set {list : List α} {place : Nat} {old : α} (weight : α → Nat) (new : α)
    (hold : list[place]? = some old) :
    ((list.set place new).map weight).sum + weight old = (list.map weight).sum + weight new := by
  induction list generalizing place with
  | nil => simp at hold
  | cons head rest ih =>
      cases place with
      | zero =>
          have hhead : head = old := by simpa using hold
          subst hhead
          simp only [List.set_cons_zero, List.map_cons, List.sum_cons]
          omega
      | succ place =>
          have hrest := ih (by simpa using hold)
          simp only [List.set_cons_succ, List.map_cons, List.sum_cons]
          omega

theorem countP_set {list : List α} {place : Nat} {old : α} (test : α → Bool) (new : α)
    (hold : list[place]? = some old) :
    (list.set place new).countP test + (if test old then 1 else 0) =
      list.countP test + (if test new then 1 else 0) := by
  obtain ⟨hlt, rfl⟩ := List.getElem?_eq_some_iff.mp hold
  have hle := List.boole_getElem_le_countP (p := test) hlt
  rw [List.countP_set hlt]
  omega

/-- What others than the one replaced are is still so. -/
theorem exists_mem_set {list : List α} {place : Nat} {old : α} {test : α → Prop} (new : α)
    (hold : list[place]? = some old) (hother : ¬ test old) (hexists : ∃ item ∈ list, test item) :
    ∃ item ∈ list.set place new, test item := by
  obtain ⟨item, hmem, htest⟩ := hexists
  obtain ⟨other, hitem⟩ := List.mem_iff_getElem?.mp hmem
  refine ⟨item, List.mem_iff_getElem?.mpr ⟨other, ?_⟩, htest⟩
  rw [List.getElem?_set_ne, hitem]
  rintro rfl
  obtain rfl : old = item := Option.some.inj (hold.symm.trans hitem)
  exact hother htest

end TunerRelay.Lists
