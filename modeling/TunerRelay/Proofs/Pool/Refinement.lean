import Mathlib
import TunerRelay.Proofs.Pool.Packing
import TunerRelay.Proofs.Pool.PlainArray

/-!
# Buffers are plain arrays

Whatever a buffer is used for, and in whatever order, what is visible of it is what is visible of a
plain array after the same uses. What is hidden behind a shorter use is still there when it shows
again, unless it was to be cleared or its storage was freed, and room that is new shows zeros. The
three lengths of a buffer never part from its storage, so none of its slices is out of bounds.
-/

namespace TunerRelay.Pool

theorem Kind.wrap_wrap (kind : Kind) (value : Int) :
    kind.wrap (kind.wrap value) = kind.wrap value := by
  cases kind with
  | int => exact Int.bmod_bmod
  | float => exact Int.emod_emod_of_dvd value (dvd_refl _)
  | short => exact Int.bmod_bmod
  | ushort => exact Int.emod_emod_of_dvd value (dvd_refl _)

theorem Kind.wrap_zero (kind : Kind) : kind.wrap 0 = 0 := by
  cases kind <;> rfl

namespace Buffer

/-- Bytes are packed into elements of sixteen bits. -/
theorem wrap_of_mem_pack {bytes : List UInt8} {element : Int} (hmem : element ∈ pack bytes) :
    Kind.ushort.wrap element = element := by
  have hpair (low high : UInt8) :
      Kind.ushort.wrap ((low.toNat + 256 * high.toNat : Nat) : Int) =
        (low.toNat + 256 * high.toNat : Nat) := by
    have hlow := low.toNat_lt
    have hhigh := high.toNat_lt
    apply Int.emod_eq_of_lt
    · exact Int.natCast_nonneg _
    · have hsize : UInt16.size = 65536 := rfl
      rw [hsize]
      omega
  induction bytes using pack.induct with
  | case1 => simp [pack] at hmem
  | case2 low =>
      obtain rfl : element = low.toNat := by simpa [pack] using hmem
      simpa using hpair low 0
  | case3 low high rest ih =>
      obtain rfl | hrest := List.mem_cons.mp hmem
      · exact hpair low high
      · exact ih hrest

/-- The buffer holds the front of the array, and nothing is behind it. -/
structure Stands (buffer : Buffer) (array : PlainArray) : Prop where
  cells : buffer.cells = array.front array.capacity
  behind : ∀ index, array.capacity ≤ index → array.contents index = 0
  wrapped : ∀ index, buffer.kind.wrap (array.contents index) = array.contents index
  capacity : buffer.capacity = array.capacity
  valid : buffer.valid = array.length
  visible : array.length ≤ array.capacity
  clearing : buffer.clearNext = array.clearing
  allocated : buffer.isAllocated = decide (0 < array.capacity)

variable {buffer : Buffer} {array : PlainArray}

theorem stands_ofKind (kind : Kind) : Stands (.ofKind kind) {} where
  cells := rfl
  behind _ _ := rfl
  wrapped _ := kind.wrap_zero
  capacity := rfl
  valid := rfl
  visible := Nat.le_refl 0
  clearing := rfl
  allocated := rfl

namespace Stands

theorem length_cells (hstands : Stands buffer array) : buffer.cells.length = buffer.capacity := by
  rw [hstands.cells, PlainArray.length_front, hstands.capacity]

theorem elements (hstands : Stands buffer array) : buffer.elements = array.visible := by
  unfold Buffer.elements PlainArray.visible
  rw [hstands.cells, hstands.valid]
  exact PlainArray.take_front hstands.visible

/-- The view is a slice of what is in store. -/
theorem inBounds_viewed (hstands : Stands buffer array) : buffer.viewed.InBounds := by
  unfold Slice.InBounds viewed
  rw [hstands.length_cells, hstands.valid, hstands.capacity]
  exact hstands.visible

/-- New room is filled with the zeros that the array has there. -/
theorem reserve (hstands : Stands buffer array) (count : Nat) :
    Stands (buffer.reserve count) { array with capacity := max array.capacity count } := by
  unfold Buffer.reserve
  by_cases hlt : buffer.capacity < count
  · have hmax : max array.capacity count = count := by
      rw [← hstands.capacity]
      exact max_eq_right hlt.le
    rw [if_pos hlt, hmax]
    refine ⟨?_, ?_, hstands.wrapped, rfl, hstands.valid, ?_, hstands.clearing, ?_⟩
    · apply List.ext_getElem?
      intro index
      simp only [grow]
      rw [List.getElem?_append, List.getElem?_replicate, hstands.length_cells, hstands.cells,
        PlainArray.getElem?_front, PlainArray.getElem?_front, hstands.capacity]
      rw [hstands.capacity] at hlt
      by_cases hold : index < array.capacity
      · rw [if_pos hold, if_pos hold, if_pos (hold.trans hlt)]
      · rw [if_neg hold]
        by_cases hnew : index < count
        · rw [if_pos (by omega), if_pos hnew, hstands.behind index (not_lt.mp hold)]
        · rw [if_neg (by omega), if_neg hnew]
    · intro index hle
      refine hstands.behind index (le_trans ?_ hle)
      rw [← hstands.capacity]
      exact hlt.le
    · refine le_trans hstands.visible ?_
      rw [← hstands.capacity]
      exact hlt.le
    · exact (decide_eq_true (Nat.zero_lt_of_lt hlt)).symm
  · have hmax : max array.capacity count = array.capacity := by
      rw [← hstands.capacity]
      exact max_eq_left (not_lt.mp hlt)
    rw [if_neg hlt, hmax]
    exact hstands

theorem clear (hstands : Stands buffer array) {count : Nat} (hle : count ≤ array.capacity) :
    Stands (buffer.clear count) (array.clear count) := by
  refine ⟨?_, ?_, ?_, hstands.capacity, hstands.valid, hstands.visible, rfl, hstands.allocated⟩
  · apply List.ext_getElem?
    intro index
    simp only [Buffer.clear]
    rw [List.getElem?_append, List.getElem?_replicate, List.length_replicate, List.getElem?_drop,
      hstands.cells, PlainArray.getElem?_front, PlainArray.getElem?_front]
    by_cases hlt : index < count
    · simp [PlainArray.clear, hlt, lt_of_lt_of_le hlt hle]
    · simp [PlainArray.clear, hlt, Nat.add_sub_cancel' (not_lt.mp hlt)]
  · intro index hbehind
    simp only [PlainArray.clear]
    rw [if_neg (not_lt.mpr (hle.trans hbehind))]
    exact hstands.behind index hbehind
  · intro index
    simp only [PlainArray.clear]
    split
    · exact Kind.wrap_zero _
    · exact hstands.wrapped index

theorem expose (hstands : Stands buffer array) {count : Nat} (byteLength : Nat)
    (hle : count ≤ array.capacity) :
    Stands { buffer with valid := count, byteLength } { array with length := count } where
  cells := hstands.cells
  behind := hstands.behind
  wrapped := hstands.wrapped
  capacity := hstands.capacity
  valid := rfl
  visible := hle
  clearing := hstands.clearing
  allocated := hstands.allocated

theorem prepare (hstands : Stands buffer array) (length : Int) :
    Stands (buffer.prepare length) (array.prepare length) := by
  unfold Buffer.prepare PlainArray.prepare
  by_cases hpos : length ≤ 0
  · rw [if_pos hpos, if_pos hpos]
    exact hstands.expose 0 (Nat.zero_le _)
  · rw [if_neg hpos, if_neg hpos]
    have hreserved := hstands.reserve length.toNat
    have hroom : length.toNat ≤ max array.capacity length.toNat := le_max_right _ _
    simp only [hstands.clearing]
    cases array.clearing with
    | false => exact hreserved.expose _ hroom
    | true => exact (hreserved.clear hroom).expose _ hroom

theorem clearOnNextUse (hstands : Stands buffer array) :
    Stands buffer.clearOnNextUse array.clearOnNextUse where
  cells := hstands.cells
  behind := hstands.behind
  wrapped := hstands.wrapped
  capacity := hstands.capacity
  valid := hstands.valid
  visible := hstands.visible
  clearing := rfl
  allocated := hstands.allocated

theorem release (hstands : Stands buffer array) : Stands buffer.release array.release := by
  unfold Buffer.release PlainArray.release
  rw [hstands.allocated]
  by_cases hpos : 0 < array.capacity
  · rw [if_pos (decide_eq_true hpos), if_pos hpos]
    exact ⟨rfl, fun _ _ => rfl, fun _ => Kind.wrap_zero _, rfl, rfl, Nat.le_refl 0,
      hstands.clearing, rfl⟩
  · rw [if_neg (by simpa using hpos), if_neg hpos]
    exact hstands

/-- Elements written over the visible ones are the array's, and the others stay. -/
theorem overwrite (hstands : Stands buffer array) {values : List Int} (byteLength : Nat)
    (hlength : values.length ≤ array.length)
    (hwrapped : ∀ value ∈ values, buffer.kind.wrap value = value) :
    Stands { buffer.overwrite values with byteLength } (array.setFrom 0 values) := by
  have hcontents (index : Nat) : (array.setFrom 0 values).contents index =
      values[index]?.getD (array.contents index) := by
    rw [PlainArray.contents_setFrom]
    by_cases hlt : index < array.length
    · simp [hlt]
    · have hnone : values[index]? = none := List.getElem?_eq_none (by omega)
      simp [hlt, hnone]
  refine ⟨?_, ?_, ?_, ?_, ?_, ?_, ?_, ?_⟩
  · apply List.ext_getElem?
    intro index
    have hcapacity := hstands.visible
    simp only [Buffer.overwrite]
    rw [List.getElem?_append, List.getElem?_drop, hstands.cells, PlainArray.getElem?_front,
      PlainArray.getElem?_front, PlainArray.capacity_setFrom, hcontents]
    by_cases hlt : index < values.length
    · rw [if_pos hlt, if_pos (by omega), List.getElem?_eq_getElem hlt, Option.getD_some]
    · rw [if_neg hlt, Nat.add_sub_cancel' (not_lt.mp hlt),
        List.getElem?_eq_none (not_lt.mp hlt), Option.getD_none]
  · intro index hbehind
    rw [PlainArray.capacity_setFrom] at hbehind
    have hnone : values[index]? = none :=
      List.getElem?_eq_none (hlength.trans (hstands.visible.trans hbehind))
    rw [hcontents, hnone]
    exact hstands.behind index hbehind
  · intro index
    rw [hcontents]
    cases hvalue : values[index]? with
    | none => exact hstands.wrapped index
    | some value => exact hwrapped value (List.mem_of_getElem? hvalue)
  · rw [PlainArray.capacity_setFrom]
    exact hstands.capacity
  · rw [PlainArray.length_setFrom]
    exact hstands.valid
  · rw [PlainArray.length_setFrom, PlainArray.capacity_setFrom]
    exact hstands.visible
  · rw [PlainArray.clearing_setFrom]
    exact hstands.clearing
  · rw [PlainArray.capacity_setFrom]
    exact hstands.allocated

theorem write (hstands : Stands buffer array) {kind : Kind} (values : List Int)
    (hkind : kind = buffer.kind) :
    Stands (buffer.write kind values).2 (array.setFrom 0 (values.map kind.wrap)) := by
  have hlength : ((values.take array.length).map kind.wrap).length ≤ array.length := by
    rw [List.length_map]
    exact List.length_take_le _ _
  have hwrapped : ∀ value ∈ (values.take array.length).map kind.wrap,
      buffer.kind.wrap value = value := by
    intro value hmem
    obtain ⟨written, -, rfl⟩ := List.mem_map.mp hmem
    rw [hkind]
    exact Kind.wrap_wrap _ _
  have hoverwritten := hstands.overwrite buffer.byteLength hlength hwrapped
  rw [List.map_take, PlainArray.setFrom_take] at hoverwritten
  unfold Buffer.write
  rw [if_pos hkind, hstands.valid, List.map_take]
  exact hoverwritten

/-- All elements of a view written again, one of them with another value, is that one written. -/
theorem setFrom_set (hstands : Stands buffer array) (index : Nat) (value : Int) :
    array.setFrom 0 ((array.visible.set index value).map buffer.kind.wrap) =
      array.set index (buffer.kind.wrap value) := by
  apply PlainArray.ext
  · funext other
    rw [PlainArray.contents_setFrom, PlainArray.contents_set, List.getElem?_map,
      List.getElem?_set, PlainArray.visible, PlainArray.length_front, PlainArray.getElem?_front]
    by_cases hlt : other < array.length
    · by_cases heq : index = other
      · subst heq
        simp [hlt]
      · simp [hlt, heq, Ne.symm heq, hstands.wrapped other]
    · have hnot : ¬ (other = index ∧ index < array.length) := by
        rintro ⟨rfl, hindex⟩
        exact hlt hindex
      rw [if_neg (fun hvisible => hlt hvisible.2), if_neg hnot]
  · rw [PlainArray.capacity_setFrom, PlainArray.capacity_set]
  · rw [PlainArray.length_setFrom, PlainArray.length_set]
  · rw [PlainArray.clearing_setFrom, PlainArray.clearing_set]

theorem set (hstands : Stands buffer array) {kind : Kind} (index : Nat) (value : Int)
    (hkind : kind = buffer.kind) :
    Stands (buffer.write kind (buffer.elements.set index value)).2
      (array.set index (kind.wrap value)) := by
  have hwritten := hstands.write (array.visible.set index value) hkind
  rw [hstands.elements]
  subst hkind
  rwa [hstands.setFrom_set] at hwritten

theorem fill (hstands : Stands buffer array) (bytes : List UInt8) (hkind : buffer.kind = .ushort) :
    Stands (buffer.fill bytes).2
      ((array.prepare (pack bytes).length).setFrom 0 (pack bytes)) := by
  have hprepared := hstands.prepare (pack bytes).length
  have hlength := array.length_prepare (pack bytes).length
  have hwrapped : ∀ element ∈ pack bytes,
      (buffer.prepare (pack bytes).length).kind.wrap element = element := by
    intro element hmem
    rw [kind_prepare, hkind]
    exact wrap_of_mem_pack hmem
  unfold Buffer.fill
  rw [if_pos hkind]
  exact hprepared.overwrite bytes.length hlength.ge hwrapped

/-- A use of the buffer is the same use of the array. -/
theorem use (hstands : Stands buffer array) (next : Use) :
    Stands (buffer.use next) (array.use buffer.kind next) := by
  cases next with
  | prepare length => exact hstands.prepare length
  | clearOnNextUse => exact hstands.clearOnNextUse
  | set kind index value =>
      simp only [Buffer.use, PlainArray.use]
      by_cases hkind : kind = buffer.kind
      · rw [if_pos hkind, ← hkind]
        exact hstands.set index value hkind
      · rw [if_neg hkind, Buffer.write, if_neg hkind]
        exact hstands
  | write kind values =>
      simp only [Buffer.use, PlainArray.use]
      by_cases hkind : kind = buffer.kind
      · rw [if_pos hkind, ← hkind]
        exact hstands.write values hkind
      · rw [if_neg hkind, Buffer.write, if_neg hkind]
        exact hstands
  | fill bytes =>
      simp only [Buffer.use, PlainArray.use]
      by_cases hkind : buffer.kind = .ushort
      · rw [if_pos hkind]
        exact hstands.fill bytes hkind
      · rw [if_neg hkind, Buffer.fill, if_neg hkind]
        exact hstands
  | release => exact hstands.release

theorem inBounds_prepared (hstands : Stands buffer array) (length : Int) :
    ∀ slice ∈ buffer.prepared length, slice.InBounds := by
  intro slice hmem
  unfold Buffer.prepared at hmem
  split at hmem
  · obtain rfl := List.mem_singleton.mp hmem
    have hreserved := hstands.reserve length.toNat
    change length.toNat ≤ (buffer.reserve length.toNat).cells.length
    rw [hreserved.length_cells, hreserved.capacity]
    exact le_max_right _ _
  · exact absurd hmem List.not_mem_nil

theorem inBounds (hstands : Stands buffer array) (next : Use) :
    ∀ slice ∈ buffer.slices next, slice.InBounds := by
  have hview (kind : Kind) :
      ∀ slice ∈ if kind = buffer.kind then [buffer.viewed] else [], slice.InBounds := by
    intro slice hmem
    split at hmem
    · obtain rfl := List.mem_singleton.mp hmem
      exact hstands.inBounds_viewed
    · exact absurd hmem List.not_mem_nil
  cases next with
  | prepare length => exact hstands.inBounds_prepared length
  | clearOnNextUse => exact List.forall_mem_nil _
  | set kind index value => exact hview kind
  | write kind values => exact hview kind
  | fill bytes =>
      intro slice hmem
      simp only [slices] at hmem
      split at hmem
      · obtain hprepared | hviewed := List.mem_append.mp hmem
        · exact hstands.inBounds_prepared _ slice hprepared
        · obtain rfl := List.mem_singleton.mp hviewed
          exact (hstands.prepare _).inBounds_viewed
      · exact absurd hmem List.not_mem_nil
  | release => exact List.forall_mem_nil _

end Stands

@[simp]
theorem kind_write (buffer : Buffer) (kind : Kind) (values : List Int) :
    (buffer.write kind values).2.kind = buffer.kind := by
  unfold write
  split <;> rfl

/-- A buffer keeps its kind. -/
theorem kind_use (buffer : Buffer) (next : Use) : (buffer.use next).kind = buffer.kind := by
  cases next with
  | prepare length => exact kind_prepare buffer length
  | clearOnNextUse => rfl
  | set kind index value => exact kind_write buffer kind _
  | write kind values => exact kind_write buffer kind values
  | fill bytes => exact kind_fill buffer bytes
  | release =>
      simp only [use, release]
      split <;> rfl

/-- After any uses a buffer holds the front of the array that was used the same way. -/
theorem stands_used (kind : Kind) (uses : List Use) :
    (used kind uses).kind = kind ∧ Stands (used kind uses) (PlainArray.used kind uses) := by
  induction uses using List.reverseRecOn with
  | nil => exact ⟨rfl, stands_ofKind kind⟩
  | append_singleton earlier next ih =>
      obtain ⟨hkind, hstands⟩ := ih
      have hnext := hstands.use next
      rw [hkind] at hnext
      simp only [used, PlainArray.used, List.foldl_append, List.foldl_cons, List.foldl_nil]
      exact ⟨(kind_use _ next).trans hkind, hnext⟩

/-- Of a buffer the same is visible as of a plain array after the same uses, through the view of its
own kind alone; its lengths are those of the array and of its storage, and whatever is done with it
next, no slice that is taken of its storage is out of bounds. -/
theorem used_as_plain_array (kind : Kind) (uses : List Use) :
    let buffer := used kind uses
    let array := PlainArray.used kind uses
    (∀ other, buffer.view? other = if other = kind then some array.visible else none) ∧
    buffer.cells.length = array.capacity ∧
    buffer.capacity = array.capacity ∧
    buffer.valid = array.length ∧
    array.length ≤ array.capacity ∧
    buffer.clearNext = array.clearing ∧
    (buffer.isAllocated = true ↔ 0 < array.capacity) ∧
    buffer.viewed.InBounds ∧
    ∀ next, ∀ slice ∈ buffer.slices next, slice.InBounds := by
  intro buffer array
  obtain ⟨hkind, hstands⟩ : buffer.kind = kind ∧ Stands buffer array := stands_used kind uses
  refine ⟨fun other => ?_, hstands.length_cells.trans hstands.capacity, hstands.capacity,
    hstands.valid, hstands.visible, hstands.clearing, ?_, hstands.inBounds_viewed,
    hstands.inBounds⟩
  · unfold view?
    rw [hkind, hstands.elements]
  · rw [hstands.allocated]
    exact decide_eq_true_iff

/-- What a shorter use hides shows again, and zeros behind it. -/
example : (used .short [.prepare 3, .write .short [7, 8, 9], .prepare 1, .prepare 4]).view? .short =
    some [7, 8, 9, 0] := rfl

end Buffer

end TunerRelay.Pool
