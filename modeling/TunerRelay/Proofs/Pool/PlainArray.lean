import TunerRelay.Pool.Buffer

/-!
# Buffers as plain arrays

What a buffer is used for, and the array that it stands for: endless and all zero at first, with two
lengths and a mark. There is no storage behind a plain array, so nothing of it can be out of bounds;
a buffer takes slices of its storage, and each of them is named here.
-/

namespace TunerRelay.Pool

/-- What a caller does with a buffer. -/
inductive Buffer.Use where
  | prepare (length : Int)
  | clearOnNextUse
  /-- One element is written through a view. -/
  | set (kind : Kind) (index : Nat) (value : Int)
  /-- The first elements are written through a view. -/
  | write (kind : Kind) (values : List Int)
  | fill (bytes : List UInt8)
  | release
deriving DecidableEq, Repr

namespace Buffer

def use (buffer : Buffer) : Use → Buffer
  | .prepare length => buffer.prepare length
  | .clearOnNextUse => buffer.clearOnNextUse
  | .set kind index value => (buffer.write kind (buffer.elements.set index value)).2
  | .write kind values => (buffer.write kind values).2
  | .fill bytes => (buffer.fill bytes).2
  | .release => buffer.release

/-- A new buffer after its uses. -/
def used (kind : Kind) (uses : List Use) : Buffer := uses.foldl use (.ofKind kind)

/-- Elements in store at some moment, and how many of them are asked for then. To ask for more than
there are ends the program. -/
structure Slice where
  cells : List Int
  length : Nat

def Slice.InBounds (slice : Slice) : Prop := slice.length ≤ slice.cells.length

/-- The slice of a view. -/
def viewed (buffer : Buffer) : Slice := ⟨buffer.cells, buffer.valid⟩

/-- The slices that a preparation takes: it zeroes elements after there is room for them. -/
def prepared (buffer : Buffer) (length : Int) : List Slice :=
  if 0 < length ∧ buffer.clearNext then
    [⟨(buffer.reserve length.toNat).cells, length.toNat⟩]
  else []

/-- The slices of its storage that a buffer takes in a use. -/
def slices (buffer : Buffer) : Use → List Slice
  | .prepare length => buffer.prepared length
  | .set kind _ _ | .write kind _ => if kind = buffer.kind then [buffer.viewed] else []
  | .fill bytes =>
    if buffer.kind = .ushort then
      buffer.prepared (pack bytes).length ++ [(buffer.prepare (pack bytes).length).viewed]
    else []
  | .clearOnNextUse | .release => []

end Buffer

@[ext]
structure PlainArray where
  contents : Nat → Int := fun _ => 0
  /-- How much of the array there has been room for. -/
  capacity : Nat := 0
  /-- How much of it is visible. -/
  length : Nat := 0
  /-- Whether what becomes visible next is zeroed. -/
  clearing : Bool := true

namespace PlainArray

/-- So many elements from the front. -/
def front (array : PlainArray) (count : Nat) : List Int := (List.range count).map array.contents

def visible (array : PlainArray) : List Int := array.front array.length

def clear (array : PlainArray) (count : Nat) : PlainArray :=
  { array with
    contents := fun index => if index < count then 0 else array.contents index
    clearing := false }

def prepare (array : PlainArray) (length : Int) : PlainArray :=
  if length ≤ 0 then { array with length := 0 }
  else
    let count := length.toNat
    let cleared := if array.clearing then array.clear count else array
    { cleared with length := count, capacity := max array.capacity count }

def clearOnNextUse (array : PlainArray) : PlainArray := { array with clearing := true }

/-- Writes a visible element. There is nothing to write to behind them. -/
def set (array : PlainArray) (index : Nat) (value : Int) : PlainArray :=
  if index < array.length then
    { array with contents := fun other => if other = index then value else array.contents other }
  else array

/-- Writes elements one after another. -/
def setFrom (array : PlainArray) (index : Nat) : List Int → PlainArray
  | [] => array
  | value :: rest => (array.set index value).setFrom (index + 1) rest

def release (array : PlainArray) : PlainArray :=
  if 0 < array.capacity then
    { array with contents := fun _ => 0, capacity := 0, length := 0 }
  else array

/-- The same use of the array, for a buffer of some kind. Other kinds have no view of it. -/
def use (kind : Kind) (array : PlainArray) : Buffer.Use → PlainArray
  | .prepare length => array.prepare length
  | .clearOnNextUse => array.clearOnNextUse
  | .set other index value => if other = kind then array.set index (kind.wrap value) else array
  | .write other values =>
    if other = kind then array.setFrom 0 (values.map kind.wrap) else array
  | .fill bytes =>
    if kind = .ushort then
      (array.prepare (Buffer.pack bytes).length).setFrom 0 (Buffer.pack bytes)
    else array
  | .release => array.release

/-- A plain array after its uses. -/
def used (kind : Kind) (uses : List Buffer.Use) : PlainArray := uses.foldl (use kind) {}

@[simp]
theorem length_front (array : PlainArray) (count : Nat) : (array.front count).length = count := by
  simp [front]

theorem getElem?_front (array : PlainArray) (count index : Nat) :
    (array.front count)[index]? = if index < count then some (array.contents index) else none := by
  by_cases hlt : index < count
  · simp [front, hlt]
  · rw [if_neg hlt]
    apply List.getElem?_eq_none
    rw [length_front]
    omega

theorem take_front {array : PlainArray} {count length : Nat} (hle : count ≤ length) :
    (array.front length).take count = array.front count := by
  apply List.ext_getElem?
  intro index
  rw [List.getElem?_take, getElem?_front, getElem?_front]
  by_cases hlt : index < count
  · rw [if_pos hlt, if_pos hlt, if_pos (Nat.lt_of_lt_of_le hlt hle)]
  · rw [if_neg hlt, if_neg hlt]

theorem length_prepare (array : PlainArray) (length : Nat) :
    (array.prepare length).length = length := by
  unfold prepare
  split
  · simp only
    omega
  · simp

/-! What a run of writes changes: the contents of the visible elements that it comes to, alone. -/

section Writing

variable (array : PlainArray) (index : Nat) (values : List Int)

@[simp]
theorem capacity_set (value : Int) : (array.set index value).capacity = array.capacity := by
  unfold set
  split <;> rfl

@[simp]
theorem length_set (value : Int) : (array.set index value).length = array.length := by
  unfold set
  split <;> rfl

@[simp]
theorem clearing_set (value : Int) : (array.set index value).clearing = array.clearing := by
  unfold set
  split <;> rfl

theorem contents_set (value : Int) (other : Nat) :
    (array.set index value).contents other =
      if other = index ∧ index < array.length then value else array.contents other := by
  unfold set
  by_cases hlt : index < array.length
  · simp [hlt]
  · simp [hlt]

@[simp]
theorem capacity_setFrom : (array.setFrom index values).capacity = array.capacity := by
  induction values generalizing array index with
  | nil => rfl
  | cons value rest ih => rw [setFrom, ih, capacity_set]

@[simp]
theorem length_setFrom : (array.setFrom index values).length = array.length := by
  induction values generalizing array index with
  | nil => rfl
  | cons value rest ih => rw [setFrom, ih, length_set]

@[simp]
theorem clearing_setFrom : (array.setFrom index values).clearing = array.clearing := by
  induction values generalizing array index with
  | nil => rfl
  | cons value rest ih => rw [setFrom, ih, clearing_set]

theorem contents_setFrom (other : Nat) :
    (array.setFrom index values).contents other =
      if index ≤ other ∧ other < array.length then
        values[other - index]?.getD (array.contents other)
      else array.contents other := by
  induction values generalizing array index with
  | nil => simp [setFrom]
  | cons value rest ih =>
      rw [setFrom, ih, contents_set, length_set]
      obtain hlt | rfl | hlt := Nat.lt_trichotomy index other
      · have hsub : other - index = other - (index + 1) + 1 := by omega
        have hne : other ≠ index := by omega
        simp [hsub, hne, Nat.succ_le_of_lt hlt, Nat.le_of_lt hlt]
      · rw [if_neg fun hrest => Nat.not_succ_le_self index hrest.1]
        simp
      · have hne : other ≠ index := by omega
        simp [hne, Nat.not_le.mpr hlt, show ¬ index + 1 ≤ other by omega]

/-- What would be written behind the visible elements is lost. -/
theorem setFrom_take :
    array.setFrom 0 (values.take array.length) = array.setFrom 0 values := by
  apply PlainArray.ext
  · funext other
    rw [contents_setFrom, contents_setFrom]
    by_cases hlt : other < array.length
    · simp [hlt]
    · simp [hlt]
  · rw [capacity_setFrom, capacity_setFrom]
  · rw [length_setFrom, length_setFrom]
  · rw [clearing_setFrom, clearing_setFrom]

end Writing

end PlainArray

end TunerRelay.Pool
