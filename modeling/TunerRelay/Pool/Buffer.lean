/-!
Sample buffers whose storage grows on demand and is used again. A buffer holds elements of one kind;
bytes go in and out of buffers of unsigned sixteen-bit elements, two to an element. An allocation
that fails ends the program, so storage can always be had here.
-/

namespace TunerRelay.Pool

/-- What the elements of a buffer are. -/
inductive Kind where
  | int
  | float
  | short
  | ushort
deriving DecidableEq, Repr

/-- The element that an integer wraps to. A float is given by its bit pattern. -/
def Kind.wrap (kind : Kind) (value : Int) : Int :=
  match kind with
  | .int => value.bmod UInt32.size
  | .float => value % UInt32.size
  | .short => value.bmod UInt16.size
  | .ushort => value % UInt16.size

structure Buffer where
  kind : Kind
  /-- The allocated elements, valid or not. -/
  cells : List Int := []
  /-- The most elements that there has been room for since the storage was last freed. -/
  capacity : Nat := 0
  /-- Elements at the front that hold meaningful data. -/
  valid : Nat := 0
  /-- Bytes that are written back. The last one may be the lower half of an element. -/
  byteLength : Nat := 0
  /-- Whether the next preparation zeroes the elements. -/
  clearNext : Bool := true
  isAllocated : Bool := false
deriving DecidableEq, Repr

namespace Buffer

/-- The buffer without storage, to be zeroed when it is first prepared. -/
def ofKind (kind : Kind) : Buffer := { kind }

/-- The valid elements. -/
def elements (buffer : Buffer) : List Int := buffer.cells.take buffer.valid

/-- The valid elements, for the buffer's own kind only. -/
def view? (buffer : Buffer) (kind : Kind) : Option (List Int) :=
  if kind = buffer.kind then some buffer.elements else none

/-- Storage for exactly so many elements, unless there is more already. -/
def grow (buffer : Buffer) (length : Nat) : Buffer :=
  { buffer with cells := buffer.cells ++ List.replicate (length - buffer.cells.length) 0 }

/-- Zeroes so many elements at the front. -/
def clear (buffer : Buffer) (length : Nat) : Buffer :=
  { buffer with cells := List.replicate length 0 ++ buffer.cells.drop length, clearNext := false }

/-- Room for so many elements. What is hidden behind a shorter use stays as it is. -/
def reserve (buffer : Buffer) (count : Nat) : Buffer :=
  if buffer.capacity < count then
    { buffer.grow count with capacity := count, isAllocated := true }
  else buffer

/-- Makes so many elements valid. A length that is not positive makes none valid. -/
def prepare (buffer : Buffer) (length : Int) : Buffer :=
  if length ≤ 0 then { buffer with valid := 0, byteLength := 0 }
  else
    let count := length.toNat
    let reserved := buffer.reserve count
    let prepared := if buffer.clearNext then reserved.clear count else reserved
    { prepared with valid := count, byteLength := 2 * count }

def clearOnNextUse (buffer : Buffer) : Buffer := { buffer with clearNext := true }

/-- Frees the storage, unless there is none. -/
def release (buffer : Buffer) : Buffer :=
  if buffer.isAllocated then
    { buffer with cells := [], capacity := 0, valid := 0, byteLength := 0, isAllocated := false }
  else buffer

/-- Overwrites elements at the front. -/
def overwrite (buffer : Buffer) (values : List Int) : Buffer :=
  { buffer with cells := values ++ buffer.cells.drop values.length }

/-- Writes values over the valid elements of a view, as far as there are any, and counts them.
Nothing is written through a view of another kind. -/
def write (buffer : Buffer) (kind : Kind) (values : List Int) : Option Nat × Buffer :=
  if kind = buffer.kind then
    let written := (values.take buffer.valid).map kind.wrap
    (some written.length, buffer.overwrite written)
  else (none, buffer)

/-- Bytes taken two by two, the lower one first. A single last byte is the lower half of an element. -/
def pack : List UInt8 → List Int
  | [] => []
  | [low] => [(low.toNat : Int)]
  | low :: high :: rest => ((low.toNat + 256 * high.toNat : Nat) : Int) :: pack rest

/-- The two bytes of an element, the lower one first. -/
def elementBytes (element : Int) : List UInt8 :=
  [UInt8.ofNat element.toNat, UInt8.ofNat (element.toNat / 256)]

/-- Replaces the contents by bytes and counts them. Only buffers of unsigned sixteen-bit elements
take bytes. -/
def fill (buffer : Buffer) (bytes : List UInt8) : Nat × Buffer :=
  if buffer.kind = .ushort then
    let packed := pack bytes
    let prepared := buffer.prepare packed.length
    (bytes.length, { prepared.overwrite packed with byteLength := bytes.length })
  else (0, buffer)

/-- The bytes that are written back. -/
def bytes (buffer : Buffer) : List UInt8 :=
  if buffer.kind = .ushort then
    (buffer.elements.flatMap elementBytes).take buffer.byteLength
  else []

/-- Appends the contents to what is there already. -/
def appendTo (buffer : Buffer) (output : List UInt8) : List UInt8 := output ++ buffer.bytes

end Buffer

end TunerRelay.Pool
