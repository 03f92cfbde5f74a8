import Mathlib
import TunerRelay.Proofs.Pool.Refinement

/-!
# What a buffer writes back

The bytes to be written back are counted apart from the elements. Whatever a buffer was used for, they
are two for each visible element, or one less: of the last element the upper half may be missing. So
bytes that are filled in come back as they were, elements that are written through a view come back
whole, and what stood before the bytes written back is never cut.
-/

namespace TunerRelay.Pool

/-- A write through a view, which leaves all lengths alone. -/
def Buffer.Use.IsWrite : Buffer.Use → Prop
  | .set _ _ _ | .write _ _ => True
  | _ => False

namespace Buffer

/-! ### Elements and their bytes -/

theorem length_flatMap_elementBytes (elements : List Int) :
    (elements.flatMap elementBytes).length = 2 * elements.length := by
  induction elements with
  | nil => rfl
  | cons element rest ih =>
      rw [List.flatMap_cons, List.length_append, ih, List.length_cons]
      change 2 + 2 * rest.length = 2 * (rest.length + 1)
      omega

theorem length_pack (bytes : List UInt8) :
    bytes.length = 2 * (pack bytes).length ∨ bytes.length + 1 = 2 * (pack bytes).length := by
  induction bytes using pack.induct with
  | case1 => exact .inl rfl
  | case2 low => exact .inr rfl
  | case3 low high rest ih =>
      simp only [pack, List.length_cons]
      omega

theorem toNat_elementBytes {element : Int} (hwrapped : Kind.ushort.wrap element = element) :
    (((UInt8.ofNat element.toNat).toNat + 256 * (UInt8.ofNat (element.toNat / 256)).toNat : Nat) :
      Int) = element := by
  have hsize : (UInt16.size : Int) = 65536 := rfl
  have hnonneg : 0 ≤ element := by
    rw [← hwrapped]
    exact Int.emod_nonneg element (by rw [hsize]; decide)
  have hlt : element < 65536 := by
    rw [← hwrapped]
    exact Int.emod_lt_of_pos element (by rw [hsize]; decide)
  rw [UInt8.toNat_ofNat', UInt8.toNat_ofNat']
  omega

/-- Elements of sixteen bits are packed from their bytes. -/
theorem pack_flatMap_elementBytes {elements : List Int}
    (hwrapped : ∀ element ∈ elements, Kind.ushort.wrap element = element) :
    pack (elements.flatMap elementBytes) = elements := by
  induction elements with
  | nil => rfl
  | cons element rest ih =>
      have hrest := ih fun other hother => hwrapped other (List.mem_cons_of_mem _ hother)
      rw [List.flatMap_cons]
      simp only [elementBytes, List.cons_append, List.nil_append, pack, hrest]
      rw [toNat_elementBytes (hwrapped element List.mem_cons_self)]

/-! ### The visible elements -/

theorem Stands.length_elements {buffer : Buffer} {array : PlainArray}
    (hstands : Stands buffer array) : buffer.elements.length = buffer.valid := by
  rw [hstands.elements, PlainArray.visible, PlainArray.length_front, hstands.valid]

theorem Stands.wrap_of_mem {buffer : Buffer} {array : PlainArray} {element : Int}
    (hstands : Stands buffer array) (hmem : element ∈ buffer.elements) :
    buffer.kind.wrap element = element := by
  rw [hstands.elements] at hmem
  obtain ⟨index, -, rfl⟩ := List.mem_map.mp hmem
  exact hstands.wrapped index

theorem elements_fill {buffer : Buffer} (bytes : List UInt8) (hkind : buffer.kind = .ushort) :
    (buffer.fill bytes).2.elements = pack bytes := by
  simp only [fill, if_pos hkind, elements, overwrite, valid_prepare]
  exact List.take_left

/-! ### How many bytes are written back -/

/-- Two bytes for each visible element, or one less. -/
def IsMeasured (buffer : Buffer) : Prop :=
  buffer.byteLength = 2 * buffer.valid ∨ buffer.byteLength + 1 = 2 * buffer.valid

section Uses

variable (buffer : Buffer)

theorem byteLength_prepare (length : Int) :
    (buffer.prepare length).byteLength = 2 * (buffer.prepare length).valid := by
  unfold prepare
  split <;> rfl

@[simp]
theorem valid_write (kind : Kind) (values : List Int) :
    (buffer.write kind values).2.valid = buffer.valid := by
  unfold write
  split <;> rfl

@[simp]
theorem byteLength_write (kind : Kind) (values : List Int) :
    (buffer.write kind values).2.byteLength = buffer.byteLength := by
  unfold write
  split <;> rfl

theorem isMeasured_prepare (length : Int) : (buffer.prepare length).IsMeasured :=
  .inl (buffer.byteLength_prepare length)

variable {buffer}

theorem IsMeasured.fill (hmeasured : buffer.IsMeasured) (bytes : List UInt8) :
    (buffer.fill bytes).2.IsMeasured := by
  unfold Buffer.fill
  split
  · simp only [IsMeasured, overwrite, valid_prepare]
    exact length_pack bytes
  · exact hmeasured

theorem IsMeasured.release (hmeasured : buffer.IsMeasured) : buffer.release.IsMeasured := by
  unfold Buffer.release
  split
  · exact .inl rfl
  · exact hmeasured

theorem IsMeasured.use (hmeasured : buffer.IsMeasured) (next : Use) :
    (buffer.use next).IsMeasured := by
  cases next with
  | prepare length => exact buffer.isMeasured_prepare length
  | clearOnNextUse => exact hmeasured
  | set kind index value =>
      simp only [IsMeasured, Buffer.use, valid_write, byteLength_write]
      exact hmeasured
  | write kind values =>
      simp only [IsMeasured, Buffer.use, valid_write, byteLength_write]
      exact hmeasured
  | fill bytes => exact hmeasured.fill bytes
  | release => exact hmeasured.release

theorem Use.IsWrite.lengths {next : Use} (buffer : Buffer) (hwrite : next.IsWrite) :
    (buffer.use next).valid = buffer.valid ∧ (buffer.use next).byteLength = buffer.byteLength := by
  cases next with
  | set | write => exact ⟨valid_write _ _ _, byteLength_write _ _ _⟩
  | prepare | clearOnNextUse | fill | release => exact hwrite.elim

theorem lengths_writes {writes : List Use} (buffer : Buffer)
    (hwrites : ∀ next ∈ writes, next.IsWrite) :
    (writes.foldl use buffer).valid = buffer.valid ∧
      (writes.foldl use buffer).byteLength = buffer.byteLength := by
  induction writes generalizing buffer with
  | nil => exact ⟨rfl, rfl⟩
  | cons next rest ih =>
      obtain ⟨hvalid, hlength⟩ := (hwrites next List.mem_cons_self).lengths buffer
      obtain ⟨hvalids, hlengths⟩ :=
        ih (buffer.use next) fun other hother => hwrites other (List.mem_cons_of_mem _ hother)
      exact ⟨hvalids.trans hvalid, hlengths.trans hlength⟩

end Uses

theorem isMeasured_used (kind : Kind) (uses : List Use) : (used kind uses).IsMeasured := by
  induction uses using List.reverseRecOn with
  | nil => exact .inl rfl
  | append_singleton earlier next ih =>
      simp only [used, List.foldl_append, List.foldl_cons, List.foldl_nil]
      exact ih.use next

/-! ### What they are -/

/-- What is written back of the visible elements: all their bytes, or all but the upper half of the
last element. -/
inductive WritesBack (buffer : Buffer) : List UInt8 → Prop where
  | whole (hlength : buffer.byteLength = 2 * buffer.valid) :
    WritesBack buffer (buffer.elements.flatMap elementBytes)
  | odd (front : List Int) (last : Int) (helements : buffer.elements = front ++ [last])
    (hlength : buffer.byteLength + 1 = 2 * buffer.valid) :
    WritesBack buffer (front.flatMap elementBytes ++ [UInt8.ofNat last.toNat])

variable {buffer : Buffer} {array : PlainArray}

theorem bytes_of_even (hkind : buffer.kind = .ushort) (hstands : Stands buffer array)
    (hlength : buffer.byteLength = 2 * buffer.valid) :
    buffer.bytes = buffer.elements.flatMap elementBytes := by
  rw [bytes, if_pos hkind, hlength, ← hstands.length_elements, ← length_flatMap_elementBytes]
  exact List.take_length

theorem writesBack_bytes (hkind : buffer.kind = .ushort) (hstands : Stands buffer array)
    (hmeasured : buffer.IsMeasured) : buffer.WritesBack buffer.bytes := by
  rcases hmeasured with heven | hodd
  · rw [bytes_of_even hkind hstands heven]
    exact .whole heven
  · have hlength := hstands.length_elements
    obtain ⟨front, last, helements⟩ : ∃ front last, buffer.elements = front ++ [last] := by
      refine ⟨_, _, (List.dropLast_append_getLast (l := buffer.elements) ?_).symm⟩
      rintro hnil
      rw [hnil, List.length_nil] at hlength
      omega
    have hcount : buffer.byteLength = (front.flatMap elementBytes).length + 1 := by
      rw [helements, List.length_append, List.length_singleton] at hlength
      rw [length_flatMap_elementBytes]
      omega
    have hbytes : buffer.bytes = front.flatMap elementBytes ++ [UInt8.ofNat last.toNat] := by
      rw [bytes, if_pos hkind, helements, List.flatMap_append, List.flatMap_singleton, hcount,
        List.take_length_add_append]
      rfl
    rw [hbytes]
    exact .odd front last helements hodd

/-- Behind what is there already all bytes of the elements are put, and then the whole is cut to the
count of bytes to be written back. -/
theorem appendTo_eq_take (hkind : buffer.kind = .ushort) (output : List UInt8) :
    buffer.appendTo output =
      (output ++ buffer.elements.flatMap elementBytes).take (output.length + buffer.byteLength) := by
  rw [appendTo, bytes, if_pos hkind, List.take_length_add_append]

/-- **Bytes survive a buffer.** Whatever a buffer for bytes was used for before: bytes filled into it
are counted and written back as they were, behind whatever is there; elements written through its view
are written back whole, and any other such buffer that is filled with these bytes shows the same
elements. At any time it writes back all bytes of its visible elements but for the upper half of the
last one at most, and the cut that leaves that half out is never in what stood before. Buffers of other
kinds take no bytes and give none. -/
theorem bytes_survive (uses : List Use) (output : List UInt8) :
    let buffer := used .ushort uses
    (∀ bytes, (buffer.fill bytes).1 = bytes.length ∧
      (buffer.fill bytes).2.appendTo output = output ++ bytes) ∧
    (∀ (count : Nat) (writes others : List Use), 0 < count → (∀ next ∈ writes, next.IsWrite) →
      let written := used .ushort (uses ++ .prepare count :: writes)
      let bytes := written.elements.flatMap elementBytes
      bytes.length = 2 * count ∧ written.appendTo output = output ++ bytes ∧
        ((used .ushort others).fill bytes).2.view? .ushort = written.view? .ushort) ∧
    buffer.appendTo output =
      (output ++ buffer.elements.flatMap elementBytes).take (output.length + buffer.byteLength) ∧
    (∃ bytes, buffer.WritesBack bytes ∧ buffer.appendTo output = output ++ bytes) ∧
    ∀ kind, kind ≠ .ushort → (used kind uses).appendTo output = output ∧
      ∀ bytes, (used kind uses).fill bytes = (0, used kind uses) := by
  intro buffer
  obtain ⟨hkind, hstands⟩ : buffer.kind = .ushort ∧ Stands buffer _ := stands_used .ushort uses
  refine ⟨fun bytes => ⟨?_, ?_⟩, ?_, appendTo_eq_take hkind output, ?_, ?_⟩
  · rw [fill, if_pos hkind]
  · rw [appendTo, bytes_fill bytes hkind]
  · intro count writes others hpos hwrites written bytes
    obtain ⟨hwritten, harray⟩ : written.kind = .ushort ∧ Stands written _ :=
      stands_used .ushort (uses ++ .prepare count :: writes)
    have hused : written = writes.foldl use (buffer.prepare count) := by
      simp only [written, buffer, used, List.foldl_append, List.foldl_cons, Buffer.use]
    obtain ⟨hvalid, hlength⟩ := lengths_writes (buffer.prepare count) hwrites
    rw [← hused, valid_prepare] at hvalid
    rw [← hused, byteLength_prepare, valid_prepare, ← hvalid] at hlength
    refine ⟨?_, ?_, ?_⟩
    · rw [length_flatMap_elementBytes, harray.length_elements, hvalid]
    · rw [appendTo, bytes_of_even hwritten harray hlength]
    · have hother := (stands_used .ushort others).1
      have hwrapped : ∀ element ∈ written.elements, Kind.ushort.wrap element = element :=
        fun element hmem => hwritten ▸ harray.wrap_of_mem hmem
      rw [view?, view?, kind_fill, hother, hwritten, elements_fill _ hother,
        pack_flatMap_elementBytes hwrapped]
  · exact ⟨_, writesBack_bytes hkind hstands (isMeasured_used .ushort uses), rfl⟩
  · intro kind hne
    have hother : (used kind uses).kind ≠ .ushort := by
      rw [(stands_used kind uses).1]
      exact hne
    refine ⟨?_, fun bytes => ?_⟩
    · rw [appendTo, bytes, if_neg hother, List.append_nil]
    · rw [fill, if_neg hother]

/-- The elements are written after a preparation that shows again what a longer use had left. -/
theorem bytes_survive_reused :
    let buffer := used .ushort [.fill [1, 2, 3, 4, 5], .prepare 0]
    buffer.appendTo [9] = [9] ∧
    (0 < 3 ∧ (∀ next ∈ [Use.set .ushort 0 513], next.IsWrite)) ∧
    (used .ushort [.fill [1, 2, 3, 4, 5], .prepare 0, .prepare (3 : Nat), .set .ushort 0 513]).appendTo
      [9] = [9, 1, 2, 3, 4, 5, 0] := by
  have hwrites : ∀ next ∈ [Use.set .ushort 0 513], next.IsWrite := by
    intro next hmem
    obtain rfl := List.mem_singleton.mp hmem
    trivial
  obtain ⟨-, hwritten, -⟩ := bytes_survive [.fill [1, 2, 3, 4, 5], .prepare 0] [9]
  exact ⟨rfl, ⟨by decide, hwrites⟩, (hwritten 3 _ [] (by decide) hwrites).2.1⟩

end Buffer

end TunerRelay.Pool
