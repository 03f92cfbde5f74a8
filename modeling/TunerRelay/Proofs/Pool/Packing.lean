import TunerRelay.Pool.Buffer

/-!
# Bytes through a buffer

Bytes that a buffer is filled with are written back unchanged, however many there are and whatever
the buffer held before: an odd last byte is not padded, and nothing is left of an earlier use.
-/

namespace TunerRelay.Pool.Buffer

theorem elementBytes_pair (low high : UInt8) :
    elementBytes ((low.toNat + 256 * high.toNat : Nat) : Int) = [low, high] := by
  have hlow := low.toNat_lt
  have hhigh := high.toNat_lt
  simp only [elementBytes, Int.toNat_natCast, List.cons.injEq, and_true]
  constructor
  · apply UInt8.toNat_inj.mp
    rw [UInt8.toNat_ofNat']
    omega
  · apply UInt8.toNat_inj.mp
    rw [UInt8.toNat_ofNat']
    omega

/-- The elements hold the bytes, and after an odd last one the upper half of its element. -/
theorem prefix_flatMap_pack (bytes : List UInt8) :
    bytes <+: (pack bytes).flatMap elementBytes := by
  induction bytes using pack.induct with
  | case1 => exact List.nil_prefix
  | case2 low =>
      have hpair := elementBytes_pair low 0
      simp only [UInt8.toNat_zero, Nat.mul_zero, Nat.add_zero] at hpair
      simp only [pack, List.flatMap_cons, List.flatMap_nil, hpair]
      exact ⟨[0], rfl⟩
  | case3 low high rest ih =>
      simp only [pack, List.flatMap_cons]
      rw [elementBytes_pair]
      exact (List.prefix_append_right_inj [low, high]).mpr ih

@[simp]
theorem kind_reserve (buffer : Buffer) (count : Nat) :
    (buffer.reserve count).kind = buffer.kind := by
  unfold reserve
  split <;> rfl

@[simp]
theorem kind_prepare (buffer : Buffer) (length : Int) :
    (buffer.prepare length).kind = buffer.kind := by
  unfold prepare
  split
  · rfl
  · simp only
    split
    · exact kind_reserve buffer _
    · exact kind_reserve buffer _

theorem valid_prepare (buffer : Buffer) (length : Nat) :
    (buffer.prepare length).valid = length := by
  unfold prepare
  split
  · simp only
    omega
  · simp

@[simp]
theorem kind_fill (buffer : Buffer) (bytes : List UInt8) :
    (buffer.fill bytes).2.kind = buffer.kind := by
  unfold fill
  split
  · exact kind_prepare buffer _
  · rfl

/-- What is filled in is written back. -/
theorem bytes_fill {buffer : Buffer} (bytes : List UInt8) (hkind : buffer.kind = .ushort) :
    (buffer.fill bytes).2.bytes = bytes := by
  have hfilled : (buffer.fill bytes).2 =
      { (buffer.prepare (pack bytes).length).overwrite (pack bytes) with
        byteLength := bytes.length } := by
    unfold fill
    rw [if_pos hkind]
  have helements : (buffer.fill bytes).2.elements = pack bytes := by
    rw [hfilled]
    simp only [elements, overwrite, valid_prepare]
    exact List.take_left
  unfold Buffer.bytes
  rw [kind_fill, if_pos hkind, helements, hfilled]
  exact (List.prefix_iff_eq_take.mp (prefix_flatMap_pack bytes)).symm

end TunerRelay.Pool.Buffer
