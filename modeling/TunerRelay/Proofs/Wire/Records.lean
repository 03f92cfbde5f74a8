import TunerRelay.Wire.Record

/-!
# Records in a stream of bytes

A stream of bytes holds a record in every five bytes from its start on. What is left over at the end
holds none.
-/

namespace TunerRelay.Wire.Record

/-- The records of a stream, each decoded from the five bytes after those of the one before. -/
def readAll : List UInt8 → List Record
  | b₀ :: b₁ :: b₂ :: b₃ :: b₄ :: rest => (ofBytes? [b₀, b₁, b₂, b₃, b₄]).toList ++ readAll rest
  | _ => []

theorem toBytes_of_ofBytes? {bytes : List UInt8} {record : Record}
    (hrecord : ofBytes? bytes = some record) : bytes = record.toBytes := by
  unfold ofBytes? at hrecord
  split at hrecord
  · cases hrecord
    simp [toBytes, bigEndian_ofBigEndian]
  · cases hrecord

theorem ofBytes?_eq_none_iff {bytes : List UInt8} :
    ofBytes? bytes = none ↔ bytes.length ≠ size := by
  constructor
  · intro hnone hlength
    match bytes, hlength with
    | [_, _, _, _, _], _ => cases hnone
  · intro hlength
    cases hrecord : ofBytes? bytes with
    | none => rfl
    | some record =>
        rw [toBytes_of_ofBytes? hrecord] at hlength
        exact absurd (length_toBytes record) hlength

theorem readAll_toBytes_append (record : Record) (rest : List UInt8) :
    readAll (record.toBytes ++ rest) = record :: readAll rest := by
  change (ofBytes? record.toBytes).toList ++ readAll rest = record :: readAll rest
  rw [ofBytes?_toBytes]
  rfl

theorem readAll_of_length_lt {bytes : List UInt8} (hlength : bytes.length < size) :
    readAll bytes = [] := by
  match bytes, hlength with
  | [], _ | [_], _ | [_, _], _ | [_, _, _], _ | [_, _, _, _], _ => rfl

/-- The bytes of records one after the other. -/
def allBytes (records : List Record) : List UInt8 := records.flatMap toBytes

@[simp]
theorem allBytes_append (first second : List Record) :
    allBytes (first ++ second) = allBytes first ++ allBytes second :=
  List.flatMap_append

@[simp]
theorem allBytes_singleton (record : Record) : allBytes [record] = record.toBytes :=
  List.flatMap_singleton toBytes record

theorem length_allBytes (records : List Record) :
    (allBytes records).length = size * records.length := by
  induction records with
  | nil => rfl
  | cons record records ih =>
      have hcons : allBytes (record :: records) = record.toBytes ++ allBytes records := rfl
      rw [hcons, List.length_append, ih, length_toBytes, List.length_cons, Nat.mul_succ,
        Nat.add_comm]

theorem readAll_allBytes_append (records : List Record) (rest : List UInt8) :
    readAll (allBytes records ++ rest) = records ++ readAll rest := by
  induction records with
  | nil => rfl
  | cons record records ih =>
      have hcons : allBytes (record :: records) = record.toBytes ++ allBytes records := rfl
      rw [hcons, List.append_assoc, readAll_toBytes_append, ih, List.cons_append]

/-- Records whose bytes begin a stream are the first ones of the stream. -/
theorem eq_take_readAll {records : List Record} {stream : List UInt8}
    (hbegins : allBytes records <+: stream) : records = (readAll stream).take records.length := by
  obtain ⟨rest, rfl⟩ := hbegins
  rw [readAll_allBytes_append, List.take_left]

/-- Records to which less than a record is added are all the records of the stream. -/
theorem readAll_eq_of_rest {records : List Record} {stream rest : List UInt8}
    (hstream : stream = allBytes records ++ rest) (hrest : rest.length < size) :
    readAll stream = records ∧ records.length = stream.length / size := by
  subst hstream
  constructor
  · rw [readAll_allBytes_append, readAll_of_length_lt hrest, List.append_nil]
  · rw [List.length_append, length_allBytes, Nat.mul_add_div (by decide),
      Nat.div_eq_of_lt hrest, Nat.add_zero]

/-! ### Records among other bytes -/

/-- The records stand in the stream in their order, each in five bytes of its own. -/
inductive Among : List Record → List UInt8 → Prop where
  | nil (rest : List UInt8) : Among [] rest
  | cons (skipped : List UInt8) (record : Record) {records : List Record} {rest : List UInt8}
    (hrest : Among records rest) : Among (record :: records) (skipped ++ record.toBytes ++ rest)

theorem Among.append {records : List Record} {stream : List UInt8} (hamong : Among records stream)
    (more : List UInt8) : Among records (stream ++ more) := by
  induction hamong with
  | nil rest => exact .nil _
  | cons skipped record hrest ih =>
      rw [List.append_assoc]
      exact .cons skipped record ih

theorem Among.concat {records : List Record} {stream : List UInt8} (hamong : Among records stream)
    (record : Record) : Among (records ++ [record]) (stream ++ record.toBytes) := by
  induction hamong with
  | nil rest =>
      have hlast := Among.cons rest record (.nil [])
      rw [List.append_nil] at hlast
      exact hlast
  | cons skipped first hrest ih =>
      rw [List.append_assoc]
      exact .cons skipped first ih

end TunerRelay.Wire.Record
