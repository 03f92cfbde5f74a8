/-!
Network byte order: a 32-bit word is sent most significant byte first. Main statements: reading and
writing a word undo each other.
-/

namespace TunerRelay.Wire

def bigEndian (word : UInt32) : List UInt8 :=
  [UInt8.ofNat (word.toNat / 0x1000000), UInt8.ofNat (word.toNat / 0x10000),
    UInt8.ofNat (word.toNat / 0x100), UInt8.ofNat word.toNat]

def ofBigEndian (first second third fourth : UInt8) : UInt32 :=
  UInt32.ofNat
    (((first.toNat * 256 + second.toNat) * 256 + third.toNat) * 256 + fourth.toNat)

theorem toNat_ofBigEndian (first second third fourth : UInt8) :
    (ofBigEndian first second third fourth).toNat =
      ((first.toNat * 256 + second.toNat) * 256 + third.toNat) * 256 + fourth.toNat := by
  have h₁ := first.toNat_lt
  have h₂ := second.toNat_lt
  have h₃ := third.toNat_lt
  have h₄ := fourth.toNat_lt
  simp only [ofBigEndian, UInt32.toNat_ofNat']
  omega

theorem ofBigEndian_split (word : UInt32) :
    ofBigEndian (UInt8.ofNat (word.toNat / 0x1000000)) (UInt8.ofNat (word.toNat / 0x10000))
      (UInt8.ofNat (word.toNat / 0x100)) (UInt8.ofNat word.toNat) = word := by
  have hword := word.toNat_lt
  apply UInt32.toNat_inj.mp
  simp only [toNat_ofBigEndian, UInt8.toNat_ofNat']
  omega

theorem bigEndian_ofBigEndian (first second third fourth : UInt8) :
    bigEndian (ofBigEndian first second third fourth) = [first, second, third, fourth] := by
  have h₁ := first.toNat_lt
  have h₂ := second.toNat_lt
  have h₃ := third.toNat_lt
  have h₄ := fourth.toNat_lt
  simp only [bigEndian, toNat_ofBigEndian, List.cons.injEq, and_true]
  refine ⟨?_, ?_, ?_, ?_⟩ <;> apply UInt8.toNat_inj.mp <;> simp only [UInt8.toNat_ofNat'] <;> omega

@[simp]
theorem length_bigEndian (word : UInt32) : (bigEndian word).length = 4 := rfl

end TunerRelay.Wire
