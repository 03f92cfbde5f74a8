import TunerRelay.Wire.Word

/-!
The header that every client receives before any sample: a four-character code, the tuner's number
and the size of its gain table, each as one word in network byte order.
-/

namespace TunerRelay.Wire

structure Header where
  magic : UInt32
  tuner : UInt32
  gainCount : UInt32
deriving DecidableEq, Repr

/-- The four-character code `RTL0`. -/
def Header.rtlMagic : UInt32 := 0x52544c30

def Header.rtl (tuner gainCount : UInt32) : Header :=
  { magic := rtlMagic, tuner, gainCount }

def Header.toBytes (header : Header) : List UInt8 :=
  bigEndian header.magic ++ bigEndian header.tuner ++ bigEndian header.gainCount

/-- Only twelve bytes make a header. -/
def Header.ofBytes? : List UInt8 → Option Header
  | [m₁, m₂, m₃, m₄, t₁, t₂, t₃, t₄, g₁, g₂, g₃, g₄] =>
    some
      { magic := ofBigEndian m₁ m₂ m₃ m₄
        tuner := ofBigEndian t₁ t₂ t₃ t₄
        gainCount := ofBigEndian g₁ g₂ g₃ g₄ }
  | _ => none

@[simp]
theorem Header.length_toBytes (header : Header) : header.toBytes.length = 12 := rfl

@[simp]
theorem Header.ofBytes?_toBytes (header : Header) : ofBytes? header.toBytes = some header := by
  simp only [toBytes, bigEndian, List.cons_append, List.nil_append, ofBytes?, ofBigEndian_split]

end TunerRelay.Wire
