import TunerRelay.Tuner.Chip

/-!
Gain tables of the known chips, in tenths of a decibel, and the position that a percentage takes in
a table.
-/

namespace TunerRelay.Tuner

def Chip.gains : Chip → List Int32
  | .unknown => []
  | .e4000 => [-10, 15, 40, 65, 90, 115, 140, 165, 190, 215, 240, 290, 340, 420]
  | .fc0012 => [-99, -40, 71, 179, 192]
  | .fc0013 =>
    [-99, -73, -65, -63, -60, -58, -54, 58, 61, 63, 65, 67, 68, 70, 71, 179, 181, 182, 184, 186,
      188, 191, 197]
  | .fc2580 => [0]
  | .r820t | .r828d =>
    [0, 9, 14, 27, 37, 77, 87, 125, 144, 157, 166, 197, 207, 229, 254, 280, 297, 328, 338, 364, 372,
      386, 402, 421, 434, 439, 445, 480, 496]

/-- Every chip, by ascending number. -/
def Chip.all : List Chip := [.unknown, .e4000, .fc0012, .fc0013, .fc2580, .r820t, .r828d]

/-- The table of the chip with this number; a number that no chip has gets an empty table. -/
def gainTable (number : UInt32) : List Int32 :=
  match Chip.all.find? fun chip => chip.number == number with
  | some chip => chip.gains
  | none => []

/-- Hundredths of the table, rounded down and kept inside it. The product is taken in 64 bits. -/
def gainIndex? (percent : UInt32) (count : UInt64) : Option UInt64 :=
  if count = 0 then none
  else some (min (percent.toUInt64 * count / 100) (count - 1))

end TunerRelay.Tuner
