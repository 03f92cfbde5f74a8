/-!
Tuner chips by the numbers under which receivers announce them, and how a banner's wording is
matched to a chip.
-/

namespace TunerRelay.Tuner

inductive Chip where
  | unknown
  | e4000
  | fc0012
  | fc0013
  | fc2580
  | r820t
  | r828d
deriving DecidableEq, Repr

def Chip.number : Chip → UInt32
  | .unknown => 0
  | .e4000 => 1
  | .fc0012 => 2
  | .fc0013 => 3
  | .fc2580 => 4
  | .r820t => 5
  | .r828d => 6

/-- The part of a name that gives a chip away, in the order in which chips are tried. -/
def Chip.marks : List (String × Chip) :=
  [("E4000", .e4000), ("FC0012", .fc0012), ("FC0013", .fc0013), ("FC2580", .fc2580),
    ("R820T", .r820t), ("R828D", .r828d)]

/-- Whether `part` occurs in `whole` without a gap. -/
def occursIn (part : List Char) : List Char → Bool
  | [] => part.isEmpty
  | c :: rest => part.isPrefixOf (c :: rest) || occursIn part rest

/-- The first chip whose mark occurs in the name, ASCII case aside. -/
def Chip.ofName (name : String) : Chip :=
  let upper := name.toList.map Char.toUpper
  match marks.find? fun mark => occursIn mark.1.toList upper with
  | some mark => mark.2
  | none => .unknown

end TunerRelay.Tuner
