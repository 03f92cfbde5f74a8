/-!
Lines of a byte stream that is meant as UTF-8. A line ends at a line feed, and a carriage return
right before it belongs to the ending. Reading stops at the first line that is not UTF-8.
-/

namespace TunerRelay.Text

def lineFeed : UInt8 := 0x0a

def carriageReturn : UInt8 := 0x0d

/-- The line whose bytes, last first, were read up to a line feed. -/
def closeLine : List UInt8 → List UInt8
  | [] => []
  | last :: before => (if last = carriageReturn then before else last :: before).reverse

/-- The raw lines of a stream, given the bytes of the current line, last first. A last line without
a line feed counts unless it is empty. -/
def rawLinesFrom : List UInt8 → List UInt8 → List (List UInt8)
  | [], [] => []
  | current, [] => [current.reverse]
  | current, byte :: rest =>
    if byte = lineFeed then closeLine current :: rawLinesFrom [] rest
    else rawLinesFrom (byte :: current) rest

def decode? (bytes : List UInt8) : Option String := String.fromUTF8? ⟨bytes.toArray⟩

/-- The decoded lines before the first one that does not decode. -/
def decodeWhile : List (List UInt8) → List String
  | [] => []
  | raw :: rest =>
    match decode? raw with
    | some line => line :: decodeWhile rest
    | none => []

def lines (stream : List UInt8) : List String := decodeWhile (rawLinesFrom [] stream)

end TunerRelay.Text
