import TunerRelay.Text.Hex

/-!
Internet addresses as text: dotted quads, and groups of hexadecimal digits in which one `::` stands
for one or more groups of zero.
-/

namespace TunerRelay.Net

structure Quad where
  first : UInt8
  second : UInt8
  third : UInt8
  fourth : UInt8
deriving DecidableEq, Repr

inductive Address where
  | four (quad : Quad)
  /-- Eight groups of sixteen bits. -/
  | six (groups : List UInt16)
deriving DecidableEq, Repr

/-- What a reader makes of the front of a text, with the rest of it. -/
abbrev Reader (α : Type) := List Char → Option (α × List Char)

/-- One to three digits without a needless leading zero, at most 255. -/
def readOctet : Reader UInt8 := fun text =>
  let digits := text.takeWhile Char.isDigit
  let value := Text.decimalValue digits
  if digits = [] ∨ 3 < digits.length ∨ 255 < value then none
  else if digits.head? = some '0' ∧ 1 < digits.length then none
  else some (UInt8.ofNat value, text.drop digits.length)

def readChar (c : Char) : Reader Unit
  | [] => none
  | d :: rest => if d = c then some ((), rest) else none

def readQuad : Reader Quad := fun text => do
  let (first, text) ← readOctet text
  let ((), text) ← readChar '.' text
  let (second, text) ← readOctet text
  let ((), text) ← readChar '.' text
  let (third, text) ← readOctet text
  let ((), text) ← readChar '.' text
  let (fourth, text) ← readOctet text
  return ({ first, second, third, fourth }, text)

/-- One to four hexadecimal digits. -/
def readGroup : Reader UInt16 := fun text => do
  let digits := text.takeWhile fun c => (Text.hexDigit? c).isSome
  if digits = [] ∨ 4 < digits.length then none
  else return (UInt16.ofNat (← Text.hexValue? digits), text.drop digits.length)

def Quad.groups (quad : Quad) : List UInt16 :=
  [UInt16.ofNat (quad.first.toNat * 256 + quad.second.toNat),
    UInt16.ofNat (quad.third.toNat * 256 + quad.fourth.toNat)]

/-- What a run of groups has come to. -/
structure Groups where
  groups : List UInt16
  /-- Whether the last two groups were written as a dotted quad, which ends a run. -/
  endsInQuad : Bool
  rest : List Char
deriving DecidableEq, Repr

/-- As many groups as there are, up to a limit, separated by colons. A dotted quad is tried before a
group, where there is room for two. -/
def readGroups : Nat → Bool → List Char → Groups
  | 0, _, text => { groups := [], endsInQuad := false, rest := text }
  | limit + 1, isFirst, text =>
    let stopped : Groups := { groups := [], endsInQuad := false, rest := text }
    let start? := if isFirst then some text else (readChar ':' text).map (·.2)
    match start? with
    | none => stopped
    | some start =>
      match if limit = 0 then none else readQuad start with
      | some (quad, rest) => { groups := quad.groups, endsInQuad := true, rest }
      | none =>
        match readGroup start with
        | none => stopped
        | some (group, rest) =>
          let following := readGroups limit false rest
          { following with groups := group :: following.groups }

/-- Eight groups, or fewer on both sides of one `::`. No dotted quad stands before it. -/
def readSix : Reader (List UInt16) := fun text =>
  let head := readGroups 8 true text
  if head.groups.length = 8 then some (head.groups, head.rest)
  else if head.endsInQuad then none
  else do
    let ((), rest) ← readChar ':' head.rest
    let ((), rest) ← readChar ':' rest
    let tail := readGroups (7 - head.groups.length) true rest
    let zeros := List.replicate (8 - head.groups.length - tail.groups.length) 0
    return (head.groups ++ zeros ++ tail.groups, tail.rest)

/-- The reading of a whole text. -/
def whole? {α : Type} (reader : Reader α) (text : List Char) : Option α :=
  match reader text with
  | some (value, []) => some value
  | _ => none

def Address.ofText? (text : List Char) : Option Address :=
  match whole? readQuad text with
  | some quad => some (.four quad)
  | none => (whole? readSix text).map .six

def Quad.text (quad : Quad) : String :=
  toString quad.first ++ "." ++ toString quad.second ++ "." ++ toString quad.third ++ "."
    ++ toString quad.fourth

def groupText (group : UInt16) : String := String.ofList (Nat.toDigits 16 group.toNat)

def colonSeparated (groups : List UInt16) : String :=
  String.intercalate ":" (groups.map groupText)

/-- Length of the run of zero groups at the front. -/
def zeroRun (groups : List UInt16) : Nat := (groups.takeWhile (· == 0)).length

/-- Start and length of the longest run of zero groups, the first of several. -/
def longestZeros : List UInt16 → Nat × Nat
  | [] => (0, 0)
  | group :: rest =>
    let here := zeroRun (group :: rest)
    let (start, length) := longestZeros rest
    if here ≠ 0 ∧ length ≤ here then (0, here) else (start + 1, length)

/-- The dotted quad that two groups stand for. -/
def quadOfGroups (high low : UInt16) : Quad :=
  { first := UInt8.ofNat (high.toNat / 256), second := UInt8.ofNat high.toNat
    third := UInt8.ofNat (low.toNat / 256), fourth := UInt8.ofNat low.toNat }

/-- Addresses that stand for a dotted quad end in it; elsewhere the longest run of two or more zero
groups is left out. -/
def sixText (groups : List UInt16) : String :=
  match groups with
  | [0, 0, 0, 0, 0, 0xffff, high, low] => "::ffff:" ++ (quadOfGroups high low).text
  | groups =>
    let (start, length) := longestZeros groups
    if 1 < length then
      colonSeparated (groups.take start) ++ "::" ++ colonSeparated (groups.drop (start + length))
    else colonSeparated groups

/-- An address with a port. The scope tells apart equal link-local addresses. -/
structure Endpoint where
  address : Address
  scope : UInt32 := 0
  port : UInt16
deriving DecidableEq, Repr

def Address.text : Address → String
  | .four quad => quad.text
  | .six groups => sixText groups

def Endpoint.text (endpoint : Endpoint) : String :=
  match endpoint.address with
  | .four quad => quad.text ++ ":" ++ toString endpoint.port
  | .six groups =>
    let scope := if endpoint.scope = 0 then "" else "%" ++ toString endpoint.scope
    "[" ++ sixText groups ++ scope ++ "]:" ++ toString endpoint.port

/-- A run of digits that fits so many bits. -/
def readNumber (bits : Nat) : Reader Nat := fun text =>
  let digits := text.takeWhile Char.isDigit
  let value := Text.decimalValue digits
  if digits = [] ∨ Nat.pow 2 bits ≤ value then none else some (value, text.drop digits.length)

def readPort : Reader UInt16 := fun text => do
  let ((), text) ← readChar ':' text
  let (port, text) ← readNumber 16 text
  return (UInt16.ofNat port, text)

def readScope : Reader UInt32 := fun text =>
  match readChar '%' text with
  | none => some (0, text)
  | some ((), text) => (readNumber 32 text).map fun (scope, text) => (UInt32.ofNat scope, text)

def readEndpoint : Reader Endpoint := fun text =>
  match readQuad text with
  | some (quad, text) => do
    let (port, text) ← readPort text
    return ({ address := .four quad, port }, text)
  | none => do
    let ((), text) ← readChar '[' text
    let (groups, text) ← readSix text
    let (scope, text) ← readScope text
    let ((), text) ← readChar ']' text
    let (port, text) ← readPort text
    return ({ address := .six groups, scope, port }, text)

def Endpoint.ofText? (text : List Char) : Option Endpoint := whole? readEndpoint text

end TunerRelay.Net
