import TunerRelay.Json
import TunerRelay.Text.Hex

/-!
JSON as text. A number with a fraction, an exponent or a signed zero keeps its spelling.
-/

namespace TunerRelay.Json

def isSpace (c : Char) : Bool := c == ' ' || c == '\t' || c == '\n' || c == '\r'

def skipSpaces (text : List Char) : List Char := text.dropWhile isSpace

/-- The character that a letter behind a backslash stands for. -/
def escapee : Char → Char
  | 'n' => '\n'
  | 't' => '\t'
  | 'r' => '\r'
  | 'b' => '\x08'
  | 'f' => '\x0c'
  | c => c

/-- The code units up to the closing quote, and what follows it. -/
def readUnits : List Char → Option (List Nat × List Char)
  | [] => none
  | '"' :: rest => some ([], rest)
  | '\\' :: 'u' :: a :: b :: c :: d :: rest => do
    let unit ← Text.hexValue? [a, b, c, d]
    let (units, rest) ← readUnits rest
    return (unit :: units, rest)
  | '\\' :: c :: rest => do
    let (units, rest) ← readUnits rest
    return ((escapee c).toNat :: units, rest)
  | c :: rest => do
    let (units, rest) ← readUnits rest
    return (c.toNat :: units, rest)

/-- Characters by their code units; two units stand for a character beyond sixteen bits. -/
def charsOfUnits : List Nat → List Char
  | high :: low :: rest =>
    if 0xd800 ≤ high ∧ high < 0xdc00 then
      Char.ofNat (0x10000 + (high - 0xd800) * 0x400 + (low - 0xdc00)) :: charsOfUnits rest
    else Char.ofNat high :: charsOfUnits (low :: rest)
  | [unit] => [Char.ofNat unit]
  | [] => []

def readString (text : List Char) : Option (String × List Char) :=
  (readUnits text).map fun (units, rest) => (String.ofList (charsOfUnits units), rest)

def isNumberChar (c : Char) : Bool :=
  c.isDigit || c == '-' || c == '+' || c == '.' || c == 'e' || c == 'E'

def integer? : List Char → Option Int
  | ['-', '0'] => none
  | '-' :: digits => (Text.natural? digits).map fun n => -(n : Int)
  | digits => (Text.natural? digits).map fun n => (n : Int)

def ofNumber (written : List Char) : Json :=
  match integer? written with
  | some value => .integer value
  | none => .decimal (String.ofList written)

/-- The words that are values. -/
def literals : List (List Char × Json) :=
  [("true".toList, .bool true), ("false".toList, .bool false), ("null".toList, .null)]

/-- A number or a word. -/
def readPlain (text : List Char) : Option (Json × List Char) :=
  match literals.find? fun literal => literal.1.isPrefixOf text with
  | some (word, value) => some (value, text.drop word.length)
  | none =>
    let written := text.takeWhile isNumberChar
    if written.isEmpty then none else some (ofNumber written, text.drop written.length)

def readColon (text : List Char) : Option (List Char) :=
  match skipSpaces text with
  | ':' :: rest => some rest
  | _ => none

mutual

/-- A value at the front of a text. The number bounds the values and separators that are read. -/
def readValue : Nat → List Char → Option (Json × List Char)
  | 0, _ => none
  | bound + 1, text =>
    match skipSpaces text with
    | '\x7b' :: rest => (readFields bound rest).map fun (fields, rest) => (.object fields, rest)
    | '[' :: rest => (readItems bound rest).map fun (items, rest) => (.array items, rest)
    | '"' :: rest => (readString rest).map fun (value, rest) => (.string value, rest)
    | plain => readPlain plain

def readItems : Nat → List Char → Option (List Json × List Char)
  | 0, _ => none
  | bound + 1, text =>
    match skipSpaces text with
    | ']' :: rest => some ([], rest)
    | ',' :: rest => readItems bound rest
    | text => do
      let (item, rest) ← readValue bound text
      let (items, rest) ← readItems bound rest
      return (item :: items, rest)

def readFields : Nat → List Char → Option (List (String × Json) × List Char)
  | 0, _ => none
  | bound + 1, text =>
    match skipSpaces text with
    | '\x7d' :: rest => some ([], rest)
    | ',' :: rest => readFields bound rest
    | '"' :: rest => do
      let (name, rest) ← readString rest
      let (value, rest) ← readValue bound (← readColon rest)
      let (fields, rest) ← readFields bound rest
      return ((name, value) :: fields, rest)
    | _ => none

end

/-- Every value and every separator takes at least one character. -/
def ofText? (text : String) : Option Json :=
  (readValue (2 * text.length + 2) text.toList).map (·.1)

def escaped (c : Char) : List Char :=
  if c = '"' ∨ c = '\\' then ['\\', c]
  else if c.toNat < 0x20 then
    "\\u00".toList ++ Text.hexPair (UInt8.ofNat c.toNat)
  else [c]

def quoted (text : String) : String :=
  "\"" ++ String.ofList (text.toList.flatMap escaped) ++ "\""

mutual

def text : Json → String
  | .null => "null"
  | .bool value => toString value
  | .integer value => toString value
  | .decimal written => written
  | .string value => quoted value
  | .array items => "[" ++ String.intercalate "," (itemTexts items) ++ "]"
  | .object fields => "\x7b" ++ String.intercalate "," (fieldTexts fields) ++ "\x7d"

def itemTexts : List Json → List String
  | [] => []
  | item :: rest => item.text :: itemTexts rest

def fieldTexts : List (String × Json) → List String
  | [] => []
  | (name, value) :: rest => (quoted name ++ ":" ++ value.text) :: fieldTexts rest

end

end TunerRelay.Json
