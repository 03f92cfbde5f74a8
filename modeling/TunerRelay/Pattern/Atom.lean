import TunerRelay.Pattern.Mode
import TunerRelay.Text.Hex

/-!
The least parts of a regular expression: characters, escapes and assertions. Expressions come
without tables of letter cases and scripts, so what needs them is refused: caseless characters,
shorthands such as `\d` and word boundaries, unless they are restricted to ASCII. What is restricted
to ASCII, in turn, must not match half of a character.
-/

namespace TunerRelay.Pattern

inductive Atom where
  /-- A character; one that is spelled as a byte matches that byte where characters are bytes. -/
  | literal (c : Char) (isByte : Bool)
  /-- A class such as `\d`, or its complement. -/
  | shorthand (negated : Bool)
  | dot
  | wordBoundary
  /-- The beginning or the end of a line or of the text. -/
  | edge
deriving DecidableEq, Repr

namespace Atom

/-- Whether it can be matched where it stands by itself. -/
def isUsable (mode : Mode) : Atom → Bool
  | literal c isByte => if mode.unicode then !mode.caseless else !(isByte && 0x7f < c.toNat)
  | shorthand negated => !mode.unicode && !negated
  | dot => mode.unicode
  | wordBoundary => !mode.unicode
  | edge => true

/-- Whether it can be matched in a class. -/
def isMember (mode : Mode) : Atom → Bool
  | literal c _ => if mode.unicode then !mode.caseless else c.toNat ≤ 0x7f
  | shorthand negated => !mode.unicode && !negated
  | dot | wordBoundary | edge => false

end Atom

/-- That many characters, and the rest. What may be passed over before each of them is. -/
def takeSpaced? (mode : Mode) : Nat → List Char → Option (List Char × List Char)
  | 0, text => some ([], text)
  | count + 1, text => do
    let c :: rest := mode.skip text | none
    let (taken, rest) ← takeSpaced? mode count rest
    return (c :: taken, rest)

/-- A character by that many digits of its number. -/
def hexLiteral? (mode : Mode) (digits : Nat) (text : List Char) : Option (Atom × List Char) := do
  let (spelled, rest) ← takeSpaced? mode digits text
  let number ← Text.hexValue? spelled
  if number.isValidChar then some (.literal (Char.ofNat number) (digits = 2), rest) else none

/-- ASCII characters that stand for themselves behind a backslash. -/
def escapesItself (c : Char) : Bool :=
  c.toNat < 128 && !c.isAlphanum && c ≠ '<' && c ≠ '>'

/-- Control characters behind a backslash. -/
def controlOfLetter? : Char → Option Char
  | 'a' => some '\x07'
  | 'f' => some '\x0c'
  | 't' => some '\t'
  | 'n' => some '\n'
  | 'r' => some '\r'
  | 'v' => some '\x0b'
  | _ => none

/-- What a single letter or sign behind a backslash means. -/
def escapeOf? (c : Char) : Option Atom :=
  if escapesItself c then some (.literal c false)
  else if ['d', 's', 'w'].contains c then some (.shorthand false)
  else if ['D', 'S', 'W'].contains c then some (.shorthand true)
  else if ['b', 'B', '<', '>'].contains c then some .wordBoundary
  else if ['A', 'z'].contains c then some .edge
  else (controlOfLetter? c).map fun control => .literal control false

/-- An escape, from behind its backslash. -/
def escape? (mode : Mode) : List Char → Option (Atom × List Char)
  | 'x' :: rest => hexLiteral? mode 2 rest
  | 'u' :: rest => hexLiteral? mode 4 rest
  | 'U' :: rest => hexLiteral? mode 8 rest
  | c :: rest => (escapeOf? c).map fun atom => (atom, rest)
  | [] => none

/-- An item of a class, where an escape alone has a meaning of its own. -/
def classAtom? (mode : Mode) : List Char → Option (Atom × List Char)
  | '\\' :: rest => escape? mode rest
  | c :: rest => some (.literal c false, rest)
  | [] => none

/-- An item outside of classes. -/
def atom? (mode : Mode) : List Char → Option (Atom × List Char)
  | '.' :: rest => some (.dot, rest)
  | '^' :: rest => some (.edge, rest)
  | '$' :: rest => some (.edge, rest)
  | text => classAtom? mode text

end TunerRelay.Pattern
