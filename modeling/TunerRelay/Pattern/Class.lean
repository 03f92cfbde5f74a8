import TunerRelay.Pattern.Atom

/-!
Character classes between brackets: items, ranges, classes inside of classes, and the operators
`&&`, `--` and `~~` between them. Of a class only its height as a tree is kept.
-/

namespace TunerRelay.Pattern

/-- Height of a node over its parts; a single part needs no node. -/
def heightOver : List Nat → Nat
  | [] => 0
  | [height] => height
  | heights => 1 + heights.foldl max 0

/-- A class that is open. -/
structure OpenClass where
  /-- Whether nothing has been read but dashes, which stand for themselves there. -/
  leading : Bool := true
  /-- Heights of the items since the last operator. -/
  items : List Nat := []
  /-- Height of what is on the left of that operator. -/
  left : Option Nat := none
deriving DecidableEq, Repr

namespace OpenClass

def add (height : Nat) (opened : OpenClass) : OpenClass :=
  { opened with leading := false, items := height :: opened.items }

def addDash (opened : OpenClass) : OpenClass := { opened with items := 0 :: opened.items }

/-- Whether nothing at all has been read. A closing bracket stands for itself there, and begins no
range. -/
def isFresh (opened : OpenClass) : Bool := opened.leading && opened.items.isEmpty

/-- Height of what stands between the brackets. -/
def height (opened : OpenClass) : Nat :=
  match opened.left with
  | none => heightOver opened.items
  | some left => heightOver [left, heightOver opened.items]

def operate (opened : OpenClass) : OpenClass := { leading := false, left := some opened.height }

end OpenClass

/-- Names of classes that are written `[:name:]`. -/
def classNames : List String :=
  ["alnum", "alpha", "ascii", "blank", "cntrl", "digit", "graph", "lower", "print", "punct",
    "space", "upper", "word", "xdigit"]

/-- Whether a named class is negated, and the rest, from behind its bracket. -/
def namedClass? (text : List Char) : Option (Bool × List Char) := do
  let ':' :: text := text | none
  let (negated, text) := match text with
    | '^' :: text => (true, text)
    | text => (false, text)
  let ':' :: ']' :: rest := text.dropWhile (· ≠ ':') | none
  if classNames.contains (String.ofList (text.takeWhile (· ≠ ':'))) then some (negated, rest)
  else none

/-- The rest behind a class's opening bracket and its negation. Where characters are bytes, a
complement would match halves of characters. -/
def openClass? (mode : Mode) (text : List Char) : Option (List Char) :=
  match mode.skip text with
  | '^' :: rest => if mode.unicode then some rest else none
  | text => some text

def endsRange (last first : Atom) : Bool :=
  match first, last with
  | .literal first _, .literal last _ => first ≤ last
  | _, _ => false

/-- The rest behind an item or a range of items. A dash before a bracket or another dash makes no
range. -/
def classItem? (mode : Mode) (text : List Char) : Option (List Char) := do
  let (first, rest) ← classAtom? mode text
  if !first.isMember mode then none
  else
    match mode.skip rest with
    | '-' :: after =>
      if mode.peek after = some ']' ∨ mode.peek after = some '-' then some ('-' :: after)
      else
        let (last, rest) ← classAtom? mode (mode.skip after)
        if last.isMember mode ∧ endsRange last first then some rest else none
    | rest => some rest

/-- What is read in a class at one go. -/
inductive ClassPart where
  | dash
  | item
  | opening
  | closing
  | operator
deriving DecidableEq, Repr

/-- The next part of an open class, and the rest. -/
def classPart? (mode : Mode) (opened : OpenClass) (text : List Char) :
    Option (ClassPart × List Char) :=
  match mode.skip text with
  | [] => none
  | c :: rest =>
    if c = '-' ∧ opened.leading then
      if (Atom.literal c false).isMember mode then some (.dash, rest) else none
    else if c = ']' then
      if ¬opened.isFresh then some (.closing, rest)
      else if (Atom.literal c false).isMember mode then some (.item, rest)
      else none
    else if c = '[' then
      match namedClass? rest with
      | some (negated, rest) =>
        if (if mode.unicode then !mode.caseless else !negated) then some (.item, rest) else none
      | none => (openClass? mode rest).map fun rest => (.opening, rest)
    else if ['&', '-', '~'].contains c ∧ rest.head? = some c then some (.operator, rest.drop 1)
    else (classItem? mode (c :: rest)).map fun rest => (.item, rest)

/-- Height of a class and the rest behind it, where this class is open inside of others. -/
def closeClass? (mode : Mode) : Nat → List OpenClass → OpenClass → List Char →
    Option (Nat × List Char)
  | 0, _, _, _ => none
  | fuel + 1, outer, opened, text => do
    let (part, rest) ← classPart? mode opened text
    match part, outer with
    | .dash, _ => closeClass? mode fuel outer opened.addDash rest
    | .item, _ => closeClass? mode fuel outer (opened.add 0) rest
    | .operator, _ => closeClass? mode fuel outer opened.operate rest
    | .opening, _ => closeClass? mode fuel (opened :: outer) {} rest
    | .closing, [] => some (1 + opened.height, rest)
    | .closing, parent :: outer => closeClass? mode fuel outer (parent.add (1 + opened.height)) rest

/-- Height of a class and the rest behind it, from behind its bracket. -/
def readClass? (mode : Mode) (text : List Char) : Option (Nat × List Char) := do
  let rest ← openClass? mode text
  closeClass? mode (rest.length + 1) [] {} rest

end TunerRelay.Pattern
