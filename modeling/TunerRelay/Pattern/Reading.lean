import TunerRelay.Pattern.Group

/-!
Which texts are regular expressions: groups that are closed, names that are given once, repetitions
of something, and atoms and classes that can be matched where they stand.
-/

namespace TunerRelay.Pattern

/-- Height of a whole expression, of which this group is open inside of others, and these names
have been given. -/
def close? : Nat → List (List Char) → List Group → Group → List Char → Option Nat
  | 0, _, _, _, _ => none
  | fuel + 1, names, outer, group, text =>
    match group.mode.skip text with
    | [] => if outer.isEmpty then some group.height else none
    | '(' :: rest => do
      let (opening, rest) ← Opening.ofText? (group.mode.skip rest)
      match opening with
      | .group => close? fuel names (group :: outer) { mode := group.mode } rest
      | .named name =>
        if names.contains name then none
        else close? fuel (name :: names) (group :: outer) { mode := group.mode } rest
      | .switched setting =>
        close? fuel names (group :: outer) { mode := group.mode.set setting } rest
      | .switches setting => close? fuel names outer (group.set setting) rest
    | ')' :: rest =>
      match outer with
      | [] => none
      | parent :: outer => close? fuel names outer (parent.add { height := 1 + group.height }) rest
    | '|' :: rest => close? fuel names outer group.branch rest
    | '[' :: rest => do
      let (height, rest) ← readClass? group.mode rest
      close? fuel names outer (group.add { height }) rest
    | c :: rest =>
      if ['?', '*', '+'].contains c then do
        let group ← group.repeat?
        close? fuel names outer group (if rest.head? = some '?' then rest.drop 1 else rest)
      else if c = '\x7b' then none
      else do
        let (atom, rest) ← atom? group.mode (c :: rest)
        if atom.isUsable group.mode then close? fuel names outer (group.add {}) rest else none

/-- The height that no expression exceeds. -/
def heightLimit : Nat := 250

/-- Whether the text is a regular expression. -/
def isReadable (text : List Char) : Bool :=
  (close? (text.length + 1) [] [] { mode := {} } text).any (· ≤ heightLimit)

end TunerRelay.Pattern
