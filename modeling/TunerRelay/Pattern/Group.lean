import TunerRelay.Pattern.Class
import TunerRelay.Text.Letter

/-!
Groups of a regular expression, and what opens them.
-/

namespace TunerRelay.Pattern

/-- An item of a branch. -/
structure Item where
  height : Nat := 0
  /-- Whether it may be repeated, which switches may not. -/
  repeats : Bool := true
deriving DecidableEq, Repr

/-- A group that is open; the whole expression is one, too. -/
structure Group where
  mode : Mode
  /-- Heights of the branches before the current one. -/
  branches : List Nat := []
  /-- Items of the current branch, latest first. -/
  items : List Item := []
deriving DecidableEq, Repr

namespace Group

def add (item : Item) (group : Group) : Group := { group with items := item :: group.items }

def branchHeight (group : Group) : Nat := heightOver (group.items.map Item.height)

/-- Starts another branch. -/
def branch (group : Group) : Group :=
  { group with branches := group.branchHeight :: group.branches, items := [] }

def height (group : Group) : Nat := heightOver (group.branchHeight :: group.branches)

/-- Has the latest item repeated. -/
def repeat? (group : Group) : Option Group :=
  match group.items with
  | item :: items =>
    if item.repeats then some { group with items := { height := 1 + item.height } :: items }
    else none
  | [] => none

/-- Switches that hold for the rest of the group. -/
def set (setting : Setting) (group : Group) : Group :=
  { group with mode := group.mode.set setting }.add { repeats := false }

end Group

/-- What a parenthesis opens. -/
inductive Opening where
  | group
  | named (name : List Char)
  /-- A group in which switches hold. -/
  | switched (setting : Setting)
  /-- No group; the switches hold for the rest of the one around. -/
  | switches (setting : Setting)
deriving DecidableEq, Repr

namespace Opening

def startsName (c : Char) : Bool := c == '_' || Text.isLetter c

def continuesName (c : Char) : Bool :=
  ['_', '.', '[', ']'].contains c || Text.isLetterOrNumber c

def isName : List Char → Bool
  | [] => false
  | first :: rest => startsName first && rest.all continuesName

/-- A group's name up to `>`, and the rest. -/
def ofName? (text : List Char) : Option (Opening × List Char) := do
  let name := text.takeWhile (· ≠ '>')
  let _ :: rest := text.dropWhile (· ≠ '>') | none
  if isName name then some (.named name, rest) else none

/-- Switches up to `:`, for a group, or to the end of the parenthesis, and the rest. -/
def ofSetting? (text : List Char) : Option (Opening × List Char) := do
  let isInside := fun c => c ≠ ':' ∧ c ≠ ')'
  let setting ← Setting.ofText? (text.takeWhile isInside)
  match text.dropWhile isInside with
  | [] => none
  | ':' :: rest => some (.switched setting, rest)
  | _ :: rest =>
    if setting.on = [] ∧ setting.off = [] then none else some (.switches setting, rest)

/-- What is opened, and the rest, from behind the parenthesis. -/
def ofText? : List Char → Option (Opening × List Char)
  | '?' :: 'P' :: '<' :: rest => ofName? rest
  | '?' :: '<' :: rest => ofName? rest
  | '?' :: rest => ofSetting? rest
  | text => some (.group, text)

end Opening

end TunerRelay.Pattern
