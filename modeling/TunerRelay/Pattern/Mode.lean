import TunerRelay.Text.Blank

/-!
Switches of a regular expression. A switch holds from where it stands to the end of its group.
-/

namespace TunerRelay.Pattern

inductive Switch where
  | caseless
  | multiline
  | dotAll
  | swapGreed
  | unicode
  | carriageReturn
  | spaced
deriving DecidableEq, Repr

def Switch.letter : Switch → Char
  | .caseless => 'i'
  | .multiline => 'm'
  | .dotAll => 's'
  | .swapGreed => 'U'
  | .unicode => 'u'
  | .carriageReturn => 'R'
  | .spaced => 'x'

def Switch.all : List Switch :=
  [.caseless, .multiline, .dotAll, .swapGreed, .unicode, .carriageReturn, .spaced]

def Switch.ofLetter? (letter : Char) : Option Switch :=
  all.find? fun switch => switch.letter == letter

@[simp]
theorem Switch.ofLetter?_letter (switch : Switch) : ofLetter? switch.letter = some switch := by
  cases switch <;> rfl

/-- Switches turned on, and switches turned off. -/
structure Setting where
  on : List Switch
  off : List Switch
deriving DecidableEq, Repr

/-- Reads `im-sx`. No switch stands twice, and a dash does not stand last. -/
def Setting.ofText? (text : List Char) : Option Setting := do
  let on ← (text.takeWhile (· ≠ '-')).mapM Switch.ofLetter?
  let dashed := text.dropWhile (· ≠ '-')
  let off ← (dashed.drop 1).mapM Switch.ofLetter?
  if (on ++ off).Nodup ∧ (dashed ≠ [] → off ≠ []) then some { on, off } else none

/-- What the switches in force decide about reading on. -/
structure Mode where
  caseless : Bool := false
  unicode : Bool := true
  /-- Whether blanks and comments are passed over. -/
  spaced : Bool := false
deriving DecidableEq, Repr

namespace Mode

def turn (value : Bool) (mode : Mode) : Switch → Mode
  | .caseless => { mode with caseless := value }
  | .unicode => { mode with unicode := value }
  | .spaced => { mode with spaced := value }
  | _ => mode

def set (setting : Setting) (mode : Mode) : Mode :=
  setting.off.foldl (turn false) (setting.on.foldl (turn true) mode)

/-- The text behind blanks, and behind comments, which go from `#` to the end of their line. -/
def skipBlanks (inComment : Bool) : List Char → List Char
  | [] => []
  | c :: rest =>
    if inComment then skipBlanks (c ≠ '\n') rest
    else if Text.isBlank c then skipBlanks false rest
    else if c = '#' then skipBlanks true rest
    else c :: rest

/-- The text from where reading goes on. -/
def skip (mode : Mode) (text : List Char) : List Char :=
  if mode.spaced then skipBlanks false text else text

/-- The next character as it is looked at before a range. Of a comment, the first character that is
not blank counts as next. -/
def peek (mode : Mode) (text : List Char) : Option Char :=
  if mode.spaced then
    match text.dropWhile Text.isBlank with
    | '#' :: comment => (comment.dropWhile Text.isBlank).head?
    | rest => rest.head?
  else text.head?

end Mode

end TunerRelay.Pattern
