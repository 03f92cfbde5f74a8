import TunerRelay.Decimal.Reading
import TunerRelay.Log.Basic
import TunerRelay.Pattern.Reading
import TunerRelay.Text.Slice

/-!
Directives, each of which sets a limit for the entries that it is about: `warn`,
`rtl_tcp_server=debug`, `off`. Brackets ask for a span of the program, braces for a field of the
entries: `server[opening{peer=10}]=trace`.
-/

namespace TunerRelay.Log

/-- The last level that is written; none where everything is off. -/
abbrev Limit := Option Level

def Level.ofNumber? (number : Nat) : Option Level :=
  Level.all.find? fun level => level.number == number

def Level.ofName? (name : List Char) : Option Level :=
  Level.all.find? fun level => level.name.toList == name

/-- A limit by its number, where zero is off, or by its name in either case. -/
def limitOfText? (text : List Char) : Option Limit :=
  let upper := text.map Char.toUpper
  match (Text.unsigned? 64 text).filter (· ≤ 5) with
  | some number => some (Level.ofNumber? number)
  | none => if upper = "OFF".toList then some none else (Level.ofName? upper).map some

/-- Why directives cannot be followed. -/
inductive Flaw where
  | malformed
  /-- A part of a directive begins or ends inside a character. -/
  | severed
deriving DecidableEq, Repr

/-- A field that entries should have, and perhaps its value. -/
structure Field where
  name : List Char
  value : Option (List Char)
deriving DecidableEq, Repr

namespace Field

/-- A value is a number or a regular expression. -/
def isValue (text : List Char) : Bool :=
  (Decimal.Single.ofText? text).isSome || Pattern.isReadable text

/-- What follows a second equals sign is ignored. -/
def ofText (text : List Char) : Field :=
  { name := text.takeWhile (· ≠ '=')
    value :=
      match text.dropWhile (· ≠ '=') with
      | [] => none
      | _ :: rest => some (rest.takeWhile (· ≠ '=')) }

def ofText? (text : List Char) : Except Flaw Field :=
  let field := ofText text
  if text ≠ [] ∧ field.value.all isValue then .ok field else .error .malformed

end Field

structure Directive where
  /-- The beginning of the paths that it is about; none where it is about all. -/
  target : Option (List Char)
  span : Option (List Char)
  field : Option Field
  limit : Limit
deriving DecidableEq, Repr

namespace Directive

/-- The part of a directive that is being read, and the offset where it began. -/
inductive Stage where
  /-- Nothing has been read. -/
  | opening
  /-- A target, or a limit for all. -/
  | word
  | span (start : Nat)
  | field (start : Nat)
  /-- Behind a field. -/
  | fieldEnd
  /-- Behind a bracket. -/
  | spanEnd
  | limit (start : Nat)
deriving DecidableEq, Repr

/-- What has been read of a directive. -/
structure Draft where
  stage : Stage := .opening
  target : Option (List Char) := none
  span : Option (List Char) := none
  field : Option Field := none
deriving DecidableEq, Repr

/-- Targets begin with a letter, a number, a dash, a colon or an underscore. -/
def startsTarget (c : Char) : Bool := ['-', ':', '_'].contains c || Text.isLetterOrNumber c

def cut (text : List Char) (start stop : Nat) : Except Flaw (List Char) :=
  match Text.slice? start stop text with
  | some part => .ok part
  | none => .error .severed

/-- Reads the character at an offset; parts are cut from the text at the offsets. -/
def Draft.step (text : List Char) (draft : Draft) (offset : Nat) (c : Char) :
    Except Flaw Draft :=
  match draft.stage with
  | .opening =>
    if c = '[' then .ok { draft with stage := .span (offset + 1) }
    else if startsTarget c then .ok { draft with stage := .word }
    else .error .malformed
  | .word =>
    if c = '=' ∨ c = '[' then do
      let target ← cut text 0 offset
      let stage := if c = '=' then Stage.limit (offset + 1) else .span (offset + 1)
      return { draft with stage, target := some target }
    else .ok draft
  | .span start =>
    if c = ']' then do
      return { draft with stage := .spanEnd, span := some (← cut text start offset) }
    else if c = '\x7b' then do
      let span ← cut text start offset
      return {
        draft with
        stage := .field (offset + 1)
        span := if span = [] then none else some span }
    else .ok draft
  | .field start =>
    if c = '\x7d' then do
      let field ← Field.ofText? (← cut text start offset)
      return { draft with stage := .fieldEnd, field := some field }
    else .ok draft
  | .fieldEnd => if c = ']' then .ok { draft with stage := .spanEnd } else .error .malformed
  | .spanEnd =>
    if c = '=' then .ok { draft with stage := .limit (offset + 1) } else .error .malformed
  | .limit _ => .ok draft

def Draft.read (text : List Char) (draft : Draft) (offset : Nat) :
    List Char → Except Flaw Draft
  | [] => .ok draft
  | c :: rest => do (← draft.step text offset c).read text (offset + c.utf8Size) rest

def Draft.complete (draft : Draft) (limit : Limit) : Directive :=
  { target := draft.target, span := draft.span, field := draft.field, limit }

/-- Behind a target everything is written unless a limit is given. A word that is a limit is no
target. -/
def Draft.finish (text : List Char) (draft : Draft) : Except Flaw Directive :=
  match draft.stage with
  | .word =>
    match limitOfText? text with
    | some limit => .ok (draft.complete limit)
    | none => .ok ({ draft with target := some text }.complete (some .trace))
  | .spanEnd => .ok (draft.complete (some .trace))
  | .limit start => do
    let given ← cut text start (Text.byteCount text)
    if given = [] then .ok (draft.complete (some .trace))
    else
      match limitOfText? given with
      | some limit => .ok (draft.complete limit)
      | none => .error .malformed
  | .opening | .span _ | .field _ | .fieldEnd => .error .malformed

/-- The characters are read without the blanks at both ends, and counted from there; the parts are
cut from the text with its blanks. -/
def ofText? (text : List Char) : Except Flaw Directive := do
  (← ({} : Draft).read text 0 (Text.trim text)).finish text

/-- The name of the only field that entries have, which is their text. -/
def entryField : List Char := "message".toList

/-- Whether it is about the entries from this path. None of them comes from a span. -/
def concerns (path : List Char) (directive : Directive) : Bool :=
  directive.span.isNone
    && (directive.field.all fun field => field.name == entryField && field.value.isNone)
    && directive.target.all fun target => target.isPrefixOf path

/-- How closely it tells what it is about: by the length of its target first, then by a field. -/
def reach (directive : Directive) : Nat :=
  2 * (directive.target.map List.length).getD 0 + directive.field.toList.length

end Directive

end TunerRelay.Log
