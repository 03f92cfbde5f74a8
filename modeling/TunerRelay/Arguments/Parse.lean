import TunerRelay.Arguments.Basic
import TunerRelay.Arguments.Token
import TunerRelay.Text.Blank
import TunerRelay.Text.Numeral

/-!
Reading an argument string: pairs of a flag and a value. Of several values for one flag the last one
counts, and flags that are not known do no harm.
-/

namespace TunerRelay.Arguments

inductive Fault where
  | missingValue (flag : String)
  | missingDash (flag : String)
  | missingName
  | missingFlag (name : String)
  | addressTooLong
  | invalidNumber (value name : String)
deriving DecidableEq, Repr

def Fault.message : Fault → String
  | .missingValue flag => "no value for argument " ++ flag
  | .missingDash flag => "argument " ++ flag ++ " must start with a dash"
  | .missingName => "missing argument after dash"
  | .missingFlag name => "expected argument '-" ++ name ++ "'"
  | .addressTooLong =>
    "address must be shorter than " ++ toString addressLimit ++ " characters"
  | .invalidNumber value name =>
    "invalid number '" ++ value ++ "' for argument '-" ++ name ++ "'"

/-- A flag's name without the dash, and its value. -/
structure Entry where
  name : List Char
  value : List Char
deriving DecidableEq, Repr

/-- The name behind the dash. -/
def flagName (flag : List Char) : Except Fault (List Char) :=
  match flag with
  | ['-'] => .error .missingName
  | '-' :: name => .ok name
  | flag => .error (.missingDash (String.ofList flag))

/-- Tokens taken two by two. The first pair that is wrong stops the reading. -/
def entries : List (List Char) → Except Fault (List Entry)
  | [] => .ok []
  | [flag] => .error (.missingValue (String.ofList (Text.trim flag)))
  | flag :: value :: rest => do
    let name ← flagName (Text.trim flag)
    let following ← entries rest
    return { name, value := unquote (Text.trim value) } :: following

/-- The value that the last entry with this name gives. -/
def valueOf? (entries : List Entry) (name : Char) : Option (List Char) :=
  (entries.reverse.find? fun entry => entry.name == [name]).map Entry.value

def required (entries : List Entry) (name : Char) : Except Fault (List Char) :=
  match valueOf? entries name with
  | some value => .ok value
  | none => .error (.missingFlag name.toString)

def number {α : Type} (read? : List Char → Option α) (name : Char) (value : List Char) :
    Except Fault α :=
  match read? value with
  | some number => .ok number
  | none => .error (.invalidNumber (String.ofList value) name.toString)

def numberOr {α : Type} (read? : List Char → Option α) (entries : List Entry) (name : Char)
    (default : α) : Except Fault α :=
  match valueOf? entries name with
  | some value => number read? name value
  | none => .ok default

/-- The arguments that the entries give, with defaults for all but address and port. -/
def ofEntries (entries : List Entry) : Except Fault Arguments := do
  let address ← required entries 'a'
  if addressLimit ≤ address.length then throw .addressTooLong
  let gain ← numberOr Text.int32? entries 'g' defaultGain
  let sampleRate ← numberOr Text.uint64? entries 's' defaultSampleRate
  let frequency ← numberOr Text.uint64? entries 'f' defaultFrequency
  let portValue ← required entries 'p'
  let port ← number Text.uint16? 'p' portValue
  let ppm ← numberOr Text.int32? entries 'P' defaultPpm
  return { gain, sampleRate, frequency, address := String.ofList address, port, ppm }

def parse (text : String) : Except Fault Arguments := do
  let entries ← entries (tokens text.toList)
  ofEntries entries

end TunerRelay.Arguments
