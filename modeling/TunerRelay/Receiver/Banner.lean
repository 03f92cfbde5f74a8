import TunerRelay.Decimal.Reading
import TunerRelay.Text.Blank
import TunerRelay.Tuner.Gain

/-!
What the capture tool prints about a receiver when it starts. Lines are told apart by how they begin
and end; each field is given by the last line of its own shape, and all other lines are noise.
-/

namespace TunerRelay.Receiver

open TunerRelay.Tuner (Chip gainTable)

structure Banner where
  deviceCount : UInt64 := 0
  deviceName : Option String := none
  tunerName : Option String := none
  tuner : UInt32 := 0
  /-- Tenths of a decibel. -/
  gains : List Int32 := []
  noDevices : Bool := false
deriving DecidableEq, Repr

/-- A line by its shape. -/
inductive Line where
  | noDevices
  | deviceCount (count : UInt64)
  | tuner (name : List Char)
  | device (name : List Char)
  | gains (gains : List Int32)
  | noise
deriving DecidableEq, Repr

/-- The text behind an opening, if it begins with it. -/
def after? (opening text : List Char) : Option (List Char) :=
  if opening.isPrefixOf text then some (text.drop opening.length) else none

/-- The text before an ending, if it ends with it. -/
def before? (ending text : List Char) : Option (List Char) :=
  if ending.isSuffixOf text then some (text.take (text.length - ending.length)) else none

/-- The text behind the first colon. -/
def afterColon? (text : List Char) : Option (List Char) :=
  match text.dropWhile (· ≠ ':') with
  | _ :: rest => some rest
  | [] => none

/-- Gains in decibels, in tenths; words that are no numbers are passed over. -/
def gainsOf (text : List Char) : List Int32 :=
  (Text.words text).filterMap fun word =>
    (Decimal.Single.ofText? word).map fun decibels => decibels.timesTen.toInt32

def Line.ofFound (found : List Char) : Line :=
  match before? " device(s):".toList found with
  | some count => .deviceCount ((Text.uint64? (Text.trim count)).getD 0)
  | none =>
    match before? " tuner".toList found with
    | some name => .tuner name
    | none => .noise

def Line.ofDevice (line : List Char) : Line :=
  match (afterColon? line).map Text.trim with
  | some (c :: name) => .device (c :: name)
  | _ => .noise

def Line.ofGains (line : List Char) : Line :=
  match afterColon? line with
  | some text => .gains (gainsOf text)
  | none => .noise

def Line.ofText (text : List Char) : Line :=
  let line := Text.trim text
  if "No supported devices".toList.isPrefixOf line then .noDevices
  else
    match after? "Found ".toList line with
    | some found => .ofFound found
    | none =>
      if "Using device".toList.isPrefixOf line then .ofDevice line
      else if "Supported gain values".toList.isPrefixOf line then .ofGains line
      else .noise

def Banner.read (banner : Banner) : Line → Banner
  | .noDevices => { banner with noDevices := true }
  | .deviceCount count => { banner with deviceCount := count }
  | .tuner name =>
    { banner with
      tuner := (Chip.ofName (String.ofList name)).number
      tunerName := some (String.ofList (Text.trim name)) }
  | .device name => { banner with deviceName := some (String.ofList name) }
  | .gains gains => { banner with gains }
  | .noise => banner

/-- Where no gains are listed, the table of the tuner found stands in. -/
def Banner.complete (banner : Banner) : Banner :=
  if banner.gains.isEmpty then { banner with gains := gainTable banner.tuner } else banner

def Banner.ofLines (lines : List String) : Banner :=
  (lines.foldl (fun (banner : Banner) line => banner.read (.ofText line.toList)) {}).complete

end TunerRelay.Receiver
