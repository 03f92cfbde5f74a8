import TunerRelay.Text.Blank
import TunerRelay.Text.Slice

/-!
Why a host does not start a tool that it does not have. Of the files on a host only those are known
that every host has: some directories and the like, which cannot be run.
-/

namespace TunerRelay.Receiver

inductive Refusal where
  /-- The path holds the character that would end it. -/
  | nul
  | notFound
  | notPermitted
  | nameTooLong
deriving DecidableEq, Repr

namespace Refusal

def text : Refusal → String
  | nul => "nul byte found in provided data"
  | notFound => "No such file or directory (os error 2)"
  | notPermitted => "Permission denied (os error 13)"
  | nameTooLong => "File name too long (os error 36)"

/-- Bytes in the longest name of a file. -/
def longestName : Nat := 255

/-- Bytes in the longest path. -/
def longestPath : Nat := 4095

/-- What lies on every host and cannot be run, from the root on. -/
def commonFiles : List (List String) :=
  [["bin"], ["dev"], ["dev", "null"], ["etc"], ["etc", "passwd"], ["lib"], ["proc"], ["root"],
    ["sys"], ["tmp"], ["usr"], ["usr", "bin"], ["var"]]

/-- Dots name a directory that is there already. -/
def isDots (name : List Char) : Bool := name == ['.'] || name == ['.', '.']

def ofPath (path : String) : Refusal :=
  let names := (Text.pieces (· == '/') path.toList).filter (!isDots ·)
  if path.toList.contains '\x00' then nul
  else if path = "" then notFound
  else if longestPath < Text.byteCount path.toList then nameTooLong
  else
    match names with
    | [] => notPermitted
    | first :: _ =>
      if longestName < Text.byteCount first then nameTooLong
      else if path.toList.head? = some '/' ∧ commonFiles.contains (names.map String.ofList) then
        notPermitted
      else notFound

end Refusal

end TunerRelay.Receiver
