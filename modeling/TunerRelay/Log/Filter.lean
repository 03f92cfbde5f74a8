import TunerRelay.Log.Directive
import TunerRelay.Text.Blank

/-!
Which entries of the log are written. Of the directives, which stand between commas, the one decides
that tells most closely what it is about.
-/

namespace TunerRelay.Log

/-- The variable that holds the directives. -/
def variableName : String := "RUST_LOG"

structure Filter where
  directives : List Directive
deriving DecidableEq, Repr

namespace Filter

/-- Entries from `info` up, for want of directives. -/
def standard : Filter :=
  { directives := [{ target := none, span := none, field := none, limit := some .info }] }

/-- The first directive with a flaw spoils all. -/
def ofText? (text : String) : Except Flaw Filter := do
  return { directives := ← (Text.pieces (· == ',') text.toList).mapM Directive.ofText? }

/-- What a variable's value asks for. Malformed directives are ignored; none follows from a severed
one. -/
def ofVariable? (value : Option String) : Option Filter :=
  match value.map ofText? with
  | some (.ok filter) => some filter
  | some (.error .severed) => none
  | some (.error .malformed) | none => some standard

/-- The farther reaching of two directives; of equals, the later. -/
def prefer (best? : Option Directive) (directive : Directive) : Option Directive :=
  match best? with
  | none => some directive
  | some best => if best.reach ≤ directive.reach then some directive else some best

/-- The limit for a path. Where no directive is about it, everything is off. -/
def limit (filter : Filter) (path : List Char) : Limit :=
  ((filter.directives.filter (Directive.concerns path)).foldl prefer none).bind Directive.limit

def admits (filter : Filter) (entry : Entry) : Bool :=
  match filter.limit entry.scope.path.toList with
  | some level => entry.level.number ≤ level.number
  | none => false

end Filter

end TunerRelay.Log
