/-!
Tokens of an argument string. Spaces separate tokens, save between two quotes of one kind; those two
are dropped, and the other kind is an ordinary character between them.
-/

namespace TunerRelay.Arguments

def isQuote (c : Char) : Bool := c == '\'' || c == '"'

/-- A token given last character first, unless it is empty. -/
def closeToken (current : List Char) : List (List Char) :=
  if current.isEmpty then [] else [current.reverse]

/-- The tokens of a text whose current token, last character first, has been read already. The quote
is the one that is open. -/
def tokensFrom : Option Char → List Char → List Char → List (List Char)
  | _, current, [] => closeToken current
  | none, current, c :: rest =>
    if isQuote c then tokensFrom (some c) current rest
    else if c = ' ' then closeToken current ++ tokensFrom none [] rest
    else tokensFrom none (c :: current) rest
  | some quote, current, c :: rest =>
    if c = quote then tokensFrom none current rest
    else tokensFrom (some quote) (c :: current) rest

/-- An open quote at the end of the text is closed there; empty tokens are left out. -/
def tokens (text : List Char) : List (List Char) := tokensFrom none [] text

/-- The text without one pair of equal quotes around it. A lone quote is no pair. -/
def unquote (text : List Char) : List Char :=
  match text with
  | first :: second :: rest =>
    if isQuote first ∧ (second :: rest).getLast? = some first then (second :: rest).dropLast
    else text
  | text => text

end TunerRelay.Arguments
