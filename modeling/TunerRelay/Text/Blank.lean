/-!
Blank characters, after the Unicode property `White_Space`, and what is cut at them: the blanks at
both ends of a text, and the words between them. Other separators cut a text the same way.
-/

namespace TunerRelay.Text

/-- First and last code point of each run of characters with the property `White_Space`. -/
def blankRanges : List (Nat × Nat) :=
  [(0x0009, 0x000d), (0x0020, 0x0020), (0x0085, 0x0085), (0x00a0, 0x00a0), (0x1680, 0x1680),
    (0x2000, 0x200a), (0x2028, 0x2029), (0x202f, 0x202f), (0x205f, 0x205f), (0x3000, 0x3000)]

def isBlank (c : Char) : Bool :=
  blankRanges.any fun range => range.1 ≤ c.toNat && c.toNat ≤ range.2

/-- The text without the blanks at its ends. -/
def trim (text : List Char) : List Char :=
  ((text.dropWhile isBlank).reverse.dropWhile isBlank).reverse

/-- A piece of text given last character first, unless it is empty. -/
def closePiece (current : List Char) : List (List Char) :=
  if current.isEmpty then [] else [current.reverse]

/-- The pieces of a text whose current piece, last character first, has been read already. -/
def piecesFrom (separates : Char → Bool) : List Char → List Char → List (List Char)
  | current, [] => closePiece current
  | current, c :: rest =>
    if separates c then closePiece current ++ piecesFrom separates [] rest
    else piecesFrom separates (c :: current) rest

/-- The pieces between separators, in order; none is empty. -/
def pieces (separates : Char → Bool) (text : List Char) : List (List Char) :=
  piecesFrom separates [] text

/-- The pieces between blanks. -/
def words (text : List Char) : List (List Char) := pieces isBlank text

theorem isBlank_of_isWhitespace (c : Char) (h : c.isWhitespace = true) : isBlank c = true := by
  simp only [Char.isWhitespace, Bool.or_eq_true, decide_eq_true_eq] at h
  rcases h with ((rfl | rfl) | rfl) | rfl <;> decide

end TunerRelay.Text
