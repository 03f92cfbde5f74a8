/-!
Cuts of a text at offsets in bytes of UTF-8. A cut inside of a character is refused.
-/

namespace TunerRelay.Text

/-- The text behind that many bytes. -/
def dropBytes? : Nat → List Char → Option (List Char)
  | 0, text => some text
  | _ + 1, [] => none
  | count + 1, c :: rest =>
    if c.utf8Size ≤ count + 1 then dropBytes? (count + 1 - c.utf8Size) rest else none

/-- The text of that many bytes at the front. -/
def takeBytes? : Nat → List Char → Option (List Char)
  | 0, _ => some []
  | _ + 1, [] => none
  | count + 1, c :: rest =>
    if c.utf8Size ≤ count + 1 then (takeBytes? (count + 1 - c.utf8Size) rest).map (c :: ·) else none

/-- The text from one offset up to another. -/
def slice? (start stop : Nat) (text : List Char) : Option (List Char) :=
  (dropBytes? start text).bind (takeBytes? (stop - start))

/-- Bytes that a text takes. -/
def byteCount (text : List Char) : Nat := text.foldr (fun c count => c.utf8Size + count) 0

theorem takeBytes?_append (front rest : List Char) :
    takeBytes? (byteCount front) (front ++ rest) = some front := by
  induction front with
  | nil => simp [byteCount, takeBytes?]
  | cons c front ih =>
    have size := c.utf8Size_pos
    have count : byteCount (c :: front) = (c.utf8Size - 1 + byteCount front) + 1 := by
      simp only [byteCount, List.foldr_cons]
      omega
    have left : c.utf8Size - 1 + byteCount front + 1 - c.utf8Size = byteCount front := by omega
    rw [count, List.cons_append, takeBytes?, left, ih, if_pos (by omega)]
    rfl

theorem dropBytes?_append (front rest : List Char) :
    dropBytes? (byteCount front) (front ++ rest) = some rest := by
  induction front with
  | nil => simp [byteCount, dropBytes?]
  | cons c front ih =>
    have size := c.utf8Size_pos
    have count : byteCount (c :: front) = (c.utf8Size - 1 + byteCount front) + 1 := by
      simp only [byteCount, List.foldr_cons]
      omega
    have left : c.utf8Size - 1 + byteCount front + 1 - c.utf8Size = byteCount front := by omega
    rw [count, List.cons_append, dropBytes?, left, ih, if_pos (by omega)]

end TunerRelay.Text
