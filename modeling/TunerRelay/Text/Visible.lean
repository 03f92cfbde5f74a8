import TunerRelay.Text.Hex

/-!
Text made safe to show. Control characters that steer a terminal are spelled by their hexadecimal
numbers; the others, such as tabs, stay.
-/

namespace TunerRelay.Text

/-- Bell, backspace, form feed, escape and delete. -/
def steersTerminal (c : Char) : Bool := [0x07, 0x08, 0x0c, 0x1b, 0x7f].contains c.toNat

/-- The second set of control characters, from `U+0080` to `U+009F`. -/
def isUpperControl (c : Char) : Bool := 0x80 ≤ c.toNat && c.toNat ≤ 0x9f

def visibleChar (c : Char) : List Char :=
  let digits := hexPair (UInt8.ofNat c.toNat)
  if steersTerminal c then '\\' :: 'x' :: digits
  else if isUpperControl c then '\\' :: 'u' :: '\x7b' :: digits ++ ['\x7d']
  else [c]

theorem digitChar_harmless :
    ∀ n < 16, steersTerminal n.digitChar = false ∧ isUpperControl n.digitChar = false := by
  decide

/-- No character that was to be spelled is left. -/
theorem visibleChar_harmless {c shown : Char} (mem : shown ∈ visibleChar c) :
    steersTerminal shown = false ∧ isUpperControl shown = false := by
  have digits : ∀ digit ∈ hexPair (UInt8.ofNat c.toNat),
      steersTerminal digit = false ∧ isUpperControl digit = false := by
    have byte := (UInt8.ofNat c.toNat).toNat_lt
    intro digit mem
    simp only [hexPair, List.mem_cons, List.not_mem_nil, or_false] at mem
    rcases mem with rfl | rfl
    · exact digitChar_harmless _ (by omega)
    · exact digitChar_harmless _ (by omega)
  unfold visibleChar at mem
  split at mem
  · simp only [List.mem_cons] at mem
    rcases mem with rfl | rfl | mem
    · decide
    · decide
    · exact digits shown mem
  · split at mem
    · simp only [List.cons_append, List.mem_cons, List.mem_append, List.not_mem_nil,
        or_false] at mem
      rcases mem with rfl | rfl | rfl | mem | rfl
      · decide
      · decide
      · decide
      · exact digits shown mem
      · decide
    · obtain rfl := List.mem_singleton.mp mem
      simp_all

def visible (text : String) : String := String.ofList (text.toList.flatMap visibleChar)

end TunerRelay.Text
