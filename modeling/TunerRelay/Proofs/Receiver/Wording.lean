import Mathlib
import TunerRelay.Receiver.Banner

/-!
# The wording of banner lines

What the lines of a banner may look like, as texts with gaps, and that lines are read by it: a line
that is worded like this says just that, and every other line is noise.
-/

namespace TunerRelay.Receiver

/-- What a line says by its wording, blanks at its ends aside. Of a device, or of gains, it speaks
behind its first colon. -/
inductive Line.Says (line : List Char) : Line → Prop where
  | noDevices (rest : List Char)
    (hwords : Text.trim line = "No supported devices".toList ++ rest) : Says line .noDevices
  | deviceCount (count : List Char)
    (hwords : Text.trim line = "Found ".toList ++ (count ++ " device(s):".toList)) :
    Says line (.deviceCount ((Text.uint64? (Text.trim count)).getD 0))
  | tuner (name : List Char)
    (hwords : Text.trim line = "Found ".toList ++ (name ++ " tuner".toList)) :
    Says line (.tuner name)
  | device (between name : List Char)
    (hwords : Text.trim line = "Using device".toList ++ (between ++ ':' :: name))
    (hcolon : ':' ∉ between) (hname : Text.trim name ≠ []) : Says line (.device (Text.trim name))
  | gains (between values : List Char)
    (hwords : Text.trim line = "Supported gain values".toList ++ (between ++ ':' :: values))
    (hcolon : ':' ∉ between) : Says line (.gains (gainsOf values))

/-! ### Openings, endings and colons -/

theorem after?_eq_some_iff {opening text rest : List Char} :
    after? opening text = some rest ↔ text = opening ++ rest := by
  unfold after?
  constructor
  · intro hafter
    split at hafter
    · rename_i hopens
      obtain ⟨found, rfl⟩ := List.isPrefixOf_iff_prefix.mp hopens
      rw [List.drop_left, Option.some_inj] at hafter
      rw [hafter]
    · cases hafter
  · rintro rfl
    rw [if_pos (List.isPrefixOf_iff_prefix.mpr (List.prefix_append opening rest)), List.drop_left]

theorem before?_eq_some_iff {ending text front : List Char} :
    before? ending text = some front ↔ text = front ++ ending := by
  unfold before?
  constructor
  · intro hbefore
    split at hbefore
    · rename_i hends
      obtain ⟨found, rfl⟩ := List.isSuffixOf_iff_suffix.mp hends
      rw [List.length_append, Nat.add_sub_cancel, List.take_left, Option.some_inj] at hbefore
      rw [hbefore]
    · cases hbefore
  · rintro rfl
    rw [if_pos (List.isSuffixOf_iff_suffix.mpr (List.suffix_append front ending)),
      List.length_append, Nat.add_sub_cancel, List.take_left]

theorem afterColon?_eq_some_iff {text rest : List Char} :
    afterColon? text = some rest ↔ ∃ between, text = between ++ ':' :: rest ∧ ':' ∉ between := by
  unfold afterColon?
  constructor
  · intro hafter
    have hsplit := List.takeWhile_append_dropWhile (p := (· ≠ ':')) (l := text)
    split at hafter
    · rename_i c found hdrop
      obtain rfl : found = rest := Option.some.inj hafter
      have hhead := List.head?_dropWhile_not (· ≠ ':') text
      rw [hdrop, List.head?_cons] at hhead
      obtain rfl : c = ':' := by simpa using hhead
      refine ⟨text.takeWhile (· ≠ ':'), ?_, fun hmem => ?_⟩
      · rw [← hdrop, hsplit]
      · simpa using List.mem_takeWhile_imp hmem
    · cases hafter
  · rintro ⟨between, rfl, hcolon⟩
    have hkept : ∀ c ∈ between, decide (c ≠ ':') = true :=
      fun c hc => decide_eq_true fun heq => hcolon (heq ▸ hc)
    rw [List.dropWhile_append_of_pos hkept]
    rfl

/-- What is before the first colon makes no difference. -/
theorem afterColon?_append {opening : List Char} (hcolon : ':' ∉ opening) (rest : List Char) :
    afterColon? (opening ++ rest) = afterColon? rest := by
  have hkept : ∀ c ∈ opening, decide (c ≠ ':') = true :=
    fun c hc => decide_eq_true fun heq => hcolon (heq ▸ hc)
  rw [afterColon?, afterColon?, List.dropWhile_append_of_pos hkept]

/-! ### Lines by their openings -/

section Openings

variable {line rest : List Char}

/-! No opening begins another, since their first letters differ. -/

theorem ofText_noDevices (hwords : Text.trim line = "No supported devices".toList ++ rest) :
    Line.ofText line = .noDevices := by
  have hopens : "No supported devices".toList.isPrefixOf (Text.trim line) = true :=
    List.isPrefixOf_iff_prefix.mpr ⟨rest, hwords.symm⟩
  simp only [Line.ofText, hopens, if_true]

theorem ofText_found (hwords : Text.trim line = "Found ".toList ++ rest) :
    Line.ofText line = .ofFound rest := by
  have hother : "No supported devices".toList.isPrefixOf (Text.trim line) = false := by
    rw [hwords]
    rfl
  have hopens : after? "Found ".toList (Text.trim line) = some rest := after?_eq_some_iff.mpr hwords
  simp only [Line.ofText, hother, hopens, Bool.false_eq_true, if_false]

theorem ofText_device (hwords : Text.trim line = "Using device".toList ++ rest) :
    Line.ofText line = .ofDevice rest := by
  have hother : "No supported devices".toList.isPrefixOf (Text.trim line) = false := by
    rw [hwords]
    rfl
  have hfound : after? "Found ".toList (Text.trim line) = none := by
    rw [hwords]
    rfl
  have hopens : "Using device".toList.isPrefixOf (Text.trim line) = true :=
    List.isPrefixOf_iff_prefix.mpr ⟨rest, hwords.symm⟩
  have hcolon := afterColon?_append (show ':' ∉ "Using device".toList by decide) rest
  simp only [Line.ofText, hother, hfound, hopens, Bool.false_eq_true, if_false, if_true]
  rw [hwords, Line.ofDevice, hcolon, ← Line.ofDevice]

theorem ofText_gains (hwords : Text.trim line = "Supported gain values".toList ++ rest) :
    Line.ofText line = .ofGains rest := by
  have hother : "No supported devices".toList.isPrefixOf (Text.trim line) = false := by
    rw [hwords]
    rfl
  have hfound : after? "Found ".toList (Text.trim line) = none := by
    rw [hwords]
    rfl
  have hdevice : "Using device".toList.isPrefixOf (Text.trim line) = false := by
    rw [hwords]
    rfl
  have hopens : "Supported gain values".toList.isPrefixOf (Text.trim line) = true :=
    List.isPrefixOf_iff_prefix.mpr ⟨rest, hwords.symm⟩
  have hcolon := afterColon?_append (show ':' ∉ "Supported gain values".toList by decide) rest
  simp only [Line.ofText, hother, hfound, hdevice, hopens, Bool.false_eq_true, if_false, if_true]
  rw [hwords, Line.ofGains, hcolon, ← Line.ofGains]

/-- A line that is not noise has one of the openings. -/
theorem opens_of_ne_noise (hline : Line.ofText line ≠ .noise) :
    ∃ opening rest, Text.trim line = opening ++ rest ∧ opening ∈
      ["No supported devices".toList, "Found ".toList, "Using device".toList,
        "Supported gain values".toList] := by
  unfold Line.ofText at hline
  simp only at hline
  split at hline
  · rename_i hopens
    obtain ⟨rest, hrest⟩ := List.isPrefixOf_iff_prefix.mp hopens
    exact ⟨_, rest, hrest.symm, by simp⟩
  · split at hline
    · rename_i found hfound
      exact ⟨_, found, after?_eq_some_iff.mp hfound, by simp⟩
    · split at hline
      · rename_i hopens
        obtain ⟨rest, hrest⟩ := List.isPrefixOf_iff_prefix.mp hopens
        exact ⟨_, rest, hrest.symm, by simp⟩
      · split at hline
        · rename_i hopens
          obtain ⟨rest, hrest⟩ := List.isPrefixOf_iff_prefix.mp hopens
          exact ⟨_, rest, hrest.symm, by simp⟩
        · exact absurd rfl hline

/-! ### Lines are read by their wording -/

/-- A text has one ending. -/
theorem before?_deviceCount_tuner (name : List Char) :
    before? " device(s):".toList (name ++ " tuner".toList) = none := by
  cases hbefore : before? " device(s):".toList (name ++ " tuner".toList) with
  | none => rfl
  | some front =>
      have hlast := congrArg List.getLast? (before?_eq_some_iff.mp hbefore)
      rw [List.getLast?_append, List.getLast?_append] at hlast
      change some 'r' = some ':' at hlast
      exact absurd hlast (by decide)

theorem ofText_of_worded {said : Line} (hworded : said.Says line) : Line.ofText line = said := by
  cases hworded with
  | noDevices rest hwords => exact ofText_noDevices hwords
  | deviceCount count hwords =>
      rw [ofText_found hwords, Line.ofFound, before?_eq_some_iff.mpr rfl]
  | tuner name hwords =>
      rw [ofText_found hwords, Line.ofFound, before?_deviceCount_tuner,
        before?_eq_some_iff.mpr rfl]
  | device between name hwords hcolon hname =>
      rw [ofText_device hwords, Line.ofDevice,
        afterColon?_eq_some_iff.mpr ⟨between, rfl, hcolon⟩, Option.map_some]
      obtain ⟨c, rest, hrest⟩ := List.exists_cons_of_ne_nil hname
      rw [hrest]
  | gains between values hwords hcolon =>
      rw [ofText_gains hwords, Line.ofGains, afterColon?_eq_some_iff.mpr ⟨between, rfl, hcolon⟩]

theorem says_ofFound {found : List Char} (hwords : Text.trim line = "Found ".toList ++ found)
    (hline : Line.ofFound found ≠ .noise) : (Line.ofFound found).Says line := by
  unfold Line.ofFound at hline ⊢
  split
  · rename_i count hcount
    rw [before?_eq_some_iff.mp hcount] at hwords
    exact .deviceCount count hwords
  · rename_i hcount
    simp only [hcount] at hline
    split
    · rename_i name hname
      rw [before?_eq_some_iff.mp hname] at hwords
      exact .tuner name hwords
    · rename_i hname
      simp only [hname, ne_eq, not_true] at hline

theorem says_ofDevice (hwords : Text.trim line = "Using device".toList ++ rest)
    (hline : Line.ofDevice rest ≠ .noise) : (Line.ofDevice rest).Says line := by
  unfold Line.ofDevice at hline ⊢
  cases hcolon : afterColon? rest with
  | none => simp [hcolon] at hline
  | some name =>
      obtain ⟨between, rfl, hbetween⟩ := afterColon?_eq_some_iff.mp hcolon
      rw [hcolon, Option.map_some] at hline
      cases hname : Text.trim name with
      | nil => simp [hname] at hline
      | cons c spelled =>
          have hworded := Line.Says.device between name hwords hbetween (by simp [hname])
          rw [hname] at hworded
          simpa [hname] using hworded

theorem says_ofGains (hwords : Text.trim line = "Supported gain values".toList ++ rest)
    (hline : Line.ofGains rest ≠ .noise) : (Line.ofGains rest).Says line := by
  unfold Line.ofGains at hline ⊢
  cases hcolon : afterColon? rest with
  | none => simp [hcolon] at hline
  | some values =>
      obtain ⟨between, rfl, hbetween⟩ := afterColon?_eq_some_iff.mp hcolon
      exact .gains between values hwords hbetween

/-- What a line is read as, noise apart, is what it says. -/
theorem says_iff {said : Line} : said.Says line ↔ Line.ofText line = said ∧ said ≠ .noise := by
  constructor
  · intro hworded
    refine ⟨ofText_of_worded hworded, ?_⟩
    rintro rfl
    cases hworded
  · rintro ⟨rfl, hline⟩
    obtain ⟨opening, rest, hwords, hopening⟩ := opens_of_ne_noise hline
    simp only [List.mem_cons, List.not_mem_nil, or_false] at hopening
    rcases hopening with rfl | rfl | rfl | rfl
    · rw [ofText_noDevices hwords]
      exact .noDevices rest hwords
    · rw [ofText_found hwords] at hline ⊢
      exact says_ofFound hwords hline
    · rw [ofText_device hwords] at hline ⊢
      exact says_ofDevice hwords hline
    · rw [ofText_gains hwords] at hline ⊢
      exact says_ofGains hwords hline

end Openings

end TunerRelay.Receiver
