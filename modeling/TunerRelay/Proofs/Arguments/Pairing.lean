import Mathlib
import TunerRelay.Arguments.Parse
import TunerRelay.Proofs.Text.Trimming

/-!
# How tokens pair up

Tokens at even places are flags, and each token behind a flag is its value. Of several values for
one flag the last one counts.
-/

namespace TunerRelay.Arguments

open Text (Trims)

/-- One pair of equal quotes around a text is taken off; any other text stays as it is. -/
inductive Unquotes : List Char → List Char → Prop where
  | quoted {quote : Char} {inside : List Char} (hquote : isQuote quote = true) :
    Unquotes (quote :: inside ++ [quote]) inside
  | bare {text : List Char}
    (hbare : ∀ quote inside, isQuote quote = true → text ≠ quote :: inside ++ [quote]) :
    Unquotes text text

/-- The token is a dash and a name, with blanks around it at most. -/
def IsFlag (token name : List Char) : Prop := Trims token ('-' :: name) ∧ name ≠ []

/-- What a token is worth where a value stands. -/
def IsValue (token value : List Char) : Prop := ∃ bare, Trims token bare ∧ Unquotes bare value

/-- The pair at this index, counted in pairs, gives the flag this value. -/
def GivenAt (tokens : List (List Char)) (index : Nat) (name value : List Char) : Prop :=
  (∃ flag, tokens[2 * index]? = some flag ∧ IsFlag flag name) ∧
    ∃ token, tokens[2 * index + 1]? = some token ∧ IsValue token value

def Occurs (tokens : List (List Char)) (name : Char) : Prop :=
  ∃ index flag, tokens[2 * index]? = some flag ∧ IsFlag flag [name]

/-- The value that the last pair with this flag gives. -/
def LastValue (tokens : List (List Char)) (name : Char) (value : List Char) : Prop :=
  ∃ index, GivenAt tokens index [name] value ∧
    ∀ later other, index < later → ¬ GivenAt tokens later [name] other

/-- Every token has its place in a pair of a flag and a value. -/
structure Paired (tokens : List (List Char)) : Prop where
  even : Even tokens.length
  flags : ∀ index flag, tokens[2 * index]? = some flag → ∃ name, IsFlag flag name

/-! ### One pair -/

theorem unquote_quoted {quote : Char} {inside : List Char} (hquote : isQuote quote = true) :
    unquote (quote :: inside ++ [quote]) = inside := by
  cases inside with
  | nil => simp [unquote, hquote]
  | cons c rest =>
      have hdrop : (c :: (rest ++ [quote])).dropLast = c :: rest := by
        rw [← List.cons_append, List.dropLast_concat]
      simp [unquote, hquote, List.getLast?_cons, hdrop]

theorem unquote_bare {text : List Char}
    (hbare : ∀ quote inside, isQuote quote = true → text ≠ quote :: inside ++ [quote]) :
    unquote text = text := by
  unfold unquote
  split
  · rename_i first second rest
    rw [if_neg]
    rintro ⟨hquote, hlast⟩
    refine hbare first (second :: rest).dropLast hquote ?_
    rw [List.cons_append, List.dropLast_append_getLast? first hlast]
  · rfl

theorem unquotes_iff {text value : List Char} : Unquotes text value ↔ value = unquote text := by
  constructor
  · intro hunquotes
    cases hunquotes with
    | quoted hquote => exact (unquote_quoted hquote).symm
    | bare hbare => exact (unquote_bare hbare).symm
  · rintro rfl
    by_cases hquoted : ∃ quote inside, isQuote quote = true ∧ text = quote :: inside ++ [quote]
    · obtain ⟨quote, inside, hquote, rfl⟩ := hquoted
      rw [unquote_quoted hquote]
      exact .quoted hquote
    · have hbare : ∀ quote inside, isQuote quote = true → text ≠ quote :: inside ++ [quote] :=
        fun quote inside hquote htext => hquoted ⟨quote, inside, hquote, htext⟩
      rw [unquote_bare hbare]
      exact .bare hbare

theorem isValue_iff {token value : List Char} :
    IsValue token value ↔ value = unquote (Text.trim token) := by
  constructor
  · rintro ⟨bare, htrims, hunquotes⟩
    rw [Text.trims_iff.mp htrims] at hunquotes
    exact unquotes_iff.mp hunquotes
  · intro hvalue
    exact ⟨Text.trim token, Text.trims_trim token, unquotes_iff.mpr hvalue⟩

theorem flagName_eq_ok_iff {flag name : List Char} :
    flagName flag = .ok name ↔ flag = '-' :: name ∧ name ≠ [] := by
  unfold flagName
  split
  · simp [eq_comm]
  · rename_i rest hlone
    constructor
    · intro heq
      obtain rfl := Except.ok.inj heq
      exact ⟨rfl, fun hnil => hlone hnil⟩
    · rintro ⟨heq, -⟩
      rw [(List.cons.inj heq).2]
  · rename_i hdash
    exact iff_of_false nofun fun h => hdash name h.1

theorem isFlag_iff {token name : List Char} :
    IsFlag token name ↔ flagName (Text.trim token) = .ok name := by
  rw [flagName_eq_ok_iff, IsFlag, Text.trims_iff, eq_comm]

theorem IsFlag.eq {token name other : List Char} (hflag : IsFlag token name)
    (hother : IsFlag token other) : name = other :=
  Except.ok.inj ((isFlag_iff.mp hflag).symm.trans (isFlag_iff.mp hother))

theorem IsValue.sublist {token value : List Char} (hvalue : IsValue token value) :
    value.Sublist token := by
  obtain ⟨bare, ⟨front, back, rfl, -⟩, hunquotes⟩ := hvalue
  have hbare : bare.Sublist (front ++ bare ++ back) :=
    (List.sublist_append_right front bare).trans (List.sublist_append_left _ back)
  cases hunquotes with
  | quoted hquote =>
      exact ((List.sublist_append_left _ _).trans (List.sublist_cons_self _ _)).trans hbare
  | bare => exact hbare

/-- A token whose last character is neither a blank nor a quote keeps its end. -/
theorem IsValue.suffix {token value : List Char} (hvalue : IsValue token value)
    (hlast : ∀ c ∈ token.getLast?, Text.isBlank c = false ∧ isQuote c = false) : value <:+ token := by
  have hsuffix := Text.trim_suffix fun c hc => (hlast c hc).1
  obtain ⟨bare, htrims, hunquotes⟩ := hvalue
  rw [← Text.trims_iff.mp htrims] at hsuffix
  cases hunquotes with
  | bare => exact hsuffix
  | @quoted quote _ hquote =>
      obtain ⟨front, rfl⟩ := hsuffix
      have hmark := (hlast quote (by rw [← List.append_assoc, List.getLast?_concat]; rfl)).2
      exact absurd (hmark.symm.trans hquote) Bool.false_ne_true

/-! ### All pairs -/

/-- The tokens, two by two, are the flags and values of the entries. -/
inductive Pairs : List (List Char) → List Entry → Prop where
  | nil : Pairs [] []
  | cons {flag token name value : List Char} {rest : List (List Char)} {entries : List Entry}
    (hflag : IsFlag flag name) (hvalue : IsValue token value) (hrest : Pairs rest entries) :
    Pairs (flag :: token :: rest) ({ name, value } :: entries)

theorem entries_eq_ok_iff {tokens : List (List Char)} {found : List Entry} :
    entries tokens = .ok found ↔ Pairs tokens found := by
  constructor
  · intro hentries
    induction tokens using entries.induct generalizing found with
    | case1 =>
        obtain rfl := Except.ok.inj hentries
        exact .nil
    | case2 flag => nomatch hentries
    | case3 flag token rest ih =>
        rw [entries] at hentries
        cases hname : flagName (Text.trim flag) with
        | error fault => rw [hname] at hentries; nomatch hentries
        | ok name =>
            cases hrest : entries rest with
            | error fault => rw [hname, hrest] at hentries; nomatch hentries
            | ok following =>
                rw [hname, hrest] at hentries
                obtain rfl := Except.ok.inj hentries
                exact .cons (isFlag_iff.mpr hname) (isValue_iff.mpr rfl) (ih hrest)
  · intro hpairs
    induction hpairs with
    | nil => rfl
    | cons hflag hvalue _ ih =>
        rw [entries, isFlag_iff.mp hflag, ih, isValue_iff.mp hvalue]
        rfl

theorem Pairs.functional {tokens : List (List Char)} {found other : List Entry}
    (hpairs : Pairs tokens found) (hother : Pairs tokens other) : found = other :=
  Except.ok.inj ((entries_eq_ok_iff.mpr hpairs).symm.trans (entries_eq_ok_iff.mpr hother))

theorem paired_iff {tokens : List (List Char)} : Paired tokens ↔ ∃ found, Pairs tokens found := by
  constructor
  · rintro ⟨heven, hflags⟩
    induction tokens using entries.induct with
    | case1 => exact ⟨[], .nil⟩
    | case2 flag => exact absurd heven Nat.not_even_one
    | case3 flag token rest ih =>
        obtain ⟨name, hflag⟩ := hflags 0 flag rfl
        obtain ⟨found, hfound⟩ := ih (by simpa [Nat.even_add_one] using heven)
          fun index other hother => hflags (index + 1) other hother
        exact ⟨_, .cons hflag (isValue_iff.mpr rfl) hfound⟩
  · rintro ⟨found, hpairs⟩
    induction hpairs with
    | nil => exact ⟨by decide, nofun⟩
    | cons hflag _ _ ih =>
        refine ⟨by simpa [Nat.even_add_one] using ih.even, ?_⟩
        intro index other hother
        cases index with
        | zero =>
            obtain rfl := Option.some.inj hother
            exact ⟨_, hflag⟩
        | succ index => exact ih.flags index other hother

section Lookup

variable {tokens : List (List Char)} {found : List Entry}

theorem Pairs.getElem?_eq_some_iff (hpairs : Pairs tokens found) {index : Nat}
    {name value : List Char} :
    found[index]? = some { name, value } ↔ GivenAt tokens index name value := by
  induction hpairs generalizing index with
  | nil => simp [GivenAt]
  | @cons flag token ownName ownValue rest entries hflag hvalue _ ih =>
      cases index with
      | zero =>
          have hname : IsFlag flag name ↔ ownName = name :=
            ⟨hflag.eq, fun heq => heq ▸ hflag⟩
          have hown : IsValue token value ↔ ownValue = value := by
            rw [isValue_iff, isValue_iff.mp hvalue, eq_comm]
          simp [GivenAt, hname, hown]
      | succ index => exact ih

theorem Pairs.occurs_iff (hpairs : Pairs tokens found) {name : Char} :
    Occurs tokens name ↔ ∃ entry ∈ found, entry.name = [name] := by
  induction hpairs with
  | nil => simp [Occurs]
  | @cons flag token ownName ownValue rest entries hflag _ _ ih =>
      simp only [List.exists_mem_cons_iff]
      rw [← ih]
      constructor
      · rintro ⟨_ | index, other, hother, hname⟩
        · obtain rfl := Option.some.inj hother
          exact .inl (hflag.eq hname)
        · exact .inr ⟨index, other, hother, hname⟩
      · rintro (rfl | ⟨index, other, hother, hname⟩)
        · exact ⟨0, flag, rfl, hflag⟩
        · exact ⟨index + 1, other, hother, hname⟩

theorem valueOf?_cons (entry : Entry) (name : Char) :
    valueOf? (entry :: found) name =
      (valueOf? found name).or (if entry.name = [name] then some entry.value else none) := by
  rw [valueOf?, valueOf?, List.reverse_cons, List.find?_append, Option.map_or, List.find?_singleton]
  by_cases hname : entry.name = [name] <;> simp [hname]

theorem valueOf?_eq_none_iff {name : Char} :
    valueOf? found name = none ↔ ∀ entry ∈ found, entry.name ≠ [name] := by
  simp [valueOf?]

theorem valueOf?_eq_some_iff {name : Char} {value : List Char} :
    valueOf? found name = some value ↔
      ∃ index : Nat, found[index]? = some ⟨[name], value⟩ ∧
        ∀ (later : Nat) other, index < later → found[later]? ≠ some ⟨[name], other⟩ := by
  induction found generalizing value with
  | nil => simp [valueOf?]
  | cons entry found ih =>
      rw [valueOf?_cons]
      cases hlater : valueOf? found name with
      | some other =>
          -- the first entry never counts, since there is one behind it
          obtain ⟨behind, hbehind, -⟩ := ih.mp hlater
          rw [Option.some_or, ← hlater, ih]
          constructor
          · rintro ⟨index, hat, hlast⟩
            refine ⟨index + 1, hat, ?_⟩
            rintro (_ | later) other hlt
            · omega
            · exact hlast later other (by omega)
          · rintro ⟨_ | index, hat, hlast⟩
            · exact absurd hbehind (hlast (behind + 1) other (by omega))
            · exact ⟨index, hat, fun later other hlt => hlast (later + 1) other (by omega)⟩
      | none =>
          have habsent : ∀ (later : Nat) other, found[later]? ≠ some ⟨[name], other⟩ := by
            intro later other hat
            exact valueOf?_eq_none_iff.mp hlater _ (List.mem_of_getElem? hat) rfl
          rw [Option.none_or, Option.ite_none_right_eq_some]
          constructor
          · rintro ⟨hname, hvalue⟩
            refine ⟨0, ?_, ?_⟩
            · rw [List.getElem?_cons_zero, ← hname, ← Option.some.inj hvalue]
            · rintro (_ | later) other hlt
              · omega
              · exact habsent later other
          · rintro ⟨_ | index, hat, -⟩
            · obtain rfl := Option.some.inj hat
              exact ⟨rfl, rfl⟩
            · exact absurd hat (habsent index value)

theorem Pairs.valueOf?_eq_some_iff (hpairs : Pairs tokens found) {name : Char}
    {value : List Char} : valueOf? found name = some value ↔ LastValue tokens name value := by
  simp only [Arguments.valueOf?_eq_some_iff, ne_eq, hpairs.getElem?_eq_some_iff, LastValue]

theorem Pairs.valueOf?_eq_none_iff (hpairs : Pairs tokens found) {name : Char} :
    valueOf? found name = none ↔ ¬ Occurs tokens name := by
  rw [Arguments.valueOf?_eq_none_iff, hpairs.occurs_iff]
  push Not
  rfl

end Lookup

end TunerRelay.Arguments
