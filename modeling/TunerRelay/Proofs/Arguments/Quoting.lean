import TunerRelay.Proofs.Arguments.Splitting

/-!
# Tokens that are quoted and read again

A list of tokens is written with spaces between them, and with quotes around every token that needs
them. A quote of one kind protects quotes of the other kind and spaces, so the only tokens that
cannot be written are those that hold quotes of both kinds. What is written is read as it was meant,
however many spaces there are and whichever quotes were chosen.
-/

namespace TunerRelay.Arguments

/-- A token stands between two quotes of a kind that it does not hold, or bare if it holds neither a
space nor a quote. -/
inductive Writes (token : List Char) : List Char → Prop where
  | bare (hbare : ∀ c ∈ token, c ≠ ' ' ∧ isQuote c = false) : Writes token token
  | quoted (quote : Char) (hquote : isQuote quote = true) (hfree : quote ∉ token) :
    Writes token (quote :: token ++ [quote])

/-- Any number of spaces stands before each token and behind the last, but at least one between two
tokens. -/
inductive WritesAll : List (List Char) → List Char → Prop where
  | nil (gap : List Char) (hgap : ∀ c ∈ gap, c = ' ') : WritesAll [] gap
  | cons (gap : List Char) {token written rest : List Char} {list : List (List Char)}
    (hgap : ∀ c ∈ gap, c = ' ') (hwrites : Writes token written) (hrest : WritesAll list rest)
    (hspace : list ≠ [] → rest.head? = some ' ') :
    WritesAll (token :: list) (gap ++ written ++ rest)

/-! ### What can be written -/

theorem isQuote_iff {c : Char} : isQuote c = true ↔ c = '\'' ∨ c = '"' := by
  rw [isQuote, Bool.or_eq_true, beq_iff_eq, beq_iff_eq]

theorem exists_writes_iff {token : List Char} :
    (∃ written, Writes token written) ↔ '\'' ∉ token ∨ '"' ∉ token := by
  constructor
  · rintro ⟨written, hbare | ⟨quote, hquote, hfree⟩⟩
    · exact .inl fun hmem => absurd (hbare _ hmem).2 (by decide)
    · rcases isQuote_iff.mp hquote with rfl | rfl
      · exact .inl hfree
      · exact .inr hfree
  · rintro (hfree | hfree)
    · exact ⟨_, .quoted '\'' rfl hfree⟩
    · exact ⟨_, .quoted '"' rfl hfree⟩

theorem WritesAll.exists_writes {list : List (List Char)} {text : List Char}
    (hwrites : WritesAll list text) : ∀ token ∈ list, ∃ written, Writes token written := by
  induction hwrites with
  | nil => exact nofun
  | cons _ _ hwrites _ _ ih => exact List.forall_mem_cons.mpr ⟨⟨_, hwrites⟩, ih⟩

/-- Each token is written behind one space. -/
theorem exists_writesAll {list : List (List Char)}
    (hlist : ∀ token ∈ list, ∃ written, Writes token written) :
    ∃ text, WritesAll list text ∧ (list ≠ [] → text.head? = some ' ') := by
  induction list with
  | nil => exact ⟨[], .nil [] nofun, fun hsome => absurd rfl hsome⟩
  | cons token list ih =>
      rw [List.forall_mem_cons] at hlist
      obtain ⟨⟨written, hwrites⟩, hlist⟩ := hlist
      obtain ⟨rest, hrest, hspace⟩ := ih hlist
      exact ⟨[' '] ++ written ++ rest,
        .cons [' '] (fun c hc => List.mem_singleton.mp hc) hwrites hrest hspace, fun _ => rfl⟩

theorem exists_writesAll_iff {list : List (List Char)} :
    (∃ text, WritesAll list text) ↔ ∀ token ∈ list, '\'' ∉ token ∨ '"' ∉ token := by
  simp only [← exists_writes_iff]
  constructor
  · rintro ⟨text, hwrites⟩
    exact hwrites.exists_writes
  · intro hlist
    obtain ⟨text, hwrites, -⟩ := exists_writesAll hlist
    exact ⟨text, hwrites⟩

/-! ### How it is read -/

theorem Writes.piece {token written : List Char} (hwrites : Writes token written) :
    Piece written token := by
  cases hwrites with
  | bare hbare => exact .of_bare hbare
  | quoted _ hquote hfree =>
      have hpiece := Piece.quoted hquote hfree .nil
      rwa [List.append_nil] at hpiece

theorem tokens_gap {gap : List Char} (hgap : ∀ c ∈ gap, c = ' ') (text : List Char) :
    tokens (gap ++ text) = tokens text := by
  induction gap with
  | nil => rfl
  | cons c gap ih =>
      rw [List.forall_mem_cons] at hgap
      obtain ⟨rfl, hgap⟩ := hgap
      exact ih hgap

/-- A token ends where a space follows, and at the end of the text. -/
theorem tokensFrom_of_head? {current rest : List Char} (hspace : ∀ c ∈ rest.head?, c = ' ') :
    tokensFrom none current rest = closeToken current ++ tokens rest := by
  cases rest with
  | nil => exact (List.append_nil _).symm
  | cons c rest =>
      obtain rfl := hspace c rfl
      rfl

theorem WritesAll.head?_eq {list : List (List Char)} {text : List Char}
    (hwrites : WritesAll list text) (hspace : list ≠ [] → text.head? = some ' ') :
    ∀ c ∈ text.head?, c = ' ' := by
  cases hwrites with
  | nil _ hgap => exact fun c hc => hgap c (List.mem_of_head? hc)
  | cons =>
      rw [hspace (List.cons_ne_nil _ _)]
      exact fun c hc => (Option.mem_some_iff.mp hc).symm

theorem WritesAll.tokens_eq {list : List (List Char)} {text : List Char}
    (hwrites : WritesAll list text) (hsome : ∀ token ∈ list, token ≠ []) : tokens text = list := by
  induction hwrites with
  | nil _ hgap =>
      have hread := tokens_gap hgap []
      rwa [List.append_nil] at hread
  | @cons gap token written rest list hgap hwrites hrest hspace ih =>
      rw [List.forall_mem_cons] at hsome
      have hclosed : closeToken token.reverse = [token] := by
        rw [closeToken_of_ne_nil (List.reverse_ne_nil_iff.mpr hsome.1), List.reverse_reverse]
      calc tokens (gap ++ written ++ rest)
          = tokens (written ++ rest) := by rw [List.append_assoc, tokens_gap hgap]
        _ = tokensFrom none token.reverse rest := by
            rw [tokens, hwrites.piece.tokensFrom, List.append_nil]
        _ = closeToken token.reverse ++ tokens rest :=
            tokensFrom_of_head? (hrest.head?_eq hspace)
        _ = token :: list := by rw [hclosed, ih hsome.2, List.singleton_append]

/-- **Reading undoes quoting.** Lists of tokens can be written just if no token holds quotes of both
kinds, and every way to write one is read as that list. -/
theorem tokens_of_writesAll (list : List (List Char)) (hsome : ∀ token ∈ list, token ≠ []) :
    ((∃ text, WritesAll list text) ↔ ∀ token ∈ list, '\'' ∉ token ∨ '"' ∉ token) ∧
      ∀ text, WritesAll list text → tokens text = list :=
  ⟨exists_writesAll_iff, fun _ hwrites => hwrites.tokens_eq hsome⟩

/-- Each kind of quotes around the other, and more spaces than needed. -/
theorem tokens_of_writesAll_mixed :
    let list := [['a', ' ', '"'], ['i', '\''], ['-', 'x']]
    let text := [' ', ' ', '\'', 'a', ' ', '"', '\'', ' ', '"', 'i', '\'', '"', ' ', ' ', '-',
      'x', ' ']
    (∀ token ∈ list, token ≠ []) ∧ WritesAll list text ∧ tokens text = list := by
  intro list text
  have hsome : ∀ token ∈ list, token ≠ [] := by decide
  have hwrites : WritesAll list text :=
    .cons [' ', ' '] (by simp) (.quoted '\'' rfl (by decide))
      (.cons [' '] (by simp) (.quoted '"' rfl (by decide))
        (.cons [' ', ' '] (by simp) (.bare (by simp [isQuote])) (.nil [' '] (by simp)) nofun)
        fun _ => rfl)
      fun _ => rfl
  exact ⟨hsome, hwrites, (tokens_of_writesAll list hsome).2 text hwrites⟩

end TunerRelay.Arguments
