import Mathlib
import TunerRelay.Proofs.Arguments.Acceptance

/-!
# Arguments printed and read again

The printed address stands between double quotes, and is trimmed and unquoted once more on its way
back. Which addresses come back the same is therefore a matter of their ends, their length and the
double quotes in them. A double quote inside closes the one before the address, and what stands
behind it can swallow the flags that follow or bring flags of its own. Still no such address comes
back: a token that holds all its double quotes holds the closing one, too.
-/

namespace TunerRelay.Arguments

open Text (IsTrimmed Spells isBlank)

/-- The addresses that come back the same. -/
structure Lasting (address : List Char) : Prop where
  nonempty : address ≠ []
  unquoted : '"' ∉ address
  trimmed : IsTrimmed address
  bare : ∀ inside, address ≠ '\'' :: inside ++ ['\'']
  short : address.length < 256

/-- A token or value without blanks and quotes, which is read as it stands. -/
structure Plain (word : List Char) : Prop where
  nonempty : word ≠ []
  solid : ∀ c ∈ word, isBlank c = false ∧ isQuote c = false

/-! ### Plain words -/

theorem ne_space_of_solid {c : Char} (hsolid : isBlank c = false) : c ≠ ' ' := by
  rintro rfl
  exact absurd hsolid (by decide)

theorem Plain.piece {word : List Char} (hplain : Plain word) : Piece word word :=
  .of_bare fun c hc => ⟨ne_space_of_solid (hplain.solid c hc).1, (hplain.solid c hc).2⟩

theorem Plain.isValue {word : List Char} (hplain : Plain word) : IsValue word word := by
  have htrimmed : IsTrimmed word :=
    ⟨fun c hc => (hplain.solid c (List.mem_of_head? hc)).1,
      fun c hc => (hplain.solid c (List.mem_of_getLast? hc)).1⟩
  rw [isValue_iff, Text.trim_eq_self_iff.mpr htrimmed, ← unquotes_iff]
  refine .bare fun quote inside hquote hword => ?_
  have hsolid := (hplain.solid quote (hword ▸ List.mem_cons_self)).2
  exact Bool.false_ne_true (hsolid.symm.trans hquote)

theorem plain_of_digits {digits : List Char} (hsome : digits ≠ [])
    (hdigits : ∀ c ∈ digits, c.isDigit = true) : Plain digits := by
  refine ⟨hsome, fun c hc => ⟨Text.isBlank_of_isDigit (hdigits c hc), ?_⟩⟩
  rw [Bool.eq_false_iff]
  intro hquote
  have hdigit := hdigits c hc
  simp only [isQuote, Bool.or_eq_true, beq_iff_eq] at hquote
  rcases hquote with rfl | rfl <;> exact absurd hdigit (by decide)

theorem Plain.dash {word : List Char} (hplain : Plain word) : Plain ('-' :: word) :=
  ⟨List.cons_ne_nil _ _, List.forall_mem_cons.mpr ⟨by decide, hplain.solid⟩⟩

theorem plain_toString_nat (n : Nat) : Plain (toString n).toList :=
  plain_of_digits (Text.toString_nat_ne_nil n) fun _ hc => Text.isDigit_of_mem_toString hc

theorem plain_toString_int (number : Int) : Plain (toString number).toList := by
  cases number with
  | ofNat n => exact plain_toString_nat n
  | negSucc n =>
      rw [Text.toList_toString_negSucc]
      exact (plain_toString_nat (n + 1)).dash

theorem plain_flag {name : Char} (hsolid : isBlank name = false ∧ isQuote name = false) :
    Plain ['-', name] :=
  Plain.dash ⟨List.cons_ne_nil _ _, List.forall_mem_singleton.mpr hsolid⟩

/-! ### The printed text -/

def words (arguments : Arguments) : List (List Char) :=
  [['-', 'p'], (toString arguments.port).toList, ['-', 'f'], (toString arguments.frequency).toList,
    ['-', 's'], (toString arguments.sampleRate).toList, ['-', 'g'], (toString arguments.gain).toList,
    ['-', 'P'], (toString arguments.ppm).toList]

/-- What follows the address and its closing quote. -/
def trailer (arguments : Arguments) : List Char := arguments.words.flatMap (' ' :: ·)

theorem toList_text (arguments : Arguments) :
    arguments.text.toList =
      '-' :: 'a' :: ' ' :: '"' :: (arguments.address.toList ++ '"' :: arguments.trailer) := by
  delta text
  simp [trailer, words, String.toList_append]

theorem plain_words (arguments : Arguments) : ∀ word ∈ arguments.words, Plain word := by
  simp only [words, List.forall_mem_cons]
  exact ⟨plain_flag (by decide), plain_toString_nat _, plain_flag (by decide), plain_toString_nat _,
    plain_flag (by decide), plain_toString_nat _, plain_flag (by decide), plain_toString_int _,
    plain_flag (by decide), plain_toString_int _, nofun⟩

theorem tokensFrom_words {list : List (List Char)} (hplain : ∀ word ∈ list, Plain word)
    (current : List Char) :
    tokensFrom none current (list.flatMap (' ' :: ·)) = closeToken current ++ list := by
  induction list generalizing current with
  | nil => simp [tokensFrom]
  | cons word list ih =>
      rw [List.forall_mem_cons] at hplain
      have hword : closeToken word.reverse = [word] := by
        rw [closeToken_of_ne_nil (by simpa using hplain.1.nonempty), List.reverse_reverse]
      rw [List.flatMap_cons, List.cons_append, tokensFrom_space, tokens,
        hplain.1.piece.tokensFrom, List.append_nil, ih hplain.2, hword, List.singleton_append]

theorem tokens_address {address : List Char} (hquote : '"' ∉ address) (rest : List Char) :
    tokens ('-' :: 'a' :: ' ' :: '"' :: (address ++ '"' :: rest)) =
      ['-', 'a'] :: tokensFrom none address.reverse rest := by
  have hpiece := Piece.quoted (by decide : isQuote '"' = true) hquote .nil
  have hread := hpiece.tokensFrom [] rest
  rw [List.append_nil, List.append_nil, List.append_assoc, List.cons_append,
    List.singleton_append] at hread
  exact congrArg (['-', 'a'] :: ·) hread

theorem tokens_text {arguments : Arguments} (hquote : '"' ∉ arguments.address.toList) :
    tokens arguments.text.toList =
      ['-', 'a'] :: (closeToken arguments.address.toList.reverse ++ arguments.words) := by
  rw [toList_text, tokens_address hquote, trailer, tokensFrom_words arguments.plain_words]

/-! ### Addresses without double quotes -/

section

variable {arguments : Arguments}

theorem not_paired_of_nil (hnil : arguments.address.toList = []) :
    ¬ Paired (tokens arguments.text.toList) := by
  rw [tokens_text (by rw [hnil]; exact List.not_mem_nil), hnil]
  rintro ⟨heven, -⟩
  exact (by decide : ¬ Even 11) heven

/-- The entries that the printed text is read as. -/
def printed (arguments : Arguments) : List Entry :=
  [⟨['a'], unquote (Text.trim arguments.address.toList)⟩, ⟨['p'], (toString arguments.port).toList⟩,
    ⟨['f'], (toString arguments.frequency).toList⟩, ⟨['s'], (toString arguments.sampleRate).toList⟩,
    ⟨['g'], (toString arguments.gain).toList⟩, ⟨['P'], (toString arguments.ppm).toList⟩]

theorem pairs_printed (hsome : arguments.address.toList ≠ [])
    (hquote : '"' ∉ arguments.address.toList) :
    Pairs (tokens arguments.text.toList) arguments.printed := by
  have haddress : closeToken arguments.address.toList.reverse = [arguments.address.toList] := by
    rw [closeToken_of_ne_nil (by simpa using hsome), List.reverse_reverse]
  have hflag : ∀ name, isBlank name = false → IsFlag ['-', name] [name] := by
    intro name hsolid
    refine ⟨Text.trims_iff.mpr (Text.trim_eq_self_iff.mpr ?_).symm, List.cons_ne_nil _ _⟩
    exact ⟨by simp; decide, by simpa using hsolid⟩
  rw [tokens_text hquote, haddress]
  exact .cons (hflag 'a' (by decide)) (isValue_iff.mpr rfl)
    (.cons (hflag 'p' (by decide)) (plain_toString_nat _).isValue
    (.cons (hflag 'f' (by decide)) (plain_toString_nat _).isValue
    (.cons (hflag 's' (by decide)) (plain_toString_nat _).isValue
    (.cons (hflag 'g' (by decide)) (plain_toString_int _).isValue
    (.cons (hflag 'P' (by decide)) (plain_toString_int _).isValue .nil)))))

theorem ofEntries_printed :
    ofEntries arguments.printed = .ok arguments ↔
      unquote (Text.trim arguments.address.toList) = arguments.address.toList ∧
        arguments.address.toList.length < 256 := by
  have hport := (Text.reads_uint16.eq_some_iff _ arguments.port).mpr
    (Text.spells_toString_nat false _)
  have hrate := (Text.reads_uint64.eq_some_iff _ arguments.sampleRate).mpr
    (Text.spells_toString_nat false _)
  have hhertz := (Text.reads_uint64.eq_some_iff _ arguments.frequency).mpr
    (Text.spells_toString_nat false _)
  have hgain := (Text.reads_int32.eq_some_iff _ arguments.gain).mpr (Text.spells_toString_int _)
  have hppm := (Text.reads_int32.eq_some_iff _ arguments.ppm).mpr (Text.spells_toString_int _)
  rw [ofEntries_eq_ok_iff]
  constructor
  · rintro ⟨haddress, hlimit, -⟩
    exact ⟨Option.some.inj haddress, hlimit⟩
  · rintro ⟨haddress, hlimit⟩
    exact ⟨congrArg some haddress, hlimit, ⟨_, rfl, hport⟩,
      numberOr_eq_ok_iff.mpr (.inl ⟨_, rfl, hgain⟩), numberOr_eq_ok_iff.mpr (.inl ⟨_, rfl, hppm⟩),
      numberOr_eq_ok_iff.mpr (.inl ⟨_, rfl, hrate⟩),
      numberOr_eq_ok_iff.mpr (.inl ⟨_, rfl, hhertz⟩)⟩

end

theorem unquote_trim_eq_iff {address : List Char} :
    unquote (Text.trim address) = address ↔
      IsTrimmed address ∧
        ∀ quote inside, isQuote quote = true → address ≠ quote :: inside ++ [quote] := by
  constructor
  · intro hsame
    have hlength := Text.length_trim_le address
    by_cases hquoted : ∃ quote inside, isQuote quote = true ∧
        Text.trim address = quote :: inside ++ [quote]
    · obtain ⟨quote, inside, hquote, htrim⟩ := hquoted
      rw [htrim, unquote_quoted hquote] at hsame
      rw [htrim, hsame, List.length_append, List.length_cons] at hlength
      omega
    · have hbare : ∀ quote inside, isQuote quote = true →
          Text.trim address ≠ quote :: inside ++ [quote] :=
        fun quote inside hquote htrim => hquoted ⟨quote, inside, hquote, htrim⟩
      rw [unquote_bare hbare] at hsame
      rw [hsame] at hbare
      exact ⟨Text.trim_eq_self_iff.mp hsame, hbare⟩
  · rintro ⟨htrimmed, hbare⟩
    rw [Text.trim_eq_self_iff.mpr htrimmed, unquote_bare hbare]

theorem parse_text_of_quoteless {arguments : Arguments} (hquote : '"' ∉ arguments.address.toList) :
    parse arguments.text = .ok arguments ↔ Lasting arguments.address.toList := by
  rw [parse_eq_ok_iff]
  by_cases hnil : arguments.address.toList = []
  · refine iff_of_false ?_ fun hlasting => hlasting.nonempty hnil
    rintro ⟨found, hpairs, -⟩
    exact not_paired_of_nil hnil (paired_iff.mpr ⟨found, hpairs⟩)
  · have hprinted := pairs_printed hnil hquote
    constructor
    · rintro ⟨found, hpairs, hread⟩
      obtain rfl := hpairs.functional hprinted
      obtain ⟨haddress, hshort⟩ := ofEntries_printed.mp hread
      obtain ⟨htrimmed, hbare⟩ := unquote_trim_eq_iff.mp haddress
      exact ⟨hnil, hquote, htrimmed, fun inside => hbare '\'' inside rfl, hshort⟩
    · rintro ⟨-, -, htrimmed, hbare, hshort⟩
      refine ⟨_, hprinted, ofEntries_printed.mpr ⟨unquote_trim_eq_iff.mpr ⟨htrimmed, ?_⟩, hshort⟩⟩
      rintro quote inside hmark haddress
      simp only [isQuote, Bool.or_eq_true, beq_iff_eq] at hmark
      rcases hmark with rfl | rfl
      · exact hbare inside haddress
      · exact hquote (haddress ▸ List.mem_cons_self)

/-! ### Addresses with double quotes -/

theorem exists_isValue_of_parse {text : String} {arguments : Arguments}
    (hparse : parse text = .ok arguments) :
    ∃ token ∈ tokens text.toList, IsValue token arguments.address.toList := by
  obtain ⟨found, hpairs, hread⟩ := parse_eq_ok_iff.mp hparse
  obtain ⟨index, ⟨-, token, htoken, hvalue⟩, -⟩ := (hpairs.ofEntries_eq_ok_iff.mp hread).2.address
  exact ⟨token, List.mem_of_getElem? htoken, hvalue⟩

theorem quote_not_mem_trailer {arguments : Arguments} {quote : Char} (hquote : isQuote quote = true) :
    quote ∉ arguments.trailer := by
  intro hmem
  obtain ⟨word, hword, hmem⟩ := List.mem_flatMap.mp hmem
  rcases List.mem_cons.mp hmem with rfl | hmem
  · exact absurd hquote (by decide)
  · have hsolid := ((arguments.plain_words word hword).solid quote hmem).2
    exact Bool.false_ne_true (hsolid.symm.trans hquote)

theorem getLast?_trailer (arguments : Arguments) (front : List Char) :
    ∀ c ∈ (front ++ arguments.trailer).getLast?, isBlank c = false ∧ isQuote c = false := by
  have hppm : Plain (toString arguments.ppm).toList := plain_toString_int _
  obtain ⟨before, hbefore⟩ : (toString arguments.ppm).toList <:+ front ++ arguments.trailer :=
    ⟨front ++ arguments.words.dropLast.flatMap (' ' :: ·) ++ [' '], by simp [trailer, words]⟩
  rw [← hbefore, List.getLast?_append_of_ne_nil _ hppm.nonempty]
  exact fun c hc => hppm.solid c (List.mem_of_getLast? hc)

/-- No value has more double quotes than the tokens hold together. -/
theorem count_le_of_isValue {list : List (List Char)} {text token value : List Char}
    (hvalue : IsValue token value) (htoken : token ∈ list) (hkept : list.flatten.Sublist text) :
    value.count '"' ≤ text.count '"' :=
  ((hvalue.sublist.trans (List.sublist_flatten_of_mem htoken)).trans hkept).count_le _

/-- Of two ends of one text the shorter is an end of the longer, so its first character stands there,
too. -/
theorem mem_of_suffix {mark : Char} {inside rest text : List Char} (hrest : rest ≠ [])
    (hmark : mark :: inside <:+ text) (hinside : inside ++ rest <:+ text) :
    mark ∈ inside ++ rest := by
  have hlength : (mark :: inside).length ≤ (inside ++ rest).length := by
    have hpos := List.length_pos_of_ne_nil hrest
    rw [List.length_cons, List.length_append]
    omega
  exact (List.suffix_of_suffix_length_le hmark hinside hlength).subset List.mem_cons_self

section

variable {arguments : Arguments} {token before behind pending : List Char}

/-- The first double quote of the address is taken off, so tokens without the closing one have too
few of them. -/
theorem not_sublist_of_isValue {list : List (List Char)}
    (haddress : arguments.address.toList = before ++ '"' :: behind)
    (hvalue : IsValue token arguments.address.toList) (htoken : token ∈ list) :
    ¬ list.flatten.Sublist (['-', 'a'] ++ (before ++ behind ++ arguments.trailer)) := by
  intro hsublist
  have hcount := count_le_of_isValue hvalue htoken hsublist
  have hflag : ['-', 'a'].count '"' = 0 := by decide
  have htrailer : arguments.trailer.count '"' = 0 :=
    List.count_eq_zero.mpr (quote_not_mem_trailer (by decide))
  simp only [haddress, List.count_append, List.count_cons_self, hflag, htrailer] at hcount
  omega

/-- A single quote that is still open behind the address runs to the end of the text. Address and
token would have this end in common, and the open quote would stand behind itself. -/
theorem not_isValue_of_open {mark : Char} {inside : List Char} (hdouble : '"' ≠ mark)
    (hmark : isQuote mark = true) (hinside : mark ∉ inside) (hpending : inside <:+ pending)
    (haddress : mark :: inside <:+ arguments.address.toList) :
    ¬ IsValue (pending ++ '"' :: arguments.trailer) arguments.address.toList := by
  intro hvalue
  have hend : mark :: inside <:+ pending ++ '"' :: arguments.trailer := by
    refine haddress.trans (hvalue.suffix ?_)
    rw [List.append_cons]
    exact getLast?_trailer arguments _
  have hbehind : inside ++ '"' :: arguments.trailer <:+ pending ++ '"' :: arguments.trailer :=
    (List.suffix_append_inj_of_length_eq rfl).mpr ⟨hpending, rfl⟩
  rcases List.mem_append.mp (mem_of_suffix (List.cons_ne_nil _ _) hend hbehind) with hmem | hmem
  · exact hinside hmem
  · rcases List.mem_cons.mp hmem with hsame | htrailer
    · exact hdouble hsame.symm
    · exact quote_not_mem_trailer hmark htrailer

theorem tokensFrom_open {mark : Char} (hdouble : '"' ≠ mark) (hmark : isQuote mark = true) :
    tokensFrom (some mark) pending ('"' :: arguments.trailer) =
      [pending.reverse ++ '"' :: arguments.trailer] := by
  have hinside : mark ∉ '"' :: arguments.trailer := by
    rw [List.mem_cons, not_or]
    exact ⟨Ne.symm hdouble, quote_not_mem_trailer hmark⟩
  have hread := tokensFrom_inside pending [] hinside
  rwa [List.append_nil, tokensFrom, closeToken_of_ne_nil (by simp), List.reverse_append,
    List.reverse_reverse] at hread

end

theorem parse_text_ne_of_quote {arguments : Arguments} (hquote : '"' ∈ arguments.address.toList) :
    parse arguments.text ≠ .ok arguments := by
  intro hparse
  obtain ⟨token, htoken, hvalue⟩ := exists_isValue_of_parse hparse
  obtain ⟨before, behind, haddress, hbefore⟩ := List.eq_append_cons_of_mem hquote
  obtain ⟨emitted, quote, pending, hread, hkept, hopen⟩ :=
    exists_tokensFrom_append behind before.reverse
  rw [List.reverse_reverse] at hkept
  rw [toList_text, haddress, List.append_assoc, List.cons_append, tokens_address hbefore, hread]
    at htoken
  -- a closing quote that opens or ends a quoted run is in no token
  have hdropped : ∀ later, tokensFrom quote pending ('"' :: arguments.trailer) ≠
      tokensFrom later pending arguments.trailer := by
    intro later hlater
    rw [hlater] at htoken
    refine not_sublist_of_isValue haddress hvalue htoken ?_
    rw [List.flatten_cons, List.flatten_append]
    refine List.Sublist.append_left (.trans ?_ (hkept.append_right arguments.trailer)) _
    rw [List.append_assoc]
    exact (flatten_tokensFrom_sublist later pending arguments.trailer).append_left _
  cases quote with
  | none => exact hdropped (some '"') rfl
  | some mark =>
      by_cases hdouble : '"' = mark
      · exact hdropped none (by rw [tokensFrom, if_pos hdouble])
      obtain ⟨hmark, front, inside, rfl, hinside, hsuffix⟩ := hopen mark rfl
      rw [tokensFrom_open hdouble hmark, ← List.cons_append, List.mem_append,
        List.mem_singleton] at htoken
      rcases htoken with hearly | rfl
      · refine not_sublist_of_isValue haddress hvalue hearly ?_
        rw [List.flatten_cons]
        refine List.Sublist.append_left ?_ _
        exact ((List.sublist_append_left _ _).trans hkept).trans (List.sublist_append_left _ _)
      · refine not_isValue_of_open hdouble hmark hinside hsuffix ?_ hvalue
        rw [haddress]
        exact ⟨before ++ '"' :: front, by simp⟩

theorem parse_text_eq_iff_lasting (arguments : Arguments) :
    parse arguments.text = .ok arguments ↔ Lasting arguments.address.toList := by
  by_cases hquote : '"' ∈ arguments.address.toList
  · exact iff_of_false (parse_text_ne_of_quote hquote) fun hlasting => hlasting.unquoted hquote
  · exact parse_text_of_quoteless hquote

end TunerRelay.Arguments
