import Mathlib
import TunerRelay.Arguments.Token

/-!
# How a text splits into tokens

A text is cut at its spaces, but not inside of quotes. A piece between two cuts consists of ordinary
characters and of quoted runs, and only the last piece may leave a quote open. The tokens are what
the pieces read as, without the quotes around the runs; a piece that reads as nothing gives none.
-/

namespace TunerRelay.Arguments

/-- A piece in which every quote is closed, and what it reads as. -/
inductive Piece : List Char → List Char → Prop where
  | nil : Piece [] []
  | plain {c : Char} {text content : List Char} (hspace : c ≠ ' ') (hquote : isQuote c = false)
    (hrest : Piece text content) : Piece (c :: text) (c :: content)
  | quoted {quote : Char} {inside text content : List Char} (hquote : isQuote quote = true)
    (hinside : quote ∉ inside) (hrest : Piece text content) :
    Piece (quote :: inside ++ quote :: text) (inside ++ content)

/-- The last piece of a text. A quote that is never closed runs to the end. -/
inductive LastPiece : List Char → List Char → Prop where
  | closed {text content : List Char} (hpiece : Piece text content) : LastPiece text content
  | unclosed {text content inside : List Char} {quote : Char} (hpiece : Piece text content)
    (hquote : isQuote quote = true) (hinside : quote ∉ inside) :
    LastPiece (text ++ quote :: inside) (content ++ inside)

/-- What the pieces of a text read as, in order. -/
inductive Pieces : List Char → List (List Char) → Prop where
  | last {text content : List Char} (hlast : LastPiece text content) : Pieces text [content]
  | cons {text content rest : List Char} {contents : List (List Char)}
    (hpiece : Piece text content) (hrest : Pieces rest contents) :
    Pieces (text ++ ' ' :: rest) (content :: contents)

def Splits (text : List Char) (tokens : List (List Char)) : Prop :=
  ∃ contents, Pieces text contents ∧ tokens = contents.filter fun content => !content.isEmpty

/-! ### Every text has pieces -/

theorem Piece.append {left right leftContent rightContent : List Char}
    (hleft : Piece left leftContent) (hright : Piece right rightContent) :
    Piece (left ++ right) (leftContent ++ rightContent) := by
  induction hleft with
  | nil => exact hright
  | plain hspace hquote _ ih => exact .plain hspace hquote ih
  | quoted hquote hinside _ ih =>
      rw [List.append_assoc, List.append_assoc, List.cons_append]
      exact .quoted hquote hinside ih

theorem Piece.of_bare {text : List Char} (hbare : ∀ c ∈ text, c ≠ ' ' ∧ isQuote c = false) :
    Piece text text := by
  induction text with
  | nil => exact .nil
  | cons c text ih =>
      rw [List.forall_mem_cons] at hbare
      exact .plain hbare.1.1 hbare.1.2 (ih hbare.2)

theorem LastPiece.prepend {front frontContent text content : List Char}
    (hfront : Piece front frontContent) (hlast : LastPiece text content) :
    LastPiece (front ++ text) (frontContent ++ content) := by
  cases hlast with
  | closed hpiece => exact .closed (hfront.append hpiece)
  | unclosed hpiece hquote hinside =>
      rw [← List.append_assoc, ← List.append_assoc]
      exact .unclosed (hfront.append hpiece) hquote hinside

theorem Pieces.prepend {front frontContent text : List Char} {contents : List (List Char)}
    (hfront : Piece front frontContent) (hpieces : Pieces text contents) :
    ∃ more, Pieces (front ++ text) more := by
  cases hpieces with
  | last hlast => exact ⟨_, .last (hlast.prepend hfront)⟩
  | cons hpiece hrest =>
      rw [← List.append_assoc]
      exact ⟨_, .cons (hfront.append hpiece) hrest⟩

theorem exists_pieces (text : List Char) : ∃ contents, Pieces text contents := by
  -- by length, since a quoted run is taken at once
  induction hlength : text.length using Nat.strongRecOn generalizing text with
  | _ length ih =>
      cases text with
      | nil => exact ⟨[[]], .last (.closed .nil)⟩
      | cons c rest =>
          rw [List.length_cons] at hlength
          by_cases hspace : c = ' '
          · obtain ⟨contents, hrest⟩ := ih rest.length (by omega) rest rfl
            subst hspace
            exact ⟨[] :: contents, .cons .nil hrest⟩
          cases hquote : isQuote c with
          | false =>
              obtain ⟨contents, hrest⟩ := ih rest.length (by omega) rest rfl
              exact hrest.prepend (.plain hspace hquote .nil)
          | true =>
              by_cases hclosed : c ∈ rest
              · obtain ⟨inside, more, rfl, hinside⟩ := List.eq_append_cons_of_mem hclosed
                rw [List.length_append, List.length_cons] at hlength
                obtain ⟨contents, hmore⟩ := ih more.length (by omega) more rfl
                have hpieces := hmore.prepend (.quoted hquote hinside .nil)
                rwa [List.append_assoc, List.cons_append, List.cons_append] at hpieces
              · exact ⟨_, .last (.unclosed .nil hquote hclosed)⟩

/-! ### The tokens are what the pieces read as -/

theorem tokensFrom_inside {quote : Char} {inside : List Char} (current rest : List Char)
    (hinside : quote ∉ inside) :
    tokensFrom (some quote) current (inside ++ rest) =
      tokensFrom (some quote) (inside.reverse ++ current) rest := by
  induction inside generalizing current with
  | nil => rfl
  | cons c inside ih =>
      rw [List.mem_cons, not_or] at hinside
      rw [List.cons_append, tokensFrom, if_neg (Ne.symm hinside.1), ih (c :: current) hinside.2,
        List.reverse_cons, List.append_assoc, List.singleton_append]

theorem tokensFrom_space (current rest : List Char) :
    tokensFrom none current (' ' :: rest) = closeToken current ++ tokens rest := rfl

theorem Piece.tokensFrom {text content : List Char} (hpiece : Piece text content)
    (current rest : List Char) :
    tokensFrom none current (text ++ rest) = tokensFrom none (content.reverse ++ current) rest := by
  induction hpiece generalizing current with
  | nil => rfl
  | @plain c text content hspace hquote _ ih =>
      rw [List.cons_append, Arguments.tokensFrom, hquote, if_neg Bool.false_ne_true, if_neg hspace,
        ih, List.reverse_cons, List.append_assoc, List.singleton_append]
  | @quoted quote inside text content hquote hinside _ ih =>
      rw [List.append_assoc, List.cons_append, Arguments.tokensFrom, if_pos hquote,
        tokensFrom_inside _ _ hinside, List.cons_append, Arguments.tokensFrom, if_pos rfl, ih,
        List.reverse_append, List.append_assoc]

theorem LastPiece.tokensFrom {text content : List Char} (hlast : LastPiece text content)
    (current : List Char) :
    tokensFrom none current text = closeToken (content.reverse ++ current) := by
  cases hlast with
  | closed hpiece =>
      have hread := hpiece.tokensFrom current []
      rw [List.append_nil] at hread
      rw [hread, Arguments.tokensFrom]
  | @unclosed text content inside quote hpiece hquote hinside =>
      have hread := tokensFrom_inside (content.reverse ++ current) [] hinside
      rw [List.append_nil] at hread
      rw [hpiece.tokensFrom, Arguments.tokensFrom, if_pos hquote, hread, Arguments.tokensFrom,
        List.reverse_append, List.append_assoc]

theorem closeToken_reverse (content : List Char) :
    closeToken content.reverse = [content].filter fun content => !content.isEmpty := by
  cases content <;> simp [closeToken]

theorem Pieces.tokens_eq {text : List Char} {contents : List (List Char)}
    (hpieces : Pieces text contents) :
    tokens text = contents.filter fun content => !content.isEmpty := by
  induction hpieces with
  | last hlast =>
      rw [tokens, hlast.tokensFrom, List.append_nil, closeToken_reverse]
  | cons hpiece _ ih =>
      rw [tokens, hpiece.tokensFrom, List.append_nil, tokensFrom_space, closeToken_reverse, ih,
        ← List.filter_append, List.singleton_append]

theorem splits_iff {text : List Char} {split : List (List Char)} :
    Splits text split ↔ split = tokens text := by
  constructor
  · rintro ⟨contents, hpieces, rfl⟩
    exact hpieces.tokens_eq.symm
  · rintro rfl
    obtain ⟨contents, hpieces⟩ := exists_pieces text
    exact ⟨contents, hpieces, hpieces.tokens_eq⟩

/-! ### What is read of a part of a text -/

theorem closeToken_of_ne_nil {current : List Char} (hsome : current ≠ []) :
    closeToken current = [current.reverse] := by
  rw [closeToken, if_neg (by rwa [List.isEmpty_iff])]

theorem flatten_closeToken (current : List Char) : (closeToken current).flatten = current.reverse := by
  cases current <;> simp [closeToken]

theorem flatten_tokensFrom_sublist (quote : Option Char) (current text : List Char) :
    (tokensFrom quote current text).flatten.Sublist (current.reverse ++ text) := by
  induction text generalizing quote current with
  | nil =>
      rw [tokensFrom, flatten_closeToken, List.append_nil]
  | cons c rest ih =>
      have hkept := ih quote (c :: current)
      rw [List.reverse_cons, List.append_assoc, List.singleton_append] at hkept
      have hskip : (current.reverse ++ rest).Sublist (current.reverse ++ c :: rest) :=
        (List.sublist_cons_self c rest).append_left _
      cases quote with
      | none =>
          rw [tokensFrom]
          split
          · exact (ih _ current).trans hskip
          · split
            · rw [List.flatten_append, flatten_closeToken]
              refine (List.Sublist.append_left ?_ _).trans hskip
              exact ih none []
            · exact hkept
      | some mark =>
          rw [tokensFrom]
          split
          · exact (ih _ current).trans hskip
          · exact hkept

/-- Reading the front part of a text gives some tokens, and leaves a quote that is open and a token
that is not yet complete. If a quote is open then the token ends with what is inside of it. -/
theorem exists_tokensFrom_append (front current : List Char) :
    ∃ emitted quote pending,
      (∀ rest, tokensFrom none current (front ++ rest) =
        emitted ++ tokensFrom quote pending rest) ∧
      (emitted.flatten ++ pending.reverse).Sublist (current.reverse ++ front) ∧
      ∀ mark ∈ quote, isQuote mark = true ∧ ∃ before inside,
        front = before ++ mark :: inside ∧ mark ∉ inside ∧ inside <:+ pending.reverse := by
  induction front using List.reverseRecOn with
  | nil =>
      exact ⟨[], none, current, fun rest => rfl, by simp, nofun⟩
  | append_singleton front c ih =>
      obtain ⟨emitted, quote, pending, hread, hkept, hopen⟩ := ih
      have hmore : ∀ rest, tokensFrom none current (front ++ [c] ++ rest) =
          emitted ++ tokensFrom quote pending (c :: rest) := by
        intro rest
        rw [List.append_assoc, hread, List.singleton_append]
      have hdropped : (emitted.flatten ++ pending.reverse).Sublist
          (current.reverse ++ (front ++ [c])) :=
        hkept.trans ((List.sublist_append_left front [c]).append_left _)
      have hadded : (emitted.flatten ++ (c :: pending).reverse).Sublist
          (current.reverse ++ (front ++ [c])) := by
        rw [List.reverse_cons, ← List.append_assoc, ← List.append_assoc]
        exact hkept.append_right [c]
      cases quote with
      | none =>
          by_cases hquote : isQuote c = true
          · refine ⟨emitted, some c, pending, fun rest => ?_, hdropped, ?_⟩
            · rw [hmore, tokensFrom, if_pos hquote]
            · rintro mark hmark
              obtain rfl := Option.some.inj hmark
              exact ⟨hquote, front, [], rfl, List.not_mem_nil, List.nil_suffix⟩
          by_cases hspace : c = ' '
          · refine ⟨emitted ++ closeToken pending, none, [], fun rest => ?_, ?_, nofun⟩
            · rw [hmore, tokensFrom, if_neg hquote, if_pos hspace, List.append_assoc]
            · rwa [List.flatten_append, flatten_closeToken, List.reverse_nil, List.append_nil]
          · refine ⟨emitted, none, c :: pending, fun rest => ?_, hadded, nofun⟩
            rw [hmore, tokensFrom, if_neg hquote, if_neg hspace]
      | some mark =>
          obtain ⟨hquote, before, inside, rfl, hinside, hsuffix⟩ := hopen mark rfl
          -- the run that is open goes on, unless this closes it
          by_cases hclosed : c = mark
          · refine ⟨emitted, none, pending, fun rest => ?_, hdropped, nofun⟩
            rw [hmore, tokensFrom, if_pos hclosed]
          · refine ⟨emitted, some mark, c :: pending, fun rest => ?_, hadded, ?_⟩
            · rw [hmore, tokensFrom, if_neg hclosed]
            · rintro other hother
              obtain rfl := Option.some.inj hother
              refine ⟨hquote, before, inside ++ [c], by simp, ?_, ?_⟩
              · simp [hinside, Ne.symm hclosed]
              · rw [List.reverse_cons]
                exact (List.suffix_append_inj_of_length_eq rfl).mpr ⟨hsuffix, rfl⟩

end TunerRelay.Arguments
