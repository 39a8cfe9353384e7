import SiteOptimizer.Proofs.Script.Segments

/-!
# How a script is cut

`Cut` says what the segments of a script are without the reader of this library: from its start on,
a script is cut at each literal and each comment, whichever stands first, and a character at which
neither stands is a segment of its own. Every script can be cut, and in one way only (`cut_iff`).
The literals are those of `IsQuoted` without continued lines; at the quote of one with a continued
line the reader finds no literal at all (`split?_literal_eq_none`).
-/

namespace SiteOptimizer
namespace Script

/-! ## Literals -/

section

variable {quote : Char} {multiline : Bool} {s found rest : Text}

/-- **The reader takes just the bodies of literals up to the closing quote.** -/
theorem literalTail_eq_some_iff (hquote : quote ≠ '\\') :
    literalTail quote multiline s = some (found, rest) ↔
      ∃ body, QuotedBody quote multiline false body ∧ found = body ++ [quote] ∧
        s = found ++ rest := by
  constructor
  -- the cases that fail are a text that ends too early, a line end and an escape of neither
  · intro h
    fun_induction literalTail quote multiline s generalizing found rest with
    | case1 => cases h
    | case2 s =>
      cases h
      exact ⟨[], .nil, rfl, rfl⟩
    | case3 => cases h
    | case4 => cases h
    | case5 d s hd _ ih =>
      obtain ⟨⟨inner, behind⟩, hinner, heq⟩ := Option.map_eq_some_iff.1 h
      cases heq
      obtain ⟨body, hbody, rfl, rfl⟩ := ih hinner
      exact ⟨'\\' :: d :: body, .escape hd hbody, rfl, rfl⟩
    | case6 => cases h
    | case7 c s hc hescape hline ih =>
      obtain ⟨⟨inner, behind⟩, hinner, heq⟩ := Option.map_eq_some_iff.1 h
      cases heq
      obtain ⟨body, hbody, rfl, rfl⟩ := ih hinner
      refine ⟨c :: body, .plain hc hescape ?_ hbody, rfl, rfl⟩
      cases multiline with
      | true => exact .inl rfl
      | false => exact .inr fun hc => hline (by rw [hc]; rfl)
  · rintro ⟨body, hbody, rfl, rfl⟩
    rw [List.append_assoc]
    exact literalTail_body hbody hquote rest

/-- Nothing is read behind the quote of a literal with a continued line. -/
theorem literalTail_eq_none (hquote : IsDelimiter quote) {body : Text}
    (h : QuotedBody quote multiline true body)
    (hcontinued : ¬ QuotedBody quote multiline false body) (rest : Text) :
    literalTail quote multiline (body ++ quote :: rest) = none := by
  have hback := hquote.ne_backslash
  induction h with
  | nil => exact absurd .nil hcontinued
  | plain hq hb hline _ ih =>
    rw [List.cons_append, literalTail_cons hq hb hline,
      ih fun h => hcontinued (.plain hq hb hline h)]
    rfl
  | escape hline _ ih =>
    rw [List.cons_append, List.cons_append, literalTail_escape hback hline,
      ih fun h => hcontinued (.escape hline h)]
    rfl
  | lineFeed =>
    rw [List.cons_append, literalTail.eq_def]
    simp only [if_neg hback.symm, if_true, List.cons_append]
  | lineEnd _ _ ih =>
    -- the carriage return is escaped, so all depends on whether a line feed may stand as it is
    have hreturn : '\r' ≠ '\n' := by decide
    have hfeed : '\n' ≠ quote := by rcases hquote with rfl | rfl | rfl <;> decide
    rw [List.cons_append, List.cons_append, literalTail_escape hback hreturn, List.cons_append]
    cases multiline with
    | true =>
      have hstays : true = true ∨ '\n' ≠ '\n' := .inl rfl
      have hbody := ih fun h => hcontinued (.escape hreturn (.plain hfeed (by decide) hstays h))
      rw [literalTail_cons hfeed (by decide) hstays, hbody]
      rfl
    | false =>
      rw [literalTail.eq_def]
      simp [if_neg hfeed]

end

/-- **The reader finds just the literals without continued lines.** -/
theorem split?_literal_eq_some_iff {s L rest : Text} :
    literal.split? s = some (L, rest) ↔ IsQuoted false L ∧ s = L ++ rest := by
  constructor
  · intro h
    cases s with
    | nil => cases h
    | cons c s =>
      by_cases hc : IsDelimiter c
      · rw [split?_literal_of_isDelimiter hc] at h
        obtain ⟨⟨found, behind⟩, hfound, heq⟩ := Option.map_eq_some_iff.1 h
        cases heq
        obtain ⟨body, hbody, rfl, rfl⟩ := (literalTail_eq_some_iff hc.ne_backslash).1 hfound
        exact ⟨⟨c, body, hc, hbody, rfl⟩, rfl⟩
      · rw [split?_literal_of_not_isDelimiter hc] at h
        cases h
  · rintro ⟨hL, rfl⟩
    exact split?_literal hL rest

instance (L : Text) : Decidable (IsQuoted false L) :=
  decidable_of_iff (literal.split? L = some (L, []))
    (by rw [split?_literal_eq_some_iff, List.append_nil, and_iff_left rfl])

/-- At the quote of a literal with a continued line the reader finds none. -/
theorem split?_literal_eq_none {L : Text} (h : IsQuoted true L)
    (hcontinued : ¬ IsQuoted false L) (rest : Text) :
    literal.split? (L ++ rest) = none := by
  obtain ⟨quote, body, hquote, hbody, rfl⟩ := h
  rw [List.cons_append, List.append_assoc, List.singleton_append,
    split?_literal_of_isDelimiter hquote, literalTail_eq_none hquote hbody fun h =>
      hcontinued ⟨quote, body, hquote, h, rfl⟩]
  rfl

/-! ## The segments of a script -/

/-- **How a script is cut** into literals, comments and other characters. -/
inductive Cut : Text → List Segment → Prop where
  | nil : Cut [] []
  | literal {L rest : Text} {found : List Segment} : IsQuoted false L → Cut rest found →
      Cut (L ++ rest) (.literal L :: found)
  | comment {C rest : Text} {found : List Segment} : IsComment rest C → Cut rest found →
      Cut (C ++ rest) (.comment C :: found)
  | plain {c : Char} {s : Text} {found : List Segment} :
      (∀ L rest, IsQuoted false L → c :: s ≠ L ++ rest) →
      (∀ C rest, IsComment rest C → c :: s ≠ C ++ rest) →
      Cut s found → Cut (c :: s) (.plain c :: found)

theorem IsQuoted.ne_nil {continued : Bool} {L : Text} (h : IsQuoted continued L) : L ≠ [] := by
  obtain ⟨quote, body, -, -, rfl⟩ := h
  exact List.cons_ne_nil _ _

theorem Cut.literal_ne_nil {s L : Text} {found : List Segment} (h : Cut s found)
    (hL : .literal L ∈ found) :
    L ≠ [] := by
  induction h with
  | nil => cases hL
  | literal hquoted _ ih =>
    rcases List.mem_cons.1 hL with heq | hL
    · rw [Segment.literal.inj heq]
      exact hquoted.ne_nil
    · exact ih hL
  | comment _ _ ih => exact ih (by simpa using hL)
  | plain _ _ _ ih => exact ih (by simpa using hL)

theorem split?_comment_eq_none {c : Char} {s : Text}
    (h : c = '/' → ∀ d ∈ s.head?, d ≠ '/' ∧ d ≠ '*') :
    comment.split? (c :: s) = none := by
  rw [Option.eq_none_iff_forall_ne_some]
  rintro ⟨C, rest⟩ hC
  obtain ⟨hcomment, heq⟩ := split?_comment_eq_some_iff.1 hC
  cases hcomment with
  | line =>
    obtain ⟨rfl, rfl⟩ := List.cons.inj heq
    exact (h rfl '/' rfl).1 rfl
  | block =>
    obtain ⟨rfl, rfl⟩ := List.cons.inj heq
    exact (h rfl '*' rfl).2 rfl

/-- The quote of a literal with a continued line is a segment of its own. -/
theorem segments_of_continued {L : Text} (h : IsQuoted true L)
    (hcontinued : ¬ IsQuoted false L) (rest : Text) :
    ∃ quote s, L ++ rest = quote :: s ∧ segments (L ++ rest) = .plain quote :: segments s := by
  have hliteral := split?_literal_eq_none h hcontinued rest
  obtain ⟨quote, body, hquote, -, rfl⟩ := h
  have hslash : quote ≠ '/' := by
    rcases hquote with rfl | rfl | rfl <;> decide
  exact ⟨quote, _, rfl, segments_plain_of_none hliteral
    (split?_comment_eq_none fun h => absurd h hslash)⟩

theorem cut_segments (s : Text) : Cut s (segments s) := by
  fun_induction segments s with
  | case1 => exact .nil
  | case2 c s ih =>
    cases hliteral : literal.split? (c :: s) with
    | some found =>
      obtain ⟨L, rest⟩ := found
      obtain ⟨hL, heq⟩ := split?_literal_eq_some_iff.1 hliteral
      obtain ⟨d, found, rfl⟩ := List.exists_cons_of_ne_nil hL.ne_nil
      have hnext : nextSegment c s = (.literal (d :: found), rest) := by
        rw [nextSegment, hliteral]
      rw [hnext] at ih ⊢
      rw [heq]
      exact .literal hL ih
    -- no literal starts here, and the cut has to tell so wherever it goes on
    | none =>
      have hnoLiteral : ∀ L rest, IsQuoted false L → c :: s ≠ L ++ rest := fun L rest hL heq => by
        rw [split?_literal_eq_some_iff.2 ⟨hL, heq⟩] at hliteral
        cases hliteral
      cases hcomment : comment.split? (c :: s) with
      | some found =>
        obtain ⟨C, rest⟩ := found
        obtain ⟨hC, heq⟩ := split?_comment_eq_some_iff.1 hcomment
        obtain ⟨d, found, rfl⟩ := List.exists_cons_of_ne_nil hC.ne_nil
        have hnext : nextSegment c s = (.comment (d :: found), rest) := by
          rw [nextSegment, hliteral, hcomment]
        rw [hnext] at ih ⊢
        rw [heq]
        exact .comment hC ih
      | none =>
        have hnext : nextSegment c s = (.plain c, s) := by
          rw [nextSegment, hliteral, hcomment]
        rw [hnext] at ih ⊢
        refine .plain hnoLiteral (fun C rest hC heq => ?_) ih
        rw [split?_comment_eq_some_iff.2 ⟨hC, heq⟩] at hcomment
        cases hcomment

/-- **A script is cut into its segments, and in no other way.** -/
theorem cut_iff {s : Text} {found : List Segment} : Cut s found ↔ found = segments s := by
  constructor
  · intro h
    induction h with
    | nil => rw [segments]
    | literal hL _ ih => rw [segments_literal hL, ih]
    | comment hC _ ih => rw [segments_comment hC, ih]
    | @plain c s found hliteral hcomment _ ih =>
      -- the cut rules out every literal, and the pattern takes a literal if it takes anything
      have hnoLiteral : literal.split? (c :: s) = none := by
        rw [Option.eq_none_iff_forall_ne_some]
        rintro ⟨L, rest⟩ hL
        obtain ⟨hquoted, heq⟩ := split?_literal_eq_some_iff.1 hL
        exact hliteral L rest hquoted heq
      have hnoComment : comment.split? (c :: s) = none := by
        rw [Option.eq_none_iff_forall_ne_some]
        rintro ⟨C, rest⟩ hC
        obtain ⟨hcomment', heq⟩ := split?_comment_eq_some_iff.1 hC
        exact hcomment C rest hcomment' heq
      rw [segments_plain_of_none hnoLiteral hnoComment, ih]
  · rintro rfl
    exact cut_segments s

end Script
end SiteOptimizer
