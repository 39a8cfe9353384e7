import SiteOptimizer.Proofs.Markup.Gap
import SiteOptimizer.Script.Import

/-!
# Literals as scripts have them

`IsLiteral` says what a string literal or a template literal is by the rules of scripts, without the
reader of this library. The reader takes every such literal as one segment unless a line is
continued inside of it behind a backslash: an escape takes along any character but a line feed, so
there the literal falls apart (`segments_literal`). Where a script starts with a statement that
assigns a literal, stripping keeps this statement as it is, and what follows is stripped as it would
be alone (`text_strip_assigned`, `literals_strip_assigned`).
-/

namespace SiteOptimizer
namespace Script

/-- What may stand between the quotes of a literal: characters other than the quote and the
backslash, which end a line only if the literal may run over several lines, and escapes. `continued`
says whether a line may also be continued behind a backslash. -/
inductive LiteralBody (quote : Char) (multiline continued : Bool) : Text → Prop where
  | nil : LiteralBody quote multiline continued []
  | plain {c : Char} {s : Text} : c ≠ quote → c ≠ '\\' → (multiline = true ∨ c ≠ '\n' ∧ c ≠ '\r') →
      LiteralBody quote multiline continued s → LiteralBody quote multiline continued (c :: s)
  | escape {c : Char} {s : Text} : c ≠ '\n' → LiteralBody quote multiline continued s →
      LiteralBody quote multiline continued ('\\' :: c :: s)
  | lineFeed {s : Text} : continued = true → LiteralBody quote multiline continued s →
      LiteralBody quote multiline continued ('\\' :: '\n' :: s)
  | lineEnd {s : Text} : continued = true → LiteralBody quote multiline continued s →
      LiteralBody quote multiline continued ('\\' :: '\r' :: '\n' :: s)

/-- The quotes of literals. -/
def IsDelimiter (quote : Char) : Prop :=
  quote = '"' ∨ quote = '\'' ∨ quote = templateQuote

instance (quote : Char) : Decidable (IsDelimiter quote) :=
  inferInstanceAs (Decidable (_ ∨ _ ∨ _))

/-- The literals of scripts, where `continued` says whether lines may be continued
behind a backslash. A dollar sign in a template is a character like any other, so
there are no substitutions. -/
def IsLiteral (continued : Bool) (literal : Text) : Prop :=
  ∃ quote body, IsDelimiter quote ∧ LiteralBody quote (quote = templateQuote) continued body ∧
    literal = quote :: (body ++ [quote])

theorem LiteralBody.of_plain {quote : Char} {multiline continued : Bool} {body : Text}
    (h : ∀ c ∈ body, c ≠ quote ∧ c ≠ '\\' ∧ (multiline = true ∨ c ≠ '\n' ∧ c ≠ '\r')) :
    LiteralBody quote multiline continued body := by
  induction body with
  | nil => exact .nil
  | cons c body ih =>
    obtain ⟨hq, hb, hline⟩ := h c List.mem_cons_self
    exact .plain hq hb hline (ih fun d hd => h d (List.mem_cons_of_mem c hd))

/-! ## Literals are read as one segment -/

/-- What may stand between the quotes of a literal for the reader, to which only a line feed ends a
line: a carriage return is a character like any other. `continued` says whether a line may also be
continued behind a backslash. -/
inductive QuotedBody (quote : Char) (multiline continued : Bool) : Text → Prop where
  | nil : QuotedBody quote multiline continued []
  | plain {c : Char} {s : Text} : c ≠ quote → c ≠ '\\' → (multiline = true ∨ c ≠ '\n') →
      QuotedBody quote multiline continued s → QuotedBody quote multiline continued (c :: s)
  | escape {c : Char} {s : Text} : c ≠ '\n' → QuotedBody quote multiline continued s →
      QuotedBody quote multiline continued ('\\' :: c :: s)
  | lineFeed {s : Text} : continued = true → QuotedBody quote multiline continued s →
      QuotedBody quote multiline continued ('\\' :: '\n' :: s)
  | lineEnd {s : Text} : continued = true → QuotedBody quote multiline continued s →
      QuotedBody quote multiline continued ('\\' :: '\r' :: '\n' :: s)

theorem QuotedBody.of_plain {quote : Char} {multiline continued : Bool} {body : Text}
    (h : ∀ c ∈ body, c ≠ quote ∧ c ≠ '\\' ∧ (multiline = true ∨ c ≠ '\n')) :
    QuotedBody quote multiline continued body := by
  induction body with
  | nil => exact .nil
  | cons c body ih =>
    obtain ⟨hq, hb, hline⟩ := h c List.mem_cons_self
    exact .plain hq hb hline (ih fun d hd => h d (List.mem_cons_of_mem c hd))

/-- The literals of scripts and those in which a carriage return stands as it is, where `continued`
says whether lines may be continued behind a backslash. -/
def IsQuoted (continued : Bool) (literal : Text) : Prop :=
  ∃ quote body, IsDelimiter quote ∧ QuotedBody quote (quote = templateQuote) continued body ∧
    literal = quote :: (body ++ [quote])

theorem LiteralBody.quotedBody {quote : Char} {multiline continued : Bool} {body : Text}
    (h : LiteralBody quote multiline continued body) :
    QuotedBody quote multiline continued body := by
  induction h with
  | nil => exact .nil
  | plain hq hb hline _ ih => exact .plain hq hb (hline.imp_right And.left) ih
  | escape hline _ ih => exact .escape hline ih
  | lineFeed hcontinued _ ih => exact .lineFeed hcontinued ih
  | lineEnd hcontinued _ ih => exact .lineEnd hcontinued ih

theorem IsLiteral.isQuoted {continued : Bool} {literal : Text} (h : IsLiteral continued literal) :
    IsQuoted continued literal := by
  obtain ⟨quote, body, hquote, hbody, rfl⟩ := h
  exact ⟨quote, body, hquote, hbody.quotedBody, rfl⟩

/-- A literal without continued lines is one of those that may have some. -/
theorem IsQuoted.continued {literal : Text}
    (h : IsQuoted false literal) : IsQuoted true literal := by
  obtain ⟨quote, body, hquote, hbody, rfl⟩ := h
  refine ⟨quote, body, hquote, ?_, rfl⟩
  induction hbody with
  | nil => exact .nil
  | plain hq hb hline _ ih => exact .plain hq hb hline ih
  | escape hline _ ih => exact .escape hline ih
  | lineFeed h => cases h
  | lineEnd h => cases h

section

variable {quote c : Char} {multiline : Bool}

theorem literalTail_cons (hquote : c ≠ quote) (hescape : c ≠ '\\')
    (hline : multiline = true ∨ c ≠ '\n') (s : Text) :
    literalTail quote multiline (c :: s) =
      (literalTail quote multiline s).map fun found => (c :: found.1, found.2) := by
  have hstays : (decide (c = '\n') && !multiline) = false := by
    rcases hline with hline | hline
    · rw [hline, Bool.not_true, Bool.and_false]
    · rw [decide_eq_false hline, Bool.false_and]
  rw [literalTail.eq_def]
  simp only [if_neg hquote, if_neg hescape, hstays, Bool.false_eq_true, if_false]

theorem literalTail_escape (hquote : quote ≠ '\\') (hline : c ≠ '\n') (s : Text) :
    literalTail quote multiline ('\\' :: c :: s) =
      (literalTail quote multiline s).map fun found => ('\\' :: c :: found.1, found.2) := by
  rw [literalTail.eq_def]
  simp only [if_neg hquote.symm, if_true, if_neg hline]

theorem literalTail_body {body : Text} (h : QuotedBody quote multiline false body)
    (hquote : quote ≠ '\\') (rest : Text) :
    literalTail quote multiline (body ++ quote :: rest) = some (body ++ [quote], rest) := by
  induction h with
  | nil => rw [List.nil_append, literalTail.eq_def]; simp
  | plain hq hb hline _ ih => rw [List.cons_append, literalTail_cons hq hb hline, ih]; rfl
  | escape hline _ ih =>
    rw [List.cons_append, List.cons_append, literalTail_escape hquote hline, ih]; rfl
  | lineFeed h => cases h
  | lineEnd h => cases h

end

theorem split?_quotedLiteral (quote : Char) (multiline : Bool) (s : Text) :
    (quotedLiteral quote multiline).split? (quote :: s) =
      (literalTail quote multiline s).map fun found => (quote :: found.1, found.2) := by
  rw [quotedLiteral, Markup.Pattern.split?_followedBy, Markup.Pattern.split?_word]
  simp [Text.after?]

theorem split?_quotedLiteral_of_ne {quote c : Char} (h : quote ≠ c) (multiline : Bool) (s : Text) :
    (quotedLiteral quote multiline).split? (c :: s) = none := by
  rw [quotedLiteral, Markup.Pattern.split?_followedBy, Markup.Pattern.split?_word]
  simp [Text.after?, h]

/-- A quote is answered by the tail of the literal that it opens. -/
theorem split?_literal_of_isDelimiter {quote : Char} (h : IsDelimiter quote) (s : Text) :
    literal.split? (quote :: s) =
      (literalTail quote (quote = templateQuote) s).map fun found =>
        (quote :: found.1, found.2) := by
  rw [literal, Markup.Pattern.split?_orElse, Markup.Pattern.split?_orElse]
  rcases h with rfl | rfl | rfl
  · have hline : decide ('"' = templateQuote) = false := by decide
    rw [split?_quotedLiteral, split?_quotedLiteral_of_ne (by decide),
      split?_quotedLiteral_of_ne (by decide), hline]
    cases literalTail '"' false s <;> rfl
  · have hline : decide ('\'' = templateQuote) = false := by decide
    rw [split?_quotedLiteral, split?_quotedLiteral_of_ne (by decide),
      split?_quotedLiteral_of_ne (by decide), hline]
    cases literalTail '\'' false s <;> rfl
  · rw [split?_quotedLiteral, split?_quotedLiteral_of_ne (by decide),
      split?_quotedLiteral_of_ne (by decide)]
    rfl

theorem split?_literal_of_not_isDelimiter {c : Char} (h : ¬ IsDelimiter c) (s : Text) :
    literal.split? (c :: s) = none := by
  simp only [IsDelimiter, not_or] at h
  rw [literal, Markup.Pattern.split?_orElse, split?_quotedLiteral_of_ne (Ne.symm h.1),
    Markup.Pattern.split?_orElse, split?_quotedLiteral_of_ne (Ne.symm h.2.1),
    split?_quotedLiteral_of_ne (Ne.symm h.2.2)]

theorem IsDelimiter.ne_backslash {quote : Char} (h : IsDelimiter quote) : quote ≠ '\\' := by
  rcases h with rfl | rfl | rfl <;> decide

theorem split?_literal {L : Text} (h : IsQuoted false L) (rest : Text) :
    literal.split? (L ++ rest) = some (L, rest) := by
  obtain ⟨quote, body, hquote, hbody, rfl⟩ := h
  rw [List.cons_append, List.append_assoc, List.singleton_append,
    split?_literal_of_isDelimiter hquote, literalTail_body hbody hquote.ne_backslash]
  rfl

/-- **A literal without continued lines is one segment.** -/
theorem segments_literal {L : Text} (h : IsQuoted false L) (rest : Text) :
    segments (L ++ rest) = .literal L :: segments rest := by
  have hsplit := split?_literal h rest
  obtain ⟨quote, body, -, -, rfl⟩ := h
  rw [List.cons_append] at hsplit ⊢
  have hnext : nextSegment quote (body ++ [quote] ++ rest) =
      (.literal (quote :: (body ++ [quote])), rest) := by
    rw [nextSegment, hsplit]
  rw [segments, hnext]

/-- Where neither a literal nor a comment is found, the character is a segment of its own. -/
theorem segments_plain_of_none {c : Char} {s : Text} (hliteral : literal.split? (c :: s) = none)
    (hcomment : comment.split? (c :: s) = none) : segments (c :: s) = .plain c :: segments s := by
  have hnext : nextSegment c s = (.plain c, s) := by
    rw [nextSegment, hliteral, hcomment]
  rw [segments, hnext]

/-- So it is if the character is neither a quote nor a slash. -/
theorem segments_plain {c : Char} (hc : ¬ IsDelimiter c) (hslash : c ≠ '/') (s : Text) :
    segments (c :: s) = .plain c :: segments s := by
  have hliteral : literal.split? (c :: s) = none := split?_literal_of_not_isDelimiter hc s
  have hcomment : comment.split? (c :: s) = none := by
    rw [comment, Markup.Pattern.split?_orElse, lineComment, blockComment, Text.Pattern.inOrder,
      List.foldr_cons, Markup.Pattern.split?_followedBy, Markup.Pattern.split?_followedBy,
      Markup.Pattern.split?_word, Markup.Pattern.split?_word]
    simp [Text.after?, Ne.symm hslash]
  exact segments_plain_of_none hliteral hcomment

theorem segments_append_of_plain {u : Text} (h : ∀ c ∈ u, ¬ IsDelimiter c ∧ c ≠ '/') (s : Text) :
    segments (u ++ s) = u.map .plain ++ segments s := by
  induction u with
  | nil => rfl
  | cons c u ih =>
    obtain ⟨hc, hslash⟩ := h c List.mem_cons_self
    rw [List.cons_append, segments_plain hc hslash, ih fun d hd => h d (List.mem_cons_of_mem c hd),
      List.map_cons, List.cons_append]

/-! ## Stripping behind an assigned literal -/

/-- A place that is `k` characters further on. -/
def Span.shift (k : Nat) (span : Span) : Span :=
  ⟨k + span.start, k + span.stop⟩

theorem literalSpans_add (k offset : Nat) (found : List Segment) :
    literalSpans (k + offset) found = (literalSpans offset found).map (Span.shift k) := by
  induction found generalizing offset with
  | nil => rfl
  | cons segment found ih =>
    cases segment with
    | literal t =>
      simp only [literalSpans, Nat.add_assoc, ih, List.map_cons]
      rfl
    | comment t => simp only [literalSpans, Nat.add_assoc, ih]
    | plain c => simp only [literalSpans, Nat.add_assoc, ih]

theorem literalSpans_plain (u : Text) (offset : Nat) (found : List Segment) :
    literalSpans offset (u.map .plain ++ found) = literalSpans (offset + u.length) found := by
  induction u generalizing offset with
  | nil => rfl
  | cons c u ih =>
    simp only [List.map_cons, List.cons_append, literalSpans, Segment.stripped, ih,
      List.length_cons, List.length_nil]
    congr 1
    omega

theorem flatMap_stripped_plain (u : Text) : (u.map Segment.plain).flatMap Segment.stripped = u := by
  induction u with
  | nil => rfl
  | cons c u ih => rw [List.map_cons, List.flatMap_cons, ih]; rfl

/-- What stands in front of an assigned literal. -/
def assignment : Text := "s = ".toList

/-- A statement that assigns a literal, on a line that ends behind it. -/
def assigned (literal : Text) : Text :=
  assignment ++ literal ++ ";\n".toList

theorem length_assigned (literal : Text) : (assigned literal).length = literal.length + 6 := by
  simp [assigned, assignment]

theorem segments_assigned {L : Text} (h : IsLiteral false L) (rest : Text) :
    segments (assigned L ++ rest) =
      assignment.map .plain ++ .literal L :: (";\n".toList.map .plain ++ segments rest) := by
  rw [assigned, List.append_assoc, List.append_assoc, segments_append_of_plain (by decide),
    segments_literal h.isQuoted, segments_append_of_plain (by decide)]

theorem text_strip_assigned {L : Text} (h : IsLiteral false L) (rest : Text) :
    (strip (assigned L ++ rest)).text = assigned L ++ (strip rest).text := by
  simp only [strip]
  rw [segments_assigned h, List.flatMap_append, flatMap_stripped_plain, List.flatMap_cons,
    List.flatMap_append, flatMap_stripped_plain]
  simp only [Segment.stripped, assigned, List.append_assoc]

theorem literals_strip_assigned {L : Text} (h : IsLiteral false L) (rest : Text) :
    (strip (assigned L ++ rest)).literals =
      ⟨4, 4 + L.length⟩ :: (strip rest).literals.map (Span.shift (assigned L).length) := by
  rw [strip, segments_assigned h, literalSpans_plain, literalSpans, literalSpans_plain]
  have hoffset : 0 + assignment.length + L.length + ";\n".toList.length =
      (assigned L).length + 0 := by
    rw [length_assigned]
    simp [assignment]
    omega
  simp only [Segment.stripped, hoffset, literalSpans_add]
  rfl

/-- The statement's own literal covers its place. -/
theorem inLiteral_assigned {L : Text} (h : IsLiteral false L) (rest : Text) {offset : Nat}
    (hstart : 4 ≤ offset) (hstop : offset < 4 + L.length) :
    (strip (assigned L ++ rest)).inLiteral offset = true := by
  have hnone : ((strip rest).literals.map (Span.shift (assigned L).length)).takeWhile
      (·.start ≤ offset) = [] := by
    cases (strip rest).literals with
    | nil => rfl
    | cons span spans =>
      have hbeyond : ¬ (Span.shift (assigned L).length span).start ≤ offset := by
        simp only [Span.shift, length_assigned]
        omega
      rw [List.map_cons, List.takeWhile_cons_of_neg (by simpa using hbeyond)]
  rw [Stripped.inLiteral, literals_strip_assigned h,
    List.takeWhile_cons_of_pos (by simpa using hstart), hnone]
  simpa using hstop

/-- Behind the statement the literals cover the places that they cover without it. -/
theorem inLiteral_behind {L : Text} (h : IsLiteral false L) (rest : Text) (offset : Nat) :
    (strip (assigned L ++ rest)).inLiteral ((assigned L).length + offset) =
      (strip rest).inLiteral offset := by
  have hstart : ∀ span : Span,
      decide ((span.shift (assigned L).length).start ≤ (assigned L).length + offset) =
        decide (span.start ≤ offset) := by
    intro span
    simp [Span.shift]
  rw [Stripped.inLiteral, literals_strip_assigned h,
    List.takeWhile_cons_of_pos (by simp only [length_assigned, decide_eq_true_eq]; omega),
    List.takeWhile_map, List.getLast?_cons, List.getLast?_map, Stripped.inLiteral]
  simp only [Function.comp_def, hstart]
  cases ((strip rest).literals.takeWhile fun span => decide (span.start ≤ offset)).getLast? with
  | none =>
    simp only [Option.map_none, Option.getD_none, length_assigned, decide_eq_false_iff_not]
    omega
  | some span => simp [Span.shift]

end Script
end SiteOptimizer
