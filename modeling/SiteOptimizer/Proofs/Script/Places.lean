import SiteOptimizer.Proofs.Script.Cutting
import SiteOptimizer.Proofs.Script.Specifiers

/-!
# Where the literals of a stripped script stand

The places that stripping gives are those of the literals of the script, one by one and in order,
and each covers its literal in what is left of the script; to ask for the last literal to the left
of a place is to ask whether any literal covers it (`Placed`). For a script that is written from
literals, comments and other text, what is left and the places can be read off what it is written
from, just if no line is continued in a literal (`strip_written_iff`): a literal with a continued
line falls apart, and no place starts at its quote.
-/

namespace SiteOptimizer
namespace Script

/-! ## Places and what they cover -/

/-- What stands at a place of a text. -/
def Span.covered (text : Text) (span : Span) : Text :=
  (text.drop span.start).take (span.stop - span.start)

/-- The text of a segment that is a literal. -/
def Segment.literal? : Segment → Option Text
  | .literal text => some text
  | _ => none

/-- What is left of a script that is cut into some segments, with the places of its literals. -/
structure Placed (found : List Segment) (s : Stripped) : Prop where
  text_eq : s.text = strippedText found
  /-- Each place ends before the next one starts. -/
  ordered : s.literals.Pairwise fun a b => a.stop ≤ b.start
  nonempty : ∀ span ∈ s.literals, span.start < span.stop
  bounded : ∀ span ∈ s.literals, span.stop ≤ s.text.length
  /-- A place is that of a literal, behind what is left of the segments in front of it. -/
  mem_iff : ∀ span, span ∈ s.literals ↔
    ∃ before literal after, found = before ++ .literal literal :: after ∧
    span.start = (strippedText before).length ∧ span.stop = span.start + literal.length
  /-- The literals themselves stand at the places, one at each. -/
  covered_eq : s.literals.map (Span.covered s.text) = found.filterMap Segment.literal?
  inLiteral_iff : ∀ place, s.inLiteral place = true ↔
    ∃ span ∈ s.literals, span.start ≤ place ∧ place < span.stop

theorem strippedText_cons (segment : Segment) (found : List Segment) :
    strippedText (segment :: found) = segment.stripped ++ strippedText found :=
  List.flatMap_cons

section

variable {found : List Segment} {offset : Nat}

theorem pairwise_literalSpans (found : List Segment) (offset : Nat) :
    (literalSpans offset found).Pairwise fun a b => a.stop ≤ b.start := by
  induction found generalizing offset with
  | nil => exact .nil
  | cons segment found ih =>
    cases segment with
    | literal text =>
      exact List.pairwise_cons.2 ⟨fun span hspan => le_start_of_mem_literalSpans hspan, ih _⟩
    | comment text => exact ih _
    | plain c => exact ih _

theorem mem_literalSpans_iff {span : Span} : span ∈ literalSpans offset found ↔
    ∃ before literal after, found = before ++ .literal literal :: after ∧
      span.start = offset + (strippedText before).length ∧
      span.stop = span.start + literal.length := by
  constructor
  · intro h
    induction found generalizing offset with
    | nil => cases h
    | cons segment found ih =>
      have hlater (h : span ∈ literalSpans (offset + segment.stripped.length) found) :
          ∃ before literal after, segment :: found = before ++ .literal literal :: after ∧
            span.start = offset + (strippedText before).length ∧
            span.stop = span.start + literal.length := by
        obtain ⟨before, literal, after, rfl, hstart, hstop⟩ := ih h
        refine ⟨segment :: before, literal, after, rfl, ?_, hstop⟩
        rw [hstart, strippedText_cons, List.length_append, Nat.add_assoc]
      -- only a literal has a span; all segments move the place of those behind them
      cases segment with
      | literal text =>
        rcases List.mem_cons.1 h with rfl | h
        · exact ⟨[], text, found, rfl, rfl, rfl⟩
        · exact hlater h
      | comment text => exact hlater h
      | plain c => exact hlater h
  · rintro ⟨before, literal, after, rfl, hstart, hstop⟩
    induction before generalizing offset with
    | nil =>
      obtain ⟨start, stop⟩ := span
      obtain rfl : start = offset := hstart
      obtain rfl : stop = start + literal.length := hstop
      exact List.mem_cons_self
    | cons segment before ih =>
      rw [strippedText_cons, List.length_append, ← Nat.add_assoc] at hstart
      cases segment with
      | literal text => exact List.mem_cons_of_mem _ (ih hstart)
      | comment text => exact ih hstart
      | plain c => exact ih hstart

theorem covered_literalSpans (front : Text) (found : List Segment) :
    (literalSpans front.length found).map (Span.covered (front ++ strippedText found)) =
      found.filterMap Segment.literal? := by
  induction found generalizing front with
  | nil => rfl
  | cons segment found ih =>
    have hlater := ih (front ++ segment.stripped)
    rw [List.length_append, List.append_assoc, ← strippedText_cons] at hlater
    cases segment with
    | literal text =>
      have hcovered : Span.covered (front ++ strippedText (.literal text :: found))
          ⟨front.length, front.length + text.length⟩ = text := by
        rw [Span.covered, strippedText_cons, List.drop_left, Nat.add_sub_cancel_left]
        exact List.take_left
      exact congrArg₂ List.cons hcovered hlater
    | comment text => exact hlater
    | plain c => exact hlater

theorem literalAt_iff (found : List Segment) (offset place : Nat) : literalAt found place = true ↔
    ∃ span ∈ literalSpans offset found, span.start ≤ offset + place ∧
      offset + place < span.stop := by
  induction found generalizing offset place with
  | nil => simp [literalAt, literalSpans]
  | cons segment found ih =>
    have hnone (h : place < segment.stripped.length) :
        ¬ ∃ span ∈ literalSpans (offset + segment.stripped.length) found,
        span.start ≤ offset + place ∧ offset + place < span.stop := by
      rintro ⟨span, hspan, hstart, -⟩
      have hbeyond := le_start_of_mem_literalSpans hspan
      omega
    have hlater (h : ¬ place < segment.stripped.length) :
        literalAt found (place - segment.stripped.length) = true ↔
        ∃ span ∈ literalSpans (offset + segment.stripped.length) found,
          span.start ≤ offset + place ∧ offset + place < span.stop := by
      have hplace := ih (offset + segment.stripped.length) (place - segment.stripped.length)
      rwa [Nat.add_assoc, Nat.add_sub_cancel' (Nat.le_of_not_lt h)] at hplace
    rw [literalAt]
    cases hliteral : segment.isLiteral with
    | false =>
      rw [literalSpans_cons hliteral]
      split
      case isTrue h => exact iff_of_false Bool.false_ne_true (hnone h)
      case isFalse h => exact hlater h
    | true =>
      obtain ⟨text, rfl⟩ := Segment.exists_of_isLiteral hliteral
      simp only [literalSpans, List.mem_cons, exists_eq_or_imp]
      split
      case isTrue h => exact iff_of_true rfl (.inl ⟨Nat.le_add_right _ _, Nat.add_lt_add_left h _⟩)
      case isFalse h =>
        -- the place lies behind the literal itself
        rw [hlater h, or_iff_right]
        rintro ⟨-, hstop⟩
        omega

end

/-- **Stripping places the literals of a script** as it is cut. -/
theorem placed_strip {code : Text} {found : List Segment} (h : Cut code found) :
    Placed found (strip code) := by
  obtain rfl := cut_iff.1 h
  -- the spans are the literals of the one cut, each where the text in front of it ends
  have hmem : ∀ span, span ∈ (strip code).literals ↔
      ∃ before literal after, segments code = before ++ .literal literal :: after ∧
        span.start = (strippedText before).length ∧ span.stop = span.start + literal.length := by
    intro span
    rw [strip, mem_literalSpans_iff]
    simp only [Nat.zero_add]
  refine ⟨rfl, pairwise_literalSpans _ _, fun span hspan => ?_, fun span hspan => ?_,
    hmem, ?_, fun place => ?_⟩
  · obtain ⟨before, literal, after, hcode, -, hstop⟩ := (hmem span).1 hspan
    have hliteral := List.length_pos_iff.2 (h.literal_ne_nil (hcode ▸
      List.mem_append_right _ List.mem_cons_self))
    omega
  · obtain ⟨before, literal, after, hcode, hstart, hstop⟩ := (hmem span).1 hspan
    have htext : (strip code).text = strippedText before ++ (literal ++ strippedText after) := by
      rw [strip, hcode]
      exact List.flatMap_append
    simp only [htext, List.length_append]
    omega
  · exact covered_literalSpans [] (segments code)
  · have hplace := literalAt_iff (segments code) 0 place
    rwa [Nat.zero_add, ← inLiteral_eq] at hplace

/-! ## Scripts that are written piece by piece -/

/-- What a script is written from: literals, comments and other text. -/
inductive Piece where
  | literal (text : Text)
  | comment (text : Text)
  | plain (text : Text)
  deriving DecidableEq, Repr

namespace Piece

/-- The text of a piece. -/
def text : Piece → Text
  | .literal text => text
  | .comment text => text
  | .plain text => text

/-- What is left of a piece once comments are gone. -/
def left : Piece → Text
  | .literal text => text
  | .comment _ => [' ']
  | .plain text => text

/-- The segments of a piece that stands alone. -/
def segments : Piece → List Segment
  | .literal text => [.literal text]
  | .comment text => [.comment text]
  | .plain text => text.map .plain

/-- The places of the literals, where the pieces stand from `offset` on and comments are gone. -/
def places (offset : Nat) : List Piece → List Span
  | [] => []
  | .literal text :: pieces =>
    ⟨offset, offset + text.length⟩ :: places (offset + text.length) pieces
  | .comment _ :: pieces => places (offset + 1) pieces
  | .plain text :: pieces => places (offset + text.length) pieces

end Piece

/-- The script that is written from some pieces. -/
def written (pieces : List Piece) : Text :=
  pieces.flatMap Piece.text

/-- What is left of the script that is written from some pieces, and where
its literals stand in it. -/
def outcome (pieces : List Piece) : Stripped :=
  ⟨pieces.flatMap Piece.left, Piece.places 0 pieces⟩

/-- A text in front of another one in which no literal and no comment starts. -/
structure IsPlain (u rest : Text) : Prop where
  not_isDelimiter : ∀ c ∈ u, ¬ IsDelimiter c
  slash : ∀ before after, u = before ++ '/' :: after →
    ∀ c ∈ (after ++ rest).head?, c ≠ '/' ∧ c ≠ '*'

theorem IsPlain.of_forall {u : Text} (h : ∀ c ∈ u, ¬ IsDelimiter c ∧ c ≠ '/')
    (rest : Text) : IsPlain u rest where
  not_isDelimiter c hc := (h c hc).1
  slash before _ hu := absurd rfl (h '/' (hu ▸ List.mem_append_right before List.mem_cons_self)).2

/-- Pieces that are what they are said to be, where they stand. -/
inductive WellFormed : List Piece → Prop where
  | nil : WellFormed []
  | literal {L : Text} {pieces : List Piece} :
      IsQuoted true L → WellFormed pieces → WellFormed (.literal L :: pieces)
  | comment {C : Text} {pieces : List Piece} : IsComment (written pieces) C → WellFormed pieces →
      WellFormed (.comment C :: pieces)
  | plain {u : Text} {pieces : List Piece} : IsPlain u (written pieces) → WellFormed pieces →
      WellFormed (.plain u :: pieces)

theorem written_cons (piece : Piece) (pieces : List Piece) :
    written (piece :: pieces) = piece.text ++ written pieces :=
  List.flatMap_cons

/-- Text without literals and comments is cut into its characters. -/
theorem segments_of_isPlain {u rest : Text} (h : IsPlain u rest) :
    segments (u ++ rest) = u.map .plain ++ segments rest := by
  induction u with
  | nil => rfl
  | cons c u ih =>
    have hliteral := split?_literal_of_not_isDelimiter (h.not_isDelimiter c
      List.mem_cons_self) (u ++ rest)
    have hcomment : comment.split? (c :: (u ++ rest)) = none :=
      split?_comment_eq_none fun hslash => h.slash [] u (congrArg (· :: u) hslash)
    have hbehind : IsPlain u rest :=
      ⟨fun d hd => h.not_isDelimiter d (List.mem_cons_of_mem c hd),
        fun before after hu => h.slash (c :: before) after (congrArg (c :: ·) hu)⟩
    rw [List.cons_append, segments_plain_of_none hliteral hcomment, ih hbehind]
    rfl

section

variable {pieces : List Piece}

/-- **The segments of a script without continued lines in its literals** are those of its pieces. -/
theorem segments_written (h : WellFormed pieces)
    (hliterals : ∀ L, .literal L ∈ pieces → IsQuoted false L) :
    segments (written pieces) = pieces.flatMap Piece.segments := by
  induction h with
  | nil => rw [written, List.flatMap_nil, segments, List.flatMap_nil]
  | literal _ _ ih =>
    rw [written_cons, List.flatMap_cons, ← ih fun L hL => hliterals L (List.mem_cons_of_mem _ hL)]
    exact segments_literal (hliterals _ List.mem_cons_self) _
  | comment hC _ ih =>
    rw [written_cons, List.flatMap_cons, ← ih fun L hL => hliterals L (List.mem_cons_of_mem _ hL)]
    exact segments_comment hC
  | plain hu _ ih =>
    rw [written_cons, List.flatMap_cons, ← ih fun L hL => hliterals L (List.mem_cons_of_mem _ hL)]
    exact segments_of_isPlain hu

theorem stripped_segments (piece : Piece) :
    piece.segments.flatMap Segment.stripped = piece.left := by
  cases piece with
  | literal text => exact List.flatMap_singleton _ _
  | comment text => rfl
  | plain text => exact flatMap_stripped_plain text

theorem literalSpans_segments (offset : Nat) (pieces : List Piece) :
    literalSpans offset (pieces.flatMap Piece.segments) = Piece.places offset pieces := by
  induction pieces generalizing offset with
  | nil => rfl
  | cons piece pieces ih =>
    rw [List.flatMap_cons]
    cases piece with
    | literal text => exact congrArg (_ :: ·) (ih _)
    | comment text => exact ih _
    | plain text => rw [Piece.segments, literalSpans_plain, ih]; rfl

/-- **Where the places are those of the pieces, no line is continued in a literal.** -/
theorem isQuoted_of_literalSpans (h : WellFormed pieces) {offset : Nat}
    (hplaces : literalSpans offset (segments (written pieces)) = Piece.places offset pieces) :
    ∀ L, .literal L ∈ pieces → IsQuoted false L := by
  induction h generalizing offset with
  | nil => rintro L ⟨⟩
  | @literal L pieces hL _ ih =>
    by_cases hquoted : IsQuoted false L
    case pos =>
      rw [written_cons, Piece.text, segments_literal hquoted] at hplaces
      intro L' hL'
      rcases List.mem_cons.1 hL' with heq | hL'
      · rwa [Piece.literal.inj heq]
      · exact ih (List.cons.inj hplaces).2 L' hL'
    case neg =>
      -- the quote is a segment of its own, so no place starts there
      obtain ⟨quote, s, -, hsegments⟩ := segments_of_continued hL hquoted (written pieces)
      rw [written_cons, Piece.text, hsegments] at hplaces
      have hplace : ⟨offset, offset + L.length⟩ ∈ literalSpans (offset + 1) (segments s) := by
        rw [show literalSpans (offset + 1) (segments s) = _ from hplaces]
        exact List.mem_cons_self
      exact absurd (le_start_of_mem_literalSpans hplace) (Nat.not_succ_le_self offset)
  | @comment C pieces hC _ ih =>
    rw [written_cons, Piece.text, segments_comment hC] at hplaces
    intro L hL
    exact ih hplaces L (by simpa using hL)
  | @plain u pieces hu _ ih =>
    rw [written_cons, Piece.text, segments_of_isPlain hu, literalSpans_plain] at hplaces
    intro L hL
    exact ih hplaces L (by simpa using hL)

/-- **What is left of a script, and where its literals stand, can be read off its pieces**, just if
no line is continued in a literal. -/
theorem strip_written_iff (h : WellFormed pieces) :
    strip (written pieces) = outcome pieces ↔ ∀ L, .literal L ∈ pieces → IsQuoted false L := by
  constructor
  · intro hstrip
    exact isQuoted_of_literalSpans h (congrArg Stripped.literals hstrip)
  · intro hliterals
    rw [strip, segments_written h hliterals, literalSpans_segments, List.flatMap_assoc]
    simp only [stripped_segments]
    rfl

end

/-- **Stripping keeps the places of literals.** A script is cut in one way only, and the places
are those of the literals that it is cut into; where it is written piece by piece, they are
those of the literals among the pieces, and what is left of each comment is one blank, just if
no line is continued in a literal. -/
theorem strip_literals_exact (code : Text) (pieces : List Piece) :
    ((∃! found, Cut code found) ∧ ∀ found, Cut code found → Placed found (strip code)) ∧
      (WellFormed pieces →
        (strip (written pieces) = outcome pieces ↔ ∀ L, .literal L ∈ pieces → IsQuoted false L)) :=
  ⟨⟨⟨segments code, cut_segments code, fun _ h => cut_iff.1 h⟩, fun _ h => placed_strip h⟩,
    strip_written_iff⟩

/-- Comment marks in a literal and a quote in a comment, and comment marks
behind a continued line. -/
theorem strip_commentMarks :
    Placed [.literal "'//'".toList] (strip "'//'".toList) ∧
      strip "a = '//'; /*'*/ // b".toList = ⟨"a = '//';    ".toList, [⟨4, 8⟩]⟩ ∧
      strip "'a\\\n//'".toList ≠ ⟨"'a\\\n//'".toList, [⟨0, 7⟩]⟩ := by
  have hmarks : IsQuoted false "'//'".toList := by decide
  have hcut : Cut "'//'".toList [.literal "'//'".toList] := .literal hmarks .nil
  have hpieces : WellFormed [.plain "a = ".toList, .literal "'//'".toList, .plain "; ".toList,
      .comment "/*'*/".toList, .plain [' '], .comment "// b".toList] :=
    .plain (.of_forall (by decide) _) <| .literal hmarks.continued <|
    .plain (.of_forall (by decide) _) <| .comment (.block (by decide : ¬ ['*', '/'] <:+: ['\''])) <|
    .plain (.of_forall (by decide) _) <| .comment (.line (by decide) (fun _ h => nomatch h)) .nil
  have hline : IsQuoted true "'a\\\n//'".toList :=
    ⟨'\'', "a\\\n//".toList, by decide, .plain (by decide) (by decide) (.inr (by decide))
      (.lineFeed rfl (.of_plain (by decide))), rfl⟩
  -- the continued line makes it a literal for the language, but not for the pattern
  have hfalls : ¬ IsQuoted false "'a\\\n//'".toList := by decide +kernel
  refine ⟨(strip_literals_exact _ []).1.2 _ hcut, ((strip_literals_exact [] _).2 hpieces).2
    fun L hL => ?_, fun h => ?_⟩
  · obtain rfl : L = "'//'".toList := by simpa using hL
    exact hmarks
  · have hwhole := ((strip_literals_exact [] [.literal "'a\\\n//'".toList]).2
      (.literal hline .nil)).1
    exact hfalls (hwhole h _ List.mem_cons_self)

end Script
end SiteOptimizer
