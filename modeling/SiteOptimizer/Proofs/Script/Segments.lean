import Mathlib.Data.List.TakeWhile
import SiteOptimizer.Proofs.Markup.Stability
import SiteOptimizer.Proofs.Script.Literal

/-!
# The segments of a script and the places in it

The segments of a script make it up, so each of its places lies in one of them. Whether a place of
the stripped script lies in a literal is the same as whether its segment is one (`inLiteral_eq`);
the search among the literals from the left is only a quick way to find it. A comment is one
segment, like a literal, where the next line end or its own end comes.
-/

namespace SiteOptimizer
namespace Script

/-! ## Places in a script -/

/-- **The segments of a script make it up.** -/
theorem flatMap_text_segments (s : Text) : (segments s).flatMap Segment.text = s := by
  fun_induction segments s with
  | case1 => rfl
  | case2 c s ih => rw [List.flatMap_cons, ih, (nextSegment_append c s).2]

/-- Whether a segment is a literal. -/
def Segment.isLiteral : Segment → Bool
  | .literal _ => true
  | _ => false

theorem Segment.exists_of_isLiteral {segment : Segment} (h : segment.isLiteral = true) :
    ∃ text, segment = .literal text := by
  cases segment with
  | literal text => exact ⟨text, rfl⟩
  | comment text => cases h
  | plain c => cases h

/-- Whether a place of the stripped script lies in a literal. -/
def literalAt : List Segment → Nat → Bool
  | [], _ => false
  | segment :: rest, place =>
    if place < segment.stripped.length then segment.isLiteral
    else literalAt rest (place - segment.stripped.length)

theorem literalAt_append (a b : List Segment) (place : Nat) :
    literalAt (a ++ b) ((a.flatMap Segment.stripped).length + place) = literalAt b place := by
  induction a with
  | nil => rw [List.nil_append, List.flatMap_nil, List.length_nil, Nat.zero_add]
  | cons segment a ih =>
    rw [List.cons_append, literalAt, List.flatMap_cons, List.length_append, if_neg (by omega),
      Nat.add_assoc, Nat.add_sub_cancel_left, ih]

theorem literalAt_of_lt {a b : List Segment} (ha : ∀ segment ∈ a, segment.isLiteral = false)
    {place : Nat} (h : place < (a.flatMap Segment.stripped).length) :
    literalAt (a ++ b) place = false := by
  induction a generalizing place with
  | nil => cases h
  | cons segment a ih =>
    rw [List.flatMap_cons, List.length_append] at h
    rw [List.cons_append, literalAt]
    split
    case isTrue => exact ha segment List.mem_cons_self
    case isFalse => exact ih (fun s hs => ha s (List.mem_cons_of_mem _ hs)) (by omega)

theorem literalAt_plain_append {u : Text} {place : Nat} (h : place < u.length) (b : List Segment) :
    literalAt (u.map .plain ++ b) place = false := by
  refine literalAt_of_lt (fun segment hsegment => ?_) (by rwa [flatMap_stripped_plain])
  obtain ⟨c, -, rfl⟩ := List.mem_map.1 hsegment
  rfl

theorem le_start_of_mem_literalSpans {found : List Segment} {offset : Nat} {span : Span}
    (h : span ∈ literalSpans offset found) : offset ≤ span.start := by
  induction found generalizing offset with
  | nil => cases h
  | cons segment found ih =>
    have hlater : span ∈ literalSpans (offset + segment.stripped.length) found →
        offset ≤ span.start :=
      fun hspan => Nat.le_trans (Nat.le_add_right _ _) (ih hspan)
    cases segment with
    | literal text =>
      rcases List.mem_cons.1 h with rfl | h
      · exact Nat.le_refl offset
      · exact hlater h
    | comment text => exact hlater h
    | plain c => exact hlater h

/-- In front of the first literal there is none to the left. -/
theorem takeWhile_literalSpans_of_lt {found : List Segment} {offset place : Nat}
    (h : place < offset) :
    (literalSpans offset found).takeWhile (fun span => decide (span.start ≤ place)) = [] := by
  cases hspans : literalSpans offset found with
  | nil => rfl
  | cons span spans =>
    have hstart : offset ≤ span.start :=
      le_start_of_mem_literalSpans (by rw [hspans]; exact List.mem_cons_self)
    exact List.takeWhile_cons_of_neg (by simp only [decide_eq_true_eq]; omega)

theorem literalSpans_cons {segment : Segment} (h : segment.isLiteral = false) (offset : Nat)
    (found : List Segment) :
    literalSpans offset (segment :: found) =
      literalSpans (offset + segment.stripped.length) found := by
  cases segment with
  | literal text => cases h
  | comment text => rfl
  | plain c => rfl

theorem inLiteral_literalSpans (text : Text) (found : List Segment) (offset place : Nat) :
    Stripped.inLiteral ⟨text, literalSpans offset found⟩ (offset + place) =
      literalAt found place := by
  induction found generalizing offset place with
  | nil => rfl
  | cons segment found ih =>
    -- a place behind this segment is a place of the rest, counted from the end of the segment
    have hlater (h : segment.stripped.length ≤ place) :
        Stripped.inLiteral ⟨text, literalSpans (offset + segment.stripped.length) found⟩
          (offset + place) = literalAt found (place - segment.stripped.length) := by
      have hplace := ih (offset + segment.stripped.length) (place - segment.stripped.length)
      rwa [Nat.add_assoc, Nat.add_sub_cancel' h] at hplace
    have hnone (h : place < segment.stripped.length) :
        (literalSpans (offset + segment.stripped.length) found).takeWhile
          (fun span => decide (span.start ≤ offset + place)) = [] :=
      takeWhile_literalSpans_of_lt (by omega)
    rw [literalAt]
    cases hliteral : segment.isLiteral with
    | false =>
      rw [literalSpans_cons hliteral]
      split
      case isTrue h => rw [Stripped.inLiteral, hnone h]; rfl
      case isFalse h => exact hlater (Nat.le_of_not_lt h)
    | true =>
      obtain ⟨literal, rfl⟩ := Segment.exists_of_isLiteral hliteral
      rw [literalSpans, Stripped.inLiteral, List.takeWhile_cons_of_pos (by simp)]
      by_cases h : place < (Segment.literal literal).stripped.length
      · rw [hnone h, if_pos h]
        simpa [Segment.isLiteral] using h
      · -- the literal itself lies to the left, so it counts only where there is no later one
        rw [if_neg h, ← hlater (Nat.le_of_not_lt h), List.getLast?_cons, Stripped.inLiteral]
        cases ((literalSpans _ found).takeWhile _).getLast? with
        | some span => rfl
        | none =>
          simp only [Option.getD_none, decide_eq_false_iff_not]
          omega

/-- **A place of the stripped script lies in a literal just if its segment is one.** -/
theorem inLiteral_eq (code : Text) (place : Nat) :
    (strip code).inLiteral place = literalAt (segments code) place := by
  have h := inLiteral_literalSpans ((segments code).flatMap Segment.stripped)
    (segments code) 0 place
  rwa [Nat.zero_add] at h

/-! ## Comments are read as one segment -/

/-- A text in which no block comment ends. -/
def Unclosed (body : Text) : Prop :=
  ¬ ['*', '/'] <:+: body

/-- Whether a line ends in front of a text, or there is none. -/
def AtLineEnd (rest : Text) : Prop :=
  ∀ c ∈ rest.head?, c = '\n'

/-- The comments in front of a text: those up to the end of their line, and
those between their two marks. -/
inductive IsComment (rest : Text) : Text → Prop where
  | line {body : Text} : '\n' ∉ body → AtLineEnd rest → IsComment rest ('/' :: '/' :: body)
  | block {body : Text} : Unclosed body → IsComment rest ('/' :: '*' :: (body ++ ['*', '/']))

theorem split?_lineComment_eq_some_iff {s C rest : Text} : lineComment.split? s = some (C, rest) ↔
    ∃ body, '\n' ∉ body ∧ AtLineEnd rest ∧ C = '/' :: '/' :: body ∧ s = C ++ rest := by
  -- the comment is all up to the line end, so two pieces of one text decide everything
  have hread : lineComment.split? s = (Text.after? ['/', '/'] s).map fun t =>
      ('/' :: '/' :: t.takeWhile (· ≠ '\n'), t.dropWhile (· ≠ '\n')) := by
    rw [lineComment, Text.Pattern.inOrder, List.foldr_cons, List.foldr_cons, List.foldr_nil,
      Markup.Pattern.split?_followedBy, Markup.Pattern.split?_word]
    cases Text.after? ['/', '/'] s with
    | none => rfl
    | some t =>
      simp [Markup.Pattern.split?_followedBy, Markup.Pattern.split?_run, Text.Pattern.nothing]
  simp only [hread, Option.map_eq_some_iff, Text.after?_eq_some_iff, Prod.mk.injEq]
  constructor
  · rintro ⟨t, rfl, rfl, rfl⟩
    refine ⟨_, fun hmem => by simpa using List.mem_takeWhile_imp hmem, fun c hc => ?_, rfl, ?_⟩
    · have hstop := List.head?_dropWhile_not (fun c => decide (c ≠ '\n')) t
      rw [Option.mem_def.1 hc] at hstop
      simpa using hstop
    · simp [List.takeWhile_append_dropWhile]
  · rintro ⟨body, hbody, hrest, rfl, rfl⟩
    have hall := Markup.Gap.all_ne_of_not_mem hbody
    refine ⟨body ++ rest, rfl, ?_, ?_⟩
    · rw [List.takeWhile_append_of_pos hall]
      cases rest with
      | nil => rw [List.takeWhile_nil, List.append_nil]
      | cons c rest => rw [hrest c rfl, List.takeWhile_cons_of_neg (by decide), List.append_nil]
    · rw [List.dropWhile_append_of_pos hall]
      cases rest with
      | nil => rfl
      | cons c rest => rw [hrest c rfl, List.dropWhile_cons_of_neg (by decide)]

theorem blockCommentTail_append_close {body : Text} (h : Unclosed body) (rest : Text) :
    blockCommentTail (body ++ '*' :: '/' :: rest) = some (body ++ ['*', '/'], rest) := by
  induction body with
  | nil => rfl
  | cons c body ih =>
    have hbody : Unclosed body := fun hclose => h (hclose.trans (List.suffix_cons c body).isInfix)
    have hstep : blockCommentTail (c :: (body ++ '*' :: '/' :: rest)) =
        (blockCommentTail (body ++ '*' :: '/' :: rest)).map fun p => (c :: p.1, p.2) := by
      rw [blockCommentTail]
      -- a star in front of the end is followed by another star
      rintro s rfl hs
      cases body with
      | nil => cases hs
      | cons d body =>
        obtain ⟨rfl, -⟩ := List.cons.inj hs
        exact h ⟨[], body, rfl⟩
    rw [List.cons_append, hstep, ih hbody]
    rfl

theorem blockCommentTail_eq_some_iff {s found rest : Text} :
    blockCommentTail s = some (found, rest) ↔
    ∃ body, Unclosed body ∧ found = body ++ ['*', '/'] ∧ s = found ++ rest := by
  constructor
  · intro h
    fun_induction blockCommentTail s generalizing found rest with
    | case1 s =>
      cases h
      exact ⟨[], by simp [Unclosed], rfl, rfl⟩
    | case2 c s hclose ih =>
      obtain ⟨⟨inner, behind⟩, hinner, heq⟩ := Option.map_eq_some_iff.1 h
      cases heq
      obtain ⟨body, hbody, rfl, rfl⟩ := ih hinner
      refine ⟨c :: body, fun hinfix => ?_, rfl, rfl⟩
      rcases List.infix_cons_iff.1 hinfix with hprefix | hinfix
      · -- then the comment would have ended in front of this body
        obtain ⟨t, ht⟩ := hprefix
        obtain ⟨rfl, rfl⟩ := List.cons.inj ht
        exact hclose _ rfl rfl
      · exact hbody hinfix
    | case3 => cases h
  · rintro ⟨body, hbody, rfl, rfl⟩
    rw [List.append_assoc]
    exact blockCommentTail_append_close hbody rest

theorem split?_blockComment_eq_some_iff {s C rest : Text} : blockComment.split? s = some (C, rest) ↔
    ∃ body, Unclosed body ∧ C = '/' :: '*' :: (body ++ ['*', '/']) ∧ s = C ++ rest := by
  have hread : blockComment.split? s = (Text.after? ['/', '*'] s).bind fun t =>
      (blockCommentTail t).map fun found => ('/' :: '*' :: found.1, found.2) := by
    rw [blockComment, Markup.Pattern.split?_followedBy, Markup.Pattern.split?_word]
    cases Text.after? ['/', '*'] s <;> rfl
  simp only [hread, Option.bind_eq_some_iff, Option.map_eq_some_iff, Text.after?_eq_some_iff,
    Prod.exists, blockCommentTail_eq_some_iff, Prod.mk.injEq]
  constructor
  · rintro ⟨t, rfl, found, behind, ⟨body, hbody, rfl, rfl⟩, rfl, rfl⟩
    exact ⟨body, hbody, rfl, rfl⟩
  · rintro ⟨body, hbody, rfl, rfl⟩
    exact ⟨_, rfl, _, rest, ⟨body, hbody, rfl, rfl⟩, rfl, rfl⟩

/-- **The reader finds just the comments.** -/
theorem split?_comment_eq_some_iff {s C rest : Text} :
    comment.split? s = some (C, rest) ↔ IsComment rest C ∧ s = C ++ rest := by
  rw [comment, Markup.Pattern.split?_orElse]
  constructor
  · intro h
    -- the two openings differ in their second character, so the order of the patterns does not
    -- matter
    cases hline : lineComment.split? s with
    | some found =>
      rw [hline] at h
      cases h
      obtain ⟨body, hbody, hrest, rfl, rfl⟩ := split?_lineComment_eq_some_iff.1 hline
      exact ⟨.line hbody hrest, rfl⟩
    | none =>
      rw [hline] at h
      obtain ⟨body, hbody, rfl, rfl⟩ := split?_blockComment_eq_some_iff.1 h
      exact ⟨.block hbody, rfl⟩
  · rintro ⟨hC, rfl⟩
    cases hC with
    | line hbody hrest => rw [split?_lineComment_eq_some_iff.2 ⟨_, hbody, hrest, rfl, rfl⟩]
    | @block body hbody =>
      have hline : lineComment.split? ('/' :: '*' :: (body ++ ['*', '/']) ++ rest) = none := rfl
      rw [hline]
      exact split?_blockComment_eq_some_iff.2 ⟨body, hbody, rfl, rfl⟩

theorem IsComment.ne_nil {C rest : Text} (h : IsComment rest C) : C ≠ [] := by
  cases h <;> exact List.cons_ne_nil _ _

theorem segments_of_comment {c d : Char} {found rest s : Text} (hc : ¬ IsDelimiter c)
    (h : comment.split? (c :: s) = some (d :: found, rest)) :
    segments (c :: s) = .comment (d :: found) :: segments rest := by
  have hliteral : literal.split? (c :: s) = none := split?_literal_of_not_isDelimiter hc s
  have hnext : nextSegment c s = (.comment (d :: found), rest) := by
    rw [nextSegment, hliteral, h]
  rw [segments, hnext]

/-- **A comment is one segment.** -/
theorem segments_comment {C rest : Text} (h : IsComment rest C) :
    segments (C ++ rest) = .comment C :: segments rest := by
  have hsplit := split?_comment_eq_some_iff.2 ⟨h, rfl⟩
  cases h with
  | line => exact segments_of_comment (by decide) hsplit
  | block => exact segments_of_comment (by decide) hsplit

/-- A comment between its two marks. -/
theorem segments_blockComment {body : Text} (h : Unclosed body) (rest : Text) :
    segments ('/' :: '*' :: (body ++ '*' :: '/' :: rest)) =
      .comment ('/' :: '*' :: (body ++ ['*', '/'])) :: segments rest := by
  have hcomment : IsComment rest ('/' :: '*' :: (body ++ ['*', '/'])) := .block h
  simpa using segments_comment hcomment

/-- A comment up to the end of its line. -/
theorem segments_lineComment {body : Text} (h : '\n' ∉ body) (rest : Text) :
    segments ('/' :: '/' :: (body ++ '\n' :: rest)) = .comment ('/' :: '/' :: body) ::
      segments ('\n' :: rest) := by
  have hend : AtLineEnd ('\n' :: rest) := fun c hc => (Option.some.inj hc).symm
  exact segments_comment (.line h hend)

end Script
end SiteOptimizer
