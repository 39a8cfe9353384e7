import SiteOptimizer.Text.Pattern

/-!
# Comments and literals of scripts

A script is a sequence of string literals, comments and other characters. Only literals that end
count as literals, so a lone quote is a character like any other, and the same holds for a block
comment. Stripping puts one blank in the place of each comment and remembers where the literals
stand in what is left.
-/

namespace SiteOptimizer
namespace Script

open Text (Pattern)

/-! ## Segments -/

def literalTail (quote : Char) (multiline : Bool) : Text → Option (Text × Text)
  | [] => none
  | c :: s =>
    if c = quote then some ([c], s)
    else if c = '\\' then
      match s with
      | [] => none
      | d :: s =>
        -- A backslash takes along whatever comes next but a line feed, also in a template.
        if d = '\n' then none
        else (literalTail quote multiline s).map fun (found, rest) => (c :: d :: found, rest)
    else if c = '\n' && !multiline then none
    else (literalTail quote multiline s).map fun (found, rest) => (c :: found, rest)

theorem literalTail_append {quote : Char} {multiline : Bool} {s found rest : Text}
    (h : literalTail quote multiline s = some (found, rest)) : found ++ rest = s := by
  fun_induction literalTail quote multiline s generalizing found rest with
  | case1 => simp at h
  | case2 s => simp only [Option.some.injEq, Prod.mk.injEq] at h; simp [← h.1, h.2]
  | case3 => simp at h
  | case4 => simp at h
  | case5 _ d s _ ih =>
    obtain ⟨⟨a, b⟩, hab, he⟩ := Option.map_eq_some_iff.1 h
    simp only [Prod.mk.injEq] at he
    rw [← he.1, ← he.2, List.cons_append, List.cons_append, ih hab]
  | case6 => simp at h
  | case7 c s _ _ _ ih =>
    obtain ⟨⟨a, b⟩, hab, he⟩ := Option.map_eq_some_iff.1 h
    simp only [Prod.mk.injEq] at he
    rw [← he.1, ← he.2, List.cons_append, ih hab]

def quotedLiteral (quote : Char) (multiline : Bool) : Pattern :=
  (Pattern.word [quote]).followedBy ⟨literalTail quote multiline, literalTail_append⟩

/-- The quote of template literals, which may run over several lines. -/
def templateQuote : Char := Char.ofNat 0x60

def literal : Pattern :=
  (quotedLiteral '"' false).orElse
    ((quotedLiteral '\'' false).orElse (quotedLiteral templateQuote true))

def lineComment : Pattern :=
  Pattern.inOrder [.word ['/', '/'], .run (· ≠ '\n')]

/-- What stands before the first end of a block comment, and that end. -/
def blockCommentTail : Text → Option (Text × Text)
  | '*' :: '/' :: s => some (['*', '/'], s)
  | c :: s => (blockCommentTail s).map fun (found, rest) => (c :: found, rest)
  -- A comment that never ends is no comment.
  | [] => none

theorem blockCommentTail_append {s found rest : Text}
    (h : blockCommentTail s = some (found, rest)) : found ++ rest = s := by
  fun_induction blockCommentTail s generalizing found rest with
  | case1 s => simp only [Option.some.injEq, Prod.mk.injEq] at h; simp [← h.1, h.2]
  | case2 c s _ ih =>
    obtain ⟨⟨a, b⟩, hab, he⟩ := Option.map_eq_some_iff.1 h
    simp only [Prod.mk.injEq] at he
    rw [← he.1, ← he.2, List.cons_append, ih hab]
  | case3 => simp at h

def blockComment : Pattern :=
  (Pattern.word ['/', '*']).followedBy ⟨blockCommentTail, blockCommentTail_append⟩

def comment : Pattern :=
  lineComment.orElse blockComment

inductive Segment where
  | literal (text : Text)
  | comment (text : Text)
  | plain (character : Char)
  deriving DecidableEq, Repr

def Segment.text : Segment → Text
  | .literal text => text
  | .comment text => text
  | .plain c => [c]

/-- The segment at the start of a text that is not empty, and what follows it. -/
def nextSegment (c : Char) (s : Text) : Segment × Text :=
  match literal.split? (c :: s) with
  | some (d :: found, rest) => (.literal (d :: found), rest)
  | _ =>
    match comment.split? (c :: s) with
    | some (d :: found, rest) => (.comment (d :: found), rest)
    | _ => (.plain c, s)

theorem nextSegment_append (c : Char) (s : Text) :
    (nextSegment c s).1.text ≠ [] ∧ (nextSegment c s).1.text ++ (nextSegment c s).2 = c :: s := by
  unfold nextSegment
  split
  · next heq => exact ⟨by simp [Segment.text], literal.append_eq heq⟩
  · split
    · next heq => exact ⟨by simp [Segment.text], comment.append_eq heq⟩
    · simp [Segment.text]

theorem length_nextSegment_lt (c : Char) (s : Text) :
    (nextSegment c s).2.length < (c :: s).length := by
  obtain ⟨hne, happ⟩ := nextSegment_append c s
  rw [← happ, List.length_append]
  have := List.length_pos_iff.2 hne
  omega

def segments : Text → List Segment
  | [] => []
  | c :: s => (nextSegment c s).1 :: segments (nextSegment c s).2
termination_by s => s.length
decreasing_by exact length_nextSegment_lt c s

/-! ## Stripping -/

/-- What stands in the place of a segment once comments are gone. -/
def Segment.stripped : Segment → Text
  | .literal text => text
  | .comment _ => [' ']
  | .plain c => [c]

structure Span where
  start : Nat
  /-- The offset of what follows. -/
  stop : Nat
  deriving DecidableEq, Repr

/-- The places of the literals, where the segments stand from `offset` on and comments are gone. -/
def literalSpans (offset : Nat) : List Segment → List Span
  | [] => []
  | segment :: rest =>
    let stop := offset + segment.stripped.length
    match segment with
    | .literal _ => ⟨offset, stop⟩ :: literalSpans stop rest
    | _ => literalSpans stop rest

/-- A script with a blank in the place of each comment. -/
structure Stripped where
  text : Text
  literals : List Span
  deriving DecidableEq, Repr

def strip (code : Text) : Stripped :=
  let found := segments code
  ⟨found.flatMap Segment.stripped, literalSpans 0 found⟩

/-- Whether a place lies in a literal: whether the last literal that starts
there or before reaches beyond. -/
def Stripped.inLiteral (s : Stripped) (offset : Nat) : Bool :=
  match (s.literals.takeWhile (·.start ≤ offset)).getLast? with
  | some span => offset < span.stop
  | none => false

end Script
end SiteOptimizer
