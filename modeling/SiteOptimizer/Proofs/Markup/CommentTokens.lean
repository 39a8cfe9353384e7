import SiteOptimizer.Proofs.Markup.ElementTokens

/-!
# The tokens of a comment

A comment is cut into its start, its body and its end, whatever it holds (`tokenize_comment`).
The end takes the white space in front of its word, and the body takes the rest, dashes included.
A comment that never ends has all of the document behind its start as its body.
-/

namespace SiteOptimizer
namespace Markup

/-- The token of the body of a comment, if there is a body. -/
def bodyTokens (body : Text) (offset : Nat) : List Token :=
  if body = [] then [] else [Token.ofPiece .commentBody body offset]

/-! ## Comments that end -/

/-- The white space that the end of a comment takes is what stands behind
the last visible character. -/
theorem splitAtCommentEnd_ended {body : Text} (h : Unended body) (w : Text) :
    splitAtCommentEnd (body ++ (endWord ++ w)) =
      (Text.dropEndWhile Text.isBlank body,
        List.rtakeWhile Text.isBlank body ++ (endWord ++ w)) := by
  obtain ⟨space, hbody, -, hsplit⟩ := splitAtCommentEnd_eq h
  have hspace : space = List.rtakeWhile Text.isBlank body := by
    have hcut := (List.rdropWhile_append_rtakeWhile (p := Text.isBlank)).trans hbody
    exact (List.append_cancel_left hcut).symm
  rw [hsplit, hspace]

theorem tokens_commentEnd {space : Text} (h : ∀ c ∈ space, Text.isBlank c = true)
    (w : Text) (offset : Nat) :
    Lexer.tokens ⟨space ++ (endWord ++ w), offset, .comment⟩ =
      Token.ofPiece .commentEnd (space ++ endWord) offset ::
        Lexer.tokens ⟨w, offset + (space ++ endWord).length, .text⟩ :=
  Lexer.tokens_of_some (Lexer.next_eq ⟨_, offset, .comment⟩ (firstMatch?_commentEnd h w))

/-- Inside a comment come its body and its end, and then what stands behind it. -/
theorem tokens_commentBody {body : Text} (h : Unended body) (w : Text) (offset : Nat) :
    Lexer.tokens ⟨body ++ (endWord ++ w), offset, .comment⟩ =
      bodyTokens (Text.dropEndWhile Text.isBlank body) offset ++
        Token.ofPiece .commentEnd (List.rtakeWhile Text.isBlank body ++ endWord)
            (offset + (Text.dropEndWhile Text.isBlank body).length : Nat) ::
          Lexer.tokens ⟨w, offset + (body ++ endWord).length, .text⟩ := by
  have hcut : Text.dropEndWhile Text.isBlank body ++ List.rtakeWhile Text.isBlank body = body :=
    List.rdropWhile_append_rtakeWhile
  have hspace : ∀ c ∈ List.rtakeWhile Text.isBlank body, Text.isBlank c = true :=
    fun _ => List.mem_rtakeWhile_imp
  -- a body of white space alone belongs to the end of the comment
  by_cases hnil : Text.dropEndWhile Text.isBlank body = []
  · rw [hnil, List.nil_append] at hcut
    rw [hnil, hcut] at *
    exact tokens_commentEnd hspace w offset
  · have hstop : ∃ c ∈ body, Text.isBlank c = false := by
      by_contra hall
      push Not at hall
      exact hnil (dropEndWhile_of_all fun c hc => by simpa using hall c hc)
    have hmatch := firstMatch?_commentBody (s := body ++ (endWord ++ w)) (by simp [endWord])
      (split?_commentEnd_of_visible h hstop w)
    rw [splitAtCommentEnd_ended h] at hmatch
    have hplace : offset + (Text.dropEndWhile Text.isBlank body).length +
        (List.rtakeWhile Text.isBlank body ++ endWord).length =
          offset + (body ++ endWord).length := by
      have hlength := congrArg List.length hcut
      rw [List.length_append] at hlength ⊢
      rw [List.length_append]
      omega
    rw [Lexer.tokens_of_some (Lexer.next_eq ⟨_, offset, .comment⟩ hmatch), bodyTokens,
      if_neg hnil, ← hplace]
    exact congrArg _ (tokens_commentEnd hspace w _)

/-! ## Comments that do not end -/

theorem split?_commentEnd_of_unended {s : Text} (h : Unended s) : commentEnd.split? s = none := by
  rw [split?_commentEnd, Option.map_eq_none_iff]
  by_contra hsome
  obtain ⟨rest, hrest⟩ := Option.ne_none_iff_exists'.1 hsome
  refine h ⟨s.takeWhile Text.isBlank, rest, ?_⟩
  rw [List.append_assoc, ← Text.after?_eq_some_iff.1 hrest, List.takeWhile_append_dropWhile]

theorem splitAtCommentEnd_of_unended {s : Text} (h : Unended s) :
    splitAtCommentEnd s = (s, []) := by
  induction s with
  | nil => rfl
  | cons c s ih =>
    rw [splitAtCommentEnd, split?_commentEnd_of_unended h, ih (Unended.of_suffix (a := [c]) h)]
    rfl

theorem tokens_unended {body : Text} (h : Unended body) (offset : Nat) :
    Lexer.tokens ⟨body, offset, .comment⟩ = bodyTokens body offset := by
  have hdone : ∀ l : Lexer, l.rest = [] → l.tokens = [] := fun l hl =>
    Lexer.tokens_of_none ((Lexer.next_eq_none_iff l).2 hl)
  by_cases hnil : body = []
  · rw [hdone _ hnil, bodyTokens, if_pos hnil]
  · have hmatch := firstMatch?_commentBody hnil (split?_commentEnd_of_unended h)
    rw [splitAtCommentEnd_of_unended h] at hmatch
    rw [Lexer.tokens_of_some (Lexer.next_eq ⟨body, offset, .comment⟩ hmatch),
      bodyTokens, if_neg hnil]
    exact congrArg _ (hdone _ rfl)

/-! ## Whole comments -/

/-- The word that starts a comment. -/
def startWord : Text := ['<', '!', '-', '-']

theorem tokenize_startWord (s : Text) :
    tokenize (startWord ++ s) =
      Token.ofPiece .commentStart startWord 0 :: Lexer.tokens ⟨s, startWord.length, .comment⟩ := by
  have hmatch : firstMatch? Mode.text.rules (startWord ++ s) = some (commentRule, startWord, s) :=
    firstMatch?_commentStart s
  rw [tokenize, Lexer.tokens_of_some (Lexer.next_eq (Lexer.ofText (startWord ++ s)) hmatch)]
  rfl

/-- **Comments are lexed exactly.** A comment is its start, its body without the white space at
its end, if that leaves anything, and its end with this white space; then come the tokens of what
follows, further on by the length of the comment. A comment that does not end is its start and all
that follows, if anything does. -/
theorem tokenize_comment {body : Text} (h : Unended body) :
    (∀ w, tokenize (startWord ++ body ++ endWord ++ w) =
      Token.ofPiece .commentStart startWord 0 ::
        (bodyTokens (Text.dropEndWhile Text.isBlank body) startWord.length ++
          Token.ofPiece .commentEnd (List.rtakeWhile Text.isBlank body ++ endWord)
              (startWord.length + (Text.dropEndWhile Text.isBlank body).length : Nat) ::
            (tokenize w).map (Token.shift (startWord ++ body ++ endWord).length))) ∧
      tokenize (startWord ++ body) =
        Token.ofPiece .commentStart startWord 0 :: bodyTokens body startWord.length := by
  constructor
  · intro w
    have hplace : startWord.length + (body ++ endWord).length =
        (startWord ++ body ++ endWord).length := by
      simp only [List.length_append, Nat.add_assoc]
    rw [List.append_assoc, List.append_assoc, tokenize_startWord, tokens_commentBody h,
      hplace, tokens_text]
  · rw [tokenize_startWord, tokens_unended h]

/-- A body with dashes next to the end, and white space with a line end in it. -/
theorem tokenize_comment_dashes :
    Unended "a - --\n ".toList ∧
      tokenize (startWord ++ "a - --\n ".toList ++ endWord ++ "<p".toList) =
        [Token.ofPiece .commentStart "<!--".toList 0, Token.ofPiece .commentBody "a - --".toList 4,
          Token.ofPiece .commentEnd "\n -->".toList 10, Token.ofPiece .tagOpen "<p".toList 15] ∧
      tokenize (startWord ++ "a - --\n ".toList) =
        [Token.ofPiece .commentStart "<!--".toList 0,
          Token.ofPiece .commentBody "a - --\n ".toList 4] := by
  have h : Unended "a - --\n ".toList := by decide +kernel
  obtain ⟨hclosed, hopen⟩ := tokenize_comment h
  refine ⟨h, (hclosed "<p".toList).trans ?_, hopen.trans ?_⟩ <;> decide +kernel

end Markup
end SiteOptimizer
