import Mathlib.Data.List.Chain
import SiteOptimizer.Proofs.Markup.Written

/-!
# The tokens cover the document

The lexer stops at the end of the document and nowhere else: in every mode, whatever stands next,
some rule takes at least one character of it (`exists_firstMatch?`). This is what makes unterminated
tags, values and comments harmless. `tokenize_covers` draws the conclusion for a whole document. The
tokens lie side by side in it, from its first character to its last, and are what the lexer gives
one at a time until it gives nothing more.
-/

namespace SiteOptimizer
namespace Markup

open Text (Pattern)

/-! ## Some rule applies -/

/-- It is enough that one rule of the list would take something: then it does, or one before it. -/
theorem exists_firstMatch?_of_mem {rules : List Rule} {s : Text} (rule : Rule) (hmem : rule ∈ rules)
    (h : ∃ found rest, rule.pattern.split? s = some (found, rest) ∧ found ≠ []) :
    ∃ first found rest, firstMatch? rules s = some (first, found, rest) := by
  obtain ⟨found, rest, hsplit, hne⟩ := h
  cases hf : firstMatch? rules s with
  | some p => exact ⟨p.1, p.2.1, p.2.2, rfl⟩
  | none =>
    have hnone : rule.take? s = none := List.findSome?_eq_none_iff.1 hf rule hmem
    cases found with
    | nil => exact absurd rfl hne
    | cons d found => rw [Rule.take?, hsplit] at hnone; cases hnone

/-- Inside a tag the last rule takes anything. -/
theorem exists_firstMatch?_of_tagRules {rules : List Rule} (h : tagRules ⊆ rules)
    (c : Char) (s : Text) :
    ∃ rule found rest, firstMatch? rules (c :: s) = some (rule, found, rest) := by
  apply exists_firstMatch?_of_mem spaceRule (h (by simp [tagRules, spaceRule]))
  rw [spaceRule, Pattern.split?_orElse, Pattern.split?_someOf]
  by_cases hc : Text.isBlank c = true
  · simp [hc]
  · simp [hc, Pattern.split?_one]

/-- The rule of what is nothing else between tags. -/
def proseRule : Rule := ⟨.text, .orElse (.word ['<']) (.someOf isProse), .text⟩

/-- Between tags a line may end; what is no line end is the start of prose,
or a lone angle bracket. -/
theorem exists_firstMatch?_textRules (c : Char) (s : Text) :
    ∃ rule found rest, firstMatch? textRules (c :: s) = some (rule, found, rest) := by
  by_cases hbreak : c = '\r' ∨ c = '\n'
  · apply exists_firstMatch?_of_mem newlineRule (by simp [textRules, newlineRule])
    rw [newlineRule, Pattern.split?_orElse, Pattern.split?_word]
    cases Text.after? ['\r', '\n'] (c :: s) with
    | some rest => exact ⟨_, _, rfl, by simp⟩
    | none => exact ⟨[c], s, by simp [Pattern.split?_one, hbreak], by simp⟩
  · rw [not_or] at hbreak
    apply exists_firstMatch?_of_mem proseRule (by simp [textRules, proseRule])
    rw [proseRule, Pattern.split?_orElse, Pattern.split?_word, Pattern.split?_someOf]
    by_cases hc : c = '<'
    · subst hc
      simp [Text.after?]
    · simp [Text.after?, isProse, hc, hbreak, Ne.symm hc]

/-- **In front of a character some rule applies, in every mode.** -/
theorem exists_firstMatch? (m : Mode) (c : Char) (s : Text) :
    ∃ rule found rest, firstMatch? m.rules (c :: s) = some (rule, found, rest) := by
  -- Behind an attribute's name the rules of the tag are still there, so an assignment or a value
  -- that does not come leaves the lexer in the tag and not stuck.
  rcases m with _ | _ | (_ | _) | _
  · exact exists_firstMatch?_textRules c s
  · exact exists_firstMatch?_of_tagRules (List.Subset.refl _) c s
  · exact exists_firstMatch?_of_tagRules (by simp [Mode.rules]) c s
  · exact exists_firstMatch?_of_tagRules (by simp [Mode.rules]) c s
  · exact exists_firstMatch?_of_mem commentBodyRule (by simp [Mode.rules, commentBodyRule])
      ⟨_, _, rfl, by simp⟩

/-- **The lexer gives no token just where nothing is left.** -/
theorem Lexer.next_eq_none_iff (l : Lexer) : l.next = none ↔ l.rest = [] := by
  constructor
  · intro h
    cases hs : l.rest with
    | nil => rfl
    | cons c s =>
      obtain ⟨rule, found, rest, hf⟩ := exists_firstMatch? l.mode c s
      rw [← hs] at hf
      rw [Lexer.next_eq l hf] at h
      cases h
  · intro h
    cases hnext : l.next with
    | none => rfl
    | some p =>
      have hlt := length_lt_of_next hnext
      simp [h] at hlt

/-! ## Tokens side by side -/

/-- Tokens that make up a text, one behind the other, from an offset on. -/
inductive Tiles : Int → List Token → Text → Prop where
  | nil (offset : Int) : Tiles offset [] []
  | cons {offset : Int} {t : Token} {tokens : List Token} {s : Text} :
      t.text ≠ [] → t.offset = offset → Tiles t.endOffset tokens s →
        Tiles offset (t :: tokens) (t.text ++ s)

namespace Tiles

variable {offset : Int} {tokens : List Token} {s : Text}

theorem flatMap_text (h : Tiles offset tokens s) : tokens.flatMap Token.text = s := by
  induction h with
  | nil => rfl
  | cons _ _ _ ih => rw [List.flatMap_cons, ih]

theorem text_ne_nil (h : Tiles offset tokens s) : ∀ t ∈ tokens, t.text ≠ [] := by
  induction h with
  | nil => simp
  | cons hne _ _ ih =>
    intro t ht
    rcases List.mem_cons.1 ht with rfl | ht
    · exact hne
    · exact ih t ht

theorem length_le (h : Tiles offset tokens s) : tokens.length ≤ s.length := by
  induction h with
  | nil => simp
  | @cons _ t _ _ hne _ _ ih =>
    have := List.length_pos_iff.2 hne
    rw [List.length_cons, List.length_append]
    omega

theorem head_offset (h : Tiles offset tokens s) : ∀ t ∈ tokens.head?, t.offset = offset := by
  cases h with
  | nil => simp
  | cons _ hoffset _ => simpa using hoffset

theorem chain (h : Tiles offset tokens s) :
    tokens.IsChain fun a b => b.offset = a.endOffset := by
  induction h with
  | nil => exact .nil
  | cons _ _ htail ih => exact List.isChain_cons.2 ⟨htail.head_offset, ih⟩

theorem last_endOffset (h : Tiles offset tokens s) :
    ∀ t ∈ tokens.getLast?, t.endOffset = offset + s.length := by
  induction h with
  | nil => simp
  | @cons offset t tokens s _ hoffset htail ih =>
    intro last hlast
    cases tokens with
    | nil =>
      obtain rfl : t = last := by simpa using hlast
      cases htail
      simp [Token.endOffset, hoffset]
    | cons =>
      rw [List.getLast?_cons_cons] at hlast
      rw [ih last hlast, List.length_append, Token.endOffset]
      omega

/-- Where a token stands in the text. -/
theorem exists_append (h : Tiles offset tokens s) {t : Token} (ht : t ∈ tokens) :
    ∃ before after, s = before ++ (t.text ++ after) ∧ t.offset = offset + before.length := by
  induction h with
  | nil => cases ht
  | @cons offset u tokens s _ hoffset _ ih =>
    rcases List.mem_cons.1 ht with rfl | ht
    · exact ⟨[], s, rfl, by rw [hoffset]; simp⟩
    · obtain ⟨before, after, rfl, hplace⟩ := ih ht
      refine ⟨u.text ++ before, after, by rw [List.append_assoc], ?_⟩
      rw [hplace, Token.endOffset, hoffset, List.length_append]
      omega

/-- Each token ends in front of all that come behind it. -/
theorem pairwise (h : Tiles offset tokens s) :
    tokens.Pairwise fun a b => a.endOffset ≤ b.offset := by
  induction h with
  | nil => exact .nil
  | cons _ _ htail ih =>
    refine .cons (fun t ht => ?_) ih
    obtain ⟨before, -, -, hplace⟩ := htail.exists_append ht
    omega

end Tiles

theorem Token.offset_lt_endOffset {t : Token} (h : t.text ≠ []) : t.offset < t.endOffset := by
  have := List.length_pos_iff.2 h
  rw [endOffset]
  omega

/-- What is left in front of the lexer is covered by the tokens from there on. -/
theorem Lexer.tiles_tokens (l : Lexer) : Tiles l.offset l.tokens l.rest := by
  induction l using Lexer.induct with
  | done l h =>
    rw [Lexer.tokens_of_none h, (Lexer.next_eq_none_iff l).1 h]
    exact .nil _
  | step l rule found rest hf ih =>
    obtain ⟨hne, happ⟩ := append_of_firstMatch? hf
    rw [Lexer.tokens_of_some (Lexer.next_eq l hf), ← happ]
    exact .cons hne rfl ih

theorem tiles_tokenize (document : Text) : Tiles 0 (tokenize document) document :=
  (Lexer.ofText document).tiles_tokens

/-- The `n`th token is the one behind `n` others, and there is none behind the last. -/
theorem Lexer.getElem?_tokens (n : Nat) (l : Lexer) :
    l.tokens[n]? = (l.advance n).next.map Prod.fst := by
  induction n generalizing l with
  | zero =>
    cases h : l.next with
    | none => simp [Lexer.tokens_of_none h, advance, h]
    | some p => simp [Lexer.tokens_of_some h, advance, h]
  | succ n ih =>
    cases h : l.next with
    | none => simp [Lexer.tokens_of_none h, advance, h]
    | some p => simp [Lexer.tokens_of_some h, advance, h, ih]

/-- **The tokens of a document cover it.** They are what the lexer gives until it gives nothing
more, no more of them than there are characters; none is empty, each starts where the one
before it ends, the first at the start of the document and the last up to its end; and their
texts make up the document. -/
theorem tokenize_covers (document : Text) :
    (∀ n, (tokenize document)[n]? = (((Lexer.ofText document).advance n).next).map Prod.fst) ∧
    (tokenize document).length ≤ document.length ∧
    (∀ t ∈ tokenize document, t.text ≠ []) ∧
    (∀ t ∈ (tokenize document).head?, t.offset = 0) ∧
    (tokenize document).IsChain (fun a b => b.offset = a.endOffset) ∧
    (∀ t ∈ (tokenize document).getLast?, t.endOffset = document.length) ∧
    (tokenize document).flatMap Token.text = document := by
  have h := tiles_tokenize document
  have hlast := h.last_endOffset
  simp only [Int.zero_add] at hlast
  exact ⟨fun n => Lexer.getElem?_tokens n _, h.length_le, h.text_ne_nil, h.head_offset, h.chain,
    hlast, h.flatMap_text⟩

end Markup
end SiteOptimizer
