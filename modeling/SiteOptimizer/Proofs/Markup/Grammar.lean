import SiteOptimizer.Proofs.Markup.Coverage

/-!
# The grammar of token kinds

`MarkupKinds` says in which orders kinds of tokens stand in a document that leaves nothing open:
between tags line ends, indents, text, document types and closing tags, whole comments and whole
tags. A document may end anywhere, so its own kinds are the beginning of such a sequence
(`exists_markupKinds`).

What a lexer still has to read depends on its mode, and in a comment also on what stands
in front of it: a body goes up to the place where the comment can end, so no body
follows another one (`Remainder`).
-/

namespace SiteOptimizer
namespace Markup

/-! ## Complete documents -/

/-- The kinds of an attribute: a name, what ends it or an assignment behind
it, and a value behind that. -/
inductive AttributeKinds : List Kind → Prop where
  | named : AttributeKinds [.attrName]
  | ended : AttributeKinds [.attrName, .attrEnd]
  | assigned : AttributeKinds [.attrName, .attrAssignment]
  | valued : AttributeKinds [.attrName, .attrAssignment, .attrValue]

/-- The kinds of what stands in a tag behind its name, up to and with its end. -/
inductive TagKinds : List Kind → Prop where
  | tagEnd : TagKinds [.tagEnd]
  | selfClose : TagKinds [.tagSelfClose]
  | text {kinds : List Kind} : TagKinds kinds → TagKinds (.text :: kinds)
  | attr {first kinds : List Kind} :
      AttributeKinds first → TagKinds kinds → TagKinds (first ++ kinds)

/-- The kinds of a comment. -/
inductive CommentKinds : List Kind → Prop where
  | empty : CommentKinds [.commentStart, .commentEnd]
  | filled : CommentKinds [.commentStart, .commentBody, .commentEnd]

/-- The kinds of tokens that stand alone between tags. -/
def Kind.isPlain : Kind → Bool
  | .docType | .tagClose | .newline | .indent | .text => true
  | _ => false

/-- The kinds of a document that leaves no tag and no comment open. -/
inductive MarkupKinds : List Kind → Prop where
  | nil : MarkupKinds []
  | plain {kind : Kind} {kinds : List Kind} :
      kind.isPlain = true → MarkupKinds kinds → MarkupKinds (kind :: kinds)
  | comment {first kinds : List Kind} :
      CommentKinds first → MarkupKinds kinds → MarkupKinds (first ++ kinds)
  | tag {first kinds : List Kind} :
      TagKinds first → MarkupKinds kinds → MarkupKinds (.tagOpen :: first ++ kinds)

/-! ## What is left to read -/

/-- The kinds behind the name of a tag. -/
def InTag (kinds : List Kind) : Prop :=
  ∃ tag behind, TagKinds tag ∧ MarkupKinds behind ∧ kinds = tag ++ behind

/-- The kinds behind those of an attribute that have been read. -/
def InAttribute (read kinds : List Kind) : Prop :=
  ∃ left behind, AttributeKinds (read ++ left) ∧ InTag behind ∧ kinds = left ++ behind

/-- A comment ends here, or the document does. -/
def CanEnd (s : Text) : Prop :=
  s = [] ∨ (commentEnd.split? s).isSome = true

/-- The kinds that may follow in front of a text in a mode. -/
def Remainder : Mode → Text → List Kind → Prop
  | .text, _, kinds => MarkupKinds kinds
  | .tag, _, kinds => InTag kinds
  | .attribute false, _, kinds => InAttribute [.attrName] kinds
  | .attribute true, _, kinds => InAttribute [.attrName, .attrAssignment] kinds
  | .comment, s, kinds => ∃ behind, MarkupKinds behind ∧
      (kinds = .commentEnd :: behind ∨ ¬ CanEnd s ∧ kinds = .commentBody :: .commentEnd :: behind)

theorem inTag_tagEnd : InTag [.tagEnd] :=
  ⟨_, [], .tagEnd, .nil, rfl⟩

/-- An attribute may be left wherever it has come to. -/
theorem InTag.inAttribute {read kinds : List Kind} (h : InTag kinds) (hread : AttributeKinds read) :
    InAttribute read kinds :=
  ⟨[], kinds, by rwa [List.append_nil], h, rfl⟩

theorem InAttribute.inTag {kinds : List Kind} (h : InAttribute [.attrName] kinds) :
    InTag (.attrName :: kinds) := by
  obtain ⟨left, _, hattribute, ⟨tag, behind, htag, hbehind, rfl⟩, rfl⟩ := h
  exact ⟨_, behind, .attr hattribute htag, hbehind, by simp⟩

/-- Every document can be completed from where it ends. -/
theorem exists_remainder (m : Mode) (s : Text) : ∃ kinds, Remainder m s kinds := by
  rcases m with _ | _ | (_ | _) | _
  · exact ⟨[], .nil⟩
  · exact ⟨_, inTag_tagEnd⟩
  · exact ⟨_, inTag_tagEnd.inAttribute .named⟩
  · exact ⟨_, inTag_tagEnd.inAttribute .assigned⟩
  · exact ⟨_, [], .nil, .inl rfl⟩

/-! ## One token -/

variable {rule : Rule} {s found rest : Text} {kinds : List Kind}

theorem remainder_textRules (hrule : rule ∈ textRules) (h : Remainder rule.next rest kinds) :
    MarkupKinds (rule.kind :: kinds) := by
  simp only [textRules, List.mem_cons, List.not_mem_nil, or_false] at hrule
  rcases hrule with rfl | rfl | rfl | rfl | rfl | rfl | rfl
  · obtain ⟨behind, hbehind, rfl | ⟨-, rfl⟩⟩ := h
    · exact .comment .empty hbehind
    · exact .comment .filled hbehind
  · exact .plain rfl h
  · exact .plain rfl h
  · obtain ⟨tag, behind, htag, hbehind, rfl⟩ := h
    exact .tag htag hbehind
  · exact .plain rfl h
  · exact .plain rfl h
  · exact .plain rfl h

theorem remainder_tagRules (hrule : rule ∈ tagRules) (h : Remainder rule.next rest kinds) :
    InTag (rule.kind :: kinds) := by
  simp only [tagRules, List.mem_cons, List.not_mem_nil, or_false] at hrule
  rcases hrule with rfl | rfl | rfl | rfl
  · exact ⟨_, kinds, .selfClose, h, rfl⟩
  · exact ⟨_, kinds, .tagEnd, h, rfl⟩
  · exact InAttribute.inTag h
  · obtain ⟨tag, behind, htag, hbehind, rfl⟩ := h
    exact ⟨_, behind, .text htag, hbehind, rfl⟩

/-- Behind the body of a comment the comment ends, or the document does. -/
theorem canEnd_splitAtCommentEnd (s : Text) : CanEnd (splitAtCommentEnd s).2 := by
  induction s with
  | nil => exact .inl rfl
  | cons c s ih =>
    rw [splitAtCommentEnd]
    split
    case isTrue h => exact .inr h
    case isFalse => exact ih

theorem remainder_comment (hmatch : firstMatch? Mode.comment.rules s = some (rule, found, rest))
    (h : Remainder rule.next rest kinds) : Remainder .comment s (rule.kind :: kinds) := by
  have hrules : Mode.comment.rules = [commentEndRule, commentBodyRule] := rfl
  have hrule := Mode.mem_rules_of_firstMatch? hmatch
  obtain ⟨hne, happ⟩ := append_of_firstMatch? hmatch
  rw [hrules] at hrule hmatch
  rw [List.mem_cons, List.mem_singleton] at hrule
  rcases hrule with rfl | rfl
  · exact ⟨kinds, h, .inl rfl⟩
  · -- the rule of the end comes first, so where a body is read the comment does not end
    have hopen : ¬ CanEnd s := by
      rintro (rfl | hend)
      · exact hne (List.append_eq_nil_iff.1 happ).1
      · obtain ⟨⟨piece, behind⟩, hsplit⟩ := Option.isSome_iff_exists.1 hend
        have hpiece : piece ≠ [] := by
          rw [split?_commentEnd] at hsplit
          obtain ⟨_, -, heq⟩ := Option.map_eq_some_iff.1 hsplit
          rw [← (Prod.mk.inj heq).1]
          simp [endWord]
        have hfirst := firstMatch?_of_split? [] commentEndRule [commentBodyRule] rfl hsplit hpiece
        rw [List.nil_append, hmatch] at hfirst
        cases hfirst
    have hend : CanEnd rest := by
      have hsplit := split?_of_firstMatch? hmatch
      cases s with
      | nil => exact absurd (.inl rfl) hopen
      | cons c s =>
        cases hsplit
        exact canEnd_splitAtCommentEnd s
    obtain ⟨behind, hbehind, rfl | ⟨hgoesOn, -⟩⟩ := h
    · exact ⟨behind, hbehind, .inr ⟨hopen, rfl⟩⟩
    · exact absurd hend hgoesOn

/-- **A token goes in front of what may follow it.** -/
theorem remainder_step {m : Mode} (hmatch : firstMatch? m.rules s = some (rule, found, rest))
    (h : Remainder rule.next rest kinds) : Remainder m s (rule.kind :: kinds) := by
  have hrule := Mode.mem_rules_of_firstMatch? hmatch
  rcases m with _ | _ | (_ | _) | _
  · exact remainder_textRules hrule h
  · exact remainder_tagRules hrule h
  · rcases List.mem_cons.1 hrule with rfl | hrule
    · obtain ⟨left, behind, hattribute, hbehind, rfl⟩ := h
      exact ⟨_, behind, hattribute, hbehind, rfl⟩
    rcases List.mem_cons.1 hrule with rfl | hrule
    · exact ⟨[.attrEnd], kinds, .ended, h, rfl⟩
    · exact (remainder_tagRules hrule h).inAttribute .named
  · rcases List.mem_cons.1 hrule with rfl | hrule
    · exact ⟨[.attrValue], kinds, .valued, h, rfl⟩
    · exact (remainder_tagRules hrule h).inAttribute .assigned
  · exact remainder_comment hmatch h

/-! ## All tokens -/

theorem Lexer.exists_remainder (l : Lexer) :
    ∃ kinds, Remainder l.mode l.rest kinds ∧ l.tokens.map Token.kind <+: kinds := by
  induction l using Lexer.induct with
  | done l h =>
    obtain ⟨kinds, hkinds⟩ := Markup.exists_remainder l.mode l.rest
    rw [Lexer.tokens_of_none h]
    exact ⟨kinds, hkinds, List.nil_prefix⟩
  | step l rule found rest hf ih =>
    obtain ⟨kinds, hkinds, hprefix⟩ := ih
    rw [Lexer.tokens_of_some (Lexer.next_eq l hf), List.map_cons]
    exact ⟨_, remainder_step hf hkinds, List.cons_prefix_cons.2 ⟨rfl, hprefix⟩⟩

/-- **The kinds of a document's tokens begin a sequence of the grammar.** -/
theorem exists_markupKinds (document : Text) :
    ∃ kinds, MarkupKinds kinds ∧ (tokenize document).map Token.kind <+: kinds :=
  (Lexer.ofText document).exists_remainder

end Markup
end SiteOptimizer
