import SiteOptimizer.Proofs.Markup.Grammar
import SiteOptimizer.Proofs.Markup.Nodes

/-!
# The modes of the lexer as a stack

A mode says where the lexer stands and also what it goes back to: a comment and a tag lie in the
document, an attribute lies in a tag. `StackLexer` keeps these layers on a stack and remembers apart
from them whether a value is expected. A token may put a layer on the stack or take one off, and
what is not part of an attribute takes the attribute off the stack without being read.

The two lexers are the same, step by step (`next_stacked`). So a stack is one of the four that stand
for a mode, a value is expected behind an assignment only, and the kinds of the tokens follow the
grammar (`stack_and_grammar`).
-/

namespace SiteOptimizer
namespace Markup

/-! ## The lexer with a stack -/

/-- What the lexer may be in. -/
inductive Layer where
  | main
  | tag
  | attribute
  | comment
  deriving DecidableEq, Repr

/-- The layers around a place, the innermost first, and whether a value may follow. -/
structure Stack where
  layers : List Layer
  expectsValue : Bool
  deriving DecidableEq, Repr

/-- The layer that a token puts on the stack. -/
def Kind.pushes? : Kind → Option Layer
  | .tagOpen => some .tag
  | .commentStart => some .comment
  | .attrName => some .attribute
  | _ => none

/-- Whether a token takes a layer off the stack. -/
def Kind.pops : Kind → Bool
  | .commentEnd | .tagEnd | .tagSelfClose | .attrValue | .attrEnd => true
  | _ => false

/-- The stack without its innermost layer; the outermost layer stays. -/
def Stack.pop : Stack → Stack
  | ⟨_ :: layer :: layers, _⟩ => ⟨layer :: layers, false⟩
  | ⟨layers, _⟩ => ⟨layers, false⟩

/-- The stack behind a token. -/
def Stack.behind (stack : Stack) (kind : Kind) : Stack :=
  match kind.pushes? with
  | some layer => ⟨layer :: stack.layers, stack.expectsValue⟩
  | none => if kind.pops then stack.pop else stack

/-- What belongs to an attribute behind its name. -/
def attributeRules (expectsValue : Bool) : List Rule :=
  if expectsValue then [valueRule] else [assignmentRule, attrEndRule]

/-- The rules of a layer. -/
def Layer.rules (expectsValue : Bool) : Layer → List Rule
  | .main => textRules
  | .tag => tagRules
  | .comment => [commentEndRule, commentBodyRule]
  | .attribute => attributeRules expectsValue

/-- A document from some place on, and what that place lies in. -/
structure StackLexer where
  /-- What has not been read. -/
  rest : Text
  /-- How many characters have been read. -/
  offset : Nat
  stack : Stack
  deriving DecidableEq, Repr

namespace StackLexer

/-- The start of a document. -/
def ofText (document : Text) : StackLexer :=
  ⟨document, 0, ⟨[.main], false⟩⟩

/-- The token that a text starts with in some layers, and the lexer behind it. What belongs to
an attribute uses up that a value is expected, and an assignment makes it so; where nothing
belongs to the attribute any more the layer below reads on. -/
def readIn (s : Text) (offset : Nat) : List Layer → Bool → Option (Token × StackLexer)
  | [], _ => none
  | layer :: below, expectsValue =>
    match firstMatch? (layer.rules expectsValue) s with
    | some (rule, found, rest) =>
      let expectsValue := if layer = .attribute then decide (rule.kind = .attrAssignment)
        else expectsValue
      some (Token.ofPiece rule.kind found offset,
        ⟨rest, offset + found.length, Stack.behind ⟨layer :: below, expectsValue⟩ rule.kind⟩)
    | none => if layer = .attribute then readIn s offset below false else none

/-- The next token and the lexer behind it; behind the end of the document there is none. -/
def next (l : StackLexer) : Option (Token × StackLexer) :=
  if l.rest = [] then none else readIn l.rest l.offset l.stack.layers l.stack.expectsValue

/-- The next `n` tokens, or those that there are, and the lexer behind them. -/
def run : Nat → StackLexer → List Token × StackLexer
  | 0, l => ([], l)
  | n + 1, l =>
    match l.next with
    | none => ([], l)
    | some (t, l') => (t :: (run n l').1, (run n l').2)

end StackLexer

/-! ## The stack of a mode -/

/-- The stack that a mode stands for. -/
def Mode.stack : Mode → Stack
  | .text => ⟨[.main], false⟩
  | .tag => ⟨[.tag, .main], false⟩
  | .attribute expectsValue => ⟨[.attribute, .tag, .main], expectsValue⟩
  | .comment => ⟨[.comment, .main], false⟩

/-- The lexer with the stack of its mode. -/
def Lexer.stacked (l : Lexer) : StackLexer :=
  ⟨l.rest, l.offset, l.mode.stack⟩

theorem behind_textRules {rule : Rule} (h : rule ∈ textRules) :
    Mode.text.stack.behind rule.kind = rule.next.stack := by
  simp only [textRules, List.mem_cons, List.not_mem_nil, or_false] at h
  rcases h with rfl | rfl | rfl | rfl | rfl | rfl | rfl <;> rfl

theorem behind_tagRules {rule : Rule} (h : rule ∈ tagRules) :
    Mode.tag.stack.behind rule.kind = rule.next.stack := by
  simp only [tagRules, List.mem_cons, List.not_mem_nil, or_false] at h
  rcases h with rfl | rfl | rfl | rfl <;> rfl

theorem behind_comment {rule : Rule} (h : rule ∈ Mode.comment.rules) :
    Mode.comment.stack.behind rule.kind = rule.next.stack := by
  have hrule : rule = commentEndRule ∨ rule = commentBodyRule := by
    rwa [← List.mem_singleton (a := rule) (b := commentBodyRule), ← List.mem_cons]
  rcases hrule with rfl | rfl <;> rfl

theorem behind_attributeRules {rule : Rule} {expectsValue : Bool}
    (h : rule ∈ attributeRules expectsValue) :
    Stack.behind ⟨[.attribute, .tag, .main], decide (rule.kind = .attrAssignment)⟩ rule.kind =
      rule.next.stack := by
  cases expectsValue with
  | true =>
    rw [List.mem_singleton.1 h]
    rfl
  | false =>
    rcases List.mem_cons.1 h with rfl | h
    · rfl
    · rw [List.mem_singleton.1 h]
      rfl

theorem rules_attribute (expectsValue : Bool) :
    (Mode.attribute expectsValue).rules = attributeRules expectsValue ++ tagRules := by
  cases expectsValue <;> rfl

theorem firstMatch?_append (rules rules' : List Rule) (s : Text) :
    firstMatch? (rules ++ rules') s = (firstMatch? rules s).or (firstMatch? rules' s) := by
  unfold firstMatch?
  exact List.findSome?_append

section

variable (s : Text) (offset : Nat)

/-- A layer with the rules of a mode reads as the lexer does in that mode. -/
theorem readIn_eq {m : Mode} {layer : Layer} {below : List Layer} {expectsValue : Bool}
    (hlayer : layer ≠ .attribute) (hrules : layer.rules expectsValue = m.rules)
    (hbehind : ∀ rule ∈ m.rules,
      Stack.behind ⟨layer :: below, expectsValue⟩ rule.kind = rule.next.stack) :
    StackLexer.readIn s offset (layer :: below) expectsValue =
      (Lexer.next ⟨s, offset, m⟩).map fun (t, l) => (t, l.stacked) := by
  rw [StackLexer.readIn, Lexer.next, hrules]
  cases hmatch : firstMatch? m.rules s with
  | none => exact if_neg hlayer
  | some read =>
    obtain ⟨rule, found, rest⟩ := read
    simp only [if_neg hlayer, hbehind rule (Mode.mem_rules_of_firstMatch? hmatch)]
    rfl

theorem readIn_tag : StackLexer.readIn s offset [.tag, .main] false =
    (Lexer.next ⟨s, offset, .tag⟩).map fun (t, l) => (t, l.stacked) :=
  readIn_eq s offset (by decide) rfl fun _ => behind_tagRules

/-- In an attribute the rules of the tag are tried where the attribute's own do not apply, which is
to leave the attribute and to read on in the tag. -/
theorem readIn_attribute (expectsValue : Bool) :
    StackLexer.readIn s offset [.attribute, .tag, .main] expectsValue =
    (Lexer.next ⟨s, offset, .attribute expectsValue⟩).map fun (t, l) => (t, l.stacked) := by
  rw [StackLexer.readIn, Lexer.next, rules_attribute, firstMatch?_append]
  cases hmatch : firstMatch? (attributeRules expectsValue) s with
  | none =>
    rw [Layer.rules, hmatch, Option.none_or]
    exact readIn_tag s offset
  | some read =>
    obtain ⟨rule, found, rest⟩ := read
    rw [Layer.rules, hmatch]
    simp only [if_true, behind_attributeRules (Mode.mem_rules_of_firstMatch? hmatch)]
    rfl

end

/-- **The lexer with a stack reads what the lexer reads, and comes to the stack of its mode.** -/
theorem next_stacked (l : Lexer) : l.stacked.next = l.next.map fun (t, l') => (t, l'.stacked) := by
  obtain ⟨s, offset, mode⟩ := l
  rw [StackLexer.next]
  split
  case isTrue hnil =>
    rw [(Lexer.next_eq_none_iff _).2 hnil]
    rfl
  case isFalse =>
    rcases mode with _ | _ | expectsValue | _
    · exact readIn_eq s offset (by decide) rfl fun _ => behind_textRules
    · exact readIn_tag s offset
    · exact readIn_attribute s offset expectsValue
    · exact readIn_eq s offset (by decide) rfl fun _ => behind_comment

theorem run_stacked (n : Nat) (l : Lexer) :
    l.stacked.run n = (l.tokens.take n, (l.advance n).stacked) := by
  induction n generalizing l with
  | zero => rfl
  | succ n ih =>
    rw [StackLexer.run, next_stacked]
    cases h : l.next with
    | none => simp [Lexer.tokens_of_none h, Lexer.advance, h]
    | some p => simp [Lexer.tokens_of_some h, Lexer.advance, h, ih]

/-! ## What a run comes to -/

theorem expectsValue_next {m : Mode} {rule : Rule} (h : rule ∈ m.rules) :
    rule.next.stack.expectsValue = decide (rule.kind = .attrAssignment) := by
  revert rule
  rcases m with _ | _ | (_ | _) | _ <;> simp [Mode.rules, textRules, tagRules, Mode.stack]

/-- Whether a value is expected depends on the last token that has been read. -/
theorem expectsValue_advance (n : Nat) (l : Lexer) :
    (l.advance n).mode.stack.expectsValue =
      (l.tokens.take n).getLast?.elim l.mode.stack.expectsValue fun t =>
        decide (t.kind = .attrAssignment) := by
  induction n generalizing l with
  | zero => rfl
  | succ n ih =>
    cases hmatch : firstMatch? l.mode.rules l.rest with
    | none =>
      have hnone : l.next = none := by rw [Lexer.next, hmatch]
      rw [Lexer.tokens_of_none hnone, Lexer.advance, hnone]
      rfl
    | some read =>
      obtain ⟨rule, found, rest⟩ := read
      have hnext := Lexer.next_eq l hmatch
      rw [Lexer.tokens_of_some hnext, Lexer.advance, hnext, List.take_succ_cons, List.getLast?_cons]
      dsimp only
      rw [ih, expectsValue_next (Mode.mem_rules_of_firstMatch? hmatch)]
      cases (List.take n _).getLast? <;> rfl

/-- In a document a value is expected just behind an assignment. -/
theorem expectsValue_iff (document : Text) (n : Nat) :
    ((Lexer.ofText document).advance n).stacked.stack.expectsValue = true ↔
      ((tokenize document).take n).getLast?.map Token.kind = some .attrAssignment := by
  rw [Lexer.stacked, expectsValue_advance, ← tokenize]
  cases ((tokenize document).take n).getLast? with
  | none => simp [Lexer.ofText, Mode.stack]
  | some t => simp

theorem stack_cases (m : Mode) :
    m.stack.layers ∈ [[.main], [.tag, .main], [.attribute, .tag, .main], [.comment, .main]] ∧
      (m.stack.expectsValue = true → m.stack.layers = [.attribute, .tag, .main]) := by
  rcases m with _ | _ | (_ | _) | _ <;> decide

/-- **The stack and the tokens of a document.** Wherever the lexer has come to, it has read
the tokens of the document up to there; its stack is the document's alone or that of a tag, of
an attribute in a tag or of a comment; and a value is expected just behind an assignment,
which is in an attribute. The kinds of all tokens begin a sequence of the grammar. -/
theorem stack_and_grammar (document : Text) :
    (∀ n, ∃ read l, (StackLexer.ofText document).run n = (read, l) ∧
      read = (tokenize document).take n ∧
      l = ((Lexer.ofText document).advance n).stacked ∧
      l.stack.layers ∈ [[.main], [.tag, .main], [.attribute, .tag, .main], [.comment, .main]] ∧
      (l.stack.expectsValue = true → l.stack.layers = [.attribute, .tag, .main]) ∧
      (l.stack.expectsValue = true ↔ read.getLast?.map Token.kind = some .attrAssignment)) ∧
    ∃ kinds, MarkupKinds kinds ∧ (tokenize document).map Token.kind <+: kinds := by
  refine ⟨fun n => ?_, exists_markupKinds document⟩
  obtain ⟨hlayers, hattribute⟩ := stack_cases ((Lexer.ofText document).advance n).mode
  exact ⟨_, _, run_stacked n (Lexer.ofText document), rfl, rfl, hlayers, hattribute,
    expectsValue_iff document n⟩

end Markup
end SiteOptimizer
