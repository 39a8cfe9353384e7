import SiteOptimizer.Markup.Attribute
import SiteOptimizer.Markup.Lexer

/-!
# What the lexer reads

`Reads m s v m' s'` says that the lexer, standing in mode `m` in front of `s`, comes to stand in
mode `m'` in front of `s'` and reads the signs `v` on its way. Offsets do not occur in it, so it
speaks of a piece of a document wherever the piece stands. Signs are the tokens that carry markup;
runs of text, line ends and indents are left out, because an insertion may lengthen them.

The last section shows that the tags of a document depend on its signs alone, and that what is read
between tags can be taken apart there.
-/

namespace SiteOptimizer
namespace Markup

/-- Whether tokens of this kind carry no markup. -/
def Kind.isFiller (kind : Kind) : Bool :=
  kind = .text || kind = .indent || kind = .newline

/-- A token that carries markup, without its place and spelling. -/
structure Sign where
  kind : Kind
  value : Text
  deriving DecidableEq, Repr

/-- The sign of a piece of a document, if the piece carries markup. -/
def Sign.ofPiece (kind : Kind) (piece : Text) : List Sign :=
  if kind.isFiller then [] else [⟨kind, kind.normalize piece⟩]

/-- The signs among some tokens. -/
def signs (tokens : List Token) : List Sign :=
  tokens.flatMap fun t => if t.kind.isFiller then [] else [⟨t.kind, t.value⟩]

@[simp] theorem signs_nil : signs [] = [] := rfl

theorem signs_cons (kind : Kind) (piece : Text) (offset : Int) (tokens : List Token) :
    signs (Token.ofPiece kind piece offset :: tokens) =
      Sign.ofPiece kind piece ++ signs tokens := rfl

/-- From one place and mode to another, with the signs in between. -/
inductive Reads : Mode → Text → List Sign → Mode → Text → Prop where
  | done (m : Mode) (s : Text) : Reads m s [] m s
  | step {m m' : Mode} {s found rest s' : Text} {rule : Rule} {v : List Sign} :
      firstMatch? m.rules s = some (rule, found, rest) → Reads rule.next rest v m' s' →
      Reads m s (Sign.ofPiece rule.kind found ++ v) m' s'

namespace Reads

variable {m m' m'' : Mode} {s s' s'' : Text} {v w : List Sign}

theorem trans (h : Reads m s v m' s') (h' : Reads m' s' w m'' s'') :
    Reads m s (v ++ w) m'' s'' := by
  induction h with
  | done m s => exact h'
  | step hf _ ih =>
    rw [List.append_assoc]
    exact .step hf (ih h')

/-- One rule read, where the signs are given as they come out. -/
theorem one {rule : Rule} {found rest : Text}
    (h : firstMatch? m.rules s = some (rule, found, rest)) :
    Reads m s (Sign.ofPiece rule.kind found) rule.next rest := by
  simpa using Reads.step h (.done _ _)

/-- What is left stands at the end of what there was. -/
theorem suffix (h : Reads m s v m' s') : ∃ consumed, s = consumed ++ s' := by
  induction h with
  | done m s => exact ⟨[], rfl⟩
  | step hf _ ih =>
    obtain ⟨consumed, rfl⟩ := ih
    exact ⟨_ ++ consumed, by rw [List.append_assoc, (append_of_firstMatch? hf).2]⟩

theorem length_le (h : Reads m s v m' s') : s'.length ≤ s.length := by
  obtain ⟨consumed, rfl⟩ := h.suffix
  simp

/-- Where nothing has been taken nothing has been read. -/
theorem eq_of_same (h : Reads m s v m' s) : v = [] ∧ m = m' := by
  cases h with
  | done => exact ⟨rfl, rfl⟩
  | step hf hr =>
    obtain ⟨hne, happ⟩ := append_of_firstMatch? hf
    have hle := hr.length_le
    rw [← happ, List.length_append] at hle
    have := List.length_pos_iff.2 hne
    omega

/-- A step that starts at a place leaves it behind. -/
theorem ne_nil_of_step {rule : Rule} {found rest : Text} {v : List Sign}
    (hf : firstMatch? m.rules (s ++ s') = some (rule, found, rest))
    (hr : Reads rule.next rest v m' s') : s ≠ [] := by
  rintro rfl
  obtain ⟨hne, happ⟩ := append_of_firstMatch? hf
  obtain ⟨between, rfl⟩ := hr.suffix
  rw [List.nil_append, ← List.append_assoc, List.append_left_eq_self] at happ
  exact hne (List.append_eq_nil_iff.1 happ).1

end Reads

/-! ## Reading to the end -/

theorem length_lt_of_firstMatch? {rules : List Rule} {rule : Rule} {s found rest : Text}
    (h : firstMatch? rules s = some (rule, found, rest)) : rest.length < s.length := by
  obtain ⟨hne, rfl⟩ := append_of_firstMatch? h
  have hfound := List.length_pos_iff.2 hne
  rw [List.length_append]
  omega

theorem Lexer.next_eq (l : Lexer) {rule : Rule} {found rest : Text}
    (h : firstMatch? l.mode.rules l.rest = some (rule, found, rest)) :
    l.next = some (Token.ofPiece rule.kind found l.offset,
      ⟨rest, l.offset + found.length, rule.next⟩) := by
  simp [Lexer.next, h]

theorem Lexer.tokens_of_none {l : Lexer} (h : l.next = none) : l.tokens = [] := by
  rw [Lexer.tokens]
  split
  · rfl
  · next heq => rw [h] at heq; cases heq

theorem Lexer.tokens_of_some {l l' : Lexer} {t : Token} (h : l.next = some (t, l')) :
    l.tokens = t :: l'.tokens := by
  rw [Lexer.tokens]
  split
  · next heq => rw [h] at heq; cases heq
  · next heq =>
    rw [h] at heq
    cases heq
    rfl

/-- The signs from a place and mode on. -/
def signsFrom (m : Mode) (s : Text) : List Sign :=
  signs (Lexer.tokens ⟨s, 0, m⟩)

/-- **Signs do not depend on how much stands before them.** -/
theorem signs_tokens (m : Mode) (s : Text) (offset : Nat) :
    signs (Lexer.tokens ⟨s, offset, m⟩) = signsFrom m s := by
  induction hn : s.length using Nat.strongRecOn generalizing m s offset with
  | _ n ih =>
    unfold signsFrom
    cases hf : firstMatch? m.rules s with
    | none =>
      have hnone : ∀ o : Nat, Lexer.next ⟨s, o, m⟩ = none := fun o => by simp [Lexer.next, hf]
      rw [Lexer.tokens_of_none (hnone offset), Lexer.tokens_of_none (hnone 0)]
    | some found =>
      obtain ⟨rule, piece, rest⟩ := found
      have hlt : rest.length < n := hn ▸ length_lt_of_firstMatch? hf
      rw [Lexer.tokens_of_some (Lexer.next_eq ⟨s, offset, m⟩ hf),
        Lexer.tokens_of_some (Lexer.next_eq ⟨s, 0, m⟩ hf), signs_cons, signs_cons]
      dsimp only
      rw [ih _ hlt rule.next rest _ rfl, ih _ hlt rule.next rest _ rfl]

theorem signsFrom_step {m : Mode} {s found rest : Text} {rule : Rule}
    (h : firstMatch? m.rules s = some (rule, found, rest)) :
    signsFrom m s = Sign.ofPiece rule.kind found ++ signsFrom rule.next rest := by
  rw [signsFrom, Lexer.tokens_of_some (Lexer.next_eq ⟨s, 0, m⟩ h), signs_cons, signs_tokens]

/-- What has been read comes before what is read from there on. -/
theorem Reads.signsFrom_eq {m m' : Mode} {s s' : Text} {v : List Sign} (h : Reads m s v m' s') :
    signsFrom m s = v ++ signsFrom m' s' := by
  induction h with
  | done m s => rfl
  | step hf _ ih => rw [signsFrom_step hf, ih, List.append_assoc]

theorem signs_tokenize (document : Text) : signs (tokenize document) = signsFrom .text document :=
  rfl

/-! ## Tags depend on signs -/

/-- A token that a sign may come from. -/
def Sign.token (sign : Sign) : Token :=
  ⟨sign.kind, [], sign.value, 0, false⟩

/-- Some tokens without all that is not in their signs. -/
def bare (tokens : List Token) : List Token :=
  (signs tokens).map Sign.token

theorem bare_cons_filler {t : Token} (h : t.kind.isFiller = true) (tokens : List Token) :
    bare (t :: tokens) = bare tokens := by
  simp [bare, signs, h]

theorem bare_cons {t : Token} (h : t.kind.isFiller = false) (tokens : List Token) :
    bare (t :: tokens) = ⟨t.kind, [], t.value, 0, false⟩ :: bare tokens := by
  simp [bare, signs, h, Sign.token]

theorem Kind.not_tag_of_isFiller {kind : Kind} (h : kind.isFiller = true) :
    kind.endsTag = false ∧ kind ≠ .attrName ∧ kind ≠ .attrValue ∧ kind ≠ .tagOpen := by
  cases kind <;> simp_all [Kind.isFiller, Kind.endsTag]

namespace Attributes

/-- A token that carries no markup is passed over. -/
theorem readFrom_filler {t : Token} (h : t.kind.isFiller = true) (attributes : Attributes)
    (pending : Option Text) (tokens : List Token) :
    readFrom attributes pending (t :: tokens) = readFrom attributes pending tokens := by
  obtain ⟨hend, hname, hvalue, -⟩ := Kind.not_tag_of_isFiller h
  simp [readFrom, hend, hname, hvalue]

/-- **The attributes of a tag depend on the signs of its tokens.** -/
theorem readFrom_bare (tokens : List Token) (attributes : Attributes) (pending : Option Text) :
    readFrom attributes pending (bare tokens) =
      ((readFrom attributes pending tokens).1, bare (readFrom attributes pending tokens).2) := by
  induction tokens generalizing attributes pending with
  | nil => rfl
  | cons t tokens ih =>
    cases hf : t.kind.isFiller with
    | true => rw [bare_cons_filler hf, readFrom_filler hf, ih]
    | false =>
      rw [bare_cons hf]
      simp only [readFrom]
      split
      · rfl
      · split
        · split <;> exact ih _ _
        · split
          · cases pending <;> exact ih _ _
          · exact ih _ _

end Attributes

/-- **The tags of a document depend on its signs.** -/
theorem tagsNamed_bare (names : Text → Bool) (tokens : List Token) :
    tagsNamed names (bare tokens) = tagsNamed names tokens := by
  fun_induction tagsNamed names tokens with
  | case1 => simp [bare, tagsNamed]
  | case2 t tokens h ih =>
    simp only [Bool.and_eq_true, decide_eq_true_eq] at h
    have hf : t.kind.isFiller = false := by rw [h.1]; rfl
    rw [bare_cons hf, tagsNamed, if_pos (by simp [h.1, h.2]), Attributes.read,
      Attributes.readFrom_bare]
    rw [← ih]
    rfl
  | case3 t tokens h ih =>
    cases hf : t.kind.isFiller with
    | true => rw [bare_cons_filler hf, ih]
    | false => rw [bare_cons hf, tagsNamed, if_neg h, ih]

/-! ## Taking apart what has been read -/

theorem Mode.mem_rules_of_firstMatch? {rules : List Rule} {rule : Rule} {s found rest : Text}
    (h : firstMatch? rules s = some (rule, found, rest)) : rule ∈ rules := by
  obtain ⟨r, hr, htake⟩ := List.exists_of_findSome?_eq_some h
  unfold Rule.take? at htake
  split at htake
  · simp only [Option.some.injEq, Prod.mk.injEq] at htake
    exact htake.1 ▸ hr
  · cases htake

/-- The modes inside a tag. -/
def Mode.inTag : Mode → Bool
  | .tag | .attribute _ => true
  | .text | .comment => false

/-- What a mode's rules lead to: a rule outside of tags enters a tag just by opening it, and a rule
inside stays in there unless it ends the tag. -/
theorem Mode.rule_cases {m : Mode} {rule : Rule} (h : rule ∈ m.rules) :
    (m.inTag = false ∧ (rule.kind = .tagOpen ∧ rule.next.inTag = true ∨
      rule.kind ≠ .tagOpen ∧ rule.next.inTag = false)) ∨
    (m.inTag = true ∧ rule.kind ≠ .tagOpen ∧
      (rule.kind.endsTag = true ∧ rule.next = .text ∨
        rule.kind.endsTag = false ∧ rule.next.inTag = true)) := by
  revert rule
  rcases m with _ | _ | (_ | _) | _ <;>
    simp [Mode.rules, textRules, tagRules, Mode.inTag, Kind.endsTag]

/-- The tags among some signs. -/
def tagsOf (names : Text → Bool) (v : List Sign) : List (Text × Attributes) :=
  tagsNamed names (v.map Sign.token)

theorem tagsNamed_eq_tagsOf (names : Text → Bool) (tokens : List Token) :
    tagsNamed names tokens = tagsOf names (signs tokens) :=
  (tagsNamed_bare names tokens).symm

theorem tagsNamed_cons_of_ne {names : Text → Bool} {t : Token} (h : t.kind ≠ .tagOpen)
    (tokens : List Token) : tagsNamed names (t :: tokens) = tagsNamed names tokens := by
  rw [tagsNamed, if_neg (by simp [h])]

/-- What stands in front of `w` and can be read without regard to it. -/
structure Apart (names : Text → Bool) (m : Mode) (v w : List Token) : Prop where
  tags : tagsNamed names (v ++ w) = tagsNamed names v ++ tagsNamed names w
  attributes : m.inTag = true → ∀ (attributes : Attributes) (pending : Option Text),
    (Attributes.readFrom attributes pending (v ++ w)).1 =
        (Attributes.readFrom attributes pending v).1 ∧
      tagsNamed names (Attributes.readFrom attributes pending (v ++ w)).2 =
        tagsNamed names (Attributes.readFrom attributes pending v).2 ++ tagsNamed names w

/-- One more token of the tag goes in front. -/
theorem Apart.cons {names : Text → Bool} {m m' : Mode} {t : Token} {v w : List Token}
    (h : Apart names m' v w) (ht : t.kind ≠ .tagOpen)
    (hend : t.kind.endsTag = true ∨ m'.inTag = true) : Apart names m (t :: v) w where
  tags := by rw [List.cons_append, tagsNamed_cons_of_ne ht, tagsNamed_cons_of_ne ht, h.tags]
  attributes _ attributes pending := by
    rw [List.cons_append]
    simp only [Attributes.readFrom]
    split
    · exact ⟨rfl, h.tags⟩
    · next hne =>
      have hin : m'.inTag = true := hend.resolve_left hne
      split
      · split <;> exact h.attributes hin _ _
      · split
        · cases pending <;> exact h.attributes hin _ _
        · exact h.attributes hin _ _

/-- **What has been read up to a place between tags has its own tags.** The induction is on the
reading; inside a tag it also carries the attributes, which end with the tag. -/
theorem Reads.apart (names : Text → Bool) {m m' : Mode} {s s' : Text} {v : List Sign}
    (h : Reads m s v m' s') (w : List Sign) :
    m' = .text → Apart names m (v.map Sign.token) (w.map Sign.token) := by
  induction h with
  | done m s =>
    rintro rfl
    exact ⟨by simp [tagsNamed], fun h => by simp [Mode.inTag] at h⟩
  | @step m m' s found rest s' rule v hf _ ih =>
    intro htext
    have ih := ih htext
    cases hk : rule.kind.isFiller with
    | true =>
      obtain ⟨hend, -, -, hopen⟩ := Kind.not_tag_of_isFiller hk
      simp only [Sign.ofPiece, hk, if_true, List.nil_append]
      refine ⟨ih.tags, fun hin => ih.attributes ?_⟩
      rcases Mode.rule_cases (Mode.mem_rules_of_firstMatch? hf) with ⟨h, -⟩ | ⟨-, -, h | h⟩
      · rw [h] at hin; cases hin
      · rw [hend] at h; cases h.1
      · exact h.2
    | false =>
      simp only [Sign.ofPiece, hk, Bool.false_eq_true, if_false, List.cons_append, List.nil_append,
        List.map_cons]
      rcases Mode.rule_cases (Mode.mem_rules_of_firstMatch? hf) with
        ⟨hin, ⟨hopen, hnext⟩ | ⟨hopen, -⟩⟩ | ⟨hin, hopen, hend⟩
      · refine ⟨?_, fun h => by rw [hin] at h; cases h⟩
        rw [List.cons_append, tagsNamed, tagsNamed]
        split
        -- an opening tag takes its attributes out of what follows, which the induction has told
        -- apart as well
        · obtain ⟨hattributes, htags⟩ := ih.attributes hnext [] none
          rw [List.cons_append, Attributes.read, Attributes.read, hattributes, htags]
        · exact ih.tags
      · refine ⟨?_, fun h => by rw [hin] at h; cases h⟩
        rw [List.cons_append, tagsNamed_cons_of_ne hopen, tagsNamed_cons_of_ne hopen, ih.tags]
      · exact ih.cons hopen (hend.imp And.left And.right)

theorem tagsOf_append (names : Text → Bool) {s s' : Text} {v : List Sign}
    (h : Reads .text s v .text s') (w : List Sign) :
    tagsOf names (v ++ w) = tagsOf names v ++ tagsOf names w := by
  rw [tagsOf, List.map_append, (h.apart names w rfl).tags]
  rfl

end Markup
end SiteOptimizer
