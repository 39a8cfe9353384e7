import SiteOptimizer.Proofs.Markup.Newlines

/-!
# The tags of a document with other line ends

The tokens of a document and those of the same document with unified line ends are the same but for
line ends in their values. So are its tags (`tagsNamed_unifyNewlines`): names have no line ends, and
a value of an attribute has those that it was written with.
-/

namespace SiteOptimizer
namespace Markup

open Text (Pattern unifyNewlines unifyNewlines_eq_self)

/-! ## Tokens -/

/-- A token and what it is with unified line ends, as far as tags go. -/
structure Token.Unifies (t t' : Token) : Prop where
  kind : t'.kind = t.kind
  name : t.kind = .tagOpen ∨ t.kind = .attrName → t'.value = t.value
  value : t.kind = .attrValue → unquote t'.value = unifyNewlines (unquote t.value)

theorem withoutBlanks_unifyNewlines (s : Text) :
    Text.withoutBlanks (unifyNewlines s) = Text.withoutBlanks s := by
  have hcr : Text.isVisible '\r' = false := by decide
  have hlf : Text.isVisible '\n' = false := by decide
  fun_induction unifyNewlines s with
  | case1 => rfl
  | case2 s ih => simpa [Text.withoutBlanks, hcr, hlf] using ih
  | case3 c s _ ih =>
    by_cases hc : c = '\r'
    · simpa [Text.withoutBlanks, hc, hcr, hlf] using ih
    · have ih : (unifyNewlines s).filter Text.isVisible = s.filter Text.isVisible := ih
      simp [Text.withoutBlanks, hc, List.filter_cons, ih]

theorem normalize_tagOpen_unifyNewlines (s : Text) :
    Kind.tagOpen.normalize (unifyNewlines s) = Kind.tagOpen.normalize s := by
  have hlf : Text.isVisible '\n' = false := by decide
  show Text.lower (Text.withoutBlanks ((unifyNewlines s).drop 1)) =
    Text.lower (Text.withoutBlanks (s.drop 1))
  fun_cases unifyNewlines s with
  | case1 => rfl
  | case2 s =>
    have hdrop : Text.withoutBlanks ('\n' :: s) = Text.withoutBlanks s := by
      simp [Text.withoutBlanks, hlf]
    rw [List.drop_one, List.drop_one, List.tail_cons, List.tail_cons, hdrop,
      withoutBlanks_unifyNewlines]
  | case3 c s hcut =>
    rw [List.drop_one, List.drop_one, List.tail_cons, List.tail_cons, withoutBlanks_unifyNewlines]

theorem not_mem_of_someOf {p : Char → Bool} {s found rest : Text} {c : Char} (hc : p c = false)
    (h : (Pattern.someOf p).split? s = some (found, rest)) : c ∉ found := by
  rw [Pattern.split?_someOf, Option.ite_none_left_eq_some] at h
  obtain ⟨-, hfound⟩ := h
  cases hfound
  intro hmem
  rw [List.all_eq_true.1 List.all_takeWhile c hmem] at hc
  cases hc

/-- What is taken as a quoted value is one. -/
theorem exists_of_quotedValue {q : Char} {s found rest : Text}
    (h : (quotedValue q).split? s = some (found, rest)) :
    ∃ text, q ∉ text ∧ found = q :: text ++ [q] := by
  have hword : ∀ {s a t}, (Pattern.word [q]).split? s = some (a, t) → a = [q] := by
    intro s a t ha
    obtain ⟨_, -, hr⟩ := Option.map_eq_some_iff.1 ha
    cases hr
    rfl
  obtain ⟨a, b, rfl, ha, hb⟩ := Pattern.split?_followedBy_eq_some h
  obtain ⟨text, d, rfl, htext, hd⟩ := Pattern.split?_followedBy_eq_some hb
  obtain ⟨e, f, rfl, he, hf⟩ := Pattern.split?_followedBy_eq_some hd
  have hfree : q ∉ text := by
    rw [Pattern.split?_run] at htext
    injection htext with htext
    injection htext with htake
    intro hmem
    rw [← htake] at hmem
    have hne := List.all_eq_true.1 List.all_takeWhile q hmem
    simp at hne
  -- the pattern ends with an empty sequence, which takes nothing
  have hnil : f = [] := by
    have hf : some (([] : Text), f ++ rest) = some (f, rest) := hf
    cases hf
    rfl
  refine ⟨text, hfree, ?_⟩
  rw [hword ha, hword he, hnil]
  rfl

/-- **What is taken as a value is one.** -/
theorem exists_value {s found rest : Text} (h : attributeValue.split? s = some (found, rest)) :
    ∃ value : Value, found = value.render := by
  rw [attributeValue, Pattern.split?_orElse] at h
  split at h
  · next parts hdouble =>
    cases h
    obtain ⟨text, hfree, rfl⟩ := exists_of_quotedValue hdouble
    exact ⟨.quoted '"' text (.inl rfl) hfree, rfl⟩
  · rw [Pattern.split?_orElse] at h
    split at h
    · next parts hsingle =>
      cases h
      obtain ⟨text, hfree, rfl⟩ := exists_of_quotedValue hsingle
      exact ⟨.quoted '\'' text (.inr rfl) hfree, rfl⟩
    · rw [Pattern.split?_someOf, Option.ite_none_left_eq_some] at h
      obtain ⟨hne, hfound⟩ := h
      cases hfound
      exact ⟨.bare _ hne (List.all_eq_true.1 List.all_takeWhile), rfl⟩

theorem unquote_normalize (value : Value) :
    unquote (Kind.attrValue.normalize value.render) = value.text := by
  rw [value.normalize_render]
  exact unquote_quoted value.text

/-- A value with other line ends is one, with other line ends. -/
theorem unquote_normalize_unifyNewlines (value : Value) :
    unquote (Kind.attrValue.normalize (unifyNewlines value.render)) = unifyNewlines value.text := by
  cases value with
  | bare text ne_nil chars =>
    have hcr : '\r' ∉ text := by
      intro hmem
      have hbare := chars _ hmem
      revert hbare
      decide
    rw [Value.render, unifyNewlines_eq_self hcr]
    exact (unquote_normalize (.bare text ne_nil chars)).trans (unifyNewlines_eq_self hcr).symm
  | quoted quote text isQuote free =>
    have hquote : '\r' ≠ quote ∧ '\n' ≠ quote := by rcases isQuote with rfl | rfl <;> decide
    have hfree : quote ∉ unifyNewlines text := by
      clear * - free hquote
      fun_induction unifyNewlines text with
      | case1 => simp
      | case2 s ih => simp_all [Ne.symm hquote.2]
      | case3 c s _ ih =>
        by_cases hc : c = '\r' <;> simp_all [Ne.symm hquote.2]
    have hrender : unifyNewlines (Value.quoted quote text isQuote free).render =
        (Value.quoted quote (unifyNewlines text) isQuote hfree).render := by
      -- no quote is a line feed, so no line end is split at the quotes
      have hends : ∀ t : Text, Seam t [quote] := by
        intro t _ hhead
        exact hquote.2 (Option.some.inj hhead).symm
      have hone : unifyNewlines [quote] = [quote] := unifyNewlines_eq_self (by simpa using hquote.1)
      show unifyNewlines ([quote] ++ (text ++ [quote])) = _
      rw [unifyNewlines_append (seam_of_not_mem (by simpa using hquote.1) _),
        unifyNewlines_append (hends text), hone]
      rfl
    rw [hrender, unquote_normalize]
    rfl

/-! ### The tokens of a document -/

theorem attrName_of_mem_rules {m : Mode} {rule : Rule} (hr : rule ∈ m.rules)
    (hk : rule.kind = .attrName) :
    rule.pattern = .someOf isAttributeName := by
  revert rule
  rcases m with _ | _ | (_ | _) | _ <;> simp [Mode.rules, textRules, tagRules]

theorem attrValue_of_mem_rules {m : Mode} {rule : Rule} (hr : rule ∈ m.rules)
    (hk : rule.kind = .attrValue) :
    rule.pattern = attributeValue := by
  revert rule
  rcases m with _ | _ | (_ | _) | _ <;> simp [Mode.rules, textRules, tagRules]

theorem unifies_ofPiece {m : Mode} {s found rest : Text} {rule : Rule}
    (hf : firstMatch? m.rules s = some (rule, found, rest)) (offset offset' : Int) :
    Token.Unifies (.ofPiece rule.kind found offset)
      (.ofPiece rule.kind (unifyNewlines found) offset') where
  kind := rfl
  name hk := by
    have hk : rule.kind = .tagOpen ∨ rule.kind = .attrName := hk
    show rule.kind.normalize (unifyNewlines found) = rule.kind.normalize found
    rcases hk with hk | hk
    · rw [hk, normalize_tagOpen_unifyNewlines]
    · have hsplit := split?_of_firstMatch? hf
      rw [attrName_of_mem_rules (Mode.mem_rules_of_firstMatch? hf) hk] at hsplit
      rw [unifyNewlines_eq_self (not_mem_of_someOf (by decide) hsplit)]
  value hk := by
    have hkind : rule.kind = .attrValue := hk
    show unquote (rule.kind.normalize (unifyNewlines found)) =
      unifyNewlines (unquote (rule.kind.normalize found))
    have hsplit := split?_of_firstMatch? hf
    rw [attrValue_of_mem_rules (Mode.mem_rules_of_firstMatch? hf) hkind] at hsplit
    obtain ⟨value, rfl⟩ := exists_value hsplit
    rw [hkind, unquote_normalize_unifyNewlines, unquote_normalize]

/-- **The tokens are the same but for line ends.** The induction is on the tokens; each leaves as
much as it did, with other line ends. -/
theorem tokens_unifyNewlines (l : Lexer) (offset : Nat) :
    List.Forall₂ Token.Unifies l.tokens (Lexer.tokens ⟨unifyNewlines l.rest, offset, l.mode⟩) := by
  induction l using Lexer.induct generalizing offset with
  | done l h =>
    have hnil := (Lexer.next_eq_none_iff l).1 h
    have hnone : Lexer.next ⟨unifyNewlines l.rest, offset, l.mode⟩ = none := by
      rw [Lexer.next_eq_none_iff, hnil]
      rfl
    rw [Lexer.tokens_of_none h, Lexer.tokens_of_none hnone]
    exact .nil
  | step l rule found rest hf ih =>
    obtain ⟨hf', -⟩ := firstMatch?_unifyNewlines hf
    rw [Lexer.tokens_of_some (Lexer.next_eq l hf),
      Lexer.tokens_of_some (Lexer.next_eq ⟨unifyNewlines l.rest, offset, l.mode⟩ hf')]
    exact .cons (unifies_ofPiece hf _ _) (ih _)

/-! ## Tags -/

namespace Attributes

/-- The attributes with unified line ends in their values. -/
def unified (attributes : Attributes) : Attributes :=
  attributes.map fun a => (a.1, a.2.map unifyNewlines)

theorem lookup_unified (attributes : Attributes) (name : Text) :
    attributes.unified.lookup name = (attributes.lookup name).map (·.map unifyNewlines) := by
  induction attributes with
  | nil => rfl
  | cons a attributes ih =>
    have hcons : unified (a :: attributes) = (a.1, a.2.map unifyNewlines) :: unified attributes :=
      rfl
    rw [hcons, List.lookup_cons, List.lookup_cons, ih]
    cases name == a.1 <;> rfl

theorem has_unified (attributes : Attributes) (name : Text) :
    attributes.unified.has name = attributes.has name := by
  rw [has, has, lookup_unified, Option.isSome_map]

theorem value?_unified (attributes : Attributes) (name : Text) :
    attributes.unified.value? name = (attributes.value? name).map unifyNewlines := by
  rw [value?, value?, lookup_unified]
  cases attributes.lookup name <;> rfl

theorem setValue_unified (attributes : Attributes) (name value : Text) :
    attributes.unified.setValue name (unifyNewlines value) =
      (attributes.setValue name value).unified := by
  unfold setValue unified
  rw [List.map_map, List.map_map]
  refine List.map_congr_left fun a _ => ?_
  simp only [Function.comp]
  split <;> rfl

/-- The attributes of a tag are read in step. -/
theorem readFrom_unified {tokens tokens' : List Token}
    (h : List.Forall₂ Token.Unifies tokens tokens') (attributes : Attributes)
    (pending : Option Text) :
    (readFrom attributes.unified pending tokens').1 =
      (readFrom attributes pending tokens).1.unified ∧
      List.Forall₂ Token.Unifies (readFrom attributes pending tokens).2
        (readFrom attributes.unified pending tokens').2 := by
  induction h generalizing attributes pending with
  | nil => exact ⟨rfl, .nil⟩
  | @cons t t' tokens tokens' ht h ih =>
    have hnew : attributes.unified ++ [(t.value, none)] =
        unified (attributes ++ [(t.value, none)]) := by
      simp [unified]
    simp only [readFrom, ht.kind]
    by_cases hend : t.kind.endsTag = true
    · rw [if_pos hend, if_pos hend]
      exact ⟨rfl, h⟩
    · rw [if_neg hend, if_neg hend]
      -- a name that is there already is passed over on both sides, as unifying keeps the names
      by_cases hname : t.kind = .attrName
      · rw [if_pos hname, if_pos hname, ht.name (.inr hname), has_unified, hnew]
        split
        · exact ih attributes none
        · exact ih _ (some t.value)
      · rw [if_neg hname, if_neg hname]
        by_cases hvalue : t.kind = .attrValue
        · rw [if_pos hvalue, if_pos hvalue]
          cases pending with
          | none => exact ih attributes none
          | some name =>
            dsimp only
            rw [ht.value hvalue, setValue_unified]
            exact ih _ none
        · rw [if_neg hvalue, if_neg hvalue]
          exact ih attributes pending

end Attributes

theorem tagsNamed_unified (names : Text → Bool) {tokens tokens' : List Token}
    (h : List.Forall₂ Token.Unifies tokens tokens') :
    tagsNamed names tokens' = (tagsNamed names tokens).map fun tag => (tag.1, tag.2.unified) := by
  fun_induction tagsNamed names tokens generalizing tokens' with
  | case1 =>
    cases h
    simp [tagsNamed]
  | case2 t tokens hopen ih =>
    obtain ⟨t', tokens', ht, hrest, rfl⟩ := List.forall₂_cons_left_iff.1 h
    simp only [Bool.and_eq_true, decide_eq_true_eq] at hopen
    -- the name of a tag has no line end in it, so the same tags count on both sides
    have hvalue := ht.name (.inl hopen.1)
    obtain ⟨hattributes, htokens⟩ := Attributes.readFrom_unified hrest [] none
    rw [tagsNamed, ht.kind, hvalue, if_pos (by simp [hopen]), List.map_cons]
    exact congrArg₂ List.cons (Prod.ext rfl hattributes) (ih htokens)
  | case3 t tokens hopen ih =>
    obtain ⟨t', tokens', ht, hrest, rfl⟩ := List.forall₂_cons_left_iff.1 h
    rw [tagsNamed, ht.kind, if_neg]
    · exact ih hrest
    · intro hopen'
      apply hopen
      simp only [Bool.and_eq_true, decide_eq_true_eq] at hopen' ⊢
      rwa [ht.name (.inl hopen'.1)] at hopen'

/-- **A document has the same tags, with other line ends in their values.** -/
theorem tagsNamed_unifyNewlines (names : Text → Bool) (code : Text) :
    tagsNamed names (tokenize (unifyNewlines code)) =
      (tagsNamed names (tokenize code)).map fun tag => (tag.1, tag.2.unified) :=
  tagsNamed_unified names (tokens_unifyNewlines (Lexer.ofText code) 0)

end Markup
end SiteOptimizer
