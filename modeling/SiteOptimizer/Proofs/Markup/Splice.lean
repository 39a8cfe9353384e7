import SiteOptimizer.Markup.Insertion
import SiteOptimizer.Proofs.Markup.Gap

/-!
# Where inserted lines end up

`Markup.inject` finds the offsets of closing tags in one pass and corrects each by the length of
what has been inserted before it. `Woven` says what comes out without any offsets: the document
cut in front of its closing tags, with one block at each cut. `woven_inject` proves that the
corrected offsets are those cuts.
-/

namespace SiteOptimizer
namespace Markup

variable {frag : Text → Option Text} {newline : Text} {m : Mode} {s : Text}

/-! ## The tokens of a document -/

/-- A token is a piece that a rule has taken. -/
structure Token.Taken (t : Token) where
  mode : Mode
  before : Text
  rule : Rule
  piece : Text
  after : Text
  offset : Nat
  taken : firstMatch? mode.rules before = some (rule, piece, after)
  eq : t = Token.ofPiece rule.kind piece offset

theorem Lexer.next_some {l l' : Lexer} {t : Token} (h : l.next = some (t, l')) :
    ∃ rule found rest, firstMatch? l.mode.rules l.rest = some (rule, found, rest) ∧
      t = Token.ofPiece rule.kind found l.offset ∧
      l' = ⟨rest, l.offset + found.length, rule.next⟩ := by
  unfold Lexer.next at h
  split at h
  · cases h
  · next rule found rest heq =>
    cases h
    exact ⟨rule, found, rest, heq, rfl, rfl⟩

/-- To prove something of a lexer it is enough to prove it at the end and one token before. -/
theorem Lexer.induct {P : Lexer → Prop} (done : ∀ l : Lexer, l.next = none → P l)
    (step : ∀ (l : Lexer) (rule : Rule) (found rest : Text),
      firstMatch? l.mode.rules l.rest = some (rule, found, rest) →
      P ⟨rest, l.offset + found.length, rule.next⟩ → P l) (l : Lexer) : P l := by
  induction hn : l.rest.length using Nat.strongRecOn generalizing l with
  | _ n ih =>
    cases hnext : l.next with
    | none => exact done l hnext
    | some p =>
      obtain ⟨t, l'⟩ := p
      have hlt := length_lt_of_next hnext
      obtain ⟨rule, found, rest, hf, -, rfl⟩ := Lexer.next_some hnext
      exact step l rule found rest hf (ih _ (hn ▸ hlt) _ rfl)

theorem Lexer.taken_of_mem (l : Lexer) : ∀ t ∈ l.tokens, Nonempty t.Taken := by
  induction l using Lexer.induct with
  | done l h => rw [Lexer.tokens_of_none h]; simp
  | step l rule found rest hf ih =>
    rw [Lexer.tokens_of_some (Lexer.next_eq l hf)]
    intro t ht
    rcases List.mem_cons.1 ht with rfl | ht
    · exact ⟨⟨l.mode, l.rest, rule, found, rest, l.offset, hf, rfl⟩⟩
    · exact ih t ht

/-- The rule of closing tags. -/
def closeRule : Rule :=
  ⟨.tagClose, .inOrder (.word ['<', '/'] :: tagName ++ [.run Text.isBlank, .word ['>']]), .text⟩

theorem eq_closeRule {m : Mode} {rule : Rule} (hr : rule ∈ m.rules) (hk : rule.kind = .tagClose) :
    m = .text ∧ rule = closeRule := by
  revert rule
  rcases m with _ | _ | (_ | _) | _ <;> simp [Mode.rules, textRules, tagRules, closeRule]

/-- The texts that end a line. -/
def IsNewline (s : Text) : Prop :=
  s = ['\n'] ∨ s = ['\r'] ∨ s = ['\r', '\n']

/-- What a rule takes as an indent is one. -/
theorem indent_of_mem_rules {m : Mode} {rule : Rule} (hr : rule ∈ m.rules)
    (hk : rule.kind = .indent) :
    rule.pattern = .someOf Text.isIndent := by
  revert rule
  rcases m with _ | _ | (_ | _) | _ <;> simp [Mode.rules, textRules, tagRules]

/-- What a rule takes as the end of a line is one. -/
theorem newline_of_mem_rules {m : Mode} {rule : Rule} (hr : rule ∈ m.rules)
    (hk : rule.kind = .newline) :
    rule.pattern = .orElse (.word ['\r', '\n']) (.one fun c => c = '\r' || c = '\n') := by
  revert rule
  rcases m with _ | _ | (_ | _) | _ <;> simp [Mode.rules, textRules, tagRules]

theorem isIndent_of_split? {s found rest : Text}
    (h : (Text.Pattern.someOf Text.isIndent).split? s = some (found, rest)) :
    ∀ c ∈ found, Text.isIndent c = true := by
  rw [Pattern.split?_someOf] at h
  split at h
  · cases h
  · cases h
    exact List.all_eq_true.1 List.all_takeWhile

theorem isNewline_of_split? {s found rest : Text}
    (h : (Text.Pattern.orElse (.word ['\r', '\n']) (.one fun c => c = '\r' || c = '\n')).split? s =
      some (found, rest)) : IsNewline found := by
  rw [Pattern.split?_orElse] at h
  split at h
  · next hw =>
    cases h
    exact .inr (.inr (Pattern.eq_of_split?_word hw))
  · cases s with
    | nil => cases h
    | cons c s =>
      rw [Pattern.split?_one] at h
      split at h
      · next hc =>
        cases h
        simp only [Bool.or_eq_true, decide_eq_true_eq] at hc
        rcases hc with rfl | rfl
        · exact .inr (.inl rfl)
        · exact .inl rfl
      · cases h

/-- A token that is the end of a line has the text of one, and an indent the value of one. -/
theorem Token.Taken.isNewline {t : Token} (h : t.Taken)
    (hk : t.kind = .newline) : IsNewline t.text := by
  obtain ⟨m, s, rule, found, rest, o, hf, rfl⟩ := h
  have hp := newline_of_mem_rules (Mode.mem_rules_of_firstMatch? hf) hk
  have hs := split?_of_firstMatch? hf
  rw [hp] at hs
  exact isNewline_of_split? hs

theorem Token.Taken.value_eq {t : Token} (h : t.Taken)
    (hk : t.kind = .indent) : t.value = t.text := by
  obtain ⟨m, s, rule, found, rest, o, hf, rfl⟩ := h
  have hk : rule.kind = .indent := hk
  simp [Token.ofPiece, hk, Kind.normalize]

theorem Token.Taken.isIndent {t : Token} (h : t.Taken) (hk : t.kind = .indent) :
    ∀ c ∈ t.value, Text.isIndent c = true := by
  rw [h.value_eq hk]
  obtain ⟨m, s, rule, found, rest, o, hf, rfl⟩ := h
  have hp := indent_of_mem_rules (Mode.mem_rules_of_firstMatch? hf) hk
  have hs := split?_of_firstMatch? hf
  rw [hp] at hs
  exact isIndent_of_split? hs

/-! ## The pass over the tokens -/

/-- What goes in front of a token. -/
def closing (frag : Text → Option Text) (kind : Kind) (value : Text) : Option Text :=
  if kind = .tagClose then frag value else none

theorem closing_eq_some_iff {frag : Text → Option Text} {kind : Kind} {value fragment : Text} :
    closing frag kind value = some fragment ↔ kind = .tagClose ∧ frag value = some fragment :=
  Option.ite_none_right_eq_some

namespace Survey

/-- What a pass has kept is what the tokens say. -/
structure Sound (s : Survey) : Prop where
  indent : ∀ c ∈ s.indent, Text.isIndent c = true
  newline : ∀ n, s.newline = some n → IsNewline n

theorem Sound.step (document : Text) (frag : Text → Option Text) {s : Survey} (hs : s.Sound)
    {t : Token} (ht : t.Taken) : (s.step document frag t).Sound := by
  unfold Survey.step
  split
  · next hk => exact ⟨ht.isIndent hk, hs.newline⟩
  · next hk =>
    refine ⟨hs.indent, fun n hn => ?_⟩
    dsimp only at hn
    cases hnl : s.newline with
    | none => rw [hnl] at hn; cases hn; exact ht.isNewline hk
    | some n' => rw [hnl] at hn; cases hn; exact hs.newline n hnl
  · split
    · exact ⟨hs.indent, hs.newline⟩
    · exact ⟨hs.indent, hs.newline⟩
  · exact ⟨hs.indent, hs.newline⟩

theorem Sound.foldl (document : Text) (frag : Text → Option Text) {tokens : List Token}
    (ht : ∀ t ∈ tokens, Nonempty t.Taken) {s : Survey} (hs : s.Sound) :
    (tokens.foldl (Survey.step document frag) s).Sound := by
  induction tokens generalizing s with
  | nil => exact hs
  | cons t tokens ih =>
    obtain ⟨taken⟩ := ht t (by simp)
    exact ih (fun t h => ht t (by simp [h])) (hs.step document frag taken)

/-- A token adds to the plan just what goes in front of it. -/
theorem plan_step (document : Text) (frag : Text → Option Text) (s : Survey) (t : Token) :
    (closing frag t.kind t.value = none ∧ (s.step document frag t).plan = s.plan) ∨
      ∃ i : Insertion, closing frag t.kind t.value = some i.fragment ∧ i.offset = t.offset ∧
        i.indent = s.indent ∧ (s.step document frag t).plan = s.plan ++ [i] := by
  unfold Survey.step closing
  cases hk : t.kind
  case tagClose =>
    dsimp only
    cases hf : frag t.value with
    | none => exact .inl ⟨if_pos rfl ▸ rfl, rfl⟩
    | some f => exact .inr ⟨⟨t.offset, f, s.indent, _⟩, by simp, rfl, rfl, rfl⟩
  all_goals exact .inl ⟨by simp, rfl⟩

end Survey

/-! ## Cutting and putting together -/

/-- The second text is the first one with blocks of lines in front of its closing tags, where both
are read from this mode on. -/
inductive Woven (frag : Text → Option Text) (newline : Text) : Mode → Text → Text → Prop where
  /-- No more lines go in. -/
  | rest {m : Mode} {x : Text} :
      (∀ sign ∈ signsFrom m x, closing frag sign.kind sign.value = none) →
      Woven frag newline m x x
  /-- Lines go in front of the next closing tag that wants them. -/
  | insert {m : Mode} {s close x y : Text} {v : List Sign} {i : Insertion} :
      Reads m (s ++ (close ++ x)) v .text (close ++ x) →
      (∀ sign ∈ v, closing frag sign.kind sign.value = none) →
      firstMatch? textRules (close ++ x) = some (closeRule, close, x) →
      frag (Kind.tagClose.normalize close) = some i.fragment →
      (∀ c ∈ i.indent, Text.isIndent c = true) → Woven frag newline .text x y →
      Woven frag newline m (s ++ (close ++ x)) (s ++ (i.block newline ++ (close ++ y)))

/-- Nothing goes in front of a piece that is no closing tag. -/
theorem Woven.cons {rule : Rule} {found x y : Text}
    (hf : firstMatch? m.rules (found ++ x) = some (rule, found, x))
    (hn : ∀ sign ∈ Sign.ofPiece rule.kind found, closing frag sign.kind sign.value = none)
    (h : Woven frag newline rule.next x y) : Woven frag newline m (found ++ x) (found ++ y) := by
  have hsigns : ∀ v : List Sign, (∀ sign ∈ v, closing frag sign.kind sign.value = none) →
      ∀ sign ∈ Sign.ofPiece rule.kind found ++ v, closing frag sign.kind sign.value = none := by
    intro v hv sign hs
    rcases List.mem_append.1 hs with hs | hs
    · exact hn sign hs
    · exact hv sign hs
  cases h with
  | rest hx =>
    refine .rest ?_
    rw [signsFrom_step hf]
    exact hsigns _ hx
  | @insert _ s close x y v i hr hv hc hfrag hi hw =>
    have h := Woven.insert (s := found ++ s) (by rw [List.append_assoc]; exact .step hf hr)
      (hsigns v hv) hc hfrag hi hw
    rw [List.append_assoc, List.append_assoc] at h
    exact h

/-- Putting in at an offset that counts what has been put in before. -/
theorem insertAt_append (pre rest block : Text) {offset : Int} (h : (pre.length : Int) = offset) :
    insertAt (pre ++ rest) block offset = pre ++ block ++ rest := by
  have h0 : ¬ offset < 0 := by omega
  have hn : offset.toNat = pre.length := by omega
  simp only [insertAt, if_neg h0, hn]
  simp

/-- What the pass finds from some place on, and what comes out when that is put in. -/
theorem woven_foldl (document : Text) (frag : Text → Option Text) (newline : Text) (l : Lexer)
    (survey : Survey) (hs : survey.Sound) :
    ∃ plan y, (l.tokens.foldl (Survey.step document frag) survey).plan = survey.plan ++ plan ∧
      Woven frag newline l.mode l.rest y ∧
      ∀ (pre : Text) (shift : Int), (pre.length : Int) = l.offset + shift →
        insertAll (pre ++ l.rest) shift (plan.map fun i => (i.offset, i.block newline)) =
          pre ++ y := by
  induction l using Lexer.induct generalizing survey with
  | done l h =>
    have ht := Lexer.tokens_of_none h
    refine ⟨[], l.rest, by simp [ht], .rest ?_, fun pre shift _ => rfl⟩
    have hsigns : signsFrom l.mode l.rest = [] := by
      rw [← signs_tokens l.mode l.rest l.offset]
      exact congrArg signs ht
    simp [hsigns]
  | step l rule found rest hf ih =>
    have happ := (append_of_firstMatch? hf).2
    have htaken : Token.Taken (Token.ofPiece rule.kind found l.offset) :=
      ⟨l.mode, l.rest, rule, found, rest, l.offset, hf, rfl⟩
    obtain ⟨plan, y, hplan, hw, hins⟩ := ih _ (hs.step document frag htaken)
    rw [Lexer.tokens_of_some (Lexer.next_eq l hf), List.foldl_cons]
    dsimp only at hplan hw hins
    rw [hplan]
    have hlen : ∀ (pre : Text) (shift : Int), (pre.length : Int) = l.offset + shift →
        ((pre ++ found).length : Int) = (l.offset + found.length : Nat) + shift := by
      intro pre shift h
      rw [List.length_append, Int.natCast_add, Int.natCast_add]
      omega
    rcases Survey.plan_step document frag survey (Token.ofPiece rule.kind found l.offset) with
      ⟨hnone, hp⟩ | ⟨i, hsome, hoff, hind, hp⟩
    -- a piece in front of which nothing goes is passed over
    · refine ⟨plan, found ++ y, by rw [hp], ?_, fun pre shift h => ?_⟩
      · rw [← happ]
        refine Woven.cons (by rw [happ]; exact hf) ?_ hw
        intro sign hsign
        unfold Sign.ofPiece at hsign
        split at hsign
        · cases hsign
        · rw [List.mem_singleton.1 hsign]
          exact hnone
      · rw [← happ, ← List.append_assoc, ← List.append_assoc]
        exact hins _ _ (hlen pre shift h)
    -- a block goes in front of the piece, and all that comes later is shifted by its length
    · obtain ⟨hk, hvalue⟩ := closing_eq_some_iff.1 hsome
      obtain ⟨hm, hrule⟩ := eq_closeRule (Mode.mem_rules_of_firstMatch? hf) hk
      subst hrule
      refine ⟨i :: plan, i.block newline ++ (found ++ y), by rw [hp, List.append_assoc]; rfl, ?_,
        fun pre shift h => ?_⟩
      · rw [hm, ← happ]
        refine Woven.insert (s := []) (.done _ _) (by simp) ?_ ?_ ?_ hw
        · rw [happ, ← hf, hm]; rfl
        · exact hvalue
        · rw [hind]
          exact hs.indent
      · have hoff' : (pre.length : Int) = i.offset + shift := by
          rw [hoff]
          exact h
        rw [List.map_cons, insertAll, insertAt_append _ _ _ hoff', ← happ]
        have := hins (pre ++ i.block newline ++ found) (shift + (i.block newline).length) (by
          simp only [List.length_append, Int.natCast_add]
          omega)
        simpa [List.append_assoc] using this

/-- **What is injected comes in front of the closing tags that want it, and nowhere else.** -/
theorem woven_inject (document headEnd bodyEnd : Text) :
    ∃ newline, IsNewline newline ∧
      Woven (fragmentFor headEnd bodyEnd) newline .text document
        (inject document headEnd bodyEnd) := by
  have hstart : Survey.Sound ⟨[], none, none, []⟩ := ⟨by simp, by simp⟩
  have hsound := hstart.foldl document (fragmentFor headEnd bodyEnd)
    (Lexer.ofText document).taken_of_mem
  refine ⟨(survey document (fragmentFor headEnd bodyEnd)).newline.getD ['\n'], ?_, ?_⟩
  · cases hn : (survey document (fragmentFor headEnd bodyEnd)).newline with
    | none => exact .inl rfl
    | some n => exact hsound.newline n hn
  · obtain ⟨plan, y, hplan, hw, hins⟩ := woven_foldl document (fragmentFor headEnd bodyEnd)
      ((survey document (fragmentFor headEnd bodyEnd)).newline.getD ['\n'])
        (Lexer.ofText document) _ hstart
    have h := hins [] 0 (by simp [Lexer.ofText])
    have hp : (survey document (fragmentFor headEnd bodyEnd)).plan = plan := hplan
    rw [inject, hp]
    rw [List.nil_append, List.nil_append] at h
    rw [show insertAll document 0 _ = y from h]
    exact hw

end Markup
end SiteOptimizer
