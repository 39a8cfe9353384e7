import SiteOptimizer.Proofs.Markup.Reading

/-!
# Places where lines go in

Lines of markup go in front of closing tags. The lexer tries many patterns that look ahead, so what
is inserted might change how the text before it is read.

What goes in starts with a pad of blanks and tabs and goes on with a tag or a comment, and the
closing tag starts with the same character. A pattern that reaches the place therefore either stops
there in both texts, or it runs over the pad and stops behind it. `Alike` relates what is left in
these two cases, and `Steady` says that a pattern keeps it, which all patterns do that are built
from runs and words without this character.
-/

namespace SiteOptimizer
namespace Markup

open Text (Pattern)

namespace Pattern

theorem split?_run (p : Char → Bool) (s : Text) :
    (Pattern.run p).split? s = some (s.takeWhile p, s.dropWhile p) := rfl

theorem split?_word (w s : Text) : (Pattern.word w).split? s = (Text.after? w s).map (w, ·) := rfl

theorem eq_of_split?_word {w s found rest : Text}
    (h : (Pattern.word w).split? s = some (found, rest)) :
    found = w := by
  rw [split?_word] at h
  obtain ⟨behind, -, heq⟩ := Option.map_eq_some_iff.1 h
  cases heq
  rfl

theorem split?_one (p : Char → Bool) (c : Char) (s : Text) :
    (Pattern.one p).split? (c :: s) = if p c then some ([c], s) else none := rfl

theorem split?_followedBy (p q : Pattern) (s : Text) :
    (p.followedBy q).split? s =
      match p.split? s with
      | none => none
      | some (a, s) => (q.split? s).map fun (b, rest) => (a ++ b, rest) := rfl

theorem split?_orElse (p q : Pattern) (s : Text) :
    (p.orElse q).split? s =
      match p.split? s with
      | some parts => some parts
      | none => q.split? s := rfl

theorem split?_someOf (p : Char → Bool) (s : Text) :
    (Pattern.someOf p).split? s =
      if s.takeWhile p = [] then none else some (s.takeWhile p, s.dropWhile p) := by
  cases s with
  | nil => rfl
  | cons c s =>
    rw [Pattern.someOf, Pattern.split?_followedBy, Pattern.split?_one]
    cases hc : p c <;> simp [hc, Pattern.split?_run]

end Pattern

theorem take?_eq_some {rule r : Rule} {s found rest : Text}
    (h : rule.take? s = some (r, found, rest)) :
    r = rule ∧ rule.pattern.split? s = some (found, rest) := by
  unfold Rule.take? at h
  split at h
  · next hs =>
    cases h
    exact ⟨rfl, hs⟩
  · cases h

theorem split?_of_firstMatch? {rules : List Rule} {rule : Rule} {s found rest : Text}
    (h : firstMatch? rules s = some (rule, found, rest)) :
    rule.pattern.split? s = some (found, rest) := by
  obtain ⟨r, -, htake⟩ := List.exists_of_findSome?_eq_some h
  obtain ⟨rfl, hsplit⟩ := take?_eq_some htake
  exact hsplit

/-- A place where something goes in. -/
structure Gap where
  /-- The blanks and tabs that come first. -/
  pad : Text
  /-- What stands at the place before the insertion. -/
  old : Text
  /-- What stands behind the pad after the insertion. -/
  new : Text
  pad_ne : pad ≠ []
  pad_indent : ∀ c ∈ pad, Text.isIndent c = true
  old_head : old.head? = some '<'
  new_head : new.head? = some '<'

namespace Gap

variable (g : Gap)

/-- All that stands at the place after the insertion. -/
def inserted : Text :=
  g.pad ++ g.new

theorem old_eq : ∃ t, g.old = '<' :: t := by
  have h := g.old_head
  cases hold : g.old with
  | nil => rw [hold] at h; cases h
  | cons c t => rw [hold] at h; cases h; exact ⟨t, rfl⟩

theorem new_eq : ∃ t, g.new = '<' :: t := by
  have h := g.new_head
  cases hnew : g.new with
  | nil => rw [hnew] at h; cases h
  | cons c t => rw [hnew] at h; cases h; exact ⟨t, rfl⟩

theorem inserted_eq : ∃ c t, g.inserted = c :: t ∧ Text.isIndent c = true := by
  cases hpad : g.pad with
  | nil => exact absurd hpad g.pad_ne
  | cons c t => exact ⟨c, t ++ g.new, by simp [inserted, hpad], g.pad_indent c (by simp [hpad])⟩

/-- What is left of a document without the insertion, and what is left with it: both before the
place, or one at it and the other behind the pad. -/
inductive Alike : Text → Text → Prop where
  | before (s : Text) : Alike (s ++ g.old) (s ++ g.inserted)
  | behind : Alike g.old g.new

/-- What a pattern makes of the two texts: the same piece, or different pieces
where it has run over the pad. -/
inductive Outcome : Option (Text × Text) → Option (Text × Text) → Prop where
  | neither : Outcome none none
  | same (found s : Text) : Outcome (some (found, s ++ g.old)) (some (found, s ++ g.inserted))
  | stretched (found found' : Text) : Outcome (some (found, g.old)) (some (found', g.new))

/-- A pattern makes the same of both texts. -/
def Steady (p : Pattern) (x y : Text) : Prop :=
  g.Outcome (p.split? x) (p.split? y)

variable {g}

/-! ## Classes of characters that stop at the place -/

/-- A class that stops at a tag, and that takes all of the pad or nothing of it. -/
structure Stops (g : Gap) (p : Char → Bool) : Prop where
  tag : p '<' = false
  pad : (∀ c, Text.isIndent c = true → p c = true) ∨ (∀ c, Text.isIndent c = true → p c = false)

theorem takeWhile_of_head {p : Char → Bool} {s : Text} {c : Char} (h : s.head? = some c)
    (hp : p c = false) : s.takeWhile p = [] ∧ s.dropWhile p = s := by
  cases s with
  | nil => cases h
  | cons d s => cases h; simp [hp]

theorem takeWhile_append_of_stop {p : Char → Bool} {s : Text}
    (h : ∃ c ∈ s, p c = false) (x : Text) :
    (s ++ x).takeWhile p = s.takeWhile p ∧ (s ++ x).dropWhile p = s.dropWhile p ++ x := by
  induction s with
  | nil => simp at h
  | cons c s ih =>
    cases hc : p c with
    | false => simp [hc]
    | true =>
      obtain ⟨d, hd, hpd⟩ := h
      have hds : d ∈ s := by
        rcases List.mem_cons.1 hd with rfl | hd
        · rw [hpd] at hc; cases hc
        · exact hd
      obtain ⟨h1, h2⟩ := ih ⟨d, hds, hpd⟩
      simp [hc, h1, h2]

theorem all_or_stop (p : Char → Bool) (s : Text) :
    (∀ c ∈ s, p c = true) ∨ ∃ c ∈ s, p c = false := by
  by_cases h : ∃ c ∈ s, p c = false
  · exact .inr h
  · refine .inl fun c hc => ?_
    cases hp : p c with
    | true => rfl
    | false => exact absurd ⟨c, hc, hp⟩ h

theorem steady_run {p : Char → Bool} (hp : g.Stops p) {x y : Text} (h : g.Alike x y) :
    g.Steady (Pattern.run p) x y := by
  obtain ⟨ho1, ho2⟩ := takeWhile_of_head g.old_head hp.tag
  obtain ⟨hn1, hn2⟩ := takeWhile_of_head g.new_head hp.tag
  unfold Steady
  rw [Pattern.split?_run, Pattern.split?_run]
  cases h with
  | behind => rw [ho1, ho2, hn1, hn2]; exact .stretched _ _
  | before s =>
    -- a run that does not stop in front of the place takes the pad along, or stops at it
    rcases all_or_stop p s with hall | hstop
    · rw [List.takeWhile_append_of_pos hall, List.dropWhile_append_of_pos hall,
        List.takeWhile_append_of_pos hall, List.dropWhile_append_of_pos hall, ho1, ho2]
      rcases hp.pad with hin | hout
      · have hpad : ∀ c ∈ g.pad, p c = true := fun c hc => hin c (g.pad_indent c hc)
        rw [inserted, List.dropWhile_append_of_pos hpad, hn2]
        exact .stretched _ _
      · obtain ⟨c, t, hins, hc⟩ := g.inserted_eq
        have hhead : g.inserted.head? = some c := by rw [hins]; rfl
        obtain ⟨hi1, hi2⟩ := takeWhile_of_head hhead (hout c hc)
        rw [hi1, hi2]
        exact .same _ []
    · rw [(takeWhile_append_of_stop hstop _).1, (takeWhile_append_of_stop hstop _).2,
        (takeWhile_append_of_stop hstop _).1, (takeWhile_append_of_stop hstop _).2]
      exact .same _ _

/-- A single character of a class that takes neither a tag nor the pad. -/
theorem steady_one {p : Char → Bool} (htag : p '<' = false)
    (hpad : ∀ c, Text.isIndent c = true → p c = false) {x y : Text} (h : g.Alike x y) :
    g.Steady (Pattern.one p) x y := by
  obtain ⟨o, ho⟩ := g.old_eq
  obtain ⟨n, hn⟩ := g.new_eq
  obtain ⟨c, i, hi, hc⟩ := g.inserted_eq
  unfold Steady Pattern.one
  cases h with
  | behind => rw [ho, hn]; simp only [htag]; exact .neither
  | before s =>
    cases s with
    | nil =>
      rw [List.nil_append, List.nil_append, ho, hi]
      simp only [htag, hpad c hc]
      exact .neither
    | cons d s =>
      simp only [List.cons_append]
      split
      · exact .same _ _
      · exact .neither

/-- A single character that stands before the place. -/
theorem steady_one_before (p : Char → Bool) (c : Char) (s : Text) :
    g.Steady (Pattern.one p) (c :: s ++ g.old) (c :: s ++ g.inserted) := by
  unfold Steady Pattern.one
  simp only [List.cons_append]
  split
  · exact .same _ _
  · exact .neither

/-! ## Words -/

/-- No character of a word starts a tag or belongs to a pad. -/
def Solid (w : Text) : Prop :=
  ∀ c ∈ w, c ≠ '<' ∧ Text.isIndent c = false

/-- A solid word is found neither at a tag nor at a pad. -/
theorem after?_eq_none_of_solid {w : Text} (hne : w ≠ []) (hw : Solid w) {c : Char} (s : Text)
    (hc : c = '<' ∨ Text.isIndent c = true) : Text.after? w (c :: s) = none := by
  cases w with
  | nil => exact absurd rfl hne
  | cons a w =>
    have hne : a ≠ c := by
      rintro rfl
      obtain ⟨h1, h2⟩ := hw a (by simp)
      rcases hc with hc | hc
      · exact h1 hc
      · rw [h2] at hc; cases hc
    simp [Text.after?, hne]

/-- Both texts start with a solid word or neither does. -/
theorem outcome_after? {w : Text} (hne : w ≠ []) (hw : Solid w) (found : Text) {x y : Text}
    (h : g.Alike x y) :
    g.Outcome ((Text.after? w x).map (found, ·)) ((Text.after? w y).map (found, ·)) := by
  obtain ⟨o, ho⟩ := g.old_eq
  obtain ⟨n, hn⟩ := g.new_eq
  obtain ⟨c, i, hi, hc⟩ := g.inserted_eq
  cases h with
  | behind =>
    rw [ho, hn, after?_eq_none_of_solid hne hw _ (.inl rfl),
      after?_eq_none_of_solid hne hw _ (.inl rfl)]
    exact .neither
  | before s =>
    -- the word is read off both texts at once; it ends in front of the gap or runs into it and
    -- fails on both sides
    induction s generalizing w with
    | nil =>
      rw [List.nil_append, List.nil_append, ho, hi, after?_eq_none_of_solid hne hw _ (.inl rfl),
        after?_eq_none_of_solid hne hw _ (.inr hc)]
      exact .neither
    | cons d s ih =>
      cases w with
      | nil => exact absurd rfl hne
      | cons a w =>
        simp only [List.cons_append, Text.after?]
        split
        · cases w with
          | nil => exact .same _ s
          | cons b w => exact ih (by simp) fun e he => hw e (by simp [List.mem_cons.1 he])
        · exact .neither

theorem steady_word {w : Text} (hne : w ≠ []) (hw : Solid w) {x y : Text} (h : g.Alike x y) :
    g.Steady (Pattern.word w) x y :=
  outcome_after? hne hw w h

/-! ## Patterns put together -/

theorem steady_nothing {x y : Text} (h : g.Alike x y) : g.Steady Pattern.nothing x y := by
  cases h with
  | before s => exact .same [] s
  | behind => exact .stretched [] []

/-- Behind the pad a pattern cannot come back in front of it. -/
theorem outcome_behind {q : Pattern} (h : g.Steady q g.old g.new) :
    (q.split? g.old = none ∧ q.split? g.new = none) ∨
      ∃ found found', q.split? g.old = some (found, g.old) ∧
        q.split? g.new = some (found', g.new) := by
  unfold Steady at h
  cases ho : q.split? g.old with
  | none =>
    cases hn : q.split? g.new with
    | none => exact .inl ⟨rfl, rfl⟩
    | some b => rw [ho, hn] at h; cases h
  | some a =>
    rw [ho] at h
    generalize hn : q.split? g.new = b at h
    cases h with
    | stretched found found' => exact .inr ⟨_, _, rfl, rfl⟩
    | same found s =>
      have hlo := congrArg List.length (q.append_eq ho)
      have hln := congrArg List.length (q.append_eq hn)
      have hpad := List.length_pos_iff.2 g.pad_ne
      simp only [inserted, List.length_append] at hlo hln
      omega

theorem steady_followedBy {p q : Pattern} {x y : Text} (hp : g.Steady p x y)
    (hq : ∀ x' y', g.Alike x' y' → g.Steady q x' y') : g.Steady (p.followedBy q) x y := by
  unfold Steady at hp ⊢
  rw [Pattern.split?_followedBy, Pattern.split?_followedBy]
  generalize p.split? x = a at hp
  generalize p.split? y = b at hp
  cases hp with
  | neither => exact .neither
  | same found s =>
    have h := hq _ _ (Alike.before s)
    unfold Steady at h
    dsimp only
    generalize q.split? (s ++ g.old) = a at h
    generalize q.split? (s ++ g.inserted) = b at h
    cases h with
    | neither => exact .neither
    | same found' s' => exact .same _ s'
    | stretched found' found'' => exact .stretched _ _
  -- the first pattern ends at the end of the gap, so the second starts behind it on both sides
  | stretched found found' =>
    dsimp only
    rcases outcome_behind (hq _ _ .behind) with ⟨ho, hn⟩ | ⟨_, _, ho, hn⟩ <;> rw [ho, hn]
    · exact .neither
    · exact .stretched _ _

theorem steady_inOrder {p : Pattern} {ps : List Pattern} {x y : Text} (hp : g.Steady p x y)
    (hps : ∀ q ∈ ps, ∀ x' y', g.Alike x' y' → g.Steady q x' y') :
    g.Steady (Pattern.inOrder (p :: ps)) x y := by
  refine steady_followedBy hp ?_
  clear hp
  induction ps with
  | nil => exact fun x' y' h => steady_nothing h
  | cons q ps ih =>
    intro x' y' h
    exact steady_followedBy (hps q (by simp) x' y' h) (ih fun r hr => hps r (by simp [hr]))

theorem steady_orElse {p q : Pattern} {x y : Text} (hp : g.Steady p x y) (hq : g.Steady q x y) :
    g.Steady (p.orElse q) x y := by
  unfold Steady at hp hq ⊢
  rw [Pattern.split?_orElse, Pattern.split?_orElse]
  generalize p.split? x = a at hp
  generalize p.split? y = b at hp
  cases hp with
  | neither => exact hq
  | same found s => exact .same found s
  | stretched found found' => exact .stretched found found'

/-- A run that starts before the place. -/
theorem steady_someOf {p : Char → Bool} (hp : g.Stops p) (c : Char) (s : Text) :
    g.Steady (Pattern.someOf p) (c :: s ++ g.old) (c :: s ++ g.inserted) :=
  steady_followedBy (steady_one_before p c s) fun _ _ h => steady_run hp h

/-- A word that starts before the place. Only its first character may be that of a tag. -/
theorem steady_word_before {a : Char} {w : Text} (hw : Solid w) (c : Char) (s : Text) :
    g.Steady (Pattern.word (a :: w)) (c :: s ++ g.old) (c :: s ++ g.inserted) := by
  unfold Steady
  rw [Pattern.split?_word, Pattern.split?_word]
  simp only [List.cons_append, Text.after?]
  split
  · cases w with
    | nil => exact .same _ s
    | cons b w => exact outcome_after? (by simp) hw _ (.before s)
  · exact .neither

end Gap

end Markup
end SiteOptimizer
