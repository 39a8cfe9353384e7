import SiteOptimizer.Proofs.Markup.Nodes

/-!
# Markup with other line ends

A page is read twice, once with line feeds as its only line ends and once as it stands. No
rule of the lexer tells a carriage return from a line feed, and none cuts the two of one
line end apart, so both texts have the same tags, and their values differ in nothing but
line ends (`tagsNamed_unifyNewlines`).
-/

namespace SiteOptimizer
namespace Markup

open Text (Pattern unifyNewlines unifyNewlines_eq_self)

/-! ## Cutting between lines -/

/-- The cut between two texts goes through no line end. -/
def Seam (a b : Text) : Prop :=
  a.getLast? = some '\r' → b.head? ≠ some '\n'

theorem seam_of_not_mem {a : Text} (h : '\r' ∉ a) (b : Text) : Seam a b := by
  intro hlast
  exact absurd (List.mem_of_getLast? hlast) h

theorem seam_singleton {c : Char} (hc : c ≠ '\r') (s : Text) : Seam [c] s :=
  seam_of_not_mem (by simpa using Ne.symm hc) s

/-- The cut that `unifyNewlines` makes behind a character that starts no
line end of two characters. -/
theorem seam_of_cut {c : Char} {s : Text}
    (hcut : ∀ t, c = '\r' → s = '\n' :: t → False) : Seam [c] s := by
  intro hlast hhead
  cases s with
  | nil => cases hhead
  | cons d s =>
    cases hlast
    cases hhead
    exact hcut s rfl rfl

theorem Seam.left {a b c : Text} (h : Seam a (b ++ c)) : Seam a b := by
  intro hlast hhead
  refine h hlast ?_
  rw [List.head?_append, hhead]
  rfl

/-- Two cuts around a piece are one behind it, also if the piece is empty. -/
theorem Seam.append {a b c : Text} (h : Seam a (b ++ c)) (h' : Seam b c) : Seam (a ++ b) c := by
  cases b with
  | nil =>
    rw [List.append_nil]
    exact h
  | cons d b =>
    intro hlast
    rw [List.getLast?_append_of_ne_nil _ (List.cons_ne_nil d b)] at hlast
    exact h' hlast

theorem unifyNewlines_cons {c : Char} {s : Text} (h : Seam [c] s) :
    unifyNewlines (c :: s) = (if c = '\r' then '\n' else c) :: unifyNewlines s := by
  rw [unifyNewlines]
  rintro t rfl rfl
  exact h rfl rfl

theorem unifyNewlines_append {a b : Text} (h : Seam a b) :
    unifyNewlines (a ++ b) = unifyNewlines a ++ unifyNewlines b := by
  fun_induction unifyNewlines a with
  | case1 => rfl
  | case2 a ih =>
    rw [List.cons_append, List.cons_append, unifyNewlines, ih, List.cons_append]
    intro hlast
    apply h
    rw [List.getLast?_cons_cons]
    cases a with
    | nil => cases hlast
    | cons c a => rwa [List.getLast?_cons_cons]
  | case3 c a hcut ih =>
    -- cutting off the first character leaves the last one of `a` as it is, unless `a` was that
    -- character
    have hrest : Seam a b := by
      intro hlast
      apply h
      cases a with
      | nil => cases hlast
      | cons d a => rwa [List.getLast?_cons_cons]
    have hfirst : Seam [c] (a ++ b) := by
      cases a with
      | nil => exact h
      | cons d a =>
        intro hlast hhead
        exact seam_of_cut hcut hlast hhead
    rw [List.cons_append, unifyNewlines_cons hfirst, ih hrest, List.cons_append]

theorem unifyNewlines_eq_nil_iff {s : Text} : unifyNewlines s = [] ↔ s = [] := by
  fun_cases unifyNewlines s <;> simp

/-! ## Patterns that do not tell line ends apart -/

/-- A pattern takes the same of the text with other line ends, and cuts none of them. -/
structure Blind (p : Pattern) (s : Text) : Prop where
  split : p.split? (unifyNewlines s) =
    (p.split? s).map fun (found, rest) => (unifyNewlines found, unifyNewlines rest)
  seam : ∀ {found rest}, p.split? s = some (found, rest) → Seam found rest

namespace Blind

variable {s : Text}

theorem of_none {p : Pattern} (h : p.split? s = none)
    (h' : p.split? (unifyNewlines s) = none) : Blind p s where
  split := by rw [h, h']; rfl
  seam hs := by rw [h] at hs; cases hs

theorem of_some {p : Pattern} (found rest : Text) (h : p.split? s = some (found, rest))
    (hseam : Seam found rest)
    (h' : p.split? (unifyNewlines s) = some (unifyNewlines found, unifyNewlines rest)) :
    Blind p s where
  split := by rw [h, h']; rfl
  seam hs := by
    rw [h] at hs
    cases hs
    exact hseam

theorem seam_run {p : Char → Bool} (hp : p '\r' = p '\n') (s : Text) :
    Seam (s.takeWhile p) (s.dropWhile p) := by
  intro hlast hhead
  have hin : p '\r' = true := List.all_eq_true.1 List.all_takeWhile _ (List.mem_of_getLast? hlast)
  have hout := List.head?_dropWhile_not p s
  rw [hhead] at hout
  have hout : p '\n' = false := hout
  rw [← hp, hin] at hout
  cases hout

theorem run_unifyNewlines {p : Char → Bool} (hp : p '\r' = p '\n') (s : Text) :
    (unifyNewlines s).takeWhile p = unifyNewlines (s.takeWhile p) ∧
      (unifyNewlines s).dropWhile p = unifyNewlines (s.dropWhile p) := by
  fun_induction unifyNewlines s with
  | case1 => exact ⟨rfl, rfl⟩
  | case2 s ih =>
    cases hc : p '\n' with
    | true => simp [hc, hp, ih, unifyNewlines]
    | false => simp [hc, hp, unifyNewlines]
  | case3 c s hcut ih =>
    have hsame : p (if c = '\r' then '\n' else c) = p c := by
      split
      · next h => rw [h, hp]
      · rfl
    cases hc : p c with
    | false => simp [hsame, hc, unifyNewlines_cons (seam_of_cut hcut), unifyNewlines]
    | true =>
      -- the run takes both characters of a line end or none, so it does not end between them
      have hseam : Seam [c] (s.takeWhile p) := by
        have hcut := seam_of_cut hcut
        rw [← List.takeWhile_append_dropWhile (p := p) (l := s)] at hcut
        exact hcut.left
      simp [hsame, hc, unifyNewlines_cons hseam, ih]

theorem run {p : Char → Bool} (hp : p '\r' = p '\n') (s : Text) : Blind (.run p) s := by
  obtain ⟨htake, hdrop⟩ := run_unifyNewlines hp s
  refine of_some _ _ (Pattern.split?_run p s) (seam_run hp s) ?_
  rw [Pattern.split?_run, htake, hdrop]

theorem someOf {p : Char → Bool} (hp : p '\r' = p '\n') (s : Text) : Blind (.someOf p) s := by
  obtain ⟨htake, hdrop⟩ := run_unifyNewlines hp s
  by_cases hnil : s.takeWhile p = []
  · apply of_none
    · rw [Pattern.split?_someOf, if_pos hnil]
    · rw [Pattern.split?_someOf, htake, hnil]
      rfl
  · refine of_some (s.takeWhile p) (s.dropWhile p) ?_ (seam_run hp s) ?_
    · rw [Pattern.split?_someOf, if_neg hnil]
    · rw [Pattern.split?_someOf, htake, hdrop, if_neg (mt unifyNewlines_eq_nil_iff.1 hnil)]

theorem nothing (s : Text) : Blind Pattern.nothing s :=
  of_some _ _ rfl (seam_of_not_mem (by simp) s) rfl

/-- A character that is no line end stands at the start of both texts or of neither. -/
theorem exists_of_unifyNewlines_eq_cons {c : Char} {t : Text} (hc : c ≠ '\n')
    (h : unifyNewlines s = c :: t) :
    ∃ rest, s = c :: rest ∧ unifyNewlines rest = t := by
  revert h
  fun_cases unifyNewlines s with
  | case1 => exact nofun
  | case2 rest =>
    intro h
    cases h
    exact absurd rfl hc
  | case3 d rest hcut =>
    intro h
    injection h with hd ht
    by_cases hcr : d = '\r'
    · rw [if_pos hcr] at hd
      exact absurd hd.symm hc
    · rw [if_neg hcr] at hd
      exact ⟨rest, by rw [hd], ht⟩

theorem word {w : Text} (hcr : '\r' ∉ w) (hlf : '\n' ∉ w) (s : Text) : Blind (.word w) s := by
  -- line ends come from line ends alone, so no word appears that was not there
  have hback : ∀ {w s r : Text}, '\n' ∉ w → unifyNewlines s = w ++ r → ∃ rest, s = w ++ rest := by
    intro w
    induction w with
    | nil => exact fun _ _ => ⟨_, rfl⟩
    | cons c w ih =>
      intro s r hw h
      obtain ⟨hc, hw⟩ := not_or.1 (mt List.mem_cons.2 hw)
      obtain ⟨t, rfl, ht⟩ := exists_of_unifyNewlines_eq_cons (Ne.symm hc) h
      obtain ⟨rest, rfl⟩ := ih hw ht
      exact ⟨rest, rfl⟩
  cases hs : Text.after? w s with
  | some rest =>
    have hseam := seam_of_not_mem hcr rest
    refine of_some w rest ?_ hseam ?_
    · rw [Pattern.split?_word, hs]
      rfl
    · rw [Text.after?_eq_some_iff.1 hs, unifyNewlines_append hseam, unifyNewlines_eq_self hcr,
        Pattern.split?_word, Text.after?_eq_some_iff.2 rfl]
      rfl
  | none =>
    apply of_none
    · rw [Pattern.split?_word, hs]
      rfl
    · cases hu : Text.after? w (unifyNewlines s) with
      | none =>
        rw [Pattern.split?_word, hu]
        rfl
      | some r =>
        obtain ⟨rest, hrest⟩ := hback hlf (Text.after?_eq_some_iff.1 hu)
        rw [Text.after?_eq_some_iff.2 hrest] at hs
        cases hs

theorem one {p : Char → Bool} (hcr : p '\r' = false) (hlf : p '\n' = false)
    (s : Text) : Blind (.one p) s := by
  fun_cases unifyNewlines s with
  | case1 => exact of_none rfl rfl
  -- both characters of a line end are turned down, so it does not matter which one is there
  | case2 s =>
    apply of_none
    · simp [Pattern.split?_one, hcr]
    · rw [unifyNewlines]
      simp [Pattern.split?_one, hlf]
  | case3 c s hcut =>
    have hcons := unifyNewlines_cons (seam_of_cut hcut)
    by_cases hc : p c = true
    · have hne : c ≠ '\r' := by
        rintro rfl
        rw [hcr] at hc
        cases hc
      refine of_some [c] s ?_ (seam_singleton hne s) ?_
      · rw [Pattern.split?_one, if_pos hc]
      · rw [hcons, if_neg hne, Pattern.split?_one, if_pos hc, unifyNewlines_eq_self (s := [c])]
        simpa using Ne.symm hne
    · apply of_none
      · rw [Pattern.split?_one, if_neg hc]
      · rw [hcons, Pattern.split?_one, if_neg]
        split
        · simp [hlf]
        · exact hc

theorem followedBy {p q : Pattern} (hp : Blind p s)
    (hq : ∀ {found rest}, p.split? s = some (found, rest) → Blind q rest) :
    Blind (p.followedBy q) s := by
  cases hs : p.split? s with
  | none =>
    have hu := hp.split
    rw [hs] at hu
    apply of_none
    · rw [Pattern.split?_followedBy, hs]
    · rw [Pattern.split?_followedBy, hu]
      rfl
  | some parts =>
    obtain ⟨a, t⟩ := parts
    have hseam := hp.seam hs
    have hu := hp.split
    rw [hs] at hu
    have hqt := hq hs
    cases ht : q.split? t with
    | none =>
      have hut := hqt.split
      rw [ht] at hut
      apply of_none
      · rw [Pattern.split?_followedBy, hs]
        dsimp only
        rw [ht]
        rfl
      · rw [Pattern.split?_followedBy, hu]
        dsimp only [Option.map_some]
        rw [hut]
        rfl
    | some parts =>
      obtain ⟨b, rest⟩ := parts
      have hut := hqt.split
      rw [ht] at hut
      -- the line end of the cut cannot be split: what the second pattern takes starts the text
      -- behind the first
      have happ := q.append_eq ht
      rw [← happ] at hseam
      refine of_some (a ++ b) rest ?_ (hseam.append (hqt.seam ht)) ?_
      · rw [Pattern.split?_followedBy, hs]
        dsimp only
        rw [ht]
        rfl
      · rw [Pattern.split?_followedBy, hu, unifyNewlines_append hseam.left]
        dsimp only [Option.map_some]
        rw [hut]
        rfl

theorem orElse {p q : Pattern} (hp : Blind p s) (hq : p.split? s = none → Blind q s) :
    Blind (p.orElse q) s := by
  have hu := hp.split
  cases hs : p.split? s with
  | some parts =>
    rw [hs] at hu
    refine ⟨?_, fun h => hp.seam ?_⟩
    · rw [Pattern.split?_orElse, Pattern.split?_orElse, hs, hu]
      rfl
    · rw [Pattern.split?_orElse, hs] at h
      rw [hs, ← h]
  | none =>
    rw [hs] at hu
    have hq := hq hs
    refine ⟨?_, fun h => hq.seam ?_⟩
    · rw [Pattern.split?_orElse, Pattern.split?_orElse, hs, hu]
      exact hq.split
    · rwa [Pattern.split?_orElse, hs] at h

theorem inOrder {ps : List Pattern} (h : ∀ p ∈ ps, ∀ s, Blind p s)
    (s : Text) : Blind (.inOrder ps) s := by
  induction ps generalizing s with
  | nil => exact nothing s
  | cons p ps ih =>
    exact followedBy (h p List.mem_cons_self s) fun _ =>
      ih (fun q hq => h q (List.mem_cons_of_mem _ hq)) _

end Blind

/-! ## Rules -/

theorem blind_newline (s : Text) : Blind newlineRule.pattern s := by
  fun_cases unifyNewlines s with
  | case1 => exact .of_none rfl rfl
  | case2 s =>
    refine .of_some ['\r', '\n'] s rfl ?_ rfl
    intro hlast
    cases hlast
  | case3 c s hcut =>
    have hseam := seam_of_cut hcut
    have hcons := unifyNewlines_cons hseam
    -- a carriage return here stands alone, since the case before has taken the pairs
    by_cases hcr : c = '\r'
    · subst hcr
      refine .of_some ['\r'] s ?_ hseam ?_
      · have hword : Text.after? ['\r', '\n'] ('\r' :: s) = none := by
          cases s with
          | nil => rfl
          | cons d s =>
            have hd : '\n' ≠ d := fun h => hcut s rfl (by rw [h])
            simp [Text.after?, hd]
        rw [newlineRule, Pattern.split?_orElse, Pattern.split?_word, hword]
        rfl
      · rw [hcons]
        rfl
    · have hword : ∀ s, Text.after? ['\r', '\n'] (c :: s) = none := by
        intro s
        simp [Text.after?, Ne.symm hcr]
      by_cases hlf : c = '\n'
      · subst hlf
        refine .of_some ['\n'] s ?_ hseam ?_
        · rw [newlineRule, Pattern.split?_orElse, Pattern.split?_word, hword]
          rfl
        · rw [hcons]
          rfl
      · apply Blind.of_none
        · rw [newlineRule, Pattern.split?_orElse, Pattern.split?_word, hword]
          simp [Pattern.split?_one, hcr, hlf]
        · rw [hcons, if_neg hcr, newlineRule, Pattern.split?_orElse, Pattern.split?_word, hword]
          simp [Pattern.split?_one, hcr, hlf]

/-- The last rule of a tag takes any character, but none that ends a line. -/
theorem blind_space (s : Text) : Blind spaceRule.pattern s := by
  refine .orElse (.someOf (by decide) s) fun hnone => ?_
  cases s with
  | nil => exact .of_none rfl rfl
  | cons c s =>
    have hblank : Text.isBlank c = false := by
      cases hc : Text.isBlank c with
      | false => rfl
      | true => simp [Pattern.split?_someOf, hc] at hnone
    have hcr : c ≠ '\r' := by rintro rfl; revert hblank; decide
    have hseam := seam_singleton hcr s
    refine .of_some [c] s rfl hseam ?_
    rw [unifyNewlines_cons hseam, if_neg hcr,
      unifyNewlines_eq_self (s := [c]) (by simpa using Ne.symm hcr)]
    rfl

theorem blind_tagName : ∀ p ∈ tagName, ∀ s, Blind p s := by
  intro p hp s
  simp only [tagName, List.mem_cons, List.not_mem_nil, or_false] at hp
  rcases hp with rfl | rfl | rfl
  · exact .run (by decide) s
  · exact .one (by decide) (by decide) s
  · exact .run (by decide) s

theorem blind_docType (s : Text) : Blind Gap.docType s := by
  refine .inOrder (fun p hp s => ?_) s
  simp only [List.mem_cons, List.not_mem_nil, or_false] at hp
  rcases hp with rfl | rfl | rfl
  · exact .word (by decide) (by decide) s
  · exact .someOf (by decide) s
  · exact .word (by decide) (by decide) s

theorem blind_close (s : Text) : Blind closeRule.pattern s := by
  refine .inOrder (fun p hp s => ?_) s
  rcases List.mem_cons.1 hp with rfl | hp
  · exact .word (by decide) (by decide) s
  · rcases List.mem_append.1 hp with hp | hp
    · exact blind_tagName p hp s
    · simp only [List.mem_cons, List.not_mem_nil, or_false] at hp
      rcases hp with rfl | rfl
      · exact .run (by decide) s
      · exact .word (by decide) (by decide) s

theorem blind_open (s : Text) : Blind openRule.pattern s := by
  refine .inOrder (fun p hp s => ?_) s
  rcases List.mem_cons.1 hp with rfl | hp
  · exact .word (by decide) (by decide) s
  · exact blind_tagName p hp s

theorem blind_quotedValue {q : Char} (hq : IsQuote q) (s : Text) : Blind (quotedValue q) s := by
  refine .inOrder (fun p hp s => ?_) s
  simp only [List.mem_cons, List.not_mem_nil, or_false] at hp
  rcases hp with rfl | rfl | rfl
  · exact .word (by rcases hq with rfl | rfl <;> decide) (by rcases hq with rfl | rfl <;> decide) s
  · exact .run (by rcases hq with rfl | rfl <;> decide) s
  · exact .word (by rcases hq with rfl | rfl <;> decide) (by rcases hq with rfl | rfl <;> decide) s

theorem blind_attributeValue (s : Text) : Blind attributeValue s :=
  .orElse (blind_quotedValue (.inl rfl) s) fun _ =>
    .orElse (blind_quotedValue (.inr rfl) s) fun _ => .someOf (by decide) s

theorem blind_assignment (s : Text) : Blind assignmentRule.pattern s := by
  refine .inOrder (fun p hp s => ?_) s
  simp only [List.mem_cons, List.not_mem_nil, or_false] at hp
  rcases hp with rfl | rfl | rfl
  · exact .run (by decide) s
  · exact .word (by decide) (by decide) s
  · exact .run (by decide) s

theorem blind_textRules (s : Text) : ∀ rule ∈ textRules, Blind rule.pattern s := by
  intro rule hrule
  simp only [textRules, List.mem_cons, List.not_mem_nil, or_false] at hrule
  rcases hrule with rfl | rfl | rfl | rfl | rfl | rfl | rfl
  · exact .word (by decide) (by decide) s
  · exact blind_docType s
  · exact blind_close s
  · exact blind_open s
  · exact blind_newline s
  · exact .someOf (by decide) s
  · exact .orElse (.word (by decide) (by decide) s) fun _ => .someOf (by decide) s

theorem blind_tagRules (s : Text) : ∀ rule ∈ tagRules, Blind rule.pattern s := by
  intro rule hrule
  simp only [tagRules, List.mem_cons, List.not_mem_nil, or_false] at hrule
  rcases hrule with rfl | rfl | rfl | rfl
  · exact .word (by decide) (by decide) s
  · exact .word (by decide) (by decide) s
  · exact .someOf (by decide) s
  · exact blind_space s

/-! ### Comments -/

theorem blind_commentEnd (s : Text) : Blind commentEnd s := by
  refine .inOrder (fun p hp s => ?_) s
  simp only [List.mem_cons, List.not_mem_nil, or_false] at hp
  rcases hp with rfl | rfl
  · exact .run (by decide) s
  · exact .word (by decide) (by decide) s

theorem isSome_commentEnd_unifyNewlines (s : Text) :
    (commentEnd.split? (unifyNewlines s)).isSome = (commentEnd.split? s).isSome := by
  rw [(blind_commentEnd s).split, Option.isSome_map]

/-- White space in front of the end of a comment belongs to it. -/
theorem isSome_commentEnd_cons {c : Char} (hc : Text.isBlank c = true) (s : Text) :
    (commentEnd.split? (c :: s)).isSome = (commentEnd.split? s).isSome := by
  simp [split?_commentEnd, hc]

theorem splitAtCommentEnd_of_true {c : Char} {s : Text}
    (h : (commentEnd.split? (c :: s)).isSome = true) :
    splitAtCommentEnd (c :: s) = ([], c :: s) := by
  rw [splitAtCommentEnd, if_pos h]

theorem splitAtCommentEnd_of_false {c : Char} {s : Text}
    (h : (commentEnd.split? (c :: s)).isSome = false) :
    splitAtCommentEnd (c :: s) = (c :: (splitAtCommentEnd s).1, (splitAtCommentEnd s).2) := by
  rw [splitAtCommentEnd, if_neg (by rw [h]; exact Bool.false_ne_true)]

/-- **A comment ends at the same place.** The induction is on the line ends; the end of a comment
takes all white space in front of it, so it never starts inside of a line end. -/
theorem splitAtCommentEnd_unifyNewlines (s : Text) :
    splitAtCommentEnd (unifyNewlines s) =
        (unifyNewlines (splitAtCommentEnd s).1, unifyNewlines (splitAtCommentEnd s).2) ∧
      Seam (splitAtCommentEnd s).1 (splitAtCommentEnd s).2 := by
  fun_induction unifyNewlines s with
  | case1 => exact ⟨rfl, seam_of_not_mem (by simp [splitAtCommentEnd]) _⟩
  | case2 s ih =>
    obtain ⟨ih, hseam⟩ := ih
    have hcr := isSome_commentEnd_cons (c := '\r') (by decide) ('\n' :: s)
    have hlf := isSome_commentEnd_cons (c := '\n') (by decide) s
    have hlf' := isSome_commentEnd_cons (c := '\n') (by decide) (unifyNewlines s)
    rw [hlf] at hcr
    rw [isSome_commentEnd_unifyNewlines] at hlf'
    cases hend : (commentEnd.split? s).isSome with
    | true =>
      rw [hend] at hcr hlf'
      rw [splitAtCommentEnd_of_true hcr, splitAtCommentEnd_of_true hlf']
      exact ⟨rfl, seam_of_not_mem (by simp) _⟩
    | false =>
      rw [hend] at hcr hlf hlf'
      rw [splitAtCommentEnd_of_false hcr, splitAtCommentEnd_of_false hlf,
        splitAtCommentEnd_of_false hlf', ih]
      -- the two characters of a line end stay together
      have hpair : Seam ['\r', '\n'] ((splitAtCommentEnd s).1 ++ (splitAtCommentEnd s).2) := by
        intro hlast
        cases hlast
      exact ⟨rfl, hpair.append hseam⟩
  | case3 c s hcut ih =>
    obtain ⟨ih, hseam⟩ := ih
    have hcut := seam_of_cut hcut
    have hcons := unifyNewlines_cons hcut
    have hsome := isSome_commentEnd_unifyNewlines (c :: s)
    rw [hcons] at hsome
    cases hend : (commentEnd.split? (c :: s)).isSome with
    | true =>
      rw [hend] at hsome
      rw [splitAtCommentEnd_of_true hsome, splitAtCommentEnd_of_true hend, ← hcons]
      exact ⟨rfl, seam_of_not_mem (by simp) _⟩
    | false =>
      rw [hend] at hsome
      rw [splitAtCommentEnd_of_false hsome, splitAtCommentEnd_of_false hend, ih]
      rw [← splitAtCommentEnd_append s] at hcut
      rw [unifyNewlines_cons hcut.left]
      exact ⟨rfl, hcut.append hseam⟩

theorem blind_commentBody {s : Text} (h : commentEnd.split? s = none) : Blind commentBody s := by
  cases s with
  | nil => exact .of_none rfl rfl
  | cons c s =>
    have hbody : ∀ {t : Text}, t ≠ [] → commentEnd.split? t = none → commentBody.split? t =
        some ((splitAtCommentEnd t).1, (splitAtCommentEnd t).2) := by
      intro t hne hnone
      cases t with
      | nil => exact absurd rfl hne
      | cons d t =>
        rw [splitAtCommentEnd, hnone]
        rfl
    obtain ⟨hsplit, hseam⟩ := splitAtCommentEnd_unifyNewlines (c :: s)
    have hnone : commentEnd.split? (unifyNewlines (c :: s)) = none := by
      rw [(blind_commentEnd (c :: s)).split, h]
      rfl
    refine .of_some _ _ (hbody (List.cons_ne_nil c s) h) hseam ?_
    rw [hbody (mt unifyNewlines_eq_nil_iff.1 (List.cons_ne_nil c s)) hnone, hsplit]

/-! ## The lexer -/

theorem take?_unifyNewlines {rule : Rule} {s : Text} (h : Blind rule.pattern s) :
    rule.take? (unifyNewlines s) =
      (rule.take? s).map fun (rule, found, rest) =>
        (rule, unifyNewlines found, unifyNewlines rest) := by
  have hsplit := h.split
  unfold Rule.take?
  cases hs : rule.pattern.split? s with
  | none =>
    rw [hs] at hsplit
    rw [hsplit]
    rfl
  | some parts =>
    obtain ⟨found, rest⟩ := parts
    rw [hs] at hsplit
    rw [hsplit]
    cases found with
    | nil => rfl
    | cons c found =>
      cases hu : unifyNewlines (c :: found) with
      | nil => exact absurd (unifyNewlines_eq_nil_iff.1 hu) (List.cons_ne_nil c found)
      | cons d t => simp [hu]

theorem firstMatch?_of_blind {rules : List Rule} {s : Text}
    (h : ∀ rule ∈ rules, Blind rule.pattern s) {rule : Rule} {found rest : Text}
    (hf : firstMatch? rules s = some (rule, found, rest)) :
    firstMatch? rules (unifyNewlines s) = some (rule, unifyNewlines found, unifyNewlines rest) ∧
      Seam found rest := by
  refine ⟨?_, (h rule (Mode.mem_rules_of_firstMatch? hf)).seam (split?_of_firstMatch? hf)⟩
  induction rules with
  | nil => cases hf
  | cons r rules ih =>
    have htake := take?_unifyNewlines (h r List.mem_cons_self)
    unfold firstMatch? at hf ih ⊢
    rw [List.findSome?_cons] at hf ⊢
    cases hr : r.take? s with
    | some parts =>
      rw [hr] at hf htake
      cases hf
      rw [htake]
      rfl
    | none =>
      rw [hr] at hf htake
      rw [htake]
      exact ih (fun q hq => h q (List.mem_cons_of_mem _ hq)) hf

/-- **Each rule takes what it takes, whatever the line ends.** -/
theorem firstMatch?_unifyNewlines {m : Mode} {s : Text} {rule : Rule} {found rest : Text}
    (hf : firstMatch? m.rules s = some (rule, found, rest)) :
    firstMatch? m.rules (unifyNewlines s) = some (rule, unifyNewlines found, unifyNewlines rest) ∧
      Seam found rest := by
  rcases m with _ | _ | (_ | _) | _
  · exact firstMatch?_of_blind (blind_textRules s) hf
  · exact firstMatch?_of_blind (blind_tagRules s) hf
  · refine firstMatch?_of_blind (fun r hr => ?_) hf
    rcases List.mem_cons.1 hr with rfl | hr
    · exact blind_assignment s
    · rcases List.mem_cons.1 hr with rfl | hr
      · exact .someOf (by decide) s
      · exact blind_tagRules s r hr
  · refine firstMatch?_of_blind (fun r hr => ?_) hf
    rcases List.mem_cons.1 hr with rfl | hr
    · exact blind_attributeValue s
    · exact blind_tagRules s r hr
  · cases hend : commentEnd.split? s with
    | none =>
      refine firstMatch?_of_blind (fun r hr => ?_) hf
      simp only [Mode.rules, List.mem_cons, List.not_mem_nil, or_false] at hr
      rcases hr with rfl | rfl
      · exact blind_commentEnd s
      · exact blind_commentBody hend
    | some parts =>
      -- where the comment ends its body is not looked for
      obtain ⟨a, t⟩ := parts
      have hfirst : ∀ {s a t : Text}, commentEnd.split? s = some (a, t) → a ≠ [] →
          firstMatch? Mode.comment.rules s = some (commentEndRule, a, t) := by
        intro s a t hs hne
        exact firstMatch?_of_split? [] commentEndRule [commentBodyRule] rfl hs hne
      have hne : a ≠ [] := by
        rw [split?_commentEnd] at hend
        obtain ⟨r, -, hr⟩ := Option.map_eq_some_iff.1 hend
        cases hr
        simp [endWord]
      have hu := (blind_commentEnd s).split
      rw [hend] at hu
      rw [hfirst hend hne] at hf
      cases hf
      exact ⟨hfirst hu (mt unifyNewlines_eq_nil_iff.1 hne), (blind_commentEnd s).seam hend⟩

end Markup
end SiteOptimizer
