import Mathlib.Data.List.TakeDrop
import Mathlib.Data.List.TakeWhile
import SiteOptimizer.Glob

/-!
# What globs describe

A glob is read from its front, piece by piece, and describes the texts that fall apart into what its
pieces stand for (`matchPieces_append`). A glob without stars and classes is rigid: each of its
characters stands for one character. Every other glob has a star in front of which no more
characters of a text have their place than stand in the glob.
-/

namespace SiteOptimizer
namespace Glob

/-! ## Classes -/

/-- The text up to the next closing bracket, and what follows it. -/
def closing? (s : Text) : Option (Text × Text) :=
  match s.span (· ≠ ']') with
  | (body, _ :: rest) => some (body, rest)
  | (_, []) => none

theorem closing?_eq_some {s body rest : Text} :
    closing? s = some (body, rest) ↔ s = body ++ ']' :: rest ∧ ']' ∉ body := by
  rw [closing?, List.span_eq_takeWhile_dropWhile]
  constructor
  · intro h
    have hcut := List.takeWhile_append_dropWhile (p := fun c => decide (c ≠ ']')) (l := s)
    -- the text is cut at the first bracket, so the body has none
    have hstop := List.head?_dropWhile_not (fun c => decide (c ≠ ']')) s
    cases hdrop : s.dropWhile fun c => decide (c ≠ ']') with
    | nil =>
      rw [hdrop] at h
      cases h
    | cons c t =>
      rw [hdrop] at h hcut hstop
      obtain ⟨rfl, rfl⟩ := Prod.mk.inj (Option.some.inj h)
      have hc : c = ']' := by simpa using hstop
      rw [hc] at hcut
      exact ⟨hcut.symm, fun hmem => by simpa using List.mem_takeWhile_imp hmem⟩
  · rintro ⟨rfl, hbody⟩
    have hall : ∀ c ∈ body, decide (c ≠ ']') = true := fun c hc => by
      simp only [decide_eq_true_eq]
      rintro rfl
      exact hbody hc
    rw [List.takeWhile_append_of_pos hall, List.dropWhile_append_of_pos hall]
    simp

/-- The same, where a closing bracket at the front closes nothing. -/
def classTail? : Text → Option (Text × Text)
  | ']' :: s => (closing? s).map fun found => (']' :: found.1, found.2)
  | s => closing? s

theorem classTail?_eq_some {s body rest : Text} :
    classTail? s = some (body, rest) ↔ s = body ++ ']' :: rest ∧ body ≠ [] ∧ ']' ∉ body.tail := by
  unfold classTail?
  split
  · next s =>
    simp only [Option.map_eq_some_iff, Prod.exists, closing?_eq_some, Prod.mk.injEq]
    constructor
    · rintro ⟨inner, _, ⟨rfl, hinner⟩, rfl, rfl⟩
      exact ⟨rfl, List.cons_ne_nil _ _, hinner⟩
    · rintro ⟨heq, hne, hbody⟩
      obtain ⟨c, inner, rfl⟩ := List.exists_cons_of_ne_nil hne
      obtain ⟨rfl, rfl⟩ := List.cons.inj heq
      exact ⟨inner, rest, ⟨rfl, hbody⟩, rfl, rfl⟩
  -- where the class does not start with a bracket, the bracket that is looked for is any
  · next hfirst =>
    rw [closing?_eq_some]
    refine and_congr_right fun heq => ?_
    cases body with
    | nil => exact absurd heq (hfirst rest)
    | cons c inner =>
      have hc : c ≠ ']' := by
        rintro rfl
        exact hfirst _ heq
      simp [Ne.symm hc]

theorem classTail?_of_ne {s : Text} (h : s.head? ≠ some ']') : classTail? s = closing? s := by
  unfold classTail?
  split
  · exact absurd rfl h
  · rfl

/-- A mark of negation in front belongs to the class, and so does a closing bracket behind it. -/
theorem classBody?_eq (s : Text) : classBody? s =
    if s.head? = some '!' then (classTail? s.tail).map fun found => ('!' :: found.1, found.2)
    else classTail? s := by
  have hclosing : ∀ front t : Text, (match t.span (· ≠ ']') with
        | (body, _ :: rest) => some (front ++ body, rest)
        | (_, []) => none) = (closing? t).map fun found => (front ++ found.1, found.2) := by
    intro front t
    unfold closing?
    rcases t.span (· ≠ ']') with ⟨body, _ | ⟨c, rest⟩⟩ <;> rfl
  have hself : ∀ found : Option (Text × Text),
      found.map (fun found => ([] ++ found.1, found.2)) = found :=
    fun _ => Option.map_id'
  unfold classBody?
  split
  next mark t hmark =>
  split
  next first u hfirst =>
  -- four cases: there may be a mark in front, and behind it a bracket that does not close
  refine (hclosing (mark ++ first) u).trans ?_
  split at hmark
  · obtain ⟨rfl, rfl⟩ := Prod.mk.inj hmark
    rw [List.head?_cons, if_pos rfl, List.tail_cons]
    split at hfirst
    · obtain ⟨rfl, rfl⟩ := Prod.mk.inj hfirst
      rw [classTail?, Option.map_map]
      rfl
    · next hne =>
      obtain ⟨rfl, rfl⟩ := Prod.mk.inj hfirst
      rw [classTail?_of_ne fun h => hne _ (List.head?_eq_some_iff.1 h).choose_spec]
      rfl
  · next hne =>
    obtain ⟨rfl, rfl⟩ := Prod.mk.inj hmark
    rw [if_neg fun h => hne _ (List.head?_eq_some_iff.1 h).choose_spec]
    split at hfirst
    · obtain ⟨rfl, rfl⟩ := Prod.mk.inj hfirst
      rfl
    · next hne =>
      obtain ⟨rfl, rfl⟩ := Prod.mk.inj hfirst
      rw [classTail?_of_ne fun h => hne _ (List.head?_eq_some_iff.1 h).choose_spec]
      exact hself _

/-- What can stand between the brackets of a class. -/
def IsBody (body : Text) : Prop :=
  let body := if body.head? = some '!' then body.tail else body
  body ≠ [] ∧ ']' ∉ body.tail

theorem classBody?_eq_some {s body rest : Text} :
    classBody? s = some (body, rest) ↔ s = body ++ ']' :: rest ∧ IsBody body := by
  rw [classBody?_eq]
  split
  · next hmark =>
    obtain ⟨t, rfl⟩ := List.head?_eq_some_iff.1 hmark
    simp only [List.tail_cons, Option.map_eq_some_iff, Prod.exists,
      classTail?_eq_some, Prod.mk.injEq]
    constructor
    · rintro ⟨inner, _, ⟨rfl, hinner⟩, rfl, rfl⟩
      exact ⟨rfl, hinner⟩
    · rintro ⟨heq, hbody⟩
      cases body with
      | nil => exact absurd (List.cons.inj heq).1 (by decide)
      | cons c inner =>
        obtain ⟨rfl, rfl⟩ := List.cons.inj heq
        exact ⟨inner, rest, ⟨rfl, hbody⟩, rfl, rfl⟩
  · next hmark =>
    rw [classTail?_eq_some]
    refine and_congr_right fun heq => ?_
    -- without the mark of negation the first character is one of the class itself
    have hhead : body.head? ≠ some '!' := by
      intro h
      obtain ⟨inner, rfl⟩ := List.head?_eq_some_iff.1 h
      exact hmark (heq ▸ rfl)
    rw [IsBody, if_neg hhead]

/-- A class holds something, and a closing bracket ends it. -/
theorem eq_of_classBody? {s body rest : Text} (h : classBody? s = some (body, rest)) :
    body ≠ [] ∧ s = body ++ ']' :: rest := by
  obtain ⟨heq, hbody⟩ := classBody?_eq_some.1 h
  refine ⟨?_, heq⟩
  rintro rfl
  exact hbody.1 rfl

/-- What follows a glob closes no class of it if it holds no closing bracket. -/
theorem classBody?_append (s : Text) {t : Text} (ht : ']' ∉ t) :
    classBody? (s ++ t) = (classBody? s).map fun found => (found.1, found.2 ++ t) := by
  cases h : classBody? s with
  | some found =>
    obtain ⟨heq, hbody⟩ := classBody?_eq_some.1 h
    refine classBody?_eq_some.2 ⟨?_, hbody⟩
    rw [heq, List.append_assoc, List.cons_append]
  | none =>
    -- a class that is closed in the longer text is closed before the text without brackets
    by_contra hsome
    obtain ⟨⟨body, rest⟩, hfound⟩ := Option.ne_none_iff_exists'.1 hsome
    obtain ⟨heq, hbody⟩ := classBody?_eq_some.1 hfound
    rcases List.append_eq_append_iff.1 heq with ⟨a, -, rfl⟩ | ⟨a, rfl, ha⟩
    · exact ht (by simp)
    · cases a with
      | nil =>
        rw [List.nil_append] at ha
        exact ht (ha ▸ List.mem_cons_self)
      | cons c a =>
        obtain ⟨rfl, -⟩ := List.cons.inj ha
        rw [classBody?_eq_some.2 ⟨rfl, hbody⟩] at h
        cases h

theorem classOf_ne_star (body : Text) : classOf body ≠ .star := by
  intro h
  unfold classOf at h
  dsimp only at h
  split at h
  · split at h <;> cases h
  · cases h

/-! ## The pieces of a glob -/

/-- Any fuel that is enough gives the same pieces. -/
theorem piecesFrom_eq {n m : Nat} {s : Text} (hn : s.length ≤ n) (hm : s.length ≤ m) :
    piecesFrom n s = piecesFrom m s := by
  induction n generalizing m s with
  | zero =>
    rw [List.length_eq_zero_iff.1 (Nat.le_zero.1 hn)]
    cases m <;> rfl
  | succ n ih =>
    cases s with
    | nil => cases m <;> rfl
    | cons c s =>
      obtain ⟨m, rfl⟩ : ∃ k, m = k + 1 := ⟨m - 1, by rw [List.length_cons] at hm; omega⟩
      have hn : s.length ≤ n := Nat.le_of_succ_le_succ hn
      have hm : s.length ≤ m := Nat.le_of_succ_le_succ hm
      rw [piecesFrom, piecesFrom, ih hn hm]
      cases hclass : classBody? s with
      | none => rfl
      | some found =>
        -- a class takes its closing bracket, so what follows it is shorter and the fuel is enough
        have hlength := congrArg List.length (eq_of_classBody? hclass).2
        rw [List.length_append, List.length_cons] at hlength
        dsimp only
        rw [ih (m := m) (s := found.2) (by omega) (by omega)]

theorem pieces_star (s : Text) : pieces ('*' :: s) = .star :: pieces s := rfl

theorem pieces_any (s : Text) : pieces ('?' :: s) = .any :: pieces s := rfl

theorem pieces_class {s body rest : Text} (h : classBody? s = some (body, rest)) :
    pieces ('[' :: s) = classOf body :: pieces rest := by
  have hlength := congrArg List.length (eq_of_classBody? h).2
  rw [List.length_append, List.length_cons] at hlength
  have hrest : piecesFrom s.length rest = pieces rest := piecesFrom_eq (by omega) (Nat.le_refl _)
  rw [← hrest, pieces, List.length_cons, piecesFrom, if_neg (by decide),
    if_neg (by decide), if_pos rfl, h]

theorem pieces_open {s : Text} (h : classBody? s = none) :
    pieces ('[' :: s) = .literal '[' :: pieces s := by
  rw [pieces, List.length_cons, piecesFrom, if_neg (by decide), if_neg (by decide), if_pos rfl, h]
  rfl

theorem pieces_literal {c : Char} (hstar : c ≠ '*') (hany : c ≠ '?') (hclass : c ≠ '[') (s : Text) :
    pieces (c :: s) = .literal c :: pieces s := by
  rw [pieces, List.length_cons, piecesFrom, if_neg hstar, if_neg hany, if_neg hclass]
  rfl

/-- Induction on a glob, from one of its pieces to the next. -/
@[elab_as_elim]
theorem pieces_induction {motive : Text → Prop} (nil : motive [])
    (star : ∀ s, motive s → motive ('*' :: s)) (any : ∀ s, motive s → motive ('?' :: s))
    (bracket : ∀ s body rest, classBody? s = some (body, rest) → motive rest → motive ('[' :: s))
    (bare : ∀ s, classBody? s = none → motive s → motive ('[' :: s))
    (literal : ∀ c s, c ≠ '*' → c ≠ '?' → c ≠ '[' → motive s → motive (c :: s))
    (glob : Text) : motive glob := by
  -- a class takes many characters at once, so the induction is on the length
  induction h : glob.length using Nat.strongRecOn generalizing glob with
  | _ n ih =>
    subst h
    cases glob with
    | nil => exact nil
    | cons c s =>
      have hs : motive s := ih s.length (Nat.lt_succ_self _) s rfl
      by_cases hstar : c = '*'
      · exact hstar ▸ star s hs
      by_cases hany : c = '?'
      · exact hany ▸ any s hs
      by_cases hclass : c = '['
      · subst hclass
        cases hbody : classBody? s with
        | none => exact bare s hbody hs
        | some found =>
          have hlength := congrArg List.length (eq_of_classBody? hbody).2
          rw [List.length_append, List.length_cons] at hlength
          exact bracket s found.1 found.2 hbody (ih _ (by rw [List.length_cons]; omega) _ rfl)
      · exact literal c s hstar hany hclass hs

/-! ## What pieces describe -/

theorem matchPieces_nil {s : Text} : matchPieces [] s = true ↔ s = [] := by
  rw [matchPieces, List.isEmpty_iff]

/-- A star stands for any text. -/
theorem matchPieces_star {pieces : List Piece} {s : Text} :
    matchPieces (.star :: pieces) s = true ↔ ∃ a b, s = a ++ b ∧ matchPieces pieces b = true := by
  induction s with
  | nil =>
    rw [matchPieces]
    constructor
    · exact fun h => ⟨[], [], rfl, h⟩
    · rintro ⟨a, b, heq, h⟩
      rwa [(List.append_eq_nil_iff.1 heq.symm).2] at h
  | cons c s ih =>
    rw [matchPieces, Bool.or_eq_true, ih]
    constructor
    · rintro (h | ⟨a, b, rfl, h⟩)
      · exact ⟨[], c :: s, rfl, h⟩
      · exact ⟨c :: a, b, rfl, h⟩
    · rintro ⟨a, b, heq, h⟩
      cases a with
      | nil => exact .inl (heq ▸ h)
      | cons d a => exact .inr ⟨a, b, (List.cons.inj heq).2, h⟩

/-- Any other piece stands for one character. -/
theorem matchPieces_cons {p : Piece} (hp : p ≠ .star) {pieces : List Piece} {s : Text} :
    matchPieces (p :: pieces) s = true ↔
      ∃ c t, s = c :: t ∧ p.admits c = true ∧ matchPieces pieces t = true := by
  cases s with
  | nil => cases p <;> simp_all [matchPieces]
  | cons c t =>
    have hstep : matchPieces (p :: pieces) (c :: t) = (p.admits c && matchPieces pieces t) := by
      cases p with
      | star => exact absurd rfl hp
      | _ => rw [matchPieces]; exact hp
    rw [hstep, Bool.and_eq_true]
    constructor
    · exact fun h => ⟨c, t, rfl, h⟩
    · rintro ⟨_, _, heq, h⟩
      obtain ⟨rfl, rfl⟩ := List.cons.inj heq
      exact h

/-- **Pieces in a row describe texts in a row.** -/
theorem matchPieces_append {p q : List Piece} {s : Text} :
    matchPieces (p ++ q) s = true ↔
      ∃ a b, s = a ++ b ∧ matchPieces p a = true ∧ matchPieces q b = true := by
  induction p generalizing s with
  | nil => simp [matchPieces_nil]
  | cons piece p ih =>
    rw [List.cons_append]
    -- a star may take any front of the text, every other piece takes one character
    by_cases hpiece : piece = .star
    · subst hpiece
      simp only [matchPieces_star, ih]
      constructor
      · rintro ⟨skipped, b, rfl, a, t, rfl, ha, ht⟩
        exact ⟨skipped ++ a, t, (List.append_assoc ..).symm, ⟨skipped, a, rfl, ha⟩, ht⟩
      · rintro ⟨-, t, rfl, ⟨skipped, a, rfl, ha⟩, ht⟩
        exact ⟨skipped, a ++ t, List.append_assoc .., a, t, rfl, ha, ht⟩
    · simp only [matchPieces_cons hpiece, ih]
      constructor
      · rintro ⟨c, t, rfl, hc, a, b, rfl, ha, hb⟩
        exact ⟨c :: a, b, rfl, ⟨c, a, rfl, hc, ha⟩, hb⟩
      · rintro ⟨-, b, rfl, ⟨c, a, rfl, hc, ha⟩, hb⟩
        exact ⟨c, a ++ b, rfl, hc, a, b, rfl, ha, hb⟩

/-- Pieces that are no stars stand for as many characters. -/
theorem length_of_matchPieces {pieces : List Piece} (h : .star ∉ pieces) {s : Text}
    (hs : matchPieces pieces s = true) : s.length = pieces.length := by
  induction pieces generalizing s with
  | nil => rw [matchPieces_nil.1 hs]; rfl
  | cons piece pieces ih =>
    rw [List.mem_cons, not_or] at h
    obtain ⟨c, t, rfl, -, ht⟩ := (matchPieces_cons (Ne.symm h.1)).1 hs
    rw [List.length_cons, List.length_cons, ih h.2 ht]

/-- More text in front of a star is more text for the star. -/
theorem matchPieces_star_append {pieces : List Piece} {s : Text}
    (h : matchPieces (.star :: pieces) s = true) (a : Text) :
    matchPieces (.star :: pieces) (a ++ s) = true := by
  obtain ⟨skipped, b, rfl, hb⟩ := matchPieces_star.1 h
  exact matchPieces_star.2 ⟨a ++ skipped, b, (List.append_assoc ..).symm, hb⟩

/-! ## Rigid globs -/

/-- Globs without stars and classes; a bracket in them never closes. -/
def IsRigid (glob : Text) : Prop :=
  '*' ∉ glob ∧ ∀ s ∈ glob.tails, s.head? = some '[' → classBody? s.tail = none

/-- Globs that have no question marks either. -/
def IsLiteral (glob : Text) : Prop :=
  IsRigid glob ∧ '?' ∉ glob

instance (glob : Text) : Decidable (IsRigid glob) :=
  inferInstanceAs (Decidable (_ ∧ _))

instance (glob : Text) : Decidable (IsLiteral glob) :=
  inferInstanceAs (Decidable (_ ∧ _))

/-- What a character of a rigid glob stands for. -/
def pieceOf (c : Char) : Piece :=
  if c = '?' then .any else .literal c

theorem isRigid_cons_iff {c : Char} {s : Text} :
    IsRigid (c :: s) ↔ c ≠ '*' ∧ (c = '[' → classBody? s = none) ∧ IsRigid s := by
  have htails : (c :: s).tails = (c :: s) :: s.tails := rfl
  rw [IsRigid, IsRigid, htails, List.forall_mem_cons, List.mem_cons, not_or, List.head?_cons,
    List.tail_cons, Option.some.injEq]
  constructor
  · rintro ⟨⟨hc, hs⟩, hclass, hrest⟩
    exact ⟨Ne.symm hc, hclass, hs, hrest⟩
  · rintro ⟨hc, hclass, hs, hrest⟩
    exact ⟨⟨Ne.symm hc, hs⟩, hclass, hrest⟩

theorem admits_pieceOf (c : Char) : (pieceOf c).admits c = true := by
  unfold pieceOf
  split
  · rfl
  · simp [Piece.admits]

theorem pieceOf_ne_star (c : Char) : pieceOf c ≠ .star := by
  unfold pieceOf
  split <;> exact nofun

/-- Behind a rigid glob a text without brackets goes on as a glob of its own. -/
theorem pieces_append_of_isRigid {glob : Text} (h : IsRigid glob) {t : Text} (ht : ']' ∉ t) :
    pieces (glob ++ t) = glob.map pieceOf ++ pieces t := by
  induction glob with
  | nil => rfl
  | cons c s ih =>
    obtain ⟨hstar, hclass, hs⟩ := isRigid_cons_iff.1 h
    rw [List.cons_append, List.map_cons, List.cons_append, ← ih hs]
    by_cases hany : c = '?'
    · rw [hany]
      exact pieces_any _
    have hpiece : pieceOf c = .literal c := if_neg hany
    rw [hpiece]
    by_cases hopen : c = '['
    · subst hopen
      refine pieces_open ?_
      rw [classBody?_append s ht, hclass rfl]
      rfl
    · exact pieces_literal hstar hany hopen _

/-- A text is described by itself behind a rigid glob, and by what its question marks stand for. -/
theorem matchPieces_map_pieceOf (glob : Text) : matchPieces (glob.map pieceOf) glob = true := by
  induction glob with
  | nil => exact matchPieces_nil.2 rfl
  | cons c s ih => exact (matchPieces_cons (pieceOf_ne_star c)).2 ⟨c, s, rfl, admits_pieceOf c, ih⟩

/-- A literal glob describes nothing but itself. -/
theorem eq_of_matchPieces_map {glob s : Text} (hany : '?' ∉ glob)
    (h : matchPieces (glob.map pieceOf) s = true) :
    s = glob := by
  induction glob generalizing s with
  | nil => exact matchPieces_nil.1 h
  | cons c glob ih =>
    rw [List.mem_cons, not_or] at hany
    obtain ⟨d, t, rfl, hd, ht⟩ := (matchPieces_cons (pieceOf_ne_star c)).1 h
    rw [pieceOf, if_neg (Ne.symm hany.1)] at hd
    rw [ih hany.2 ht, of_decide_eq_true hd]

/-- Behind a rigid glob `/*` stands for a slash and any text. -/
theorem isMatch_append_slash_star {glob : Text} (h : IsRigid glob) {s : Text} :
    isMatch (glob ++ ['/', '*']) s = true ↔
      ∃ a t, s = a ++ '/' :: t ∧ matchPieces (glob.map pieceOf) a = true := by
  have hrest : pieces ['/', '*'] = [.literal '/', .star] := rfl
  have hslash : ∀ {b}, matchPieces [.literal '/', .star] b = true ↔ ∃ t, b = '/' :: t := by
    intro b
    rw [matchPieces_cons (p := .literal '/') nofun]
    constructor
    · rintro ⟨c, t, rfl, hc, -⟩
      exact ⟨t, by rw [of_decide_eq_true hc]⟩
    · rintro ⟨t, rfl⟩
      exact ⟨'/', t, rfl, rfl, matchPieces_star.2 ⟨t, [], (List.append_nil t).symm,
        matchPieces_nil.2 rfl⟩⟩
  rw [isMatch_eq, pieces_append_of_isRigid h (by decide), hrest, matchPieces_append]
  constructor
  · rintro ⟨a, b, rfl, ha, hb⟩
    obtain ⟨t, rfl⟩ := hslash.1 hb
    exact ⟨a, t, rfl, ha⟩
  · rintro ⟨a, t, rfl, ha⟩
    exact ⟨a, '/' :: t, rfl, ha, hslash.2 ⟨t, rfl⟩⟩

/-- **Where the first star stands** in a glob with `/*` behind it. A character of the glob is at
most one piece, so no more characters of a text have their place in front of the star than in front
of `*`; and fewer than the glob has if there is a star in the glob, or a class, which takes more
characters than it stands for. -/
theorem exists_star (glob : Text) :
    ∃ front back, pieces (glob ++ ['/', '*']) = front ++ .star :: back ∧ .star ∉ front ∧
      front.length ≤ glob.length + 1 ∧ (¬ IsRigid glob → front.length < glob.length) := by
  -- a character that is a piece of its own
  have hone : ∀ {c : Char} {s : Text} {p : Piece}, p ≠ .star →
      pieces (c :: s ++ ['/', '*']) = p :: pieces (s ++ ['/', '*']) →
      (IsRigid s → IsRigid (c :: s)) →
      (∃ front back, pieces (s ++ ['/', '*']) = front ++ .star :: back ∧ .star ∉ front ∧
        front.length ≤ s.length + 1 ∧ (¬ IsRigid s → front.length < s.length)) →
      ∃ front back, pieces (c :: s ++ ['/', '*']) = front ++ .star :: back ∧ .star ∉ front ∧
        front.length ≤ (c :: s).length + 1 ∧
        (¬ IsRigid (c :: s) → front.length < (c :: s).length) := by
    rintro c s p hp hstep hrigid ⟨front, back, hpieces, hfront, hle, hlt⟩
    refine ⟨p :: front, back, by rw [hstep, hpieces]; rfl, ?_, Nat.succ_le_succ hle,
      fun h => Nat.succ_lt_succ (hlt (mt hrigid h))⟩
    rw [List.mem_cons, not_or]
    exact ⟨Ne.symm hp, hfront⟩
  induction glob using pieces_induction with
  | nil => exact ⟨[.literal '/'], [], rfl, by simp, Nat.le_refl _, fun h => absurd (by decide) h⟩
  | star s =>
    exact ⟨[], pieces (s ++ ['/', '*']), pieces_star _, by simp, Nat.zero_le _,
      fun _ => Nat.succ_pos _⟩
  | any s ih =>
    exact hone (p := .any) nofun (pieces_any _)
      (fun hs => isRigid_cons_iff.2 ⟨by decide, nofun, hs⟩) ih
  | bracket s body rest hbody ih =>
    obtain ⟨front, back, hpieces, hfront, hle, -⟩ := ih
    obtain ⟨hne, hs⟩ := eq_of_classBody? hbody
    -- a class is one piece for at least three characters
    have hshort : rest.length + 2 ≤ s.length := by
      have hpos := List.length_pos_iff.2 hne
      rw [hs, List.length_append, List.length_cons]
      omega
    have hbehind : classBody? (s ++ ['/', '*']) = some (body, rest ++ ['/', '*']) := by
      rw [classBody?_append s (t := ['/', '*']) (by decide), hbody]
      rfl
    have hclass : pieces ('[' :: s ++ ['/', '*']) = classOf body :: pieces (rest ++ ['/', '*']) :=
      pieces_class hbehind
    refine ⟨classOf body :: front, back, by rw [hclass, hpieces]; rfl, ?_, ?_, fun _ => ?_⟩
    · rw [List.mem_cons, not_or]
      exact ⟨Ne.symm (classOf_ne_star body), hfront⟩
    · rw [List.length_cons, List.length_cons]
      omega
    · rw [List.length_cons, List.length_cons]
      omega
  | bare s hbody ih =>
    have hbehind : classBody? (s ++ ['/', '*']) = none := by
      rw [classBody?_append s (t := ['/', '*']) (by decide), hbody]
      rfl
    exact hone (p := .literal '[') nofun (pieces_open hbehind)
      (fun hs => isRigid_cons_iff.2 ⟨by decide, fun _ => hbody, hs⟩) ih
  | literal c s hstar hany hopen ih =>
    exact hone (p := .literal c) nofun (pieces_literal hstar hany hopen _)
      (fun hs => isRigid_cons_iff.2 ⟨hstar, fun heq => absurd heq hopen, hs⟩) ih

end Glob
end SiteOptimizer
