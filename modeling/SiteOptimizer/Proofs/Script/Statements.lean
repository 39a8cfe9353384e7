import Mathlib.Data.List.TakeDrop
import Mathlib.Data.List.TakeWhile
import SiteOptimizer.Proofs.Markup.Stability
import SiteOptimizer.Proofs.Script.Literal

/-!
# Statements in a literal and behind it

The search for statements does not know about literals: it runs over the whole text, and what it
finds inside of a literal is dropped afterwards. A statement that it reads from inside of a literal
may therefore take along what stands behind the literal.

Nearly all of what a statement is made of stops at a quote, or at the end of the line behind it
(`Confined`). The one exception is the list of an `export` statement, which goes on to the next
closing brace, wherever that is. So a literal changes nothing for what follows, whatever that is,
exactly when the search tries no place in it at which an export list starts that the literal does
not close (`specifiers_assigned_iff`).
-/

namespace SiteOptimizer
namespace Script

/-! ## Texts that end with a quote -/

/-- A text up to and with the quote that ends a literal. -/
def EndsQuoted (u : Text) : Prop :=
  ∃ v quote, IsDelimiter quote ∧ u = v ++ [quote]

theorem EndsQuoted.ne_nil {u : Text} (h : EndsQuoted u) : u ≠ [] := by
  obtain ⟨v, quote, -, rfl⟩ := h
  simp

theorem EndsQuoted.of_append {a u : Text} (h : EndsQuoted (a ++ u))
    (hne : u ≠ []) : EndsQuoted u := by
  obtain ⟨v, quote, hquote, hv⟩ := h
  have hlast : u.getLast hne = quote := by
    rw [← List.getLast_append_of_ne_nil (l := a) (by simp [hne]) hne]
    simp only [hv, List.getLast_concat]
  exact ⟨u.dropLast, quote, hquote, by rw [← hlast, List.dropLast_concat_getLast]⟩

/-- What does not hold a quote is not all of the text. -/
theorem EndsQuoted.behind {a u : Text} (h : EndsQuoted (a ++ u)) (ha : ∀ c ∈ a, ¬ IsDelimiter c) :
    EndsQuoted u := by
  refine h.of_append fun hnil => ?_
  obtain ⟨v, quote, hquote, hv⟩ := h
  rw [hnil, List.append_nil] at hv
  exact ha quote (by rw [hv]; simp) hquote

/-- A class of characters without the quotes. -/
def StopsAtQuotes (p : Char → Bool) : Prop :=
  ∀ c, IsDelimiter c → p c = false

theorem EndsQuoted.exists_stop {u : Text} (h : EndsQuoted u) {p : Char → Bool}
    (hp : StopsAtQuotes p) :
    ∃ c ∈ u, p c = false := by
  obtain ⟨v, quote, hquote, rfl⟩ := h
  exact ⟨quote, by simp, hp quote hquote⟩

theorem EndsQuoted.takeWhile_append {u : Text} (h : EndsQuoted u) {p : Char → Bool}
    (hp : StopsAtQuotes p) (x : Text) : (u ++ x).takeWhile p = u.takeWhile p :=
  (Markup.Gap.takeWhile_append_of_stop (h.exists_stop hp) x).1

theorem EndsQuoted.dropWhile_append {u : Text} (h : EndsQuoted u) {p : Char → Bool}
    (hp : StopsAtQuotes p) (x : Text) : (u ++ x).dropWhile p = u.dropWhile p ++ x :=
  (Markup.Gap.takeWhile_append_of_stop (h.exists_stop hp) x).2

theorem EndsQuoted.dropWhile {u : Text} (h : EndsQuoted u) {p : Char → Bool}
    (hp : StopsAtQuotes p) :
    EndsQuoted (u.dropWhile p) := by
  rw [← List.takeWhile_append_dropWhile (p := p) (l := u)] at h
  refine h.behind fun c hc hquote => ?_
  have hpc := List.mem_takeWhile_imp hc
  rw [hp c hquote] at hpc
  cases hpc

/-- A word without quotes stands in a text that ends with one, or it does not
stand there whatever follows. -/
theorem EndsQuoted.after?_append {u : Text} (h : EndsQuoted u) {w : Text}
    (hw : ∀ c ∈ w, ¬ IsDelimiter c) (x : Text) :
    Text.after? w (u ++ x) = (Text.after? w u).map (· ++ x) := by
  cases hafter : Text.after? w u with
  | some r =>
    rw [Text.after?_eq_some_iff] at hafter
    rw [hafter, List.append_assoc, Text.after?_eq_some_iff.2 rfl]
    rfl
  | none =>
    cases hlong : Text.after? w (u ++ x) with
    | none => rfl
    | some r =>
      obtain ⟨v, quote, hquote, hv⟩ := h
      rcases List.append_eq_append_iff.1 (Text.after?_eq_some_iff.1 hlong) with
        ⟨k, hk, -⟩ | ⟨k, hk, -⟩
      · exact absurd hquote (hw quote (by rw [hk, hv]; simp))
      · rw [Text.after?_eq_some_iff.2 hk] at hafter
        cases hafter

theorem EndsQuoted.of_after? {u : Text} (h : EndsQuoted u) {w r : Text}
    (hw : ∀ c ∈ w, ¬ IsDelimiter c) (hafter : Text.after? w u = some r) : EndsQuoted r := by
  rw [Text.after?_eq_some_iff] at hafter
  rw [hafter] at h
  exact h.behind hw

/-! ## Readers that do not look beyond a literal -/

/-- A reader makes the same of a text whatever follows on the next line. -/
def Confined (read? : Text → Option (Text × Text)) (u : Text) : Prop :=
  ∀ rest, read? (u ++ ';' :: '\n' :: rest) = (read? u).map fun (found, left) =>
    (found, left ++ ';' :: '\n' :: rest)

/-- A specifier does not run over the end of a line. -/
theorem confined_specifier? (u : Text) : Confined specifier? u := by
  intro rest
  cases u with
  | nil => rfl
  | cons quote s =>
    rw [List.cons_append, specifier?, specifier?]
    split
    case isFalse => rfl
    case isTrue hquote =>
      rw [List.span_eq_takeWhile_dropWhile, List.span_eq_takeWhile_dropWhile]
      -- a specifier without its quote runs into the semicolon and ends at the line end, and no
      -- quote is a line feed
      rcases Markup.Gap.all_or_stop isSpecifierChar s with hall | hstop
      · have hline : '\n' ≠ quote := by
          rintro rfl
          exact absurd hquote (by decide)
        have htake : (';' :: '\n' :: rest).takeWhile isSpecifierChar = [';'] := rfl
        have hdrop : (';' :: '\n' :: rest).dropWhile isSpecifierChar = '\n' :: rest := rfl
        rw [List.takeWhile_append_of_pos hall, List.dropWhile_append_of_pos hall, htake, hdrop,
          List.dropWhile_eq_nil_iff.2 hall]
        cases s <;> simp [hline]
      · obtain ⟨htake, hdrop⟩ := Markup.Gap.takeWhile_append_of_stop hstop (';' :: '\n' :: rest)
        rw [htake, hdrop]
        cases hfound : s.takeWhile isSpecifierChar with
        | nil => rfl
        | cons c found =>
          cases hleft : s.dropWhile isSpecifierChar with
          | nil =>
            obtain ⟨d, hd, hp⟩ := hstop
            rw [List.dropWhile_eq_nil_iff.1 hleft d hd] at hp
            cases hp
          | cons close left =>
            simp only [List.cons_append]
            split <;> rfl

theorem stopsAtQuotes_isBlank : StopsAtQuotes Text.isBlank := by
  rintro c (rfl | rfl | rfl) <;> decide

theorem stopsAtQuotes_isNameChar : StopsAtQuotes isNameChar := by
  rintro c (rfl | rfl | rfl) <;> decide +kernel

theorem stopsAtQuotes_isClauseChar : StopsAtQuotes isClauseChar := by
  rintro c (rfl | rfl | rfl) <;> decide +kernel

theorem confined_fromClause? {u : Text} (h : EndsQuoted u) : Confined fromClause? u := by
  intro rest
  have hword : ∀ c ∈ fromWord, ¬ IsDelimiter c := by decide
  have hquoted := h.dropWhile stopsAtQuotes_isBlank
  rw [fromClause?, fromClause?, h.dropWhile_append stopsAtQuotes_isBlank,
    hquoted.after?_append hword]
  cases hafter : Text.after? fromWord (u.dropWhile Text.isBlank) with
  | none => rfl
  | some s =>
    simp only [Option.map_some, Option.bind_some]
    rw [(hquoted.of_after? hword hafter).dropWhile_append stopsAtQuotes_isBlank]
    exact confined_specifier? _ rest

theorem confined_importStatement? {u : Text} (h : EndsQuoted u) : Confined importStatement? u := by
  intro rest
  have hword : ∀ c ∈ "import".toList, ¬ IsDelimiter c := by decide
  rw [importStatement?, importStatement?, h.after?_append hword]
  cases hafter : Text.after? "import".toList u with
  | none => rfl
  | some s =>
    have hquoted := h.of_after? hword hafter
    simp only [Option.map_some, Option.bind_some,
      hquoted.takeWhile_append stopsAtQuotes_isClauseChar,
      hquoted.dropWhile_append stopsAtQuotes_isClauseChar]
    split
    · exact confined_specifier? _ rest
    · rfl

theorem confined_exportedStar? {u : Text} (h : EndsQuoted u) : Confined exportedStar? u := by
  intro rest
  have hword : ∀ c ∈ "as".toList, ¬ IsDelimiter c := by decide
  have hquoted := h.dropWhile stopsAtQuotes_isBlank
  rw [exportedStar?, exportedStar?, h.dropWhile_append stopsAtQuotes_isBlank,
    hquoted.after?_append hword]
  -- every word and every blank that is read ends in front of the closing quote
  cases hafter : Text.after? "as".toList (u.dropWhile Text.isBlank) with
  | none => exact confined_fromClause? h rest
  | some behind =>
    have hbehind := hquoted.of_after? hword hafter
    have hname := hbehind.dropWhile stopsAtQuotes_isBlank
    have hleft := hname.dropWhile stopsAtQuotes_isNameChar
    simp only [Option.map_some, List.span_eq_takeWhile_dropWhile,
      hbehind.takeWhile_append stopsAtQuotes_isBlank,
      hbehind.dropWhile_append stopsAtQuotes_isBlank,
      hname.takeWhile_append stopsAtQuotes_isNameChar,
      hname.dropWhile_append stopsAtQuotes_isNameChar, confined_fromClause? hleft rest]
    split
    · rfl
    · cases fromClause? ((behind.dropWhile Text.isBlank).dropWhile isNameChar) with
      | some found => rfl
      | none =>
        simp only [Option.map_none]
        split
        · rw [hleft.dropWhile_append stopsAtQuotes_isBlank]
          exact confined_specifier? _ rest
        · rfl

/-! ## Lists that a literal leaves open -/

/-- Whether an export list starts here that is not closed. -/
def opensList (s : Text) : Bool :=
  match Text.after? "export".toList s with
  | none => false
  | some s =>
    match s.dropWhile Text.isBlank with
    | '\x7b' :: s => !s.contains '\x7d'
    | _ => false

/-- Where a list is closed the text behind it ends with the same quote. -/
theorem EndsQuoted.closed {t : Text} (h : EndsQuoted t) (hmem : '\x7d' ∈ t) :
    ∃ left, EndsQuoted left ∧ ∀ x, (t ++ x).dropWhile (· ≠ '\x7d') = '\x7d' :: (left ++ x) := by
  obtain ⟨left, hleft, -⟩ := Markup.Gap.dropWhile_ne_of_mem hmem
  refine ⟨left, ?_, fun x => ?_⟩
  · rw [← List.takeWhile_append_dropWhile (p := (· ≠ '\x7d')) (l := t), hleft] at h
    exact EndsQuoted.behind (a := ['\x7d']) (h.of_append (List.cons_ne_nil _ _)) (by decide)
  · rw [(Markup.Gap.takeWhile_append_of_stop ⟨'\x7d', hmem, by decide⟩ x).2,
      hleft, List.cons_append]

theorem confined_exportStatement? {u : Text} (h : EndsQuoted u) (hopen : opensList u = false) :
    Confined exportStatement? u := by
  intro rest
  have hword : ∀ c ∈ "export".toList, ¬ IsDelimiter c := by decide
  rw [exportStatement?, exportStatement?, h.after?_append hword]
  unfold opensList at hopen
  cases hafter : Text.after? "export".toList u with
  | none => rfl
  | some s =>
    rw [hafter] at hopen
    have hquoted := (h.of_after? hword hafter).dropWhile stopsAtQuotes_isBlank
    simp only [Option.map_some, Option.bind_some,
      (h.of_after? hword hafter).dropWhile_append stopsAtQuotes_isBlank] at hopen ⊢
    cases hs : s.dropWhile Text.isBlank with
    | nil => exact absurd hs hquoted.ne_nil
    | cons c t =>
      rw [hs] at hquoted hopen
      by_cases hstar : c = '*'
      · subst hstar
        have ht : EndsQuoted t := EndsQuoted.behind (a := ['*']) hquoted (by decide)
        exact confined_exportedStar? ht rest
      by_cases hbrace : c = '\x7b'
      · subst hbrace
        have ht : EndsQuoted t := EndsQuoted.behind (a := ['\x7b']) hquoted (by decide)
        -- a list that is closed is closed in front of the end, so what follows is not looked at
        have hmem : '\x7d' ∈ t := by simpa using hopen
        obtain ⟨left, hleft, hclosed⟩ := ht.closed hmem
        have hshort := hclosed []
        rw [List.append_nil, List.append_nil] at hshort
        simp only [List.cons_append, hclosed, hshort]
        exact confined_fromClause? hleft rest
      · simp [hstar, hbrace]

/-! ## The search for statements -/

section

variable {statement? : Text → Option (Text × Text)}

theorem occurrences_of_skip {skip : Nat} (h : 0 < skip) (before : Option Char) (offset : Nat)
    (c : Char) (s : Text) : occurrences statement? skip before offset (c :: s) =
      occurrences statement? (skip - 1) (some c) (offset + 1) s := by
  rw [occurrences, if_pos h]

theorem occurrences_of_joined {before : Option Char} (h : isJoined before = true) (offset : Nat)
    (c : Char) (s : Text) : occurrences statement? 0 before offset (c :: s) =
      occurrences statement? 0 (some c) (offset + 1) s := by
  rw [occurrences, if_neg (Nat.lt_irrefl 0), if_pos h]

theorem occurrences_of_none {c : Char} {s : Text} (h : statement? (c :: s) = none)
    (before : Option Char) (offset : Nat) : occurrences statement? 0 before offset (c :: s) =
      occurrences statement? 0 (some c) (offset + 1) s := by
  rw [occurrences, if_neg (Nat.lt_irrefl 0), h]
  exact ite_self _

theorem occurrences_of_some {before : Option Char} (hbefore : isJoined before = false) {c : Char}
    {s specifier rest : Text} (h : statement? (c :: s) = some (specifier, rest)) (offset : Nat) :
    occurrences statement? 0 before offset (c :: s) =
      ⟨offset, specifier⟩ :: occurrences statement? (s.length - rest.length)
        (some c) (offset + 1) s := by
  rw [occurrences, if_neg (Nat.lt_irrefl 0), if_neg (by simp [hbefore]), h]

/-- What stands in front of a text matters only if it could join a name. -/
theorem occurrences_unjoined {before : Option Char} (h : isJoined before = false)
    (offset : Nat) (s : Text) :
    occurrences statement? 0 before offset s = occurrences statement? 0 none offset s := by
  cases s with
  | nil => rfl
  | cons c s =>
    have hnone : isJoined none = false := rfl
    rw [occurrences, occurrences, h, hnone]

theorem occurrences_of_length_le {skip : Nat} {s : Text} (h : s.length ≤ skip)
    (before : Option Char) (offset : Nat) : occurrences statement? skip before offset s = [] := by
  induction s generalizing skip before offset with
  | nil => rfl
  | cons c s ih =>
    rw [List.length_cons] at h
    rw [occurrences_of_skip (by omega), ih (by omega)]

/-- A statement found `k` characters further on. -/
def Found.shift (k : Nat) (found : Found) : Found :=
  ⟨k + found.offset, found.specifier⟩

theorem occurrences_add (k skip : Nat) (before : Option Char) (offset : Nat) (s : Text) :
    occurrences statement? skip before (k + offset) s =
      (occurrences statement? skip before offset s).map (Found.shift k) := by
  induction s generalizing skip before offset with
  | nil => rfl
  | cons c s ih =>
    rw [occurrences, occurrences]
    simp only [Nat.add_assoc k offset 1, ih]
    split
    · rfl
    · split
      · rfl
      · split <;> rfl

theorem offset_of_mem_occurrences {skip : Nat} {before : Option Char} {offset : Nat} {s : Text}
    {found : Found} (h : found ∈ occurrences statement? skip before offset s) :
    offset ≤ found.offset ∧ found.offset < offset + s.length := by
  fun_induction occurrences statement? skip before offset s with
  | case1 => cases h
  | case2 skip before offset c s searchOn hpos ih =>
    have hbounds := ih _ h
    rw [List.length_cons]
    omega
  | case3 skip before offset c s searchOn hpos hjoined ih =>
    have hbounds := ih _ h
    rw [List.length_cons]
    omega
  | case4 skip before offset c s searchOn hpos hjoined specifier rest hread ih =>
    rw [List.length_cons]
    rcases List.mem_cons.1 h with rfl | h
    · exact ⟨Nat.le_refl offset, Nat.lt_add_of_pos_right (Nat.succ_pos _)⟩
    · have hbounds := ih _ h
      omega
  | case5 skip before offset c s searchOn hpos hjoined hread ih =>
    have hbounds := ih _ h
    rw [List.length_cons]
    omega

/-- The texts from which on a statement is looked for, where `skip` and
`before` are as in `occurrences`. -/
def tries (statement? : Text → Option (Text × Text)) (skip : Nat) (before : Option Char) :
    Text → List Text
  | [] => []
  | c :: s =>
    let tryOn (skip : Nat) := tries statement? skip (some c) s
    if 0 < skip then tryOn (skip - 1)
    else if isJoined before then tryOn 0
    else
      (c :: s) ::
        match statement? (c :: s) with
        | some (_, rest) => tryOn (s.length - rest.length)
        | none => tryOn 0

theorem suffix_of_mem_tries {skip : Nat} {before : Option Char} {s w : Text}
    (h : w ∈ tries statement? skip before s) : w ≠ [] ∧ w <:+ s := by
  fun_induction tries statement? skip before s with
  | case1 => cases h
  | case2 skip before c s tryOn hpos ih => exact (ih _ h).imp_right (·.trans (List.suffix_cons c s))
  | case3 skip before c s tryOn hpos hjoined ih =>
    exact (ih _ h).imp_right (·.trans (List.suffix_cons c s))
  | case4 skip before c s tryOn hpos hjoined ih =>
    rcases List.mem_cons.1 h with rfl | h
    · exact ⟨List.cons_ne_nil c s, List.suffix_refl _⟩
    · split at h
      · exact (ih _ h).imp_right (·.trans (List.suffix_cons c s))
      · exact (ih _ h).imp_right (·.trans (List.suffix_cons c s))

/-- No statement starts in an assignment around its literal. -/
def SparesAssignments (statement? : Text → Option (Text × Text)) : Prop :=
  ∀ c s, c ∈ "s =;\n".toList → statement? (c :: s) = none

/-- **Where every try is confined, what stands on the following lines is searched on its own.** The
induction follows the tries; none of them skips more than what is left of the text, so the search
comes to its end unskipped. -/
theorem occurrences_append (hspares : SparesAssignments statement?) {u : Text} {skip : Nat}
    {before : Option Char} (hskip : skip ≤ u.length)
    (hconfined : ∀ w ∈ tries statement? skip before u, Confined statement? w) {offset stop : Nat}
    (hstop : stop = offset + u.length + 2) (rest : Text) :
    occurrences statement? skip before offset (u ++ ';' :: '\n' :: rest) =
      occurrences statement? skip before offset u ++ occurrences statement? 0 none stop rest := by
  -- the induction follows the places that are tried, which are the same with and without what
  -- follows
  fun_induction tries statement? skip before u generalizing offset with
  | case1 skip before =>
    obtain rfl := Nat.le_zero.1 hskip
    rw [List.nil_append, occurrences_of_none (hspares _ _ (by decide)),
      occurrences_of_none (hspares _ _ (by decide)),
      occurrences_unjoined (by decide), hstop]
    rfl
  | case2 skip before c s tryOn hpos ih =>
    rw [List.length_cons] at hskip hstop
    rw [List.cons_append, occurrences_of_skip hpos, occurrences_of_skip hpos]
    exact ih _ (by omega) hconfined (by omega)
  | case3 skip before c s tryOn hpos hjoined ih =>
    obtain rfl := Nat.eq_zero_of_not_pos hpos
    rw [List.length_cons] at hstop
    rw [List.cons_append, occurrences_of_joined hjoined, occurrences_of_joined hjoined]
    exact ih _ (Nat.zero_le _) hconfined (by omega)
  | case4 skip before c s tryOn hpos hjoined ih =>
    obtain rfl := Nat.eq_zero_of_not_pos hpos
    rw [Bool.not_eq_true] at hjoined
    rw [List.length_cons] at hstop
    have hread := hconfined (c :: s) List.mem_cons_self rest
    have hlater := fun w hw => hconfined w (List.mem_cons_of_mem _ hw)
    cases hfound : statement? (c :: s) with
    | none =>
      rw [hfound] at hlater
      rw [List.cons_append, hfound, Option.map_none] at hread
      rw [List.cons_append, occurrences_of_none hread, occurrences_of_none hfound]
      exact ih _ (Nat.zero_le _) hlater (by omega)
    | some read =>
      rw [hfound] at hlater
      rw [List.cons_append, hfound, Option.map_some] at hread
      rw [List.cons_append, occurrences_of_some hjoined hread, occurrences_of_some hjoined hfound,
        List.length_append, List.length_append, Nat.add_sub_add_right, List.cons_append]
      exact congrArg _ (ih _ (Nat.sub_le _ _) hlater (by omega))

/-- **Where a try takes all that follows along, nothing is found behind it.** The induction follows
the tries up to the first one that is open; the ones before it are confined. -/
theorem offset_lt_of_open {opens : Text → Bool} {rest : Text}
    (hopen : ∀ w, opens w = true →
      ∃ specifier, statement? (w ++ ';' :: '\n' :: rest) = some (specifier, []))
    {u : Text} {skip : Nat} {before : Option Char}
    (hconfined : ∀ w ∈ tries statement? skip before u, opens w = false → Confined statement? w)
    (h : (tries statement? skip before u).any opens = true) {offset stop : Nat}
    (hstop : stop = offset + u.length) {found : Found}
    (hmem : found ∈ occurrences statement? skip before offset (u ++ ';' :: '\n' :: rest)) :
    found.offset < stop := by
  fun_induction tries statement? skip before u generalizing offset with
  | case1 => cases h
  | case2 skip before c s tryOn hpos ih =>
    rw [List.length_cons] at hstop
    rw [List.cons_append, occurrences_of_skip hpos] at hmem
    exact ih _ hconfined h (by omega) hmem
  | case3 skip before c s tryOn hpos hjoined ih =>
    obtain rfl := Nat.eq_zero_of_not_pos hpos
    rw [List.length_cons] at hstop
    rw [List.cons_append, occurrences_of_joined hjoined] at hmem
    exact ih _ hconfined h (by omega) hmem
  | case4 skip before c s tryOn hpos hjoined ih =>
    obtain rfl := Nat.eq_zero_of_not_pos hpos
    rw [Bool.not_eq_true] at hjoined
    rw [List.length_cons] at hstop
    rw [List.cons_append] at hmem
    have hlater := fun w hw => hconfined w (List.mem_cons_of_mem _ hw)
    cases hhere : opens (c :: s) with
    | true =>
      -- what is left behind this statement is nothing, so all that follows is skipped
      obtain ⟨specifier, hread⟩ := hopen (c :: s) hhere
      rw [List.cons_append] at hread
      rw [occurrences_of_some hjoined hread, List.length_nil, Nat.sub_zero,
        occurrences_of_length_le (Nat.le_refl _)] at hmem
      rw [List.mem_singleton.1 hmem]
      show offset < stop
      omega
    | false =>
      have hread := hconfined (c :: s) List.mem_cons_self hhere rest
      rw [List.any_cons, hhere, Bool.false_or] at h
      cases hfound : statement? (c :: s) with
      | none =>
        rw [hfound] at hlater h
        rw [List.cons_append, hfound, Option.map_none] at hread
        rw [occurrences_of_none hread] at hmem
        exact ih _ hlater h (by omega) hmem
      | some read =>
        rw [hfound] at hlater h
        rw [List.cons_append, hfound, Option.map_some] at hread
        rw [occurrences_of_some hjoined hread, List.length_append, List.length_append,
          Nat.add_sub_add_right] at hmem
        rcases List.mem_cons.1 hmem with rfl | hmem
        · show offset < stop
          omega
        · exact ih _ hlater h (by omega) hmem

end

/-! ## Statements behind an assigned literal -/

theorem IsLiteral.endsQuoted {continued : Bool} {L : Text}
    (h : IsLiteral continued L) : EndsQuoted L := by
  obtain ⟨quote, body, hquote, -, rfl⟩ := h
  exact ⟨quote :: body, quote, hquote, rfl⟩

/-- Whether the search for `export` statements tries a place of the literal at which a list starts
that the literal does not close. -/
def leavesListOpen (literal : Text) : Bool :=
  (tries exportStatement? 0 none literal).any opensList

/-- A static import that an open list runs into. -/
def listImport : Text :=
  "export \x7b\x7d from \"x\"".toList

theorem exportStatement?_of_open {w : Text} (h : opensList w = true) :
    ∃ specifier, exportStatement? (w ++ ';' :: '\n' :: listImport) = some (specifier, []) := by
  unfold opensList at h
  cases hafter : Text.after? "export".toList w with
  | none =>
    rw [hafter] at h
    cases h
  | some s =>
    rw [hafter] at h
    dsimp only at h
    split at h
    case h_2 => cases h
    case h_1 t hs =>
      have hmem : '\x7b' ∈ s :=
        (List.dropWhile_suffix Text.isBlank).subset (by rw [hs]; exact List.mem_cons_self)
      have hstop : ∃ c ∈ s, Text.isBlank c = false := ⟨'\x7b', hmem, by decide⟩
      have hlist := (Markup.Gap.takeWhile_append_of_stop hstop (';' :: '\n' :: listImport)).2
      have hopen : '\x7d' ∉ t := by simpa using h
      -- the list that the literal leaves open is closed by the first bracket of the code behind it
      have hclose : (t ++ ';' :: '\n' :: listImport).dropWhile (· ≠ '\x7d') =
          "\x7d from \"x\"".toList := by
        rw [List.dropWhile_append_of_pos (Markup.Gap.all_ne_of_not_mem hopen)]
        rfl
      rw [Text.after?_eq_some_iff] at hafter
      rw [hs] at hlist
      rw [hafter, exportStatement?, List.append_assoc, Text.after?_eq_some_iff.2 rfl,
        Option.bind_some, hlist]
      simp only [List.cons_append]
      rw [hclose]
      exact ⟨['x'], by decide⟩

section

variable {statement? : Text → Option (Text × Text)} {L : Text}

theorem statements_assigned_eq (hspares : SparesAssignments statement?) (rest : Text) :
    statements statement? (assigned L ++ rest) =
      occurrences statement? 0 none 4 (L ++ ';' :: '\n' :: rest) := by
  have hsplit : assigned L ++ rest = 's' :: ' ' :: '=' :: ' ' :: (L ++ ';' :: '\n' :: rest) := by
    simp [assigned, assignment]
  rw [statements, hsplit]
  repeat rw [occurrences_of_none (hspares _ _ (by decide))]
  exact occurrences_unjoined (by decide) 4 _

theorem statements_assigned (hspares : SparesAssignments statement?)
    (hconfined : ∀ w ∈ tries statement? 0 none L, Confined statement? w) (rest : Text) :
    statements statement? (assigned L ++ rest) =
      occurrences statement? 0 none 4 L ++ (statements statement? rest).map
        (Found.shift (assigned L).length) := by
  have hoffset : (assigned L).length + 0 = 4 + L.length + 2 := by
    rw [length_assigned]
    omega
  rw [statements_assigned_eq hspares, occurrences_append hspares (Nat.zero_le _) hconfined hoffset,
    occurrences_add]
  rfl

theorem outside_of_within (h : IsLiteral false L) (code : Text) {found : List Found}
    (hwithin : ∀ f ∈ found, 4 ≤ f.offset ∧ f.offset < 4 + L.length) :
    found.filter (fun f => !(strip (assigned L ++ code)).inLiteral f.offset) = [] := by
  refine List.filter_eq_nil_iff.2 fun f hf => ?_
  rw [inLiteral_assigned h code (hwithin f hf).1 (hwithin f hf).2]
  decide

theorem outside_assigned (h : IsLiteral false L) (hspares : SparesAssignments statement?)
    (hconfined : ∀ w ∈ tries statement? 0 none L, Confined statement? w) (code : Text) :
    (statements statement? (strip (assigned L ++ code)).text).filter
        (fun f => !(strip (assigned L ++ code)).inLiteral f.offset) =
      ((statements statement? (strip code).text).filter fun f =>
        !(strip code).inLiteral f.offset).map
        (Found.shift (assigned L).length) := by
  have hbehind : ∀ f : Found,
      (!(strip (assigned L ++ code)).inLiteral (f.shift (assigned L).length).offset) =
        !(strip code).inLiteral f.offset :=
    fun f => congrArg (!·) (inLiteral_behind h code f.offset)
  rw [text_strip_assigned h, statements_assigned hspares hconfined, List.filter_append,
    outside_of_within h code fun f hf => offset_of_mem_occurrences hf,
    List.nil_append, List.filter_map]
  simp only [Function.comp_def, hbehind]

end

/-- A statement that starts with a word starts with the first character of that word. -/
theorem sparesAssignments_of_word {statement? : Text → Option (Text × Text)} {word : Text}
    (hne : word ≠ []) (hhead : ∀ c ∈ "s =;\n".toList, word.head? ≠ some c)
    (hword : ∀ s, Text.after? word s = none → statement? s = none) :
    SparesAssignments statement? := by
  intro c s hc
  cases word with
  | nil => exact absurd rfl hne
  | cons a word =>
    refine hword _ (if_neg ?_)
    rintro rfl
    exact hhead a hc rfl

theorem sparesAssignments_import : SparesAssignments importStatement? := by
  refine sparesAssignments_of_word (by decide) (by decide)
    fun s (hs : Text.after? "import".toList s = none) => ?_
  rw [importStatement?, hs, Option.bind_none]

theorem sparesAssignments_export : SparesAssignments exportStatement? := by
  refine sparesAssignments_of_word (by decide) (by decide)
    fun s (hs : Text.after? "export".toList s = none) => ?_
  rw [exportStatement?, hs, Option.bind_none]

theorem EndsQuoted.of_mem_tries {statement? : Text → Option (Text × Text)} {u w : Text}
    (h : EndsQuoted u) {skip : Nat} {before : Option Char}
    (hw : w ∈ tries statement? skip before u) : EndsQuoted w := by
  obtain ⟨hne, a, rfl⟩ := suffix_of_mem_tries hw
  exact h.of_append hne

theorem IsLiteral.confined_import {L : Text} (h : IsLiteral false L) :
    ∀ w ∈ tries importStatement? 0 none L, Confined importStatement? w :=
  fun _ hw => confined_importStatement? (h.endsQuoted.of_mem_tries hw)

theorem specifiers_assigned {L : Text} (h : IsLiteral false L)
    (hclosed : leavesListOpen L = false) (code : Text) :
    specifiers (assigned L ++ code) = specifiers code := by
  have hexport : ∀ w ∈ tries exportStatement? 0 none L, Confined exportStatement? w := by
    intro w hw
    exact confined_exportStatement? (h.endsQuoted.of_mem_tries hw)
      (Bool.eq_false_iff.2 (List.any_eq_false.1 hclosed w hw))
  have horder : ∀ f g : Found, decide (f.offset ≤ g.offset) =
      decide ((f.shift (assigned L).length).offset ≤ (g.shift (assigned L).length).offset) := by
    intro f g
    simp [Found.shift]
  rw [specifiers, specifiers, List.filter_append, List.filter_append,
    outside_assigned h sparesAssignments_import h.confined_import,
    outside_assigned h sparesAssignments_export hexport,
    ← List.map_append, ← List.map_mergeSort fun f _ g _ => horder f g, List.map_map]
  rfl

/-- An open list takes the statement behind the literal along, so its import is not found. -/
theorem specifiers_assigned_of_open {L : Text} (h : IsLiteral false L)
    (hopen : leavesListOpen L = true) :
    specifiers (assigned L ++ listImport) = [] := by
  have htext : (strip listImport).text = listImport := by decide +kernel
  have himport : statements importStatement? listImport = [] := by decide +kernel
  have hexport : ∀ f ∈ statements exportStatement? (assigned L ++ listImport),
      4 ≤ f.offset ∧ f.offset < 4 + L.length := by
    intro f hf
    rw [statements_assigned_eq sparesAssignments_export] at hf
    refine ⟨(offset_of_mem_occurrences hf).1,
      offset_lt_of_open (fun w => exportStatement?_of_open) ?_ hopen rfl hf⟩
    exact fun w hw => confined_exportStatement? (h.endsQuoted.of_mem_tries hw)
  rw [specifiers, List.filter_append, outside_assigned h sparesAssignments_import h.confined_import,
    text_strip_assigned h, htext, himport, outside_of_within h listImport hexport, List.filter_nil,
    List.map_nil, List.append_nil, List.mergeSort_nil, List.map_nil]

/-- **A literal leaves the static imports of all that may follow as they are exactly when it does
not leave an export list open.** -/
theorem specifiers_assigned_iff {literal : Text} (h : IsLiteral false literal) :
    (∀ code, specifiers (assigned literal ++ code) = specifiers code) ↔
      leavesListOpen literal = false := by
  constructor
  · intro hall
    refine Bool.eq_false_iff.2 fun hopen => ?_
    have himport : specifiers listImport = [['x']] := by decide +kernel
    have hhidden := hall listImport
    rw [specifiers_assigned_of_open h hopen, himport] at hhidden
    cases hhidden
  · exact fun hclosed => specifiers_assigned h hclosed

/-- A statement in quotes leaves all that may follow as it is, and a list that
is opened in quotes does not. -/
theorem assigned_statement_openList :
    IsLiteral false "'import \"./x.js\";'".toList ∧
      (∀ code, specifiers (assigned "'import \"./x.js\";'".toList ++ code) = specifiers code) ∧
      IsLiteral false "'export \x7b'".toList ∧
      ¬ ∀ code, specifiers (assigned "'export \x7b'".toList ++ code) = specifiers code := by
  have hstatement : IsLiteral false "'import \"./x.js\";'".toList :=
    ⟨'\'', "import \"./x.js\";".toList, by decide, .of_plain (by decide), rfl⟩
  have hlist : IsLiteral false "'export \x7b'".toList :=
    ⟨'\'', "export \x7b".toList, by decide, .of_plain (by decide), rfl⟩
  refine ⟨hstatement, (specifiers_assigned_iff hstatement).2 (by decide +kernel),
    hlist, fun hall => ?_⟩
  have hclosed := (specifiers_assigned_iff hlist).1 hall
  revert hclosed
  decide +kernel

/-- **Where a line is continued in a literal, what stands on the next line counts as a statement**,
for the reader takes no literal over the end of a line. -/
theorem specifiers_continuedLine :
    ∃ literal, IsLiteral true literal ∧ specifiers (assigned literal) = ["./x.js".toList] := by
  refine ⟨"'\\\nimport \"./x.js\";'".toList,
    ⟨'\'', "\\\nimport \"./x.js\";".toList, by decide, ?_, rfl⟩, ?_⟩
  · exact .lineFeed rfl (.of_plain (by decide))
  · decide +kernel

end Script
end SiteOptimizer
