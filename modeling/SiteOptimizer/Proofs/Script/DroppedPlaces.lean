import SiteOptimizer.Proofs.Script.ModuleText
import SiteOptimizer.Proofs.Script.SideEffects

/-!
# Where dropped imports stand

An import is dropped just if it stands at the start of a line of the script and can be dropped
(`mem_dropped_iff`). The rewriter does not know about comments and literals, so a line inside of one
that reads like an import is dropped like any other. Without such a line all that is dropped stands
outside of comments and literals, and then every one of them is left as it is but for the specifiers
of the imports that are dropped (`dropped_outside_iff`).
-/

namespace SiteOptimizer
namespace Script

open Markup (IsSpace IsQuote)

/-! ## What is dropped -/

section

variable {linked : Linked}

theorem Quiet.none_of_append {lineStart : Bool} {x y t : Text} (h : Quiet lineStart (x ++ y) t)
    (hy : y ≠ []) (hstart : endsLine lineStart x = true) : sideEffectImport? (y ++ t) = none := by
  induction x generalizing lineStart with
  | nil =>
    obtain ⟨c, y, rfl⟩ := List.exists_cons_of_ne_nil hy
    exact h.1 hstart
  | cons c x ih =>
    rw [endsLine_cons] at hstart
    exact ih h.2 hstart

/-- What is dropped stands at the start of a line. -/
theorem Sheds.exists_of_mem {lineStart : Bool} {offset : Nat} {s left : Text} {found : List Found}
    (h : Sheds linked lineStart offset s left found) {f : Found} (hf : f ∈ found) :
    ∃ before line rest, s = before ++ line ∧ f.offset = offset + before.length ∧
      endsLine lineStart before = true ∧
      sideEffectImport? line = some (f.specifier, rest) ∧ linked.drops f.specifier = true := by
  induction h with
  | nil => cases hf
  | @keep lineStart offset c s left found _ _ ih =>
    obtain ⟨before, line, rest, rfl, hoffset, hstart, hread, hdrops⟩ := ih hf
    refine ⟨c :: before, line, rest, rfl, ?_, by rwa [endsLine_cons], hread, hdrops⟩
    rw [hoffset, List.length_cons]
    omega
  | @lose offset c u rest specifier left found hread hdrops _ ih =>
    rcases List.mem_cons.1 hf with rfl | hf
    · exact ⟨[], c :: (u ++ rest), rest, rfl, rfl, rfl, hread, hdrops⟩
    · obtain ⟨before, line, rest, rfl, hoffset, hstart, hread, hdrops⟩ := ih hf
      refine ⟨c :: (u ++ before), line, rest, by simp,
        ?_, by rwa [endsLine_cons, endsLine_append], hread, hdrops⟩
      rw [hoffset, List.length_cons, List.length_append]
      omega

/-- What can be dropped at the start of a line is dropped. -/
theorem Sheds.mem_of_read {lineStart : Bool} {offset : Nat} {s left : Text} {found : List Found}
    (h : Sheds linked lineStart offset s left found) {before line specifier rest : Text}
    (hs : s = before ++ line) (hstart : endsLine lineStart before = true)
    (hread : sideEffectImport? line = some (specifier, rest))
    (hdrops : linked.drops specifier = true) : ⟨offset + before.length, specifier⟩ ∈ found := by
  induction h generalizing before with
  | nil =>
    obtain ⟨-, rfl⟩ := List.append_eq_nil_iff.1 hs.symm
    cases hread
  | @keep lineStart offset c s left found hkeep _ ih =>
    cases before with
    | nil =>
      obtain rfl : c :: s = line := hs
      exact (hkeep hstart ⟨specifier, rest, hread, hdrops⟩).elim
    | cons d before =>
      obtain ⟨rfl, rfl⟩ := List.cons.inj hs
      rw [endsLine_cons] at hstart
      have hmem := ih rfl hstart
      rwa [Nat.add_assoc, Nat.add_comm 1] at hmem
  | @lose offset c u rest' specifier' left found hread' hdrops' _ ih =>
    cases before with
    | nil =>
      obtain rfl : c :: (u ++ rest') = line := hs
      rw [hread'] at hread
      cases hread
      exact List.mem_cons_self
    | cons d before =>
      obtain ⟨rfl, htext⟩ := List.cons.inj hs
      rw [endsLine_cons] at hstart
      -- an import behind the one that is dropped here is dropped further on
      have hbehind {a : Text} (hbefore : before = u ++ a) (hrest : rest' = a ++ line) :
          ⟨offset + (c :: before).length, specifier⟩ ∈ found := by
        rw [hbefore, endsLine_append] at hstart
        have hmem := ih hrest hstart
        have hoffset : offset + 1 + u.length + a.length = offset + (c :: before).length := by
          rw [hbefore, List.length_cons, List.length_append]
          omega
        rwa [hoffset] at hmem
      rcases List.append_eq_append_iff.1 htext with ⟨a, hbefore, hrest⟩ | ⟨a, hu, hline⟩
      · exact List.mem_cons_of_mem _ (hbehind hbefore hrest)
      · by_cases ha : a = []
        · rw [ha, List.append_nil] at hu
          rw [ha, List.nil_append] at hline
          exact List.mem_cons_of_mem _ (hbehind (a := []) (by simp [hu]) hline.symm)
        · -- inside of an import that is dropped no other one starts
          have hquiet := (of_sideEffectImport? hread').quiet
          rw [hu] at hquiet
          rw [hline, hquiet.none_of_append ha hstart] at hread
          cases hread

/-- **An import is dropped just if it stands at the start of a line and can be dropped.** -/
theorem mem_dropped_iff {code : Text} {f : Found} : f ∈ dropped linked code ↔
    ∃ before line rest, code = before ++ line ∧ f.offset = before.length ∧
      endsLine true before = true ∧
      sideEffectImport? line = some (f.specifier, rest) ∧ linked.drops f.specifier = true := by
  have hsheds := sheds_dropFrom linked true 0 code
  constructor
  · intro hf
    obtain ⟨before, line, rest, hcode, hoffset, hread⟩ := hsheds.exists_of_mem hf
    exact ⟨before, line, rest, hcode, by rwa [Nat.zero_add] at hoffset, hread⟩
  · rintro ⟨before, line, rest, hcode, hoffset, hstart, hread, hdrops⟩
    have hmem := hsheds.mem_of_read hcode hstart hread hdrops
    rw [Nat.zero_add, ← hoffset] at hmem
    exact hmem

end

/-! ## Places outside of comments and literals -/

/-- Whether a segment is a character of its own. -/
def Segment.isPlain : Segment → Bool
  | .plain _ => true
  | _ => false

/-- The text of segments, with their comments. -/
def wholeText (found : List Segment) : Text :=
  found.flatMap Segment.text

/-- Whether a place of a script lies outside of comments and literals. -/
def plainAt : List Segment → Nat → Bool
  | [], _ => true
  | segment :: rest, place =>
    if place < segment.text.length then segment.isPlain
    else plainAt rest (place - segment.text.length)

theorem plainAt_append (a b : List Segment) (place : Nat) :
    plainAt (a ++ b) ((wholeText a).length + place) = plainAt b place := by
  induction a with
  | nil => rw [List.nil_append, wholeText, List.flatMap_nil, List.length_nil, Nat.zero_add]
  | cons segment a ih =>
    rw [wholeText] at ih
    rw [List.cons_append, plainAt, wholeText, List.flatMap_cons, List.length_append,
      if_neg (by omega), Nat.add_assoc, Nat.add_sub_cancel_left, ih]

/-- A place that does not lie outside lies in a comment or a literal. -/
theorem exists_of_plainAt {found : List Segment} {place : Nat} (h : plainAt found place = false) :
    ∃ front segment back k, found = front ++ segment :: back ∧ segment.isPlain = false ∧
      place = (wholeText front).length + k ∧ k < segment.text.length := by
  induction found generalizing place with
  | nil => cases h
  | cons segment found ih =>
    rw [plainAt] at h
    split at h
    case isTrue hlt => exact ⟨[], segment, found, place, rfl, h, (Nat.zero_add place).symm, hlt⟩
    case isFalse hle =>
      obtain ⟨front, inner, back, k, rfl, hplain, hplace, hk⟩ := ih h
      refine ⟨segment :: front, inner, back, k, rfl, hplain, ?_, hk⟩
      rw [wholeText, List.flatMap_cons, List.length_append]
      rw [wholeText] at hplace
      omega

/-- Comments and literals start with a quote or a slash. -/
theorem exists_of_mem_segments {s : Text} {segment : Segment} (h : segment ∈ segments s)
    (hplain : segment.isPlain = false) :
    ∃ c w, segment.text = c :: w ∧ (IsDelimiter c ∨ c = '/') := by
  fun_induction segments s with
  | case1 => cases h
  | case2 c s ih =>
    rcases List.mem_cons.1 h with rfl | h
    · obtain ⟨hne, happ⟩ := nextSegment_append c s
      obtain ⟨d, w, hw⟩ := List.exists_cons_of_ne_nil hne
      rw [hw] at happ
      obtain ⟨rfl, -⟩ := List.cons.inj happ
      refine ⟨d, w, hw, ?_⟩
      by_contra hstart
      rw [not_or] at hstart
      have hsegments := segments_plain hstart.1 hstart.2 s
      rw [segments] at hsegments
      rw [(List.cons.inj hsegments).1] at hplain
      cases hplain
    · exact ih h

theorem head_of_sideEffectImport? {c : Char} {s : Text} {found : Text × Text}
    (h : sideEffectImport? (c :: s) = some found) : ¬ (IsDelimiter c ∨ c = '/') := by
  obtain ⟨specifier, rest⟩ := found
  generalize hline : c :: s = line at h
  cases of_sideEffectImport? h with
  | @intro indent gap specifier tail rest quote hindent =>
    have hc : Text.isIndent c = true ∨ c = 'i' := by
      cases indent with
      | nil =>
        obtain ⟨rfl, -⟩ := List.cons.inj hline
        exact .inr rfl
      | cons d indent =>
        obtain ⟨rfl, -⟩ := List.cons.inj hline
        exact .inl (hindent _ List.mem_cons_self)
    rcases hc with hc | rfl
    · have hplain := not_isDelimiter_of_isBlank (Text.isBlank_of_isIndent hc)
      exact not_or.2 hplain
    · decide

/-- A line inside of a comment or a literal reads like an import that can be dropped. -/
def HidesImport (linked : Linked) (code : Text) : Prop :=
  ∃ front segment back x w, segments code = front ++ segment :: back ∧ segment.isPlain = false ∧
    segment.text = x ++ '\n' :: w ∧ w ≠ [] ∧ Drops linked (w ++ wholeText back)

theorem exists_of_endsLine {lineStart : Bool} {u v : Text} (hv : v ≠ [])
    (h : endsLine lineStart (u ++ v) = true) :
    ∃ x, v = x ++ ['\n'] := by
  obtain ⟨x, c, rfl⟩ : ∃ x c, v = x ++ [c] := ⟨_, _, (List.dropLast_concat_getLast hv).symm⟩
  obtain rfl : c = '\n' := by simpa [endsLine] using h
  exact ⟨x, rfl⟩

/-- What a comment or a literal hides is dropped from it. -/
theorem HidesImport.exists_dropped {linked : Linked} {code : Text} (h : HidesImport linked code) :
    ∃ f ∈ dropped linked code, plainAt (segments code) f.offset = false := by
  obtain ⟨front, segment, back, x, w, hsegments, hplain, htext, hw, specifier,
    rest, hread, hdrops⟩ := h
  have hcode : code = (wholeText front ++ (x ++ ['\n'])) ++ (w ++ wholeText back) := by
    rw [← flatMap_text_segments code, hsegments]
    simp [wholeText, htext]
  have hstart : endsLine true (wholeText front ++ (x ++ ['\n'])) = true := by
    simp [endsLine]
  have hinside : (x ++ ['\n']).length < segment.text.length := by
    have hpos : 0 < w.length := List.length_pos_iff.2 hw
    rw [htext]
    simp
    omega
  refine ⟨⟨_, specifier⟩, mem_dropped_iff.2 ⟨_, _, rest, hcode, rfl, hstart, hread, hdrops⟩, ?_⟩
  dsimp only
  rw [hsegments, List.length_append, plainAt_append, plainAt, if_pos hinside, hplain]

/-- What is dropped from a comment or a literal is hidden in it. -/
theorem hidesImport_of_mem_dropped {linked : Linked} {code : Text} {f : Found}
    (hf : f ∈ dropped linked code)
    (hat : plainAt (segments code) f.offset = false) : HidesImport linked code := by
  obtain ⟨before, line, rest, hcode, hoffset, hstart, hread, hdrops⟩ := mem_dropped_iff.1 hf
  obtain ⟨front, segment, back, k, hsegments, hplain, hplace, hk⟩ := exists_of_plainAt hat
  have htext : before ++ line =
      (wholeText front ++ segment.text.take k) ++ (segment.text.drop k ++ wholeText back) := by
    rw [← hcode, List.append_assoc, ← List.append_assoc (segment.text.take k),
      List.take_append_drop, ← flatMap_text_segments code, hsegments]
    simp [wholeText]
  have hlength : before.length = (wholeText front ++ segment.text.take k).length := by
    rw [← hoffset, hplace, List.length_append, List.length_take, Nat.min_eq_left (Nat.le_of_lt hk)]
  obtain ⟨rfl, rfl⟩ := List.append_inj htext hlength
  -- no import starts with the first character of a comment or of a literal
  have hpos : k ≠ 0 := by
    rintro rfl
    obtain ⟨c, w, hw, hc⟩ := exists_of_mem_segments (s := code) (by rw [hsegments]; simp) hplain
    rw [List.drop_zero, hw, List.cons_append] at hread
    exact head_of_sideEffectImport? hread hc
  have htake : segment.text.take k ≠ [] := by
    rw [← List.length_pos_iff, List.length_take]
    omega
  have hdrop : segment.text.drop k ≠ [] := by
    rw [← List.length_pos_iff, List.length_drop]
    omega
  obtain ⟨x, hx⟩ := exists_of_endsLine htake hstart
  have hsplit := List.take_append_drop k segment.text
  rw [hx, List.append_assoc, List.singleton_append] at hsplit
  exact ⟨front, segment, back, x, segment.text.drop k, hsegments, hplain, hsplit.symm, hdrop,
    f.specifier, rest, hread, hdrops⟩

theorem outside_iff (linked : Linked) (code : Text) :
    (∀ f ∈ dropped linked code, plainAt (segments code) f.offset = true) ↔
      ¬ HidesImport linked code := by
  constructor
  · intro houtside hhides
    obtain ⟨f, hf, hat⟩ := hhides.exists_dropped
    rw [houtside f hf] at hat
    cases hat
  · intro hhides f hf
    by_contra hat
    exact hhides (hidesImport_of_mem_dropped hf (Bool.eq_false_iff.2 hat))

/-! ## What is left of comments and literals -/

/-- Segments, and what is left of a script when only imports with their specifiers are dropped from
it: the other comments and literals are left as they are. -/
inductive Spares (linked : Linked) : List Segment → Text → Prop where
  | nil : Spares linked [] []
  | keep {segment : Segment} {found : List Segment} {left : Text} : Spares linked found left →
      Spares linked (segment :: found) (segment.text ++ left)
  | lose {indent gap specifier tail left : Text} {quote : Char} {found : List Segment} :
      (∀ c ∈ indent, Text.isIndent c = true) → IsSpace gap → LineTail tail →
      linked.drops specifier = true → Spares linked found left →
        Spares linked ((indent ++ (importWord ++ gap)).map .plain ++
          .literal (quote :: (specifier ++ [quote])) :: (tail.map .plain ++ found)) left

/-- A literal goes on to its quote where the characters in front of it hold no backslash, whatever
escapes there are in front of these. -/
theorem quotedBody_append {quote : Char} {a e : Text} (ha : ∀ c ∈ a, c ≠ quote ∧ c ≠ '\n')
    (he : ∀ c ∈ e, c ≠ quote ∧ c ≠ '\\' ∧ c ≠ '\n') (hne : e ≠ []) :
    QuotedBody quote false false (a ++ e) := by
  have hplain : QuotedBody quote false false e :=
    .of_plain fun c hc => ⟨(he c hc).1, (he c hc).2.1, .inr (he c hc).2.2⟩
  -- two characters at a time, for a backslash takes the next one along
  induction a using List.twoStepInduction with
  | nil => exact hplain
  | singleton c =>
    obtain ⟨hc, hline⟩ := ha c List.mem_cons_self
    by_cases hslash : c = '\\'
    · obtain ⟨d, e, rfl⟩ := List.exists_cons_of_ne_nil hne
      have hbehind : ∀ c ∈ e, c ≠ quote ∧ c ≠ '\\' ∧ (false = true ∨ c ≠ '\n') := fun c hc =>
        (he c (List.mem_cons_of_mem d hc)).imp_right (And.imp_right .inr)
      rw [hslash]
      exact .escape (he d List.mem_cons_self).2.2 (.of_plain hbehind)
    · exact .plain hc hslash (.inr hline) hplain
  | cons_cons c d a ih ih' =>
    obtain ⟨hc, hline⟩ := ha c List.mem_cons_self
    by_cases hslash : c = '\\'
    · rw [hslash]
      exact .escape (ha d (by simp)).2 (ih fun b hb => ha b (by simp [hb]))
    · exact .plain hc hslash (.inr hline) (ih' d fun b hb => ha b (List.mem_cons_of_mem c hb))

/-- The specifier of an import that is dropped ends like a proxy, so no
escape reaches over its quote. -/
theorem segments_specifier {linked : Linked} {quote : Char} (hquote : IsQuote quote)
    {specifier : Text} (hspecifier : ∀ c ∈ specifier, isSpecifierChar c = true)
    (hdrops : linked.drops specifier = true) (t : Text) :
    segments (quote :: (specifier ++ quote :: t)) =
      .literal (quote :: (specifier ++ [quote])) :: segments t := by
  obtain ⟨name, rfl⟩ : ∃ name, specifier = name ++ styleProxySuffix := by
    obtain ⟨source, hsource⟩ := Option.isSome_iff_exists.1 (Bool.and_eq_true_iff.1 hdrops).1
    obtain ⟨hpath, name, hname⟩ := of_styleSource? hsource
    exact ⟨name, by rw [hpath, hname, List.append_assoc]; rfl⟩
  -- a specifier is cut off at either quote, so the quote that opened it is not in it
  have hplain : ∀ c ∈ name ++ styleProxySuffix, c ≠ quote ∧ c ≠ '\n' := by
    intro c hc
    have hchar := hspecifier c hc
    simp only [isSpecifierChar, Bool.and_eq_true, decide_eq_true_eq] at hchar
    rcases hquote with rfl | rfl
    · exact ⟨hchar.1.1, hchar.2⟩
    · exact ⟨hchar.1.2, hchar.2⟩
  -- the name may hold backslashes, but the suffix holds none, so the closing quote is not escaped
  have hslash : ∀ c ∈ styleProxySuffix, c ≠ '\\' := by decide
  have hbody : QuotedBody quote false false (name ++ styleProxySuffix) :=
    quotedBody_append (fun c hc => hplain c (List.mem_append_left _ hc))
      (fun c hc => ⟨(hplain c (List.mem_append_right _ hc)).1, hslash c hc,
        (hplain c (List.mem_append_right _ hc)).2⟩)
      (by decide)
  have hquoted : IsQuoted false (quote :: (name ++ styleProxySuffix ++ [quote])) := by
    rcases hquote with rfl | rfl
    · exact ⟨_, _, by decide, hbody, rfl⟩
    · exact ⟨_, _, by decide, hbody, rfl⟩
  simpa using segments_literal hquoted t

theorem LineTail.isFiller {tail : Text} (h : LineTail tail) : IsFiller tail := by
  cases h with
  | @intro front lineEnd hfront hmem =>
    have hend : ∀ lineEnd ∈ [[], ['\n'], ['\r', '\n']], ∀ c ∈ lineEnd, Text.isBlank c = true := by
      decide
    intro c hc
    rcases List.mem_append.1 hc with hc | hc
    · exact (hfront c hc).imp_left Text.isBlank_of_isIndent
    · exact .inl (hend lineEnd hmem c hc)

/-- **An import that can be dropped is made of whole segments.** -/
theorem SideEffect.exists_segments {linked : Linked} {line specifier rest : Text}
    (h : SideEffect line specifier rest) (hdrops : linked.drops specifier = true) :
    ∃ front, segments line = front ++ segments rest ∧
      ∀ {left}, Spares linked (segments rest) left →
        Spares linked (front ++ segments rest) left := by
  cases h with
  | @intro indent gap specifier tail rest quote hindent hgap hquote _ hspecifier htail =>
    have hfront : ∀ c ∈ indent ++ (importWord ++ gap), ¬ IsDelimiter c ∧ c ≠ '/' := fun c hc =>
      not_isDelimiter_of_isClauseChar (isClauseChar_of_mem_line hindent hgap c hc)
    have hline : indent ++ (importWord ++
      (gap ++ quote :: (specifier ++ quote :: (tail ++ rest)))) =
        (indent ++ (importWord ++ gap)) ++ quote :: (specifier ++ quote :: (tail ++ rest)) := by
      simp
    refine ⟨(indent ++ (importWord ++ gap)).map .plain ++
      .literal (quote :: (specifier ++ [quote])) ::
      tail.map .plain, ?_, fun {left} hrest => ?_⟩
    · rw [hline, segments_append_of_plain hfront, segments_specifier hquote hspecifier hdrops,
        segments_append_of_plain htail.isFiller.not_isDelimiter,
        List.append_assoc, List.cons_append]
    · rw [List.append_assoc, List.cons_append]
      exact .lose hindent hgap htail hdrops hrest

theorem Sheds.exists_rest {linked : Linked} {lineStart : Bool} {offset : Nat}
    {s left specifier rest : Text} {found : List Found}
    (h : Sheds linked lineStart offset s left found) (hstart : lineStart = true)
    (hread : sideEffectImport? s = some (specifier, rest))
    (hdrops : linked.drops specifier = true) :
    ∃ lineStart' offset' found', Sheds linked lineStart' offset' rest left found' := by
  cases h with
  | nil => cases hread
  | keep hkeep _ => exact (hkeep hstart ⟨specifier, rest, hread, hdrops⟩).elim
  | lose hread' _ h =>
    rw [hread'] at hread
    cases hread
    exact ⟨_, _, _, h⟩

/-- A piece in which nothing is dropped is left as it is. -/
theorem Sheds.exists_left {linked : Linked} {lineStart : Bool} {offset : Nat} {u t left : Text}
    {found : List Found} (h : Sheds linked lineStart offset (u ++ t) left found)
    (hkeep : ∀ x y, u = x ++ y → y ≠ [] → endsLine lineStart x = true → ¬ Drops linked (y ++ t)) :
    ∃ left' lineStart' offset', left = u ++ left' ∧
      Sheds linked lineStart' offset' t left' found := by
  induction u generalizing lineStart offset left with
  | nil => exact ⟨left, _, _, rfl, h⟩
  | cons c u ih =>
    generalize hs : c :: u ++ t = s at h
    cases h with
    | nil => cases hs
    | @keep _ _ d s left' _ _ h =>
      obtain ⟨rfl, rfl⟩ := List.cons.inj hs
      obtain ⟨left'', lineStart', offset', rfl, hrest⟩ := ih h fun x y hu hy hstart =>
        hkeep (c :: x) y (by rw [hu, List.cons_append]) hy (by rwa [endsLine_cons])
      exact ⟨left'', lineStart', offset', rfl, hrest⟩
    | lose hread hdrops _ =>
      rw [← hs] at hread
      exact (hkeep [] (c :: u) rfl (List.cons_ne_nil c u) rfl ⟨_, _, hread, hdrops⟩).elim

theorem HidesImport.of_append {linked : Linked} {a : List Segment} {s rest : Text}
    (hs : segments s = a ++ segments rest)
    (h : HidesImport linked rest) : HidesImport linked s := by
  obtain ⟨front, segment, back, x, w, hsegments, hsegment⟩ := h
  exact ⟨a ++ front, segment, back, x, w, by rw [hs, hsegments, List.append_assoc], hsegment⟩

/-- Where no import is hidden, the first segment goes on to its end if
nothing is dropped at its start. -/
theorem not_drops_inside {linked : Linked} {lineStart : Bool} {c : Char} {s : Text}
    (hhides : ¬ HidesImport linked (c :: s)) (hdrops : ¬ (lineStart = true ∧ Drops linked (c :: s)))
    (x y : Text) (htext : (nextSegment c s).1.text = x ++ y) (hy : y ≠ [])
    (hstart : endsLine lineStart x = true) :
    ¬ Drops linked (y ++ (nextSegment c s).2) := by
  intro hread
  rcases List.eq_nil_or_concat' x with rfl | ⟨x, d, rfl⟩
  · rw [List.nil_append] at htext
    rw [← htext, (nextSegment_append c s).2] at hread
    exact hdrops ⟨hstart, hread⟩
  · obtain rfl : d = '\n' := by simpa [endsLine] using hstart
    -- a piece that holds a line end and more is no single character
    have hplain : (nextSegment c s).1.isPlain = false := by
      cases hsegment : (nextSegment c s).1 with
      | literal text => rfl
      | comment text => rfl
      | plain e =>
        have hlength := congrArg List.length htext
        have hpos := List.length_pos_iff.2 hy
        rw [hsegment] at hlength
        simp [Segment.text] at hlength
        omega
    refine hhides ⟨[], _, segments (nextSegment c s).2, x, y, ?_,
      hplain, by simpa using htext, hy, ?_⟩
    · rw [segments]
      rfl
    · rwa [wholeText, flatMap_text_segments]

theorem spares_of_sheds {linked : Linked} {lineStart : Bool} {offset : Nat} {s left : Text}
    {found : List Found} (h : Sheds linked lineStart offset s left found)
    (hhides : ¬ HidesImport linked s) :
    Spares linked (segments s) left := by
  -- a step goes over a whole segment or over a whole import, so the induction is on the length
  induction hn : s.length using Nat.strong_induction_on generalizing lineStart
      offset s left found with
  | h n ih =>
    cases s with
    | nil =>
      cases h
      rw [segments]
      exact .nil
    | cons c s =>
      by_cases hdrops : lineStart = true ∧ Drops linked (c :: s)
      · obtain ⟨hstart, specifier, rest, hread, hdrops⟩ := hdrops
        obtain ⟨_, _, _, hrest⟩ := h.exists_rest hstart hread hdrops
        have hside := of_sideEffectImport? hread
        obtain ⟨d, u, hline, -⟩ := hside.exists_text
        obtain ⟨front, hsegments, hspares⟩ := hside.exists_segments hdrops
        rw [hsegments]
        refine hspares (ih rest.length ?_ hrest
          (fun hinner => hhides (.of_append hsegments hinner)) rfl)
        rw [← hn, hline, List.length_cons, List.length_append]
        omega
      · obtain ⟨-, happ⟩ := nextSegment_append c s
        have hsegments : segments (c :: s) = [(nextSegment c s).1] ++
            segments (nextSegment c s).2 := by
          rw [segments]
          rfl
        rw [← happ] at h
        obtain ⟨left', lineStart', offset', rfl, hrest⟩ :=
          h.exists_left (not_drops_inside hhides hdrops)
        rw [hsegments]
        refine .keep (ih _ ?_ hrest ?_ rfl)
        · rw [← hn]
          exact length_nextSegment_lt c s
        · exact fun hinner => hhides (.of_append hsegments hinner)

/-- **What is dropped stands outside of comments and literals just if none of them has a line that
reads like an import that can be dropped.** Then the others are left as they are but for the
specifiers of these imports. -/
theorem dropped_outside_iff (linked : Linked) (code : Text) :
    ((∀ f ∈ dropped linked code, plainAt (segments code) f.offset = true) ↔
      ¬ HidesImport linked code) ∧
      ((∀ f ∈ dropped linked code, plainAt (segments code) f.offset = true) →
        Spares linked (segments code) (dropStyleImports linked code)) :=
  ⟨outside_iff linked code, fun houtside =>
    spares_of_sheds (sheds_dropFrom linked true 0 code) ((outside_iff linked code).1 houtside)⟩

/-- An import on a line of its own. -/
def importLine : Text :=
  "import \"./a.css.proxy.js\";\n".toList

/-- A template literal with this line. -/
def quotedLine : Text :=
  templateQuote :: ('\n' :: importLine ++ [templateQuote])

theorem isLiteral_quotedLine : IsLiteral false quotedLine :=
  ⟨templateQuote, '\n' :: importLine, .inr (.inr rfl), .of_plain (by decide +kernel), rfl⟩

/-- The line is dropped from the literal as it is dropped where it is a statement. -/
theorem dropped_quotedLine :
    (∃ f ∈ dropped .all (assigned quotedLine),
      plainAt (segments (assigned quotedLine)) f.offset = false) ∧
      dropStyleImports .all (assigned quotedLine) = assigned [templateQuote, '\n', templateQuote] ∧
      Spares .all (segments importLine) (dropStyleImports .all importLine) := by
  -- the import is a line of a template literal
  have hhides : HidesImport .all (assigned quotedLine) := by
    refine ⟨assignment.map .plain, .literal quotedLine, ";\n".toList.map .plain, [templateQuote],
      importLine ++ [templateQuote], ?_, rfl, rfl, by simp,
      "./a.css.proxy.js".toList, templateQuote :: ";\n".toList, ?_, ?_⟩
    · have hsegments := segments_assigned isLiteral_quotedLine []
      rwa [List.append_nil, segments.eq_1, List.append_nil] at hsegments
    · rfl
    · decide +kernel
  have hfirst : ∀ f ∈ dropped .all importLine, plainAt (segments importLine) f.offset = true := by
    have hdropped : dropped .all importLine = [⟨0, "./a.css.proxy.js".toList⟩] := by decide +kernel
    have hsegments : segments importLine = .plain 'i' :: segments importLine.tail :=
      segments_plain (by decide) (by decide) _
    rw [hdropped, hsegments]
    simp [plainAt, Segment.text, Segment.isPlain]
  refine ⟨?_, by decide +kernel, (dropped_outside_iff .all importLine).2 hfirst⟩
  by_contra hnone
  refine (dropped_outside_iff .all (assigned quotedLine)).1.1 (fun f hf => ?_) hhides
  by_contra hat
  exact hnone ⟨f, hf, Bool.eq_false_iff.2 hat⟩

end Script
end SiteOptimizer
