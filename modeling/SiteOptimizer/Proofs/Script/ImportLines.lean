import SiteOptimizer.Proofs.Script.ModuleText
import SiteOptimizer.Proofs.Script.SideEffects

/-!
# Imports on one line

The extractor finds an import wherever it stands, the rewriter reads one only at the start
of a line. So in a script of imports, each with a semicolon behind it and maybe a line end,
an import that can be dropped is left if another one stands in front of it on its line
(`shed`). The specifiers of the rewritten script are the ones of the imports that cannot be
dropped just if no import stands so, and rewriting twice makes a difference just if a line
starts with two imports that can be dropped (`dropStyleImports_render`).
-/

namespace SiteOptimizer
namespace Script

open Markup (IsSpace IsQuote)

/-! ## Statements -/

/-- What stands behind an import. -/
inductive Ending where
  | bare
  | semicolon
  | lineFeed
  | carriageReturn
  deriving DecidableEq

/-- The text of an ending. -/
def Ending.text : Ending → Text
  | .bare => []
  | .semicolon => [';']
  | .lineFeed => [';', '\n']
  | .carriageReturn => [';', '\r', '\n']

/-- Whether a line ends here. -/
def Ending.isLine : Ending → Bool
  | .bare | .semicolon => false
  | .lineFeed | .carriageReturn => true

/-- An import as it is written, with a specifier that is not empty. -/
structure Statement where
  declaration : Declaration
  isImport : declaration.form.isImport = true
  ne_nil : declaration.specifier.text ≠ []
  text : Text
  written : declaration.Written text
  ending : Ending

namespace Statement

/-- The specifier of a statement. -/
def specifier (s : Statement) : Text :=
  s.declaration.specifier.text

/-- Whether a statement can be dropped: it imports a plain proxy of a linked
stylesheet for its effect alone. -/
def drops (linked : Linked) (s : Statement) : Bool :=
  s.declaration.form.isEffect && linked.drops s.specifier

/-- The text of a statement. -/
def render (s : Statement) : Text :=
  s.text ++ s.ending.text

end Statement

/-- The text of statements. -/
def render (m : List Statement) : Text :=
  m.flatMap Statement.render

/-- Only the last statement may be without a semicolon. -/
def Separated (m : List Statement) : Prop :=
  m.Pairwise fun s _ => s.ending ≠ .bare

/-- What is left of statements: the ones at the start of a line are dropped, where the first one
stands there if `lineStart` holds. -/
def shed (linked : Linked) : Bool → List Statement → List Statement
  | _, [] => []
  | lineStart, s :: m =>
    if lineStart && s.drops linked then shed linked s.ending.isLine m
    else s :: shed linked s.ending.isLine m

theorem shed_of_drops {linked : Linked} {s : Statement} (h : s.drops linked = true)
    (m : List Statement) :
    shed linked true (s :: m) = shed linked s.ending.isLine m := by
  rw [shed, h, Bool.and_self, if_pos rfl]

theorem shed_of_keeps {linked : Linked} {lineStart : Bool} {s : Statement}
    (h : (lineStart && s.drops linked) = false) (m : List Statement) :
    shed linked lineStart (s :: m) = s :: shed linked s.ending.isLine m := by
  rw [shed, h, if_neg Bool.false_ne_true]

theorem sublist_shed (linked : Linked) (lineStart : Bool) (m : List Statement) :
    (shed linked lineStart m).Sublist m := by
  fun_induction shed linked lineStart m with
  | case1 => exact .slnil
  | case2 lineStart s m _ ih => exact ih.cons s
  | case3 lineStart s m _ ih => exact ih.cons_cons s

/-! ## Where an import starts -/

/-- Texts that go on with their first quote go on alike. -/
theorem eq_of_first_quote {a b x y : Text} {p q : Char} (ha : ∀ c ∈ a, ¬ IsQuote c)
    (hb : ∀ c ∈ b, ¬ IsQuote c) (hp : IsQuote p) (hq : IsQuote q)
    (h : a ++ p :: x = b ++ q :: y) : a = b := by
  have hall {a : Text} (ha : ∀ c ∈ a, ¬ IsQuote c) :
      ∀ c ∈ a, (!(c == '"' || c == '\'')) = true := by
    intro c hc
    have hquote := ha c hc
    rw [IsQuote] at hquote
    simpa using hquote
  have hstop {p : Char} (hp : IsQuote p) (x : Text) :
      ∀ c, (p :: x).head? = some c → (!(c == '"' || c == '\'')) = false := by
    intro c hc
    obtain rfl : p = c := by simpa using hc
    rcases hp with rfl | rfl <;> rfl
  rw [← (Markup.takeWhile_exact (hall ha) (hstop hp x)).1, h,
    (Markup.takeWhile_exact (hall hb) (hstop hq y)).1]

theorem not_isQuote_of_isClauseChar {c : Char} (h : isClauseChar c = true) : ¬ IsQuote c :=
  fun hquote => (not_isDelimiter_of_isClauseChar h).1 (isDelimiter_of_isQuote hquote)

/-- An import that is read in front of a specifier has nothing but its word and
white space in front of it. -/
theorem exists_of_sideEffectImport?_render {z t : Text} (hz : ∀ c ∈ z, isClauseChar c = true)
    (s : Specifier) {found : Text × Text}
    (h : sideEffectImport? (z ++ (s.render ++ t)) = some found) :
    ∃ indent gap, z = indent ++ (importWord ++ gap) ∧ IsSpace gap := by
  obtain ⟨specifier, rest⟩ := found
  generalize hline : z ++ (s.render ++ t) = line at h
  cases of_sideEffectImport? h with
  | @intro indent gap _ tail _ quote hindent hgap hquote =>
    refine ⟨indent, gap, ?_, hgap⟩
    have hfront : ∀ c ∈ indent ++ (importWord ++ gap), ¬ IsQuote c := fun c hc =>
      not_isQuote_of_isClauseChar (isClauseChar_of_mem_line hindent hgap c hc)
    rw [s.render_append] at hline
    exact eq_of_first_quote (x := s.text ++ s.quote :: t)
      (y := specifier ++ quote :: (tail ++ rest)) (fun c hc =>
        not_isQuote_of_isClauseChar (hz c hc)) hfront s.isQuote hquote (by simpa using hline)

/-- What stands in front of the specifier of an import ends with the word of an import only if it is
one for its effect, and then it is all of it. -/
theorem Form.front_eq {form : Form} (himport : form.isImport = true) {head gap : Text}
    (h : Spaced (.word form.firstWord :: form.inner) head) (hgap : IsSpace gap) {x gap' : Text}
    (hgap' : IsSpace gap') (heq : head ++ gap = x ++ (importWord ++ gap')) :
    form.isEffect = true ∧ x = [] := by
  obtain ⟨y, rfl, -, hend⟩ := form.head_import himport h
  rcases hend with ⟨heffect, rfl⟩ | ⟨-, w, -, rfl⟩
  · refine ⟨heffect, ?_⟩
    cases x with
    | nil => rfl
    | cons c x =>
      -- behind its first letter there is no other `i`
      have hword : importWord = 'i' :: "mport".toList := rfl
      rw [List.append_nil, hword, List.cons_append, List.cons_append] at heq
      have htail := (List.cons.inj heq).2
      have hmem : 'i' ∈ "mport".toList ++ gap := by
        rw [htail]
        simp
      rcases List.mem_append.1 hmem with hmem | hmem
      · exact absurd hmem (by decide)
      · exact absurd (hgap _ hmem) (by decide)
  · -- one of the two ends with `from`, the other one with `import`
    have hlast {u : Text} {c : Char} (hc : u.getLast? = some c) (hblank : Text.isBlank c = false)
      {gap : Text} (hgap : IsSpace gap) :
          (Text.dropEndWhile Text.isBlank (u ++ gap)).getLast? = some c := by
      rw [Text.dropEndWhile_append hgap, Text.dropEndWhile_eq_self, hc]
      intro d hd
      rw [hc] at hd
      cases hd
      exact hblank
    have hfrom := hlast (u := importWord ++ (w ++ fromWord)) (c := 'm')
      (by simp [fromWord]) (by decide) hgap
    have himportWord := hlast (u := x ++ importWord) (c := 't')
      (by simp [importWord]) (by decide) hgap'
    rw [heq, ← List.append_assoc, himportWord] at hfrom
    cases hfrom

/-! ## What statements shed -/

theorem Specifier.endsLine_render (s : Specifier) (lineStart : Bool) (u : Text) :
    endsLine lineStart (u ++ s.render) = false := by
  have hquote : s.quote ≠ '\n' := s.ne_of_not_isQuote (by unfold IsQuote; decide)
  rw [endsLine, s.getLast?_render]
  exact decide_eq_false hquote

/-- Inside of an import no import stands at the start of a line. -/
theorem quiet_front {form : Form} (himport : form.isImport = true) {head gap : Text}
    (h : Spaced (.word form.firstWord :: form.inner) head) (hgap : IsSpace gap) (s : Specifier)
    {x z : Text} (hcut : head ++ gap = x ++ z) (hx : x ≠ []) (t : Text) (lineStart : Bool) :
    Quiet lineStart (z ++ s.render) t := by
  have hfront := of_mem_front h hgap
  rw [hcut] at hfront
  induction z generalizing x lineStart with
  | nil =>
    have hline : '\n' ∉ s.render := s.not_mem_render (by decide)
    rw [Specifier.render, List.mem_cons, not_or] at hline
    have hempty : IsSpace [] := by simp [IsSpace]
    refine ⟨fun _ => sideEffectImport?_space hempty s.isQuote _, ?_⟩
    rw [decide_eq_false (Ne.symm hline.1)]
    exact quiet_of_not_mem hline.2 t
  | cons c z ih =>
    -- an import that is read from here would be the whole front, but `x` stands in front of it
    refine ⟨fun _ => ?_, ih (x := x ++ [c]) (by simpa using hcut) (by simp)
      _ (by simpa using hfront)⟩
    cases hread : sideEffectImport? (c :: (z ++ s.render ++ t)) with
    | none => rfl
    | some found =>
      obtain ⟨indent, gap', hz, hgap'⟩ := exists_of_sideEffectImport?_render (z := c :: z)
        (fun d hd => hfront d (List.mem_append_right x hd)) s (by simpa using hread)
      rw [hz, ← List.append_assoc] at hcut
      obtain ⟨-, hnil⟩ := form.front_eq himport h hgap hgap' hcut
      exact absurd (List.append_eq_nil_iff.1 hnil).1 hx

theorem Declaration.Written.of_isEffect {d : Declaration} {text : Text} (h : d.Written text)
    (heffect : d.form.isEffect = true) :
    ∃ gap, IsSpace gap ∧ text = importWord ++ (gap ++ d.specifier.render) := by
  obtain ⟨form, specifier⟩ := d
  cases h with
  | intro hhead hgap =>
    cases form with
    | importEffect =>
      cases hhead
      exact ⟨_, hgap, rfl⟩
    | importClause clause => cases heffect
    | exportList names => cases heffect
    | exportAll => cases heffect
    | exportAllAs name => cases heffect

theorem lineTail_ending (e : Ending) : LineTail e.text := by
  cases e with
  | bare => exact @LineTail.intro [] [] (by simp) (by simp)
  | semicolon => exact @LineTail.intro [';'] [] (by simp) (by simp)
  | lineFeed => exact @LineTail.intro [';'] ['\n'] (by simp) (by simp)
  | carriageReturn => exact @LineTail.intro [';'] ['\r', '\n'] (by simp) (by simp)

/-- What may follow a statement. -/
structure Ending.Follows (e : Ending) (t : Text) : Prop where
  bare : e = .bare → t = []
  start : t = [] ∨ ∃ u, t = 'i' :: u

theorem Ending.Follows.lineRest {e : Ending} {t : Text} (h : e.Follows t) :
    lineRest (e.text ++ t) = t := by
  cases e with
  | bare =>
    rw [h.bare rfl]
    rfl
  | semicolon =>
    rcases h.start with rfl | ⟨u, rfl⟩ <;> rfl
  | lineFeed => rfl
  | carriageReturn => rfl

namespace Statement

variable (s : Statement)

/-- Behind its first letter no import stands at the start of a line of a statement. -/
theorem exists_quiet (t : Text) : ∃ u, s.text = 'i' :: u ∧ Quiet false (u ++ s.ending.text) t := by
  obtain ⟨d, himport, hne, text, hwritten, ending⟩ := s
  cases hwritten with
  | @intro head gap hhead hgap =>
    obtain ⟨y, rfl, -⟩ := d.form.head_import himport hhead
    have hword : importWord = 'i' :: "mport".toList := rfl
    refine ⟨"mport".toList ++ (y ++ (gap ++ d.specifier.render)), by simp [hword], ?_⟩
    have hfront := quiet_front himport hhead hgap d.specifier (x := ['i'])
      (z := "mport".toList ++ (y ++ gap)) (by simp [hword]) (by simp) (ending.text ++ t) false
    have hquiet := hfront.append
      (by rw [d.specifier.endsLine_render]; exact quiet_lineTail (lineTail_ending ending) t)
    simpa using hquiet

theorem isLine_eq (lineStart : Bool) : endsLine lineStart s.render = s.ending.isLine := by
  obtain ⟨d, himport, hne, text, hwritten, ending⟩ := s
  cases hwritten with
  | @intro head gap hhead hgap =>
    rw [Statement.render, endsLine_append]
    dsimp only
    rw [← List.append_assoc, d.specifier.endsLine_render]
    cases ending <;> rfl

/-- An import for its effect is read at the start of a line. -/
theorem sideEffectImport?_render (heffect : s.declaration.form.isEffect = true) {t : Text}
    (ht : s.ending.Follows t) :
    sideEffectImport? (s.render ++ t) = some (s.specifier, t) := by
  obtain ⟨gap, hgap, htext⟩ := s.written.of_isEffect heffect
  have hline : s.render ++ t = importWord ++
      (gap ++ (s.declaration.specifier.render ++ (s.ending.text ++ t))) := by
    simp [Statement.render, htext]
  have hafter : Text.after? "import".toList
    ((importWord ++ (gap ++ (s.declaration.specifier.render ++
      (s.ending.text ++ t)))).dropWhile Text.isIndent) =
        some (gap ++ (s.declaration.specifier.render ++ (s.ending.text ++ t))) :=
          Text.after?_eq_some_iff.2 rfl
  have hdrop : (gap ++ (s.declaration.specifier.render ++ (s.ending.text ++ t))).dropWhile
      Text.isBlank = s.declaration.specifier.render ++ (s.ending.text ++ t) := by
    rw [Specifier.render_append]
    exact dropWhile_space hgap s.declaration.specifier.isBlank_quote _
  rw [hline, sideEffectImport?, hafter, Option.bind_some, hdrop, Specifier.specifier?_render,
    if_neg s.ne_nil, Option.map_some]
  exact congrArg (fun rest => some (s.specifier, rest)) ht.lineRest

/-- No other statement is. -/
theorem isEffect_of_sideEffectImport? {t : Text} {found : Text × Text}
    (h : sideEffectImport? (s.render ++ t) = some found) : s.declaration.form.isEffect = true := by
  obtain ⟨d, himport, hne, text, hwritten, ending⟩ := s
  cases hwritten with
  | @intro head gap hhead hgap =>
    have hline : head ++ (gap ++ d.specifier.render) ++ ending.text ++ t =
        (head ++ gap) ++ (d.specifier.render ++ (ending.text ++ t)) := by simp
    rw [Statement.render, hline] at h
    obtain ⟨indent, gap', hfront, hgap'⟩ :=
      exists_of_sideEffectImport?_render (of_mem_front hhead hgap) _ h
    exact (d.form.front_eq himport hhead hgap hgap' hfront).1

end Statement

theorem Separated.follows {s : Statement} {m : List Statement} (h : Separated (s :: m)) :
    s.ending.Follows (render m) := by
  cases m with
  | nil => exact ⟨fun _ => rfl, .inl rfl⟩
  | cons t m =>
    obtain ⟨u, hu, -⟩ := t.exists_quiet []
    refine ⟨fun hbare => absurd hbare ((List.pairwise_cons.1 h).1 t List.mem_cons_self), .inr ?_⟩
    rw [render, List.flatMap_cons, Statement.render, hu]
    exact ⟨_, rfl⟩

/-- **Statements shed the ones at the start of a line that can be dropped.** -/
theorem sheds_render (linked : Linked) {m : List Statement} (h : Separated m)
    (lineStart : Bool) (offset : Nat) :
    ∃ found, Sheds linked lineStart offset (render m) (render (shed linked lineStart m)) found := by
  induction m generalizing lineStart offset with
  | nil => exact ⟨[], .nil⟩
  | cons s m ih =>
    have hfollows := h.follows
    obtain ⟨u, hu, hquiet⟩ := s.exists_quiet (render m)
    have hrender : s.render = 'i' :: (u ++ s.ending.text) := by
      rw [Statement.render, hu, List.cons_append]
    have hline : endsLine false (u ++ s.ending.text) = s.ending.isLine := by
      rw [← s.isLine_eq true, hrender, endsLine_cons]
      rfl
    obtain ⟨found, hrest⟩ :=
      ih (List.pairwise_cons.1 h).2 s.ending.isLine (offset + 1 + (u ++ s.ending.text).length)
    rw [← hline] at hrest
    have htext : render (s :: m) = 'i' :: ((u ++ s.ending.text) ++ render m) := by
      rw [render, List.flatMap_cons, hrender]
      rfl
    cases hdrops : (lineStart && s.drops linked) with
    | true =>
      obtain ⟨rfl, hs⟩ := Bool.and_eq_true_iff.1 hdrops
      obtain ⟨heffect, hlinked⟩ := Bool.and_eq_true_iff.1 hs
      have hread := s.sideEffectImport?_render heffect hfollows
      rw [hrender, List.cons_append] at hread
      rw [htext, shed_of_drops hs, ← hline]
      exact ⟨_, .lose hread hlinked hrest⟩
    | false =>
      have hleft : render (shed linked lineStart (s :: m)) =
          'i' :: ((u ++ s.ending.text) ++ render (shed linked s.ending.isLine m)) := by
        rw [shed_of_keeps hdrops, render, List.flatMap_cons, hrender]
        rfl
      rw [htext, hleft, ← hline]
      -- the statement is kept as a whole, since nothing in it stands at the start of a line
      refine ⟨found, .keep (fun hstart hdropped => ?_) (.quiet hquiet hrest)⟩
      obtain ⟨specifier, rest, hread, hlinked⟩ := hdropped
      have hwhole : 'i' :: ((u ++ s.ending.text) ++ render m) = s.render ++ render m := by
        rw [hrender]; rfl
      rw [hwhole] at hread
      have heffect := s.isEffect_of_sideEffectImport? hread
      rw [s.sideEffectImport?_render heffect hfollows] at hread
      cases hread
      rw [hstart, Statement.drops, heffect, hlinked] at hdrops
      cases hdrops

/-- **The rewriter drops the statements at the start of a line that can be dropped.** -/
theorem dropStyleImports_eq_shed (linked : Linked) {m : List Statement} (h : Separated m) :
    dropStyleImports linked (render m) = render (shed linked true m) := by
  obtain ⟨found, hsheds⟩ := sheds_render linked h true 0
  exact ((sheds_dropFrom linked true 0 (render m)).unique hsheds).1

end Script
end SiteOptimizer
