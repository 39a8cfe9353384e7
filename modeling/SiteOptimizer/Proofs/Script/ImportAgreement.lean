import SiteOptimizer.Proofs.Script.ImportLines

/-!
# What the extractor makes of a rewritten script

The extractor finds the specifiers of all statements of a script of imports, on one line or
many (`specifiers_render`). Export text in a specifier may be read, but what starts in a
literal does not count. So the specifiers of the rewritten script are the ones of the
statements that are left, and whether these are the ones that cannot be dropped is a matter of
lines alone (`dropStyleImports_render`).
-/

namespace SiteOptimizer
namespace Script

open Markup (IsSpace IsQuote)

/-! ## The specifiers of statements -/

theorem isFiller_ending (e : Ending) : IsFiller e.text := by
  cases e <;> intro c hc <;> simp only [Ending.text, List.mem_cons,
    List.not_mem_nil, or_false] at hc
  · exact .inr hc
  · rcases hc with rfl | rfl
    · exact .inr rfl
    · exact .inl (by decide)
  · rcases hc with rfl | rfl | rfl
    · exact .inr rfl
    · exact .inl (by decide)
    · exact .inl (by decide)

/-- What stands in front of the specifier of an import, and what is found there. -/
theorem Declaration.Written.exists_front {d : Declaration} {text : Text} (h : d.Written text)
    (himport : d.form.isImport = true) (hne : d.specifier.text ≠ []) :
    ∃ front, text = front ++ d.specifier.render ∧ front ≠ [] ∧
      (∀ c ∈ front, ¬ IsDelimiter c ∧ c ≠ '/') ∧
      (∀ t, Yields importStatement? text t [⟨0, d.specifier.text⟩]) ∧
      ∀ before t, Silent exportStatement? before front (d.specifier.render ++ t) := by
  cases h with
  | @intro head gap hhead hgap =>
    have hword : head ++ gap ≠ [] := by
      simp [hhead.ne_nil d.form.firstWord_ne_nil]
    refine ⟨head ++ gap, by simp, hword, fun c hc => ?_, fun t => ?_, fun before t => ?_⟩
    · exact not_isDelimiter_of_isClauseChar (of_mem_front hhead hgap c hc)
    · exact yields_written d.specifier hne
        (importStatement?_written himport hhead hgap d.specifier t)
    · exact silent_export_import himport hhead hgap (d.specifier.breaks_render t) before

namespace Statement

variable (s : Statement)

theorem exists_front : ∃ front, s.text = front ++ s.declaration.specifier.render ∧ front ≠ [] ∧
    (∀ c ∈ front, ¬ IsDelimiter c ∧ c ≠ '/') ∧
    (∀ t, Yields importStatement? s.text t [⟨0, s.specifier⟩]) ∧
    ∀ before t, Silent exportStatement? before front (s.declaration.specifier.render ++ t) :=
  s.written.exists_front s.isImport s.ne_nil

/-- The segments of a statement. -/
def pieces (front : Text) : List Segment :=
  front.map .plain ++ .literal s.declaration.specifier.render :: s.ending.text.map .plain

end Statement

section

variable (s : Statement) {front : Text} (m : List Statement)

theorem segments_render_cons (hfront : ∀ c ∈ front, ¬ IsDelimiter c ∧ c ≠ '/')
    (htext : s.text = front ++ s.declaration.specifier.render) :
    segments (render (s :: m)) = s.pieces front ++ segments (render m) := by
  have hrender : render (s :: m) = front ++
      (s.declaration.specifier.render ++ (s.ending.text ++ render m)) := by
    simp [render, Statement.render, htext]
  rw [hrender, segments_append_of_plain hfront,
    segments_literal s.declaration.specifier.isLiteral_render.isQuoted,
    segments_append_of_plain (isFiller_ending s.ending).not_isDelimiter]
  simp [Statement.pieces]

theorem strippedText_pieces (htext : s.text = front ++ s.declaration.specifier.render) :
    strippedText (s.pieces front) = s.render := by
  have hplain : ∀ u : Text, (u.map Segment.plain).flatMap Segment.stripped = u :=
    flatMap_stripped_plain
  simp [strippedText, Statement.pieces, Statement.render, htext, hplain, Segment.stripped]

theorem render_cons : render (s :: m) = s.render ++ render m :=
  List.flatMap_cons

/-- Stripping leaves statements as they are. -/
theorem strippedText_render : strippedText (segments (render m)) = render m := by
  induction m with
  | nil =>
    rw [render, List.flatMap_nil, segments]
    rfl
  | cons s m ih =>
    obtain ⟨front, htext, -, hfront, -⟩ := s.exists_front
    rw [segments_render_cons s m hfront htext, strippedText_append,
      strippedText_pieces s htext, ih, render_cons]

theorem literalAt_render_add (hfront : ∀ c ∈ front, ¬ IsDelimiter c ∧ c ≠ '/')
    (htext : s.text = front ++ s.declaration.specifier.render) (place : Nat) :
    literalAt (segments (render (s :: m))) (s.render.length + place) =
      literalAt (segments (render m)) place := by
  have hplace := literalAt_append (s.pieces front) (segments (render m)) place
  have hlength := congrArg List.length (strippedText_pieces s htext)
  rw [strippedText] at hlength
  rw [segments_render_cons s m hfront htext, ← hlength, hplace]

end

/-- **The imports that are found in statements**: each of them outside of literals. -/
theorem exists_imports_render (m : List Statement) :
    ∃ found, statements importStatement? (render m) = found ∧
      found.map (·.specifier) = m.map (·.specifier) ∧
      ∀ f ∈ found, literalAt (segments (render m)) f.offset = false := by
  induction m with
  | nil => exact ⟨[], rfl, rfl, by simp⟩
  | cons s m ih =>
    obtain ⟨found, hfound, hspecifiers, hplain⟩ := ih
    obtain ⟨front, htext, hne, hfront, himport, -⟩ := s.exists_front
    have hyields : Yields importStatement? s.render (render m) [⟨0, s.specifier⟩] := by
      simpa [Statement.render] using
        (himport (s.ending.text ++ render m)).append
          ((isFiller_ending s.ending).yields_import (render m))
    have hsearch : statements importStatement? (render (s :: m)) =
        ⟨0, s.specifier⟩ :: found.map (Found.shift s.render.length) := by
      rw [statements, render_cons, hyields none rfl, List.singleton_append, ← hfound]
      exact congrArg _ (occurrences_add s.render.length 0 none 0 (render m))
    refine ⟨_, hsearch, ?_, fun f hf => ?_⟩
    · rw [List.map_cons, List.map_cons, ← hspecifiers, List.map_map]
      rfl
    -- the first place is in the front of the first statement, which is no literal; the others lie
    -- behind it
    · rcases List.mem_cons.1 hf with rfl | hf
      · rw [segments_render_cons s m hfront htext, Statement.pieces, List.append_assoc]
        exact literalAt_plain_append (List.length_pos_iff.2 hne) _
      · obtain ⟨g, hg, rfl⟩ := List.mem_map.1 hf
        exact (literalAt_render_add s m hfront htext g.offset).trans (hplain g hg)

/-- **An export that is found in statements starts in a literal.** -/
theorem literalAt_of_mem_exports {m : List Statement} {skip : Nat} {before : Option Char}
    {f : Found} (h : f ∈ occurrences exportStatement? skip before 0 (render m)) :
    literalAt (segments (render m)) f.offset = true := by
  induction m generalizing skip before f with
  | nil => cases h
  | cons s m ih =>
    obtain ⟨front, htext, -, hfront, -, hexport⟩ := s.exists_front
    have hrender : render (s :: m) = front ++
        (s.declaration.specifier.render ++ (s.ending.text ++ render m)) := by
      simp [render, Statement.render, htext]
    -- the search may be inside of a statement anywhere, as one that starts in a
    -- specifier may go on behind it
    obtain ⟨found, skip', hfound, hsearch⟩ := @exists_occurrences_append exportStatement?
      (skip - front.length) (lastOf before front) (0 + front.length) s.declaration.specifier.render
      (s.ending.text ++ render m)
    rw [hrender, occurrences_silent (hexport before _), hsearch,
      occurrences_silent ((isFiller_ending s.ending).silent_export _ _)] at h
    rcases List.mem_append.1 h with h | h
    · obtain ⟨hstart, hstop⟩ := hfound f h
      obtain ⟨k, hk⟩ := Nat.exists_eq_add_of_le hstart
      have hplain : ((front.map Segment.plain).flatMap Segment.stripped).length =
          0 + front.length := by
        rw [flatMap_stripped_plain, Nat.zero_add]
      have hinside : k < (Segment.literal s.declaration.specifier.render).stripped.length := by
        rw [Segment.stripped]
        omega
      rw [segments_render_cons s m hfront htext, Statement.pieces, List.append_assoc, hk, ← hplain,
        literalAt_append, List.cons_append, literalAt, if_pos hinside]
      rfl
    · have hoffset : 0 + front.length + s.declaration.specifier.render.length +
          s.ending.text.length = s.render.length + 0 := by
        rw [Statement.render, htext, List.length_append, List.length_append]
        omega
      rw [hoffset, occurrences_add] at h
      obtain ⟨g, hg, rfl⟩ := List.mem_map.1 h
      exact (literalAt_render_add s m hfront htext g.offset).trans (ih hg)

/-- **The specifiers of statements are found in their order.** -/
theorem specifiers_render (m : List Statement) : specifiers (render m) = m.map (·.specifier) := by
  obtain ⟨found, hfound, hspecifiers, hplain⟩ := exists_imports_render m
  have hexports : outside (segments (render m)) (statements exportStatement? (render m)) = [] := by
    refine List.filter_eq_nil_iff.2 fun f hf => ?_
    rw [literalAt_of_mem_exports hf]
    simp
  have himports : outside (segments (render m)) found = found :=
    List.filter_eq_self.2 fun f hf => by rw [hplain f hf]; rfl
  have hsorted : inOrder found = found := by
    rw [← hfound]
    exact List.mergeSort_of_pairwise (pairwise_occurrences importStatement? 0 none 0 (render m))
  rw [specifiers_eq, specifiersIn, allFound, strippedText_render, hfound,
    outside, List.filter_append]
  rw [outside] at hexports himports
  rw [hexports, himports, List.append_nil, hsorted, hspecifiers]

/-! ## What is left on a line -/

section

variable (linked : Linked)

/-- The statements that cannot be dropped. -/
def undropped (m : List Statement) : List Statement :=
  m.filter fun s => !s.drops linked

theorem undropped_of_drops {s : Statement} (h : s.drops linked = true) (m : List Statement) :
    undropped linked (s :: m) = undropped linked m :=
  List.filter_cons_of_neg (by simp [h])

theorem undropped_of_keeps {s : Statement} (h : s.drops linked = false) (m : List Statement) :
    undropped linked (s :: m) = s :: undropped linked m :=
  List.filter_cons_of_pos (by simp [h])

/-- Only statements that cannot be dropped are left just if the others all
stand at the start of a line. -/
theorem shed_eq_undropped_iff (lineStart : Bool) (m : List Statement) :
    shed linked lineStart m = undropped linked m ↔
      (lineStart = true ∨ ∀ s ∈ m.head?, s.drops linked = false) ∧
      m.IsChain fun s t => s.ending.isLine = true ∨ t.drops linked = false := by
  induction m generalizing lineStart with
  | nil => simp [shed, undropped]
  | cons s m ih =>
    have hchain : (s :: m).IsChain (fun s t => s.ending.isLine = true ∨ t.drops linked = false) ↔
        (s.ending.isLine = true ∨ ∀ t ∈ m.head?, t.drops linked = false) ∧
          m.IsChain fun s t => s.ending.isLine = true ∨ t.drops linked = false := by
      rw [List.isChain_cons]
      refine and_congr_left fun _ => ⟨fun h => ?_, fun h t ht => h.imp_right fun h => h t ht⟩
      by_cases hline : s.ending.isLine = true
      · exact .inl hline
      · exact .inr fun t ht => (h t ht).resolve_left hline
    -- the next statement starts a line just if this one ends its own, whether or not it is left
    rw [hchain, ← ih]
    cases hs : s.drops linked with
    | true =>
      rw [undropped_of_drops linked hs]
      cases lineStart with
      | true => simp [shed_of_drops hs]
      | false =>
        have hmem : s ∉ undropped linked m :=
          fun hmem => by simpa [hs] using (List.mem_filter.1 hmem).2
        rw [shed_of_keeps (Bool.false_and _)]
        refine ⟨fun h => absurd (h ▸ List.mem_cons_self) hmem, fun h => ?_⟩
        simp [hs] at h
    | false =>
      rw [undropped_of_keeps linked hs, shed_of_keeps (by simp [hs])]
      simp [hs]

theorem undropped_sublist_shed (lineStart : Bool) (m : List Statement) :
    (undropped linked m).Sublist (shed linked lineStart m) := by
  fun_induction shed linked lineStart m with
  | case1 => exact .slnil
  | case2 lineStart s m hs ih =>
    rw [undropped_of_drops linked (Bool.and_eq_true_iff.1 hs).2]
    exact ih
  | case3 lineStart s m _ ih =>
    cases hs : s.drops linked with
    | true =>
      rw [undropped_of_drops linked hs]
      exact ih.cons s
    | false =>
      rw [undropped_of_keeps linked hs]
      exact ih.cons_cons s

/-- A line starts with two imports that can be dropped; the first statement starts
a line if `lineStart` holds. -/
def Doubled (lineStart : Bool) (m : List Statement) : Prop :=
  ∃ front s t back, m = front ++ s :: t :: back ∧
    front.getLast?.elim lineStart (fun r => r.ending.isLine) = true ∧ s.drops linked = true ∧
      s.ending.isLine = false ∧ t.drops linked = true

theorem not_doubled_nil (lineStart : Bool) : ¬ Doubled linked lineStart [] := by
  rintro ⟨front, s, t, back, h, -⟩
  simp at h

theorem doubled_cons (lineStart : Bool) (s : Statement) (m : List Statement) :
    Doubled linked lineStart (s :: m) ↔
      (lineStart = true ∧ s.drops linked = true ∧ s.ending.isLine = false ∧
        ∃ t ∈ m.head?, t.drops linked = true) ∨
        Doubled linked s.ending.isLine m := by
  -- the statement in front of the pair decides whether the pair starts a line
  have hlast (front : List Statement) :
      (s :: front).getLast?.elim lineStart (fun r => r.ending.isLine) =
        front.getLast?.elim s.ending.isLine (fun r => r.ending.isLine) := by
    rw [List.getLast?_cons]
    cases front.getLast? <;> rfl
  constructor
  · rintro ⟨front, s', t, back, hm, hstart, hs, hline, ht⟩
    cases front with
    | nil =>
      obtain ⟨rfl, rfl⟩ := List.cons.inj hm
      exact .inl ⟨hstart, hs, hline, t, rfl, ht⟩
    | cons r front =>
      obtain ⟨rfl, rfl⟩ := List.cons.inj hm
      exact .inr ⟨front, s', t, back, rfl, by rwa [hlast] at hstart, hs, hline, ht⟩
  · rintro (⟨hstart, hs, hline, t, ht, hdrops⟩ | ⟨front, s', t, back, rfl, hstart, hs, hline, ht⟩)
    · obtain ⟨back, rfl⟩ := List.head?_eq_some_iff.1 ht
      exact ⟨[], s, t, back, rfl, hstart, hs, hline, hdrops⟩
    · exact ⟨s :: front, s', t, back, rfl, by rwa [hlast], hs, hline, ht⟩

/-- What is left sheds nothing just if no line starts with two imports that can be dropped. -/
theorem shed_shed_iff (lineStart : Bool) (m : List Statement) :
    shed linked lineStart (shed linked lineStart m) = shed linked lineStart m ↔
      ¬ Doubled linked lineStart m := by
  induction m generalizing lineStart with
  | nil => simp [shed, not_doubled_nil]
  | cons s m ih =>
    rw [doubled_cons]
    cases hs : lineStart && s.drops linked with
    | false =>
      have hno : ¬ (lineStart = true ∧ s.drops linked = true ∧ s.ending.isLine = false ∧
          ∃ t ∈ m.head?, t.drops linked = true) := by
        rintro ⟨hstart, hdrops, -⟩
        rw [hstart, hdrops] at hs
        cases hs
      rw [shed_of_keeps hs, shed_of_keeps hs, List.cons_inj_right, ih, or_iff_right hno]
    | true =>
      obtain ⟨rfl, hdrops⟩ := Bool.and_eq_true_iff.1 hs
      rw [shed_of_drops hdrops]
      cases hline : s.ending.isLine with
      | true => simp [ih]
      | false =>
        cases m with
        | nil => simp [shed, not_doubled_nil]
        | cons t m =>
          have hnext := ih false
          rw [shed_of_keeps (Bool.false_and _), shed_of_keeps (Bool.false_and _)] at hnext
          rw [shed_of_keeps (Bool.false_and _)]
          cases ht : t.drops linked with
          | true =>
            -- the second of the two stands at the start of the line now
            rw [shed_of_drops ht]
            refine iff_of_false (fun h => ?_) (by simp [hdrops, ht])
            have hlength := (sublist_shed linked t.ending.isLine
              (shed linked t.ending.isLine m)).length_le
            rw [h, List.length_cons] at hlength
            omega
          | false =>
            rw [shed_of_keeps (by simp [ht]), hnext]
            simp [ht]

end

theorem length_render_pos (s : Statement) : 0 < s.render.length := by
  obtain ⟨u, hu, -⟩ := s.exists_quiet []
  rw [Statement.render, hu]
  exact Nat.succ_pos _

/-- Statements of which some are left out have another text. -/
theorem eq_of_render_eq {m m' : List Statement} (h : m'.Sublist m)
    (hrender : render m' = render m) : m' = m := by
  -- no statement is empty, so leaving one out shortens the text
  have hle : ∀ {m m' : List Statement}, m'.Sublist m → (render m').length ≤ (render m).length := by
    intro m m' h
    induction h with
    | slnil => exact Nat.le_refl _
    | cons s _ ih =>
      rw [render_cons, List.length_append]
      omega
    | cons_cons s _ ih =>
      rw [render_cons, render_cons, List.length_append, List.length_append]
      omega
  induction h with
  | slnil => rfl
  | @cons m' m s h _ =>
    have hlength := congrArg List.length hrender
    rw [render_cons, List.length_append] at hlength
    have hpos := length_render_pos s
    have hshort := hle h
    omega
  | cons_cons s h ih =>
    rw [render_cons, render_cons] at hrender
    rw [ih (List.append_cancel_left hrender)]

/-- **What the extractor finds in a rewritten script.** These are the specifiers of the
statements that are left. They are the ones of the statements that cannot be dropped just if each
that can be dropped stands first on its line, and a second rewriting changes nothing just if no
line starts with two of them. -/
theorem dropStyleImports_render (linked : Linked) {m : List Statement} (h : Separated m) :
    specifiers (dropStyleImports linked (render m)) = (shed linked true m).map (·.specifier) ∧
    (specifiers (dropStyleImports linked (render m)) = (undropped linked m).map (·.specifier) ↔
      m.IsChain fun s t => s.ending.isLine = true ∨ t.drops linked = false) ∧
    (dropStyleImports linked (dropStyleImports linked (render m)) =
      dropStyleImports linked (render m) ↔
      ¬ Doubled linked true m) := by
  have hsublist := sublist_shed linked true m
  have hspecifiers : specifiers (dropStyleImports linked (render m)) =
      (shed linked true m).map (·.specifier) := by
    rw [dropStyleImports_eq_shed linked h, specifiers_render]
  have hshed := shed_eq_undropped_iff linked true m
  rw [and_iff_right (.inl rfl)] at hshed
  refine ⟨hspecifiers, ?_, ?_⟩
  · rw [hspecifiers, ← hshed]
    refine ⟨fun hmap => ?_, fun heq => by rw [heq]⟩
    have hlength : (undropped linked m).length = (shed linked true m).length := by
      simpa using (congrArg List.length hmap).symm
    exact ((undropped_sublist_shed linked true m).eq_of_length hlength).symm
  · rw [dropStyleImports_eq_shed linked h,
      dropStyleImports_eq_shed linked (List.Pairwise.sublist hsublist h),
      ← shed_shed_iff]
    exact ⟨eq_of_render_eq (sublist_shed linked true _), congrArg render⟩

/-- The import of a proxy for its effect, with a semicolon behind it. -/
def importA : Statement where
  declaration := ⟨.importEffect, ⟨'"', "./a.css.proxy.js".toList, isQuote_double, by decide,
    .of_plain (by decide)⟩⟩
  isImport := rfl
  ne_nil := by decide
  text := "import \"./a.css.proxy.js\"".toList
  written := @Declaration.Written.intro _ "import".toList " ".toList
    (.last (.word importWord)) (by decide)
  ending := .semicolon

/-- The import of another one. -/
def importB : Statement where
  declaration := ⟨.importEffect, ⟨'"', "./b.css.proxy.js".toList, isQuote_double, by decide,
    .of_plain (by decide)⟩⟩
  isImport := rfl
  ne_nil := by decide
  text := "import \"./b.css.proxy.js\"".toList
  written := @Declaration.Written.intro _ "import".toList " ".toList
    (.last (.word importWord)) (by decide)
  ending := .semicolon

/-- A script at the root of a site that links the stylesheets behind both proxies. -/
def linkedBoth : Linked :=
  .listed ["/site/a.css".toList, "/site/b.css".toList] "/site/app.js".toList "/site".toList

/-- Of two imports on one line that can both be dropped the second one is left, until
the script is rewritten again. -/
theorem dropStyleImports_oneLine : Separated [importA, importB] ∧
    render [importA, importB] = "import \"./a.css.proxy.js\";import \"./b.css.proxy.js\";".toList ∧
    undropped linkedBoth [importA, importB] = [] ∧
    specifiers (dropStyleImports linkedBoth (render [importA, importB])) =
      ["./b.css.proxy.js".toList] ∧
    dropStyleImports linkedBoth (dropStyleImports linkedBoth (render [importA, importB])) ≠
      dropStyleImports linkedBoth (render [importA, importB]) := by
  have hseparated : Separated [importA, importB] := by simp [Separated, importA]
  have hdrops : importA.drops linkedBoth = true ∧ importB.drops linkedBoth = true := by
    decide +kernel
  obtain ⟨hspecifiers, -, hagain⟩ := dropStyleImports_render linkedBoth hseparated
  refine ⟨hseparated, by decide +kernel, ?_, hspecifiers.trans ?_, fun h => hagain.1 h ?_⟩
  · simp [undropped, hdrops]
  · rw [shed_of_drops hdrops.1, shed_of_keeps (by rfl)]
    rfl
  · exact ⟨[], importA, importB, [], rfl, rfl, hdrops.1, rfl, hdrops.2⟩

end Script
end SiteOptimizer
