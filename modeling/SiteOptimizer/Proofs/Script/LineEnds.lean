import SiteOptimizer.Proofs.Markup.Newlines
import SiteOptimizer.Proofs.Script.ModuleText

/-!
# Modules with other line ends

A script is read with line feeds as its only line ends. Line ends stand between the words of a
declaration, between declarations and in comments, so a module that is written with other line ends
is written with line feeds as well (`ModuleText.unifyNewlines`).
-/

namespace SiteOptimizer
namespace Script

open Markup (IsSpace Seam seam_of_not_mem unifyNewlines_append)

/-! ## White space -/

theorem mem_of_mem_unifyNewlines {c : Char} {s : Text}
    (h : c ∈ Text.unifyNewlines s) : c = '\n' ∨ c ∈ s := by
  fun_induction Text.unifyNewlines s with
  | case1 => cases h
  | case2 s ih =>
    rcases List.mem_cons.1 h with rfl | h
    · exact .inl rfl
    · exact (ih h).imp_right fun h => by simp [h]
  | case3 d s _ ih =>
    rcases List.mem_cons.1 h with rfl | h
    · split
      · exact .inl rfl
      · exact .inr List.mem_cons_self
    · exact (ih h).imp_right (List.mem_cons_of_mem d)

theorem isSpace_unifyNewlines {gap : Text} (h : IsSpace gap) :
    IsSpace (Text.unifyNewlines gap) := by
  intro c hc
  rcases mem_of_mem_unifyNewlines hc with rfl | hc
  · decide
  · exact h c hc

theorem unifyNewlines_cons_of_ne {c : Char} (hc : c ≠ '\r') (s : Text) :
    Text.unifyNewlines (c :: s) = c :: Text.unifyNewlines s := by
  rw [Markup.unifyNewlines_cons (Markup.seam_singleton hc s), if_neg hc]

/-- A line end, be it one character or two, is one line feed. -/
theorem exists_unifyNewlines_of_isLineEnd {c : Char} (hc : IsLineEnd c) (s : Text) :
    ∃ t, Text.unifyNewlines (c :: s) = '\n' :: t := by
  rcases hc with rfl | rfl
  · exact ⟨_, unifyNewlines_cons_of_ne (by decide) s⟩
  · rw [Text.unifyNewlines.eq_def]
    split
    · next h => cases h
    · exact ⟨_, rfl⟩
    · next h =>
      cases h
      exact ⟨_, rfl⟩

/-! ## Trivia -/

theorem unclosed_unifyNewlines {body : Text} (h : Unclosed body) :
    Unclosed (Text.unifyNewlines body) := by
  intro hclose
  refine h ?_
  -- neither character of the end comes from a line end, so both stood side by side before
  fun_induction Text.unifyNewlines body with
  | case1 => exact hclose
  | case2 s ih =>
    rcases List.infix_cons_iff.1 hclose with hprefix | hclose
    · obtain ⟨t, ht⟩ := hprefix
      cases ht
    · have hs : Unclosed s := fun hs => h (hs.trans (List.suffix_append ['\r', '\n'] s).isInfix)
      exact (hs (ih hs hclose)).elim
  | case3 c s _ ih =>
    rcases List.infix_cons_iff.1 hclose with hprefix | hclose
    · obtain ⟨t, ht⟩ := hprefix
      injection ht with hstar hslash
      obtain ⟨rest, rfl, -⟩ := Markup.Blind.exists_of_unifyNewlines_eq_cons (by decide) hslash.symm
      obtain rfl : c = '*' := by
        split at hstar
        · cases hstar
        · exact hstar.symm
      exact ⟨[], rest, rfl⟩
    · have hs : Unclosed s := fun hs => h (hs.trans (List.suffix_cons c s).isInfix)
      exact (hs (ih hs hclose)).elim

theorem Trivia.unifyNewlines {trivia : Text} (h : Trivia trivia) :
    Trivia (Text.unifyNewlines trivia) := by
  induction h with
  | nil => exact .nil
  | @blank c s hc _ ih =>
    -- the blank is a character of its own, or it is the first half of a line end
    by_cases hseam : Seam [c] s
    · rw [Markup.unifyNewlines_cons hseam]
      refine .blank ?_ ih
      split
      · decide
      · exact hc
    · -- the two characters of a line end
      simp only [Seam, List.getLast?_singleton, Option.some.injEq,
        Classical.not_imp, not_not] at hseam
      obtain ⟨rfl, hhead⟩ := hseam
      obtain ⟨t, rfl⟩ := List.head?_eq_some_iff.1 hhead
      exact ih
  | @block body s hbody _ ih =>
    have hseam : Seam body ('*' :: '/' :: s) := fun _ hhead => absurd hhead (by simp)
    rw [unifyNewlines_cons_of_ne (by decide), unifyNewlines_cons_of_ne (by decide),
      unifyNewlines_append hseam, unifyNewlines_cons_of_ne (by decide),
      unifyNewlines_cons_of_ne (by decide)]
    exact .block (unclosed_unifyNewlines hbody) ih
  | @line c body s hbody hc _ ih =>
    have hline : '\r' ∉ body := fun hmem => hbody _ hmem (.inr rfl)
    obtain ⟨t, ht⟩ := exists_unifyNewlines_of_isLineEnd hc s
    rw [ht] at ih
    rw [unifyNewlines_cons_of_ne (by decide), unifyNewlines_cons_of_ne (by decide),
      unifyNewlines_append (seam_of_not_mem hline _), Text.unifyNewlines_eq_self hline, ht]
    exact .line hbody (.inl rfl) ih

/-! ## Declarations -/

theorem Spaced.exists_head {l : Lexeme} {ls : List Lexeme} {s : Text} (h : Spaced (l :: ls) s) :
    ∃ t, s = l.text ++ t := by
  cases h with
  | last => exact ⟨[], (List.append_nil _).symm⟩
  | cons _ _ _ => exact ⟨_, rfl⟩

/-- White space stands in no lexeme, and no lexeme is empty. -/
def Lexeme.Solid (l : Lexeme) : Prop :=
  l.text ≠ [] ∧ ∀ c ∈ l.text, Text.isBlank c = false

theorem Lexeme.Solid.not_mem {l : Lexeme} (h : l.Solid) {c : Char}
    (hc : Text.isBlank c = true) : c ∉ l.text := by
  intro hmem
  rw [h.2 c hmem] at hc
  cases hc

theorem Lexeme.Inner.solid {l : Lexeme} (h : l.Inner) : l.Solid := by
  refine ⟨h.text_ne_nil, fun c hc => ?_⟩
  cases l with
  | word text => exact (of_isIdentifierChar (h.2.1 c hc)).2
  | mark d =>
    have hall : ∀ d ∈ ['\x7b', '\x7d', ',', '*'], Text.isBlank d = false := by decide
    rw [List.mem_singleton.1 hc]
    exact hall d h

/-- No line end is cut in front of a lexeme. -/
theorem Spaced.seam {ls : List Lexeme} {s : Text} (h : Spaced ls s)
    (hls : ∀ l ∈ ls, l.Solid) (gap t : Text) :
    Seam gap (s ++ t) := by
  intro _ hhead
  cases ls with
  | nil => cases h
  | cons l ls =>
    obtain ⟨u, rfl⟩ := h.exists_head
    have hl := hls l List.mem_cons_self
    obtain ⟨c, w, hw⟩ := List.exists_cons_of_ne_nil hl.1
    rw [hw, List.cons_append, List.cons_append, List.head?_cons, Option.some_inj] at hhead
    exact hl.not_mem (c := '\n') (by decide) (by rw [hw, hhead]; exact List.mem_cons_self)

/-- No line end is cut behind a lexeme either. -/
theorem Spaced.seam_behind {ls : List Lexeme} {s : Text} (h : Spaced ls s)
    (hls : ∀ l ∈ ls, l.Solid) (t : Text) :
    Seam s t := by
  induction h with
  | last l => exact seam_of_not_mem ((hls l List.mem_cons_self).not_mem (by decide)) t
  | @cons l k ls gap s _ _ hs ih =>
    have hrest : ∀ m ∈ k :: ls, m.Solid := fun m hm => hls m (List.mem_cons_of_mem l hm)
    have hne := hs.ne_nil (hrest k List.mem_cons_self).1
    intro hlast
    rw [← List.append_assoc, List.getLast?_append_of_ne_nil _ hne] at hlast
    exact ih hrest hlast

theorem Spaced.unifyNewlines {ls : List Lexeme} {s : Text} (h : Spaced ls s)
    (hls : ∀ l ∈ ls, l.Solid) :
    Spaced ls (Text.unifyNewlines s) := by
  have hlexeme (l : Lexeme) (hl : l ∈ ls) : '\r' ∉ l.text := (hls l hl).not_mem (by decide)
  induction h with
  | last l =>
    rw [Text.unifyNewlines_eq_self (hlexeme l List.mem_cons_self)]
    exact .last l
  | @cons l k ls gap s hgap hne hs ih =>
    have hrest : ∀ m ∈ k :: ls, m.Solid := fun m hm => hls m (List.mem_cons_of_mem l hm)
    have hl := hlexeme l List.mem_cons_self
    rw [unifyNewlines_append (seam_of_not_mem hl _), Text.unifyNewlines_eq_self hl,
      unifyNewlines_append (b := s) (by simpa using hs.seam hrest gap [])]
    refine .cons (isSpace_unifyNewlines hgap) (fun hword hword' hnil => ?_)
      (ih hrest fun m hm => hlexeme m (List.mem_cons_of_mem l hm))
    exact hne hword hword' (Markup.unifyNewlines_eq_nil_iff.1 hnil)

theorem Form.solid (form : Form) : ∀ l ∈ Lexeme.word form.firstWord :: form.inner, l.Solid := by
  intro l hl
  rcases List.mem_cons.1 hl with rfl | hl
  · rw [Form.firstWord]
    split <;> exact ⟨by decide, by decide⟩
  · exact (form.inner_inner l hl).solid

theorem Declaration.Written.unifyNewlines {d : Declaration} {text : Text} (h : d.Written text) :
    d.Written (Text.unifyNewlines text) := by
  cases h with
  | @intro head gap hhead hgap =>
    have hrender : '\r' ∉ d.specifier.render := d.specifier.not_mem_render (by decide)
    have hseam : Seam gap d.specifier.render := fun _ hmem =>
      d.specifier.not_mem_render (by decide) (List.mem_of_head? hmem)
    rw [unifyNewlines_append (hhead.seam_behind d.form.solid _), unifyNewlines_append hseam,
      Text.unifyNewlines_eq_self hrender]
    exact .intro (hhead.unifyNewlines d.form.solid) (isSpace_unifyNewlines hgap)

/-- No line end is cut in front of a declaration. -/
theorem Declaration.Written.seam {d : Declaration} {text : Text} (h : d.Written text)
    (trivia rest : Text) :
    Seam trivia (text ++ rest) := by
  cases h with
  | intro hhead hgap =>
    rw [List.append_assoc]
    exact hhead.seam d.form.solid trivia _

/-- No line end is cut behind a declaration either. -/
theorem Declaration.Written.seam_behind {d : Declaration} {text : Text}
    (h : d.Written text) (rest : Text) :
    Seam text rest := by
  cases h with
  | intro hhead hgap =>
    intro hlast
    rw [← List.append_assoc, d.specifier.getLast?_render, Option.some_inj] at hlast
    have hquote := d.specifier.isBlank_quote
    rw [hlast] at hquote
    exact absurd hquote (by decide)

/-- **A module with other line ends is read as a module**, with the same declarations. -/
theorem ModuleText.unifyNewlines {ds : List Declaration} {code : Text} (h : ModuleText ds code) :
    ModuleText ds (Text.unifyNewlines code) := by
  induction h with
  | nil htrivia => exact .nil htrivia.unifyNewlines
  | @cons d ds trivia text gap rest htrivia htext hgap hstarts _ ih =>
    have hseam : Seam gap (';' :: rest) := fun _ hhead => absurd hhead (by simp)
    rw [unifyNewlines_append (htext.seam trivia _), unifyNewlines_append (htext.seam_behind _),
      unifyNewlines_append hseam, unifyNewlines_cons_of_ne (by decide)]
    obtain ⟨c, t, hc, rfl⟩ := hstarts
    obtain ⟨u, hu⟩ := exists_unifyNewlines_of_isLineEnd hc t
    exact .cons htrivia.unifyNewlines htext.unifyNewlines (isSpace_unifyNewlines hgap)
      ⟨_, u, .inl rfl, hu⟩ ih

end Script
end SiteOptimizer
