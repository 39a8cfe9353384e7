import SiteOptimizer.Proofs.Script.DeclarationSearch
import SiteOptimizer.Proofs.Script.Specifiers

/-!
# The specifiers of declarations

A module is written as declarations, each with a semicolon and a line end behind it, and white space
and comments between them (`ModuleText`). Its comments are blanks once they are stripped, and all of
a declaration but its specifier lies outside of literals, so its specifiers are the ones of the
declarations in their order. One that is empty is not found. One of an export may be found twice, as
there may be an `import` inside (`stutters_specifiers`).
-/

namespace SiteOptimizer
namespace Script

open Markup (IsSpace IsQuote)

/-! ## Texts of modules -/

/-- The characters that end a line in a file. -/
def IsLineEnd (c : Char) : Prop :=
  c = '\n' ∨ c = '\r'

instance (c : Char) : Decidable (IsLineEnd c) :=
  inferInstanceAs (Decidable (_ ∨ _))

/-- White space and comments. -/
inductive Trivia : Text → Prop where
  | nil : Trivia []
  | blank {c : Char} {s : Text} : Text.isBlank c = true → Trivia s → Trivia (c :: s)
  | block {body s : Text} :
      Unclosed body → Trivia s → Trivia ('/' :: '*' :: (body ++ '*' :: '/' :: s))
  | line {c : Char} {body s : Text} : (∀ d ∈ body, ¬ IsLineEnd d) → IsLineEnd c → Trivia (c :: s) →
      Trivia ('/' :: '/' :: (body ++ c :: s))

/-- A text that starts on a new line. -/
def StartsLine (s : Text) : Prop :=
  ∃ c t, IsLineEnd c ∧ s = c :: t

/-- The texts of modules that are made of declarations. Before a semicolon
there may be white space. -/
inductive ModuleText : List Declaration → Text → Prop where
  | nil {trivia : Text} : Trivia trivia → ModuleText [] trivia
  | cons {d : Declaration} {ds : List Declaration} {trivia text gap rest : Text} :
      Trivia trivia → d.Written text → IsSpace gap → StartsLine rest → ModuleText ds rest →
        ModuleText (d :: ds) (trivia ++ (text ++ (gap ++ ';' :: rest)))

/-- A list with some of its texts once more behind themselves, and without the empty ones. -/
inductive Stutters : List Text → List Text → Prop where
  | nil : Stutters [] []
  | cons {s : Text} {ss ts : List Text} (times : Nat) : (times = 0 ↔ s = []) → Stutters ss ts →
      Stutters (s :: ss) (List.replicate times s ++ ts)

/-! ## Segments of a module -/

theorem not_isDelimiter_of_isBlank {c : Char} (h : Text.isBlank c = true) :
    ¬ IsDelimiter c ∧ c ≠ '/' := by
  refine ⟨fun hdelimiter => ?_, ?_⟩
  · rw [stopsAtQuotes_isBlank c hdelimiter] at h
    cases h
  · rintro rfl
    exact absurd h (by decide)

theorem strippedText_plain (u : Text) : strippedText (u.map .plain) = u :=
  flatMap_stripped_plain u

theorem isSpace_strippedText_cons {segment : Segment} {found : List Segment}
    (h : IsSpace segment.stripped) (hfound : IsSpace (strippedText found)) :
    IsSpace (strippedText (segment :: found)) := by
  intro c hc
  rw [strippedText, List.flatMap_cons] at hc
  rcases List.mem_append.1 hc with hc | hc
  · exact h c hc
  · exact hfound c hc

theorem isSpace_comment {text : Text} : IsSpace (Segment.comment text).stripped := by
  intro c hc
  rw [List.mem_singleton.1 hc]
  decide

/-- White space and comments are white space once the comments are stripped. -/
theorem Trivia.exists_segments {trivia : Text} (h : Trivia trivia)
    (hline : '\r' ∉ trivia) (rest : Text) :
    ∃ found, segments (trivia ++ rest) = found ++ segments rest ∧ IsSpace (strippedText found) := by
  induction h with
  | nil => exact ⟨[], rfl, by simp [strippedText, IsSpace]⟩
  | @blank c s hc _ ih =>
    obtain ⟨found, hfound, hspace⟩ := ih (fun hmem => hline (List.mem_cons_of_mem c hmem))
    obtain ⟨hquote, hslash⟩ := not_isDelimiter_of_isBlank hc
    refine ⟨.plain c :: found, ?_, ?_⟩
    · rw [List.cons_append, segments_plain hquote hslash, hfound, List.cons_append]
    exact isSpace_strippedText_cons (by simpa [Segment.stripped, IsSpace] using hc) hspace
  | @block body s hbody _ ih =>
    obtain ⟨found, hfound, hspace⟩ := ih (fun hmem => hline (by simp [hmem]))
    have hcomment := segments_blockComment hbody (s ++ rest)
    rw [hfound] at hcomment
    exact ⟨_ :: found, by simpa using hcomment, isSpace_strippedText_cons isSpace_comment hspace⟩
  | @line c body s hbody hc _ ih =>
    obtain ⟨found, hfound, hspace⟩ := ih (fun hmem => hline (by simp [hmem]))
    -- without carriage returns a comment of a line ends at a line feed
    obtain rfl : c = '\n' := hc.resolve_right (by rintro rfl; simp at hline)
    have hcomment := segments_lineComment (fun hmem => hbody _ hmem (.inl rfl)) (s ++ rest)
    rw [List.cons_append] at hfound
    rw [hfound] at hcomment
    exact ⟨_ :: found, by simpa using hcomment, isSpace_strippedText_cons isSpace_comment hspace⟩

theorem Specifier.isLiteral_render (s : Specifier) : IsLiteral false s.render := by
  have hmultiline : decide (s.quote = templateQuote) = false := by
    rcases s.isQuote with h | h <;> rw [h] <;> decide
  exact ⟨s.quote, s.text, isDelimiter_of_isQuote s.isQuote,
    by rw [hmultiline]; exact s.isLiteral, rfl⟩

theorem not_isDelimiter_of_isClauseChar {c : Char} (h : isClauseChar c = true) :
    ¬ IsDelimiter c ∧ c ≠ '/' := by
  refine ⟨fun hdelimiter => ?_, ?_⟩
  · rw [stopsAtQuotes_isClauseChar c hdelimiter] at h
    cases h
  · rintro rfl
    exact absurd h (by decide +kernel)

/-! ## Specifiers of a module -/

/-- The characters that stand between declarations. -/
def IsFiller (u : Text) : Prop :=
  ∀ c ∈ u, Text.isBlank c = true ∨ c = ';'

theorem IsFiller.ne {u : Text} (h : IsFiller u) {letter : Char}
    (hblank : Text.isBlank letter = false) (hsemicolon : ';' ≠ letter) : ∀ c ∈ u, c ≠ letter := by
  intro c hc
  rcases h c hc with hc | rfl
  · exact ne_of_isBlank hc hblank
  · exact hsemicolon

theorem IsFiller.not_isDelimiter {u : Text} (h : IsFiller u) :
    ∀ c ∈ u, ¬ IsDelimiter c ∧ c ≠ '/' := by
  intro c hc
  rcases h c hc with hblank | rfl
  · exact not_isDelimiter_of_isBlank hblank
  · decide

theorem IsFiller.silent_import {u : Text} (h : IsFiller u) (before : Option Char) (t : Text) :
    Silent importStatement? before u t :=
  silent_of_none (fun c hc => importStatement?_cons (h.ne (by decide) (by decide) c hc)) before t

theorem IsFiller.silent_export {u : Text} (h : IsFiller u) (before : Option Char) (t : Text) :
    Silent exportStatement? before u t :=
  silent_of_none (fun c hc => exportStatement?_cons (h.ne (by decide) (by decide) c hc)) before t

/-- Behind what stands between declarations a statement may start. -/
theorem IsFiller.isJoined_lastOf {u : Text} (h : IsFiller u) (before : Option Char)
    (hbefore : isJoined before = false) : isJoined (lastOf before u) = false := by
  cases hc : u.getLast? with
  | none =>
    rw [lastOf, hc]
    exact hbefore
  | some c =>
    rw [lastOf, hc, Option.some_or]
    rcases h c (List.mem_of_getLast? hc) with hblank | rfl
    · have hdot : c ≠ '.' := ne_of_isBlank hblank (by decide)
      simp [isJoined, isNameChar_of_isBlank hblank, hdot]
    · decide +kernel

theorem IsFiller.yields_import {u : Text} (h : IsFiller u) (t : Text) :
    Yields importStatement? u t [] :=
  yields_silent (fun before => h.silent_import before t) h.isJoined_lastOf

theorem IsFiller.yields_export {u : Text} (h : IsFiller u) (t : Text) :
    Yields exportStatement? u t [] :=
  yields_silent (fun before => h.silent_export before t) h.isJoined_lastOf

/-- White space and semicolons hold no statement. -/
theorem specifiersIn_filler {a b : List Segment} (h : IsFiller (strippedText a)) :
    specifiersIn (a ++ b) = specifiersIn b := by
  have hsame : specifiersIn (a ++ b) = List.replicate 0 [] ++ specifiersIn b :=
    specifiersIn_append_of_same (h.yields_import _) (h.yields_export _) (by simp)
  simpa using hsame

/-- **The specifier of a declaration is found as often as its statement is.** -/
theorem exists_specifiersIn {d : Declaration} {text : Text} (h : d.Written text) {rest : Text}
    (hrest : Unquoted (strippedText (segments rest))) :
    ∃ times, (times = 0 ↔ d.specifier.text = []) ∧
      specifiers (text ++ rest) = List.replicate times d.specifier.text ++ specifiers rest := by
  obtain ⟨front, rfl, hfront, hfound⟩ := d.exists_found h
  obtain ⟨imports, exports, hplace, hempty, himports, hexports⟩ := hfound hrest
  have hsegments : segments (front ++ d.specifier.render ++ rest) =
      (front.map .plain ++ [.literal d.specifier.render]) ++ segments rest := by
    rw [List.append_assoc, segments_append_of_plain fun c hc =>
      not_isDelimiter_of_isClauseChar (hfront c hc),
      segments_literal d.specifier.isLiteral_render.isQuoted, List.append_assoc,
      List.singleton_append]
  have htext : strippedText (front.map .plain ++ [.literal d.specifier.render]) =
      front ++ d.specifier.render := by
    rw [strippedText_append, strippedText_plain]
    simp [strippedText, Segment.stripped]
  refine ⟨(imports ++ exports).length, by rw [List.length_eq_zero_iff, hempty], ?_⟩
  rw [specifiers_eq, specifiers_eq, hsegments]
  rw [← htext] at himports hexports
  -- all that is found has the one specifier, so the order of the two searches does not matter
  refine specifiersIn_append_of_same himports hexports fun f hf => ?_
  obtain ⟨hlt, hspecifier⟩ := hplace f hf
  refine ⟨by rw [htext, List.length_append]; omega, ?_, hspecifier⟩
  rw [List.append_assoc]
  exact literalAt_plain_append hlt _

/-- **The specifiers of a module are the ones of its declarations.** -/
theorem stutters_specifiers {ds : List Declaration} {code : Text} (h : ModuleText ds code)
    (hline : '\r' ∉ code) :
    Stutters (ds.map (·.specifier.text)) (specifiers code) := by
  induction h with
  | @nil trivia htrivia =>
    obtain ⟨found, hfound, hspace⟩ := htrivia.exists_segments hline []
    have hempty : specifiersIn (segments []) = [] := by
      simp [segments, specifiersIn, allFound, strippedText, statements,
        occurrences, outside, inOrder]
    rw [List.append_nil] at hfound
    rw [specifiers_eq, hfound, specifiersIn_filler fun c hc => .inl (hspace c hc), hempty]
    exact .nil
  | @cons d ds trivia text gap rest htrivia htext hgap hstarts _ ih =>
    obtain ⟨c, t, hc, rfl⟩ := hstarts
    obtain rfl : c = '\n' := hc.resolve_right (by rintro rfl; simp at hline)
    obtain ⟨found, hfound, hspace⟩ := htrivia.exists_segments (fun hmem => hline (by simp [hmem]))
      (text ++ (gap ++ ';' :: '\n' :: t))
    -- no quote stands between the specifier and the end of its line
    have hfiller : IsFiller (gap ++ [';']) := by
      intro c hc
      rcases List.mem_append.1 hc with hc | hc
      · exact .inl (hgap c hc)
      · exact .inr (List.mem_singleton.1 hc)
    have hplain := hfiller.not_isDelimiter
    have hbehind : segments (gap ++ ';' :: '\n' :: t) = (gap ++ [';']).map .plain ++
        segments ('\n' :: t) := by
      rw [← segments_append_of_plain hplain, List.append_assoc, List.singleton_append]
    have hunquoted : Unquoted (strippedText (segments (gap ++ ';' :: '\n' :: t))) := by
      rw [hbehind, strippedText_append, strippedText_plain, segments_plain (by decide) (by decide)]
      exact unquoted_line (fun c hc hquote => (hplain c hc).1 (isDelimiter_of_isQuote hquote)) _
    obtain ⟨times, htimes, hspecifiers⟩ := exists_specifiersIn htext hunquoted
    have hrest : specifiers (gap ++ ';' :: '\n' :: t) = specifiers ('\n' :: t) := by
      rw [specifiers_eq, specifiers_eq, hbehind, specifiersIn_filler (by rwa [strippedText_plain])]
    rw [specifiers_eq, hfound, specifiersIn_filler fun c hc => .inl (hspace c hc), ← specifiers_eq,
      hspecifiers, hrest]
    exact .cons times htimes (ih fun hmem =>
      hline (by simp [List.mem_of_ne_of_mem (by decide) hmem]))

end Script
end SiteOptimizer
