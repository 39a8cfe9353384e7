import Mathlib.Data.List.Pairwise
import SiteOptimizer.Proofs.Markup.Cuts
import SiteOptimizer.Proofs.Markup.Newlines

/-!
# Injecting whole lines

A block goes into the middle of a line, directly in front of a closing tag. If nothing but an
indent precedes the tag there, the block takes that indent for its first line and leaves a new one
behind its last, so the same text comes out as if whole lines had gone in between the lines of the
document (`keptLines_inject`).
-/

namespace SiteOptimizer
namespace Markup

/-! ## Lines with their ends -/

/-- The lines of a text together with what ends them: CR LF, CR or LF. -/
def keptLines : Text → List Text
  | [] => []
  | '\r' :: '\n' :: s => ['\r', '\n'] :: keptLines s
  | c :: s =>
    if c = '\r' || c = '\n' then [c] :: keptLines s
    else
      match keptLines s with
      | [] => [[c]]
      | line :: lines => (c :: line) :: lines

/-- A text in which no line ends. -/
def Unbroken (s : Text) : Prop :=
  ∀ c ∈ s, c ≠ '\r' ∧ c ≠ '\n'

/-- A line with its end. -/
def IsLine (line : Text) : Prop :=
  ∃ body ending, line = body ++ ending ∧ Unbroken body ∧ IsNewline ending

/-- A text that starts with white space and not with the end of a line. -/
def Indented (s : Text) : Prop :=
  ∃ c ∈ s.head?, Text.isIndent c = true

section

variable {s line : Text} {lines : List Text}

theorem keptLines_eq_nil_iff : keptLines s = [] ↔ s = [] := by
  fun_cases keptLines s <;> simp_all

theorem keptLines_cons {c : Char} (hc : c ≠ '\r' ∧ c ≠ '\n') (h : keptLines s = line :: lines) :
    keptLines (c :: s) = (c :: line) :: lines := by
  rw [keptLines, h]
  · simp [hc.1, hc.2]
  · exact fun _ hcr => absurd hcr hc.1

theorem IsNewline.ne_nil (h : IsNewline s) : s ≠ [] := by
  rcases h with rfl | rfl | rfl <;> simp

theorem keptLines_newline {ending : Text} (h : IsNewline ending) (hseam : Seam ending s) :
    keptLines (ending ++ s) = ending :: keptLines s := by
  rcases h with rfl | rfl | rfl
  · rfl
  · cases s with
    | nil => rfl
    | cons d s =>
      have hd : d ≠ '\n' := by
        rintro rfl
        exact hseam rfl rfl
      rw [List.singleton_append, keptLines]
      · rfl
      · rintro t - hlf
        exact hd (List.cons.inj hlf).1
  · rfl

theorem keptLines_append (h : IsLine line) (hseam : Seam line s) :
    keptLines (line ++ s) = line :: keptLines s := by
  obtain ⟨body, ending, rfl, hbody, hending⟩ := h
  have hend : Seam ending s := by
    intro hlast
    apply hseam
    rw [List.getLast?_append_of_ne_nil _ hending.ne_nil, hlast]
  clear hseam
  induction body with
  | nil => exact keptLines_newline hending hend
  | cons c body ih =>
    exact keptLines_cons (hbody c List.mem_cons_self)
      (ih fun d hd => hbody d (List.mem_cons_of_mem _ hd))

/-- The first line is ended, or it is all there is. -/
theorem exists_of_keptLines (h : keptLines s = line :: lines) :
    ∃ rest, s = line ++ rest ∧ keptLines rest = lines ∧ line ≠ [] ∧
      (IsLine line ∧ Seam line rest ∨ rest = [] ∧ Unbroken line) := by
  fun_induction keptLines s generalizing line lines with
  | case1 => cases h
  | case2 s ih =>
    cases h
    refine ⟨s, rfl, rfl, by simp, .inl ⟨⟨[], _, rfl, by simp [Unbroken], .inr (.inr rfl)⟩, ?_⟩⟩
    intro hlast
    cases hlast
  | case3 c s hcut hbreak ih =>
    cases h
    have hending : IsNewline [c] := by
      simp only [Bool.or_eq_true, decide_eq_true_eq] at hbreak
      rcases hbreak with rfl | rfl
      · exact .inr (.inl rfl)
      · exact .inl rfl
    exact ⟨s, rfl, rfl, by simp, .inl ⟨⟨[], _, rfl, by simp [Unbroken], hending⟩, seam_of_cut hcut⟩⟩
  | case4 c s hcut hbreak hnil ih =>
    cases h
    obtain rfl := keptLines_eq_nil_iff.1 hnil
    refine ⟨[], rfl, rfl, by simp, .inr ⟨rfl, ?_⟩⟩
    simpa [Unbroken] using hbreak
  -- the first character belongs to the line that the rest starts with
  | case5 c s hcut hbreak first others heq ih =>
    cases h
    obtain ⟨rest, rfl, hrest, hne, hends⟩ := ih heq
    have hc : c ≠ '\r' ∧ c ≠ '\n' := by simpa using hbreak
    refine ⟨rest, rfl, hrest, by simp, ?_⟩
    rcases hends with ⟨⟨body, ending, rfl, hbody, hending⟩, hseam⟩ | ⟨hnil, hfirst⟩
    · refine .inl ⟨⟨c :: body, ending, rfl, List.forall_mem_cons.2 ⟨hc, hbody⟩, hending⟩, ?_⟩
      intro hlast
      apply hseam
      rw [← hlast]
      exact (List.getLast?_append_of_ne_nil [c] hne).symm
    · exact .inr ⟨hnil, List.forall_mem_cons.2 ⟨hc, hfirst⟩⟩

theorem flatten_keptLines (s : Text) : (keptLines s).flatten = s := by
  generalize h : keptLines s = lines
  induction lines generalizing s with
  | nil => exact (keptLines_eq_nil_iff.1 h).symm
  | cons line lines ih =>
    obtain ⟨rest, rfl, hrest, -⟩ := exists_of_keptLines h
    rw [List.flatten_cons, ih rest hrest]

theorem IsLine.last {c : Char} (h : IsLine line)
    (hc : line.getLast? = some c) : c = '\r' ∨ c = '\n' := by
  obtain ⟨body, ending, rfl, -, hending⟩ := h
  rw [List.getLast?_append_of_ne_nil _ hending.ne_nil] at hc
  rcases hending with rfl | rfl | rfl <;> cases hc
  · exact .inr rfl
  · exact .inl rfl
  · exact .inr rfl

theorem Indented.head_ne (h : Indented s) (w : Text) : (s ++ w).head? ≠ some '\n' := by
  obtain ⟨c, hc, hindent⟩ := h
  rw [List.head?_append, Option.mem_def.1 hc]
  rintro hlf
  cases hlf
  revert hindent
  decide

/-- Indented lines in front of a text are cut off one by one. -/
theorem keptLines_flatten_append (h : ∀ l ∈ lines, IsLine l ∧ Indented l)
    (hs : lines ≠ [] → s.head? ≠ some '\n') :
    keptLines (lines.flatten ++ s) = lines ++ keptLines s := by
  induction lines with
  | nil => rfl
  | cons l lines ih =>
    obtain ⟨hline, -⟩ := h l List.mem_cons_self
    have hlines : ∀ l ∈ lines, IsLine l ∧ Indented l := fun l hl => h l (List.mem_cons_of_mem _ hl)
    have hnext : Seam l (lines.flatten ++ s) := by
      intro _
      cases lines with
      | nil => exact hs (List.cons_ne_nil _ _)
      | cons l' lines =>
        rw [List.flatten_cons, List.append_assoc]
        exact (hlines l' List.mem_cons_self).2.head_ne _
    rw [List.flatten_cons, List.append_assoc, keptLines_append hline hnext,
      ih hlines fun _ => hs (List.cons_ne_nil _ _), List.cons_append]

end

/-! ## Where lines start -/

/-- A line of a document, and how many characters stand in front of it. -/
structure Line where
  start : Int
  text : Text

/-- Lines one behind the other, from a place on. -/
def linesFrom (start : Int) : List Text → List Line
  | [] => []
  | text :: texts => ⟨start, text⟩ :: linesFrom (start + text.length) texts

def linesOf (document : Text) : List Line :=
  linesFrom 0 (keptLines document)

/-- Whether a token starts on a line. -/
def Line.Holds (line : Line) (t : Token) : Prop :=
  line.start ≤ t.offset ∧ t.offset < line.start + line.text.length

instance (line : Line) (t : Token) : Decidable (line.Holds t) :=
  inferInstanceAs (Decidable (_ ∧ _))

/-- What stands on a line in front of a token. -/
def Line.lead (line : Line) (t : Token) : Text :=
  line.text.take (t.offset - line.start).toNat

/-- The lines with others in front of each. -/
def linesWith (added : Line → List Text) (lines : List Line) : List Text :=
  lines.flatMap fun line => added line ++ [line.text]

section

variable {s : Text} {start : Int} {texts : List Text} {line : Line}

theorem le_start (h : line ∈ linesFrom start texts) : start ≤ line.start := by
  induction texts generalizing start with
  | nil => cases h
  | cons text texts ih =>
    rcases List.mem_cons.1 h with rfl | h
    · exact Int.le_refl _
    · have := ih h
      omega

/-- In front of a line the text ends a line, if it holds anything. -/
theorem exists_of_mem_linesFrom (hs : keptLines s = texts) (h : line ∈ linesFrom start texts) :
    ∃ before after, s = before ++ (line.text ++ after) ∧ line.start = start + before.length ∧
      ∀ c, before.getLast? = some c → c = '\r' ∨ c = '\n' := by
  induction texts generalizing start s with
  | nil => cases h
  | cons text texts ih =>
    obtain ⟨rest, rfl, hrest, -, hends⟩ := exists_of_keptLines hs
    rcases List.mem_cons.1 h with rfl | h
    · exact ⟨[], rest, rfl, by simp, by simp⟩
    · obtain ⟨before, after, rfl, hstart, hlast⟩ := ih hrest h
      refine ⟨text ++ before, after, by rw [List.append_assoc], ?_, ?_⟩
      · rw [hstart, List.length_append]
        omega
      · intro c hc
        rcases hends with ⟨hline, -⟩ | ⟨hnil, -⟩
        -- what ends in front of the line is the line before it, directly or further on
        · cases before with
          | nil => exact hline.last (by rwa [List.append_nil] at hc)
          | cons d before =>
            rw [List.getLast?_append_of_ne_nil _ (List.cons_ne_nil _ _)] at hc
            exact hlast c hc
        · rw [hnil] at hrest
          rw [← hrest] at h
          cases h

/-- **Lines with indented lines in front of them are still the lines of their text.** -/
theorem keptLines_linesWith {added : Line → List Text} (hs : keptLines s = texts)
    (hadded : ∀ line ∈ linesFrom start texts, ∀ l ∈ added line, IsLine l ∧ Indented l)
    (hindented : ∀ line ∈ linesFrom start texts, added line ≠ [] → Indented line.text) :
    keptLines (linesWith added (linesFrom start texts)).flatten =
      linesWith added (linesFrom start texts) ∧
        ((linesWith added (linesFrom start texts)).flatten.head? = some '\n' →
        s.head? = some '\n') := by
  induction texts generalizing start s with
  | nil => exact ⟨rfl, nofun⟩
  | cons text texts ih =>
    obtain ⟨rest, rfl, hrest, hne, hends⟩ := exists_of_keptLines hs
    have hadded' : ∀ line ∈ linesFrom (start + text.length) texts, ∀ l ∈ added line,
        IsLine l ∧ Indented l :=
      fun line hl => hadded line (List.mem_cons_of_mem _ hl)
    have hindented' : ∀ line ∈ linesFrom (start + text.length) texts, added line ≠ [] →
        Indented line.text :=
      fun line hl => hindented line (List.mem_cons_of_mem _ hl)
    obtain ⟨hlines, hhead⟩ := ih hrest hadded' hindented'
    have hnew := hadded ⟨start, text⟩ List.mem_cons_self
    have hold := hindented ⟨start, text⟩ List.mem_cons_self
    have hwith : linesWith added (linesFrom start (text :: texts)) =
        added ⟨start, text⟩ ++ text :: linesWith added (linesFrom (start + text.length) texts) := by
      simp [linesWith, linesFrom]
    have hnone : rest = [] → linesWith added (linesFrom (start + text.length) texts) = [] := by
      rintro rfl
      rw [← hrest]
      rfl
    generalize linesWith added (linesFrom (start + text.length) texts) = others at *
    rw [hwith, List.flatten_append, List.flatten_cons]
    have hkept : keptLines (text ++ others.flatten) = text :: others := by
      rcases hends with ⟨hline, hseam⟩ | ⟨hnil, -⟩
      -- what comes behind starts as it did before, or with an indent, so it does
      -- not go on with the line's end
      · have hnext : Seam text others.flatten := fun hlast hlf => hseam hlast (hhead hlf)
        rw [keptLines_append hline hnext, hlines]
      · rw [hnone hnil, List.flatten_nil]
        rw [hnil] at hs hrest
        rw [hs, ← hrest]
        rfl
    refine ⟨?_, ?_⟩
    · rw [keptLines_flatten_append hnew fun hne => (hold hne).head_ne _, hkept]
    · cases hadd : added ⟨start, text⟩ with
      | nil =>
        rw [List.flatten_nil, List.nil_append, List.head?_append_of_ne_nil _ hne,
          List.head?_append_of_ne_nil _ hne]
        exact id
      | cons l ls =>
        intro hlf
        rw [List.flatten_cons, List.append_assoc] at hlf
        exact absurd hlf ((hnew l (hadd ▸ List.mem_cons_self)).2.head_ne _)

theorem linesWith_cons (added : Line → List Text) (line : Line) (lines : List Line) :
    (linesWith added (line :: lines)).flatten =
      (added line).flatten ++ (line.text ++ (linesWith added lines).flatten) := by
  simp [linesWith]

theorem linesWith_congr {added added' : Line → List Text} {lines : List Line}
    (h : ∀ line ∈ lines, added line = added' line) :
    linesWith added lines = linesWith added' lines := by
  apply List.flatMap_congr
  intro line hl
  rw [h line hl]

end

/-! ## Places on lines -/

def Line.held (line : Line) (tokens : List Token) : List Token :=
  tokens.filter fun t => line.Holds t

/-- Places on lines, at most one on each, where a block together with what stands in front
of it makes up whole lines. -/
structure Fits (start : Int) (texts : List Text) (block : Token → Text)
    (added : Line → Token → List Text) (tokens : List Token) : Prop where
  sorted : tokens.Pairwise fun a b => a.offset < b.offset
  low : ∀ t ∈ tokens, start ≤ t.offset
  high : ∀ t ∈ tokens, t.offset < start + texts.flatten.length
  one : ∀ line ∈ linesFrom start texts, ∀ t ∈ tokens, ∀ u ∈ tokens, line.Holds t →
    line.Holds u → t.offset = u.offset
  whole : ∀ line ∈ linesFrom start texts, ∀ t ∈ tokens, line.Holds t →
    line.lead t ++ block t = (added line t).flatten ++ line.lead t

section

variable {start : Int} {text : Text} {texts : List Text} {line : Line} {t : Token}
    {tokens : List Token} {block : Token → Text} {added : Line → Token → List Text}

theorem Line.held_eq_nil (line : Line)
    (h : ∀ t ∈ tokens, line.start + line.text.length ≤ t.offset) : line.held tokens = [] := by
  rw [held, List.filter_eq_nil_iff]
  intro t ht
  have hfar := h t ht
  rw [decide_eq_true_eq]
  rintro ⟨-, hlt⟩
  omega

theorem Line.held_cons_of_lt (h : t.offset < line.start) (tokens : List Token) :
    line.held (t :: tokens) = line.held tokens := by
  apply List.filter_cons_of_neg
  rw [decide_eq_true_eq]
  rintro ⟨hle, -⟩
  omega

theorem Line.held_cons (h : line.Holds t) (tokens : List Token) :
    line.held (t :: tokens) = t :: line.held tokens :=
  List.filter_cons_of_pos (decide_eq_true h)

theorem Fits.tail (h : Fits start (text :: texts) block added tokens) {others : List Token}
    (hsub : others.Sublist tokens) (hfar : ∀ t ∈ others, start + text.length ≤ t.offset) :
    Fits (start + text.length) texts block added others where
  sorted := h.sorted.sublist hsub
  low := hfar
  high := by
    intro t ht
    have := h.high t (hsub.subset ht)
    rw [List.flatten_cons, List.length_append] at this
    omega
  one line hl t ht u hu :=
    h.one line (List.mem_cons_of_mem _ hl) t (hsub.subset ht) u (hsub.subset hu)
  whole line hl t ht := h.whole line (List.mem_cons_of_mem _ hl) t (hsub.subset ht)

/-- The first line holds none of the tokens, or the first of them and no other. -/
theorem Fits.first (h : Fits start (text :: texts) block added tokens) :
    (∀ t ∈ tokens, start + text.length ≤ t.offset) ∨
      ∃ t others, tokens = t :: others ∧ t.offset < start + text.length ∧
        ∀ u ∈ others, start + text.length ≤ u.offset := by
  cases tokens with
  | nil => exact .inl nofun
  | cons t others =>
    have hafter := (List.pairwise_cons.1 h.sorted).1
    by_cases hnear : t.offset < start + text.length
    · refine .inr ⟨t, others, rfl, hnear, ?_⟩
      intro u hu
      -- a second place on the line would be the same one
      by_contra hlt
      have hlt' := hafter u hu
      have hlow := h.low t List.mem_cons_self
      have hfirst : (⟨start, text⟩ : Line).Holds t := ⟨hlow, hnear⟩
      have hsecond : (⟨start, text⟩ : Line).Holds u :=
        ⟨Int.le_of_lt (Int.lt_of_le_of_lt hlow hlt'), Int.not_le.1 hlt⟩
      have hsame := h.one _ List.mem_cons_self t List.mem_cons_self u
        (List.mem_cons_of_mem _ hu) hfirst hsecond
      omega
    · refine .inl (List.forall_mem_cons.2 ⟨Int.not_lt.1 hnear, ?_⟩)
      intro u hu
      have := hafter u hu
      omega

/-- **Blocks in the middle of lines are lines in between.** The induction is on the lines. -/
theorem Fits.interleave_eq (h : Fits start texts block added tokens) :
    interleave (cuts start texts.flatten (tokens.map Token.offset)) (tokens.map block) =
      (linesWith (fun line => (line.held tokens).flatMap (added line))
        (linesFrom start texts)).flatten := by
  induction texts generalizing start tokens with
  | nil =>
    cases tokens with
    | nil => rfl
    | cons t tokens =>
      have hlow := h.low t List.mem_cons_self
      have hhigh := h.high t List.mem_cons_self
      rw [List.flatten_nil, List.length_nil] at hhigh
      omega
  | cons text texts ih =>
    rw [linesFrom, linesWith_cons, List.flatten_cons]
    -- the first line holds none of the places, or just the first of them
    rcases h.first with hfar | ⟨t, others, rfl, hnear, hfar⟩
    · have hplaces : ∀ place ∈ tokens.map Token.offset, start + text.length ≤ place :=
        List.forall_mem_map.2 hfar
      rw [interleave_cuts_append _ _ _ hplaces, ih (h.tail (List.Sublist.refl _) hfar),
        Line.held_eq_nil ⟨start, text⟩ hfar]
      rfl
    · have hlow := h.low t List.mem_cons_self
      have hplaces : ∀ place ∈ others.map Token.offset, start + text.length ≤ place :=
        List.forall_mem_map.2 hfar
      have hholds : (⟨start, text⟩ : Line).Holds t := ⟨hlow, hnear⟩
      have hwhole := h.whole _ List.mem_cons_self t List.mem_cons_self hholds
      have hsplit : (⟨start, text⟩ : Line).lead t ++ text.drop (t.offset - start).toNat = text :=
        List.take_append_drop _ _
      have hlater : ∀ line ∈ linesFrom (start + text.length) texts,
          (line.held (t :: others)).flatMap (added line) =
            (line.held others).flatMap (added line) := by
        intro line hl
        rw [Line.held_cons_of_lt (Int.lt_of_lt_of_le hnear (le_start hl))]
      rw [List.map_cons, List.map_cons, interleave_cuts_cons _ _ _ hlow (Int.le_of_lt hnear)
        hplaces, ih (h.tail (List.sublist_cons_self _ _) hfar), Line.held_cons hholds,
        Line.held_eq_nil ⟨start, text⟩ hfar, linesWith_congr hlater, List.flatMap_singleton]
      calc
        _ = (⟨start, text⟩ : Line).lead t ++ block t ++
            (text.drop (t.offset - start).toNat ++ _) := by
          rw [List.append_assoc]
          rfl
        _ = _ := by
          rw [hwhole, List.append_assoc, ← List.append_assoc (Line.lead _ t), hsplit]

end

/-! ## Indents in front of closing tags -/

/-- A fragment as whole lines, one level deeper than an indent. -/
def indentedLines (indent newline fragment : Text) : List Text :=
  (Text.splitLines fragment).map fun line => indent ++ deeper indent ++ line ++ newline

section

variable {document : Text} {line : Line} {p t : Token}

theorem unbroken_of_indent {s : Text} (h : ∀ c ∈ s, Text.isIndent c = true) : Unbroken s := by
  intro c hc
  have hindent := h c hc
  refine ⟨?_, ?_⟩ <;> rintro rfl <;> revert hindent <;> decide

theorem indented_of_indent {s : Text} (hne : s ≠ [])
    (h : ∀ c ∈ s, Text.isIndent c = true) : Indented s := by
  cases s with
  | nil => exact absurd rfl hne
  | cons c s => exact ⟨c, rfl, h c List.mem_cons_self⟩

theorem Indented.append {a : Text} (h : Indented a) (b : Text) : Indented (a ++ b) := by
  obtain ⟨c, hc, hindent⟩ := h
  refine ⟨c, ?_, hindent⟩
  rw [List.head?_append, Option.mem_def.1 hc]
  rfl

theorem isLine_of_mem_indentedLines {indent newline fragment l : Text} (hne : indent ≠ [])
    (hindent : ∀ c ∈ indent, Text.isIndent c = true) (hn : IsNewline newline)
    (hl : l ∈ indentedLines indent newline fragment) : IsLine l ∧ Indented l := by
  obtain ⟨part, hpart, rfl⟩ := List.mem_map.1 hl
  have hunbroken : Unbroken (indent ++ deeper indent ++ part) := by
    intro c hc
    rcases List.mem_append.1 hc with hc | hc
    · refine unbroken_of_indent ?_ c hc
      intro d hd
      rcases List.mem_append.1 hd with hd | hd
      · exact hindent d hd
      · exact isIndent_of_mem_deeper hd
    · have hbreak := (Text.of_mem_splitLines hpart hc).2
      refine ⟨?_, ?_⟩ <;> rintro rfl <;> revert hbreak <;> decide
  refine ⟨⟨_, newline, rfl, hunbroken, hn⟩, ?_⟩
  rw [List.append_assoc, List.append_assoc]
  exact (indented_of_indent hne hindent).append _

/-- A block that hangs behind its indent makes up whole lines with it, and
leaves an indent behind them. -/
theorem Insertion.block_hanging {i : Insertion} (hhanging : i.hanging = true)
    (hne : i.fragment ≠ []) (newline : Text) :
    i.indent ++ i.block newline =
      (indentedLines i.indent newline i.fragment).flatten ++ i.indent := by
  cases hlines : Text.splitLines i.fragment with
  | nil => exact absurd (Text.splitLines_eq_nil_iff.1 hlines) hne
  | cons part parts =>
    unfold block indentedLines
    simp only [hhanging, hlines, if_true, List.map_cons, List.flatten_cons, List.append_assoc,
      List.drop_left, List.flatMap_def]

theorem isNewline_newlineOf (document : Text) : IsNewline (newlineOf document) := by
  unfold newlineOf firstNewline?
  cases hfind : (tokenize document).find? (·.kind = .newline) with
  | none => exact .inl rfl
  | some t =>
    obtain ⟨taken⟩ := (Lexer.ofText document).taken_of_mem t (List.mem_of_find?_eq_some hfind)
    exact taken.isNewline (by simpa using List.find?_some hfind)

theorem eq_of_offset_eq {u : Token} (hp : p ∈ tokenize document) (hu : u ∈ tokenize document)
    (h : p.offset = u.offset) : p = u := by
  have hsymm : Std.Symm fun a b : Token => a.offset ≠ b.offset := ⟨fun _ _ hne => hne.symm⟩
  have hdistinct : (tokenize document).Pairwise fun a b => a.offset ≠ b.offset :=
    (offsets_ascend document).imp Int.ne_of_lt
  by_contra hne
  exact hdistinct.forall hp hu hne h

/-- The tokens in front of a token's end are those up to the token itself. -/
theorem tokensBefore_endOffset (hp : p ∈ tokenize document) :
    ∃ before, tokensBefore (tokenize document) p.endOffset = before ++ [p] := by
  have htiles := tiles_tokenize document
  have hsorted := htiles.pairwise
  have hlt := Token.offset_lt_endOffset (htiles.text_ne_nil p hp)
  obtain ⟨before, after, heq⟩ := List.append_of_mem hp
  rw [heq] at hsorted
  obtain ⟨-, hpast, hbefore⟩ := List.pairwise_append.1 hsorted
  have hafter := (List.pairwise_cons.1 hpast).1
  refine ⟨before, ?_⟩
  -- the tokens stand in order, so what starts before the end of `p` is `p` or ends before it
  have hin : ∀ u ∈ before ++ [p], decide (u.offset < p.endOffset) = true := by
    intro u hu
    rw [decide_eq_true_eq]
    rcases List.mem_append.1 hu with hu | hu
    · have hle := hbefore u hu p List.mem_cons_self
      have hmem : u ∈ tokenize document := heq ▸ List.mem_append_left _ hu
      have hne := Token.offset_lt_endOffset (htiles.text_ne_nil u hmem)
      omega
    · rw [List.mem_singleton.1 hu]
      exact hlt
  have hout : after.takeWhile (fun u => decide (u.offset < p.endOffset)) = [] := by
    rw [List.takeWhile_eq_nil_iff]
    intro hpos
    have hle := hafter _ (List.getElem_mem hpos)
    simpa using hle
  rw [tokensBefore, heq, ← List.singleton_append, ← List.append_assoc,
    List.takeWhile_append_of_pos hin, hout, List.append_nil]

/-- In front of a tag behind an indent, that indent counts. -/
theorem insertionAt_of_indent {frag : Text → Option Text} (hp : p ∈ tokenize document)
    (hk : p.kind = .indent) (hend : p.endOffset = t.offset) :
    insertionAt document frag (tokenize document) t =
      ⟨t.offset, (frag t.value).getD [], p.text, startsLine document p⟩ := by
  obtain ⟨before, hbefore⟩ := tokensBefore_endOffset hp
  obtain ⟨taken⟩ := (Lexer.ofText document).taken_of_mem p hp
  rw [insertionAt, ← hend, hbefore, lastIndent_concat, if_pos hk, taken.value_eq hk,
    List.getLast?_concat, Option.any_some]

theorem startsLine_of_mem_linesOf (hline : line ∈ linesOf document) (hk : p.kind = .indent)
    (hstart : p.offset = line.start) : startsLine document p = true := by
  obtain ⟨before, after, hdocument, hplace, hlast⟩ := exists_of_mem_linesFrom rfl hline
  unfold startsLine
  cases hbefore : before.getLast? with
  | none =>
    rw [List.getLast?_eq_none_iff.1 hbefore] at hplace
    simp [hk, hstart, hplace]
  | some c =>
    have hpos : before ≠ [] := by
      rintro rfl
      cases hbefore
    have hlen := List.length_pos_iff.2 hpos
    have hindex : (p.offset - 1).toNat = before.length - 1 := by omega
    have hget : document[(p.offset - 1).toNat]? = some c := by
      rw [hindex, hdocument, List.getElem?_append_left (by omega), ← List.getLast?_eq_getElem?,
        hbefore]
    rw [hget]
    rcases hlast c hbefore with rfl | rfl <;> simp [hk]

/-- An indent that starts a line and ends in front of a token is all that
precedes the token there. -/
theorem lead_eq_text (hline : line ∈ linesOf document) (hp : p ∈ tokenize document)
    (hstart : p.offset = line.start) (hend : p.endOffset = t.offset)
    (hholds : line.Holds t) : line.lead t = p.text := by
  obtain ⟨before, after, hdocument, hplace, -⟩ := exists_of_mem_linesFrom rfl hline
  obtain ⟨before', after', hdocument', hplace'⟩ := (tiles_tokenize document).exists_append hp
  obtain ⟨hlow, hhigh⟩ := hholds
  rw [Token.endOffset] at hend
  have hlength : before.length = before'.length := by omega
  have hsame : line.text ++ after = p.text ++ after' :=
    (List.append_inj (hdocument.symm.trans hdocument') hlength).2
  have htake : (t.offset - line.start).toNat = p.text.length := by omega
  have hle : p.text.length ≤ line.text.length := by omega
  have hfront : (line.text ++ after).take p.text.length = line.text.take p.text.length :=
    List.take_append_of_le_length hle
  rw [Line.lead, htake, ← hfront, hsame, List.take_left]

end

/-! ## Injected documents -/

/-- Each closing tag that lines are wanted for has an indent in front of it on
its line, and nothing else. -/
def TargetsIndented (document headEnd bodyEnd : Text) : Prop :=
  ∀ t ∈ targets document headEnd bodyEnd, ∀ line ∈ linesOf document, line.Holds t →
    ∃ p ∈ tokenize document, p.kind = .indent ∧ p.offset = line.start ∧ p.endOffset = t.offset

instance (document headEnd bodyEnd : Text) : Decidable (TargetsIndented document headEnd bodyEnd) :=
  inferInstanceAs (Decidable (∀ t ∈ targets document headEnd bodyEnd, _))

/-- The lines of a fragment, as they go in front of a line for the closing tag that stands there. -/
def addedAt (document headEnd bodyEnd : Text) (line : Line) (t : Token) : List Text :=
  indentedLines (line.lead t) (newlineOf document) ((fragmentFor headEnd bodyEnd t.value).getD [])

section

variable {document headEnd bodyEnd : Text} {line : Line} {t : Token}

/-- What precedes a closing tag on its line is an indent, and the block behind it
makes up whole lines with it. -/
theorem TargetsIndented.lead (h : TargetsIndented document headEnd bodyEnd)
    (hline : line ∈ linesOf document) (ht : t ∈ targets document headEnd bodyEnd)
    (hholds : line.Holds t) :
    line.lead t ≠ [] ∧ (∀ c ∈ line.lead t, Text.isIndent c = true) ∧
      line.lead t ++ blockAt document headEnd bodyEnd t =
        (addedAt document headEnd bodyEnd line t).flatten ++ line.lead t := by
  obtain ⟨p, hp, hk, hstart, hend⟩ := h t ht line hline hholds
  obtain ⟨taken⟩ := (Lexer.ofText document).taken_of_mem p hp
  have hfrag := frag_of_isTarget (List.mem_filter.1 ht).2
  have hhanging := startsLine_of_mem_linesOf hline hk hstart
  rw [addedAt, lead_eq_text hline hp hstart hend hholds, blockAt, insertionAt_of_indent hp hk hend]
  refine ⟨(tiles_tokenize document).text_ne_nil p hp, ?_, ?_⟩
  · rw [← taken.value_eq hk]
    exact taken.isIndent hk
  · exact Insertion.block_hanging (i := ⟨_, _, _, _⟩) hhanging (fragmentFor_ne_nil hfrag) _

theorem TargetsIndented.fits (h : TargetsIndented document headEnd bodyEnd) :
    Fits 0 (keptLines document) (blockAt document headEnd bodyEnd)
      (addedAt document headEnd bodyEnd)
      (targets document headEnd bodyEnd) where
  sorted := (offsets_ascend document).sublist List.filter_sublist
  low t ht := (offset_bounds (List.mem_filter.1 ht).1).1
  high t ht := by
    have hlt := (offset_bounds (List.mem_filter.1 ht).1).2
    rw [flatten_keptLines]
    omega
  one line hline t ht u hu hholds hholds' := by
    obtain ⟨p, hp, -, hstart, hend⟩ := h t ht line hline hholds
    obtain ⟨p', hp', -, hstart', hend'⟩ := h u hu line hline hholds'
    obtain rfl := eq_of_offset_eq hp hp' (hstart.trans hstart'.symm)
    exact hend.symm.trans hend'
  whole line hline t ht hholds := (h.lead hline ht hholds).2.2

end

/-- **Injecting puts whole lines in between the lines of a document.** If just an indent precedes
each of the closing tags on its line, the lines of the document stay what they were, in their order,
and in front of the line of such a tag there is one line more for each line of the fragment: behind
the tag's indent and one more level, with the line end that the document has first. -/
theorem keptLines_inject (document headEnd bodyEnd : Text)
    (h : TargetsIndented document headEnd bodyEnd) :
    keptLines (inject document headEnd bodyEnd) =
      (linesOf document).flatMap fun line =>
        ((line.held (targets document headEnd bodyEnd)).flatMap fun t =>
          indentedLines (line.lead t) (newlineOf document)
            ((fragmentFor headEnd bodyEnd t.value).getD [])) ++
            [line.text] := by
  have hinject := h.fits.interleave_eq
  rw [flatten_keptLines] at hinject
  rw [inject_eq, pieces, hinject]
  refine (keptLines_linesWith rfl ?_ ?_).1
  · intro line hline l hl
    obtain ⟨t, hheld, hl⟩ := List.mem_flatMap.1 hl
    obtain ⟨ht, hholds⟩ := List.mem_filter.1 hheld
    obtain ⟨hne, hindent, -⟩ := h.lead hline ht (of_decide_eq_true hholds)
    exact isLine_of_mem_indentedLines hne hindent (isNewline_newlineOf document) hl
  · intro line hline hadded
    obtain ⟨l, hl⟩ := List.exists_mem_of_ne_nil _ hadded
    obtain ⟨t, hheld, -⟩ := List.mem_flatMap.1 hl
    obtain ⟨ht, hholds⟩ := List.mem_filter.1 hheld
    obtain ⟨hne, hindent, -⟩ := h.lead hline ht (of_decide_eq_true hholds)
    rw [← List.take_append_drop (t.offset - line.start).toNat line.text]
    exact (indented_of_indent hne hindent).append _

/-- Two closing tags, with line ends of two kinds, blanks in front of the one and
a tab in front of the other. -/
theorem keptLines_inject_two :
    TargetsIndented "<head>\r\n  </head>\n\t</body>".toList "<a>\n<b>".toList "<i>".toList ∧
    keptLines (inject "<head>\r\n  </head>\n\t</body>".toList "<a>\n<b>".toList "<i>".toList) =
      ["<head>\r\n".toList, "    <a>\r\n".toList, "    <b>\r\n".toList, "  </head>\n".toList,
        "\t\t<i>\r\n".toList, "\t</body>".toList] := by
  have h : TargetsIndented "<head>\r\n  </head>\n\t</body>".toList
      "<a>\n<b>".toList "<i>".toList := by
    decide +kernel
  refine ⟨h, (keptLines_inject _ _ _ h).trans ?_⟩
  decide +kernel

end Markup
end SiteOptimizer
