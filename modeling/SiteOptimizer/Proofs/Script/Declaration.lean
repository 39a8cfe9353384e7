import SiteOptimizer.Proofs.Markup.Nodes
import SiteOptimizer.Proofs.Script.Search

/-!
# Import and export declarations

A declaration is an `import` or an `export … from` statement by the grammar of scripts, with
names in ASCII. It is written as its words and marks one behind the other, with white space
between them where the writer likes it and where two words would run together, and its specifier
between quotes (`Declaration.Written`).

The readers of statements read a declaration as its specifier wherever it stands
(`importStatement?_written`, `exportStatement?_written`).
-/

namespace SiteOptimizer
namespace Script

open Markup (IsSpace IsQuote)

/-! ## Words and marks -/

/-- The characters of ASCII identifiers. -/
def isIdentifierChar (c : Char) : Bool :=
  Text.isLetter c || Text.isDigit c || c = '_' || c = '$'

/-- The word that an import starts with. -/
def importWord : Text := "import".toList

/-- The word that an export starts with. -/
def exportWord : Text := "export".toList

/-- The word in front of a new name. -/
def asWord : Text := "as".toList

/-- An ASCII identifier other than the word `export`. Whether it starts with
a digit makes no difference. -/
structure Name where
  text : Text
  ne_nil : text ≠ []
  isIdentifierChar : ∀ c ∈ text, isIdentifierChar c = true
  ne_export : text ≠ exportWord

/-- A word or a mark of a declaration. -/
inductive Lexeme where
  | word (text : Text)
  | mark (character : Char)
  deriving DecidableEq, Repr

/-- The text of a lexeme. -/
def Lexeme.text : Lexeme → Text
  | .word text => text
  | .mark c => [c]

/-- Whether a lexeme is a word. -/
def Lexeme.isWord : Lexeme → Bool
  | .word _ => true
  | .mark _ => false

/-- The words and marks that declarations are made of behind their first word. -/
def Lexeme.Inner : Lexeme → Prop
  | .word text => text ≠ [] ∧ (∀ c ∈ text, isIdentifierChar c = true) ∧ text ≠ exportWord
  | .mark c => c ∈ ['\x7b', '\x7d', ',', '*']

/-- Lexemes one behind the other, with white space between them, of which
there is some between two words. -/
inductive Spaced : List Lexeme → Text → Prop where
  | last (l : Lexeme) : Spaced [l] l.text
  | cons {l k : Lexeme} {ls : List Lexeme} {gap s : Text} : IsSpace gap →
      (l.isWord = true → k.isWord = true → gap ≠ []) → Spaced (k :: ls) s →
        Spaced (l :: k :: ls) (l.text ++ (gap ++ s))

/-! ## Declarations -/

/-- A name in a list, and the name that it gets. -/
structure Item where
  name : Name
  alias? : Option Name

/-- The lexemes of an item. -/
def Item.lexemes (item : Item) : List Lexeme :=
  .word item.name.text ::
    match item.alias? with
    | none => []
    | some name => [.word asWord, .word name.text]

/-- Names in braces; a comma may stand behind the last one. -/
structure NameList where
  items : List Item
  comma : Bool

/-- The lexemes between the braces. -/
def itemLexemes (comma : Bool) : List Item → List Lexeme
  | [] => []
  | [item] => item.lexemes ++ if comma then [.mark ','] else []
  | item :: items => item.lexemes ++ .mark ',' :: itemLexemes comma items

/-- The lexemes of a list. -/
def NameList.lexemes (names : NameList) : List Lexeme :=
  .mark '\x7b' :: (itemLexemes names.comma names.items ++ [.mark '\x7d'])

/-- What an import binds. -/
inductive Clause where
  | default (name : Name)
  | list (names : NameList)
  | all (name : Name)
  | defaultAndList (name : Name) (names : NameList)
  | defaultAndAll (name whole : Name)

/-- The lexemes of a name for all that a module exports. -/
def allLexemes (name : Name) : List Lexeme :=
  [.mark '*', .word asWord, .word name.text]

/-- The lexemes of a clause. -/
def Clause.lexemes : Clause → List Lexeme
  | .default name => [.word name.text]
  | .list names => names.lexemes
  | .all name => allLexemes name
  | .defaultAndList name names => .word name.text :: .mark ',' :: names.lexemes
  | .defaultAndAll name whole => .word name.text :: .mark ',' :: allLexemes whole

/-- What a declaration does with the module that it names. -/
inductive Form where
  | importEffect
  | importClause (clause : Clause)
  | exportList (names : NameList)
  | exportAll
  | exportAllAs (name : Name)

/-- Whether a declaration is an import. -/
def Form.isImport : Form → Bool
  | .importEffect | .importClause _ => true
  | _ => false

/-- Whether a declaration imports a module for its effect alone. -/
def Form.isEffect : Form → Bool
  | .importEffect => true
  | _ => false

/-- The word that a declaration starts with. -/
def Form.firstWord (form : Form) : Text :=
  if form.isImport then importWord else exportWord

/-- The lexemes between the first word and the specifier. -/
def Form.inner : Form → List Lexeme
  | .importEffect => []
  | .importClause clause => clause.lexemes ++ [.word fromWord]
  | .exportList names => names.lexemes ++ [.word fromWord]
  | .exportAll => [.mark '*', .word fromWord]
  | .exportAllAs name => allLexemes name ++ [.word fromWord]

theorem isQuote_single : IsQuote '\'' := .inr rfl

theorem isQuote_double : IsQuote '"' := .inl rfl

/-- A specifier and its quotes. It may hold escapes, as long as none takes
the quote at its end along. -/
structure Specifier where
  quote : Char
  text : Text
  isQuote : IsQuote quote
  isPlain : ∀ c ∈ text, c ≠ '"' ∧ c ≠ '\'' ∧ c ≠ '\x7b' ∧ c ≠ '\x7d' ∧ Text.isBlank c = false
  isLiteral : LiteralBody quote false false text

/-- The specifier between its quotes. -/
def Specifier.render (s : Specifier) : Text :=
  s.quote :: (s.text ++ [s.quote])

/-- A static import, or an export from another module. -/
structure Declaration where
  form : Form
  specifier : Specifier

/-- The texts of a declaration. -/
inductive Declaration.Written (d : Declaration) : Text → Prop where
  | intro {head gap : Text} : Spaced (.word d.form.firstWord :: d.form.inner) head → IsSpace gap →
      Written d (head ++ (gap ++ d.specifier.render))

/-! ## Classes of characters -/

theorem toNat_lt_of_isIdentifierChar {c : Char}
    (h : isIdentifierChar c = true) : c.toNat < 0x80 := by
  simp only [isIdentifierChar, Text.isLetter, Text.isDigit, Bool.or_eq_true, Bool.and_eq_true,
    decide_eq_true_eq] at h
  rcases h with (((h | h) | h) | rfl) | rfl
  · exact Nat.lt_of_le_of_lt h.2 (by decide)
  · exact Nat.lt_of_le_of_lt h.2 (by decide)
  · exact Nat.lt_of_le_of_lt h.2 (by decide)
  · decide
  · decide

/-- An identifier is a name, and white space stands in none. -/
theorem of_isIdentifierChar {c : Char} (h : isIdentifierChar c = true) :
    isNameChar c = true ∧ Text.isBlank c = false := by
  have hall : ∀ n ∈ List.range 0x80, isIdentifierChar (Char.ofNat n) = true →
      isNameChar (Char.ofNat n) = true ∧ Text.isBlank (Char.ofNat n) = false := by decide +kernel
  have hc := hall c.toNat (List.mem_range.2 (toNat_lt_of_isIdentifierChar h))
  rw [Char.ofNat_toNat] at hc
  exact hc h

/-- White space stands in no name. -/
theorem isNameChar_of_isBlank {c : Char} (h : Text.isBlank c = true) : isNameChar c = false := by
  have hall : ∀ r ∈ Text.blankRanges, ∀ n ∈ List.range' r.1 (r.2 - r.1 + 1),
      isNameChar (Char.ofNat n) = false := by decide +kernel
  obtain ⟨r, hr, hlow, hhigh⟩ := Text.Ranges.exists_of_contains h
  have hc := hall r hr c.toNat (List.mem_range'_1.2 ⟨hlow, by omega⟩)
  rwa [Char.ofNat_toNat] at hc

theorem isClauseChar_of_isBlank {c : Char} (h : Text.isBlank c = true) : isClauseChar c = true := by
  simp [isClauseChar, h]

theorem isClauseChar_of_isNameChar {c : Char}
    (h : isNameChar c = true) : isClauseChar c = true := by
  simp [isClauseChar, h]

/-! ## Lexemes -/

theorem Name.inner (name : Name) : (Lexeme.word name.text).Inner :=
  ⟨name.ne_nil, name.isIdentifierChar, name.ne_export⟩

theorem inner_as : (Lexeme.word asWord).Inner :=
  ⟨by decide, by decide, by decide⟩

theorem inner_from : (Lexeme.word fromWord).Inner :=
  ⟨by decide, by decide, by decide⟩

theorem inner_itemLexemes (comma : Bool) (items : List Item) :
    ∀ l ∈ itemLexemes comma items, l.Inner ∧ l ≠ .mark '\x7d' := by
  have hitem (item : Item) : ∀ l ∈ item.lexemes, l.Inner ∧ l ≠ .mark '\x7d' := by
    obtain ⟨name, alias?⟩ := item
    cases alias? with
    | none => simp [Item.lexemes, name.inner]
    | some other => simp [Item.lexemes, name.inner, other.inner, inner_as]
  have hcomma : (Lexeme.mark ',').Inner ∧ Lexeme.mark ',' ≠ .mark '\x7d' :=
    ⟨by simp [Lexeme.Inner], by decide⟩
  fun_induction itemLexemes comma items with
  | case1 => simp
  -- only the last item may go without its comma
  | case2 item =>
    intro l hl
    rcases List.mem_append.1 hl with hl | hl
    · exact hitem item l hl
    · split at hl
      · rw [List.mem_singleton.1 hl]
        exact hcomma
      · cases hl
  | case3 item items _ ih =>
    intro l hl
    rcases List.mem_append.1 hl with hl | hl
    · exact hitem item l hl
    · rcases List.mem_cons.1 hl with rfl | hl
      · exact hcomma
      · exact ih l hl

/-- No item closes the list. -/
theorem not_mem_itemLexemes (comma : Bool) (items : List Item) :
    ∀ l ∈ itemLexemes comma items, '\x7d' ∉ l.text := by
  intro l hl hmem
  obtain ⟨hinner, hne⟩ := inner_itemLexemes comma items l hl
  cases l with
  | word text => exact absurd (hinner.2.1 _ hmem) (by decide)
  | mark c =>
    rw [List.mem_singleton.1 hmem] at hne
    exact hne rfl

theorem NameList.inner (names : NameList) : ∀ l ∈ names.lexemes, l.Inner := by
  intro l hl
  rcases List.mem_cons.1 hl with rfl | hl
  · simp [Lexeme.Inner]
  rcases List.mem_append.1 hl with hl | hl
  · exact (inner_itemLexemes names.comma names.items l hl).1
  · rw [List.mem_singleton.1 hl]
    simp [Lexeme.Inner]

theorem inner_allLexemes (name : Name) : ∀ l ∈ allLexemes name, l.Inner := by
  simp [allLexemes, inner_as, name.inner]
  simp [Lexeme.Inner]

theorem Clause.inner (clause : Clause) : ∀ l ∈ clause.lexemes, l.Inner := by
  have hcomma : (Lexeme.mark ',').Inner := by simp [Lexeme.Inner]
  cases clause with
  | default name => simpa [Clause.lexemes] using name.inner
  | list names => exact names.inner
  | all name => exact inner_allLexemes name
  | defaultAndList name names => simpa [Clause.lexemes, name.inner, hcomma] using names.inner
  | defaultAndAll name whole =>
    simpa [Clause.lexemes, name.inner, hcomma] using inner_allLexemes whole

theorem Form.firstWord_ne_nil (form : Form) : form.firstWord ≠ [] := by
  rw [firstWord]
  split <;> decide

theorem Form.inner_inner (form : Form) : ∀ l ∈ form.inner, l.Inner := by
  have happend (ls : List Lexeme) (h : ∀ l ∈ ls, l.Inner) :
      ∀ l ∈ ls ++ [.word fromWord], l.Inner := by
    intro l hl
    rcases List.mem_append.1 hl with hl | hl
    · exact h l hl
    · rw [List.mem_singleton.1 hl]
      exact inner_from
  cases form with
  | importEffect => simp [Form.inner]
  | importClause clause => exact happend _ clause.inner
  | exportList names => exact happend _ names.inner
  | exportAll => exact happend [.mark '*'] (by simp [Lexeme.Inner])
  | exportAllAs name => exact happend _ (inner_allLexemes name)

theorem Lexeme.Inner.text_ne_nil {l : Lexeme} (h : l.Inner) : l.text ≠ [] := by
  cases l with
  | word text => exact h.1
  | mark c => exact List.cons_ne_nil c []

theorem Lexeme.Inner.isClauseChar {l : Lexeme} (h : l.Inner) :
    ∀ c ∈ l.text, isClauseChar c = true := by
  cases l with
  | word text => exact fun c hc => isClauseChar_of_isNameChar (of_isIdentifierChar (h.2.1 c hc)).1
  | mark c =>
    intro d hd
    rw [List.mem_singleton.1 hd]
    have hall : ∀ c ∈ ['\x7b', '\x7d', ',', '*'], Script.isClauseChar c = true := by decide +kernel
    exact hall c h

/-! ## Spacing -/

theorem Spaced.mem {ls : List Lexeme} {s : Text} (h : Spaced ls s) :
    ∀ c ∈ s, Text.isBlank c = true ∨ ∃ l ∈ ls, c ∈ l.text := by
  induction h with
  | last l => exact fun c hc => .inr ⟨l, List.mem_singleton_self l, hc⟩
  | @cons l k ls gap s hgap _ _ ih =>
    intro c hc
    rcases List.mem_append.1 hc with hc | hc
    · exact .inr ⟨l, List.mem_cons_self, hc⟩
    rcases List.mem_append.1 hc with hc | hc
    · exact .inl (hgap c hc)
    · rcases ih c hc with hblank | ⟨m, hm, hc⟩
      · exact .inl hblank
      · exact .inr ⟨m, List.mem_cons_of_mem l hm, hc⟩

theorem Spaced.ne_nil {l : Lexeme} {ls : List Lexeme} {s : Text} (h : Spaced (l :: ls) s)
    (hl : l.text ≠ []) :
    s ≠ [] := by
  cases h with
  | last => exact hl
  | cons _ _ _ => simp [hl]

/-- Lexemes in front of others stand in front of them. -/
theorem Spaced.split {a b : List Lexeme} {l : Lexeme} {s : Text} (h : Spaced (a ++ l :: b) s) :
    ∃ x y, s = x ++ y ∧ (∀ c ∈ x, Text.isBlank c = true ∨ ∃ k ∈ a, c ∈ k.text) ∧
      (∀ k ∈ a, k.text ≠ [] → x ≠ []) ∧
      Spaced (l :: b) y := by
  induction a generalizing s with
  | nil => exact ⟨[], s, rfl, by simp, by simp, h⟩
  | cons k a ih =>
    -- a lexeme may be the last or be followed by others, and both ways lead to the same cut
    have hrest {gap t : Text} (hgap : IsSpace gap) (ht : Spaced (a ++ l :: b) t) :
        ∃ x y, k.text ++ (gap ++ t) = x ++ y ∧
          (∀ c ∈ x, Text.isBlank c = true ∨ ∃ m ∈ k :: a, c ∈ m.text) ∧
          (∀ m ∈ k :: a, m.text ≠ [] → x ≠ []) ∧ Spaced (l :: b) y := by
      obtain ⟨x, y, rfl, hx, hne, hy⟩ := ih ht
      refine ⟨k.text ++ (gap ++ x), y, by simp, fun c hc => ?_, fun m hm hm' => ?_, hy⟩
      · rcases List.mem_append.1 hc with hc | hc
        · exact .inr ⟨k, List.mem_cons_self, hc⟩
        rcases List.mem_append.1 hc with hc | hc
        · exact .inl (hgap c hc)
        · exact (hx c hc).imp_right fun ⟨m, hm, hc⟩ => ⟨m, List.mem_cons_of_mem k hm, hc⟩
      · rcases List.mem_cons.1 hm with rfl | hm
        · simp [hm']
        · simp [hne m hm hm']
    cases a with
    | nil => cases h with
      | cons hgap _ ht => exact hrest hgap ht
    | cons m a => cases h with
      | cons hgap _ ht => exact hrest hgap ht

/-! ## Reading a specifier -/

/-- Names break off in front of a text that does not go on with a name. -/
def Breaks (t : Text) : Prop :=
  ∀ c, t.head? = some c → isNameChar c = false

theorem breaks_cons {c : Char} (h : isNameChar c = false) (s : Text) : Breaks (c :: s) := by
  intro d hd
  obtain rfl : c = d := by simpa using hd
  exact h

theorem breaks_append {gap t : Text} (hgap : IsSpace gap)
    (ht : gap = [] → Breaks t) : Breaks (gap ++ t) := by
  cases gap with
  | nil => exact ht rfl
  | cons c gap => exact breaks_cons (isNameChar_of_isBlank (hgap c List.mem_cons_self)) _

theorem dropWhile_space {gap : Text} (hgap : IsSpace gap) {c : Char}
    (hc : Text.isBlank c = false) (s : Text) :
    (gap ++ c :: s).dropWhile Text.isBlank = c :: s := by
  rw [List.dropWhile_append_of_pos hgap, List.dropWhile_cons_of_neg (by simp [hc])]

theorem dropWhile_space_word {gap w : Text} (hgap : IsSpace gap)
    (hw : w.head?.map Text.isBlank = some false) (s : Text) :
    (gap ++ (w ++ s)).dropWhile Text.isBlank = w ++ s := by
  cases w with
  | nil => cases hw
  | cons c w => exact dropWhile_space hgap (by simpa using hw) (w ++ s)

theorem isDelimiter_of_isQuote {q : Char} (h : IsQuote q) : IsDelimiter q := by
  rcases h with rfl | rfl <;> decide

namespace Specifier

variable (s : Specifier)

theorem render_append (t : Text) : s.render ++ t = s.quote :: (s.text ++ s.quote :: t) := by
  simp [render]

theorem isBlank_quote : Text.isBlank s.quote = false :=
  stopsAtQuotes_isBlank _ (isDelimiter_of_isQuote s.isQuote)

theorem isClauseChar_quote : isClauseChar s.quote = false :=
  stopsAtQuotes_isClauseChar _ (isDelimiter_of_isQuote s.isQuote)

theorem breaks_render (t : Text) : Breaks (s.render ++ t) := by
  rw [s.render_append]
  exact breaks_cons (stopsAtQuotes_isNameChar _ (isDelimiter_of_isQuote s.isQuote)) _

theorem isSpecifierChar_of_mem {c : Char} (h : c ∈ s.text) : isSpecifierChar c = true := by
  obtain ⟨hdouble, hsingle, -, -, hblank⟩ := s.isPlain c h
  have hline : c ≠ '\n' := by
    rintro rfl
    exact absurd hblank (by decide)
  simp [isSpecifierChar, hdouble, hsingle, hline]

/-- **What stands between quotes is read as it is**, if there is anything. -/
theorem specifier?_render (t : Text) :
    specifier? (s.render ++ t) = if s.text = [] then none else some (s.text, t) := by
  have hquote : s.quote = '"' ∨ s.quote = '\'' := s.isQuote
  have hstop : isSpecifierChar s.quote = false := by
    rcases hquote with h | h <;> rw [h] <;> decide
  obtain ⟨htake, hdrop⟩ :=
    Markup.takeWhile_exact (w := s.quote :: t) (fun c hc => s.isSpecifierChar_of_mem hc)
    (by simpa using hstop)
  rw [s.render_append, specifier?, if_pos (by simpa using hquote),
    List.span_eq_takeWhile_dropWhile, htake, hdrop]
  cases s.text with
  | nil => rfl
  | cons c text => simp

theorem fromClause?_render {g gap : Text} (hg : IsSpace g) (hgap : IsSpace gap) (t : Text) :
    fromClause? (g ++ (fromWord ++ (gap ++ (s.render ++ t)))) = specifier? (s.render ++ t) := by
  rw [fromClause?, dropWhile_space_word hg (by decide), Text.after?_eq_some_iff.2 rfl,
    Option.bind_some, s.render_append, dropWhile_space hgap s.isBlank_quote]

end Specifier

/-! ## Reading a declaration -/

variable {head gap : Text}

/-- An import up to its specifier is the word and nothing else, or it ends with the word `from`. -/
theorem Form.head_import {form : Form} (himport : form.isImport = true)
    (h : Spaced (.word form.firstWord :: form.inner) head) :
    ∃ x, head = importWord ++ x ∧ (∀ c ∈ x, isClauseChar c = true) ∧
      (form.isEffect = true ∧ x = [] ∨ form.isEffect = false ∧ ∃ y, y ≠ [] ∧
        x = y ++ fromWord) := by
  have hinner := form.inner_inner
  rw [firstWord, if_pos himport] at h
  cases form with
  | importEffect => cases h with
    | last => exact ⟨[], by simp [Lexeme.text], by simp, .inl ⟨rfl, rfl⟩⟩
  | importClause clause =>
    -- a clause has a lexeme, so there is something between the two words
    obtain ⟨k, ls, hls⟩ : ∃ k ls, clause.lexemes = k :: ls := by
      cases clause <;> exact ⟨_, _, rfl⟩
    rw [Form.inner, hls, List.cons_append] at h hinner
    cases h with
    | @cons _ _ _ g s hg _ hs =>
      have hmem := hs.mem
      rw [← List.cons_append] at hs hinner
      obtain ⟨y, z, rfl, -, hne, hz⟩ := hs.split
      cases hz
      refine ⟨g ++ (y ++ fromWord), rfl, fun c hc => ?_, .inr ⟨rfl, g ++ y, ?_, by simp⟩⟩
      · rcases List.mem_append.1 hc with hc | hc
        · exact isClauseChar_of_isBlank (hg c hc)
        · rcases hmem c hc with hblank | ⟨l, hl, hc⟩
          · exact isClauseChar_of_isBlank hblank
          · exact (hinner l hl).isClauseChar c hc
      · simp [hne k List.mem_cons_self (hinner k List.mem_cons_self).text_ne_nil]
  | exportList names => cases himport
  | exportAll => cases himport
  | exportAllAs name => cases himport

/-- **An import reads as its specifier**, whatever follows. -/
theorem importStatement?_written {form : Form} (himport : form.isImport = true)
    (h : Spaced (.word form.firstWord :: form.inner) head) (hgap : IsSpace gap)
    (s : Specifier) (t : Text) :
    importStatement? (head ++ (gap ++ (s.render ++ t))) = specifier? (s.render ++ t) := by
  obtain ⟨x, rfl, hx, hend⟩ := form.head_import himport h
  have hclause : ∀ c ∈ x ++ gap, isClauseChar c = true := by
    intro c hc
    rcases List.mem_append.1 hc with hc | hc
    · exact hx c hc
    · exact isClauseChar_of_isBlank (hgap c hc)
  obtain ⟨htake, hdrop⟩ := Markup.takeWhile_exact (w := s.render ++ t) hclause
    (by rw [s.render_append]; simpa using s.isClauseChar_quote)
  have hafter : Text.after? "import".toList (importWord ++ x ++ (gap ++ (s.render ++ t))) =
      some (x ++ gap ++ (s.render ++ t)) := by
    rw [Text.after?_eq_some_iff]
    simp [importWord]
  rw [importStatement?, hafter, Option.bind_some]
  simp only [htake, hdrop]
  refine if_pos ?_
  rw [Bool.or_eq_true, List.all_eq_true]
  -- an import for its effect has nothing but space here; a clause has to end with its word
  rcases hend with ⟨-, rfl⟩ | ⟨-, y, hy, rfl⟩
  · exact .inl hgap
  · right
    have hlast : ∀ c, (y ++ fromWord).getLast? = some c → Text.isBlank c = false := by
      intro c hc
      have hm : (y ++ fromWord).getLast? = some 'm' := by simp [fromWord]
      rw [hm] at hc
      cases hc
      decide
    rw [Text.dropEndWhile_append hgap, Text.dropEndWhile_eq_self hlast, endsWithFrom, Text.before?,
      Text.endsWith, if_pos (List.isSuffixOf_iff_suffix.2 (List.suffix_append y fromWord))]
    simpa using hy

theorem exportStatement?_star {g : Text} (hg : IsSpace g) (t : Text) :
    exportStatement? (exportWord ++ (g ++ '*' :: t)) = exportedStar? t := by
  have hafter : Text.after? "export".toList (exportWord ++ (g ++ '*' :: t)) =
      some (g ++ '*' :: t) :=
    Text.after?_eq_some_iff.2 rfl
  rw [exportStatement?, hafter, Option.bind_some, dropWhile_space hg (by decide)]
  rfl

theorem exportStatement?_list {g x : Text} (hg : IsSpace g) (hx : '\x7d' ∉ x) (t : Text) :
    exportStatement? (exportWord ++ (g ++ '\x7b' :: (x ++ '\x7d' :: t))) = fromClause? t := by
  have hafter : Text.after? "export".toList (exportWord ++ (g ++ '\x7b' :: (x ++ '\x7d' :: t))) =
      some (g ++ '\x7b' :: (x ++ '\x7d' :: t)) := Text.after?_eq_some_iff.2 rfl
  have hdrop : (x ++ '\x7d' :: t).dropWhile (· ≠ '\x7d') = '\x7d' :: t := by
    rw [List.dropWhile_append_of_pos (Markup.Gap.all_ne_of_not_mem hx),
      List.dropWhile_cons_of_neg (by decide)]
  rw [exportStatement?, hafter, Option.bind_some, dropWhile_space hg (by decide)]
  simp only [hdrop]

theorem exportedStar?_from {g : Text} (hg : IsSpace g) (hgap : IsSpace gap)
    (s : Specifier) (t : Text) :
    exportedStar? (g ++ (fromWord ++ (gap ++ (s.render ++ t)))) = specifier? (s.render ++ t) := by
  have hafter : Text.after? "as".toList (fromWord ++ (gap ++ (s.render ++ t))) = none := rfl
  rw [exportedStar?, dropWhile_space_word hg (by decide), hafter]
  exact s.fromClause?_render hg hgap t

/-- A name stands between white space and what follows it, so it is read as a whole. -/
theorem exportedStar?_as {g g₁ g₂ : Text} (hg : IsSpace g) (hg₁ : IsSpace g₁) (hne₁ : g₁ ≠ [])
    (name : Name) (hg₂ : IsSpace g₂) (hne₂ : g₂ ≠ []) (hgap : IsSpace gap)
    (s : Specifier) (t : Text) :
    exportedStar? (g ++ (asWord ++ (g₁ ++
      (name.text ++ (g₂ ++ (fromWord ++ (gap ++ (s.render ++ t)))))))) =
      specifier? (s.render ++ t) := by
  generalize hrest : g₂ ++ (fromWord ++ (gap ++ (s.render ++ t))) = rest
  have hfrom : fromClause? rest = specifier? (s.render ++ t) := by
    rw [← hrest]
    exact s.fromClause?_render hg₂ hgap t
  obtain ⟨c, text, hname⟩ := List.exists_cons_of_ne_nil name.ne_nil
  have hblank : Text.isBlank c = false :=
    (of_isIdentifierChar (name.isIdentifierChar c (by rw [hname]; exact List.mem_cons_self))).2
  have hafter : Text.after? "as".toList (asWord ++ (g₁ ++ (name.text ++ rest))) =
      some (g₁ ++ (name.text ++ rest)) :=
    Text.after?_eq_some_iff.2 rfl
  obtain ⟨hspace, hbehind⟩ := Markup.takeWhile_exact (w := name.text ++ rest) hg₁
    (by rw [hname]; simpa using hblank)
  have hbreaks : Breaks rest := by
    rw [← hrest]
    exact breaks_append hg₂ fun h => absurd h hne₂
  obtain ⟨htext, hleft⟩ := Markup.takeWhile_exact (w := rest)
    (fun d hd => (of_isIdentifierChar (name.isIdentifierChar d hd)).1) hbreaks
  rw [exportedStar?, dropWhile_space_word hg (by decide), hafter]
  simp only [List.span_eq_takeWhile_dropWhile, hspace, hbehind, htext, hleft, hfrom, hne₁,
    name.ne_nil, decide_false, Bool.or_self, Bool.false_eq_true, if_false]
  cases hspecifier : specifier? (s.render ++ t) with
  | some found => rfl
  | none =>
    -- where the specifier is empty, the name is not read as a shorter one with the
    -- word `from` behind it either
    have hnone : specifier? (rest.dropWhile Text.isBlank) = none := by
      rw [← hrest, dropWhile_space_word hg₂ (by decide)]
      rfl
    rw [hnone]
    exact ite_self _

theorem exportStatement?_exportList {names : NameList}
    (h : Spaced (.word exportWord :: (names.lexemes ++ [.word fromWord])) head) (hgap : IsSpace gap)
    (s : Specifier) (t : Text) :
    exportStatement? (head ++ (gap ++ (s.render ++ t))) = specifier? (s.render ++ t) := by
  rw [NameList.lexemes, List.cons_append, List.append_assoc, List.singleton_append] at h
  obtain ⟨k, ls, hls⟩ := List.exists_cons_of_ne_nil (l := itemLexemes names.comma names.items ++
    [.mark '\x7d', .word fromWord]) (by simp)
  rw [hls] at h
  cases h with | @cons _ _ _ g _ hg _ h =>
  cases h with | @cons _ _ _ g₁ _ hg₁ _ h =>
  rw [← hls] at h
  obtain ⟨x, y, rfl, hx, -, hclose⟩ := h.split
  cases hclose with | @cons _ _ _ g₂ _ hg₂ _ hfrom =>
  cases hfrom
  -- the list goes on to its own brace, as none stands in its items
  have hopen : '\x7d' ∉ g₁ ++ x := by
    intro hmem
    rcases List.mem_append.1 hmem with hmem | hmem
    · exact absurd (hg₁ _ hmem) (by decide)
    rcases hx _ hmem with hblank | ⟨l, hl, hmem⟩
    · exact absurd hblank (by decide)
    · exact not_mem_itemLexemes names.comma names.items l hl hmem
  have hread := exportStatement?_list hg hopen (g₂ ++ (fromWord ++ (gap ++ (s.render ++ t))))
  rw [s.fromClause?_render hg₂ hgap] at hread
  simpa [Lexeme.text] using hread

/-- **An export reads as its specifier**, whatever follows. -/
theorem exportStatement?_written {form : Form} (hexport : form.isImport = false)
    (h : Spaced (.word form.firstWord :: form.inner) head) (hgap : IsSpace gap)
    (s : Specifier) (t : Text) :
    exportStatement? (head ++ (gap ++ (s.render ++ t))) = specifier? (s.render ++ t) := by
  rw [Form.firstWord, hexport, if_neg Bool.false_ne_true] at h
  cases form with
  | importEffect => cases hexport
  | importClause clause => cases hexport
  | exportList names => exact exportStatement?_exportList h hgap s t
  | exportAll =>
    rw [Form.inner] at h
    cases h with | @cons _ _ _ g _ hg _ h =>
    cases h with | @cons _ _ _ g₁ _ hg₁ _ h =>
    cases h
    -- the gaps of the lexemes are put back between the words that the search expects
    have hread := exportStatement?_star hg (g₁ ++ (fromWord ++ (gap ++ (s.render ++ t))))
    rw [exportedStar?_from hg₁ hgap] at hread
    simpa [Lexeme.text] using hread
  | exportAllAs name =>
    rw [Form.inner, allLexemes] at h
    cases h with | @cons _ _ _ g _ hg _ h =>
    cases h with | @cons _ _ _ g₁ _ hg₁ _ h =>
    cases h with | @cons _ _ _ g₂ _ hg₂ hne₂ h =>
    cases h with | @cons _ _ _ g₃ _ hg₃ hne₃ h =>
    cases h
    have hread := exportStatement?_star hg
      (g₁ ++ (asWord ++ (g₂ ++ (name.text ++ (g₃ ++ (fromWord ++ (gap ++ (s.render ++ t))))))))
    rw [exportedStar?_as hg₁ hg₂ (hne₂ rfl rfl) name hg₃ (hne₃ rfl rfl) hgap] at hread
    simpa [Lexeme.text] using hread

end Script
end SiteOptimizer
