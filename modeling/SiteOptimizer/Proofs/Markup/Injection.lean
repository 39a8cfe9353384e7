import SiteOptimizer.Proofs.Markup.Splice
import SiteOptimizer.Proofs.Markup.Stability
import SiteOptimizer.Proofs.Text

/-!
# What an injected document reads as

The lines that `Markup.inject` puts in front of closing tags are comments and whole tags.
`Standalone` says so: such a line reads as the same markup wherever it stands. `signs_inject` then
says that an injected document reads as the document did, with the markup of the lines in front of
the closing tags and nothing else changed. It needs one thing of the document: that no quote is
left open which the lines would close.
-/

namespace SiteOptimizer
namespace Markup

open Text (Pattern)

variable {frag : Text → Option Text} {newline : Text} {m : Mode}

/-! ## Pieces that read alike before any text -/

namespace Pattern

/-- A pattern whose piece does not depend on what follows it. -/
structure Exact (p : Pattern) : Prop where
  keeps : ∀ found rest rest', p.split? (found ++ rest) = some (found, rest) →
    p.split? (found ++ rest') = some (found, rest')

/-- A pattern that takes at least one character. -/
def Takes (p : Pattern) : Prop :=
  ∀ s found rest, p.split? s = some (found, rest) → found ≠ []

theorem exact_nothing : Exact Pattern.nothing where
  keeps found rest rest' h := by
    cases found with
    | nil => rfl
    | cons c found =>
      unfold Pattern.nothing at h
      simp at h

theorem exact_word (w : Text) : Exact (Pattern.word w) where
  keeps found rest rest' h := by
    rw [eq_of_split?_word h, split?_word, Text.after?_eq_some_iff.2 rfl]
    rfl

theorem exact_one (p : Char → Bool) : Exact (Pattern.one p) where
  keeps found rest rest' h := by
    cases hs : found ++ rest with
    | nil => rw [hs] at h; cases h
    | cons c s =>
      rw [hs, split?_one] at h
      split at h
      · next hc =>
        cases h
        exact if_pos hc
      · cases h

theorem takes_word {w : Text} (hw : w ≠ []) : Takes (Pattern.word w) := by
  intro s found rest h
  rwa [eq_of_split?_word h]

theorem takes_one (p : Char → Bool) : Takes (Pattern.one p) := by
  intro s found rest h
  cases s with
  | nil => cases h
  | cons c s =>
    rw [split?_one] at h
    split at h
    · cases h; simp
    · cases h

theorem split?_followedBy_eq_some {p q : Pattern} {s found rest : Text}
    (h : (p.followedBy q).split? s = some (found, rest)) :
    ∃ a b, found = a ++ b ∧ p.split? s = some (a, b ++ rest) ∧
      q.split? (b ++ rest) = some (b, rest) := by
  rw [split?_followedBy] at h
  cases hp : p.split? s with
  | none => rw [hp] at h; cases h
  | some part =>
    obtain ⟨a, t⟩ := part
    rw [hp] at h
    obtain ⟨⟨b, r⟩, hq, hr⟩ := Option.map_eq_some_iff.1 h
    cases hr
    refine ⟨a, b, rfl, ?_, ?_⟩
    · rw [q.append_eq hq]
    · rw [q.append_eq hq, hq]

theorem split?_followedBy_of {p q : Pattern} {s a b t rest : Text} (hp : p.split? s = some (a, t))
    (hq : q.split? t = some (b, rest)) : (p.followedBy q).split? s = some (a ++ b, rest) := by
  rw [split?_followedBy, hp]
  dsimp only
  rw [hq]
  rfl

theorem exact_followedBy {p q : Pattern} (hp : Exact p)
    (hq : Exact q) : Exact (p.followedBy q) where
  keeps found rest rest' h := by
    obtain ⟨a, b, rfl, ha, hb⟩ := split?_followedBy_eq_some h
    rw [List.append_assoc] at ha
    have ha' := hp.keeps a (b ++ rest) (b ++ rest') ha
    rw [List.append_assoc]
    exact split?_followedBy_of ha' (hq.keeps b rest rest' hb)

theorem takes_followedBy {p q : Pattern} (h : Takes p ∨ Takes q) : Takes (p.followedBy q) := by
  intro s found rest hs
  obtain ⟨a, b, rfl, ha, hb⟩ := split?_followedBy_eq_some hs
  rcases h with h | h
  · exact fun he => h _ _ _ ha (List.append_eq_nil_iff.1 he).1
  · exact fun he => h _ _ _ hb (List.append_eq_nil_iff.1 he).2

/-- A run stops in front of a piece that is not empty, whatever follows the piece. -/
theorem exact_run_followedBy (p : Char → Bool) {q : Pattern} (hq : Exact q) (hne : Takes q) :
    Exact ((Pattern.run p).followedBy q) where
  keeps found rest rest' h := by
    obtain ⟨a, b, rfl, ha, hb⟩ := split?_followedBy_eq_some h
    rw [split?_run, Option.some.injEq, Prod.mk.injEq] at ha
    obtain ⟨ha, hd⟩ := ha
    have hall : ∀ c ∈ a, p c = true := by
      rw [← ha]
      exact List.all_eq_true.1 List.all_takeWhile
    cases b with
    | nil => exact absurd rfl (hne _ _ _ hb)
    | cons c b =>
      -- the run has stopped here, so it does so in front of any rest
      have hc : p c = false := by
        rw [List.append_assoc, List.dropWhile_append_of_pos hall] at hd
        cases hc : p c with
        | false => rfl
        | true =>
          rw [List.cons_append, List.dropWhile_cons_of_pos hc] at hd
          have hlen := congrArg List.length hd
          have := (List.dropWhile_suffix p (l := b ++ rest)).length_le
          rw [List.length_cons] at hlen
          omega
      refine split?_followedBy_of ?_ (hq.keeps (c :: b) rest rest' hb)
      rw [split?_run, List.append_assoc, List.takeWhile_append_of_pos hall,
        List.dropWhile_append_of_pos hall]
      simp [hc]

/-- What the second of two patterns always takes, both take. -/
theorem mem_of_followedBy {p q : Pattern} {c : Char}
    (hq : ∀ s found rest, q.split? s = some (found, rest) → c ∈ found) :
    ∀ s found rest, (p.followedBy q).split? s = some (found, rest) → c ∈ found := by
  intro s found rest h
  obtain ⟨a, b, rfl, -, hb⟩ := split?_followedBy_eq_some h
  exact List.mem_append_right a (hq _ _ _ hb)

end Pattern

theorem exact_closeRule : Pattern.Exact closeRule.pattern := by
  have hend : Pattern.Exact (Pattern.inOrder [.word ['>']]) :=
    Pattern.exact_followedBy (Pattern.exact_word _) Pattern.exact_nothing
  have hendTakes : Pattern.Takes (Pattern.inOrder [.word ['>']]) :=
    Pattern.takes_followedBy (.inl (Pattern.takes_word (by simp)))
  have hblank := Pattern.exact_run_followedBy Text.isBlank hend hendTakes
  have hname := Pattern.exact_run_followedBy isTagName hblank
    (Pattern.takes_followedBy (.inr hendTakes))
  have hletter := Pattern.exact_followedBy (Pattern.exact_one Text.isLetter) hname
  have hblank' := Pattern.exact_run_followedBy Text.isBlank hletter
    (Pattern.takes_followedBy (.inl (Pattern.takes_one _)))
  exact Pattern.exact_followedBy (Pattern.exact_word _) hblank'

/-- The first rule whose pattern matches a piece that is not empty is the one that counts. -/
theorem firstMatch?_of_split? (before : List Rule) (rule : Rule) (after : List Rule)
    {s found rest : Text} (hbefore : firstMatch? before s = none)
    (h : rule.pattern.split? s = some (found, rest)) (hne : found ≠ []) :
    firstMatch? (before ++ rule :: after) s = some (rule, found, rest) := by
  have htake : rule.take? s = some (rule, found, rest) := by
    cases found with
    | nil => exact absurd rfl hne
    | cons c found => rw [Rule.take?, h]
  rw [firstMatch?, List.findSome?_append, show before.findSome? (·.take? s) = none from hbefore,
    Option.none_or, List.findSome?_cons, htake]

/-- **A closing tag is one before any text.** -/
theorem firstMatch?_close {close x : Text}
    (h : firstMatch? textRules (close ++ x) = some (closeRule, close, x)) (y : Text) :
    firstMatch? textRules (close ++ y) = some (closeRule, close, y) := by
  have hsplit := exact_closeRule.keeps close x y (split?_of_firstMatch? h)
  obtain ⟨a, b, rfl, ha, -⟩ := Pattern.split?_followedBy_eq_some hsplit
  obtain rfl := Pattern.eq_of_split?_word ha
  exact firstMatch?_of_split? (textRules.take 2) closeRule (textRules.drop 3) rfl hsplit
    (by simp)

/-- A closing tag starts and ends as tags do. -/
theorem close_ends {close x : Text}
    (h : firstMatch? textRules (close ++ x) = some (closeRule, close, x)) :
    close.head? = some '<' ∧ '>' ∈ close := by
  have hsplit := split?_of_firstMatch? h
  constructor
  · obtain ⟨a, b, rfl, ha, -⟩ := Pattern.split?_followedBy_eq_some hsplit
    rw [Pattern.eq_of_split?_word ha]
    rfl
  · have hend : ∀ s found rest, (Pattern.inOrder [.word ['>']]).split? s = some (found, rest) →
        '>' ∈ found := by
      intro s found rest hs
      obtain ⟨a, b, rfl, ha, -⟩ := Pattern.split?_followedBy_eq_some hs
      rw [Pattern.eq_of_split?_word ha]
      simp
    refine Pattern.mem_of_followedBy (Pattern.mem_of_followedBy (Pattern.mem_of_followedBy
      (Pattern.mem_of_followedBy (Pattern.mem_of_followedBy hend)))) _ _ _ hsplit

theorem head?_close {close x : Text}
    (h : firstMatch? textRules (close ++ x) = some (closeRule, close, x)) (y : Text) :
    (close ++ y).head? = some '<' := by
  rw [List.head?_append, (close_ends h).1]
  rfl

/-! ## Lines -/

theorem signsFrom_nil (m : Mode) : signsFrom m [] = [] := by
  have hnone : Lexer.next ⟨[], 0, m⟩ = none := by rcases m with _ | _ | (_ | _) | _ <;> rfl
  rw [signsFrom, Lexer.tokens_of_none hnone, signs_nil]

/-- A line that reads as the same markup wherever it stands. -/
structure Standalone (line : Text) : Prop where
  head : line.head? = some '<'
  reads : ∀ w, Reads .text (line ++ w) (signsFrom .text line) .text w

theorem Standalone.intro {line : Text} {v : List Sign} (hhead : line.head? = some '<')
    (h : ∀ w, Reads .text (line ++ w) v .text w) : Standalone line where
  head := hhead
  reads w := by
    have h0 := (h []).signsFrom_eq
    rw [List.append_nil, signsFrom_nil, List.append_nil] at h0
    rw [h0]
    exact h w

/-- The markup of some lines. -/
def marks (lines : List Text) : List Sign :=
  lines.flatMap (signsFrom .text)

/-- A text that starts with an indent or with a tag. -/
def Opens (s : Text) : Prop :=
  ∃ c t, s = c :: t ∧ (c = '<' ∨ Text.isIndent c = true)

theorem opens_of_head {s : Text} (h : s.head? = some '<') : Opens s := by
  cases s with
  | nil => cases h
  | cons c t => cases h; exact ⟨_, t, rfl, .inl rfl⟩

theorem opens_append {pad s : Text} (hpad : ∀ c ∈ pad, Text.isIndent c = true) (hs : Opens s) :
    Opens (pad ++ s) := by
  cases pad with
  | nil => exact hs
  | cons c pad => exact ⟨c, pad ++ s, rfl, .inr (hpad c (by simp))⟩

/-- The rule of line ends. -/
def newlineRule : Rule :=
  ⟨.newline, .orElse (.word ['\r', '\n']) (.one fun c => c = '\r' || c = '\n'), .text⟩

theorem firstMatch?_newline {newline s : Text} (hn : IsNewline newline) (hs : Opens s) :
    firstMatch? textRules (newline ++ s) = some (newlineRule, newline, s) := by
  obtain ⟨c, t, rfl, hc⟩ := hs
  rcases hn with rfl | rfl | rfl
  · rfl
  · have hne : '\n' ≠ c := by
      rintro rfl
      rcases hc with hc | hc <;> revert hc <;> decide
    have hword : Text.after? ['\r', '\n'] ('\r' :: c :: t) = none := by
      simp [Text.after?, hne]
    have hsplit : newlineRule.pattern.split? ('\r' :: c :: t) = some (['\r'], c :: t) := by
      rw [newlineRule, Pattern.split?_orElse, Pattern.split?_word, hword]
      rfl
    exact firstMatch?_of_split? (textRules.take 4) newlineRule (textRules.drop 5) rfl hsplit
      (by simp)
  · rfl

/-- The end of a line carries no markup. -/
theorem reads_newline {newline s : Text} (hn : IsNewline newline) (hs : Opens s) :
    Reads .text (newline ++ s) [] .text s :=
  Reads.one (m := .text) (firstMatch?_newline hn hs)

/-- An indent reads as one. -/
theorem reads_indent {pad s : Text} (hpad : ∀ c ∈ pad, Text.isIndent c = true)
    (hs : s.head? = some '<') : Reads .text (pad ++ s) [] .text s := by
  cases pad with
  | nil => exact .done _ _
  | cons c pad => exact Gap.reads_pad (by simp) hpad hs

/-- Some lines, each behind a pad. -/
def padded (pad newline : Text) (lines : List Text) : Text :=
  lines.flatMap fun line => pad ++ line ++ newline

theorem padded_cons (pad newline line : Text) (lines : List Text) :
    padded pad newline (line :: lines) =
      pad ++ (line ++ (newline ++ padded pad newline lines)) := by
  simp [padded]

/-- Lines that stand for themselves read as their own markup. The induction is on the lines; what
comes behind the end of one line starts with a pad, an indent or the tag behind all lines. -/
theorem reads_padded {pad tail close : Text} (newline : Text) (hne : pad ≠ [])
    (hpad : ∀ c ∈ pad, Text.isIndent c = true) (hn : IsNewline newline)
    (htail : ∀ c ∈ tail, Text.isIndent c = true) (hclose : close.head? = some '<')
    {lines : List Text} (h : ∀ line ∈ lines, Standalone line) :
    Reads .text (padded pad newline lines ++ (tail ++ close)) (marks lines) .text close ∧
      Opens (padded pad newline lines ++ (tail ++ close)) := by
  induction lines with
  | nil =>
    rw [padded, List.flatMap_nil, List.nil_append]
    exact ⟨reads_indent htail hclose, opens_append htail (opens_of_head hclose)⟩
  | cons line lines ih =>
    obtain ⟨hread, hopens⟩ := ih fun l hl => h l (List.mem_cons_of_mem _ hl)
    have hline := h line List.mem_cons_self
    have hhead : ∀ w, (line ++ w).head? = some '<' := fun w => by
      rw [List.head?_append, hline.head]
      rfl
    rw [padded_cons, List.append_assoc, List.append_assoc, List.append_assoc]
    refine ⟨?_, opens_append hpad (opens_of_head (hhead _))⟩
    have h1 := Gap.reads_pad hne hpad
      (hhead (newline ++ (padded pad newline lines ++ (tail ++ close))))
    have h2 := hline.reads (newline ++ (padded pad newline lines ++ (tail ++ close)))
    exact h1.trans (h2.trans ((reads_newline hn hopens).trans hread))

/-! ## Blocks -/

theorem deeper_ne_nil (indent : Text) : deeper indent ≠ [] := by
  unfold deeper
  split <;> simp

theorem isIndent_of_mem_deeper {indent : Text} {c : Char} (h : c ∈ deeper indent) :
    Text.isIndent c = true := by
  unfold deeper at h
  split at h
  · simp only [List.mem_cons, List.not_mem_nil, or_false, or_self] at h
    rw [h]
    decide
  · rw [List.mem_singleton.1 h]
    decide

/-- A block is a pad, the first line, and the further lines behind pads of their own. -/
theorem Insertion.block_eq (i : Insertion) (newline : Text) {line : Text} {lines : List Text}
    (hindent : ∀ c ∈ i.indent, Text.isIndent c = true)
    (hlines : Text.splitLines i.fragment = line :: lines) :
    ∃ pad tail, pad ≠ [] ∧ (∀ c ∈ pad, Text.isIndent c = true) ∧
      (∀ c ∈ tail, Text.isIndent c = true) ∧
      i.block newline = pad ++
        (line ++ (newline ++ (padded (i.indent ++ deeper i.indent) newline lines ++ tail))) := by
  have hblock : (Text.splitLines i.fragment).flatMap
      (fun line => i.indent ++ deeper i.indent ++ line ++ newline) =
      i.indent ++ (deeper i.indent ++
        (line ++ (newline ++ padded (i.indent ++ deeper i.indent) newline lines))) := by
    rw [hlines]
    simp [padded]
  unfold Insertion.block
  dsimp only
  rw [hblock]
  -- a hanging block starts behind the indent of its line and gives that indent back to the tag
  split
  · refine ⟨deeper i.indent, i.indent, deeper_ne_nil _,
      fun c => isIndent_of_mem_deeper, hindent, ?_⟩
    rw [List.drop_left]
    simp only [List.append_assoc]
  · refine ⟨i.indent ++ deeper i.indent, [], ?_, ?_, by simp, ?_⟩
    · exact fun h => deeper_ne_nil _ (List.append_eq_nil_iff.1 h).2
    · intro c hc
      rcases List.mem_append.1 hc with hc | hc
      · exact hindent c hc
      · exact isIndent_of_mem_deeper hc
    · simp only [List.append_assoc, List.append_nil]

theorem Insertion.block_ne_nil (i : Insertion) (newline : Text)
    (hindent : ∀ c ∈ i.indent, Text.isIndent c = true)
    (hne : i.fragment ≠ []) : i.block newline ≠ [] := by
  cases hl : Text.splitLines i.fragment with
  | nil => exact absurd (Text.splitLines_eq_nil_iff.1 hl) hne
  | cons line lines =>
    obtain ⟨pad, tail, hpad, -, -, hblock⟩ := i.block_eq newline hindent hl
    rw [hblock]
    exact List.append_ne_nil_of_left_ne_nil hpad _

/-- The quotes around values. -/
def IsQuote (c : Char) : Prop :=
  c = '"' ∨ c = '\''

theorem IsQuote.not_isIndent {q : Char} (hq : IsQuote q) : Text.isIndent q = false := by
  rcases hq with rfl | rfl <;> decide

theorem IsQuote.not_mem_newline {q : Char} (hq : IsQuote q) {newline : Text}
    (hn : IsNewline newline) :
    q ∉ newline := by
  rcases hq with rfl | rfl <;> rcases hn with rfl | rfl | rfl <;> decide

theorem IsQuote.not_mem_of_isIndent {q : Char} (hq : IsQuote q) {pad : Text}
    (hpad : ∀ c ∈ pad, Text.isIndent c = true) : q ∉ pad := by
  intro hmem
  have hindent := hpad q hmem
  rw [hq.not_isIndent] at hindent
  cases hindent

/-- A block has no quotes but those of its lines. -/
theorem Insertion.not_mem_block {q : Char} (hq : IsQuote q) {i : Insertion} {newline : Text}
    (hn : IsNewline newline) (hindent : ∀ c ∈ i.indent, Text.isIndent c = true)
    (h : q ∉ i.fragment) :
    q ∉ i.block newline := by
  have hin : q ∉ i.indent := hq.not_mem_of_isIndent hindent
  have hdeeper : q ∉ deeper i.indent := hq.not_mem_of_isIndent fun c => isIndent_of_mem_deeper
  -- each line of the block is an indent, a line of the fragment and a line end
  have hlines : q ∉ (Text.splitLines i.fragment).flatMap
      (fun line => i.indent ++ deeper i.indent ++ line ++ newline) := by
    intro hc
    obtain ⟨line, hline, hc⟩ := List.mem_flatMap.1 hc
    rcases List.mem_append.1 hc with hc | hc
    · rcases List.mem_append.1 hc with hc | hc
      · rcases List.mem_append.1 hc with hc | hc
        · exact hin hc
        · exact hdeeper hc
      · exact h (Text.of_mem_splitLines hline hc).1
    · exact hq.not_mem_newline hn hc
  unfold Insertion.block
  dsimp only
  split
  · intro hc
    rcases List.mem_append.1 hc with hc | hc
    · exact hlines (List.mem_of_mem_drop hc)
    · exact hin hc
  · exact hlines

/-! ## Documents -/

/-- What goes in front of a sign of the document. -/
def marksBefore (frag : Text → Option Text) (sign : Sign) : List Sign :=
  match closing frag sign.kind sign.value with
  | some fragment => marks (Text.splitLines fragment)
  | none => []

/-- Signs that want nothing stay as they are. -/
theorem flatMap_marksBefore_of_none {v : List Sign}
    (h : ∀ sign ∈ v, closing frag sign.kind sign.value = none) :
    v.flatMap (fun sign => marksBefore frag sign ++ [sign]) = v := by
  induction v with
  | nil => rfl
  | cons sign v ih =>
    rw [List.flatMap_cons, ih fun s hs => h s (List.mem_cons_of_mem _ hs), marksBefore,
      h sign List.mem_cons_self]
    rfl

/-- What is to go into documents: lines that read as the same markup wherever they stand. -/
structure Fragments (frag : Text → Option Text) : Prop where
  ne_nil : ∀ tag fragment, frag tag = some fragment → fragment ≠ []
  lines : ∀ tag fragment, frag tag = some fragment →
    ∀ line ∈ Text.splitLines fragment, Standalone line

/-- Wherever a value starts with this quote, the quote is closed. -/
def QuoteClosed (q : Char) (m : Mode) (x : Text) : Prop :=
  ∀ v t, Reads m x v (.attribute true) (q :: t) → q ∈ t

/-- No insertion closes a quote of the document: each quote is closed
already, or no fragment has it. -/
def Undisturbed (frag : Text → Option Text) (m : Mode) (x : Text) : Prop :=
  ∀ q, IsQuote q → QuoteClosed q m x ∨ ∀ tag fragment, frag tag = some fragment → q ∉ fragment

theorem QuoteClosed.of_reads {q : Char} {m' : Mode} {x x' : Text} {v : List Sign}
    (h : QuoteClosed q m x) (hr : Reads m x v m' x') : QuoteClosed q m' x' :=
  fun _ t ht => h _ t (hr.trans ht)

theorem Undisturbed.of_reads {m' : Mode} {x x' : Text} {v : List Sign} (h : Undisturbed frag m x)
    (hr : Reads m x v m' x') : Undisturbed frag m' x' :=
  fun q hq => (h q hq).imp (·.of_reads hr) id

theorem Woven.not_mem {x y : Text} (h : Woven frag newline m x y) (hn : IsNewline newline)
    {q : Char} (hq : IsQuote q)
    (hfrag : ∀ tag fragment, frag tag = some fragment → q ∉ fragment) (hx : q ∉ x) :
    q ∉ y := by
  induction h with
  | rest => exact hx
  | @insert m s close x y v i _ _ _ hf hindent _ ih =>
    simp only [List.mem_append, not_or] at hx ⊢
    exact ⟨hx.1, Insertion.not_mem_block hq hn hindent (hfrag _ _ hf), hx.2.1, ih hx.2.2⟩

/-- The signs of a closing tag. -/
theorem reads_close {close x : Text}
    (hc : firstMatch? textRules (close ++ x) = some (closeRule, close, x)) (z : Text) :
    Reads .text (close ++ z) [⟨.tagClose, Kind.tagClose.normalize close⟩] .text z :=
  Reads.one (m := .text) (firstMatch?_close hc z)

/-- A block in front of a closing tag fills a gap. -/
structure Filled (g : Gap) (i : Insertion) (newline close x y : Text) (line : Text)
    (lines : List Text) (tail : Text) : Prop where
  lines_eq : Text.splitLines i.fragment = line :: lines
  tail_indent : ∀ c ∈ tail, Text.isIndent c = true
  old_eq : g.old = close ++ x
  new_eq : g.new =
    line ++ (newline ++ (padded (i.indent ++ deeper i.indent) newline lines ++
      (tail ++ (close ++ y))))
  inserted_eq : g.inserted = i.block newline ++ (close ++ y)

theorem exists_filled (hfrag : Fragments frag) {tag : Text} {i : Insertion}
    (hf : frag tag = some i.fragment) (hindent : ∀ c ∈ i.indent, Text.isIndent c = true)
    {close x : Text}
    (hc : firstMatch? textRules (close ++ x) = some (closeRule, close, x)) (y : Text) :
    ∃ g line lines tail, Filled g i newline close x y line lines tail := by
  obtain ⟨line, lines, hlines⟩ : ∃ line lines, Text.splitLines i.fragment = line :: lines := by
    cases hl : Text.splitLines i.fragment with
    | nil => exact absurd (Text.splitLines_eq_nil_iff.1 hl) (hfrag.ne_nil _ _ hf)
    | cons line lines => exact ⟨line, lines, rfl⟩
  have hline : Standalone line := hfrag.lines _ _ hf line (hlines ▸ List.mem_cons_self)
  obtain ⟨pad, tail, hne, hpad, htail, hblock⟩ := i.block_eq newline hindent hlines
  let g : Gap :=
    { pad, old := close ++ x
      new := line ++ (newline ++ (padded (i.indent ++ deeper i.indent) newline lines ++
        (tail ++ (close ++ y))))
      pad_ne := hne, pad_indent := hpad
      old_head := head?_close hc x
      new_head := by rw [List.head?_append, hline.head]; rfl }
  refine ⟨g, line, lines, tail, hlines, htail, rfl, rfl, ?_⟩
  rw [hblock]
  simp [Gap.inserted, g]

/-- What fills a gap reads as the markup of its lines. -/
theorem Filled.reads {g : Gap} {i : Insertion} {close x y line tail : Text} {lines : List Text}
    (h : Filled g i newline close x y line lines tail) (hn : IsNewline newline)
    (hindent : ∀ c ∈ i.indent, Text.isIndent c = true)
    (hc : firstMatch? textRules (close ++ x) = some (closeRule, close, x))
    (hstand : ∀ l ∈ line :: lines, Standalone l) :
    Reads .text g.new (marks (line :: lines)) .text (close ++ y) := by
  have hhead := head?_close hc y
  obtain ⟨hlinesReads, hopens⟩ := reads_padded newline
    (fun h : i.indent ++ deeper i.indent = [] => deeper_ne_nil _ (List.append_eq_nil_iff.1 h).2)
    (fun c hc => (List.mem_append.1 hc).elim (hindent c) isIndent_of_mem_deeper)
      hn h.tail_indent hhead
    fun l hl => hstand l (List.mem_cons_of_mem _ hl)
  rw [h.new_eq, show marks (line :: lines) = signsFrom .text line ++ ([] ++ marks lines) from rfl]
  exact ((hstand line List.mem_cons_self).reads _).trans
    ((reads_newline hn hopens).trans hlinesReads)

/-- A quote that nothing disturbs is closed before the gap, or it stands nowhere behind it. -/
theorem Filled.closed {g : Gap} {i : Insertion} {close x y line tail s : Text} {lines : List Text}
    (h : Filled g i newline close x y line lines tail) (hn : IsNewline newline)
    (hindent : ∀ c ∈ i.indent, Text.isIndent c = true) {tag : Text}
    (hf : frag tag = some i.fragment) (hw : Woven frag newline .text x y)
    (hq : Undisturbed frag m (s ++ (close ++ x))) :
    ∀ w z, Reads m (s ++ (close ++ x)) w (.attribute true) (z ++ g.old) →
      g.Closed (.attribute true) z := by
  rintro w z hz - q t hquote rfl
  rw [h.old_eq] at hz ⊢
  rcases hq q hquote with hquoted | habsent
  · exact .inl (hquoted _ _ hz)
  · by_cases hold : q ∈ t ++ (close ++ x)
    · exact .inl hold
    · refine .inr fun hnew => ?_
      have hx : q ∉ close ++ x := fun h => hold (List.mem_append_right t h)
      have hy := hw.not_mem hn hquote habsent fun h => hx (List.mem_append_right close h)
      have hmem : q ∈ i.block newline ++ (close ++ y) := by
        rw [← h.inserted_eq]
        exact List.mem_append_right g.pad hnew
      rcases List.mem_append.1 hmem with h | h
      · exact Insertion.not_mem_block hquote hn hindent (habsent _ _ hf) h
      · rcases List.mem_append.1 h with h | h
        · exact hx (List.mem_append_left x h)
        · exact hy h

/-- **A document with lines in front of its closing tags reads as it did**, with the
markup of the lines in front of those tags. The induction is on the insertions; each is a
gap in what is read up to it. -/
theorem Woven.signsFrom_eq {x y : Text} (h : Woven frag newline m x y) (hfrag : Fragments frag)
    (hn : IsNewline newline) (hq : Undisturbed frag m x) :
    signsFrom m y = (signsFrom m x).flatMap fun sign => marksBefore frag sign ++ [sign] := by
  induction h with
  | rest hx => exact (flatMap_marksBefore_of_none hx).symm
  | @insert m s close x y v i hr hv hc hf hindent hw ih =>
    obtain ⟨g, line, lines, tail, hg⟩ := @exists_filled _ newline hfrag _ _ hf hindent _ _ hc y
    have hstand := hfrag.lines _ _ hf
    rw [hg.lines_eq] at hstand
    have hend : '>' ∈ g.old := hg.old_eq ▸ List.mem_append_left x (close_ends hc).2
    -- what is read before the tag ends in front of the block too, as the block is in the gap
    have hreads := g.reads_inserted hend hr s (by rw [hg.old_eq]) (by rw [hg.old_eq]) rfl
      (hg.closed hn hindent hf hw hq)
    have hblockReads := hg.reads hn hindent hc hstand
    have hbefore : marksBefore frag ⟨.tagClose, Kind.tagClose.normalize close⟩ =
        marks (line :: lines) := by
      unfold marksBefore closing
      rw [if_pos rfl, hf]
      exact congrArg marks hg.lines_eq
    rw [← hg.inserted_eq, hreads.signsFrom_eq, hblockReads.signsFrom_eq,
      (reads_close hc y).signsFrom_eq, hr.signsFrom_eq, (reads_close hc x).signsFrom_eq,
      List.flatMap_append, List.flatMap_append, flatMap_marksBefore_of_none hv,
      List.flatMap_singleton, hbefore, List.append_assoc,
      ih (hq.of_reads (hr.trans (reads_close hc x)))]

/-- **An injected document reads as the document did**, with the markup of one fragment in front of
every end of the head and that of the other in front of every end of the body. -/
theorem signs_inject (document : Text) {headEnd bodyEnd : Text}
    (hfrag : Fragments (fragmentFor headEnd bodyEnd))
    (hq : Undisturbed (fragmentFor headEnd bodyEnd) .text document) :
    signsFrom .text (inject document headEnd bodyEnd) =
      (signsFrom .text document).flatMap fun sign =>
      marksBefore (fragmentFor headEnd bodyEnd) sign ++ [sign] := by
  obtain ⟨newline, hn, hw⟩ := woven_inject document headEnd bodyEnd
  exact hw.signsFrom_eq hfrag hn hq

end Markup
end SiteOptimizer
