import SiteOptimizer.Proofs.Markup.Written

/-!
# Injecting leaves no quote open

Whole tags open no quote that they do not close. So a document in which every quote around
a value is closed still is one when whole tags have gone into it (`quoteClosed_inject`),
and lines can be injected again.
-/

namespace SiteOptimizer
namespace Markup

variable {frag : Text → Option Text} {newline : Text} {m : Mode} {q : Char}

/-! ## One step and many -/

/-- What is closed behind a piece is closed in front of it, if no value starts
there or its quote is closed. -/
theorem quoteClosed_of_step {rule : Rule} {x found rest : Text}
    (hf : firstMatch? m.rules x = some (rule, found, rest))
    (hhere : ∀ t, m = .attribute true → x = q :: t → q ∈ t) (h : QuoteClosed q rule.next rest) :
    QuoteClosed q m x := by
  intro v t hr
  cases hr with
  | done => exact hhere t rfl rfl
  | step hf' hr =>
    rw [hf] at hf'
    cases hf'
    exact h _ t hr

/-- Only an assignment comes to stand in front of a value. -/
theorem kind_of_next_value {rule : Rule} (hr : rule ∈ m.rules)
    (hnext : rule.next = .attribute true) :
    rule.kind = .attrAssignment := by
  revert rule
  rcases m with _ | _ | (_ | _) | _ <;> simp [Mode.rules, textRules, tagRules]

/-- What is closed behind some markup without values is closed in front of it. -/
theorem quoteClosed_of_reads {m' : Mode} {x x' : Text} {v : List Sign} (h : Reads m x v m' x')
    (hm : m ≠ .attribute true) (hv : ∀ sign ∈ v, sign.kind ≠ .attrAssignment)
    (hq : QuoteClosed q m' x') :
    QuoteClosed q m x := by
  induction h with
  | done => exact hq
  | @step m m' x found rest x' rule v hf _ ih =>
    refine quoteClosed_of_step hf (fun t hmode => absurd hmode hm) (ih ?_ ?_ hq)
    · intro hnext
      have hkind := kind_of_next_value (Mode.mem_rules_of_firstMatch? hf) hnext
      refine hv ⟨rule.kind, rule.kind.normalize found⟩ (List.mem_append_left _ ?_) hkind
      rw [Sign.ofPiece, if_neg (by rw [hkind]; decide)]
      exact List.mem_singleton.2 rfl
    · exact fun sign hs => hv sign (List.mem_append_right _ hs)

theorem quoteClosed_of_sign {m' : Mode} {x x' value : Text} {kind : Kind}
    (h : Reads m x [⟨kind, value⟩] m' x') (hm : m ≠ .attribute true)
    (hkind : kind ≠ .attrAssignment) (hq : QuoteClosed q m' x') : QuoteClosed q m x :=
  quoteClosed_of_reads h hm (List.forall_mem_singleton.2 hkind) hq

/-! ## Checking a document -/

/-- Whether a value that starts here is closed, if one starts here. -/
def closesHere (q : Char) : Mode → Text → Bool
  | .attribute true, c :: t => c ≠ q || t.contains q
  | _, _ => true

theorem closesHere_iff {x : Text} :
    closesHere q m x = true ↔ ∀ t, m = .attribute true → x = q :: t → q ∈ t := by
  constructor
  · rintro h t rfl rfl
    simpa [closesHere] using h
  · intro h
    unfold closesHere
    split
    · next c t =>
      by_cases hc : c = q
      · subst hc
        simp [h t rfl rfl]
      · simp [hc]
    · rfl

/-- What `QuoteClosed` says, checked at one token after the other; `n` is
more than there are characters. -/
def closesQuotes (q : Char) : Nat → Mode → Text → Bool
  | 0, _, _ => false
  | n + 1, m, x =>
    closesHere q m x && match firstMatch? m.rules x with
      | none => true
      | some (rule, _, rest) => closesQuotes q n rule.next rest

theorem closesQuotes_iff {n : Nat} {x : Text} (h : x.length < n) :
    closesQuotes q n m x = true ↔ QuoteClosed q m x := by
  induction n generalizing m x with
  | zero => omega
  | succ n ih =>
    rw [closesQuotes, Bool.and_eq_true, closesHere_iff]
    -- a place of the text is the start or it is reached by way of the first step, and rules are
    -- functions of the text
    cases hf : firstMatch? m.rules x with
    | none =>
      simp only [and_true]
      constructor
      · intro hhere v t hr
        cases hr with
        | done => exact hhere t rfl rfl
        | step hf' _ => rw [hf] at hf'; cases hf'
      · rintro hq t rfl rfl
        exact hq [] t (.done _ _)
    | some p =>
      obtain ⟨rule, found, rest⟩ := p
      have hlt : rest.length < n :=
        Nat.lt_of_lt_of_le (length_lt_of_firstMatch? hf) (Nat.le_of_lt_succ h)
      rw [ih hlt]
      constructor
      · rintro ⟨hhere, hrest⟩
        exact quoteClosed_of_step hf hhere hrest
      · intro hq
        refine ⟨?_, fun v t hr => hq _ t (.step hf hr)⟩
        rintro t rfl rfl
        exact hq [] t (.done _ _)

instance (q : Char) (m : Mode) (x : Text) : Decidable (QuoteClosed q m x) :=
  decidable_of_iff _ (closesQuotes_iff (Nat.lt_succ_self x.length))

/-! ## Lines of whole tags -/

/-- A line that leaves no quote open, whatever follows it. -/
def Encloses (q : Char) (line : Text) : Prop :=
  ∀ w, QuoteClosed q .text w → QuoteClosed q .text (line ++ w)

/-- Written attributes close their quotes. -/
theorem quoteClosed_written {attributes : List (Text × Text)} (h : Writable attributes) {w : Text}
    (hq : IsQuote q) (hw : QuoteClosed q .tag w) :
    QuoteClosed q .tag (written attributes ++ w) := by
  induction attributes with
  | nil => exact hw
  | cons a attributes ih =>
    obtain ⟨hattributes, hvalue, c, name, heq, hblank, hname⟩ := h.of_cons
    obtain ⟨_, value⟩ := a
    cases heq
    -- the only sign that asks for a quote is the value, and its own quotes are double ones
    have hquoted : QuoteClosed q (.attribute true)
        ('"' :: value ++ '"' :: (written attributes ++ w)) := by
      refine quoteClosed_of_step (firstMatch?_attrValue hvalue _)
        (fun t _ ht => ?_) (ih hattributes)
      rcases hq with rfl | rfl
      · cases ht
        exact List.mem_append_right value List.mem_cons_self
      · cases ht
    have hassigned := quoteClosed_of_step (firstMatch?_assignment _)
      (fun _ hmode => absurd hmode (by decide)) hquoted
    rw [written_cons]
    refine quoteClosed_of_reads (reads_space hblank) (by decide) (List.forall_mem_nil _) ?_
    exact quoteClosed_of_sign (reads_attrName hname (isAttributeName_assignment _)) (by decide)
      (by decide) hassigned

theorem encloses_voidTag {name : Text} {attributes : List (Text × Text)} (hn : IsName name)
    (h : Writable attributes) (hq : IsQuote q) : Encloses q (voidTag name attributes) := by
  intro w hw
  have hmatch : firstMatch? tagRules ('/' :: '>' :: w) =
      some (⟨.tagSelfClose, .word ['/', '>'], .text⟩, ['/', '>'], w) := rfl
  have hend : QuoteClosed q .tag (' ' :: '/' :: '>' :: w) :=
    quoteClosed_of_reads (reads_space (by decide)) (by decide) (List.forall_mem_nil _)
      (quoteClosed_of_step (m := .tag) hmatch (fun _ hmode => absurd hmode (by decide)) hw)
  have hwritten := quoteClosed_written h hq hend
  obtain ⟨d, rest, rfl, hd, hrest⟩ := hn
  -- the name ends at the blank of the first attribute or at the one in front of the slash
  have hhead : ∀ e, (written attributes ++ ' ' :: '/' :: '>' :: w).head? = some e →
      isTagName e = false := by
    cases attributes with
    | nil =>
      intro e he
      cases he
      decide
    | cons a attributes =>
      intro e he
      rw [written_cons] at he
      cases he
      decide
  rw [voidTag, tagStart, List.append_assoc, List.append_assoc]
  exact quoteClosed_of_sign (reads_tagOpen hd hrest hhead) (by decide) (by decide) hwritten

/-! ## Documents -/

/-- What goes in leaves no quote open, so what is closed with it behind the
place is closed in front of it. -/
theorem Gap.quoteClosed_inserted (g : Gap) (hclose : '>' ∈ g.old) (hkeep : q ∈ g.old → q ∈ g.new)
    (hnew : QuoteClosed q .text g.new) {m' : Mode} {x y : Text} {v : List Sign}
    (h : Reads m x v m' y) : ∀ s, x = s ++ g.old → y = g.old → m' = .text →
    (∀ w z, Reads m x w (.attribute true) (z ++ g.old) → g.Closed (.attribute true) z) →
      QuoteClosed q m x → QuoteClosed q m (s ++ g.inserted) := by
  induction h with
  | done m x =>
    rintro s rfl hy rfl - -
    rw [List.append_left_eq_self.1 hy, List.nil_append, Gap.inserted]
    exact quoteClosed_of_reads (Gap.reads_pad g.pad_ne g.pad_indent g.new_head) (by decide)
      (List.forall_mem_nil _) hnew
  | @step m m' x found rest y rule v hf hr ih =>
    rintro s rfl rfl rfl hclosed hq
    have hsettled : g.Closed m s := by
      rintro rfl
      exact hclosed [] s (.done _ _) rfl
    -- a quote that opens a value in front of the place is closed there or behind it
    have hhere : ∀ t, m = .attribute true → s ++ g.inserted = q :: t → q ∈ t := by
      rintro t rfl ht
      cases s with
      | nil => exact absurd rfl (Reads.ne_nil_of_step hf hr)
      | cons c s =>
        cases ht
        rcases List.mem_append.1 (hq [] _ (.done _ _)) with h | h
        · exact List.mem_append_left _ h
        · exact List.mem_append_right s (List.mem_append_right g.pad (hkeep h))
    rcases Gap.next_inserted hclose hsettled hf hr with
      ⟨s', rfl, hf'⟩ | ⟨rfl, hnext, -, found', hf'⟩
    · refine quoteClosed_of_step hf' hhere
        (ih s' rfl rfl rfl (fun w z hw => hclosed _ z (.step hf hw)) ?_)
      exact fun w t hw => hq _ t (.step hf hw)
    · refine quoteClosed_of_step hf' hhere ?_
      rw [hnext]
      exact hnew

/-- Lines that leave no quote open, each behind a pad. -/
theorem quoteClosed_padded {pad w : Text} {lines : List Text} (hne : pad ≠ [])
    (hpad : ∀ c ∈ pad, Text.isIndent c = true) (hn : IsNewline newline)
    (hstand : ∀ line ∈ lines, Standalone line) (hlines : ∀ line ∈ lines, Encloses q line)
    (hopens : Opens w) (hw : QuoteClosed q .text w) :
    QuoteClosed q .text (padded pad newline lines ++ w) ∧
      Opens (padded pad newline lines ++ w) := by
  induction lines with
  | nil => exact ⟨hw, hopens⟩
  | cons line lines ih =>
    obtain ⟨hrest, hopens'⟩ := ih (fun l hl => hstand l (List.mem_cons_of_mem _ hl))
      fun l hl => hlines l (List.mem_cons_of_mem _ hl)
    have hhead : (line ++ (newline ++ (padded pad newline lines ++ w))).head? = some '<' := by
      rw [List.head?_append, (hstand line List.mem_cons_self).head]
      rfl
    rw [padded_cons, List.append_assoc, List.append_assoc, List.append_assoc]
    refine ⟨?_, opens_append hpad (opens_of_head hhead)⟩
    refine quoteClosed_of_reads (Gap.reads_pad hne hpad hhead) (by decide)
      (List.forall_mem_nil _) ?_
    refine hlines line List.mem_cons_self _ ?_
    exact quoteClosed_of_reads (reads_newline hn hopens') (by decide) (List.forall_mem_nil _) hrest

/-- What fills a gap leaves no quote open. -/
theorem Filled.quoteClosed {g : Gap} {i : Insertion} {close x y line tail : Text}
    {lines : List Text} (h : Filled g i newline close x y line lines tail) (hn : IsNewline newline)
    (hindent : ∀ c ∈ i.indent, Text.isIndent c = true)
    (hc : firstMatch? textRules (close ++ x) = some (closeRule, close, x))
    (hstand : ∀ l ∈ line :: lines, Standalone l) (hlines : ∀ l ∈ line :: lines, Encloses q l)
    (hy : QuoteClosed q .text y) : QuoteClosed q .text g.new := by
  have hhead := head?_close hc y
  have hclosed : QuoteClosed q .text (close ++ y) := by
    exact quoteClosed_of_sign (reads_close hc y) (by decide) (by decide) hy
  have htail : QuoteClosed q .text (tail ++ (close ++ y)) :=
    quoteClosed_of_reads (reads_indent h.tail_indent hhead) (by decide)
      (List.forall_mem_nil _) hclosed
  obtain ⟨hpadded, hopens⟩ := quoteClosed_padded
    (fun h : i.indent ++ deeper i.indent = [] => deeper_ne_nil _ (List.append_eq_nil_iff.1 h).2)
    (fun c hc => (List.mem_append.1 hc).elim (hindent c) isIndent_of_mem_deeper) hn
    (fun l hl => hstand l (List.mem_cons_of_mem _ hl))
      (fun l hl => hlines l (List.mem_cons_of_mem _ hl))
    (opens_append h.tail_indent (opens_of_head hhead)) htail
  rw [h.new_eq]
  refine hlines line List.mem_cons_self _ ?_
  exact quoteClosed_of_reads (reads_newline hn hopens) (by decide) (List.forall_mem_nil _) hpadded

theorem Woven.mem_of_mem {x y : Text} (h : Woven frag newline m x y) {c : Char}
    (hc : c ∈ x) : c ∈ y := by
  induction h with
  | rest => exact hc
  | insert _ _ _ _ _ _ ih =>
    simp only [List.mem_append] at hc ⊢
    exact hc.imp_right fun hc => .inr (hc.imp_right ih)

/-- **Whole tags that go into a document leave no quote open.** The
induction is on the insertions. -/
theorem Woven.quoteClosed {x y : Text} (h : Woven frag newline m x y) (hfrag : Fragments frag)
    (hn : IsNewline newline) (hlines : ∀ tag fragment, frag tag = some fragment →
      ∀ line ∈ Text.splitLines fragment, Encloses q line) (hu : Undisturbed frag m x)
    (hq : QuoteClosed q m x) : QuoteClosed q m y := by
  induction h with
  | rest => exact hq
  | @insert m s close x y v i hr hv hc hf hindent hw ih =>
    obtain ⟨g, line, lines, tail, hg⟩ := @exists_filled _ newline hfrag _ _ hf hindent _ _ hc y
    have hstand := hfrag.lines _ _ hf
    have hencloses := hlines _ _ hf
    rw [hg.lines_eq] at hstand hencloses
    have hread := hr.trans (reads_close hc x)
    have hend : '>' ∈ g.old := hg.old_eq ▸ List.mem_append_left x (close_ends hc).2
    -- the tag is behind the block, so a quote of the old text is still there
    have hkeep : q ∈ g.old → q ∈ g.new := by
      rw [hg.old_eq, hg.new_eq]
      intro h
      have hin : q ∈ close ++ y :=
        List.mem_append.2 ((List.mem_append.1 h).imp_right hw.mem_of_mem)
      exact List.mem_append_right _ (List.mem_append_right _ (List.mem_append_right _
        (List.mem_append_right _ hin)))
    rw [← hg.inserted_eq]
    exact g.quoteClosed_inserted hend hkeep
      (hg.quoteClosed hn hindent hc hstand hencloses
        (ih (hu.of_reads hread) (hq.of_reads hread))) hr s
      (by rw [hg.old_eq]) (by rw [hg.old_eq]) rfl (hg.closed hn hindent hf hw hu) hq

theorem quoteClosed_inject (document : Text) {headEnd bodyEnd : Text}
    (hfrag : Fragments (fragmentFor headEnd bodyEnd))
    (hlines : ∀ tag fragment, fragmentFor headEnd bodyEnd tag = some fragment →
      ∀ line ∈ Text.splitLines fragment, Encloses q line)
    (hu : Undisturbed (fragmentFor headEnd bodyEnd) .text document)
    (hq : QuoteClosed q .text document) :
    QuoteClosed q .text (inject document headEnd bodyEnd) := by
  obtain ⟨newline, hn, hw⟩ := woven_inject document headEnd bodyEnd
  exact hw.quoteClosed hfrag hn hlines hu hq

end Markup
end SiteOptimizer
