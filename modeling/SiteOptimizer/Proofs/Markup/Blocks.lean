import SiteOptimizer.Proofs.Markup.Tags

/-!
# Blocks whose lines are cut

The lines of a fragment are cut wherever it has a line end, also inside a value. A line is then no
markup of its own, but the block that goes in still is: the value just has the line end and the
indent of the next line in it. So a document whose quotes are all closed keeps its tags whatever
goes in, but for those of the blocks.
-/

namespace SiteOptimizer
namespace Markup

variable {frag : Text → Option Text} {newline : Text} {v : List Sign}

/-! ## Documents with blocks -/

/-- A block that reads as this markup, whichever tag stands behind it. -/
structure Freestanding (block : Text) (v : List Sign) : Prop where
  parts : ∃ pad body, block = pad ++ body ∧ pad ≠ [] ∧ (∀ c ∈ pad, Text.isIndent c = true) ∧
    body.head? = some '<' ∧ ∀ z, z.head? = some '<' → Reads .text (body ++ z) v .text z

/-- **A document keeps its tags where blocks without such tags go in.** The induction is on
the insertions. All quotes of the document are closed, so the text before a block is read as
it was whatever the block holds. -/
theorem Woven.tagsOf_eq {names : Text → Bool} {m : Mode} {x y : Text} (h : Woven frag newline m x y)
    (hm : m = .text) (hclosed : ∀ q, IsQuote q → QuoteClosed q m x)
    (hblocks : ∀ (i : Insertion) (tag : Text), frag tag = some i.fragment →
      (∀ c ∈ i.indent, Text.isIndent c = true) →
        ∃ v, Freestanding (i.block newline) v ∧ tagsOf names v = []) :
    tagsOf names (signsFrom m y) = tagsOf names (signsFrom m x) := by
  induction h with
  | rest _ => rfl
  | @insert m s close x y v i hr _ hc hf hindent _ ih =>
    subst hm
    obtain ⟨w, ⟨pad, body, hblock, hne, hpad, hhead, hbody⟩, hnone⟩ := hblocks i _ hf hindent
    have hcloseHead : ∀ z, (close ++ z).head? = some '<' := fun z => by
      rw [List.head?_append, (close_ends hc).1]
      rfl
    let g : Gap :=
      { pad, old := close ++ x, new := body ++ (close ++ y), pad_ne := hne, pad_indent := hpad
        old_head := hcloseHead x
        new_head := by rw [List.head?_append, hhead]; rfl }
    have hinserted : i.block newline ++ (close ++ y) = g.inserted := by
      rw [hblock, List.append_assoc]
      rfl
    have hbefore : Reads .text (s ++ g.inserted) v .text g.new := by
      refine g.reads_inserted (List.mem_append_left x (close_ends hc).2) hr s rfl rfl rfl ?_
      -- a value that starts in front of the block ends there too, as its
      -- quote is closed in the document
      rintro u z hz - q t hquote rfl
      exact .inl (hclosed q hquote u _ hz)
    have hwoven := hbody (close ++ y) (hcloseHead y)
    have hold := hr.trans (reads_close hc x)
    have hrest := ih rfl fun q hq => (hclosed q hq).of_reads hold
    rw [hinserted, hbefore.signsFrom_eq, hwoven.signsFrom_eq, (reads_close hc y).signsFrom_eq,
      hr.signsFrom_eq, (reads_close hc x).signsFrom_eq, tagsOf_append names hr,
      tagsOf_append names hr, tagsOf_append names hwoven, hnone, List.nil_append,
      tagsOf_append names (reads_close hc y), tagsOf_append names (reads_close hc x), hrest]

/-! ## A value that is cut -/

/-- The lines of a text with something behind it, each behind a pad: line ends and pads come into
the text, and what stands behind it stays in one piece. -/
def KeepsEnd (pad newline text back : Text) : Prop :=
  ∃ line lines cut, Text.splitLines (text ++ back) = line :: lines ∧
    line ++ (newline ++ padded pad newline lines) = cut ++ (back ++ newline) ∧
    ∀ c ∈ cut, c ∈ text ∨ c ∈ newline ∨ c ∈ pad

section KeepsEnd

variable {pad text s back : Text} {c : Char}

/-- A line end gives an empty line in front of the lines that are there already. -/
theorem KeepsEnd.of_break (h : KeepsEnd pad newline s back)
    (hlines : Text.splitLines (text ++ back) = [] :: Text.splitLines (s ++ back)) (hs : s ⊆ text) :
    KeepsEnd pad newline text back := by
  obtain ⟨line, lines, cut, hrest, hcut, hmem⟩ := h
  refine ⟨[], line :: lines, newline ++ (pad ++ cut), by rw [hlines, hrest], ?_, fun d hd => ?_⟩
  · rw [padded_cons, hcut]
    simp only [List.nil_append, List.append_assoc]
  · rcases List.mem_append.1 hd with hd | hd
    · exact .inr (.inl hd)
    · rcases List.mem_append.1 hd with hd | hd
      · exact .inr (.inr hd)
      · exact (hmem d hd).imp_left fun hd => hs hd

/-- Any other character goes to the first line. -/
theorem KeepsEnd.cons (h : KeepsEnd pad newline s back) (hc : Text.isLineBreak c = false) :
    KeepsEnd pad newline (c :: s) back := by
  obtain ⟨line, lines, cut, hlines, hcut, hmem⟩ := h
  refine ⟨c :: line, lines, c :: cut, Text.splitLines_cons_of_not_break hc hlines,
    ?_, fun d hd => ?_⟩
  · rw [List.cons_append, hcut, List.cons_append]
  · rcases List.mem_cons.1 hd with rfl | hd
    · exact .inl List.mem_cons_self
    · exact (hmem d hd).imp_left (List.mem_cons_of_mem c)

/-- **What has no line end of its own stays in one piece.** -/
theorem keepsEnd (hne : back ≠ []) (hback : ∀ c ∈ back, Text.isLineBreak c = false)
    (pad newline text : Text) :
    KeepsEnd pad newline text back := by
  induction text using Text.splitLines.induct with
  | case1 =>
    refine ⟨back, [], [], Text.splitLines_of_not_break hne hback, ?_, List.forall_mem_nil _⟩
    simp [padded]
  | case2 s ih =>
    exact ih.of_break rfl fun _ hd => List.mem_cons_of_mem _ (List.mem_cons_of_mem _ hd)
  | case3 c s hpair hc ih =>
    refine ih.of_break (Text.splitLines_cons_of_break hc fun t hcr heq => ?_)
      (List.subset_cons_self c s)
    -- a carriage return at the end of the text stands in front of no line feed
    cases s with
    | nil =>
      have hfeed := hback '\n' (by rw [show back = '\n' :: t from heq]; exact List.mem_cons_self)
      revert hfeed
      decide
    | cons d s =>
      injection heq with hd
      exact hpair s hcr (by rw [hd])
  | case4 c s _ hc _ ih => exact ih.cons (Bool.eq_false_iff.2 hc)
  | case5 c s _ hc _ _ _ ih => exact ih.cons (Bool.eq_false_iff.2 hc)

end KeepsEnd

/-- **A block with a value that may be cut.** The front and the back of the
tag stay in one piece. -/
theorem Insertion.exists_block_eq (i : Insertion) (newline : Text) {front url back : Text}
    (hindent : ∀ c ∈ i.indent, Text.isIndent c = true)
    (hfragment : i.fragment = front ++ (url ++ back))
    (hfront : ∀ c ∈ front, Text.isLineBreak c = false) (hne : back ≠ [])
    (hback : ∀ c ∈ back, Text.isLineBreak c = false) :
    ∃ pad cut tail, pad ≠ [] ∧ (∀ c ∈ pad, Text.isIndent c = true) ∧
      (∀ c ∈ tail, Text.isIndent c = true) ∧
      (∀ c ∈ cut, c ∈ url ∨ c ∈ newline ∨ Text.isIndent c = true) ∧
      i.block newline = pad ++ (front ++ (cut ++ back) ++ (newline ++ tail)) := by
  obtain ⟨line, lines, cut, hlines, hcut, hmem⟩ :=
    keepsEnd hne hback (i.indent ++ deeper i.indent) newline url
  have hall : Text.splitLines i.fragment = (front ++ line) :: lines :=
    hfragment ▸ Text.splitLines_append_of_not_break hfront hlines
  obtain ⟨pad, tail, hpadne, hpad, htail, hblock⟩ := i.block_eq newline hindent hall
  refine ⟨pad, cut, tail, hpadne, hpad, htail, fun c hc => ?_, ?_⟩
  · rcases hmem c hc with hc | hc | hc
    · exact .inl hc
    · exact .inr (.inl hc)
    · exact .inr (.inr ((List.mem_append.1 hc).elim (hindent c) isIndent_of_mem_deeper))
  · have hjoined : line ++ (newline ++ (padded (i.indent ++ deeper i.indent) newline lines ++
        tail)) = cut ++ (back ++ (newline ++ tail)) := by
      rw [← List.append_assoc newline, ← List.append_assoc line, hcut]
      simp only [List.append_assoc]
    rw [hblock]
    simp only [List.append_assoc, hjoined]

/-- A tag on a line of its own is a block. -/
theorem freestanding_of_reads {pad line tail : Text} (hne : pad ≠ [])
    (hpad : ∀ c ∈ pad, Text.isIndent c = true) (hn : IsNewline newline)
    (htail : ∀ c ∈ tail, Text.isIndent c = true) (hhead : line.head? = some '<')
    (h : ∀ w, Reads .text (line ++ w) v .text w) :
    Freestanding (pad ++ (line ++ (newline ++ tail))) v := by
  refine ⟨pad, line ++ (newline ++ tail), rfl, hne, hpad, by rw [List.head?_append, hhead]; rfl,
    fun z hz => ?_⟩
  have hend : Reads .text (newline ++ (tail ++ z)) [] .text z :=
    (reads_newline hn (opens_append htail (opens_of_head hz))).trans (reads_indent htail hz)
  have hall := (h (newline ++ (tail ++ z))).trans hend
  rw [List.append_nil] at hall
  simpa only [List.append_assoc] using hall

end Markup
end SiteOptimizer
