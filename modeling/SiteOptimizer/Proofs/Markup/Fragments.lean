import SiteOptimizer.Proofs.Markup.Quotes
import SiteOptimizer.Proofs.Markup.Nodes
import SiteOptimizer.Proofs.Markup.Tags

/-!
# Fragments of markup in a document

A fragment is markup line by line if each of its lines is a comment or a whole tag, the tag's
values in quotes and its closing tag behind it or not. Such a line reads as the same markup
wherever it stands, and so does the fragment: the ends of its lines carry no markup. An
injected document is therefore the document with the fragments' own markup in front of the
closing tags (`signs_tokenize_inject`).
-/

namespace SiteOptimizer
namespace Markup

variable {name front line fragment : Text}

/-! ## Lines of markup -/

/-- A tag with its end, where all values stand in quotes. -/
inductive IsWholeTag (name : Text) : Text → Prop where
  | intro {attributes : List Attribute} {space : Text} (slash : Bool) : IsName name →
      (∀ a ∈ attributes, ∀ assigned ∈ a.assigned, assigned.value.isBare = false) → IsSpace space →
      IsWholeTag name ('<' :: name ++ (attributes.flatMap Attribute.render ++
        (space ++ endMark slash)))

/-- A comment, or a whole tag and perhaps the tag that closes it. -/
inductive IsMarkupLine : Text → Prop where
  | comment {body : Text} : Unended body → IsMarkupLine (Markup.comment body)
  | tag {name front : Text} : IsWholeTag name front → IsMarkupLine front
  | closed {name front close space : Text} : IsWholeTag name front → IsName close →
      Text.lower close = Text.lower name → IsSpace space →
      IsMarkupLine (front ++ (['<', '/'] ++ close ++ space ++ ['>']))

/-- What ends a tag is no part of what stands in front of it. -/
theorem head_endSpace {space : Text} (hspace : IsSpace space) (slash : Bool) (w : Text) :
    ∀ c, (space ++ (endMark slash ++ w)).head? = some c → isTagName c = false ∧
      isAttributeName c = false := by
  intro c hc
  cases space with
  | nil => cases slash <;> cases hc <;> decide
  | cons d space =>
    cases hc
    have hblank := hspace c List.mem_cons_self
    exact ⟨isTagName_of_isBlank hblank, by simp [isAttributeName, hblank]⟩

theorem IsWholeTag.exists_reads (h : IsWholeTag name front) :
    ∃ v, ∀ w, Reads .text (front ++ w) v .text w := by
  obtain ⟨slash, hname, hquoted, hspace⟩ := h
  rename_i attributes space
  obtain ⟨v, m, hm, -, hread⟩ := reads_attributes attributes (.inl rfl)
  obtain ⟨v', m', hm', -, hblank⟩ := reads_endSpace hm hspace slash
  refine ⟨⟨.tagOpen, Text.lower name⟩ :: (v ++ (v' ++ [endSign slash])), ?_⟩
  intro w
  have hstop := head_endSpace hspace slash w
  have hends : ∀ a ∈ attributes, a.EndsAt (space ++ (endMark slash ++ w)) := by
    intro a ha
    refine ⟨fun c hc => (hstop c hc).2, ?_⟩
    intro assigned hassigned hbare
    rw [hquoted a ha assigned hassigned] at hbare
    cases hbare
  have htag := reads_front hname attributes fun c hc => (hstop c hc).1
  have hall := htag.trans ((hread _ hends).trans ((hblank w).trans (reads_endMark slash hm' w)))
  simpa only [List.append_assoc, List.cons_append, List.nil_append] using hall

def closeSign (name space : Text) : Sign :=
  ⟨.tagClose, Kind.tagClose.normalize (['<', '/'] ++ name ++ space ++ ['>'])⟩

theorem IsWholeTag.head (h : IsWholeTag name front) : front.head? = some '<' := by
  cases h
  rfl

theorem IsMarkupLine.standalone (h : IsMarkupLine line) : Standalone line := by
  cases h with
  | comment hbody => exact standalone_comment hbody
  | tag htag =>
    obtain ⟨v, hread⟩ := htag.exists_reads
    exact .intro htag.head hread
  | @closed name front close space htag hclose _ hspace =>
    obtain ⟨v, hread⟩ := htag.exists_reads
    refine .intro (by rw [List.head?_append, htag.head]; rfl) (v := v ++ [closeSign close space]) ?_
    intro w
    rw [List.append_assoc]
    exact (hread _).trans (reads_closeTag hclose hspace w)

/-! ## Fragments -/

/-- What ends a line carries no markup. -/
theorem signsFrom_lineBreaks {ending : Text}
    (h : ∀ c ∈ ending, Text.isLineBreak c = true) (w : Text) :
    signsFrom .text (ending ++ w) = signsFrom .text w := by
  apply signsFrom_text
  intro hmem
  have hbreak := h _ hmem
  revert hbreak
  decide

/-- **A fragment's markup is that of its lines.** -/
theorem signs_tokenize_fragment (h : ∀ line ∈ Text.splitLines fragment, Standalone line) :
    signs (tokenize fragment) = marks (Text.splitLines fragment) := by
  rw [signs_tokenize]
  generalize hlines : Text.splitLines fragment = lines at h
  induction lines generalizing fragment with
  | nil =>
    rw [Text.splitLines_eq_nil_iff.1 hlines, signsFrom_nil]
    rfl
  | cons line lines ih =>
    obtain ⟨ending, rest, rfl, hending, hrest⟩ := Text.exists_of_splitLines hlines
    have hline := (h line List.mem_cons_self).reads (ending ++ rest)
    rw [hline.signsFrom_eq, signsFrom_lineBreaks hending, ih hrest fun l hl =>
      h l (List.mem_cons_of_mem _ hl)]
    rfl

/-! ## Injected documents -/

/-- The markup that goes in front of a sign of the document. -/
def signsBefore (headEnd bodyEnd : Text) (sign : Sign) : List Sign :=
  if sign.kind = .tagClose ∧ sign.value = headClose then signs (tokenize headEnd)
  else if sign.kind = .tagClose ∧ sign.value = bodyClose then signs (tokenize bodyEnd)
  else []

section

variable {headEnd bodyEnd : Text}

theorem fragmentFor_eq_some {tag : Text} (h : fragmentFor headEnd bodyEnd tag = some fragment) :
    fragment = headEnd ∨ fragment = bodyEnd := by
  unfold fragmentFor at h
  split at h
  · cases h
    exact .inl rfl
  · split at h
    · cases h
      exact .inr rfl
    · cases h

theorem marksBefore_fragmentFor (hhead : ∀ line ∈ Text.splitLines headEnd, Standalone line)
    (hbody : ∀ line ∈ Text.splitLines bodyEnd, Standalone line) (sign : Sign) :
    marksBefore (fragmentFor headEnd bodyEnd) sign = signsBefore headEnd bodyEnd sign := by
  have hne : bodyClose ≠ headClose := by decide
  unfold marksBefore closing signsBefore
  by_cases hk : sign.kind = .tagClose
  · rw [if_pos hk]
    by_cases hvalue : sign.value = headClose
    · rw [if_pos ⟨hk, hvalue⟩, signs_tokenize_fragment hhead]
      by_cases hnil : headEnd = []
      · simp [fragmentFor, hvalue, hnil, hne.symm, marks, Text.splitLines]
      · simp [fragmentFor, hvalue, hnil]
    · rw [if_neg fun h => hvalue h.2]
      by_cases hvalue' : sign.value = bodyClose
      · rw [if_pos ⟨hk, hvalue'⟩, signs_tokenize_fragment hbody]
        by_cases hnil : bodyEnd = []
        · simp [fragmentFor, hvalue', hne, hnil, marks, Text.splitLines]
        · simp [fragmentFor, hvalue', hne, hnil]
      · simp [fragmentFor, hvalue, hvalue']
  · simp [hk]

end

/-- **Injecting leaves all other markup intact.** Where every quote around a value of the
document is closed, the markup of the injected document is that of the document with the
fragments' own markup directly in front of each end of the head and of the body, and with nothing
else changed, lost or gained. -/
theorem signs_tokenize_inject (document headEnd bodyEnd : Text)
    (hquotes : ∀ q, IsQuote q → QuoteClosed q .text document)
    (hhead : ∀ line ∈ Text.splitLines headEnd, IsMarkupLine line)
    (hbody : ∀ line ∈ Text.splitLines bodyEnd, IsMarkupLine line) :
    signs (tokenize (inject document headEnd bodyEnd)) =
      (signs (tokenize document)).flatMap fun sign =>
        signsBefore headEnd bodyEnd sign ++ [sign] := by
  have hhead' : ∀ line ∈ Text.splitLines headEnd, Standalone line :=
    fun line hl => (hhead line hl).standalone
  have hbody' : ∀ line ∈ Text.splitLines bodyEnd, Standalone line :=
    fun line hl => (hbody line hl).standalone
  have hfragments : Fragments (fragmentFor headEnd bodyEnd) := by
    refine ⟨fun _ _ => fragmentFor_ne_nil, ?_⟩
    intro tag fragment hfragment
    rcases fragmentFor_eq_some hfragment with rfl | rfl
    · exact hhead'
    · exact hbody'
  rw [signs_tokenize, signs_tokenize, signs_inject document hfragments fun q hq =>
    .inl (hquotes q hq)]
  simp only [marksBefore_fragmentFor hhead' hbody']

theorem isMarkupLine_script : IsMarkupLine "<script src=\"a.js\"></script>".toList := by
  have hname : IsName "script".toList := ⟨'s', "cript".toList, rfl, by decide, by decide⟩
  have hspace : IsSpace [] := by decide
  obtain ⟨source, hsource, hquoted⟩ : ∃ a : Attribute, a.render = " src=\"a.js\"".toList ∧
      ∀ assigned ∈ a.assigned, assigned.value.isBare = false := by
    refine ⟨⟨[' '], "src".toList, some ⟨[], [], .quoted '"' "a.js".toList (.inl rfl) (by decide),
      hspace, hspace⟩, by decide, by decide, by decide, by decide⟩, rfl, ?_⟩
    intro assigned hassigned
    cases hassigned
    rfl
  have htag := IsWholeTag.intro false hname (List.forall_mem_singleton.2 hquoted) hspace
  have hline := IsMarkupLine.closed htag hname rfl hspace
  rw [List.flatMap_singleton, hsource] at hline
  exact hline

/-- A comment and a script go in, each in front of a closing tag. -/
theorem signs_tokenize_inject_script :
    (∀ q, IsQuote q → QuoteClosed q .text "<head>\n</head><body class=\"a\"></body>".toList) ∧
    signs (tokenize (inject "<head>\n</head><body class=\"a\"></body>".toList "<!-- a -->".toList
      "<script src=\"a.js\"></script>".toList)) =
        (signs (tokenize "<head>\n</head><body class=\"a\"></body>".toList)).flatMap fun sign =>
          signsBefore "<!-- a -->".toList "<script src=\"a.js\"></script>".toList
            sign ++ [sign] := by
  have hquotes : ∀ q, IsQuote q → QuoteClosed q .text
      "<head>\n</head><body class=\"a\"></body>".toList := by
    rintro q (rfl | rfl) <;> decide +kernel
  have hunended : Unended " a ".toList := by decide
  have hcomment : IsMarkupLine "<!-- a -->".toList := .comment hunended
  have hlines := Text.splitLines_of_not_break (s := "<!-- a -->".toList) (by decide) (by decide)
  have hlines' := Text.splitLines_of_not_break (s := "<script src=\"a.js\"></script>".toList)
    (by decide) (by decide)
  refine ⟨hquotes, signs_tokenize_inject _ _ _ hquotes ?_ ?_⟩
  · rw [hlines]
    exact List.forall_mem_singleton.2 hcomment
  · rw [hlines']
    exact List.forall_mem_singleton.2 isMarkupLine_script

end Markup
end SiteOptimizer
