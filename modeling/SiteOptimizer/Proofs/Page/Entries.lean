import SiteOptimizer.Proofs.Markup.Blocks
import SiteOptimizer.Proofs.Markup.Unified
import SiteOptimizer.Proofs.Page.Hints
import SiteOptimizer.Proofs.Page.Scan

/-!
# The modules of a page at both times

A page is read twice. The scan reads it with line feeds as its only line ends and collects all its
scripts; the task on it reads it as it stands, links the combined stylesheet and then looks for
its modules. The link adds no script, whatever its URL is, as long as it stays between its quotes.
So what the task looks for the scan has found, if no source of a script has a carriage return that
the scan reads as a line feed.
-/

namespace SiteOptimizer
namespace Page

open Markup

variable {code url page root path : Text}

/-! ## The link -/

/-- The link goes in as one block, with the line ends and indents that come into its URL. -/
theorem exists_freestanding_link (hurl : '"' ∉ url) {newline : Text} (hn : IsNewline newline)
    (i : Insertion) (hindent : ∀ c ∈ i.indent, Text.isIndent c = true)
    (hfragment : i.fragment = link styleRel url) :
    ∃ v, Freestanding (i.block newline) v ∧ tagsOf isScript v = [] := by
  have hfront : ∀ c ∈ '<' :: linkTag ++ written [(relAttribute, styleRel)] ++
      ' ' :: hrefAttribute ++ ['=', '"'], Text.isLineBreak c = false := by decide +kernel
  have hback : ∀ c ∈ ['"', ' ', '/', '>'], Text.isLineBreak c = false := by decide
  rw [link_eq, List.append_assoc] at hfragment
  obtain ⟨pad, cut, tail, hne, hpad, htail, hcut, hblock⟩ :=
    i.exists_block_eq newline hindent hfragment hfront (List.cons_ne_nil _ _) hback
  have hquote : '"' ∉ cut := by
    intro hmem
    rcases hcut _ hmem with h | h | h
    · exact hurl h
    · exact IsQuote.not_mem_newline (.inl rfl) hn h
    · revert h
      decide
  have hrel : '"' ∉ styleRel := by decide
  refine ⟨_, ?_, (tagsOf_link isScript hrel hquote).trans (if_neg (by decide))⟩
  rw [hblock, ← List.append_assoc _ cut, ← link_eq, signsFrom_link hrel hquote]
  exact freestanding_of_reads hne hpad hn htail rfl (reads_link hrel hquote)

/-- The modules of a page depend on its script tags alone. -/
theorem moduleEntries_congr {code code' : Text}
    (h : tagsOf isScript (signsFrom .text code') = tagsOf isScript (signsFrom .text code))
    (page root : Path) :
    moduleEntries code' page root = moduleEntries code page root := by
  rw [moduleEntries, moduleEntries, tagsNamed_eq_tagsOf, tagsNamed_eq_tagsOf,
    signs_tokenize, signs_tokenize]
  exact congrArg _ (congrArg _ h)

/-- **Linking a stylesheet leaves a page the modules that it has**, even if line
ends cut the URL of the link. -/
theorem moduleEntries_inject_link (hurl : '"' ∉ url)
    (hclosed : ∀ q, IsQuote q → QuoteClosed q .text code) (page root : Path) :
    moduleEntries (inject code (link styleRel url) []) page root =
      moduleEntries code page root := by
  obtain ⟨newline, hn, hwoven⟩ := woven_inject code (link styleRel url) []
  apply moduleEntries_congr
  refine hwoven.tagsOf_eq rfl hclosed fun i tag hf hindent => ?_
  exact exists_freestanding_link hurl hn i hindent (fragmentFor_link hf).2

/-! ## The line ends -/

/-- No source of a script in this page has a carriage return. -/
def PlainSources (code : Text) : Prop :=
  ∀ tag ∈ tagsNamed isScript (tokenize code), ∀ src,
    tag.2.value? srcAttribute = some src → '\r' ∉ src

instance (code : Text) : Decidable (PlainSources code) :=
  decidable_of_iff
    (∀ tag ∈ tagsNamed isScript (tokenize code), ∀ src ∈ tag.2.value? srcAttribute,
      '\r' ∉ src) Iff.rfl

/-- **A module of a page is one of its scripts whichever way its line ends are read.** -/
theorem mem_scripts_unifyNewlines (hplain : PlainSources code)
    (h : path ∈ moduleEntries code page root) :
    path ∈ scripts (Text.unifyNewlines code) page root := by
  rw [moduleEntries, Text.mem_sortUnique, List.mem_filterMap] at h
  obtain ⟨tag, htag, hpath⟩ := h
  obtain ⟨-, href⟩ := Option.ite_none_right_eq_some.1 hpath
  obtain ⟨src, hsrc, hne, hresolve⟩ := reference?_eq_some.1 href
  have hname : tag.1 = scriptTag := by simpa using names_of_mem_tagsNamed htag
  -- the scan reads the attributes of links as well, so it goes over more of
  -- the tokens than the task does
  have hall : tag ∈ tagsNamed (fun name => name = linkTag || name = scriptTag) (tokenize code) := by
    refine mem_tagsNamed_mono (fun name hscript => ?_) code htag
    rw [hscript, Bool.or_true]
  have hunified : (tag.1, tag.2.unified) ∈ referenceTags (Text.unifyNewlines code) := by
    rw [referenceTags, tagsNamed_unifyNewlines]
    exact List.mem_map_of_mem hall
  have hvalue : tag.2.unified.value? srcAttribute = some src := by
    rw [Attributes.value?_unified, hsrc, Option.map_some,
      Text.unifyNewlines_eq_self (hplain tag htag src hsrc)]
  refine List.mem_filterMap.2 ⟨_, hunified, ?_⟩
  dsimp only
  rw [if_pos hname]
  exact reference?_eq_some.2 ⟨src, hvalue, hne, hresolve⟩

end Page
end SiteOptimizer
