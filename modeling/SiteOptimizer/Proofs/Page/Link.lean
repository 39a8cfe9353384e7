import SiteOptimizer.Page.Scan
import SiteOptimizer.Proofs.Markup.Quotes
import SiteOptimizer.Proofs.Markup.Tags

/-!
# Links that go into a page

A link that is written out in full goes in front of the end of the head. A page whose head
is not closed has no place for it, and stays as it is; any other page has the link
afterwards (`links_inject_iff`).
-/

namespace SiteOptimizer
namespace Page

open Markup

/-! ## Texts that can stand in markup -/

/-- Characters that are neither apostrophes nor line ends. -/
def Calm (s : Text) : Prop :=
  ∀ c ∈ s, c ≠ '\'' ∧ Text.isLineBreak c = false

theorem Calm.append {a b : Text} (ha : Calm a) (hb : Calm b) : Calm (a ++ b) := fun c hc =>
  (List.mem_append.1 hc).elim (ha c) (hb c)

theorem calm_of_eq {s t : Text} (h : s = t)
    (ht : (t.all fun c => c ≠ '\'' && !Text.isLineBreak c) = true) : Calm s := by
  intro c hc
  rw [h] at hc
  have := List.all_eq_true.1 ht c hc
  simpa using this

/-- URLs that can stand between double quotes on a line. -/
def WritableUrl (url : Text) : Prop :=
  '"' ∉ url ∧ Calm url

/-- The same, where apostrophes do no harm. -/
def LineUrl (url : Text) : Prop :=
  '"' ∉ url ∧ ∀ c ∈ url, Text.isLineBreak c = false

theorem WritableUrl.lineUrl {url : Text} (h : WritableUrl url) : LineUrl url :=
  ⟨h.1, fun c hc => (h.2 c hc).2⟩

/-! ## What a page closes and what it links -/

/-- Whether a document has this closing tag. -/
def Closes (tag code : Text) : Prop :=
  ∃ t ∈ tokenize code, t.kind = .tagClose ∧ t.value = tag

instance (tag code : Text) : Decidable (Closes tag code) :=
  inferInstanceAs (Decidable (∃ t ∈ tokenize code, t.kind = .tagClose ∧ t.value = tag))

theorem closes_iff {tag code : Text} :
    Closes tag code ↔ ⟨.tagClose, tag⟩ ∈ signsFrom .text code := by
  rw [← signs_tokenize, signs, List.mem_flatMap]
  constructor
  · rintro ⟨t, ht, hk, rfl⟩
    refine ⟨t, ht, ?_⟩
    rw [hk, if_neg (by decide)]
    exact List.mem_singleton.2 rfl
  · rintro ⟨t, ht, hsign⟩
    split at hsign
    · cases hsign
    · injection List.mem_singleton.1 hsign with hkind hvalue
      exact ⟨t, ht, hkind.symm, hvalue.symm⟩

/-- Whether a name is that of links. -/
def isLink (name : Text) : Bool :=
  name = linkTag

/-- Whether a page has a link to this URL. -/
def Links (url code : Text) : Prop :=
  ∃ tag ∈ tagsNamed isLink (tokenize code), tag.2.value? hrefAttribute = some url

instance (url code : Text) : Decidable (Links url code) :=
  inferInstanceAs (Decidable (∃ tag ∈ tagsNamed isLink (tokenize code),
    tag.2.value? hrefAttribute = some url))

theorem links_iff {url code : Text} :
    Links url code ↔ ∃ tag ∈ tagsOf isLink (signsFrom .text code),
    tag.2.value? hrefAttribute = some url := by
  rw [Links, tagsNamed_eq_tagsOf, signs_tokenize]

/-! ## Links -/

theorem lower_linkTag : Text.lower linkTag = linkTag := by decide +kernel

theorem lower_hrefAttribute : Text.lower hrefAttribute = hrefAttribute := by decide +kernel

/-- The attribute of a link that says what it is for. -/
def relAttribute : Text := "rel".toList

/-- The attributes of a link. -/
def linkAttributes (rel url : Text) : List (Text × Text) :=
  [(relAttribute, rel), (hrefAttribute, url)]

/-- A link that is for `rel`. -/
def link (rel url : Text) : Text :=
  voidTag linkTag (linkAttributes rel url)

theorem link_eq (rel url : Text) : link rel url =
    '<' :: linkTag ++ written [(relAttribute, rel)] ++ ' ' :: hrefAttribute ++ ['=', '"'] ++ url ++
      ['"', ' ', '/', '>'] := by
  simp only [link, voidTag, tagStart, linkAttributes, written, List.flatMap_cons, List.flatMap_nil,
    List.append_assoc, List.cons_append, List.nil_append]

/-- A link, as it is read. -/
def linkRead (rel url : Text) : Text × Attributes :=
  (linkTag, readBack (linkAttributes rel url))

section Link

variable {rel url : Text}

theorem isName_linkTag : IsName linkTag := ⟨_, _, rfl, by decide, by decide⟩

theorem writable_link (hrel : '"' ∉ rel) (hurl : '"' ∉ url) :
    Writable (linkAttributes rel url) := by
  have hrelName : ∀ c ∈ relAttribute, isAttributeName c = true := by decide
  have hhrefName : ∀ c ∈ hrefAttribute, isAttributeName c = true := by decide
  intro a ha
  rcases List.mem_cons.1 ha with rfl | ha
  · exact ⟨List.cons_ne_nil _ _, hrelName, hrel⟩
  · rw [List.mem_singleton.1 ha]
    exact ⟨List.cons_ne_nil _ _, hhrefName, hurl⟩

theorem reads_link (hrel : '"' ∉ rel) (hurl : '"' ∉ url) (w : Text) :
    Reads .text (link rel url ++ w)
    (tagSigns linkTag (linkAttributes rel url) ++ [⟨.tagSelfClose, ['/', '>']⟩]) .text w :=
  reads_voidTag isName_linkTag (writable_link hrel hurl) w

theorem signsFrom_link (hrel : '"' ∉ rel) (hurl : '"' ∉ url) : signsFrom .text (link rel url) =
    tagSigns linkTag (linkAttributes rel url) ++ [⟨.tagSelfClose, ['/', '>']⟩] := by
  have hsigns := (reads_link hrel hurl []).signsFrom_eq
  rwa [List.append_nil, signsFrom_nil, List.append_nil] at hsigns

theorem standalone_link (hrel : '"' ∉ rel) (hurl : '"' ∉ url) : Standalone (link rel url) :=
  .intro rfl (reads_link hrel hurl)

theorem nodup_linkNames (rel url : Text) :
    ((linkAttributes rel url).map fun a => Text.lower a.1).Nodup := by
  show [Text.lower relAttribute, Text.lower hrefAttribute].Nodup
  decide +kernel

theorem tagsOf_link (names : Text → Bool) (hrel : '"' ∉ rel) (hurl : '"' ∉ url) :
    tagsOf names (signsFrom .text (link rel url)) =
      if names linkTag then [linkRead rel url] else [] := by
  rw [signsFrom_link hrel hurl, tagsOf_tagSigns names linkTag (nodup_linkNames rel url) rfl,
    lower_linkTag, tagsOf_eq_nil (v := []) (by simp), List.append_nil]
  rfl

/-- A link leads to its URL. -/
theorem value_linkRead (rel url : Text) : (linkRead rel url).2.value? hrefAttribute = some url := by
  have hvalue := value?_readBack (nodup_linkNames rel url) (a := (hrefAttribute, url))
    (.tail _ (.head _))
  rwa [lower_hrefAttribute] at hvalue

/-- The start of a tag closes nothing. -/
theorem ne_tagClose_of_mem_tagSigns {name : Text} {attributes : List (Text × Text)} {sign : Sign}
    (h : sign ∈ tagSigns name attributes) : sign.kind ≠ .tagClose := by
  rcases List.mem_cons.1 h with rfl | h
  · exact nofun
  · rcases kind_of_mem_attributeSigns h with hk | hk | hk <;> rw [hk] <;> exact nofun

theorem ne_tagClose_of_mem_link (hrel : '"' ∉ rel) (hurl : '"' ∉ url) {sign : Sign}
    (h : sign ∈ signsFrom .text (link rel url)) : sign.kind ≠ .tagClose := by
  rw [signsFrom_link hrel hurl] at h
  rcases List.mem_append.1 h with h | h
  · exact ne_tagClose_of_mem_tagSigns h
  · rw [List.mem_singleton.1 h]
    exact nofun

end Link

/-! ## A link in front of the end of the head -/

/-- What a link to a stylesheet is for. -/
def styleRel : Text := "stylesheet".toList

theorem fragmentFor_link {line tag fragment : Text} (h : fragmentFor line [] tag = some fragment) :
    tag = headClose ∧ fragment = line := by
  unfold fragmentFor at h
  split at h
  · next hc =>
    cases h
    simp only [Bool.and_eq_true, decide_eq_true_eq] at hc
    exact ⟨hc.1, rfl⟩
  · split at h
    · next hc => simp at hc
    · cases h

/-- **A line goes into a page just if its head is closed.** -/
theorem inject_ne_self_iff {line code : Text} (hline : line ≠ []) :
    inject code line [] ≠ code ↔ Closes headClose code := by
  rw [Ne, inject_eq_self_iff, closes_iff, not_forall]
  constructor
  · rintro ⟨sign, hsign⟩
    obtain ⟨hmem, hsome⟩ := Classical.not_imp.1 hsign
    obtain ⟨fragment, hc⟩ := Option.ne_none_iff_exists'.1 hsome
    obtain ⟨hkind, hfragment⟩ := closing_eq_some_iff.1 hc
    rw [← hkind, ← (fragmentFor_link hfragment).1]
    exact hmem
  · refine fun hmem => ⟨⟨.tagClose, headClose⟩, fun h => ?_⟩
    have hnone := h hmem
    rw [closing, if_pos rfl, fragmentFor, if_pos (by simp [hline])] at hnone
    cases hnone

section Inject

variable {url code : Text}

theorem calm_link (h : WritableUrl url) : Calm (link styleRel url) := by
  have hstart : Calm ('<' :: linkTag ++ written [(relAttribute, styleRel)] ++ ' ' ::
      hrefAttribute ++ ['=', '"']) :=
    calm_of_eq rfl (by decide +kernel)
  have hend : Calm ['"', ' ', '/', '>'] := calm_of_eq rfl (by decide)
  rw [link_eq]
  exact (hstart.append h.2).append hend

theorem splitLines_link (h : WritableUrl url) :
    Text.splitLines (link styleRel url) = [link styleRel url] :=
  Text.splitLines_of_not_break (List.cons_ne_nil _ _) fun c hc => (calm_link h c hc).2

/-- What goes in front of the end of the head. -/
abbrev linkFragment (url : Text) : Text → Option Text :=
  fragmentFor (link styleRel url) []

theorem fragments_link (h : WritableUrl url) : Fragments (linkFragment url) where
  ne_nil tag fragment hf := by
    rw [(fragmentFor_link hf).2]
    exact List.cons_ne_nil _ _
  lines tag fragment hf line hline := by
    rw [(fragmentFor_link hf).2, splitLines_link h] at hline
    rw [List.mem_singleton.1 hline]
    exact standalone_link (by decide) h.1

/-- The link has no apostrophe, so it closes no quote but a double one. -/
theorem undisturbed_link (h : WritableUrl url) (hq : QuoteClosed '"' .text code) :
    Undisturbed (linkFragment url) .text code := by
  rintro q (rfl | rfl)
  · exact .inl hq
  · refine .inr fun tag fragment hf hc => ?_
    rw [(fragmentFor_link hf).2] at hc
    exact (calm_link h _ hc).1 rfl

theorem marksBefore_link (h : WritableUrl url) (sign : Sign) : marksBefore (linkFragment url) sign =
    if sign = ⟨.tagClose, headClose⟩ then signsFrom .text (link styleRel url) else [] := by
  by_cases hsign : sign = ⟨.tagClose, headClose⟩
  · have hne : link styleRel url ≠ [] := List.cons_ne_nil _ _
    have hc : closing (linkFragment url) sign.kind sign.value = some (link styleRel url) := by
      rw [hsign, closing, if_pos rfl, linkFragment, fragmentFor, if_pos (by simp [hne])]
    rw [marksBefore_of_some hc, splitLines_link h, if_pos hsign]
    exact List.append_nil _
  · cases hc : closing (linkFragment url) sign.kind sign.value with
    | none => rw [marksBefore_of_none hc, if_neg hsign]
    | some fragment =>
      obtain ⟨hk, hfragment⟩ := closing_eq_some_iff.1 hc
      obtain ⟨htag, -⟩ := fragmentFor_link hfragment
      exact absurd (by rw [← hk, ← htag]) hsign

theorem signs_inject_link (h : WritableUrl url) (hq : QuoteClosed '"' .text code) :
    signsFrom .text (inject code (link styleRel url) []) =
      (signsFrom .text code).flatMap fun sign => marksBefore (linkFragment url) sign ++ [sign] :=
  signs_inject code (fragments_link h) (undisturbed_link h hq)

/-- A page has the tags that it had, and the link if its head is closed. -/
theorem mem_tags_inject_link (names : Text → Bool) (h : WritableUrl url)
    (hq : QuoteClosed '"' .text code) (tag : Text × Attributes) :
    tag ∈ tagsOf names (signsFrom .text (inject code (link styleRel url) [])) ↔
      tag ∈ tagsOf names (signsFrom .text code) ∨
        (Closes headClose code ∧ names linkTag = true ∧ tag = linkRead styleRel url) := by
  rw [signs_inject_link h hq, mem_tagsOf_spliced names (fragments_link h), closes_iff]
  refine or_congr_right ?_
  -- the link goes in front of the end of the head and nowhere else
  have hmarks : ∀ sign, tag ∈ tagsOf names (marksBefore (linkFragment url) sign) ↔
      sign = ⟨.tagClose, headClose⟩ ∧ names linkTag = true ∧ tag = linkRead styleRel url := by
    intro sign
    rw [marksBefore_link h]
    by_cases hsign : sign = ⟨.tagClose, headClose⟩
    · rw [if_pos hsign, tagsOf_link names (by decide) h.1]
      split
      · next hname => simp [hsign, hname]
      · next hname => simp [hname]
    · rw [if_neg hsign, tagsOf_eq_nil (by simp)]
      simp [hsign]
  constructor
  · rintro ⟨sign, hsign, htag⟩
    obtain ⟨rfl, hlink⟩ := (hmarks sign).1 htag
    exact ⟨hsign, hlink⟩
  · rintro ⟨hsign, htag⟩
    exact ⟨_, hsign, (hmarks _).2 ⟨rfl, htag⟩⟩

/-- **A page links the stylesheet just if its head is closed**, or if it did so before. -/
theorem links_inject_iff (h : WritableUrl url) (hq : QuoteClosed '"' .text code) :
    Links url (inject code (link styleRel url) []) ↔ Links url code ∨ Closes headClose code := by
  rw [links_iff, links_iff]
  constructor
  · rintro ⟨tag, htag, hvalue⟩
    rcases (mem_tags_inject_link isLink h hq tag).1 htag with htag | ⟨hhead, -, -⟩
    · exact .inl ⟨tag, htag, hvalue⟩
    · exact .inr hhead
  · rintro (⟨tag, htag, hvalue⟩ | hhead)
    · exact ⟨tag, (mem_tags_inject_link isLink h hq tag).2 (.inl htag), hvalue⟩
    · exact ⟨_, (mem_tags_inject_link isLink h hq _).2 (.inr ⟨hhead, by decide, rfl⟩),
        value_linkRead _ _⟩

/-- The link leaves no quote open. -/
theorem quoteClosed_inject_link (h : WritableUrl url) (hq : QuoteClosed '"' .text code) :
    QuoteClosed '"' .text (inject code (link styleRel url) []) := by
  refine quoteClosed_inject code (fragments_link h) (fun tag fragment hf line hline => ?_)
    (undisturbed_link h hq) hq
  rw [(fragmentFor_link hf).2, splitLines_link h] at hline
  rw [List.mem_singleton.1 hline]
  exact encloses_voidTag isName_linkTag (writable_link (by decide) h.1) (.inl rfl)

end Inject

end Page
end SiteOptimizer
