import SiteOptimizer.Proofs.Page.Hints
import SiteOptimizer.Reference

/-!
# Reading the lines that preload modules

The lines that preload modules hold one tag for each URL, with the URL in double quotes as it is.
Nothing in a value is escaped, neither when it is written nor when it is read. So the tags give the
URLs back just if no URL holds a double quote (`read_rendered_iff`): a tag with such a URL is still
found, but it names what stands in front of the first quote.
-/

namespace SiteOptimizer

namespace Markup

/-! ## Attributes that have been read -/

theorem lookup_setValue_of_ne {name other : Text} (hne : name ≠ other)
    (attributes : Attributes) (value : Text) :
    (Attributes.setValue attributes other value).lookup name = attributes.lookup name := by
  induction attributes with
  | nil => rfl
  | cons a attributes ih =>
    obtain ⟨key, held⟩ := a
    have hset : Attributes.setValue ((key, held) :: attributes) other value =
        (if key = other then (key, some value) else (key, held)) ::
          Attributes.setValue attributes other value := rfl
    rw [hset]
    split_ifs with heq
    · have hbeq : (name == key) = false := beq_eq_false_iff_ne.2 (heq ▸ hne)
      rw [List.lookup_cons, List.lookup_cons, hbeq]
      exact ih
    · rw [List.lookup_cons, List.lookup_cons, ih]

/-- What a tag goes on with does not change the value that an attribute has. -/
theorem lookup_readFrom {found : Attributes} {pending : Option Text} {name value : Text}
    (tokens : List Token) (hfound : found.lookup name = some (some value))
    (hpending : pending ≠ some name) :
    (Attributes.readFrom found pending tokens).1.lookup name = some (some value) := by
  have hnone : none ≠ some name := (Option.some_ne_none name).symm
  induction tokens generalizing found pending with
  | nil => exact hfound
  | cons t tokens ih =>
    simp only [Attributes.readFrom]
    split
    · exact hfound
    · split
      · split
        · exact ih hfound hnone
        · next hhas =>
          refine ih ?_ ?_
          · rw [List.lookup_append, hfound]
            rfl
          · intro heq
            rw [Attributes.has, Option.some.inj heq, hfound] at hhas
            exact hhas rfl
      · split
        · cases pending with
          | none => exact ih hfound hnone
          -- a value changes only the attribute that waits for it, which is another one
          | some other =>
            refine ih ?_ hnone
            have hne : name ≠ other := fun heq => hpending (congrArg some heq.symm)
            rw [lookup_setValue_of_ne hne, hfound]
        · exact ih hfound hpending

/-- **A written tag has its attributes, whatever stands behind them.** -/
theorem tagsOf_tagStart {names : Text → Bool} {name : Text} {a : Text × Text}
    {attributes : List (Text × Text)} (hname : IsName name)
    (hnames : names (Text.lower name) = true) (h : Writable (a :: attributes))
    (hnodup : ((a :: attributes).map fun b => Text.lower b.1).Nodup) (w : Text) :
    ∃ tag tags, tagsOf names (signsFrom .text (tagStart name (a :: attributes) ++ w)) =
      tag :: tags ∧
      ∀ b ∈ a :: attributes, tag.2.value? (Text.lower b.1) = some b.2 := by
  have hsigns := (reads_tagStart_cons hname h w).signsFrom_eq
  have hread := readFrom_attributeSigns (a :: attributes) []
    ((signsFrom .tag w).map Sign.token) hnodup
  have hopen : (Sign.token ⟨.tagOpen, Text.lower name⟩).kind = .tagOpen ∧
      names (Sign.token ⟨.tagOpen, Text.lower name⟩).value = true := ⟨rfl, hnames⟩
  rw [hsigns, tagsOf, List.map_append, tagSigns, List.map_cons, List.cons_append, tagsNamed,
    if_pos (by simpa using hopen)]
  refine ⟨_, _, rfl, fun b hb => ?_⟩
  have hnone : none ≠ some (Text.lower b.1) := (Option.some_ne_none _).symm
  have hlookup := lookup_readFrom ((signsFrom .tag w).map Sign.token)
    (lookup_readBack hnodup hb) hnone
  show ((Attributes.readFrom [] none _).1.lookup _).join = _
  rw [hread, List.nil_append, hlookup]
  rfl

/-- A value with a quote in it is a value that ends there, with more text behind the tag's start. -/
theorem tagStart_quote (name : Text) (attributes : List (Text × Text)) (key a b : Text) :
    tagStart name (attributes ++ [(key, a ++ '"' :: b)]) =
      tagStart name (attributes ++ [(key, a)]) ++ (b ++ ['"']) := by
  simp [tagStart, written]

/-- **A tag whose last value has a quote in it has what stands in front of
the quote**, whatever follows. -/
theorem tagsOf_tagStart_quote (names : Text → Bool) {name : Text} {a : Text × Text}
    (attributes : List (Text × Text)) {key before : Text} (hname : IsName name)
    (hnames : names (Text.lower name) = true) (h : Writable (a :: attributes ++ [(key, before)]))
    (hnodup : ((a :: attributes ++ [(key, before)]).map fun b => Text.lower b.1).Nodup)
    (behind w : Text) :
    ∃ tag tags, tagsOf names (signsFrom .text
        (tagStart name (a :: attributes ++ [(key, before ++ '"' :: behind)]) ++ w)) =
      tag :: tags ∧
      ∀ b ∈ a :: attributes ++ [(key, before)], tag.2.value? (Text.lower b.1) = some b.2 := by
  rw [tagStart_quote, List.append_assoc]
  exact tagsOf_tagStart hname hnames h hnodup _

/-! ## Lines with one tag each -/

/-- A line for a URL, with one tag that is looked for; `observe` is what is asked of the tag. A URL
with a quote in it is cut short there. -/
structure UrlLine {β : Type} (names : Text → Bool) (write : Text → Text)
    (observe : Text × Attributes → β) (answer : Text → β) : Prop where
  standalone : ∀ {url}, '"' ∉ url → Standalone (write url)
  tags : ∀ {url}, '"' ∉ url →
    (tagsOf names (signsFrom .text (write url))).map observe = [answer url]
  cut : ∀ {before : Text} (behind w : Text), '"' ∉ before →
    ∃ tag tags, tagsOf names (signsFrom .text (write (before ++ '"' :: behind) ++ w)) =
      tag :: tags ∧
      observe tag = answer before
  injective : Function.Injective answer

/-- **The lines give their URLs back just if no URL has a quote in it.** The induction is
on the lines: up to the first URL with a quote each line is read by itself, and of that
one the tag names another URL. -/
theorem UrlLine.read_iff {β : Type} {names : Text → Bool} {write : Text → Text}
    {observe : Text × Attributes → β} {answer : Text → β} (h : UrlLine names write observe answer)
    (urls : List Text) :
    (tagsOf names (signsFrom .text (urls.flatMap fun url => '\n' :: write url))).map observe =
      urls.map answer ↔
      ∀ url ∈ urls, '"' ∉ url := by
  induction urls with
  | nil =>
    have hnil : tagsOf names (signsFrom .text []) = [] := by
      rw [signsFrom_nil]
      exact tagsOf_eq_nil (by simp)
    simp [hnil]
  | cons url urls ih =>
    have hmatch : ∀ s, firstMatch? textRules ('\n' :: s) = some (newlineRule, ['\n'], s) :=
      fun _ => rfl
    have hline : ∀ s, signsFrom .text ('\n' :: s) = signsFrom .text s := fun s =>
      (Reads.one (m := .text) (hmatch s)).signsFrom_eq
    rw [List.flatMap_cons, List.cons_append, hline, List.map_cons, List.forall_mem_cons]
    -- a quote ends the value early, so the first tag reads an answer for less than the URL
    by_cases hquote : '"' ∈ url
    · obtain ⟨before, behind, rfl, hbefore⟩ := List.eq_append_cons_of_mem hquote
      obtain ⟨tag, tags, htags, htag⟩ :=
        h.cut behind (urls.flatMap fun url => '\n' :: write url) hbefore
      have hne : before ≠ before ++ '"' :: behind := by simp
      rw [htags, List.map_cons, htag, List.cons.injEq]
      exact ⟨fun heq => absurd (h.injective heq.1) hne, fun hnone => absurd hquote hnone.1⟩
    · have hreads := (h.standalone hquote).reads (urls.flatMap fun url => '\n' :: write url)
      have hself := (h.standalone hquote).reads []
      rw [hreads.signsFrom_eq, tagsOf_append names hself, List.map_append, h.tags hquote,
        List.singleton_append, List.cons.injEq, ih]
      exact ⟨fun hrest => ⟨hquote, hrest.2⟩, fun hrest => ⟨rfl, hrest.2⟩⟩

end Markup

namespace Page

open Markup

/-- What the links of a document lead to, in their order. -/
def linkTargets (code : Text) : List (Option Text) :=
  (tagsNamed isLink (tokenize code)).map fun tag => tag.2.value? hrefAttribute

/-- The types of the script tags of a document and what they load, in their order. -/
def scriptSources (code : Text) : List (Option Text × Option Text) :=
  (tagsNamed isScript (tokenize code)).map fun tag =>
    (tag.2.value? typeAttribute, tag.2.value? srcAttribute)

theorem urlLine_hintTag : UrlLine isLink hintTag (fun tag => tag.2.value? hrefAttribute) some where
  standalone hurl := by
    rw [hintTag_eq]
    exact standalone_link (by decide) hurl
  tags hurl := by
    rw [hintTag_eq, tagsOf_link isLink (by decide) hurl, if_pos (by decide),
      List.map_singleton, value_linkRead]
  cut {before} behind w hbefore := by
    have hrel : '"' ∉ hintRel := by decide
    rw [hintTag_eq, link, voidTag, List.append_assoc]
    obtain ⟨tag, tags, htags, hvalues⟩ := tagsOf_tagStart_quote isLink [] isName_linkTag
      (by rw [lower_linkTag]; decide) (writable_link hrel hbefore)
        (nodup_linkNames hintRel before) behind
      ([' ', '/', '>'] ++ w)
    have hvalue := hvalues (hrefAttribute, before) (by simp)
    rw [lower_hrefAttribute] at hvalue
    exact ⟨tag, tags, htags, hvalue⟩
  injective _ _ heq := Option.some.inj heq

theorem urlLine_fallbackTag :
    UrlLine isScript fallbackTag (fun tag =>
      (tag.2.value? typeAttribute, tag.2.value? srcAttribute))
      fun url => (some moduleType, some url) where
  standalone hurl := .intro (by rw [fallbackTag_eq]; rfl) (reads_fallbackTag hurl)
  tags hurl := by
    rw [tagsOf_fallbackTag isScript hurl, if_pos (by decide), List.map_singleton,
      value_type_fallbackRead, value_src_fallbackRead]
  cut {before} behind w hbefore := by
    rw [fallbackTag_eq, openTag, List.append_assoc, List.append_assoc]
    obtain ⟨tag, tags, htags, hvalues⟩ := tagsOf_tagStart_quote isScript [] isName_scriptTag
      (by rw [lower_scriptTag]; decide) (writable_fallback hbefore)
        (nodup_fallbackNames before) behind
      (['>'] ++ (scriptClose ++ w))
    have htypeValue := hvalues (typeAttribute, moduleType) (by simp)
    have hsrcValue := hvalues (srcAttribute, before) (by simp)
    rw [lower_typeAttribute] at htypeValue
    rw [lower_srcAttribute] at hsrcValue
    exact ⟨tag, tags, htags, Prod.ext htypeValue hsrcValue⟩
  injective a b heq := by simpa using heq

/-- Lines behind a comment have the tags of the lines. -/
theorem tagsOf_behind_comment {body : Text} (h : Unended body) (names : Text → Bool)
    (write : Text → Text) (urls : List Text) :
    tagsOf names (signsFrom .text (Text.join ['\n'] (comment body :: urls.map write))) =
      tagsOf names (signsFrom .text (urls.flatMap fun url => '\n' :: write url)) := by
  have hreads := (standalone_comment h).reads (urls.flatMap fun url => '\n' :: write url)
  have hself := (standalone_comment h).reads []
  have hjoin : Text.join ['\n'] (comment body :: urls.map write) =
      comment body ++ urls.flatMap fun url => '\n' :: write url := by
    rw [Text.join_cons_flatMap, List.flatMap_map]
    rfl
  rw [hjoin, hreads.signsFrom_eq, tagsOf_append names hself, tagsOf_comment h, List.nil_append]

/-- **The lines that preload modules read back exactly if no URL holds a double quote.** The hints
then are one link for each URL, and the fallbacks one module script for each URL, in the order of
the URLs. With any other list of URLs neither gives the URLs back. -/
theorem read_rendered_iff (urls : List Text) :
    (linkTargets (renderHints urls) = urls.map some ↔ ∀ url ∈ urls, '"' ∉ url) ∧
      (scriptSources (renderFallbacks urls) = urls.map (fun url => (some moduleType, some url)) ↔
        ∀ url ∈ urls, '"' ∉ url) := by
  constructor
  · rw [linkTargets, tagsNamed_eq_tagsOf, signs_tokenize, renderHints, hintComment_eq,
      tagsOf_behind_comment unended_hintBody]
    exact urlLine_hintTag.read_iff urls
  · rw [scriptSources, tagsNamed_eq_tagsOf, signs_tokenize, renderFallbacks, fallbackComment_eq,
      tagsOf_behind_comment unended_fallbackBody]
    exact urlLine_fallbackTag.read_iff urls

/-- The URL of a file whose name holds a quote cannot be read back. -/
theorem not_read_quotedName :
    Reference.projectUrl? "/site/a\".js".toList "/site".toList = some "/a\".js".toList ∧
      linkTargets (renderHints ["/a\".js".toList]) ≠ [some "/a\".js".toList] ∧
      scriptSources (renderFallbacks ["/a\".js".toList]) ≠
        [(some moduleType, some "/a\".js".toList)] := by
  have hquote : ¬ ∀ url ∈ ["/a\".js".toList], '"' ∉ url := by decide +kernel
  obtain ⟨hlinks, hscripts⟩ := read_rendered_iff ["/a\".js".toList]
  exact ⟨by decide +kernel, fun heq => hquote (hlinks.1 heq), fun heq => hquote (hscripts.1 heq)⟩

end Page

end SiteOptimizer
