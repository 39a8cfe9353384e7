import SiteOptimizer.Page.Preload
import SiteOptimizer.Proofs.Page.Link

/-!
# What preloading writes into a page

The hints are links and the lines at the end of the body are script tags, so a page that
has been preloaded names the scripts that it named before, and it names the preloaded
modules just if its body is closed.
-/

namespace SiteOptimizer
namespace Page

open Markup

/-! ## The lines that go in -/

/-- What the lines for the end of the head say before the hints. -/
def hintBody : Text :=
  " [turbooptimize] Add modulepreload to improve unbundled load performance ".toList ++
    "(More info: https://developers.google.com/web/updates/2017/12/modulepreload) ".toList

/-- What the lines for the end of the body say before the script tags. -/
def fallbackBody : Text :=
  " [turbooptimize] modulepreload fallback for browsers that do not support it yet ".toList

theorem hintComment_eq : hintComment = comment hintBody := by
  have hbody : hintBody = _ := congrArg₂ (· ++ ·) String.toList_ofList String.toList_ofList
  rw [hbody]
  have hcomment : hintComment = _ :=
    String.toList_append.trans (congrArg₂ (· ++ ·) String.toList_ofList String.toList_ofList)
  rw [hcomment]
  rfl

theorem fallbackComment_eq : fallbackComment = comment fallbackBody := by
  have hbody : fallbackBody = _ := String.toList_ofList
  rw [hbody]
  exact String.toList_ofList

/-- The comments hold nothing that could end a comment. -/
theorem plain_bodies : (∀ c ∈ hintBody, c ≠ '>') ∧ (∀ c ∈ fallbackBody, c ≠ '>') := by
  have hhint : hintBody = _ := congrArg₂ (· ++ ·) String.toList_ofList String.toList_ofList
  have hfallback : fallbackBody = _ := String.toList_ofList
  rw [hhint, hfallback]
  decide +kernel

theorem unended_of_not_mem {body : Text} (h : '>' ∉ body) : Unended body := by
  rintro ⟨a, b, hbody⟩
  apply h
  rw [← hbody]
  simp [endWord]

theorem unended_hintBody : Unended hintBody :=
  unended_of_not_mem fun h => plain_bodies.1 _ h rfl

theorem unended_fallbackBody : Unended fallbackBody :=
  unended_of_not_mem fun h => plain_bodies.2 _ h rfl

/-- What a hint is for. -/
def hintRel : Text := "modulepreload".toList

/-- The attributes of a script tag. -/
def fallbackAttributes (url : Text) : List (Text × Text) :=
  [(typeAttribute, moduleType), (srcAttribute, url)]

/-- The end of a script. -/
def scriptClose : Text := "</script>".toList

theorem hintTag_eq (url : Text) : hintTag url = link hintRel url := by
  have hbefore : "<link rel=\"modulepreload\" href=\"".toList =
      '<' :: linkTag ++ written [(relAttribute, hintRel)] ++ ' ' ::
        hrefAttribute ++ ['=', '"'] := by
    exact String.toList_ofList
  have hbehind : "\" />".toList = ['"', ' ', '/', '>'] := String.toList_ofList
  rw [link_eq]
  exact congrArg₂ (fun before behind : Text => before ++ url ++ behind) hbefore hbehind

theorem fallbackTag_eq (url : Text) :
    fallbackTag url = openTag scriptTag (fallbackAttributes url) ++ scriptClose := by
  have hbefore : "<script type=\"module\" src=\"".toList =
      '<' :: scriptTag ++ written [(typeAttribute, moduleType)] ++ ' ' ::
        srcAttribute ++ ['=', '"'] := by
    exact String.toList_ofList
  have hbehind : "\"></script>".toList = '"' :: '>' :: scriptClose := String.toList_ofList
  refine (congrArg₂ (fun before behind : Text => before ++ url ++ behind) hbefore hbehind).trans ?_
  simp only [openTag, tagStart, fallbackAttributes, written, List.flatMap_cons, List.flatMap_nil,
    List.append_assoc, List.cons_append, List.nil_append]

theorem writable_fallback {url : Text} (h : '"' ∉ url) : Writable (fallbackAttributes url) := by
  have htype : ∀ c ∈ typeAttribute, isAttributeName c = true := by decide
  have hsrc : ∀ c ∈ srcAttribute, isAttributeName c = true := by decide
  intro a ha
  rcases List.mem_cons.1 ha with rfl | ha
  · exact ⟨by decide, htype, by decide⟩
  · rw [List.mem_singleton.1 ha]
    exact ⟨List.cons_ne_nil _ _, hsrc, h⟩

theorem isName_scriptTag : IsName scriptTag := ⟨_, _, rfl, by decide, by decide⟩

/-- The markup of a script tag. -/
def fallbackSigns (url : Text) : List Sign :=
  tagSigns scriptTag (fallbackAttributes url) ++ [⟨.tagEnd, ['>']⟩, ⟨.tagClose, scriptClose⟩]

theorem reads_fallbackTag {url : Text} (h : '"' ∉ url) (w : Text) :
    Reads .text (fallbackTag url ++ w) (fallbackSigns url) .text w := by
  have hmatch : firstMatch? textRules (scriptClose ++ w) = some (closeRule, scriptClose, w) := rfl
  have hclose : Reads .text (scriptClose ++ w) [⟨.tagClose, scriptClose⟩] .text w :=
    Reads.one (m := .text) hmatch
  rw [fallbackTag_eq, List.append_assoc, fallbackSigns]
  have hopen := reads_openTag isName_scriptTag (writable_fallback h) (scriptClose ++ w)
  have hall := hopen.trans hclose
  rw [List.append_assoc] at hall
  exact hall

/-! ## What the lines read as -/

/-- The lines for the end of the head. -/
def hintLines (urls : List Text) : List Text :=
  hintComment :: urls.map hintTag

/-- The lines for the end of the body. -/
def fallbackLines (urls : List Text) : List Text :=
  fallbackComment :: urls.map fallbackTag

theorem standalone_hintLines {urls : List Text} (h : ∀ url ∈ urls, LineUrl url) :
    ∀ line ∈ hintLines urls, Standalone line := by
  intro line hline
  rcases List.mem_cons.1 hline with heq | hline
  · rw [heq, hintComment_eq]
    exact standalone_comment unended_hintBody
  · obtain ⟨url, hurl, rfl⟩ := List.mem_map.1 hline
    rw [hintTag_eq]
    exact standalone_link (by decide) (h url hurl).1

theorem standalone_fallbackLines {urls : List Text} (h : ∀ url ∈ urls, LineUrl url) :
    ∀ line ∈ fallbackLines urls, Standalone line := by
  intro line hline
  rcases List.mem_cons.1 hline with heq | hline
  · rw [heq, fallbackComment_eq]
    exact standalone_comment unended_fallbackBody
  · obtain ⟨url, hurl, rfl⟩ := List.mem_map.1 hline
    exact .intro (by rw [fallbackTag_eq]; rfl) (reads_fallbackTag (h url hurl).1)

/-- What does not come from the URLs of the lines is calm, if the comment
and all around the URLs are. -/
theorem calm_or_mem_lines {comment before behind : Text} (hcomment : Calm comment)
    (hbefore : Calm before) (hbehind : Calm behind) {urls : List Text} {line : Text}
    (hline : line ∈ comment :: urls.map fun url => before ++ url ++ behind)
    {c : Char} (hc : c ∈ line) :
    (c ≠ '\'' ∧ Text.isLineBreak c = false) ∨ ∃ url ∈ urls, c ∈ url := by
  rcases List.mem_cons.1 hline with rfl | hline
  · exact .inl (hcomment c hc)
  · obtain ⟨url, hurl, rfl⟩ := List.mem_map.1 hline
    rcases List.mem_append.1 hc with hc | hc
    · rcases List.mem_append.1 hc with hc | hc
      · exact .inl (hbefore c hc)
      · exact .inr ⟨url, hurl, hc⟩
    · exact .inl (hbehind c hc)

theorem calm_or_mem_hintLines {urls : List Text} {line : Text} (hline : line ∈ hintLines urls)
    {c : Char} (hc : c ∈ line) :
    (c ≠ '\'' ∧ Text.isLineBreak c = false) ∨ ∃ url ∈ urls, c ∈ url := by
  have hcomment : hintComment = _ :=
    String.toList_append.trans (congrArg₂ (· ++ ·) String.toList_ofList String.toList_ofList)
  exact calm_or_mem_lines (calm_of_eq hcomment (by decide +kernel))
    (calm_of_eq String.toList_ofList (by decide +kernel))
      (calm_of_eq String.toList_ofList (by decide +kernel))
    hline hc

theorem calm_or_mem_fallbackLines {urls : List Text} {line : Text}
    (hline : line ∈ fallbackLines urls) {c : Char} (hc : c ∈ line) :
    (c ≠ '\'' ∧ Text.isLineBreak c = false) ∨ ∃ url ∈ urls, c ∈ url :=
  calm_or_mem_lines (calm_of_eq String.toList_ofList (by decide +kernel))
    (calm_of_eq String.toList_ofList (by decide +kernel))
      (calm_of_eq String.toList_ofList (by decide +kernel))
    hline hc

/-- What is written for the end of the head has these lines. -/
theorem splitLines_renderHints {urls : List Text} (h : ∀ url ∈ urls, LineUrl url) :
    Text.splitLines (renderHints urls) = hintLines urls := by
  apply Text.splitLines_join
  intro line hline
  constructor
  · rintro rfl
    cases (standalone_hintLines h [] hline).head
  · intro c hc
    rcases calm_or_mem_hintLines hline hc with hcalm | ⟨url, hurl, hc⟩
    · exact hcalm.2
    · exact (h url hurl).2 c hc

/-- What is written for the end of the body has these lines. -/
theorem splitLines_renderFallbacks {urls : List Text} (h : ∀ url ∈ urls, LineUrl url) :
    Text.splitLines (renderFallbacks urls) = fallbackLines urls := by
  apply Text.splitLines_join
  intro line hline
  constructor
  · rintro rfl
    cases (standalone_fallbackLines h [] hline).head
  · intro c hc
    rcases calm_or_mem_fallbackLines hline hc with hcalm | ⟨url, hurl, hc⟩
    · exact hcalm.2
    · exact (h url hurl).2 c hc

/-- Lines that are calm but for their URLs have no apostrophe that those have not. -/
theorem not_mem_join {lines urls : List Text} (h : ∀ url ∈ urls, WritableUrl url)
    (hlines : ∀ line ∈ lines, ∀ c ∈ line,
      (c ≠ '\'' ∧ Text.isLineBreak c = false) ∨ ∃ url ∈ urls, c ∈ url) :
    '\'' ∉ Text.join ['\n'] lines := by
  intro hc
  rcases Text.mem_join hc with hc | ⟨line, hline, hc⟩
  · revert hc
    decide
  · rcases hlines line hline _ hc with hcalm | ⟨url, hurl, hc⟩
    · exact hcalm.1 rfl
    · exact ((h url hurl).2 _ hc).1 rfl

/-! ## The lines as insertions -/

/-- What goes in front of the closing tags of a page. -/
def preloadFragment (urls : List Text) : Text → Option Text :=
  fragmentFor (renderHints urls) (renderFallbacks urls)

/-- Lines with one in front that is not empty are not nothing. -/
theorem join_ne_nil {line : Text} (hline : line ≠ []) (sep : Text) (lines : List Text) :
    Text.join sep (line :: lines) ≠ [] := by
  cases lines with
  | nil => simpa [Text.join] using hline
  | cons b lines =>
    rw [Text.join, List.intercalate_cons_cons]
    simp [hline]

theorem renderHints_ne_nil (urls : List Text) : renderHints urls ≠ [] :=
  join_ne_nil (by rw [hintComment_eq]; exact List.cons_ne_nil _ _) _ _

theorem renderFallbacks_ne_nil (urls : List Text) : renderFallbacks urls ≠ [] :=
  join_ne_nil (by rw [fallbackComment_eq]; exact List.cons_ne_nil _ _) _ _

/-- The hints go in front of the end of the head and the script tags in
front of the end of the body. -/
theorem preloadFragment_cases {urls : List Text} {tag fragment : Text}
    (h : preloadFragment urls tag = some fragment) :
    (tag = headClose ∧ fragment = renderHints urls) ∨
      (tag = bodyClose ∧ fragment = renderFallbacks urls) := by
  unfold preloadFragment fragmentFor at h
  split at h
  · next hc =>
    simp only [Bool.and_eq_true, decide_eq_true_eq] at hc
    cases h
    exact .inl ⟨hc.1, rfl⟩
  · split at h
    · next hc =>
      simp only [Bool.and_eq_true, decide_eq_true_eq] at hc
      cases h
      exact .inr ⟨hc.1, rfl⟩
    · cases h

theorem preloadFragment_head (urls : List Text) :
    preloadFragment urls headClose = some (renderHints urls) := by
  simp [preloadFragment, fragmentFor, renderHints_ne_nil urls]

theorem preloadFragment_body (urls : List Text) :
    preloadFragment urls bodyClose = some (renderFallbacks urls) := by
  have hne : bodyClose ≠ headClose := by decide
  simp [preloadFragment, fragmentFor, renderFallbacks_ne_nil urls, hne]

theorem fragments_preload {urls : List Text} (h : ∀ url ∈ urls, LineUrl url) :
    Fragments (preloadFragment urls) where
  ne_nil tag fragment hf := by
    rcases preloadFragment_cases hf with ⟨-, rfl⟩ | ⟨-, rfl⟩
    · exact renderHints_ne_nil urls
    · exact renderFallbacks_ne_nil urls
  lines tag fragment hf := by
    rcases preloadFragment_cases hf with ⟨-, rfl⟩ | ⟨-, rfl⟩
    · rw [splitLines_renderHints h]
      exact standalone_hintLines h
    · rw [splitLines_renderFallbacks h]
      exact standalone_fallbackLines h

/-- Lines without apostrophes close no quote but a double one. -/
theorem undisturbed_preload {urls : List Text} (h : ∀ url ∈ urls, WritableUrl url) {code : Text}
    (hq : QuoteClosed '"' .text code) : Undisturbed (preloadFragment urls) .text code := by
  rintro q (rfl | rfl)
  · exact .inl hq
  · refine .inr fun tag fragment hf => ?_
    rcases preloadFragment_cases hf with ⟨-, rfl⟩ | ⟨-, rfl⟩
    · exact not_mem_join h fun line hline c hc => calm_or_mem_hintLines hline hc
    · exact not_mem_join h fun line hline c hc => calm_or_mem_fallbackLines hline hc

theorem signs_preload {urls : List Text} (h : ∀ url ∈ urls, LineUrl url) {code : Text}
    (hu : Undisturbed (preloadFragment urls) .text code) :
    signsFrom .text (inject code (renderHints urls) (renderFallbacks urls)) =
      (signsFrom .text code).flatMap fun sign =>
        marksBefore (preloadFragment urls) sign ++ [sign] :=
  signs_inject code (fragments_preload h) hu

/-! ## What a page names afterwards -/

/-- Whether a name is that of script tags. -/
def isScript (name : Text) : Bool :=
  name = scriptTag

theorem mem_moduleEntries {code : Text} {page root path : Path} :
    path ∈ moduleEntries code page root ↔ ∃ tag ∈ tagsOf isScript (signsFrom .text code),
      isModule tag.2 = true ∧ reference? tag.2 srcAttribute page root = some path := by
  rw [moduleEntries, Text.mem_sortUnique, tagsNamed_eq_tagsOf, List.mem_filterMap, signs_tokenize]
  refine exists_congr fun tag => and_congr_right fun _ => ?_
  dsimp only
  constructor
  · intro h
    split at h
    · next hm => exact ⟨hm, h⟩
    · cases h
  · rintro ⟨hm, h⟩
    rw [if_pos hm]
    exact h

theorem lower_scriptTag : Text.lower scriptTag = scriptTag := by decide +kernel

theorem lower_typeAttribute : Text.lower typeAttribute = typeAttribute := by decide +kernel

theorem lower_srcAttribute : Text.lower srcAttribute = srcAttribute := by decide +kernel

/-- The script tag for a module, as it is read. -/
def fallbackRead (url : Text) : Text × Attributes :=
  (scriptTag, readBack (fallbackAttributes url))

theorem nodup_fallbackNames (url : Text) :
    ((fallbackAttributes url).map fun a => Text.lower a.1).Nodup := by
  show [Text.lower typeAttribute, Text.lower srcAttribute].Nodup
  decide +kernel

theorem value_type_fallbackRead (url : Text) :
    (fallbackRead url).2.value? typeAttribute = some moduleType := by
  have hvalue := value?_readBack (nodup_fallbackNames url)
    (a := (typeAttribute, moduleType)) (.head _)
  rwa [lower_typeAttribute] at hvalue

/-- A script tag loads its URL. -/
theorem value_src_fallbackRead (url : Text) :
    (fallbackRead url).2.value? srcAttribute = some url := by
  have hvalue := value?_readBack (nodup_fallbackNames url) (a := (srcAttribute, url))
    (.tail _ (.head _))
  rwa [lower_srcAttribute] at hvalue

theorem tagsOf_fallbackTag (names : Text → Bool) {url : Text} (h : '"' ∉ url) :
    tagsOf names (signsFrom .text (fallbackTag url)) =
      if names scriptTag then [fallbackRead url] else [] := by
  have hsigns := (reads_fallbackTag h []).signsFrom_eq
  rw [List.append_nil, signsFrom_nil, List.append_nil] at hsigns
  rw [hsigns, fallbackSigns, tagsOf_tagSigns names scriptTag (nodup_fallbackNames url) rfl,
    lower_scriptTag, tagsOf_eq_nil (v := [⟨.tagClose, scriptClose⟩]) (by simp), List.append_nil]
  rfl

/-- Behind a comment, lines that are one tag for each URL have these tags. -/
theorem mem_tagsOf_lines (names : Text → Bool) {name comment : Text} {write : Text → Text}
    {read : Text → Text × Attributes} {urls : List Text}
    (hcomment : tagsOf names (signsFrom .text comment) = [])
    (hwrite : ∀ url ∈ urls, tagsOf names (signsFrom .text (write url)) =
      if names name then [read url] else [])
    (tag : Text × Attributes) :
    (∃ line ∈ comment :: urls.map write, tag ∈ tagsOf names (signsFrom .text line)) ↔
      names name = true ∧ ∃ url ∈ urls, tag = read url := by
  constructor
  · rintro ⟨line, hline, htag⟩
    rcases List.mem_cons.1 hline with rfl | hline
    · rw [hcomment] at htag
      cases htag
    · obtain ⟨url, hurl, rfl⟩ := List.mem_map.1 hline
      rw [hwrite url hurl] at htag
      split at htag
      · next hname => exact ⟨hname, url, hurl, List.mem_singleton.1 htag⟩
      · cases htag
  · rintro ⟨hname, url, hurl, rfl⟩
    refine ⟨write url, List.mem_cons_of_mem _ (List.mem_map_of_mem hurl), ?_⟩
    rw [hwrite url hurl, if_pos hname]
    exact List.mem_singleton.2 rfl

/-- The hints are links to the modules. -/
theorem mem_tagsOf_hintLines (names : Text → Bool) {urls : List Text}
    (h : ∀ url ∈ urls, LineUrl url) (tag : Text × Attributes) :
    (∃ line ∈ hintLines urls, tag ∈ tagsOf names (signsFrom .text line)) ↔
      names linkTag = true ∧ ∃ url ∈ urls, tag = linkRead hintRel url := by
  refine mem_tagsOf_lines names ?_ (fun url hurl => ?_) tag
  · rw [hintComment_eq]
    exact tagsOf_comment unended_hintBody names
  · rw [hintTag_eq]
    exact tagsOf_link names (by decide) (h url hurl).1

/-- The script tags name the modules. -/
theorem mem_tagsOf_fallbackLines (names : Text → Bool) {urls : List Text}
    (h : ∀ url ∈ urls, LineUrl url) (tag : Text × Attributes) :
    (∃ line ∈ fallbackLines urls, tag ∈ tagsOf names (signsFrom .text line)) ↔
      names scriptTag = true ∧ ∃ url ∈ urls, tag = fallbackRead url := by
  refine mem_tagsOf_lines names ?_ (fun url hurl => tagsOf_fallbackTag names (h url hurl).1) tag
  rw [fallbackComment_eq]
  exact tagsOf_comment unended_fallbackBody names

/-- What goes in front of a sign of the page: links in front of the end of the head, and scripts in
front of the end of the body. -/
theorem mem_tagsOf_marksBefore (names : Text → Bool) {urls : List Text}
    (h : ∀ url ∈ urls, LineUrl url) (sign : Sign) (tag : Text × Attributes) :
    tag ∈ tagsOf names (marksBefore (preloadFragment urls) sign) ↔
      (sign = ⟨.tagClose, headClose⟩ ∧ names linkTag = true ∧
        ∃ url ∈ urls, tag = linkRead hintRel url) ∨
          (sign = ⟨.tagClose, bodyClose⟩ ∧ names scriptTag = true ∧
          ∃ url ∈ urls, tag = fallbackRead url) := by
  cases hc : closing (preloadFragment urls) sign.kind sign.value with
  | none =>
    rw [marksBefore_of_none hc, tagsOf_eq_nil (by simp)]
    constructor
    · intro htag
      cases htag
    · rintro (⟨rfl, -⟩ | ⟨rfl, -⟩)
      · rw [closing_eq_some_iff.2 ⟨rfl, preloadFragment_head urls⟩] at hc
        cases hc
      · rw [closing_eq_some_iff.2 ⟨rfl, preloadFragment_body urls⟩] at hc
        cases hc
  | some fragment =>
    obtain ⟨hk, hf⟩ := closing_eq_some_iff.1 hc
    have hne : headClose ≠ bodyClose := by decide
    rw [marksBefore_of_some hc]
    -- a sign closes one tag only, so it takes just one of the two fragments in front of it
    rcases preloadFragment_cases hf with ⟨htag, rfl⟩ | ⟨htag, rfl⟩
    · have hsign : sign = ⟨.tagClose, headClose⟩ := by rw [← hk, ← htag]
      rw [splitLines_renderHints h, tagsOf_marks names (standalone_hintLines h), List.mem_flatMap,
        mem_tagsOf_hintLines names h, hsign]
      exact ⟨fun hin => .inl ⟨rfl, hin⟩, fun hin => hin.elim And.right fun ⟨heq, _⟩ =>
        absurd (congrArg Sign.value heq) hne⟩
    · have hsign : sign = ⟨.tagClose, bodyClose⟩ := by rw [← hk, ← htag]
      rw [splitLines_renderFallbacks h, tagsOf_marks names (standalone_fallbackLines h),
        List.mem_flatMap, mem_tagsOf_fallbackLines names h, hsign]
      exact ⟨fun hin => .inr ⟨rfl, hin⟩, fun hin => hin.elim (fun ⟨heq, _⟩ =>
        absurd (congrArg Sign.value heq) hne.symm) And.right⟩

/-- **A preloaded page has the tags that it had**, links to the modules if its head is closed, and
scripts for them if its body is closed. -/
theorem mem_tags_preloaded (names : Text → Bool) {urls : List Text} (h : ∀ url ∈ urls, LineUrl url)
    {code : Text} (hu : Undisturbed (preloadFragment urls) .text code) (tag : Text × Attributes) :
    tag ∈ tagsOf names (signsFrom .text (inject code (renderHints urls) (renderFallbacks urls))) ↔
      tag ∈ tagsOf names (signsFrom .text code) ∨
        (Closes headClose code ∧ names linkTag = true ∧ ∃ url ∈ urls, tag = linkRead hintRel url) ∨
          (Closes bodyClose code ∧ names scriptTag = true ∧
            ∃ url ∈ urls, tag = fallbackRead url) := by
  rw [signs_preload h hu, mem_tagsOf_spliced names (fragments_preload h), closes_iff, closes_iff]
  refine or_congr_right ?_
  constructor
  · rintro ⟨sign, hsign, htag⟩
    rcases (mem_tagsOf_marksBefore names h sign tag).1 htag with ⟨rfl, hurl⟩ | ⟨rfl, hurl⟩
    · exact .inl ⟨hsign, hurl⟩
    · exact .inr ⟨hsign, hurl⟩
  · rintro (⟨hsign, hurl⟩ | ⟨hsign, hurl⟩)
    · exact ⟨_, hsign, (mem_tagsOf_marksBefore names h _ tag).2 (.inl ⟨rfl, hurl⟩)⟩
    · exact ⟨_, hsign, (mem_tagsOf_marksBefore names h _ tag).2 (.inr ⟨rfl, hurl⟩)⟩

theorem ne_tagClose_of_mem_comment {body : Text} (h : Unended body) {s : Sign}
    (hs : s ∈ signsFrom .text (comment body)) : s.kind ≠ .tagClose := by
  rcases kind_of_mem_comment h hs with hk | hk | hk <;> rw [hk] <;> decide

/-- A script tag closes itself and nothing else. -/
theorem value_of_mem_fallbackTag {url : Text} (h : '"' ∉ url) {s : Sign}
    (hs : s ∈ signsFrom .text (fallbackTag url))
    (hk : s.kind = .tagClose) : s.value = scriptClose := by
  have hsigns := (reads_fallbackTag h []).signsFrom_eq
  rw [List.append_nil, signsFrom_nil, List.append_nil] at hsigns
  rw [hsigns] at hs
  rcases List.mem_append.1 hs with hs | hs
  · rcases List.mem_cons.1 hs with rfl | hs
    · cases hk
    · rcases kind_of_mem_attributeSigns hs with hk' | hk' | hk' <;> rw [hk] at hk' <;> cases hk'
  · simp only [List.mem_cons, List.not_mem_nil, or_false] at hs
    rcases hs with rfl | rfl
    · cases hk
    · rfl

/-- The only closing tags that go in are those of scripts. -/
theorem value_of_mem_marksBefore {urls : List Text} (h : ∀ url ∈ urls, LineUrl url) {sign s : Sign}
    (hs : s ∈ marksBefore (preloadFragment urls) sign)
    (hk : s.kind = .tagClose) : s.value = scriptClose := by
  unfold marksBefore at hs
  split at hs
  · next fragment hc =>
    -- the hints hold comments and void tags; only the fallbacks hold closing tags, and these are of
    -- scripts
    rcases preloadFragment_cases (closing_eq_some_iff.1 hc).2 with ⟨-, rfl⟩ | ⟨-, rfl⟩
    · rw [splitLines_renderHints h] at hs
      obtain ⟨line, hline, hs⟩ := List.mem_flatMap.1 hs
      rcases List.mem_cons.1 hline with heq | hline
      · rw [heq, hintComment_eq] at hs
        exact absurd hk (ne_tagClose_of_mem_comment unended_hintBody hs)
      · obtain ⟨url, hurl, rfl⟩ := List.mem_map.1 hline
        rw [hintTag_eq] at hs
        exact absurd hk (ne_tagClose_of_mem_link (by decide) (h url hurl).1 hs)
    · rw [splitLines_renderFallbacks h] at hs
      obtain ⟨line, hline, hs⟩ := List.mem_flatMap.1 hs
      rcases List.mem_cons.1 hline with heq | hline
      · rw [heq, fallbackComment_eq] at hs
        exact absurd hk (ne_tagClose_of_mem_comment unended_fallbackBody hs)
      · obtain ⟨url, hurl, rfl⟩ := List.mem_map.1 hline
        exact value_of_mem_fallbackTag (h url hurl).1 hs hk
  · cases hs

/-- **A preloaded page closes what it closed before.** -/
theorem closes_preloaded {urls : List Text} (h : ∀ url ∈ urls, LineUrl url) {code : Text}
    (hu : Undisturbed (preloadFragment urls) .text code) {tag : Text} (htag : tag ≠ scriptClose) :
    Closes tag (inject code (renderHints urls) (renderFallbacks urls)) ↔ Closes tag code := by
  rw [closes_iff, closes_iff, signs_preload h hu, List.mem_flatMap]
  constructor
  · rintro ⟨sign, hsign, hmem⟩
    rcases List.mem_append.1 hmem with hmem | hmem
    · exact absurd (value_of_mem_marksBefore h hmem rfl) htag
    · rw [List.mem_singleton.1 hmem]
      exact hsign
  · intro hsign
    exact ⟨_, hsign, List.mem_append_right _ (List.mem_singleton.2 rfl)⟩

/-- A page stays as it is just if it closes neither its head nor its body. -/
theorem inject_preload_eq_self_iff (urls : List Text) (code : Text) :
    inject code (renderHints urls) (renderFallbacks urls) = code ↔
      ¬ Closes headClose code ∧ ¬ Closes bodyClose code := by
  -- neither fragment is empty, so each closing tag of its name takes something in front of it
  have hclosing : ∀ tag fragment, preloadFragment urls tag = some fragment →
      closing (preloadFragment urls) .tagClose tag ≠ none := by
    intro tag fragment hf
    rw [closing_eq_some_iff.2 ⟨rfl, hf⟩]
    exact Option.some_ne_none fragment
  rw [inject_eq_self_iff, closes_iff, closes_iff]
  constructor
  · intro hnone
    exact ⟨fun hhead => hclosing _ _ (preloadFragment_head urls) (hnone _ hhead),
      fun hbody => hclosing _ _ (preloadFragment_body urls) (hnone _ hbody)⟩
  · rintro ⟨hhead, hbody⟩ sign hsign
    cases hc : closing (fragmentFor (renderHints urls) (renderFallbacks urls))
        sign.kind sign.value with
    | none => rfl
    | some fragment =>
      obtain ⟨hk, hf⟩ := closing_eq_some_iff.1 hc
      rcases preloadFragment_cases hf with ⟨htag, -⟩ | ⟨htag, -⟩
      · rw [← hk, ← htag] at hhead
        exact absurd hsign hhead
      · rw [← hk, ← htag] at hbody
        exact absurd hsign hbody

end Page
end SiteOptimizer
