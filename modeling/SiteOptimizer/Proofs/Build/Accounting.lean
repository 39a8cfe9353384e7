import SiteOptimizer.Proofs.Build.DanglingLinks

/-!
# What the document of a run accounts for

The document of a run leaves a module out of the scripts of its page if it is named like a plain
proxy, and names the combined stylesheet instead if one was generated. Neither asks for the
stylesheet behind the proxy. So the document accounts for all modules of a page but the proxies
whose stylesheets are not combined (`accounted_iff`).
-/

namespace SiteOptimizer

/-! ## Objects with different names -/

namespace Json

variable {fields : List (Text × Json)} {name : Text} {value : Json}

theorem putField_of_not_mem (h : name ∉ fields.map (·.1)) :
    putField fields name value = fields ++ [(name, value)] := by
  induction fields with
  | nil => rfl
  | cons field fields ih =>
    obtain ⟨hfield, hfields⟩ := not_or.1 (mt List.mem_cons.2 h)
    rw [putField, if_neg (Ne.symm hfield), ih hfields, List.cons_append]

theorem ofFields_of_nodup (h : (fields.map (·.1)).Nodup) : ofFields fields = .object fields := by
  -- the fields that have been put are part of the invariant: none of them
  -- has the name of one to come
  have hfold : ∀ found : List (Text × Json), ((found ++ fields).map (·.1)).Nodup →
      fields.foldl (fun found field => putField found field.1 field.2) found = found ++ fields := by
    clear h
    induction fields with
    | nil => exact fun found _ => (List.append_nil found).symm
    | cons field fields ih =>
      intro found h
      have hnew : field.1 ∉ found.map (·.1) := by
        rw [List.map_append, List.map_cons] at h
        exact fun hin => List.disjoint_of_nodup_append h hin List.mem_cons_self
      rw [List.foldl_cons, putField_of_not_mem hnew, ih _ (by simpa using h), List.append_assoc,
        List.singleton_append]
  exact congrArg Json.object (hfold [] h)

/-- **A field with a name of its own is found.** -/
theorem field?_ofFields (h : (fields.map (·.1)).Nodup) (hmem : (name, value) ∈ fields) :
    (ofFields fields).field? name = some value := by
  rw [ofFields_of_nodup h]
  obtain ⟨front, back, rfl⟩ := List.append_of_mem hmem
  refine List.lookup_eq_some_iff.2 ⟨front, back, rfl, fun field hfield => ?_⟩
  rw [List.map_append, List.map_cons] at h
  rw [bne_iff_ne]
  rintro rfl
  exact List.disjoint_of_nodup_append h (List.mem_map_of_mem hfield) List.mem_cons_self

end Json

namespace Build

open SiteOptimizer.Module SiteOptimizer.Path FileSystem Work

/-! ## The document of a manifest -/

section Document

variable {root : Path} {preloadCss : Bool} {combinedUrl : Option Text}

/-- One of these URLs is that of the file. -/
def Lists (root : Path) (urls : List Text) (path : Path) : Prop :=
  ∃ url ∈ urls, Page.urlOf root path = .ok url

/-- What the entry of a page says of its dependencies. -/
structure PageUrls.Covers (root : Path) (preloadCss : Bool) (combinedUrl : Option Text)
    (found : Page.Dependencies) (urls : PageUrls) : Prop where
  css : ∀ path ∈ found.css, Lists root urls.css path
  js : ∀ path ∈ found.js, isCombined preloadCss path = false → Lists root urls.js path
  of_js : ∀ url ∈ urls.js, ∃ path ∈ found.js, isCombined preloadCss path = false ∧
    Page.urlOf root path = .ok url
  combined : ∀ path ∈ found.js, isCombined preloadCss path = true →
    ∀ url ∈ combinedUrl, url ≠ [] → url ∈ urls.css

theorem PageUrls.covers_of_ofDependencies {found : Page.Dependencies} {urls : PageUrls}
    (h : PageUrls.ofDependencies root preloadCss combinedUrl found = .ok urls) :
    urls.Covers root preloadCss combinedUrl found := by
  obtain ⟨css, hcss, h⟩ := ok_of_bind h
  obtain ⟨js, hjs, h⟩ := ok_of_bind h
  cases h
  refine ⟨fun path hpath => ?_, fun path hpath hplain => ?_, fun url hurl => ?_,
    fun path hpath hc url hurl hne => ?_⟩
  · obtain ⟨url, hurl, heq⟩ := exists_of_forall₂ (mapM_eq_ok_iff.1 hcss) hpath
    exact ⟨url, Text.mem_sortUnique.2 (List.mem_append_left _ hurl), heq⟩
  · have hkept : path ∈ found.js.filter fun path => !isCombined preloadCss path :=
      List.mem_filter.2 ⟨hpath, by rw [hplain]; rfl⟩
    obtain ⟨url, hurl, heq⟩ := exists_of_forall₂ (mapM_eq_ok_iff.1 hjs) hkept
    exact ⟨url, Text.mem_sortUnique.2 hurl, heq⟩
  · obtain ⟨path, hpath, heq⟩ :=
      exists_of_forall₂ (mapM_eq_ok_iff.1 hjs).flip (Text.mem_sortUnique.1 hurl)
    obtain ⟨hpath, hplain⟩ := List.mem_filter.1 hpath
    exact ⟨path, hpath, by simpa using hplain, heq⟩
  · rw [Text.mem_sortUnique, if_pos (List.any_eq_true.2 ⟨path, hpath, hc⟩)]
    refine List.mem_append_right _ (List.mem_filter.2 ⟨Option.mem_toList.2 hurl, ?_⟩)
    exact decide_eq_true hne

/-- **The document has one entry for each page**, in the order of the pages. -/
theorem forall₂_of_ofManifest {manifest : Page.Manifest} {generated : List Path}
    {document : ManifestDocument}
    (h : ManifestDocument.ofManifest manifest root generated preloadCss
      combinedUrl = .ok document) :
    List.Forall₂ (fun entry page => Page.urlOf root entry.1 = .ok page.1 ∧
      page.2.Covers root preloadCss combinedUrl entry.2) manifest.sorted document.pages := by
  obtain ⟨pages, hpages, h⟩ := ok_of_bind h
  obtain ⟨urls, -, h⟩ := ok_of_bind h
  cases h
  refine (mapM_eq_ok_iff.1 hpages).imp fun entry page hpage => ?_
  obtain ⟨found, hfound, hpage⟩ := ok_of_bind hpage
  obtain ⟨url, hurl, hpage⟩ := ok_of_bind hpage
  cases hpage
  exact ⟨hurl, PageUrls.covers_of_ofDependencies hfound⟩

/-- The entry of a page in a document: what its field among the imports says. -/
def EntryOf (root : Path) (document : Json) (page : Path) (urls : PageUrls) : Prop :=
  ∃ url imports, Page.urlOf root page = .ok url ∧ document.field? "imports".toList = some imports ∧
    imports.field? url = some urls.toJson

theorem entryOf_of_mem {document : ManifestDocument} (hnodup : (document.pages.map (·.1)).Nodup)
    {page : Path} {url : Text} {urls : PageUrls} (hurl : Page.urlOf root page = .ok url)
    (hmem : (url, urls) ∈ document.pages) : EntryOf root document.toJson page urls := by
  refine ⟨url, _, hurl, rfl, Json.field?_ofFields ?_ ?_⟩
  · rw [List.map_map]
    exact hnodup
  · exact List.mem_map.2 ⟨(url, urls), hmem, rfl⟩

end Document

/-- **No two files of a run have the same URL.** -/
theorem urlOf_injective {mark : Text} {root p q : Path} (hp : Canonical mark p)
    (hq : Canonical mark q) (hmark : IsMark mark)
    (h : Page.urlOf root p = Page.urlOf root q) : p = q := by
  rw [Page.urlOf, Page.urlOf, Reference.projectUrl?_eq (hp.ne_nil hmark),
    Reference.projectUrl?_eq (hq.ne_nil hmark)] at h
  exact hp.eq_of_relativeTo hq hmark (List.cons.inj (Except.ok.inj h)).2

/-! ## What a run writes down -/

section Run

variable {plan : Plan} {files : FileSystem} {report : Report} {listed : List Path} {memory : Memory}
  {done written : Session}

theorem Reported.nodup_urls (h : Reported plan files report listed memory done written)
    (hwf : files.WellFormed) :
    (report.manifest.map fun entry => Page.urlOf (Path.absolute plan.directory) entry.1).Nodup := by
  obtain ⟨mark, hmark, -, hcanonical⟩ := h.canonical hwf
  have hnodup := nodup_of_workedOf h.worked_eq
  refine (List.Nodup.of_map _ hnodup).map_on fun entry he entry' he' heq => ?_
  exact List.inj_on_of_nodup_map hnodup he he'
    (urlOf_injective (hcanonical entry he).1 (hcanonical entry' he').1 hmark heq)

/-- Pages that have different URLs have different entries. -/
theorem nodup_entries {root : Path} {manifest : Page.Manifest} {pages : List (Text × PageUrls)}
    (hnodup : (manifest.map fun entry => Page.urlOf root entry.1).Nodup)
    (h : List.Forall₂ (fun entry page => Page.urlOf root entry.1 = .ok page.1)
      manifest.sorted pages) :
    (pages.map (·.1)).Nodup := by
  have hurls : manifest.sorted.map (fun entry => Page.urlOf root entry.1) =
      pages.map fun page => .ok page.1 := by
    rw [← List.forall₂_eq_eq_eq, List.forall₂_map_left_iff, List.forall₂_map_right_iff]
    exact h
  have hsorted : (manifest.sorted.map fun entry => Page.urlOf root entry.1).Nodup :=
    ((List.mergeSort_perm manifest _).map _).nodup_iff.2 hnodup
  rw [hurls] at hsorted
  refine List.Nodup.of_map (Except.ok : Text → Except Fault Text) ?_
  rw [List.map_map]
  exact hsorted

/-- A module is among the scripts of its page, or it is a plain proxy whose stylesheet is one of
those that are combined, and the combined stylesheet is among the stylesheets of the page. -/
inductive Accounted (plan : Plan) (report : Report) (sheets : List Path) (urls : PageUrls)
    (path : Path) : Prop
  | listed (h : Lists (Path.absolute plan.directory) urls.js path)
  | combined {source : Path} (hsource : Script.styleSource? path = some source) (hsheet : source ∈
      sheets) (hgenerated : report.generated ≠ []) (hurl : plan.settings.combinedCssName ∈ urls.css)

/-- A stylesheet behind a module of a page is combined if it is there. -/
theorem Reported.mem_sheets_iff (h : Reported plan files report listed memory done written)
    {entry : Path × Page.Dependencies} (hentry : entry ∈ report.manifest) {path source : Path}
    (hpath : path ∈ entry.2.js) (hs : Script.styleSource? path = some source) :
    source ∈ sheets done.files report.manifest ↔ files.isFile source = true := by
  rw [sheets_alike h.worked.alike, sheets, List.mem_filter]
  exact and_iff_right (mem_combinedSources.2 ⟨entry, hentry, path, hpath, hs⟩)

/-- **An entry accounts for the modules that need no stylesheet**, and for those
whose stylesheet is combined. -/
theorem Reported.accounted_of_covers (h : Reported plan files report listed memory done written)
    (hwf : files.WellFormed) {entry : Path × Page.Dependencies} (hentry : entry ∈ report.manifest)
    {urls : PageUrls}
    (hcovers : urls.Covers (Path.absolute plan.directory) plan.settings.preloadCss
      (if report.generated = [] then none else some plan.settings.combinedCssName) entry.2)
    {path : Path} (hpath : path ∈ entry.2.js) :
    Accounted plan report (sheets done.files report.manifest) urls path ↔
      (plan.settings.preloadCss = true → ∀ source, Script.styleSource? path = some source →
        files.isFile source = true ∧ report.generated ≠ []) := by
  obtain ⟨mark, hmark, hroot, hcanonical⟩ := h.canonical hwf
  have hmodules := (hcanonical entry hentry).2
  constructor
  · rintro (⟨url, hurl, heq⟩ | ⟨hs, hsheet, hgenerated, -⟩) hcss source hs'
    · -- the URL in the list could only be that of a module that is no proxy
      obtain ⟨path', hpath', hplain, heq'⟩ := hcovers.of_js url hurl
      obtain rfl := urlOf_injective (hmodules path hpath) (hmodules path' hpath')
        hmark (heq.trans heq'.symm)
      rw [isCombined, hcss, hs'] at hplain
      cases hplain
    · obtain rfl := Option.some.inj (hs.symm.trans hs')
      exact ⟨(h.mem_sheets_iff hentry hpath hs).1 hsheet, hgenerated⟩
  · intro hshipped
    cases hplain : isCombined plan.settings.preloadCss path with
    | false => exact .listed (hcovers.js path hpath hplain)
    -- a proxy is accounted for by its sheet, for which there must be a stylesheet with a name
    | true =>
      obtain ⟨hcss, hproxy⟩ := Bool.and_eq_true_iff.1 hplain
      obtain ⟨source, hs⟩ := Option.isSome_iff_exists.1 hproxy
      obtain ⟨hfile, hgenerated⟩ := hshipped hcss source hs
      have hname : plan.settings.combinedCssName ≠ [] := by
        rcases of_generate h.generate_eq with ⟨hnil, -⟩ | ⟨code, s, -, -, -, -, -, hsheet⟩
        · exact absurd hnil hgenerated
        · exact combinedCssName_ne_nil (hroot.ne_nil hmark) hsheet
      refine .combined hs ((h.mem_sheets_iff hentry hpath hs).2 hfile) hgenerated
        (hcovers.combined path hpath hplain _ ?_ hname)
      rw [if_neg hgenerated]
      rfl

/-- **The document of a run accounts for each module of a page** but the plain proxies that
are left out though they are not combined: those whose stylesheets are not there, and all of
them if no stylesheet was generated. It has an entry of its own for each page, with all
stylesheets that the page names. -/
theorem accounted_iff (hwf : files.WellFormed) (hsource : plan.source = Source.scripts)
    (hrun : (optimize plan files).result = .ok report) :
    ∃ done document, workedOf plan files = .ok (report.manifest, report.failures) done ∧
      documentOf (Path.absolute plan.directory) plan.settings report = .ok document ∧
      (optimize plan files).session.files.readText
        (documentPath (Path.absolute plan.directory) plan.settings.metaDir) =
          .ok document.toJson.render ∧
      (report.manifest.map fun entry => Page.urlOf (Path.absolute plan.directory) entry.1).Nodup ∧
      ∀ entry ∈ report.manifest, ∃ urls,
        EntryOf (Path.absolute plan.directory) document.toJson entry.1 urls ∧
        (∀ path ∈ entry.2.css, Lists (Path.absolute plan.directory) urls.css path) ∧
        ∀ path ∈ entry.2.js, Accounted plan report (sheets done.files report.manifest) urls path ↔
          (plan.settings.preloadCss = true → ∀ source, Script.styleSource? path = some source →
            files.isFile source = true ∧ report.generated ≠ []) := by
  obtain ⟨listed, memory, done, written, hreported⟩ := exists_reported hwf hsource hrun
  obtain ⟨-, document, last, hdocument, hlast, hfinal⟩ := of_finish hreported.finish_eq
  have hnodup := hreported.nodup_urls hwf
  have hpages := forall₂_of_ofManifest hdocument
  have hurls := hpages.imp fun _ _ hpage => hpage.1
  refine ⟨done, document, hreported.worked_eq, hdocument, hfinal ▸ readText_of_writeBelow hlast,
    hnodup, fun entry hentry => ?_⟩
  have hsorted : entry ∈ report.manifest.sorted := (List.mergeSort_perm _ _).mem_iff.2 hentry
  obtain ⟨⟨url, urls⟩, hmem, hurl, hcovers⟩ := exists_of_forall₂ hpages hsorted
  exact ⟨urls, entryOf_of_mem (nodup_entries hnodup hurls) hurl hmem, hcovers.css, fun path hpath =>
    hreported.accounted_of_covers hwf hentry hcovers hpath⟩

end Run

/-- The document of the site does not account for the proxy, which is a module of the page. -/
theorem not_accounted_danglingSite : headlessProxy ∈ headlessFound.js ∧ ∃ done document urls,
    workedOf linkingPlan danglingSite = .ok (danglingReport.manifest, []) done ∧
      documentOf headlessRoot linkingPlan.settings danglingReport = .ok document ∧
      EntryOf headlessRoot document.toJson headlessIndex urls ∧
      ¬ Accounted linkingPlan danglingReport (sheets done.files danglingReport.manifest)
        urls headlessProxy := by
  have hwf : danglingSite.WellFormed := by decide +kernel
  have hmem : headlessProxy ∈ headlessFound.js := by decide +kernel
  have hproxy : Script.styleSource? headlessProxy = some "/site/a.css".toList := by decide +kernel
  obtain ⟨done, document, hworked, hdocument, -, -, hentries⟩ :=
    accounted_iff hwf rfl optimize_dangling
  obtain ⟨urls, hentry, -, haccounted⟩ := hentries (headlessIndex, headlessFound) List.mem_cons_self
  refine ⟨hmem, done, document, urls, hworked, hdocument, hentry, fun h => ?_⟩
  exact ((haccounted _ hmem).1 h rfl _ hproxy).2 rfl

end Build
end SiteOptimizer
