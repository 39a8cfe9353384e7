import SiteOptimizer.Proofs.Build.Report
import SiteOptimizer.Proofs.Script.StyleProxy

/-!
# Which pages link the combined stylesheet

A script that loses the import of a stylesheet leaves it to its pages to link the combined one.
Whether a page does so is up to the page's own task, which may fail, and to its markup, which may
have no place for the link (`links_final_iff`).
-/

namespace SiteOptimizer
namespace Build

open Markup SiteOptimizer.Module Work Page

/-! ## What happens to the links of a page -/

section Optimize

variable {job : Job} {source : Source} {page : Path} {code text : Text} {s s' : Session}
    {paths : List Path}

theorem styleLink_eq (job : Job) : job.styleLink = link styleRel job.settings.combinedCssName := by
  have hbefore : "<link rel=\"stylesheet\" href=\"".toList =
      '<' :: linkTag ++ written [(relAttribute, styleRel)] ++ ' ' ::
        hrefAttribute ++ ['=', '"'] := by
    exact String.toList_ofList
  have hbehind : "\" />".toList = ['"', ' ', '/', '>'] := String.toList_ofList
  rw [link_eq]
  exact congrArg₂ (fun before behind : Text => before ++ job.settings.combinedCssName ++ behind)
    hbefore hbehind

/-- What is done to a page besides linking the stylesheet neither adds nor removes a link to it:
minified pages keep their links, the modules that a page names by its text are those that its scan
has found, and none of their URLs is that of the stylesheet. -/
structure KeepsLinks (job : Job) (page : Path) (paths : List Path) (code : Text) : Prop where
  minify : job.settings.minifyHtml = true → ∀ before after, job.minify.html before = .ok after →
    (Links job.settings.combinedCssName after ↔ Links job.settings.combinedCssName before)
  named : job.settings.preloadModules = true →
    ∀ path ∈ moduleEntries code page job.root, path ∈ paths
  writable : job.settings.preloadModules = true →
    ∀ path ∈ paths, WritableUrl ('/' :: Path.relativeTo job.root path)
  other : job.settings.preloadModules = true → ∀ path ∈ paths,
    job.settings.combinedCssName ≠ '/' :: Path.relativeTo job.root path

/-- Preloading modules that are remembered changes no link but those to the modules. -/
theorem links_preloadPage (h : job.preloadPage source.recallModules page code s = .ok text s')
    (hclosed : s.memory.Closed paths) (hkeep : KeepsLinks job page paths code)
    (hq : QuoteClosed '"' .text code) :
    Links job.settings.combinedCssName text ↔ Links job.settings.combinedCssName code := by
  unfold Job.preloadPage at h
  split at h
  · next hpreload =>
    rcases recallModules_closed hclosed (hkeep.named hpreload) with ⟨found, hfound, hsub⟩ | hfault
    · by_cases hnil : [] ∈ preloadModules (moduleEntries code page job.root) found
        job.settings.preloadCss
      · rw [preload_of_nil_mem hfound hnil] at h
        cases h
      · rw [preload_of_ok hfound hnil] at h
        cases h
        have hmem :
          ∀ path ∈ preloadModules (moduleEntries code page job.root) found job.settings.preloadCss,
            path ∈ paths := fun path hpath => hsub path (List.mem_filter.1 hpath).1
        rw [links_preloaded_iff (fun path hpath => hkeep.writable hpreload path
          (hmem path hpath)) hq]
        -- the lines for modules link only modules, none of which is the stylesheet
        refine or_iff_left ?_
        rintro ⟨-, path, hpath, hurl⟩
        exact hkeep.other hpreload path (hmem path hpath) hurl
    · rw [preload_of_error hfault] at h
      cases h
  · cases h
    exact Iff.rfl

/-- **A page that has been optimized has the link just if it needs it and its head is
closed**, or if it had it before. -/
theorem links_optimize_html (h : job.optimize source.recallModules .html page code s = .ok text s')
    (hcss : job.settings.preloadCss = true) (hname : WritableUrl job.settings.combinedCssName)
    (hclosed : s.memory.Closed paths) (hkeep : KeepsLinks job page paths code)
    (hq : QuoteClosed '"' .text code) :
    Links job.settings.combinedCssName text ↔ Links job.settings.combinedCssName code ∨
      (Closes headClose code ∧ job.importsStyles page = true) := by
  rw [Job.optimize_html] at h
  obtain ⟨preloaded, s'', hpreload, hminify⟩ := of_bind_ok h
  have hminified : job.minifyPage preloaded = .ok text := (of_give_ok hminify).1
  have hlast : Links job.settings.combinedCssName text ↔
      Links job.settings.combinedCssName preloaded := by
    unfold Job.minifyPage at hminified
    split at hminified
    · next hhtml => exact hkeep.minify hhtml _ _ hminified
    · cases hminified
      exact Iff.rfl
  rw [hlast]
  unfold Job.linkStyles at hpreload
  rw [hcss, Bool.true_and, styleLink_eq] at hpreload
  cases himports : job.importsStyles page with
  | false =>
    rw [himports] at hpreload
    rw [links_preloadPage hpreload hclosed hkeep hq]
    simp
  | true =>
    rw [himports, if_pos rfl] at hpreload
    -- the link that goes in first is no script, so the page names the same modules with it
    have hkeep' : KeepsLinks job page paths
        (inject code (link styleRel job.settings.combinedCssName) []) :=
      { hkeep with
        named := fun hp path hpath => hkeep.named hp path
          ((mem_moduleEntries_inject_link hname hq).1 hpath) }
    rw [links_preloadPage hpreload hclosed hkeep' (quoteClosed_inject_link hname hq),
      links_inject_iff hname hq]
    simp

end Optimize

/-! ## Which pages need the link -/

theorem lowerChar_of_isPage {front : Text} {c : Char} (h : isPage (front ++ [c]) = true) :
    Text.lowerChar c = 'l' := by
  obtain ⟨back, hback⟩ := List.isSuffixOf_iff_suffix.1 h
  refine (Text.eq_lowerChar_of_getLast? (s := front) ?_ (by decide)).symm
  rw [← hback, List.getLast?_append]
  rfl

/-- Pages are no proxies. -/
theorem isStyleProxy_of_isPage {path : Path} (h : isPage path = true) :
    Script.isStyleProxy path = false := by
  rw [Bool.eq_false_iff]
  intro hproxy
  obtain ⟨front, hfront⟩ := List.isSuffixOf_iff_suffix.1 hproxy
  have hlast : path = (front ++ ".css.proxy.j".toList) ++ ['s'] := by
    rw [← hfront, List.append_assoc]
    rfl
  rw [hlast] at h
  exact absurd (lowerChar_of_isPage h) (by decide +kernel)

/-- A page that is optimized is optimized as a page. -/
theorem ofPath?_of_isPage {path : Path} (h : isPage path = true) {kind : FileKind}
    (hkind : FileKind.ofPath? path = some kind) : kind = .html := by
  -- the suffix of a page ends with an l, that of a stylesheet or script with an s
  have hother : ∀ front : Text, Text.lower (Path.suffix path) ≠ front ++ ['s'] := by
    intro front hlower
    obtain ⟨back, hback⟩ := Path.suffix_isSuffix path
    rcases List.eq_nil_or_concat (Path.suffix path) with hnil | ⟨stem, c, hsuffix⟩
    · rw [hnil] at hlower
      cases front <;> cases hlower
    · rw [List.concat_eq_append] at hsuffix
      have hs : 's' = Text.lowerChar c := by
        refine Text.eq_lowerChar_of_getLast? (s := stem) ?_ (by decide)
        rw [← hsuffix, hlower, List.getLast?_append]
        rfl
      rw [← hback, hsuffix, ← List.append_assoc] at h
      rw [lowerChar_of_isPage h] at hs
      exact absurd hs (by decide)
  unfold FileKind.ofPath? at hkind
  dsimp only at hkind
  split at hkind
  · next hcss => exact absurd hcss (hother ".cs".toList)
  · split at hkind
    · next hjs =>
      rw [Bool.or_eq_true, decide_eq_true_eq, decide_eq_true_eq] at hjs
      exact hjs.elim (fun h => absurd h (hother ".j".toList)) fun h =>
        absurd h (hother ".mj".toList)
    · split at hkind
      · cases hkind; rfl
      · cases hkind

theorem mem_of_find? {manifest : Manifest} {page : Path} {found : Dependencies}
    (h : manifest.find? page = some found) : (page, found) ∈ manifest := by
  obtain ⟨front, back, rfl, -⟩ := List.lookup_eq_some_iff.1 h
  exact List.mem_append_right _ List.mem_cons_self

theorem importsStyles_iff {job : Job} {page : Path} {found : Dependencies}
    (h : job.manifest.find? page = some found) :
    job.importsStyles page = true ↔ ∃ path ∈ found.js,
    (Script.styleSource? path).isSome = true := by
  rw [Job.importsStyles, h, Option.any_some, List.any_eq_true]

/-- The scan of a script follows the imports with this specifier. -/
def Follows (files : FileSystem) (script : Path) (specifier : Text) : Prop :=
  ∃ document, files.readDocument script = .ok document ∧ specifier ∈ Script.specifiers document ∧
    Reference.isRemote specifier = false ∧ Reference.isLocal specifier = true

theorem Follows.mem_imports {files : FileSystem} {script root target : Path} {specifier : Text}
    (h : Follows files script specifier)
    (ht : Reference.resolve? specifier script root = some target) :
    ∃ targets, (Source.scripts root).importsIn files script = .ok targets ∧ target ∈ targets := by
  obtain ⟨document, hread, hspecifier, hremote, hlocal⟩ := h
  have hfile : files.isFile script = true := by
    cases htext : files.readText script with
    | error fault => rw [FileSystem.readDocument, htext] at hread; cases hread
    | ok text =>
      obtain ⟨place, bytes, hl, hdir, hbytes⟩ := FileSystem.of_readText htext
      rw [FileSystem.isFile, hl]
      dsimp only
      rw [hdir, hbytes]
      rfl
  refine ⟨(Extraction.ofCode document script root).imports, ?_,
    mem_ofCode.2 ⟨specifier, hspecifier, hremote, hlocal, ht⟩⟩
  show (extract files script root).map (·.imports) = _
  rw [extract, if_pos hfile, hread]
  rfl

section Loss

variable {plan : Plan} {files : FileSystem} {report : Report} {script page : Path}
    {specifier : Text} {found : Dependencies}

/-- A script that the run has optimized and that has lost an import with this specifier. -/
structure LosesImport (plan : Plan) (files : FileSystem) (report : Report) (script : Path)
    (specifier : Text) :
    Prop where
  mem_files : script ∈ report.files
  not_failed : ∀ f ∈ report.failures, f.path ≠ script
  kind : FileKind.ofPath? script = some .js
  dropped : ∃ code, files.readText script = .ok code ∧
    ∃ lost ∈ Script.dropped ((plan.job files report).linked script) code, lost.specifier = specifier

/-- **A lost import is missing from the script.** -/
theorem LosesImport.readText (h : LosesImport plan files report script specifier)
    (hwf : files.WellFormed) (hsource : plan.source = Source.scripts)
    (hcss : plan.settings.preloadCss = true) (hrun : (optimize plan files).result = .ok report)
    (hover : ¬ Overwrites plan (optimize plan files).session.files script) :
    ∃ code rest text, files.readText script = .ok code ∧
      rest = Script.dropStyleImports ((plan.job files report).linked script) code ∧ rest ≠ code ∧
      (if plan.settings.minifyJs then plan.supply.backend.js rest else .ok rest) = .ok text ∧
      (optimize plan files).session.files.readText script = .ok text := by
  obtain ⟨listed, memory, done, written, hreported⟩ := exists_reported hwf hsource hrun
  obtain ⟨code, hread, lost, hlost, -⟩ := h.dropped
  have hrest : Script.dropStyleImports ((plan.job files report).linked script) code ≠ code := by
    rw [Ne, Script.dropStyleImports_eq_self_iff]
    exact List.ne_nil_of_mem hlost
  -- the task on the script was not idle, since scripts are rewritten where stylesheets are combined
  have hkind : (FileKind.ofPath? script).filter (plan.job files report).concerns = some .js := by
    rw [h.kind, Option.filter_some, if_pos]
    show (plan.settings.preloadCss || plan.settings.minifyJs) = true
    rw [hcss, Bool.true_or]
  obtain ⟨text, htext, hended⟩ := hreported.ended h.mem_files hread hover
  cases hended with
  | failed hfailed =>
    obtain ⟨f, hf, hpath⟩ := hfailed
    exact absurd hpath (h.not_failed f hf)
  | unconcerned _ hnone => rw [hkind] at hnone; cases hnone
  | optimized _ hsome _ _ hoptimize =>
    rw [hkind] at hsome
    cases hsome
    rw [Job.optimize_js] at hoptimize
    have hscript : (plan.job files report).optimizeScript script code = .ok text :=
      (of_give_ok hoptimize).1
    have hdropped : (plan.job files report).settings.preloadCss = true := hcss
    unfold Job.optimizeScript at hscript
    rw [hdropped, if_pos rfl] at hscript
    exact ⟨code, _, text, hread, rfl, hrest, hscript, htext⟩

/-- **A page needs the link if one of its scripts loses an import that the scan follows.** -/
theorem LosesImport.exists_styleSource (h : LosesImport plan files report script specifier)
    (hfollows : Follows files script specifier) {document : Text}
    (hpage : Describes (Path.absolute plan.directory) files page document found)
    (hscript : script ∈ found.js) :
    ∃ path ∈ found.js, (Script.styleSource? path).isSome = true := by
  obtain ⟨code, -, lost, hlost, rfl⟩ := h.dropped
  obtain ⟨target, source, ht, hs, -⟩ := Script.drops_listed (Script.drops_of_mem_dropped hlost)
  obtain ⟨targets, hi, hmem⟩ := hfollows.mem_imports ht
  exact ⟨target, (hpage.mem_js target).2
    (.step ((hpage.mem_js script).1 hscript) hi hmem), by rw [hs]; rfl⟩

/-- **When a page links the combined stylesheet at the end of a run.** A script of the page has
lost the import of a stylesheet, and unless something else is written over it, it ends up without
the import. So the page should link the combined stylesheet. It does if it did so before. Otherwise
it does just if its head is closed, its own task has come through, and a plain proxy is among the
modules that its scan has found; there is one if the scan follows the lost import. -/
theorem links_final_iff (hwf : files.WellFormed) (hsource : plan.source = Source.scripts)
    (hcss : plan.settings.preloadCss = true) (hrun : (optimize plan files).result = .ok report)
    (hfound : report.manifest.find? page = some found) (hscript : script ∈ found.js)
    (hloses : LosesImport plan files report script specifier) {code : Text}
    (hread : files.readText page = .ok code) (hquote : QuoteClosed '"' .text code)
    (hname : WritableUrl plan.settings.combinedCssName)
    (hkeep : KeepsLinks (plan.job files report) page found.js code)
    (hover : ¬ Overwrites plan (optimize plan files).session.files page) :
    (¬ Overwrites plan (optimize plan files).session.files script → ∃ before rest after,
      files.readText script = .ok before ∧
      rest = Script.dropStyleImports ((plan.job files report).linked script) before ∧
      rest ≠ before ∧
      (if plan.settings.minifyJs then plan.supply.backend.js rest else .ok rest) = .ok after ∧
      (optimize plan files).session.files.readText script = .ok after) ∧
    (Follows files script specifier → ∃ path ∈ found.js, (Script.styleSource? path).isSome = true) ∧
    ∃ final, (optimize plan files).session.files.readText page = .ok final ∧
      (Links plan.settings.combinedCssName final ↔ Links plan.settings.combinedCssName code ∨
        (Closes headClose code ∧ FileKind.ofPath? page = some .html ∧
          (∀ f ∈ report.failures, f.path ≠ page) ∧
          ∃ path ∈ found.js, (Script.styleSource? path).isSome = true)) := by
  obtain ⟨listed, memory, done, written, hreported⟩ := exists_reported hwf hsource hrun
  have hentry : (page, found) ∈ report.manifest := mem_of_find? hfound
  obtain ⟨document, hdescribes⟩ := hreported.worked.describes (page, found) hentry
  refine ⟨fun hkept => hloses.readText hwf hsource hcss hrun hkept,
    fun hfollows => hloses.exists_styleSource hfollows hdescribes hscript, ?_⟩
  obtain ⟨hlisted, hispage⟩ := List.mem_filter.1 (hreported.worked.mem_pages (page, found) hentry)
  have hpage : page ∈ report.files := by
    rw [hreported.files_eq]
    refine List.mem_filter.2 ⟨hlisted, ?_⟩
    rw [isStyleProxy_of_isPage hispage, Bool.and_false]
    rfl
  obtain ⟨final, hfinal, hended⟩ := hreported.ended hpage hread hover
  refine ⟨final, hfinal, ?_⟩
  -- where stylesheets are combined, no page is left alone
  have hhtml : (plan.job files report).concerns .html = true := by
    show (plan.settings.preloadCss || plan.settings.preloadModules ||
      plan.settings.minifyHtml) = true
    rw [hcss, Bool.true_or, Bool.true_or]
  cases hended with
  | failed hfailed =>
    obtain ⟨f, hf, hpath⟩ := hfailed
    exact (or_iff_left fun h => h.2.2.1 f hf hpath).symm
  | unconcerned _ hnone =>
    refine (or_iff_left fun h => ?_).symm
    rw [h.2.1, Option.filter_some, if_pos hhtml] at hnone
    cases hnone
  -- the task found the memory at least as full as the scan had left it
  | @optimized kind before s' _ hnot hsome halike hkept hoptimize =>
    obtain ⟨hkind, -⟩ := Option.filter_eq_some_iff.1 hsome
    obtain rfl := ofPath?_of_isPage hispage hkind
    have hclosed : before.memory.Closed found.js :=
      (hreported.worked.closed (page, found) hentry).kept hkept
    refine (links_optimize_html hoptimize hcss hname hclosed hkeep hquote).trans ?_
    refine or_congr_right (and_congr_right fun _ => ?_)
    rw [importsStyles_iff hfound]
    exact ⟨fun h => ⟨hkind, hnot, h⟩, fun h => h.2.2⟩

end Loss

/-! ### A page without a head -/

/-- A page that closes no head. -/
def headlessPage : Text := "<body><script type='module' src='/app.js'></script></body>".toList

/-- The directory of the site. -/
def headlessRoot : Path := "/site".toList

/-- The path of the page. -/
def headlessIndex : Path := "/site/index.html".toList

/-- The path of its script. -/
def headlessScript : Path := "/site/app.js".toList

/-- The path of the proxy that the script imports. -/
def headlessProxy : Path := "/site/a.css.proxy.js".toList

/-- A site with the page, whose script imports a stylesheet. -/
def headlessSite : FileSystem where
  files := [(["site".toList, "a.css".toList], Utf8.encode "p\x7b\x7d".toList),
    (["site".toList, "a.css.proxy.js".toList], Utf8.encode "1".toList),
    (["site".toList, "app.js".toList], Utf8.encode "import \"./a.css.proxy.js\";".toList),
    (["site".toList, "index.html".toList], Utf8.encode headlessPage)]
  directories := [["site".toList], ["site".toList, "__meta__".toList]]
  sealedPlaces := []

/-- Combines the stylesheets of a site and minifies nothing. -/
def linkingPlan : Plan where
  directory := headlessRoot
  settings := { Settings.default with minifyHtml := false, minifyCss := false, minifyJs := false }
  supply := .standard
  source := Source.scripts

/-- What the page depends on. -/
def headlessFound : Dependencies where
  entry := [headlessScript]
  css := []
  js := [headlessProxy, headlessScript]
  entry_subset := by simp

/-- What the run reports. -/
def headlessReport : Report where
  manifest := [(headlessIndex, headlessFound)]
  files := ["/site/a.css".toList, headlessScript, headlessIndex]
  generated := ["/site/imported-styles.css".toList]
  failures := []

/-- The session when the minifier has been started. -/
def headlessStarted : Session :=
  ⟨headlessSite, .empty, [], [.runStarted 3 1 headlessRoot, .minifierStarted []]⟩

/-- The session when the script has been looked up. -/
def headlessHalf : Session :=
  { headlessStarted with
    memory := ⟨[(headlessScript, [headlessProxy])]⟩
    calls := [headlessScript] }

/-- The session when the modules of the page have been found. -/
def headlessSearched : Session :=
  { headlessStarted with
    memory := ⟨[(headlessProxy, []), (headlessScript, [headlessProxy])]⟩
    calls := [headlessScript, headlessProxy] }

/-- The session when the page has been scanned. -/
def headlessScanned : Session :=
  { headlessSearched with notes := headlessSearched.notes ++ [.pageScanned headlessIndex 0 2 1] }

-- Sorting more than one text is out of reach of `decide`, so the run is taken apart where it sorts.
theorem sort_headless : Text.sort headlessFound.js = headlessFound.js :=
  Text.sort_eq_self (by decide +kernel)

theorem ofLists_headless :
    Dependencies.ofLists [headlessScript] [] headlessFound.js = .ok headlessFound :=
  @ofLists_eq headlessFound (Text.sortUnique_eq_self (by decide +kernel) (by decide +kernel))
    (Text.sortUnique_eq_self (by decide +kernel) (by decide +kernel))
    (Text.sortUnique_eq_self (by decide +kernel) (by decide +kernel))

theorem listFiles_headless :
    listFiles headlessSite (Path.absolute linkingPlan.directory) linkingPlan.settings.exclude
      linkingPlan.settings.metaDir =
      .ok ["/site/a.css".toList, headlessProxy, headlessScript, headlessIndex] := by
  have hdirectory : directoryPlace headlessSite (Path.absolute linkingPlan.directory) =
      .ok ["site".toList] := by
    decide +kernel
  have hbelow : headlessSite.listBelow ["site".toList] = .ok [["a.css".toList],
      ["a.css.proxy.js".toList], ["app.js".toList], ["index.html".toList]] := by
    decide +kernel
  exact FileSystem.listFiles_of_listBelow hdirectory hbelow (by decide +kernel) (by decide +kernel)

theorem takeInventory_headless :
    takeInventory linkingPlan.directory linkingPlan.settings (Session.start headlessSite) =
      .ok ⟨headlessRoot, [headlessIndex], headlessReport.files⟩
        { Session.start headlessSite with notes := [.runStarted 3 1 headlessRoot] } :=
  (takeInventory_of_listFiles listFiles_headless).trans (by decide +kernel)

theorem recallModules_headless :
    (Source.scripts headlessRoot).recallModules [headlessScript] headlessStarted =
    .ok headlessFound.js headlessSearched := by
  have hscript : (Source.scripts headlessRoot).recall headlessScript headlessStarted =
      .ok [headlessProxy] headlessHalf := by decide +kernel
  have hproxy : (Source.scripts headlessRoot).recall headlessProxy headlessHalf =
      .ok [] headlessSearched := by
    decide +kernel
  rw [recallModules_eq, closure_chain (limit_scripts_pos (by decide +kernel))
    (by decide) hscript hproxy]
  exact congrArg (EStateM.Result.ok · headlessSearched) sort_headless

theorem scanAll_headless :
    scanAll (Source.scripts headlessRoot).recallModules [headlessIndex] headlessRoot
    headlessStarted = .ok headlessReport.manifest headlessScanned := by
  have hread : headlessSite.readDocument headlessIndex = .ok headlessPage := by decide +kernel
  have hentry : scripts headlessPage headlessIndex headlessRoot = [headlessScript] := by
    decide +kernel
  have hcss : stylesheets headlessPage headlessIndex headlessRoot = [] := by decide +kernel
  refine scanAll_singleton ((scan_of_readDocument hread).trans ?_)
  rw [hentry, hcss, bind_of_ok recallModules_headless, ofLists_headless]
  rfl

theorem combinedSources_headless :
    combinedSources headlessReport.manifest = ["/site/a.css".toList] := by
  rw [headlessReport, combinedSources_singleton, sort_headless]
  decide +kernel

theorem optimize_headless : (optimize linkingPlan headlessSite).result = .ok headlessReport ∧
    ∀ kept ∈ [headlessIndex, headlessScript],
      ∀ path ∈ [stylesheetPath (Path.absolute linkingPlan.directory) linkingPlan.settings,
          documentPath (Path.absolute linkingPlan.directory) linkingPlan.settings.metaDir],
        (optimize linkingPlan headlessSite).session.files.locate path ≠
          (optimize linkingPlan headlessSite).session.files.locate kept := by
  have hstart : linkingPlan.supply.start (Minify.Minifier.ofTarget linkingPlan.settings.target) =
      .ok ⟨none, [], true⟩ := by decide +kernel
  have hnote : Work.note (.minifierStarted [])
      { Session.start headlessSite with notes := [.runStarted 3 1 headlessRoot] } =
        .ok () headlessStarted := rfl
  have hsource : linkingPlan.source = Source.scripts := rfl
  rw [optimize_of_start takeInventory_headless hstart hnote]
  unfold optimizeAll generate buildStylesheet stylesheetParts
  dsimp only
  rw [hsource, bind_of_ok scanAll_headless, combinedSources_headless]
  decide +kernel

/-- The script has lost its stylesheet and is left empty, and the page does not link it. -/
theorem not_links_headless : LosesImport linkingPlan headlessSite headlessReport headlessScript
      "./a.css.proxy.js".toList ∧
    (optimize linkingPlan headlessSite).session.files.readText headlessScript = .ok [] ∧
    ∃ final, (optimize linkingPlan headlessSite).session.files.readText headlessIndex = .ok final ∧
      ¬ Links linkingPlan.settings.combinedCssName final := by
  have hread : headlessSite.readText headlessIndex = .ok headlessPage := by decide +kernel
  have hscript : headlessSite.readText headlessScript =
      .ok "import \"./a.css.proxy.js\";".toList := by
    decide +kernel
  have hjob : (linkingPlan.job headlessSite headlessReport).combined =
      some ["/site/a.css".toList] := by
    unfold Plan.job jobOf
    rw [combinedSources_headless]
    decide +kernel
  have hlinked : (linkingPlan.job headlessSite headlessReport).linked headlessScript =
      .listed ["/site/a.css".toList] headlessScript
        (linkingPlan.job headlessSite headlessReport).root := by
    rw [Job.linked, hjob]
  have hloses : LosesImport linkingPlan headlessSite headlessReport headlessScript
      "./a.css.proxy.js".toList := by
    refine ⟨by decide +kernel, nofun, by decide +kernel, _, hscript, ?_⟩
    rw [hlinked]
    decide +kernel
  have hkeep : KeepsLinks (linkingPlan.job headlessSite headlessReport) headlessIndex
    headlessFound.js headlessPage := ⟨nofun, nofun, nofun, nofun⟩
  have hover : ∀ kept ∈ [headlessIndex, headlessScript],
      ¬ Overwrites linkingPlan (optimize linkingPlan headlessSite).session.files kept := by
    rintro kept hmem ⟨place, hplace, hother⟩
    have hne := optimize_headless.2 kept hmem
    rw [hplace] at hne
    exact hother.elim (hne _ (by simp)) (hne _ (by simp))
  have hfound : headlessReport.manifest.find? headlessIndex = some headlessFound := by
    decide +kernel
  obtain ⟨hlost, -, final, hfinal, hlinks⟩ :=
    links_final_iff (by decide +kernel) rfl rfl optimize_headless.1 hfound
    (by simp [headlessFound]) hloses hread
    (quoteClosed_of_not_mem (by decide +kernel)) ⟨by decide +kernel,
      calm_of_eq rfl (by decide +kernel)⟩ hkeep
    (hover headlessIndex (by simp))
  refine ⟨hloses, ?_, final, hfinal, ?_⟩
  · obtain ⟨before, rest, after, hbefore, rfl, -, hminified, hafter⟩ :=
      hlost (hover headlessScript (by simp))
    rw [hscript] at hbefore
    cases hbefore
    rw [hafter, ← hminified, hlinked]
    decide +kernel
  · rw [hlinks, closes_iff]
    decide +kernel

end Build
end SiteOptimizer
