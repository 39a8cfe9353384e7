import SiteOptimizer.Proofs.Build.StyleLinks
import SiteOptimizer.Proofs.Page.Manifest

/-!
# The parts of the combined stylesheet

A script loses an import because its stylesheet is one of those that are combined. That is found out
before the tasks, and the stylesheets are read after them; it comes to the same, since the tasks put
new texts into files but neither make files nor remove any. So every import that a script loses is
shipped as one of the parts, and as no more than one, however many pages and proxies lead to its
stylesheet (`dropped_shipped`).
-/

namespace SiteOptimizer
namespace Build

open SiteOptimizer.Module SiteOptimizer.Path FileSystem Work

/-! ## The stylesheets that are combined -/

/-- The stylesheets that are combined, as far as they are files. -/
def sheets (fs : FileSystem) (manifest : Page.Manifest) : List Path :=
  (combinedSources manifest).filter fs.isFile

theorem mem_combinedSources {manifest : Page.Manifest} {source : Path} :
    source ∈ combinedSources manifest ↔
      ∃ entry ∈ manifest, ∃ path ∈ entry.2.js, Script.styleSource? path = some source := by
  have hsorted : ∀ entry, entry ∈ manifest.sorted ↔ entry ∈ manifest := fun entry =>
    (List.mergeSort_perm _ _).mem_iff
  simp only [combinedSources, List.mem_eraseDups, List.mem_flatMap, List.mem_filterMap,
    Text.mem_sort, hsorted]

theorem nodup_eraseDups {α : Type} [BEq α] [LawfulBEq α] (l : List α) : l.eraseDups.Nodup := by
  match l with
  | [] => exact List.nodup_nil
  | a :: l =>
    rw [List.eraseDups_cons, List.nodup_cons, List.mem_eraseDups]
    exact ⟨by simp, nodup_eraseDups _⟩
termination_by l.length
decreasing_by exact Nat.lt_succ_of_le (List.length_filter_le _ _)

theorem nodup_sheets (fs : FileSystem) (manifest : Page.Manifest) : (sheets fs manifest).Nodup := by
  unfold sheets combinedSources
  exact List.Nodup.filter _ (nodup_eraseDups _)

/-- **The same stylesheets are found before and after the tasks.** -/
theorem sheets_alike {fs fs' : FileSystem} (h : Alike fs fs') (manifest : Page.Manifest) :
    sheets fs' manifest = sheets fs manifest :=
  List.filter_congr fun source _ => h.isFile source

/-- **The order of a manifest does not count.** -/
theorem combinedSources_eq_of_perm {manifest manifest' : Page.Manifest}
    (hnodup : manifest.pages.Nodup) (h : manifest'.Perm manifest) :
    combinedSources manifest' = combinedSources manifest := by
  rw [combinedSources, combinedSources, Page.Manifest.sorted_eq_of_perm hnodup h]

/-! ## The parts -/

/-- What becomes of the parts: they are joined, and minified unless that gives nothing. -/
def combine (settings : Settings) (minify : Minify.Backend)
    (parts : List Text) : Except Fault Text :=
  if settings.minifyCss ∧ Text.join ['\n'] parts ≠ [] then minify.css (Text.join ['\n'] parts)
  else .ok (Text.join ['\n'] parts)

/-- **The parts are the texts of the stylesheets**, and the combined stylesheet is made of them. -/
theorem parts_of_buildStylesheet {settings : Settings} {minify : Minify.Backend}
    {manifest : Page.Manifest} {s s' : Session} {code : Text}
    (h : buildStylesheet manifest (styleMinifier settings minify) s = .ok code s') :
    ∃ parts s'', stylesheetParts manifest s = .ok parts s'' ∧
      List.Forall₂ (fun sheet part => s.files.readText sheet = .ok part)
        (sheets s.files manifest) parts ∧
      combine settings minify parts = .ok code := by
  obtain ⟨parts, s₁, hparts, h⟩ := of_bind_ok h
  obtain ⟨s₂, -, hread⟩ := stylesheetParts_eq (combinedSources manifest) s
  refine ⟨parts, s₁, hparts, ?_, ?_⟩
  -- stylesheets that are not there leave no part, so the parts are those of the sheets
  · rw [stylesheetParts, hread] at hparts
    cases hmapped : ((combinedSources manifest).filter s.files.isFile).mapM s.files.readText with
    | error fault => rw [hmapped] at hparts; cases hparts
    | ok found =>
      rw [hmapped] at hparts
      cases hparts
      exact mapM_eq_ok_iff.1 hmapped
  · unfold combine
    by_cases hminify : settings.minifyCss = true
    · rw [styleMinifier, if_pos hminify] at h
      dsimp only at h
      by_cases hnil : Text.join ['\n'] parts = []
      · rw [if_pos hnil] at h
        cases h
        rw [if_neg fun h => h.2 hnil]
      · rw [if_neg hnil] at h
        rw [if_pos ⟨hminify, hnil⟩]
        exact (of_ofExcept_ok h).1
    · rw [styleMinifier, if_neg hminify] at h
      cases h
      rw [if_neg fun h => hminify h.1]

/-- **A stylesheet is generated from the texts of its parts**, unless these come to nothing. -/
theorem parts_of_generate {root : Path} {settings : Settings} {minify : Minify.Backend}
    {manifest : Page.Manifest} {s s' : Session} {generated : List Path}
    (hcss : settings.preloadCss = true)
    (h : generate root settings minify manifest s = .ok generated s') :
    ∃ parts s'' code, stylesheetParts manifest s = .ok parts s'' ∧
      List.Forall₂ (fun sheet part => s.files.readText sheet = .ok part)
        (sheets s.files manifest) parts ∧
      combine settings minify parts = .ok code ∧
      generated = if code = [] then [] else [stylesheetPath root settings] := by
  obtain ⟨code, s₁, hbuild, hwritten⟩ := built_of_generate hcss h
  obtain ⟨parts, s₂, hparts, hread, hcode⟩ := parts_of_buildStylesheet hbuild
  refine ⟨parts, s₂, code, hparts, hread, hcode, ?_⟩
  rcases hwritten with ⟨hnil, hgenerated, -⟩ | ⟨hne, hgenerated, -⟩
  · rw [hgenerated, if_pos hnil]
  · rw [hgenerated, if_neg hne]

/-! ## What scripts lose -/

section Run

variable {plan : Plan} {files : FileSystem} {report : Report} {listed : List Path} {memory : Memory}
  {done written : Session}

/-- **A run names its files by canonical paths**, the modules of its pages included. -/
theorem Reported.canonical (h : Reported plan files report listed memory done written)
    (hwf : files.WellFormed) :
    ∃ mark, IsMark mark ∧ Canonical mark (Path.absolute plan.directory) ∧
      ∀ entry ∈ report.manifest, Canonical mark entry.1 ∧ ∀ path ∈ entry.2.js,
      Canonical mark path := by
  obtain ⟨mark, hmark, hroot⟩ := exists_canonical_absolute plan.directory
  refine ⟨mark, hmark, hroot, fun entry hentry => ?_⟩
  obtain ⟨-, place, -, hlisted⟩ := listed_of_listFiles hwf h.listFiles_eq
  obtain ⟨parts, hat⟩ := hlisted entry.1 (List.mem_filter.1 (h.worked.mem_pages entry hentry)).1
  have hpage : Canonical mark entry.1 := hat.path_eq ▸ hroot.pathBelow hmark hat.isName
  obtain ⟨code, hdescribes⟩ := h.worked.describes entry hentry
  exact ⟨hpage, hdescribes.canonical hpage hroot hmark⟩

/-- A run has one entry for each page. -/
theorem nodup_of_workedOf {manifest : Page.Manifest} {failures : List Failure} {s : Session}
    (h : workedOf plan files = .ok (manifest, failures) s) : manifest.pages.Nodup := by
  unfold workedOf at h
  split at h
  · cases h
  · split at h
    · cases h
    · obtain ⟨_, s₁, -, h⟩ := of_bind_ok h
      obtain ⟨found, s₂, hscan, h⟩ := of_bind_ok h
      obtain ⟨_, s₃, -, h⟩ := of_bind_ok h
      obtain ⟨_, s₄, -, h⟩ := of_bind_ok h
      obtain ⟨_, s₅, -, h⟩ := of_bind_ok h
      obtain ⟨_, s₆, -, h⟩ := of_bind_ok h
      cases h
      exact Page.nodup_of_scanAll hscan

/-- No two of the stylesheets that are combined are at one place. -/
theorem Reported.nodup_places (h : Reported plan files report listed memory done written)
    (hwf : files.WellFormed) (fs : FileSystem) :
    ((sheets fs report.manifest).map fs.locate).Nodup := by
  obtain ⟨mark, hmark, -, hcanonical⟩ := h.canonical hwf
  have hsource : ∀ source ∈ sheets fs report.manifest, Canonical mark source := by
    intro source hmem
    obtain ⟨entry, hentry, path, hpath, hs⟩ := mem_combinedSources.1 (List.mem_filter.1 hmem).1
    exact ((hcanonical entry hentry).2 path hpath).styleSource? hmark hs
  -- the paths are different and canonical, so a place that two of them had in
  -- common would make them equal
  refine (nodup_sheets fs report.manifest).map_on fun a ha b hb hab => ?_
  have hfile := (List.mem_filter.1 ha).2
  cases hl : fs.locate a with
  | ok place => exact (hsource a ha).eq_of_locate (hsource b hb) hmark hl (hab ▸ hl)
  | error fault =>
    rw [isFile, hl] at hfile
    cases hfile

/-- The stylesheet at a path is the part with this number. -/
structure ShippedAs (fs : FileSystem) (sheets : List Path) (parts : List Text) (source : Path)
    (i : Nat) : Prop where
  sheet : sheets[i]? = some source
  part : ∃ part, parts[i]? = some part ∧ fs.readText source = .ok part

theorem existsUnique_shippedAs {fs : FileSystem} {sheets : List Path} {parts : List Text}
    {source : Path} (hnodup : sheets.Nodup)
    (hparts : List.Forall₂ (fun sheet part => fs.readText sheet = .ok part) sheets parts)
    (hmem : source ∈ sheets) : ∃! i, ShippedAs fs sheets parts source i := by
  obtain ⟨i, hi, rfl⟩ := List.mem_iff_getElem.1 hmem
  have hlength := hparts.length_eq
  refine ⟨i, ⟨List.getElem?_eq_getElem hi, parts[i], List.getElem?_eq_getElem (hlength ▸ hi), ?_⟩,
    fun j hj => ?_⟩
  · exact (List.forall₂_iff_get.1 hparts).2 i hi (hlength ▸ hi)
  · obtain ⟨hj', heq⟩ := List.getElem?_eq_some_iff.1 hj.sheet
    exact (hnodup.getElem_inj_iff).1 heq

/-- **Every import that a script loses is shipped**, as one part and no more. The parts are
those that the combined stylesheet of the same run is made of: the texts that its stylesheets
have after the tasks, where no two of them are at one place. They do not depend on the order
of the pages in the manifest. -/
theorem dropped_shipped (hwf : files.WellFormed) (hsource : plan.source = Source.scripts)
    (hcss : plan.settings.preloadCss = true) (hrun : (optimize plan files).result = .ok report) :
    ∃ done parts s, workedOf plan files = .ok (report.manifest, report.failures) done ∧
      stylesheetParts report.manifest done = .ok parts s ∧
      buildStylesheet report.manifest none done = .ok (Text.join ['\n'] parts) s ∧
      List.Forall₂ (fun sheet part => done.files.readText sheet = .ok part)
        (sheets done.files report.manifest) parts ∧
      ((sheets done.files report.manifest).map done.files.locate).Nodup ∧
      (∀ script code, ∀ lost ∈ Script.dropped ((plan.job files report).linked script) code,
        ∃ target source,
          Reference.resolve? lost.specifier script (Path.absolute plan.directory) = some target ∧
          Script.styleSource? target = some source ∧
          ∃! i, ShippedAs done.files (sheets done.files report.manifest) parts source i) ∧
      ∀ manifest : Page.Manifest, manifest.Perm report.manifest →
        stylesheetParts manifest = stylesheetParts report.manifest := by
  obtain ⟨listed, memory, done, written, hreported⟩ := exists_reported hwf hsource hrun
  obtain ⟨parts, s, code, hparts, hread, -, -⟩ := parts_of_generate hcss hreported.generate_eq
  refine ⟨done, parts, s, hreported.worked_eq, hparts, (bind_of_ok hparts).trans rfl, hread,
    hreported.nodup_places hwf done.files, fun script code lost hlost => ?_,
    fun manifest hperm => ?_⟩
  · -- the list that the task has asked was made before the tasks, and it is the
    -- one that is read after them
    obtain ⟨target, source, htarget, hsource, hmem⟩ :=
      Script.drops_listed (Script.drops_of_mem_dropped hlost)
    refine ⟨target, source, htarget, hsource, existsUnique_shippedAs (nodup_sheets _ _) hread ?_⟩
    rw [sheets_alike hreported.worked.alike]
    exact hmem
  · rw [stylesheetParts, stylesheetParts,
      combinedSources_eq_of_perm (nodup_of_workedOf hreported.worked_eq) hperm]

end Run

/-- What the script of the site loses. -/
def headlessLoss : Script.Found := ⟨0, "./a.css.proxy.js".toList⟩

/-- The stylesheet that the script of the site has imported is one part of the combined one. -/
theorem shipped_headless : headlessSite.WellFormed ∧ linkingPlan.settings.preloadCss = true ∧
    (optimize linkingPlan headlessSite).result = .ok headlessReport ∧
    headlessLoss ∈ Script.dropped
      ((linkingPlan.job headlessSite headlessReport).linked headlessScript)
      "import \"./a.css.proxy.js\";".toList ∧
    ∃ done parts, workedOf linkingPlan headlessSite = .ok (headlessReport.manifest, []) done ∧
      ∃! i, ShippedAs done.files (sheets done.files headlessReport.manifest) parts
        "/site/a.css".toList i := by
  have hwf : headlessSite.WellFormed := by decide +kernel
  have hlost : headlessLoss ∈ Script.dropped ((linkingPlan.job headlessSite headlessReport).linked
    headlessScript) "import \"./a.css.proxy.js\";".toList := by
    unfold Plan.job jobOf
    rw [combinedSources_headless]
    decide +kernel
  obtain ⟨done, parts, s, hworked, -, -, -, -, hshipped, -⟩ :=
    dropped_shipped hwf rfl rfl optimize_headless.1
  obtain ⟨target, source, htarget, hsource, hunique⟩ := hshipped _ _ _ hlost
  have hproxy : Reference.resolve? headlessLoss.specifier headlessScript
      (Path.absolute linkingPlan.directory) = some headlessProxy := by decide +kernel
  obtain rfl : headlessProxy = target := Option.some.inj (hproxy.symm.trans htarget)
  have hsheet : Script.styleSource? headlessProxy = some "/site/a.css".toList := by decide +kernel
  obtain rfl : "/site/a.css".toList = source := Option.some.inj (hsheet.symm.trans hsource)
  exact ⟨hwf, rfl, optimize_headless.1, hlost, done, parts, hworked, hunique⟩

end Build
end SiteOptimizer
