import SiteOptimizer.Proofs.Build.StyleParts

/-!
# Links to a stylesheet that is not there

Whether a page gets the link to the combined stylesheet depends on the names of its modules
alone, and whether the stylesheet is generated depends on the files behind those names. So a
page whose proxies have no stylesheets, or none with any text, links a file that the run
does not write (`dangles_iff`).
-/

namespace SiteOptimizer
namespace Build

open SiteOptimizer.Module Markup Page FileSystem Work

/-! ## Pages that receive the link -/

theorem linkStyles_ne_self_iff {job : Job} {page : Path} {code : Text} :
    job.linkStyles page code ≠ code ↔
    job.settings.preloadCss = true ∧ job.importsStyles page = true ∧ Closes headClose code := by
  unfold Job.linkStyles
  split
  · next h =>
    obtain ⟨hcss, himports⟩ := Bool.and_eq_true_iff.1 h
    have hlink : job.styleLink ≠ [] := List.cons_ne_nil _ _
    rw [inject_ne_self_iff hlink, hcss, himports]
    simp
  · next h =>
    refine iff_of_false (fun hne => hne rfl) fun ⟨hcss, himports, _⟩ => h ?_
    rw [hcss, himports]
    rfl

section Run

variable {plan : Plan} {files : FileSystem} {report : Report} {page : Path}

/-- The task on a page has put the link to the combined stylesheet into it. -/
structure ReceivesLink (plan : Plan) (files : FileSystem) (report : Report)
    (page : Path) : Prop where
  mem_files : page ∈ report.files
  not_failed : ∀ f ∈ report.failures, f.path ≠ page
  kind : FileKind.ofPath? page = some .html
  linked : ∃ code, files.readText page = .ok code ∧
    (plan.job files report).linkStyles page code ≠ code

/-- A page whose task comes through and that has a place for the link, and a module that
is named like a plain proxy. -/
structure CallsForLink (plan : Plan) (files : FileSystem) (report : Report)
    (page : Path) : Prop where
  preloadCss : plan.settings.preloadCss = true
  mem_files : page ∈ report.files
  not_failed : ∀ f ∈ report.failures, f.path ≠ page
  kind : FileKind.ofPath? page = some .html
  closes : ∃ code, files.readText page = .ok code ∧ Closes headClose code
  proxy : ∃ found, report.manifest.find? page = some found ∧
    ∃ path ∈ found.js, (Script.styleSource? path).isSome = true

theorem receivesLink_iff :
    ReceivesLink plan files report page ↔ CallsForLink plan files report page := by
  have himports : (plan.job files report).importsStyles page = true ↔
      ∃ found, report.manifest.find? page = some found ∧
        ∃ path ∈ found.js, (Script.styleSource? path).isSome = true := by
    constructor
    · intro h
      obtain ⟨found, hfound, -⟩ := (Option.any_eq_true _ _).1 h
      exact ⟨found, hfound, (importsStyles_iff hfound).1 h⟩
    · rintro ⟨found, hfound, hproxy⟩
      exact (importsStyles_iff hfound).2 hproxy
  constructor
  · rintro ⟨hmem, hfailed, hkind, code, hread, hlinked⟩
    obtain ⟨hcss, hstyles, hcloses⟩ := linkStyles_ne_self_iff.1 hlinked
    exact ⟨hcss, hmem, hfailed, hkind, ⟨code, hread, hcloses⟩, himports.1 hstyles⟩
  · rintro ⟨hcss, hmem, hfailed, hkind, ⟨code, hread, hcloses⟩, hproxy⟩
    exact ⟨hmem, hfailed, hkind, code, hread,
      linkStyles_ne_self_iff.2 ⟨hcss, himports.2 hproxy, hcloses⟩⟩

/-! ## Runs that generate nothing -/

theorem join_eq_nil_iff {sep : Text} (hsep : sep ≠ []) {pieces : List Text} :
    Text.join sep pieces = [] ↔ pieces = [] ∨ pieces = [[]] := by
  match pieces with
  | [] => exact iff_of_true rfl (.inl rfl)
  | [piece] => simp [Text.join]
  | a :: b :: pieces =>
    rw [Text.join_cons_cons]
    simp [hsep]

/-- The parts of the combined stylesheet come to nothing: there are none, or a single one without
text, or the minifier leaves nothing of them. -/
def ComesToNothing (settings : Settings) (minify : Minify.Backend) (parts : List Text) : Prop :=
  parts = [] ∨ parts = [[]] ∨ (settings.minifyCss = true ∧
    minify.css (Text.join ['\n'] parts) = .ok [])

theorem combine_eq_nil_iff {settings : Settings} {minify : Minify.Backend} {parts : List Text} :
    combine settings minify parts = .ok [] ↔ ComesToNothing settings minify parts := by
  unfold combine ComesToNothing
  rw [← or_assoc, ← join_eq_nil_iff (List.cons_ne_nil '\n' [])]
  by_cases hnil : Text.join ['\n'] parts = []
  · rw [if_neg fun h => h.2 hnil, hnil]
    exact iff_of_true rfl (.inl rfl)
  · rw [or_iff_right hnil]
    by_cases hminify : settings.minifyCss = true
    · rw [if_pos ⟨hminify, hnil⟩]
      exact (and_iff_right hminify).symm
    · rw [if_neg fun h => hminify h.1]
      exact iff_of_false (fun h => hnil (Except.ok.inj h)) fun h => hminify h.1

/-- **A page links a stylesheet that is not generated** just if it calls for the link and the parts
of the stylesheet, as they stand after the tasks, come to nothing. -/
theorem dangles_iff (hwf : files.WellFormed) (hsource : plan.source = Source.scripts)
    (hrun : (optimize plan files).result = .ok report) :
    (ReceivesLink plan files report page ∧ report.generated = []) ↔
      CallsForLink plan files report page ∧
        ∃ done parts s, workedOf plan files = .ok (report.manifest, report.failures) done ∧
          stylesheetParts report.manifest done = .ok parts s ∧
          ComesToNothing plan.settings plan.supply.backend parts := by
  rw [receivesLink_iff]
  refine and_congr_right fun hcalls => ?_
  obtain ⟨listed, memory, done, written, hreported⟩ := exists_reported hwf hsource hrun
  obtain ⟨parts, s, code, hparts, -, hcode, hgenerated⟩ :=
    parts_of_generate hcalls.preloadCss hreported.generate_eq
  have hnil : report.generated = [] ↔ ComesToNothing plan.settings plan.supply.backend parts := by
    rw [← combine_eq_nil_iff, hcode, hgenerated]
    by_cases hcode : code = []
    · simp [hcode]
    · simp [hcode]
  rw [hnil]
  constructor
  · exact fun hnothing => ⟨done, parts, s, hreported.worked_eq, hparts, hnothing⟩
  · rintro ⟨done', parts', s', hworked, hparts', hnothing⟩
    -- a run is in one state after its tasks, so these are the parts that it has combined
    rw [hreported.worked_eq] at hworked
    cases hworked
    rw [hparts] at hparts'
    cases hparts'
    exact hnothing

end Run

/-! ### A proxy without a stylesheet -/

/-- A page with a place for the link. -/
def danglingPage : Text := "<head></head><script type='module' src='/app.js'></script>".toList

/-- A site with the page, whose script imports a stylesheet that is not there. -/
def danglingSite : FileSystem where
  files := [(["site".toList, "app.js".toList], Utf8.encode "import \"./a.css.proxy.js\";".toList),
    (["site".toList, "index.html".toList], Utf8.encode danglingPage)]
  directories := [["site".toList], ["site".toList, "__meta__".toList]]
  sealedPlaces := []

/-- What the run reports. -/
def danglingReport : Report where
  manifest := [(headlessIndex, headlessFound)]
  files := [headlessScript, headlessIndex]
  generated := []
  failures := []

/-- The session when the minifier has been started. -/
def danglingStarted : Session :=
  ⟨danglingSite, .empty, [], [.runStarted 2 1 headlessRoot, .minifierStarted []]⟩

/-- The session when the script has been looked up. -/
def danglingHalf : Session :=
  { danglingStarted with
    memory := ⟨[(headlessScript, [headlessProxy])]⟩
    calls := [headlessScript] }

/-- The session when the modules of the page have been found. -/
def danglingSearched : Session :=
  { danglingStarted with
    memory := ⟨[(headlessProxy, []), (headlessScript, [headlessProxy])]⟩
    calls := [headlessScript, headlessProxy]
    notes := danglingStarted.notes ++ [.scriptMissing headlessProxy] }

theorem scan_dangling : scan (Source.scripts headlessRoot).recallModules headlessIndex headlessRoot
    danglingStarted = .ok headlessFound danglingSearched := by
  have hscript : (Source.scripts headlessRoot).recall headlessScript danglingStarted =
      .ok [headlessProxy] danglingHalf := by decide +kernel
  have hproxy : (Source.scripts headlessRoot).recall headlessProxy danglingHalf =
      .ok [] danglingSearched := by
    decide +kernel
  have hmodules : (Source.scripts headlessRoot).recallModules [headlessScript] danglingStarted =
      .ok headlessFound.js danglingSearched := by
    rw [recallModules_eq, closure_chain (limit_scripts_pos (by decide +kernel))
      (by decide) hscript hproxy]
    exact congrArg (EStateM.Result.ok · danglingSearched) sort_headless
  have hread : danglingSite.readDocument headlessIndex = .ok danglingPage := by decide +kernel
  have hentry : scripts danglingPage headlessIndex headlessRoot = [headlessScript] := by
    decide +kernel
  have hcss : stylesheets danglingPage headlessIndex headlessRoot = [] := by decide +kernel
  refine (scan_of_readDocument hread).trans ?_
  rw [hentry, hcss, bind_of_ok hmodules, ofLists_headless]
  rfl

theorem optimize_dangling : (optimize linkingPlan danglingSite).result = .ok danglingReport := by
  have hdirectory : directoryPlace danglingSite (Path.absolute linkingPlan.directory) =
      .ok ["site".toList] := by
    decide +kernel
  have hbelow : danglingSite.listBelow ["site".toList] =
      .ok [["app.js".toList], ["index.html".toList]] := by
    decide +kernel
  have hlisted : listFiles danglingSite (Path.absolute linkingPlan.directory)
      linkingPlan.settings.exclude linkingPlan.settings.metaDir =
        .ok [headlessScript, headlessIndex] :=
    listFiles_of_listBelow hdirectory hbelow (by decide +kernel) (by decide +kernel)
  have htake : takeInventory linkingPlan.directory linkingPlan.settings
      (Session.start danglingSite) = .ok ⟨headlessRoot, [headlessIndex], danglingReport.files⟩
        { Session.start danglingSite with notes := [.runStarted 2 1 headlessRoot] } :=
    (takeInventory_of_listFiles hlisted).trans (by decide +kernel)
  have hstart : linkingPlan.supply.start (Minify.Minifier.ofTarget linkingPlan.settings.target) =
      .ok ⟨none, [], true⟩ := by decide +kernel
  have hnote : Work.note (.minifierStarted [])
      { Session.start danglingSite with notes := [.runStarted 2 1 headlessRoot] } =
        .ok () danglingStarted := rfl
  have hsource : linkingPlan.source = Source.scripts := rfl
  have hcombined : combinedSources [(headlessIndex, headlessFound)] = ["/site/a.css".toList] :=
    combinedSources_headless
  rw [optimize_of_start htake hstart hnote]
  unfold optimizeAll generate buildStylesheet stylesheetParts
  dsimp only
  rw [hsource, bind_of_ok (scanAll_singleton scan_dangling), hcombined]
  decide +kernel

/-- The page has received the link, and nothing has been generated, since the
combined stylesheet has no parts. -/
theorem dangles_danglingSite :
    ReceivesLink linkingPlan danglingSite danglingReport headlessIndex ∧
      danglingReport.generated = [] ∧
      ∃ done parts s, workedOf linkingPlan danglingSite = .ok (danglingReport.manifest, []) done ∧
        stylesheetParts danglingReport.manifest done = .ok parts s ∧
        ComesToNothing linkingPlan.settings linkingPlan.supply.backend parts := by
  have hwf : danglingSite.WellFormed := by decide +kernel
  have hcalls : CallsForLink linkingPlan danglingSite danglingReport headlessIndex :=
    ⟨rfl, by decide, nofun, by decide +kernel, ⟨danglingPage, by decide +kernel, by decide +kernel⟩,
      headlessFound, by decide +kernel, headlessProxy, by decide +kernel, by decide +kernel⟩
  have hreceives := receivesLink_iff.2 hcalls
  obtain ⟨-, hnothing⟩ := (dangles_iff hwf rfl optimize_dangling).1 ⟨hreceives, rfl⟩
  exact ⟨hreceives, rfl, hnothing⟩

end Build
end SiteOptimizer
