import SiteOptimizer.Proofs.Build.Report

/-!
# Runs that are refused

A run is refused by a fault of its set-up or of its scan, and then the build directory is as it was.
Up to the end of the scan a run only looks things up, and nothing that it does behind the scan fails
in one of these two ways, since what goes wrong there is a fault of one file
(`refusal_spares_files`). The minifier is closed in any case.
-/

namespace SiteOptimizer

/-- Whether a fault is of the set-up or of the scan of a run. -/
def Fault.isRefusal : Fault → Bool
  | .setup _ | .scan .. => true
  | _ => false

theorem Fault.isRefusal_of_concernsPage {fault : Fault} (h : fault.concernsPage = true) :
    fault.isRefusal = false := by
  cases fault with
  | setup trouble => cases h
  | scan path cause => cases h
  | _ => rfl

namespace FileSystem

/-! ## What goes wrong with files -/

variable {fs : FileSystem} {path : Path} {fault : Fault}

theorem concernsPage_of_write {text : Text} (h : fs.write path text = .error fault) :
    fault.concernsPage = true := by
  unfold FileSystem.write at h
  dsimp only at h
  split at h
  · cases h; rfl
  · cases h; rfl
  · next hl => cases h; exact Page.concernsPage_of_locate hl
  · split at h
    · cases h; rfl
    · split at h
      · cases h; rfl
      · cases h

theorem concernsPage_of_makeLast (h : (fs.makeLast path).1 = .error fault) :
    fault.concernsPage = true := by
  unfold makeLast at h
  split at h
  · cases h
  · split at h
    · cases h
    · cases h; rfl
  · next hmake =>
    cases h
    unfold FileSystem.makeDirectory at hmake
    dsimp only at hmake
    split at hmake
    · cases hmake; rfl
    · next hl => cases hmake; exact Page.concernsPage_of_locate hl
    · split at hmake
      · cases hmake; rfl
      · cases hmake

theorem concernsPage_of_makeDirectories {depth : Nat}
    (h : (makeDirectories depth fs path).1 = .error fault) :
    fault.concernsPage = true := by
  induction depth generalizing path with
  | zero => cases h; rfl
  | succ depth ih =>
    -- the directories above are made first; if one is there already, the making goes on
    have hlast : ∀ {fs : FileSystem}, (if (splitLast path).2 = Path.here then (.ok (), fs)
        else fs.makeLast path : Except Fault Unit × FileSystem).1 = .error fault →
        fault.concernsPage = true := by
      intro fs h
      split at h
      · cases h
      · exact concernsPage_of_makeLast h
    rw [makeDirectories_succ] at h
    split at h
    · dsimp only at h
      split at h
      · exact hlast h
      · exact hlast h
      · next habove =>
        cases h
        exact ih habove
    · exact concernsPage_of_makeLast h

end FileSystem

namespace Build

open SiteOptimizer.Module FileSystem Work

/-! ## What goes wrong behind the scan -/

/-- The way in which everything behind the scan of a run fails. -/
def Spared (fault : Fault) : Prop :=
  fault.isRefusal = false

theorem spared_of_concernsPage {fault : Fault} (h : fault.concernsPage = true) : Spared fault :=
  Fault.isRefusal_of_concernsPage h

theorem spared_of_urlOf {root path : Path} {fault : Fault}
    (h : Page.urlOf root path = .error fault) :
    Spared fault := by
  unfold Page.urlOf at h
  split at h <;> cases h
  rfl

theorem spared_of_documentOf {root : Path} {settings : Settings} {report : Report} {fault : Fault}
    (h : documentOf root settings report = .error fault) : Spared fault := by
  have hurls : ∀ {paths : List Path}, paths.mapM (Page.urlOf root) = .error fault →
      Spared fault := by
    intro paths h
    obtain ⟨path, -, hpath⟩ := error_of_mapM h
    exact spared_of_urlOf hpath
  -- nothing in making the document can fail but the URL of some path
  unfold documentOf ManifestDocument.ofManifest at h
  rcases error_of_bind h with hpages | ⟨pages, -, h⟩
  · obtain ⟨page, -, hpage⟩ := error_of_mapM hpages
    rcases error_of_bind hpage with hpage | ⟨urls, -, hpage⟩
    · unfold PageUrls.ofDependencies at hpage
      rcases error_of_bind hpage with hcss | ⟨css, -, hpage⟩
      · exact hurls hcss
      · rcases error_of_bind hpage with hjs | ⟨js, -, hpure⟩
        · exact hurls hjs
        · cases hpure
    · rcases error_of_bind hpage with hurl | ⟨url, -, hpure⟩
      · exact spared_of_urlOf hurl
      · cases hpure
  · rcases error_of_bind h with hgenerated | ⟨generated, -, hpure⟩
    · exact hurls hgenerated
    · cases hpure

theorem failsWith_makeDirectories (path : Path) : FailsWith Spared (Work.makeDirectories path) := by
  refine failsWith_files.bind fun files => (failsWith_setFiles _).bind fun _ => ?_
  refine failsWith_ofExcept fun fault (h : (files.makeAll path).1 = .error fault) => ?_
  exact spared_of_concernsPage (concernsPage_of_makeDirectories h)

theorem failsWith_write (path : Path) (text : Text) : FailsWith Spared (Work.write path text) := by
  refine failsWith_files.bind fun files => FailsWith.bind (failsWith_ofExcept fun fault h =>
    ?_) failsWith_setFiles
  exact spared_of_concernsPage (concernsPage_of_write h)

/-- Whatever a task meets is written down, a fault of the set-up included. -/
theorem failsWith_attemptTask (job : Job) (modules : List Path → Work (List Path)) (path : Path) :
    FailsWith Spared (attemptTask job modules path) := by
  refine (failsWith_attempt _).bind fun result => ?_
  cases result with
  | ok _ => exact failsWith_pure none
  | error cause =>
    refine (failsWith_ofExcept fun _ => spared_of_urlOf).bind fun url => ?_
    exact (failsWith_note _).bind fun _ => failsWith_pure _

/-- The combined stylesheet fails like the files, or like the minifier. -/
theorem failsWith_generate {settings : Settings} {minify : Minify.Backend}
    (hcss : ∀ code fault, minify.css code = .error fault → fault.isRefusal = false) (root : Path)
    (manifest : Page.Manifest) : FailsWith Spared (generate root settings minify manifest) := by
  have hbuild : FailsWith Spared (buildStylesheet manifest (styleMinifier settings minify)) := by
    intro s fault s' h
    obtain ⟨s'', -, hbuilt⟩ := buildStylesheet_eq manifest (styleMinifier settings minify) s
    rw [hbuilt] at h
    cases htext : combinedText s.files manifest (styleMinifier settings minify) with
    | ok code => rw [htext] at h; cases h
    | error fault' =>
      rw [htext] at h
      cases h
      -- a fault of the text is one of the bytes or one of the minifier
      rcases fault_of_combinedText htext with ⟨flaw, hflaw⟩ | ⟨code, hcode⟩
      · rw [hflaw]
        rfl
      · exact hcss code fault hcode
  unfold generate
  split
  · exact failsWith_pure []
  · refine hbuild.bind fun code => ?_
    split
    · exact failsWith_pure []
    · refine (failsWith_makeDirectories _).bind fun _ => ?_
      exact (failsWith_write _ code).bind fun _ => failsWith_pure [stylesheetPath root settings]

theorem failsWith_finish (settings : Settings) (root : Path) (report : Report) :
    FailsWith Spared (finish settings root report) := by
  refine (failsWith_ofExcept fun _ => spared_of_documentOf).bind fun document => ?_
  refine FailsWith.bind ?_ fun _ => (failsWith_note _).bind fun _ => failsWith_pure report
  exact (failsWith_makeDirectories _).bind fun _ => failsWith_write _ _

/-! ## The run -/

/-- **While the minifier runs, a refusal comes before the first write.** -/
theorem files_eq_of_optimizeAll {settings : Settings} {minify : Minify.Backend} {source : Source}
    {inventory : Inventory} {s s' : Session} {fault : Fault}
    (hcss : ∀ code fault, minify.css code = .error fault → fault.isRefusal = false)
    (h : optimizeAll settings minify source inventory s = .error fault s')
    (hrefusal : fault.isRefusal = true) :
    s'.files = s.files := by
  -- up to here nothing is written, and from here on nothing fails like a set-up or a scan
  have hscan : LooksUp (Page.scanAll source.recallModules inventory.pages inventory.root) :=
    (LooksUp.mapM (Page.looksUp_scanNoting source inventory.root) _).bind
      fun found => looksUp_pure _
  refine hscan.files_eq_of_error (fun manifest => ?_) h
    (show ¬ Spared fault by simp [Spared, hrefusal])
  refine FailsWith.bind (fun _ _ _ h => nomatch h) fun s => (failsWith_note _).bind fun _ => ?_
  refine failsWith_files.bind fun files => ?_
  refine (FailsWith.filterMapM (failsWith_attemptTask _ _) _).bind fun failures => ?_
  exact (failsWith_generate hcss _ manifest).bind fun generated => failsWith_pure _

/-- The document is written after the minifier has been closed, and it
fails for reasons of its own. -/
theorem files_eq_of_concluded {settings : Settings} {root : Path} {minifiers : List Minify.Minifier}
    {result : EStateM.Result Fault Session Report} {fs : FileSystem} {fault : Fault}
    (hrun : ∀ s', result = .error fault s' → s'.files = fs)
    (h : (concluded settings root minifiers result).result = .error fault)
    (hrefusal : fault.isRefusal = true) :
    (concluded settings root minifiers result).session.files = fs := by
  cases result with
  | error fault' s' =>
    cases h
    exact hrun s' rfl
  | ok report s' =>
    unfold concluded at h
    dsimp only at h
    cases hfinish : finish settings root report s' with
    | ok report' s'' => rw [hfinish] at h; cases h
    | error fault' s'' =>
      rw [hfinish] at h
      cases h
      have hspared : Spared fault := failsWith_finish settings root report s' fault s'' hfinish
      rw [Spared, hrefusal] at hspared
      cases hspared

theorem minifiers_concluded (settings : Settings) (root : Path) (minifiers : List Minify.Minifier)
    (result : EStateM.Result Fault Session Report) :
    (concluded settings root minifiers result).minifiers = minifiers := by
  cases result with
  | error fault s => rfl
  | ok report s =>
    unfold concluded
    dsimp only
    cases finish settings root report s <;> rfl

/-- **A run that is refused leaves all files as they were, and no run leaves a minifier running.**
Imports may come from anywhere and fail in any way, and so may the minifier on scripts and pages;
on the combined stylesheet alone it must not fail like a set-up or a scan, since that failure
would end the run as it is. -/
theorem refusal_spares_files (plan : Plan) (files : FileSystem)
    (hcss : ∀ code fault, plan.supply.backend.css code = .error fault → fault.isRefusal = false) :
    (∀ fault, (optimize plan files).result = .error fault → fault.isRefusal = true →
      (optimize plan files).session.files = files) ∧
    ∀ minifier ∈ (optimize plan files).minifiers, minifier.running = false := by
  rcases run_starts plan files with hunstarted | ⟨listed, s, minifiers, hstarted⟩
  · exact ⟨fun _ _ _ => hunstarted.files_eq, hunstarted.closed⟩
  · rw [hstarted.run_eq]
    refine ⟨fun fault h hrefusal => files_eq_of_concluded (fun s' hall => ?_) h hrefusal, ?_⟩
    · exact (files_eq_of_optimizeAll hcss hall hrefusal).trans hstarted.remembers.files_eq
    · rw [minifiers_concluded]
      exact hstarted.closed

/-- A site whose page is no text. -/
def brokenPage : FileSystem where
  files := [(["site".toList, "app.js".toList], Utf8.encode "import \"./a.css.proxy.js\";".toList),
    (["site".toList, "index.html".toList], [255])]
  directories := [["site".toList]]
  sealedPlaces := []

theorem optimize_brokenPage : (optimize combiningPlan brokenPage).result =
    .error (.scan "/site/index.html".toList (.undecodable ⟨.invalidStart, 255, 0, 1⟩)) := by
  have hdirectory : directoryPlace brokenPage (Path.absolute combiningPlan.directory) =
      .ok ["site".toList] := by
    decide +kernel
  have hbelow : brokenPage.listBelow ["site".toList] =
      .ok [["app.js".toList], ["index.html".toList]] := by
    decide +kernel
  have hlisted : listFiles brokenPage (Path.absolute combiningPlan.directory)
      combiningPlan.settings.exclude combiningPlan.settings.metaDir =
        .ok ["/site/app.js".toList, "/site/index.html".toList] :=
    listFiles_of_listBelow hdirectory hbelow (by decide +kernel) (by decide +kernel)
  unfold optimize runWith
  rw [takeInventory_of_listFiles hlisted]
  decide +kernel

/-- The page that is no text ends the run with a fault of the scan, so the
files are as they were. -/
theorem spared_brokenPage :
    (∀ code fault, combiningPlan.supply.backend.css code = .error fault → fault.isRefusal = false) ∧
    (∃ page cause, (optimize combiningPlan brokenPage).result = .error (.scan page cause)) ∧
    (optimize combiningPlan brokenPage).session.files = brokenPage ∧
    ∀ minifier ∈ (optimize combiningPlan brokenPage).minifiers, minifier.running = false := by
  have hcss : ∀ code fault, combiningPlan.supply.backend.css code = .error fault →
      fault.isRefusal = false :=
    fun _ _ h => nomatch h
  obtain ⟨hspares, hclosed⟩ := refusal_spares_files combiningPlan brokenPage hcss
  exact ⟨hcss, ⟨_, _, optimize_brokenPage⟩, hspares _ optimize_brokenPage rfl, hclosed⟩

end Build
end SiteOptimizer
