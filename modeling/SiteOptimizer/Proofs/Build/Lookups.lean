import SiteOptimizer.Proofs.Build.StyleLinks
import SiteOptimizer.Proofs.Page.Entries

/-!
# Modules are looked up during the scan alone

The tasks of a run rewrite scripts while the tasks on pages still need to know what those import.
This goes well because the scan has left in the memory whatever a task on a page can come to,
although the two read the page in different ways. So the tasks look nothing up (`lookups_scanned`):
not one after the other, as a run does them, nor in any other order, since what a task finds before
it writes leaves the state as it is.
-/

namespace SiteOptimizer
namespace Build

open SiteOptimizer.Module FileSystem Work

/-! ## Finding the text of a file -/

/-- What is optimized as a page is one, so the scan has seen it. -/
theorem isPage_of_ofPath? {path : Path}
    (h : FileKind.ofPath? path = some .html) : isPage path = true := by
  have hsuffix : Text.lower (Path.suffix path) = ".html".toList := by
    unfold FileKind.ofPath? at h
    dsimp only at h
    split at h
    · cases h
    · split at h
      · cases h
      · split at h
        · assumption
        · cases h
  -- only the small form of a sigma depends on what stands in front of it
  have hplain : ∀ c ∈ Text.lower (Path.suffix path), c ∉ ['ς', 'σ'] := by
    rw [hsuffix]
    decide
  have hend := Text.lower_isSuffix (Path.suffix_isSuffix path) hplain
  rw [hsuffix] at hend
  exact List.isSuffixOf_iff_suffix.2 hend

theorem still_give {α : Type} (known : Except Fault α) (s : Session) : Still (give known) s := by
  cases known <;> rfl

section Change

variable {job : Job} {source : Source} {path : Path} {s : Session}

theorem still_preloadPage {code : Text} {paths : List Path} (hclosed : s.memory.Closed paths)
    (hentries : ∀ p ∈ Page.moduleEntries code path job.root, p ∈ paths) :
    Still (job.preloadPage source.recallModules path code) s := by
  have hsearch : Still (source.recallModules (Page.moduleEntries code path job.root)) s := by
    rcases recallModules_closed hclosed hentries with ⟨found, hfound, -⟩ | hfault
    · exact after_of_ok hfound
    · exact after_of_error hfault
  unfold Job.preloadPage Page.preload
  split
  · refine hsearch.bind fun found _ => ?_
    dsimp only
    split
    · rfl
    · split <;> rfl
  · rfl

/-- **Finding the text of a file leaves the state as it is** if the modules that a page names once
it has been linked are remembered with all that they import. -/
theorem still_change
    (h : ∀ code, s.files.readText path = .ok code → FileKind.ofPath? path = some .html →
      ∃ paths, s.memory.Closed paths ∧
        ∀ p ∈ Page.moduleEntries (job.linkStyles path code) path job.root, p ∈ paths) :
    Still (job.change source.recallModules path) s := by
  unfold Job.change
  cases hkind : (FileKind.ofPath? path).filter job.concerns with
  | none => rfl
  | some kind =>
    refine Still.bind rfl fun files hfiles => ?_
    obtain rfl : files = s.files := by
      cases hfiles
      rfl
    refine (still_ofExcept _ s).bind fun code hcode => ?_
    -- only a page needs anything of the memory, and it needs it for the text that is there now
    have hread : s.files.readText path = .ok code := (of_ofExcept_ok hcode).1
    refine Still.bind ?_ fun text _ => rfl
    cases kind with
    | css =>
      rw [Job.optimize_css]
      exact still_give _ s
    | js =>
      rw [Job.optimize_js]
      exact still_give _ s
    | html =>
      rw [Job.optimize_html]
      obtain ⟨paths, hclosed, hentries⟩ := h code hread (Option.filter_eq_some_iff.1 hkind).1
      exact (still_preloadPage hclosed hentries).bind fun text _ => still_give _ s

end Change

/-! ## Pages that the scan has seen -/

/-- A page that names its modules however it is read: every quote that opens a value is closed, and
no source of a script has a carriage return. -/
structure ReadsAlike (code : Text) : Prop where
  closed : ∀ q, Markup.IsQuote q → Markup.QuoteClosed q .text code
  plain : Page.PlainSources code

/-- **The modules of a linked page are remembered** once the scan has seen the page. -/
theorem exists_closed_of_remembered {job : Job} {files : FileSystem} {page : Path} {s : Session}
    {code : Text} (h : Page.Remembered job.root files page s)
    (hname : '"' ∉ job.settings.combinedCssName) (hread : files.readText page = .ok code)
    (hpage : ReadsAlike code) : ∃ paths, s.memory.Closed paths ∧
      ∀ p ∈ Page.moduleEntries (job.linkStyles page code) page job.root, p ∈ paths := by
  obtain ⟨document, paths, hdocument, hclosed, hscripts⟩ := h
  have hunified : document = Text.unifyNewlines code := by
    unfold FileSystem.readDocument at hdocument
    rw [hread] at hdocument
    cases hdocument
    rfl
  have hlinked : Page.moduleEntries (job.linkStyles page code) page job.root =
      Page.moduleEntries code page job.root := by
    unfold Job.linkStyles
    split
    · rw [styleLink_eq]
      exact Page.moduleEntries_inject_link hname hpage.closed page job.root
    · rfl
  refine ⟨paths, hclosed, fun p hp => hscripts p ?_⟩
  rw [hunified]
  rw [hlinked] at hp
  exact Page.mem_scripts_unifyNewlines hpage.plain hp

/-- The scan has seen the pages among these files, and they name their
modules however they are read. -/
structure Scanned (job : Job) (files : FileSystem) (paths : List Path) (s : Session) : Prop where
  name : '"' ∉ job.settings.combinedCssName
  remembered : ∀ path ∈ paths, isPage path = true → Page.Remembered job.root files path s
  pages : ∀ path ∈ paths, isPage path = true → ∀ code,
    files.readText path = .ok code → ReadsAlike code

section Tasks

variable {job : Job} {source : Source} {files : FileSystem} {paths : List Path}
    {path : Path} {s : Session}

theorem Scanned.covers (h : Scanned job files paths s) (hpath : path ∈ paths)
    (hpage : isPage path = true) {code : Text} (hread : files.readText path = .ok code) :
    s.memory.Covers (Page.moduleEntries (job.linkStyles path code) path job.root) := by
  obtain ⟨known, hclosed, hentries⟩ :=
    exists_closed_of_remembered (h.remembered path hpath hpage) h.name hread
    (h.pages path hpath hpage code hread)
  exact hclosed.covers hentries

/-- **A task finds its text without looking anything up**, whatever other tasks have done before. -/
theorem Scanned.still_change (h : Scanned job files paths s) (hpath : path ∈ paths)
    {before : Session} (hbefore : Untouched files [path] before.files)
    (hkept : s.memory.Kept before.memory) :
    Still (job.change source.recallModules path) before := by
  refine Build.still_change fun code hread hkind => ?_
  have hpage := isPage_of_ofPath? hkind
  have hsame : before.files.readText path = files.readText path :=
    hbefore.alike.readText (hbefore.bytes path (List.mem_singleton.2 rfl))
  rw [hsame] at hread
  obtain ⟨known, hclosed, hentries⟩ :=
    exists_closed_of_remembered (h.remembered path hpath hpage) h.name hread
    (h.pages path hpath hpage code hread)
  exact ⟨known, hclosed.kept hkept, hentries⟩

variable {modules : List Path → Work (List Path)}

/-- Writing what has been found looks nothing up. -/
theorem quiet_attemptTask (h : Still (job.change modules path) s) :
    Quiet (attemptTask job modules path) s := by
  -- writing and taking notes never touch the memory
  have hcommit : ∀ found s, Quiet (job.commit path found) s := by
    intro found s
    cases found with
    | none => exact .refl s
    | some code =>
      refine (quiet_write path code s).bind fun _ s' _ => ?_
      refine (still_ofExcept _ s').quiet.bind fun url s'' _ => ?_
      exact (quiet_note _ s'').bind fun _ last _ => .refl last
  have hrun : Quiet (job.run modules path) s := by
    rw [Job.run_eq]
    exact h.quiet.bind fun found s' _ => hcommit found s'
  unfold attemptTask
  refine hrun.attempt.bind fun result s' _ => ?_
  cases result with
  | ok _ => exact .refl s'
  | error cause =>
    refine (still_ofExcept _ s').quiet.bind fun url s'' _ => ?_
    exact (quiet_note _ s'').bind fun _ last _ => .refl last

/-- **Tasks look nothing up one after the other** if none of them does as long as its file is
untouched and nothing has been forgotten. -/
theorem quiet_tasks (hkeep : ∀ entries, LooksUp (modules entries)) {tasks : List Path}
    (hapart : Apart files tasks) (hs : Untouched files tasks s.files) {memory : Memory}
    (hmemory : memory.Kept s.memory)
    (hstill : ∀ path ∈ tasks, ∀ before : Session, Untouched files [path] before.files →
      memory.Kept before.memory → Still (job.change modules path) before) :
    Quiet (tasks.filterMapM (attemptTask job modules)) s := by
  -- the files of the tasks that are left are untouched, since each task
  -- writes to its own file alone
  refine quiet_filterMapM (fun left s => left <:+ tasks ∧ Untouched files left s.files ∧
    memory.Kept s.memory) (fun path left s hneed => ?_) ⟨List.suffix_refl _, hs, hmemory⟩
  obtain ⟨hsuffix, huntouched, hkept⟩ := hneed
  have hapart' : Apart files (path :: left) := hapart.sublist hsuffix.sublist
  have hown : Untouched files [path] s.files := by
    refine ⟨huntouched.alike, fun p hp => huntouched.bytes p ?_⟩
    rw [List.mem_singleton.1 hp]
    exact List.mem_cons_self
  refine ⟨quiet_attemptTask (hstill path (hsuffix.subset List.mem_cons_self) s hown hkept),
    fun b s' hw => ?_⟩
  obtain ⟨failure, s'', hattempt, hkept', hattempted⟩ :=
    @Job.attemptTask_ends job modules path s hkeep (hapart'.namesFile path List.mem_cons_self)
  rw [hw] at hattempt
  cases hattempt
  exact ⟨(List.suffix_cons path left).trans hsuffix, huntouched.next hapart' hattempted,
    hkept.trans hkept'⟩

/-- The tasks of a run look nothing up once the scan has come through. -/
theorem Scanned.quiet_tasks (h : Scanned job files paths s) {tasks : List Path}
    (hapart : Apart files tasks) (htasks : ∀ path ∈ tasks, path ∈ paths) {before : Session}
    (hfiles : before.files = files) (hmemory : before.memory = s.memory) :
    Quiet (tasks.filterMapM (attemptTask job source.recallModules)) before := by
  have huntouched : Untouched files tasks before.files := by
    rw [hfiles]
    exact ⟨.refl files, fun _ _ _ _ => rfl⟩
  have hkept : s.memory.Kept before.memory := by
    rw [hmemory]
    exact .refl s.memory
  exact Build.quiet_tasks (looksUp_recallModules source) hapart huntouched hkept
    fun path hpath later huntouched' hkept' => h.still_change (htasks path hpath) huntouched' hkept'

end Tasks

/-! ## The rest of a run -/

theorem quiet_buildStylesheet (manifest : Page.Manifest)
    (minify? : Option (Text → Except Fault Text)) (s : Session) :
    Quiet (buildStylesheet manifest minify?) s := by
  have hpart : ∀ source s, Quiet (stylesheetPart source) s := by
    intro source s
    refine Quiet.bind (.refl s) fun files s' _ => ?_
    split
    · exact (still_ofExcept _ s').quiet.bind fun text s'' _ => .refl s''
    · exact (quiet_note _ s').bind fun _ s'' _ => .refl s''
  have hparts : Quiet (stylesheetParts manifest) s :=
    quiet_filterMapM (fun _ _ => True) (fun source _ s _ =>
      ⟨hpart source s, fun _ _ _ => trivial⟩) trivial
  refine hparts.bind fun parts s' _ => ?_
  dsimp only
  split
  · split
    · exact .refl s'
    · exact (still_ofExcept _ s').quiet
  · exact .refl s'

theorem quiet_generate (root : Path) (settings : Settings) (minify : Minify.Backend)
    (manifest : Page.Manifest) (s : Session) :
    Quiet (generate root settings minify manifest) s := by
  unfold generate
  split
  · exact .refl s
  · refine (quiet_buildStylesheet manifest _ s).bind fun code s' _ => ?_
    split
    · exact .refl s'
    · refine (quiet_makeDirectories _ s').bind fun _ s'' _ => ?_
      exact (quiet_write _ _ s'').bind fun _ last _ => .refl last

theorem quiet_finish (settings : Settings) (root : Path) (report : Report) (s : Session) :
    Quiet (finish settings root report) s := by
  unfold finish writeDocument
  refine (still_ofExcept _ s).quiet.bind fun document s' _ => ?_
  rw [bind_assoc]
  refine (quiet_makeDirectories _ s').bind fun _ s'' _ => ?_
  refine (quiet_write _ _ s'').bind fun _ s''' _ => ?_
  exact (quiet_note _ s''').bind fun _ last _ => .refl last

/-- The work with the minifier looks nothing up once the scan has come through,
if the tasks look nothing up. -/
theorem unasked_optimizeAll (settings : Settings) (minify : Minify.Backend) {source : Source}
    (inventory : Inventory) {started s : Session} {manifest : Page.Manifest}
    (hscan : Page.scanAll source.recallModules inventory.pages inventory.root
      started = .ok manifest s)
    (htasks : ∀ s' : Session, s'.files = s.files → s'.memory = s.memory →
      Quiet (inventory.tasks.filterMapM (attemptTask (jobOf inventory.root settings minify s.files
        manifest) source.recallModules)) s') :
    Session.Unasked s (after (optimizeAll settings minify source inventory) started) := by
  unfold optimizeAll
  rw [after, bind_of_ok hscan]
  show Quiet _ s
  refine Quiet.bind (.refl s) fun got s' hgot => ?_
  cases hgot
  refine (quiet_note _ s).bind fun _ s' hs' => ?_
  cases hs'
  refine Quiet.bind (.refl _) fun files s' hfiles => ?_
  cases hfiles
  have hnoted :=
    htasks { s with notes := s.notes ++ [.scanFinished manifest.length s.memory.size] } rfl rfl
  refine hnoted.bind fun failures s' _ => ?_
  exact (quiet_generate _ _ _ _ s').bind fun generated last _ => .refl last

/-- A run has looked up no more than the work with the minifier. -/
theorem unasked_concluded (settings : Settings) (root : Path) (minifiers : List Minify.Minifier)
    (work : Work Report) (s : Session) :
    Session.Unasked (after work s) (concluded settings root minifiers (work s)).session := by
  unfold after
  cases work s with
  | error fault s' => exact .refl s'
  | ok report s' =>
    have hfinish := quiet_finish settings root report s'
    unfold Quiet after at hfinish
    show Session.Unasked s' (Outcome.ofResult minifiers (finish settings root report s')).session
    cases hf : finish settings root report s' <;> rwa [hf] at hfinish

/-- What the tasks of a run share whose scan has given this manifest. -/
def Plan.scannedJob (plan : Plan) (files : FileSystem) (manifest : Page.Manifest) : Job :=
  jobOf (Path.absolute plan.directory) plan.settings plan.supply.backend files manifest

/-- **All modules are looked up during the scan.** Let the scan of a run come through, where the
pages of the build directory name their modules however they are read and the URL of the combined
stylesheet has no double quote. Then the memory covers what any page names once it has been linked;
each task finds its text without changing the state, at any moment before it writes; and at its end,
which may be any, the run has looked up what the scan has looked up. -/
theorem lookups_scanned (plan : Plan) {files : FileSystem} (hwf : files.WellFormed)
    (hname : '"' ∉ plan.settings.combinedCssName) {listed : List Path}
    (hlisted : listFiles files (Path.absolute plan.directory) plan.settings.exclude
      plan.settings.metaDir = .ok listed)
    (hpages : ∀ page ∈ listed, isPage page = true → ∀ code,
      files.readText page = .ok code → ReadsAlike code)
    {manifest : Page.Manifest} {s : Session} (hscan : scanOf plan files = .ok manifest s) :
    (∀ page ∈ listed, isPage page = true → ∀ code, files.readText page = .ok code →
      s.memory.Covers (Page.moduleEntries ((plan.scannedJob files manifest).linkStyles page code)
        page (Path.absolute plan.directory))) ∧
    (∀ path ∈ listed, ∀ before : Session, Untouched files [path] before.files →
      s.memory.Kept before.memory →
      Still ((plan.scannedJob files manifest).change
        (plan.source (Path.absolute plan.directory)).recallModules path) before) ∧
    Session.Unasked s (optimize plan files).session := by
  rcases run_starts plan files with
    ⟨-, -, hnone⟩ | ⟨found, started, minifiers, hfound, hs, hrun, hscanned, -⟩
  -- a run that does not start has scanned nothing
  · exact absurd hscan (hnone manifest s)
  obtain rfl : listed = found := Except.ok.inj (hlisted.symm.trans hfound)
  rw [hscanned] at hscan
  obtain ⟨hremembers, hpagesSeen⟩ := Page.remembered_of_scanAll hs hscan
  have hseen : Scanned (plan.scannedJob files manifest) files listed s :=
    ⟨hname, fun path hpath hpage => hpagesSeen path (List.mem_filter.2 ⟨hpath, hpage⟩), hpages⟩
  refine ⟨fun page hpage hispage code hread => hseen.covers hpage hispage hread,
    fun path hpath before hbefore hkept => hseen.still_change hpath hbefore hkept, ?_⟩
  rw [hrun]
  have hapart : Apart files (inventoryOf (Path.absolute plan.directory)
      plan.settings listed).tasks :=
    (apart_of_listFiles hwf hlisted).sublist List.filter_sublist
  have hwork := unasked_optimizeAll plan.settings plan.supply.backend
    (inventoryOf (Path.absolute plan.directory) plan.settings listed) hscan
        fun s' hfiles hmemory => by
      rw [hremembers.files_eq] at hfiles ⊢
      exact hseen.quiet_tasks hapart (fun path hpath => (List.mem_filter.1 hpath).1) hfiles hmemory
  exact hwork.trans (unasked_concluded ..)

/-- The page without a head is looked at twice, and each of its modules is looked up once. -/
theorem calls_headless :
    (optimize linkingPlan headlessSite).session.calls = [headlessScript, headlessProxy] := by
  have hpages : ∀ page ∈ ["/site/a.css".toList, headlessProxy, headlessScript, headlessIndex],
      isPage page = true → ∀ code, headlessSite.readText page = .ok code → ReadsAlike code := by
    have hindex : ∀ page ∈ ["/site/a.css".toList, headlessProxy, headlessScript, headlessIndex],
        isPage page = true → page = headlessIndex := by decide +kernel
    intro page hpage hispage code hread
    have htext : headlessSite.readText headlessIndex = .ok headlessPage := by decide +kernel
    rw [hindex page hpage hispage, htext] at hread
    cases hread
    refine ⟨?_, by decide +kernel⟩
    rintro q (rfl | rfl) <;> decide +kernel
  have hscan : scanOf linkingPlan headlessSite = .ok headlessReport.manifest headlessScanned := by
    have hstart : linkingPlan.supply.start (Minify.Minifier.ofTarget linkingPlan.settings.target) =
        .ok ⟨none, [], true⟩ := by decide +kernel
    have hnote : Work.note (.minifierStarted [])
        { Session.start headlessSite with notes := [.runStarted 3 1 headlessRoot] } =
          .ok () headlessStarted := rfl
    unfold scanOf
    rw [takeInventory_headless]
    dsimp only
    rw [hstart]
    exact (bind_of_ok hnote).trans scanAll_headless
  exact (lookups_scanned linkingPlan (by decide +kernel) (by decide +kernel) listFiles_headless
    hpages hscan).2.2.calls

end Build
end SiteOptimizer
