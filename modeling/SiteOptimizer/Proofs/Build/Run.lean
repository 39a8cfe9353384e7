import SiteOptimizer.Proofs.Build.Stylesheet
import SiteOptimizer.Proofs.Build.Task
import SiteOptimizer.Proofs.Page.Scan

/-!
# How a run ends

Every phase of a run but one wraps its faults: what is wrong with listing or with the minifier
is a fault of the set-up, what is wrong with a page is a fault of the scan, and what is wrong
with a task is written down in the report. Building the combined stylesheet has no such
wrapper (`optimize_ends_iff`).
-/

namespace SiteOptimizer
namespace Build

open SiteOptimizer.Module FileSystem Work

/-! ## Paths that have URLs -/

theorem ne_nil_of_resolve? {reference : Text} {referrer root path : Path}
    (h : Reference.resolve? reference referrer root = some path) : path ≠ [] := by
  have hnormal : ∀ p : Path, Path.normalize p ≠ [] := by
    intro p
    unfold Path.normalize
    dsimp only
    split
    · exact List.cons_ne_nil _ _
    · assumption
  unfold Reference.resolve? at h
  dsimp only at h
  split at h
  · cases h
  · split at h <;> (cases h; exact hnormal _)

theorem ne_nil_of_mem_scripts {code : Text} {page root path : Path}
    (h : path ∈ Page.scripts code page root) :
    path ≠ [] := by
  obtain ⟨reference, hresolve⟩ := Page.exists_resolve?_of_mem_scripts h
  exact ne_nil_of_resolve? hresolve

theorem ne_nil_of_mem_stylesheets {code : Text} {page root path : Path}
    (h : path ∈ Page.stylesheets code page root) : path ≠ [] := by
  obtain ⟨reference, hresolve⟩ := Page.exists_resolve?_of_mem_stylesheets h
  exact ne_nil_of_resolve? hresolve

theorem ne_nil_of_reachable {root : Path} {fs : FileSystem} {entries : List Path} {path : Path}
    (hentries : ∀ p ∈ entries, p ≠ [])
    (h : Reachable ((Source.scripts root).importsIn fs) entries path) : path ≠ [] := by
  cases h with
  | entry hp => exact hentries path hp
  | step _ hi ht =>
    obtain ⟨specifier, hresolve⟩ := exists_resolve?_of_importsIn hi ht
    exact ne_nil_of_resolve? hresolve

/-! ## The document -/

theorem exists_mapM {α β : Type} {f : α → Except Fault β} {l : List α}
    (h : ∀ a ∈ l, ∃ b, f a = .ok b) :
    ∃ bs, l.mapM f = .ok bs := by
  induction l with
  | nil => exact ⟨[], rfl⟩
  | cons a l ih =>
    obtain ⟨b, hb⟩ := h a List.mem_cons_self
    obtain ⟨bs, hbs⟩ := ih fun a ha => h a (List.mem_cons_of_mem _ ha)
    rw [List.mapM_cons, hb, hbs]
    exact ⟨b :: bs, rfl⟩

theorem error_of_bind {α β : Type} {known : Except Fault α} {f : α → Except Fault β} {fault : Fault}
    (h : known >>= f = .error fault) :
    known = .error fault ∨ ∃ a, known = .ok a ∧ f a = .error fault := by
  cases known with
  | error fault' =>
    cases h
    exact .inl rfl
  | ok a => exact .inr ⟨a, rfl, h⟩

theorem ok_of_bind {α β : Type} {known : Except Fault α} {f : α → Except Fault β} {b : β}
    (h : known >>= f = .ok b) : ∃ a, known = .ok a ∧ f a = .ok b := by
  cases known with
  | error fault => cases h
  | ok a => exact ⟨a, rfl, h⟩

/-- One item stands against a list. -/
theorem error_of_mapM {α β : Type} {f : α → Except Fault β} {l : List α} {fault : Fault}
    (h : l.mapM f = .error fault) : ∃ a ∈ l, f a = .error fault := by
  induction l with
  | nil => cases h
  | cons a l ih =>
    rw [List.mapM_cons] at h
    rcases error_of_bind h with ha | ⟨b, -, hrest⟩
    · exact ⟨a, List.mem_cons_self, ha⟩
    · rcases error_of_bind hrest with hl | ⟨bs, -, hpure⟩
      · obtain ⟨a', ha', hf⟩ := ih hl
        exact ⟨a', List.mem_cons_of_mem _ ha', hf⟩
      · cases hpure

/-- Every path that a manifest lists has a URL. -/
def HasUrls (manifest : Page.Manifest) : Prop :=
  ∀ entry ∈ manifest, entry.1 ≠ [] ∧ [] ∉ entry.2.css ∧ [] ∉ entry.2.js

/-- **The document of a manifest can be made** if every path has a URL. -/
theorem exists_documentOf {manifest : Page.Manifest} (h : HasUrls manifest) (root : Path)
    (settings : Settings) (files : List Path) {generated : List Path} (hgenerated : [] ∉ generated)
    (failures : List Failure) :
    ∃ document, documentOf root settings ⟨manifest, files, generated, failures⟩ = .ok document := by
  have hdependencies : ∀ entry ∈ manifest, ∀ combined, ∃ urls,
      PageUrls.ofDependencies root settings.preloadCss combined entry.2 = .ok urls := by
    intro entry he combined
    obtain ⟨-, hcss, hjs⟩ := h entry he
    have hjs : [] ∉ entry.2.js.filter fun path => !isCombined settings.preloadCss path :=
      fun hin => hjs (List.mem_filter.1 hin).1
    unfold PageUrls.ofDependencies
    rw [Page.mapM_urlOf root hcss, Page.mapM_urlOf root hjs]
    exact ⟨_, rfl⟩
  unfold documentOf ManifestDocument.ofManifest
  dsimp only
  -- each page has a URL, and so has all that it depends on
  have hpages := @exists_mapM _ _ (fun page : Path × Page.Dependencies => do
    let urls ← PageUrls.ofDependencies root settings.preloadCss
      (if generated = [] then none else some settings.combinedCssName) page.2
    return (← Page.urlOf root page.1, urls)) manifest.sorted fun entry he => by
      have he : entry ∈ manifest := (List.mergeSort_perm _ _).mem_iff.1 he
      obtain ⟨urls, hurls⟩ := hdependencies entry he
        (if generated = [] then none else some settings.combinedCssName)
      rw [hurls, Page.urlOf, Reference.projectUrl?_eq (h entry he).1]
      exact ⟨_, rfl⟩
  obtain ⟨pages, hpages⟩ := hpages
  rw [hpages, Page.mapM_urlOf root hgenerated]
  exact ⟨_, rfl⟩

theorem hasUrls_of_describes {root : Path} {fs : FileSystem} {manifest : Page.Manifest}
    {pages : List Path} (h : Page.Manifest.Describes root fs manifest)
    (hpages : ∀ entry ∈ manifest, entry.1 ∈ pages) (hne : [] ∉ pages) : HasUrls manifest := by
  intro entry he
  obtain ⟨code, hentry⟩ := h entry he
  refine ⟨fun hnil => hne (hnil ▸ hpages entry he), fun hnil => ?_, fun hnil => ?_⟩
  · exact ne_nil_of_mem_stylesheets ((hentry.mem_css []).1 hnil) rfl
  · exact ne_nil_of_reachable (fun p hp => ne_nil_of_mem_scripts hp) ((hentry.mem_js []).1 hnil) rfl

/-! ## The phases of a run -/

/-- What cannot be listed is a fault of the set-up. -/
theorem setup_of_listFiles {fs : FileSystem} {directory : Path} {exclude : List Text}
    {metaDir : Text} {fault : Fault} (h : listFiles fs directory exclude metaDir = .error fault) :
    ∃ trouble, fault = .setup trouble := by
  unfold listFiles directoryPlace at h
  dsimp only at h
  cases hl : fs.locate directory with
  | error fault' =>
    rw [hl] at h
    cases h
    exact ⟨_, rfl⟩
  | ok place =>
    rw [hl] at h
    dsimp only at h
    -- beside a path that leads nowhere, a file and a sealed directory are refused
    split at h
    · next heq =>
      split at heq
      · cases heq
      · cases heq
        cases h
        exact ⟨_, rfl⟩
    · split at h
      · cases h
        exact ⟨_, rfl⟩
      · cases h

/-- The files that a run works on, and those that it scans. -/
def inventoryOf (root : Path) (settings : Settings) (listed : List Path) : Inventory :=
  ⟨root, listed.filter isPage, listed.filter fun path =>
    !(settings.preloadCss && Script.isStyleProxy path)⟩

theorem takeInventory_of_listFiles {directory : Path} {settings : Settings} {fs : FileSystem}
    {listed : List Path}
    (h : listFiles fs (Path.absolute directory) settings.exclude settings.metaDir = .ok listed) :
    takeInventory directory settings (Session.start fs) =
      .ok (inventoryOf (Path.absolute directory) settings listed)
        { Session.start fs with
          notes := [.runStarted (inventoryOf (Path.absolute directory) settings listed).tasks.length
            (listed.filter isPage).length (Path.absolute directory)] } := by
  show EStateM.bind (Work.ofExcept (listFiles fs (Path.absolute directory) settings.exclude
    settings.metaDir)) _ (Session.start fs) = _
  rw [h]
  rfl

theorem takeInventory_eq (directory : Path) (settings : Settings) (fs : FileSystem) :
    ∃ s : Session, s.files = fs ∧ s.memory = .empty ∧
      takeInventory directory settings (Session.start fs) =
      match listFiles fs (Path.absolute directory) settings.exclude settings.metaDir with
      | .ok listed => .ok (inventoryOf (Path.absolute directory) settings listed) s
      | .error fault => .error fault (Session.start fs) := by
  cases hlisted : listFiles fs (Path.absolute directory) settings.exclude settings.metaDir with
  | ok listed => exact ⟨_, rfl, rfl, takeInventory_of_listFiles hlisted⟩
  | error fault =>
    refine ⟨Session.start fs, rfl, rfl, ?_⟩
    show EStateM.bind (Work.ofExcept (listFiles fs (Path.absolute directory) settings.exclude
      settings.metaDir)) _ (Session.start fs) = _
    rw [hlisted]
    rfl

/-- A minifier that does not start is a fault of the set-up, and one that
does lets its back end work. -/
theorem start_ends (supply : Minify.Supply) (minifier : Minify.Minifier) :
    (∃ trouble, supply.start minifier = .error (.setup trouble)) ∨
      ∃ started, supply.start minifier = .ok started ∧
        started.guard supply.backend = supply.backend := by
  unfold Minify.Supply.start
  dsimp only
  cases supply.refusal with
  | some fault => cases fault <;> exact .inl ⟨_, rfl⟩
  | none =>
    unfold Minify.Minifier.start
    cases Minify.targets minifier.target with
    | error fault => cases fault <;> exact .inl ⟨_, rfl⟩
    | ok targets => exact .inr ⟨_, rfl, rfl⟩

/-- The tasks of a run once its manifest is there. -/
def jobOf (root : Path) (settings : Settings) (minify : Minify.Backend) (fs : FileSystem)
    (manifest : Page.Manifest) : Job :=
  { root, settings, minify, manifest
    combined := some ((combinedSources manifest).filter fs.isFile) }

/-- The scan and the tasks of a run. -/
def workThrough (settings : Settings) (minify : Minify.Backend) (source : Source)
    (inventory : Inventory) :
    Work (Page.Manifest × List Failure) := do
  let manifest ← Page.scanAll source.recallModules inventory.pages inventory.root
  Work.note (.scanFinished manifest.length (← get).memory.size)
  let job := jobOf inventory.root settings minify (← Work.files) manifest
  let failures ← inventory.tasks.filterMapM (attemptTask job source.recallModules)
  return (manifest, failures)

/-- **A run scans, does its tasks, and writes the combined stylesheet.** -/
theorem optimizeAll_eq (settings : Settings) (minify : Minify.Backend) (source : Source)
    (inventory : Inventory) : optimizeAll settings minify source inventory =
      workThrough settings minify source inventory >>= fun found => do
        let generated ← generate inventory.root settings minify found.1
        return ⟨found.1, inventory.tasks, generated, found.2⟩ := by
  unfold optimizeAll workThrough jobOf
  simp only [bind_assoc, pure_bind]

/-- What the scan and the tasks of a run leave; the scan leaves the modules
of all pages in the memory. -/
structure Worked (root : Path) (settings : Settings) (minify : Minify.Backend)
    (inventory : Inventory) (fs : FileSystem) (memory : Memory) (manifest : Page.Manifest)
    (failures : List Failure) (after : FileSystem) : Prop where
  describes : Page.Manifest.Describes root fs manifest
  mem_pages : ∀ entry ∈ manifest, entry.1 ∈ inventory.pages
  closed : ∀ entry ∈ manifest, memory.Closed entry.2.js
  alike : Alike fs after
  elsewhere : ∀ place, (∀ path ∈ inventory.tasks, fs.locate path ≠ .ok place) →
    after.bytes? place = fs.bytes? place
  mem_tasks : ∀ f ∈ failures, f.path ∈ inventory.tasks
  done : ∀ path ∈ inventory.tasks,
    Done (jobOf root settings minify fs manifest) (Source.scripts root).recallModules fs
      memory path failures after

/-- **The scan and the tasks come through, or a page cannot be scanned.** -/
theorem workThrough_ends {root : Path} {fs : FileSystem} {s : Session}
    (hs : Remembers (Source.scripts root) fs s) (settings : Settings) (minify : Minify.Backend)
    {inventory : Inventory} (hroot : inventory.root = root) (hapart : Apart fs inventory.tasks) :
    (∃ manifest failures s' memory,
      workThrough settings minify (Source.scripts root) inventory s = .ok (manifest, failures) s' ∧
        Worked root settings minify inventory fs memory manifest failures s'.files) ∨
    ∃ page fault s', workThrough settings minify (Source.scripts root) inventory s =
      .error (.scan page fault) s' := by
  subst hroot
  unfold workThrough
  rcases Page.scanAll_ends hs inventory.pages with
    ⟨manifest, s', hscan, hs', hpages, hdescribes, hknown⟩ | ⟨page, fault, s', hscan⟩
  · left
    have hclosed : ∀ entry ∈ manifest, s'.memory.Closed entry.2.js := fun entry he => by
      obtain ⟨code, hentry⟩ := hdescribes entry he
      exact hentry.closed hs' (hknown entry he)
    -- the scan has changed no file, so the tasks find their files as the run found them
    have hstart : Untouched fs inventory.tasks s'.files :=
      ⟨hs'.files_eq ▸ .refl fs, fun _ _ _ _ => by rw [hs'.files_eq]⟩
    obtain ⟨failures, s'', hrun, halike, helsewhere, hpaths, hdone⟩ := @tasks_done
      (jobOf inventory.root settings minify fs manifest)
        (Source.scripts inventory.root).recallModules fs
      (looksUp_recallModules (Source.scripts inventory.root)) inventory.tasks hapart
      { s' with notes := s'.notes ++ [.scanFinished manifest.length s'.memory.size] }
        hstart s'.memory (.refl _)
    refine ⟨manifest, failures, s'', s'.memory, ?_, hdescribes, hpages, hclosed, halike,
      fun place hplace => ?_, hpaths, hdone⟩
    · rw [bind_of_ok hscan]
      rw [← hs'.files_eq] at hrun
      show (inventory.tasks.filterMapM
          (attemptTask (jobOf inventory.root settings minify s'.files manifest)
            (Source.scripts inventory.root).recallModules) >>= fun failures =>
          pure (manifest, failures))
        { s' with notes := s'.notes ++ [.scanFinished manifest.length s'.memory.size] } = _
      rw [bind_of_ok hrun]
      rfl
    · rw [helsewhere place hplace]
      exact congrArg (·.bytes? place) hs'.files_eq
  · exact .inr ⟨page, fault, s', bind_of_error hscan⟩

/-! ## Writing the results -/

/-- The path of the combined stylesheet. -/
def stylesheetPath (root : Path) (settings : Settings) : Path :=
  Path.join root (settings.combinedCssName.dropWhile (· = '/'))

/-- What a run does to the combined stylesheet. -/
def styleMinifier (settings : Settings) (minify : Minify.Backend) :
    Option (Text → Except Fault Text) :=
  if settings.minifyCss then some minify.css else none

/-- The combined stylesheet and the document of the manifest name places where files can be written,
the document also when the stylesheet has been written before it. -/
structure Placed (root : Path) (settings : Settings) (fs : FileSystem) : Prop where
  document : Writable fs (documentPath root settings.metaDir)
  stylesheet : settings.preloadCss = true → ∃ place after,
    Accepts fs (stylesheetPath root settings) place after ∧
      ∀ bytes, Writable (after.put place bytes) (documentPath root settings.metaDir)

theorem Placed.alike {root : Path} {settings : Settings} {fs fs' : FileSystem} (h : Alike fs fs')
    (hp : Placed root settings fs) : Placed root settings fs' where
  document := hp.document.alike h
  stylesheet hcss := by
    obtain ⟨place, after, ha, hw⟩ := hp.stylesheet hcss
    obtain ⟨after', ha', hafter⟩ := ha.alike h
    exact ⟨place, after', ha', fun bytes => (hw bytes).alike (hafter.put_both place bytes bytes)⟩

/-- What writing the combined stylesheet leaves: nothing new, or the stylesheet
and a document to be written. -/
theorem generate_ends {root : Path} {settings : Settings} (minify : Minify.Backend)
    (manifest : Page.Manifest) {s : Session} (hp : Placed root settings s.files) :
    (∃ generated s', generate root settings minify manifest s = .ok generated s' ∧ [] ∉ generated ∧
      Writable s'.files (documentPath root settings.metaDir) ∧
      (s'.files = s.files ∨ Wrote s.files (stylesheetPath root settings) s'.files) ∧
      (settings.preloadCss = true →
        ∃ code, combinedText s.files manifest (styleMinifier settings minify) = .ok code)) ∨
    ∃ fault s', generate root settings minify manifest s = .error fault s' ∧
      settings.preloadCss = true ∧
      combinedText s.files manifest (styleMinifier settings minify) = .error fault := by
  unfold generate
  cases hcss : settings.preloadCss with
  | false => exact .inl ⟨[], s, rfl, nofun, hp.document, .inl rfl, nofun⟩
  | true =>
    obtain ⟨s', hs', hbuild⟩ := buildStylesheet_eq manifest (styleMinifier settings minify) s
    rw [if_neg (by simp)]
    cases htext : combinedText s.files manifest (styleMinifier settings minify) with
    | error fault =>
      rw [htext] at hbuild
      exact .inr ⟨fault, s', bind_of_error hbuild, rfl, rfl⟩
    | ok code =>
      rw [htext] at hbuild
      left
      -- an empty stylesheet is not written, and then the files stay as they are
      by_cases hnil : code = []
      · refine ⟨[], s', ?_, nofun, hs' ▸ hp.document, .inl hs', fun _ => ⟨code, rfl⟩⟩
        refine (bind_of_ok hbuild).trans ?_
        rw [if_pos hnil]
        rfl
      · obtain ⟨place, after, ha, hw⟩ := hp.stylesheet hcss
        refine ⟨[stylesheetPath root settings],
          { s' with files := after.put place (Utf8.encode code) }, ?_,
          by simpa using Ne.symm ha.namesFile.1, hw (Utf8.encode code), .inr (.intro _ ha),
          fun _ => ⟨code, rfl⟩⟩
        refine (bind_of_ok hbuild).trans ?_
        rw [if_neg hnil]
        exact write_of_accepts (hs' ▸ ha) code fun _ => pure [stylesheetPath root settings]

/-- **The document is written**, so a run that has come that far gives its report. -/
theorem finish_ends {root : Path} {settings : Settings} {report : Report} {s : Session}
    (hurls : HasUrls report.manifest) (hgenerated : [] ∉ report.generated)
    (hw : Writable s.files (documentPath root settings.metaDir)) :
    ∃ s', finish settings root report s = .ok report s' ∧
      Wrote s.files (documentPath root settings.metaDir) s'.files := by
  obtain ⟨document, hdocument⟩ :=
    exists_documentOf hurls root settings report.files hgenerated report.failures
  obtain ⟨place, after, ha⟩ := hw
  let closing : Note := if report.failures = [] then .runFinished report.files.length
    else .runFailed report.failures.length report.files.length
  have hstart : (Work.ofExcept (documentOf root settings report) : Work ManifestDocument) s =
      .ok document s := by
    rw [show documentOf root settings report = .ok document from hdocument]
    rfl
  have hwrite := write_of_accepts ha document.toJson.render
    fun _ : Unit => (Work.note closing >>= fun _ => pure report : Work Report)
  refine ⟨{ s with
    files := after.put place (Utf8.encode document.toJson.render)
    notes := s.notes ++ [closing] }, (bind_of_ok hstart).trans ?_, .intro _ ha⟩
  unfold writeDocument
  rw [bind_assoc]
  exact hwrite

/-! ## The run as a whole -/

theorem undecodable_of_isFile {fs : FileSystem} {path : Path} {fault : Fault}
    (hfile : fs.isFile path = true) (h : fs.readText path = .error fault) :
    ∃ flaw, fault = .undecodable flaw := by
  unfold FileSystem.isFile at hfile
  split at hfile
  · next place hl =>
    simp only [Bool.and_eq_true, Bool.not_eq_eq_eq_not, Bool.not_true] at hfile
    obtain ⟨hdir, hsome⟩ := hfile
    obtain ⟨bytes, hbytes⟩ := Option.isSome_iff_exists.1 hsome
    rw [readText_eq hl hdir hbytes] at h
    cases hdecode : Utf8.decode bytes with
    | error flaw => rw [hdecode] at h; cases h; exact ⟨flaw, rfl⟩
    | ok text => rw [hdecode] at h; cases h
  · cases hfile

/-- What stands against the combined stylesheet is a file that is no text, or the minifier. -/
theorem fault_of_combinedText {fs : FileSystem} {manifest : Page.Manifest} {settings : Settings}
    {minify : Minify.Backend} {fault : Fault}
    (h : combinedText fs manifest (styleMinifier settings minify) = .error fault) :
    (∃ flaw, fault = .undecodable flaw) ∨ ∃ text, minify.css text = .error fault := by
  unfold combinedText at h
  cases hparts : ((combinedSources manifest).filter fs.isFile).mapM fs.readText with
  | error fault' =>
    rw [hparts] at h
    cases h
    -- a stylesheet that is combined is there, so reading it can only fail for its bytes
    obtain ⟨source, hsource, hread⟩ := error_of_mapM hparts
    exact .inl (undecodable_of_isFile (List.mem_filter.1 hsource).2 hread)
  | ok parts =>
    rw [hparts] at h
    unfold styleMinifier at h
    cases hc : settings.minifyCss with
    | false => rw [hc] at h; cases h
    | true =>
      rw [hc, if_pos rfl] at h
      dsimp only [Except.bind] at h
      split at h
      · cases h
      · exact .inr ⟨_, h⟩

/-- How a run may end: with a report, or with a fault of the set-up or of the scan. -/
def Kept (result : Except Fault Report) : Prop :=
  (∃ report, result = .ok report) ∨ (∃ trouble, result = .error (.setup trouble)) ∨
    ∃ page cause, result = .error (.scan page cause)

/-- The combined stylesheet of a run that comes to write one, as it stands after the tasks: its
text, or the fault that stands against it. Work that does not come so far has nothing against it. -/
def combinedAfter (settings : Settings) (minify : Minify.Backend) :
    EStateM.Result Fault Session (Page.Manifest × List Failure) → Except Fault Text
  | .error _ _ => .ok []
  | .ok (manifest, _) s =>
    if settings.preloadCss then combinedText s.files manifest (styleMinifier settings minify)
    else .ok []

/-- The combined stylesheet of a run. -/
def combinedOf (plan : Plan) (files : FileSystem) : Except Fault Text :=
  match takeInventory plan.directory plan.settings (Session.start files) with
  | .error _ _ => .ok []
  | .ok inventory session =>
    match plan.supply.start (.ofTarget plan.settings.target) with
    | .error _ => .ok []
    | .ok minifier =>
      let work := do
        Work.note (.minifierStarted minifier.targets)
        workThrough plan.settings plan.supply.backend (plan.source inventory.root) inventory
      combinedAfter plan.settings plan.supply.backend (work session)

/-- The scan of a run, with what is done before it. -/
def scanOf (plan : Plan) (files : FileSystem) : EStateM.Result Fault Session Page.Manifest :=
  match takeInventory plan.directory plan.settings (Session.start files) with
  | .error fault session => .error fault session
  | .ok inventory session =>
    match plan.supply.start (.ofTarget plan.settings.target) with
    | .error fault => .error fault session
    | .ok minifier =>
      let work := do
        Work.note (.minifierStarted minifier.targets)
        Page.scanAll (plan.source inventory.root).recallModules inventory.pages inventory.root
      work session

/-- The scan and the tasks of a run, with what is done before them. -/
def workedOf (plan : Plan) (files : FileSystem) :
    EStateM.Result Fault Session (Page.Manifest × List Failure) :=
  match takeInventory plan.directory plan.settings (Session.start files) with
  | .error fault session => .error fault session
  | .ok inventory session =>
    match plan.supply.start (.ofTarget plan.settings.target) with
    | .error fault => .error fault session
    | .ok minifier =>
      let work := do
        Work.note (.minifierStarted minifier.targets)
        workThrough plan.settings plan.supply.backend (plan.source inventory.root) inventory
      work session

/-- The outcome of a run in which the work with the minifier has ended like this. -/
def concluded (settings : Settings) (root : Path) (minifiers : List Minify.Minifier) :
    EStateM.Result Fault Session Report → Outcome
  | .error fault session => ⟨.error fault, session, minifiers⟩
  | .ok report session => .ofResult minifiers (finish settings root report session)

/-- What a run does whose files cannot be listed, or whose minifier does not start. -/
structure Unstarted (plan : Plan) (files : FileSystem) : Prop where
  setup : ∃ trouble, (optimize plan files).result = .error (.setup trouble)
  combined_eq : combinedOf plan files = .ok []
  scan_ne : ∀ manifest s, scanOf plan files ≠ .ok manifest s
  files_eq : (optimize plan files).session.files = files
  closed : ∀ minifier ∈ (optimize plan files).minifiers, minifier.running = false

/-- What a run does once its files are listed and its minifier has been started. -/
structure Started (plan : Plan) (files : FileSystem) (listed : List Path) (s : Session)
    (minifiers : List Minify.Minifier) : Prop where
  listed_eq :
    listFiles files (Path.absolute plan.directory) plan.settings.exclude
      plan.settings.metaDir = .ok listed
  remembers : Remembers (plan.source (Path.absolute plan.directory)) files s
  run_eq : optimize plan files = concluded plan.settings (Path.absolute plan.directory) minifiers
    (optimizeAll plan.settings plan.supply.backend (plan.source (Path.absolute plan.directory))
      (inventoryOf (Path.absolute plan.directory) plan.settings listed) s)
  scan_eq : scanOf plan files = Page.scanAll
    (plan.source (Path.absolute plan.directory)).recallModules
    (listed.filter isPage) (Path.absolute plan.directory) s
  combined_eq : combinedOf plan files = combinedAfter plan.settings plan.supply.backend
    (workThrough plan.settings plan.supply.backend (plan.source (Path.absolute plan.directory))
      (inventoryOf (Path.absolute plan.directory) plan.settings listed) s)
  worked_eq : workedOf plan files =
    workThrough plan.settings plan.supply.backend (plan.source (Path.absolute plan.directory))
      (inventoryOf (Path.absolute plan.directory) plan.settings listed) s
  closed : ∀ minifier ∈ minifiers, minifier.running = false

/-- A run with a minifier that starts is its work, concluded. -/
theorem optimize_of_start {plan : Plan} {files : FileSystem} {inventory : Inventory}
    {s s' : Session} {minifier : Minify.Minifier}
    (htake : takeInventory plan.directory plan.settings (Session.start files) = .ok inventory s)
    (hstart : plan.supply.start (.ofTarget plan.settings.target) = .ok minifier)
    (hnote : Work.note (.minifierStarted minifier.targets) s = .ok () s') :
    optimize plan files = concluded plan.settings inventory.root [minifier.close]
      (optimizeAll plan.settings (minifier.guard plan.supply.backend) (plan.source inventory.root)
        inventory s') := by
  unfold optimize runWith
  rw [htake]
  dsimp only
  rw [hstart]
  dsimp only
  rw [bind_of_ok hnote]
  rfl

/-- A run whose files cannot be listed does nothing. -/
theorem unstarted_of_inventory {plan : Plan} {files : FileSystem} {trouble : SetupTrouble}
    (htake : takeInventory plan.directory plan.settings (Session.start files) =
      .error (.setup trouble) (Session.start files)) : Unstarted plan files := by
  have hrun : optimize plan files = ⟨.error (.setup trouble), Session.start files, []⟩ := by
    unfold optimize runWith
    rw [htake]
  refine ⟨⟨trouble, by rw [hrun]⟩, ?_, ?_, by rw [hrun]; rfl, by rw [hrun]; nofun⟩
  · unfold combinedOf
    rw [htake]
  · unfold scanOf
    rw [htake]
    exact nofun

/-- A run whose minifier does not start leaves the minifier closed and the files alone. -/
theorem unstarted_of_start {plan : Plan} {files : FileSystem} {inventory : Inventory} {s : Session}
    {trouble : SetupTrouble}
    (htake : takeInventory plan.directory plan.settings (Session.start files) = .ok inventory s)
    (hfiles : s.files = files)
    (hstart : plan.supply.start (.ofTarget plan.settings.target) = .error (.setup trouble)) :
    Unstarted plan files := by
  have hrun : optimize plan files = ⟨.error (.setup trouble), s,
      [.ofTarget plan.settings.target]⟩ := by
    unfold optimize runWith
    rw [htake]
    dsimp only
    rw [hstart]
  refine ⟨⟨trouble, by rw [hrun]⟩, ?_, ?_, by rw [hrun]; exact hfiles, fun minifier hmem => ?_⟩
  · unfold combinedOf
    rw [htake]
    dsimp only
    rw [hstart]
  · unfold scanOf
    rw [htake]
    dsimp only
    rw [hstart]
    exact nofun
  · rw [hrun] at hmem
    rw [List.mem_singleton.1 hmem]
    rfl

/-- **A run that has listed its files and started its minifier works**
until the minifier is closed. -/
theorem started_of_start {plan : Plan} {files : FileSystem} {listed : List Path} {s : Session}
    {minifier : Minify.Minifier}
    (hlisted : listFiles files (Path.absolute plan.directory) plan.settings.exclude
      plan.settings.metaDir = .ok listed)
    (htake : takeInventory plan.directory plan.settings (Session.start files) =
      .ok (inventoryOf (Path.absolute plan.directory) plan.settings listed) s)
    (hfiles : s.files = files) (hmemory : s.memory = .empty)
    (hstart : plan.supply.start (.ofTarget plan.settings.target) = .ok minifier)
    (hguard : minifier.guard plan.supply.backend = plan.supply.backend) :
    Started plan files listed { s with notes := s.notes ++ [.minifierStarted minifier.targets] }
      [minifier.close] where
  listed_eq := hlisted
  remembers := (remembers_start _ files).congr hfiles hmemory
  run_eq := by
    rw [optimize_of_start htake hstart rfl, hguard]
    rfl
  scan_eq := by
    unfold scanOf
    rw [htake]
    dsimp only
    rw [hstart]
    rfl
  combined_eq := by
    unfold combinedOf
    rw [htake]
    dsimp only
    rw [hstart]
    rfl
  worked_eq := by
    unfold workedOf
    rw [htake]
    dsimp only
    rw [hstart]
    rfl
  closed closed hmem := by
    rw [List.mem_singleton.1 hmem]
    exact minifier.running_close

/-- **A run fails with its set-up, or it lists its files and starts to work**,
wherever imports come from. -/
theorem run_starts (plan : Plan) (files : FileSystem) :
    Unstarted plan files ∨ ∃ listed s minifiers, Started plan files listed s minifiers := by
  obtain ⟨s, hfiles, hmemory, htake⟩ := takeInventory_eq plan.directory plan.settings files
  cases hlisted : listFiles files (Path.absolute plan.directory) plan.settings.exclude
      plan.settings.metaDir with
  | error fault =>
    obtain ⟨trouble, rfl⟩ := setup_of_listFiles hlisted
    rw [hlisted] at htake
    exact .inl (unstarted_of_inventory htake)
  | ok listed =>
    rw [hlisted] at htake
    rcases start_ends plan.supply (.ofTarget plan.settings.target) with
      ⟨trouble, hstart⟩ | ⟨minifier, hstart, hguard⟩
    · exact .inl (unstarted_of_start htake hfiles hstart)
    · exact .inr ⟨listed, _, _, started_of_start hlisted htake hfiles hmemory hstart hguard⟩

/-- The same where imports come from the scripts. -/
theorem optimize_starts (plan : Plan) (files : FileSystem)
    (hsource : plan.source = Source.scripts) :
    ((∃ trouble, (optimize plan files).result = .error (.setup trouble)) ∧
      combinedOf plan files = .ok []) ∨
    ∃ listed s minifiers,
      listFiles files (Path.absolute plan.directory) plan.settings.exclude
        plan.settings.metaDir = .ok listed ∧
      Remembers (Source.scripts (Path.absolute plan.directory)) files s ∧
      optimize plan files = concluded plan.settings (Path.absolute plan.directory) minifiers
        (optimizeAll plan.settings plan.supply.backend
          (Source.scripts (Path.absolute plan.directory))
          (inventoryOf (Path.absolute plan.directory) plan.settings listed) s) ∧
      combinedOf plan files = combinedAfter plan.settings plan.supply.backend
        (workThrough plan.settings plan.supply.backend
          (Source.scripts (Path.absolute plan.directory))
          (inventoryOf (Path.absolute plan.directory) plan.settings listed) s) := by
  rcases run_starts plan files with hunstarted | ⟨listed, s, minifiers, hstarted⟩
  · exact .inl ⟨hunstarted.setup, hunstarted.combined_eq⟩
  · obtain ⟨hlisted, hs, hrun, -, hcombined⟩ := hstarted
    rw [hsource] at hs hrun hcombined
    exact .inr ⟨listed, s, minifiers, hlisted, hs, hrun, hcombined⟩

section Concluded

variable {fs : FileSystem} {s s' : Session} {settings : Settings} {minify : Minify.Backend}
    {inventory : Inventory} {memory : Memory} {manifest : Page.Manifest} {failures : List Failure}

/-- **A run that comes through its tasks gives its report** if nothing stands
against the combined stylesheet. -/
theorem concluded_report (minifiers : List Minify.Minifier)
    (hthrough : workThrough settings minify (Source.scripts inventory.root) inventory s =
      .ok (manifest, failures) s')
    (hworked : Worked inventory.root settings minify inventory fs memory manifest failures s'.files)
    (hpages : [] ∉ inventory.pages) (hplaced : Placed inventory.root settings fs) {text : Text}
    (htext : combinedAfter settings minify (.ok (manifest, failures) s') = .ok text) :
    ∃ generated, (concluded settings inventory.root minifiers
      (optimizeAll settings minify (Source.scripts inventory.root) inventory s)).result =
        .ok ⟨manifest, inventory.tasks, generated, failures⟩ := by
  have hurls := hasUrls_of_describes hworked.describes hworked.mem_pages hpages
  rw [optimizeAll_eq, bind_of_ok hthrough]
  rcases generate_ends minify manifest (hplaced.alike hworked.alike) with
    ⟨generated, s'', hgenerate, hne, hwritable, -⟩ | ⟨fault, s'', -, hpreload, hfault⟩
  · obtain ⟨final, hfinish, -⟩ := @finish_ends inventory.root settings
      ⟨manifest, inventory.tasks, generated, failures⟩ s'' hurls hne hwritable
    refine ⟨generated, ?_⟩
    rw [bind_of_ok hgenerate]
    exact congrArg (fun result => (Outcome.ofResult minifiers result).result) hfinish
  · rw [combinedAfter, if_pos hpreload, hfault] at htext
    cases htext

theorem of_combinedAfter {fault : Fault}
    (h : combinedAfter settings minify (.ok (manifest, failures) s) = .error fault) :
    settings.preloadCss = true ∧
      combinedText s.files manifest (styleMinifier settings minify) = .error fault := by
  cases hpreload : settings.preloadCss with
  | true =>
    rw [combinedAfter, hpreload] at h
    exact ⟨rfl, h⟩
  | false =>
    rw [combinedAfter, hpreload] at h
    cases h

/-- A run ends with the fault that stands against its combined stylesheet. -/
theorem concluded_fault (minifiers : List Minify.Minifier)
    (hthrough : workThrough settings minify (Source.scripts inventory.root) inventory s =
      .ok (manifest, failures) s')
    {fault : Fault}
    (hfault : combinedAfter settings minify (.ok (manifest, failures) s') = .error fault) :
    (concluded settings inventory.root minifiers
      (optimizeAll settings minify (Source.scripts inventory.root) inventory s)).result =
        .error fault := by
  obtain ⟨hpreload, htext⟩ := of_combinedAfter hfault
  obtain ⟨s'', -, hbuild⟩ := buildStylesheet_eq manifest (styleMinifier settings minify) s'
  rw [htext] at hbuild
  have hgenerate : generate inventory.root settings minify manifest s' = .error fault s'' := by
    unfold generate
    rw [hpreload, if_neg (by simp)]
    exact bind_of_error hbuild
  rw [optimizeAll_eq, bind_of_ok hthrough, bind_of_error hgenerate]
  rfl

variable (inventory) in
/-- The part of a run in which the minifier works, with the document behind it. -/
theorem kept_concluded (minifiers : List Minify.Minifier)
    (hs : Remembers (Source.scripts inventory.root) fs s) (htasks : Apart fs inventory.tasks)
    (hpages : [] ∉ inventory.pages) (hplaced : Placed inventory.root settings fs)
    (hcss : ∀ text fault, minify.css text = .error fault →
      ∃ message, fault = .component .value message) :
    Kept (concluded settings inventory.root minifiers
      (optimizeAll settings minify (Source.scripts inventory.root) inventory s)).result ↔
    ∃ text, combinedAfter settings minify
      (workThrough settings minify (Source.scripts inventory.root) inventory s) = .ok text := by
  rcases workThrough_ends hs settings minify rfl htasks with
    ⟨manifest, failures, s', _, hthrough, hworked⟩ | ⟨page, fault, s', hthrough⟩
  · rw [hthrough]
    cases htext : combinedAfter settings minify (.ok (manifest, failures) s') with
    | ok text =>
      obtain ⟨generated, hreport⟩ :=
        concluded_report minifiers hthrough hworked hpages hplaced htext
      exact iff_of_true (.inl ⟨_, hreport⟩) ⟨text, rfl⟩
    | error fault =>
      rw [concluded_fault minifiers hthrough htext]
      refine iff_of_false ?_ nofun
      -- the fault is of the files or of the minifier, so it is none of
      -- those that a run may end with
      have hraw : (∃ flaw, fault = .undecodable flaw) ∨
          ∃ message, fault = .component .value message := by
        rcases fault_of_combinedText (of_combinedAfter htext).2 with hflaw | ⟨text, hminify⟩
        · exact .inl hflaw
        · exact .inr (hcss text fault hminify)
      rintro (⟨report, hreport⟩ | ⟨trouble, hsetup⟩ | ⟨page, cause, hscan⟩)
      · cases hreport
      · rcases hraw with ⟨flaw, rfl⟩ | ⟨message, rfl⟩ <;> cases hsetup
      · rcases hraw with ⟨flaw, rfl⟩ | ⟨message, rfl⟩ <;> cases hscan
  · rw [optimizeAll_eq, bind_of_error hthrough, hthrough]
    exact iff_of_true (.inr (.inr ⟨page, fault, rfl⟩)) ⟨[], rfl⟩

end Concluded

/-- **A run gives a report or a fault of its set-up or scan, unless the combined stylesheet stands
against it.** The stylesheet is built from the files as the tasks leave them, after everything else
has been rewritten; if one of its parts is no text, or if the minifier refuses the whole, then the
run ends with that fault as it is. -/
theorem optimize_ends_iff (plan : Plan) {files : FileSystem} (hwf : files.WellFormed)
    (hsource : plan.source = Source.scripts)
    (hplaced : Placed (Path.absolute plan.directory) plan.settings files)
    (hcss : ∀ text fault, plan.supply.backend.css text = .error fault →
      ∃ message, fault = .component .value message) :
    Kept (optimize plan files).result ↔ ∃ text, combinedOf plan files = .ok text := by
  rcases optimize_starts plan files hsource with
    ⟨⟨trouble, hsetup⟩, hcombined⟩ | ⟨listed, s, minifiers, hlisted, hs, hrun, hcombined⟩
  · exact iff_of_true (.inr (.inl ⟨trouble, hsetup⟩)) ⟨[], hcombined⟩
  · rw [hrun, hcombined]
    have hapart := apart_of_listFiles hwf hlisted
    have hpages : [] ∉ (inventoryOf (Path.absolute plan.directory) plan.settings listed).pages :=
      fun hnil => (hapart.namesFile [] (List.mem_filter.1 hnil).1).1 rfl
    exact kept_concluded (inventoryOf (Path.absolute plan.directory) plan.settings listed)
      minifiers hs (hapart.sublist List.filter_sublist) hpages hplaced hcss

/-- A site whose page reaches a stylesheet that is no text. -/
def brokenSheet : FileSystem where
  files := [(["site".toList, "a.css".toList], [255]),
    (["site".toList, "a.css.proxy.js".toList], [49]),
    (["site".toList, "index.html".toList],
      Utf8.encode "<script src=\"/a.css.proxy.js\"></script>".toList)]
  directories := [["site".toList], ["site".toList, "__meta__".toList]]
  sealedPlaces := []

/-- Combines the stylesheets of a site as they stand. -/
def combiningPlan : Plan where
  directory := "/site".toList
  settings := { Settings.default with minifyHtml := false, minifyCss := false }
  supply := .standard
  source := Source.scripts

theorem listFiles_brokenSheet : listFiles brokenSheet "/site".toList [] "__meta__".toList =
    .ok ["/site/a.css".toList, "/site/a.css.proxy.js".toList, "/site/index.html".toList] := by
  have hdirectory : directoryPlace brokenSheet "/site".toList = .ok ["site".toList] := by
    decide +kernel
  have hbelow : brokenSheet.listBelow ["site".toList] =
      .ok [["a.css".toList], ["a.css.proxy.js".toList], ["index.html".toList]] := by decide +kernel
  exact listFiles_of_listBelow hdirectory hbelow (by decide +kernel) (by decide +kernel)

theorem combinedOf_brokenSheet :
    combinedOf combiningPlan brokenSheet = .error (.undecodable ⟨.invalidStart, 255, 0, 1⟩) := by
  have htake : takeInventory combiningPlan.directory combiningPlan.settings
      (Session.start brokenSheet) = .ok
        ⟨"/site".toList, ["/site/index.html".toList],
          ["/site/a.css".toList, "/site/index.html".toList]⟩
        { Session.start brokenSheet with notes := [.runStarted 2 1 "/site".toList] } :=
    (takeInventory_of_listFiles listFiles_brokenSheet).trans (by decide +kernel)
  unfold combinedOf
  rw [htake]
  decide +kernel

theorem placed_brokenSheet : Placed "/site".toList combiningPlan.settings brokenSheet := by
  let written := brokenSheet.put ["site".toList, "imported-styles.css".toList] []
  have hdocument : Accepts written (documentPath "/site".toList combiningPlan.settings.metaDir)
      ["site".toList, "__meta__".toList, "optimize-manifest.json".toList] written :=
    ⟨by decide +kernel,
      ⟨by decide +kernel, by decide +kernel⟩, by decide +kernel, by decide +kernel⟩
  refine ⟨?_, fun _ => ⟨["site".toList, "imported-styles.css".toList], brokenSheet,
    ?_, fun bytes => ?_⟩⟩
  · exact ⟨["site".toList, "__meta__".toList, "optimize-manifest.json".toList],
      brokenSheet, by decide +kernel,
      ⟨by decide +kernel, by decide +kernel⟩, by decide +kernel, by decide +kernel⟩
  · exact ⟨by decide +kernel,
      ⟨by decide +kernel, by decide +kernel⟩, by decide +kernel, by decide +kernel⟩
  · exact Writable.alike ((Alike.refl brokenSheet).put_both _ [] bytes) ⟨_, _, hdocument⟩

/-- The stylesheet that is no text ends the run with a fault of its own. -/
theorem not_kept_brokenSheet : ¬ Kept (optimize combiningPlan brokenSheet).result := by
  rw [optimize_ends_iff combiningPlan (by decide +kernel) rfl placed_brokenSheet
    (fun _ _ h => nomatch h), combinedOf_brokenSheet]
  exact fun ⟨_, h⟩ => nomatch h

end Build
end SiteOptimizer
