import SiteOptimizer.Build.Run
import SiteOptimizer.Proofs.FileSystem.Spares
import SiteOptimizer.Proofs.Page.Preload
import SiteOptimizer.Proofs.Session

/-!
# Tasks read once and write once

A task is two steps: `Job.change` reads the file and finds the text to write, and then the text is
written. The first step changes no file, so a task that fails leaves all files as they were, and a
task that does not fail changes nothing but its own file.
-/

namespace SiteOptimizer
namespace Build

open SiteOptimizer.Module FileSystem Work

theorem looksUp_give {α : Type} (known : Except Fault α) : LooksUp (give known) := by
  intro s
  cases known <;> exact .refl s

/-! ## What a task writes -/

namespace Job

/-- Reads a file and finds the text to write: none if the file stays as it is. -/
def change (job : Job) (modules : List Path → Work (List Path))
    (path : Path) : Work (Option Text) := do
  match (FileKind.ofPath? path).filter job.concerns with
  | none => return none
  | some kind =>
    let before ← Work.ofExcept ((← Work.files).readText path)
    let code ← job.optimize modules kind path before
    return if code = before then none else some code

/-- Writes the text of a task and tells whether there was one. -/
def commit (job : Job) (path : Path) : Option Text → Work Bool
  | none => return false
  | some code => do
    Work.write path code
    Work.note (.fileOptimized (← Work.ofExcept (Page.urlOf job.root path)))
    return true

/-- **A task reads and finds its text, then it writes.** -/
theorem run_eq (job : Job) (modules : List Path → Work (List Path)) (path : Path) :
    job.run modules path = job.change modules path >>= job.commit path := by
  unfold run change
  cases (FileKind.ofPath? path).filter job.concerns with
  | none => rfl
  | some kind =>
    simp only [bind_assoc, pure_bind]
    refine bind_congr fun files => bind_congr fun before => bind_congr fun code => ?_
    split <;> rfl

/-! ### The text of a file of each sort -/

section Optimize

variable {σ : Type} (job : Job) (modules : List Path → EStateM Fault σ (List Path))
    (path : Path) (code : Text)

/-- The page with what preloads its modules, if that is asked for. -/
def preloadPage : EStateM Fault σ Text :=
  if job.settings.preloadModules then Page.preload modules code job.root path
    job.settings.preloadCss
  else pure code

/-- The page as it is minified, if that is asked for. -/
def minifyPage : Except Fault Text :=
  if job.settings.minifyHtml then job.minify.html code else .ok code

theorem optimize_css : job.optimize modules .css path code = give (job.minify.css code) := by
  funext s
  unfold optimize
  cases job.minify.css code <;> rfl

theorem optimize_js : job.optimize modules .js path code = give (job.optimizeScript path code) := by
  funext s
  unfold optimize
  cases job.optimizeScript path code <;> rfl

/-- A page is linked, then preloaded, then minified. -/
theorem optimize_html : job.optimize modules .html path code =
    job.preloadPage modules path (job.linkStyles path code) >>= fun code =>
      give (job.minifyPage code) := by
  unfold optimize optimizePage preloadPage
  dsimp only
  split
  all_goals
    refine bind_congr fun code => ?_
    unfold minifyPage
    split
    · funext s
      cases job.minify.html code <;> rfl
    · rfl

end Optimize

/-- Finding the text changes no file and forgets nothing. -/
theorem looksUp_change (job : Job) {modules : List Path → Work (List Path)}
    (h : ∀ entries, LooksUp (modules entries)) (path : Path) :
    LooksUp (job.change modules path) := by
  have hpreload : ∀ code, LooksUp (job.preloadPage modules path code) := by
    intro code
    unfold preloadPage Page.preload
    split
    · refine (h _).bind fun found => ?_
      dsimp only
      split
      · exact looksUp_pure _
      · split
        · exact looksUp_throw _
        · exact looksUp_pure _
    · exact looksUp_pure _
  unfold change
  cases (FileKind.ofPath? path).filter job.concerns with
  | none => exact looksUp_pure none
  | some kind =>
    refine looksUp_files.bind fun files => ?_
    refine (looksUp_ofExcept _).bind fun before => LooksUp.bind ?_ fun code => looksUp_pure _
    -- only a page looks anything up, and that before it is minified
    cases kind with
    | css => rw [optimize_css]; exact looksUp_give _
    | js => rw [optimize_js]; exact looksUp_give _
    | html => rw [optimize_html]; exact (hpreload _).bind fun code => looksUp_give _

/-! ### How a task ends -/

section Ends

variable {job : Job} {modules : List Path → Work (List Path)} {path : Path} {s s' : Session}

/-- A text to write comes from a file at the place of its path. -/
theorem located_of_change {code : Text} (h : job.change modules path s = .ok (some code) s') :
    ∃ place bytes, s.files.locate path = .ok place ∧ s.files.hasDirectory place = false ∧
      s.files.bytes? place = some bytes := by
  unfold change at h
  cases hk : (FileKind.ofPath? path).filter job.concerns with
  | none => rw [hk] at h; cases h
  | some kind =>
    rw [hk] at h
    cases hread : s.files.readText path with
    | ok text => exact of_readText hread
    | error fault =>
      have h : EStateM.bind (Work.ofExcept (s.files.readText path)) _ s = .ok (some code) s' := h
      rw [hread] at h
      cases h

/-- What is found is the new text of the file, if it differs from the text that has been read. -/
theorem of_change {kind : FileKind} {code : Text} {found : Option Text}
    (hkind : (FileKind.ofPath? path).filter job.concerns = some kind)
    (hread : s.files.readText path = .ok code) (h : job.change modules path s = .ok found s') :
    ∃ text, job.optimize modules kind path code s = .ok text s' ∧
      found = if text = code then none else some text := by
  unfold change at h
  rw [hkind] at h
  have h : (Work.ofExcept (s.files.readText path) >>= fun before =>
    job.optimize modules kind path before >>= fun text =>
      pure (if text = before then none else some text) : Work (Option Text)) s = .ok found s' := h
  rw [hread, bind_of_ok (show Work.ofExcept (.ok code) s = .ok code s from rfl)] at h
  obtain ⟨text, s'', htext, h⟩ := of_bind_ok h
  cases h
  exact ⟨text, htext, rfl⟩

theorem run_of_error {fault : Fault} (h : job.change modules path s = .error fault s') :
    job.run modules path s = .error fault s' := by
  rw [run_eq]
  exact bind_of_error h

theorem run_of_none (h : job.change modules path s = .ok none s') :
    job.run modules path s = .ok false s' := by
  rw [run_eq]
  exact bind_of_ok h

/-- The state behind a task that writes a text. -/
def committed (job : Job) (path : Path) (place : Place) (code : Text) (s : Session) : Session :=
  { s with
    files := s.files.put place (Utf8.encode code)
    notes := s.notes ++ [.fileOptimized ('/' :: Path.relativeTo job.root path)] }

/-- **A text that has been found is written.** -/
theorem run_of_some {code : Text} {place : Place}
    (h : job.change modules path s = .ok (some code) s') (hpath : NamesFile path)
    (hl : s'.files.locate path = .ok place) (hdir : s'.files.hasDirectory place = false) :
    job.run modules path s = .ok true (job.committed path place code s') := by
  have hurl : Page.urlOf job.root path = .ok ('/' :: Path.relativeTo job.root path) := by
    rw [Page.urlOf, Reference.projectUrl?_eq hpath.1]
  rw [run_eq, bind_of_ok h]
  show EStateM.bind (EStateM.bind (Work.ofExcept (s'.files.write path code)) _) _ s' = _
  rw [write_eq hpath hl hdir, hurl]
  rfl

/-- How a task that is attempted can end, and the files that it leaves. -/
inductive Attempted (job : Job) (modules : List Path → Work (List Path))
    (path : Path) (s : Session) :
    Option Failure → FileSystem → Prop where
  | failed {cause : Fault} {s' : Session} : job.change modules path s = .error cause s' →
      Attempted job modules path s (some ⟨path, cause⟩) s.files
  | kept {s' : Session} : job.change modules path s = .ok none s' →
      Attempted job modules path s none s.files
  | written {code : Text} {place : Place} {s' : Session} :
      job.change modules path s = .ok (some code) s' →
      s.files.locate path = .ok place → (s.files.bytes? place).isSome = true →
      Attempted job modules path s none (s.files.put place (Utf8.encode code))

/-- **An attempt never fails**, it forgets nothing, and a task that fails
leaves the files as they were. -/
theorem attemptTask_ends (h : ∀ entries, LooksUp (modules entries)) (hpath : NamesFile path) :
    ∃ failure s', attemptTask job modules path s = .ok failure s' ∧ s.memory.Kept s'.memory ∧
      Attempted job modules path s failure s'.files := by
  have hurl : Page.urlOf job.root path = .ok ('/' :: Path.relativeTo job.root path) := by
    rw [Page.urlOf, Reference.projectUrl?_eq hpath.1]
  -- up to the writing nothing has changed, so a failure has nothing to undo
  have hkeep := job.looksUp_change h path
  have hran : ∀ {written s'}, job.run modules path s = .ok written s' →
      attemptTask job modules path s = .ok none s' := by
    intro written s' hrun
    rw [attemptTask, hurl, bind_of_ok (attempt_of_ok hrun)]
    rfl
  have hfailed : ∀ {cause s'}, job.run modules path s = .error cause s' →
      attemptTask job modules path s = .ok (some ⟨path, cause⟩)
        { s' with
          notes := s'.notes ++ [.fileFailed ('/' :: Path.relativeTo job.root path) cause] } := by
    intro cause s' hrun
    rw [attemptTask, hurl, bind_of_ok (attempt_of_error hrun)]
    rfl
  cases hchange : job.change modules path s with
  | error cause s' =>
    obtain ⟨hfiles, hmemory⟩ := hkeep.error hchange
    refine ⟨_, _, hfailed (run_of_error hchange), hmemory, ?_⟩
    show Attempted job modules path s (some ⟨path, cause⟩) s'.files
    rw [hfiles]
    exact .failed hchange
  | ok found s' =>
    obtain ⟨hfiles, hmemory⟩ := hkeep.ok hchange
    cases found with
    | none =>
      refine ⟨_, _, hran (run_of_none hchange), hmemory, ?_⟩
      show Attempted job modules path s none s'.files
      rw [hfiles]
      exact .kept hchange
    | some code =>
      obtain ⟨place, bytes, hl, hdir, hbytes⟩ := located_of_change hchange
      refine ⟨_, _, hran (run_of_some hchange hpath (hfiles ▸ hl) (hfiles ▸ hdir)), hmemory, ?_⟩
      show Attempted job modules path s none (s'.files.put place (Utf8.encode code))
      rw [hfiles]
      exact .written hchange hl (by rw [hbytes]; rfl)

end Ends

/-! ### Where imports are given once and for all -/

/-- What some work gives that starts with these files. -/
def known {α : Type} (files : FileSystem) (work : Work α) : Except Fault α :=
  match work (Session.start files) with
  | .ok a _ => .ok a
  | .error fault _ => .error fault

/-- The text that a task writes, where `modules` says what scripts import. -/
def prepare (job : Job) (modules : List Path → Except Fault (List Path))
    (files : FileSystem) (path : Path) :
    Except Fault (Option Text) :=
  known files (job.change (fun entries => give (modules entries)) path)

theorem preloadPage_give (job : Job) (modules : List Path → Except Fault (List Path)) (path : Path)
    (code : Text) : ∃ text : Except Fault Text, ∀ s : Session,
      job.preloadPage (fun entries => give (modules entries)) path code s = give text s := by
  unfold preloadPage
  split
  · cases hm : modules (Page.moduleEntries code path job.root) with
    | error fault =>
      exact ⟨.error fault, fun s => Page.preload_of_error (by rw [hm]; rfl)⟩
    | ok found =>
      by_cases hnil : [] ∈ Page.preloadModules (Page.moduleEntries code path job.root) found
          job.settings.preloadCss
      · exact ⟨.error .emptyPath, fun s => Page.preload_of_nil_mem (by rw [hm]; rfl) hnil⟩
      · exact ⟨.ok _, fun s => Page.preload_of_ok (by rw [hm]; rfl) hnil⟩
  · exact ⟨.ok code, fun s => rfl⟩

theorem optimize_give (job : Job) (modules : List Path → Except Fault (List Path)) (kind : FileKind)
    (path : Path) (code : Text) : ∃ text : Except Fault Text, ∀ s : Session,
      job.optimize (fun entries => give (modules entries)) kind path code s = give text s := by
  cases kind with
  | css => exact ⟨job.minify.css code, fun s => by rw [optimize_css]⟩
  | js => exact ⟨job.optimizeScript path code, fun s => by rw [optimize_js]⟩
  | html =>
    obtain ⟨text, htext⟩ := preloadPage_give job modules path (job.linkStyles path code)
    refine ⟨text.bind job.minifyPage, fun s => ?_⟩
    rw [optimize_html, ← give_bind]
    exact bind_congr (htext s)

/-- What is read decides what is found, and finding it leaves the state as it is. -/
theorem exists_change_give (job : Job) (modules : List Path → Except Fault (List Path))
    (path : Path) (read : Except Fault Text) : ∃ text : Except Fault (Option Text), ∀ s : Session,
      s.files.readText path = read →
        job.change (fun entries => give (modules entries)) path s = give text s := by
  unfold change
  cases (FileKind.ofPath? path).filter job.concerns with
  | none => exact ⟨.ok none, fun _ _ => rfl⟩
  | some kind =>
    cases read with
    | error fault =>
      refine ⟨.error fault, fun s hread => ?_⟩
      show EStateM.bind (Work.ofExcept (s.files.readText path)) _ s = _
      rw [hread]
      rfl
    | ok before =>
      obtain ⟨text, htext⟩ := optimize_give job modules kind path before
      refine ⟨text.bind fun code => .ok (if code = before then none else some code),
        fun s hread => ?_⟩
      show EStateM.bind (Work.ofExcept (s.files.readText path)) _ s = _
      rw [hread, ← give_bind]
      refine (bind_congr (htext s)).trans ?_
      cases text <;> rfl

/-- **What a task finds depends on the text of its file alone.** -/
theorem change_give (job : Job) (modules : List Path → Except Fault (List Path))
    (path : Path) (s : Session) :
    job.change (fun entries => give (modules entries)) path s =
      give (job.prepare modules s.files path) s := by
  obtain ⟨text, htext⟩ := exists_change_give job modules path (s.files.readText path)
  rw [htext s rfl, prepare, known, htext (Session.start s.files) rfl]
  cases text <;> rfl

theorem prepare_congr (job : Job) (modules : List Path → Except Fault (List Path))
    {files files' : FileSystem} {path : Path} (h : files'.readText path = files.readText path) :
    job.prepare modules files' path = job.prepare modules files path := by
  obtain ⟨text, htext⟩ := exists_change_give job modules path (files.readText path)
  rw [prepare, prepare, known, known, htext (Session.start files) rfl,
    htext (Session.start files') h]
  cases text <;> rfl

theorem located_of_prepare {job : Job} {modules : List Path → Except Fault (List Path)}
    {files : FileSystem} {path : Path} {code : Text}
    (h : job.prepare modules files path = .ok (some code)) :
    ∃ place bytes, files.locate path = .ok place ∧ files.hasDirectory place = false ∧
      files.bytes? place = some bytes := by
  have hchange := change_give job modules path (Session.start files)
  rw [show (Session.start files).files = files from rfl, h] at hchange
  exact located_of_change hchange

end Job

/-! ## One task after the other -/

section Sequence

variable {job : Job} {modules : List Path → Work (List Path)} {fs : FileSystem} {s : Session}

/-- The same files and directories are there, and these paths have their bytes. -/
structure Untouched (fs : FileSystem) (paths : List Path) (fs' : FileSystem) : Prop where
  alike : Alike fs fs'
  bytes : ∀ path ∈ paths, ∀ place, fs.locate path = .ok place → fs'.bytes? place = fs.bytes? place

/-- What is left of a file when its task has been done among others, all of which remember
what was remembered at first. -/
structure Done (job : Job) (modules : List Path → Work (List Path)) (fs : FileSystem)
    (memory : Memory) (path : Path) (failures : List Failure) (after : FileSystem) : Prop where
  attempted : ∃ before failure files, Untouched fs [path] before.files ∧ memory.Kept before.memory ∧
    Job.Attempted job modules path before failure files ∧
    (∀ f, failure = some f ↔ f ∈ failures ∧ f.path = path) ∧
      ∀ place, fs.locate path = .ok place → after.bytes? place = files.bytes? place

/-- A task touches nothing but its own file. -/
theorem Job.Attempted.frame {path : Path} {s : Session} {failure : Option Failure}
    {files : FileSystem} (h : Job.Attempted job modules path s failure files) :
    Alike s.files files ∧
      ∀ place, s.files.locate path ≠ .ok place → files.bytes? place = s.files.bytes? place := by
  cases h with
  | failed _ => exact ⟨.refl _, fun _ _ => rfl⟩
  | kept _ => exact ⟨.refl _, fun _ _ => rfl⟩
  | written _ hl hsome =>
    refine ⟨.put hsome _, fun other hother => bytes?_put_of_ne fun heq => hother ?_⟩
    rw [heq, hl]

theorem Job.Attempted.path_eq {path : Path} {s : Session} {failure : Option Failure}
    {files : FileSystem} (h : Job.Attempted job modules path s failure files) {f : Failure}
    (hf : failure = some f) : f.path = path := by
  cases h with
  | failed _ => cases hf; rfl
  | kept _ => cases hf
  | written _ _ _ => cases hf

/-- A task that has been attempted leaves the files of the others as they were. -/
theorem Untouched.next {path : Path} {tasks : List Path} (h : Untouched fs (path :: tasks) s.files)
    (hapart : Apart fs (path :: tasks)) {failure : Option Failure} {files : FileSystem}
    (hattempted : Job.Attempted job modules path s failure files) : Untouched fs tasks files := by
  obtain ⟨halike, hframe⟩ := hattempted.frame
  refine ⟨h.alike.trans halike, fun p hp place hl => ?_⟩
  have hother : s.files.locate path ≠ .ok place := by
    rw [h.alike.locate]
    intro hl'
    have heq := hapart.eq_of_locate p (List.mem_cons_of_mem _ hp) path
      List.mem_cons_self place hl hl'
    exact (List.nodup_cons.1 hapart.nodup).1 (heq ▸ hp)
  rw [hframe place hother]
  exact h.bytes p (List.mem_cons_of_mem _ hp) place hl

/-- **Tasks that are apart are each done on the file as it was.** -/
theorem tasks_done (hkeep : ∀ entries, LooksUp (modules entries)) {tasks : List Path}
    (hapart : Apart fs tasks) {s : Session} (hs : Untouched fs tasks s.files) {memory : Memory}
    (hmemory : memory.Kept s.memory) :
    ∃ failures s', tasks.filterMapM (attemptTask job modules) s = .ok failures s' ∧
      Alike fs s'.files ∧
      (∀ place, (∀ path ∈ tasks, fs.locate path ≠ .ok place) →
        s'.files.bytes? place = s.files.bytes? place) ∧
      (∀ f ∈ failures, f.path ∈ tasks) ∧
      ∀ path ∈ tasks, Done job modules fs memory path failures s'.files := by
  induction tasks generalizing s with
  | nil => exact ⟨[], s, rfl, hs.alike, fun _ _ => rfl, nofun, nofun⟩
  | cons path tasks ih =>
    have hne : ∀ p ∈ tasks, p ≠ path := by
      rintro p hp rfl
      exact (List.nodup_cons.1 hapart.nodup).1 hp
    have hother : ∀ p ∈ tasks, ∀ place, fs.locate p = .ok place → fs.locate path ≠ .ok place :=
      fun p hp place hl hl' => hne p hp
        (hapart.eq_of_locate p (List.mem_cons_of_mem _ hp) path List.mem_cons_self place hl hl')
    obtain ⟨failure, s', hattempt, hkept, hattempted⟩ :=
      @Job.attemptTask_ends job modules path s hkeep
      (hapart.namesFile path List.mem_cons_self)
    obtain ⟨halike, hframe⟩ := hattempted.frame
    have hs' : Untouched fs tasks s'.files := hs.next hapart hattempted
    obtain ⟨failures, s'', hrest, halike', hframe', hpaths, hdone⟩ :=
      ih (hapart.sublist (List.sublist_cons_self ..)) hs' (hmemory.trans hkept)
    have hmem : ∀ f, f ∈ failure.toList ++ failures ↔ failure = some f ∨ f ∈ failures := fun f => by
      rw [List.mem_append, Option.mem_toList]
    -- The other tasks report no failure of this path and write to other places, so for this path
    -- nothing counts but its own attempt.
    refine ⟨failure.toList ++ failures, s'', ?_, halike', fun place hplace => ?_,
      fun f hf => ?_, fun p hp => ?_⟩
    · rw [Work.filterMapM_cons_of_ok hattempt, hrest]
    · rw [hframe' place fun p hp => hplace p (List.mem_cons_of_mem _ hp), hframe place]
      rw [hs.alike.locate]
      exact hplace path List.mem_cons_self
    · rcases (hmem f).1 hf with hf | hf
      · rw [hattempted.path_eq hf]
        exact List.mem_cons_self
      · exact List.mem_cons_of_mem _ (hpaths f hf)
    · rcases List.mem_cons.1 hp with rfl | hp
      · refine ⟨s, failure, s'.files, ⟨hs.alike, fun q hq => ?_⟩, hmemory, hattempted, fun f => ?_,
          fun place hl => ?_⟩
        · exact hs.bytes q (List.mem_singleton.1 hq ▸ List.mem_cons_self)
        · rw [hmem]
          constructor
          · exact fun hf => ⟨.inl hf, hattempted.path_eq hf⟩
          · rintro ⟨hf | hf, hpath⟩
            · exact hf
            · exact absurd hpath (hne _ (hpaths f hf))
        · exact hframe' place fun q hq hl' => hother q hq place hl' hl
      · obtain ⟨before, failure', files, hbefore, hkept', hattempted', hfailure, hbytes⟩ :=
          (hdone p hp).attempted
        refine ⟨before, failure', files, hbefore, hkept', hattempted', fun f => ?_, hbytes⟩
        rw [hfailure, hmem]
        refine and_congr_left fun hpath => ⟨.inr, fun hf => hf.resolve_left fun hf => hne p hp ?_⟩
        rw [← hpath, hattempted.path_eq hf]

/-- How a task on a file of this text has ended, and the text that it leaves. -/
inductive Job.Ended (job : Job) (modules : List Path → Work (List Path)) (fs : FileSystem)
    (memory : Memory) (path : Path) (code : Text) (failures : List Failure) : Text → Prop where
  | failed : (∃ f ∈ failures, f.path = path) →
      Job.Ended job modules fs memory path code failures code
  | unconcerned : (∀ f ∈ failures, f.path ≠ path) →
      (FileKind.ofPath? path).filter job.concerns = none →
      Job.Ended job modules fs memory path code failures code
  | optimized {kind : FileKind} {before s' : Session} {text : Text} :
      (∀ f ∈ failures, f.path ≠ path) → (FileKind.ofPath? path).filter job.concerns = some kind →
      Alike fs before.files → memory.Kept before.memory →
      job.optimize modules kind path code before = .ok text s' →
      Job.Ended job modules fs memory path code failures text

/-- **A task leaves the text of its file, or the new text if it has not failed.** -/
theorem Done.ended {memory : Memory} {path : Path} {failures : List Failure} {after : FileSystem}
    {code : Text} (h : Done job modules fs memory path failures after) (halike : Alike fs after)
    (hread : fs.readText path = .ok code) :
    ∃ text, after.readText path = .ok text ∧
      job.Ended modules fs memory path code failures text := by
  obtain ⟨before, failure, files, hbefore, hkept, hattempted, hfailure, hbytes⟩ := h.attempted
  obtain ⟨place, bytes, hl, hdir, -⟩ := of_readText hread
  have hsame : before.files.bytes? place = fs.bytes? place :=
    hbefore.bytes path (List.mem_singleton.2 rfl) place hl
  have hbefored : before.files.readText path = .ok code := by
    rw [← hread]
    refine hbefore.alike.readText fun other hother => ?_
    rw [hl] at hother
    cases hother
    exact hsame
  -- no task but its own changes a file, so what its own attempt leaves
  -- alone is as it was at the start
  have hkeeps : files.bytes? place = before.files.bytes? place →
      after.readText path = .ok code := by
    intro hfiles
    rw [← hread]
    refine halike.readText fun other hother => ?_
    rw [hl] at hother
    cases hother
    rw [hbytes place hl, hfiles, hsame]
  have hnone : failure = none → ∀ f ∈ failures, f.path ≠ path := by
    rintro rfl f hf hpath
    cases (hfailure f).2 ⟨hf, hpath⟩
  cases hattempted with
  | @failed cause _ _ =>
    obtain ⟨hf, hpath⟩ := (hfailure ⟨path, cause⟩).1 rfl
    exact ⟨code, hkeeps rfl, .failed ⟨_, hf, hpath⟩⟩
  | kept hchange =>
    cases hkind : (FileKind.ofPath? path).filter job.concerns with
    | none => exact ⟨code, hkeeps rfl, .unconcerned (hnone rfl) hkind⟩
    | some kind =>
      obtain ⟨text, htext, hfound⟩ := Job.of_change hkind hbefored hchange
      split at hfound
      · next heq =>
        subst heq
        exact ⟨text, hkeeps rfl, .optimized (hnone rfl) hkind hbefore.alike hkept htext⟩
      · cases hfound
  | @written found place' _ hchange hl' _ =>
    cases hkind : (FileKind.ofPath? path).filter job.concerns with
    | none =>
      unfold Job.change at hchange
      rw [hkind] at hchange
      cases hchange
    | some kind =>
      obtain ⟨text, htext, hfound⟩ := Job.of_change hkind hbefored hchange
      split at hfound
      · cases hfound
      · cases hfound
        rw [hbefore.alike.locate, hl] at hl'
        cases hl'
        refine ⟨found, readText_put hl hdir halike ?_,
          .optimized (hnone rfl) hkind hbefore.alike hkept htext⟩
        rw [hbytes place hl, bytes?_put]

end Sequence

end Build
end SiteOptimizer
