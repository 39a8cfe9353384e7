import Mathlib.Algebra.GroupWithZero.Nat
import Mathlib.Logic.Relation
import SiteOptimizer.Proofs.Build.Task

/-!
# Tasks in any order

The tasks of a run may be done at the same time: what one of them reads and what it writes then
come between the steps of others. A `Pool` holds the files and how far each task has come, and a
step reads for one task or writes for one. Every task has a file of its own, so each finds the text
that it would find alone, and in the end every file is as its task alone leaves it, whatever the
order (`Pool.schedule_independent`). A run does one task after the other, which is one of these
orders (`Pool.steps_of_sequence`).
-/

namespace SiteOptimizer
namespace Build

open SiteOptimizer.Module FileSystem

/-- How far a task has come. -/
inductive Progress where
  | waiting
  /-- The text has been found and is to be written. -/
  | holding (code : Text)
  | finished (fault : Option Fault)
  deriving DecidableEq, Repr

/-- How far a task has come when it has read its file. -/
def Progress.ofFound : Except Fault (Option Text) → Progress
  | .ok none => .finished none
  | .ok (some code) => .holding code
  | .error fault => .finished (some fault)

/-- The steps that a task has to go. -/
def Progress.left : Progress → Nat
  | .waiting => 2
  | .holding _ => 1
  | .finished _ => 0

/-- Tasks that are under way. -/
structure Pool where
  files : FileSystem
  tasks : List (Path × Progress)

namespace Pool

/-- The tasks before any of them has been begun. -/
def start (files : FileSystem) (tasks : List Path) : Pool :=
  ⟨files, tasks.map fun path => (path, .waiting)⟩

/-- Whether all tasks have come to their ends. -/
def Finished (pool : Pool) : Prop :=
  ∀ task ∈ pool.tasks, ∃ fault, task.2 = .finished fault

/-- The failures of tasks, in the order of the tasks. -/
def failures (pool : Pool) : List Failure :=
  pool.tasks.filterMap fun task =>
    match task.2 with
    | .finished (some cause) => some ⟨task.1, cause⟩
    | _ => none

/-- One task reads its file, or writes it. -/
inductive Step (job : Job)
    (modules : List Path → Except Fault (List Path)) : Pool → Pool → Prop where
  | read (files : FileSystem) (before after : List (Path × Progress)) (path : Path) :
      Step job modules ⟨files, before ++ (path, .waiting) :: after⟩
        ⟨files, before ++ (path, .ofFound (job.prepare modules files path)) :: after⟩
  | write {files files' : FileSystem} (before after : List (Path × Progress))
      (path : Path) {code : Text} :
      files.write path code = .ok files' →
      Step job modules ⟨files, before ++ (path, .holding code) :: after⟩
        ⟨files', before ++ (path, .finished none) :: after⟩
  | refuse {files : FileSystem} (before after : List (Path × Progress)) (path : Path) {code : Text}
      {fault : Fault} : files.write path code = .error fault →
      Step job modules ⟨files, before ++ (path, .holding code) :: after⟩
        ⟨files, before ++ (path, .finished (some fault)) :: after⟩

/-- Steps of tasks in any order. -/
def Steps (job : Job) (modules : List Path → Except Fault (List Path)) : Pool → Pool → Prop :=
  Relation.ReflTransGen (Step job modules)

variable {job : Job} {modules : List Path → Except Fault (List Path)} {files files' : FileSystem}

/-! ## Every schedule comes to its end -/

/-- The steps that the tasks have to go. -/
def left (pool : Pool) : Nat :=
  (pool.tasks.map fun task => task.2.left).sum

/-- **Every step brings the end nearer.** -/
theorem left_lt_of_step {pool pool' : Pool}
    (h : Step job modules pool pool') : pool'.left < pool.left := by
  -- only the task that moves changes its share of the sum
  have hsplit :
      ∀ (files : FileSystem) (before after : List (Path × Progress)) (task : Path × Progress),
      left ⟨files, before ++ task :: after⟩ = left ⟨files, before ++ after⟩ + task.2.left := by
    intro files before after task
    simp only [left, List.map_append, List.map_cons, List.sum_append, List.sum_cons]
    omega
  cases h with
  | read files before after path =>
    rw [hsplit, hsplit]
    have hfound : ∀ found, (Progress.ofFound found).left < Progress.waiting.left := by
      intro found
      cases found with
      | error fault => exact Nat.zero_lt_two
      | ok text =>
        cases text with
        | none => exact Nat.zero_lt_two
        | some code => exact Nat.one_lt_two
    exact Nat.add_lt_add_left (hfound _) _
  | write before after path hw =>
    rw [hsplit, hsplit]
    exact Nat.add_lt_add_left Nat.zero_lt_one _
  | refuse before after path hw =>
    rw [hsplit, hsplit]
    exact Nat.add_lt_add_left Nat.zero_lt_one _

/-- As long as a task has not come to its end there is a step. -/
theorem exists_step {pool : Pool} (h : ¬ pool.Finished) : ∃ pool', Step job modules pool pool' := by
  obtain ⟨files, tasks⟩ := pool
  have hopen : ∃ task ∈ tasks, ¬ ∃ fault, task.2 = .finished fault := by
    unfold Finished at h
    push Not at h
    obtain ⟨task, htask, hnot⟩ := h
    exact ⟨task, htask, fun ⟨fault, hf⟩ => hnot fault hf⟩
  obtain ⟨⟨path, progress⟩, htask, hnot⟩ := hopen
  obtain ⟨before, after, rfl⟩ := List.append_of_mem htask
  cases progress with
  | waiting => exact ⟨_, .read files before after path⟩
  | holding code =>
    cases hw : files.write path code with
    | ok files' => exact ⟨_, .write before after path hw⟩
    | error fault => exact ⟨_, .refuse before after path hw⟩
  | finished fault => exact absurd ⟨fault, rfl⟩ hnot

/-- **Every schedule can be carried on until all tasks have come to their ends.** -/
theorem exists_finished (job : Job) (modules : List Path → Except Fault (List Path)) (pool : Pool) :
    ∃ pool', Steps job modules pool pool' ∧ pool'.Finished := by
  induction hn : pool.left using Nat.strong_induction_on generalizing pool with
  | _ n ih =>
    by_cases hfin : pool.Finished
    · exact ⟨pool, .refl, hfin⟩
    · have hnext : ∃ next, Step job modules pool next := exists_step hfin
      obtain ⟨next, hstep⟩ := hnext
      obtain ⟨pool', hsteps, hfin'⟩ := ih next.left (hn ▸ left_lt_of_step hstep) next rfl
      exact ⟨pool', .head hstep hsteps, hfin'⟩

/-! ## What the tasks leave -/

/-- How far a task has come is consistent with what the task alone would do to these files. -/
inductive Sound (job : Job) (modules : List Path → Except Fault (List Path))
    (files files' : FileSystem) (path : Path) : Progress → Prop where
  /-- Nothing has been written. -/
  | untouched {progress : Progress} :
      (progress = .waiting ∨ progress = .ofFound (job.prepare modules files path)) →
      (∀ place, files.locate path = .ok place → files'.bytes? place = files.bytes? place) →
      Sound job modules files files' path progress
  /-- What has been found has been written. -/
  | written {code : Text} {place : Place} : job.prepare modules files path = .ok (some code) →
      files.locate path = .ok place → files'.bytes? place = some (Utf8.encode code) →
      Sound job modules files files' path (.finished none)

/-- A task stays as it is while nothing happens to its file. -/
theorem Sound.frame {path : Path} {progress : Progress} {files'' : FileSystem}
    (h : Sound job modules files files' path progress)
    (hkeep : ∀ place, files.locate path = .ok place → files''.bytes? place = files'.bytes? place) :
    Sound job modules files files'' path progress := by
  cases h with
  | untouched hprogress hbytes =>
    exact .untouched hprogress fun place hl => (hkeep place hl).trans (hbytes place hl)
  | written hfound hl hbytes => exact .written hfound hl ((hkeep _ hl).trans hbytes)

/-- The tasks have come as far as they have on their own files. -/
structure Consistent (job : Job) (modules : List Path → Except Fault (List Path))
    (files : FileSystem) (tasks : List Path) (pool : Pool) : Prop where
  alike : Alike files pool.files
  paths : pool.tasks.map (·.1) = tasks
  sound : ∀ task ∈ pool.tasks, Sound job modules files pool.files task.1 task.2
  elsewhere : ∀ place, (∀ path ∈ tasks, files.locate path ≠ .ok place) →
    pool.files.bytes? place = files.bytes? place

theorem consistent_start (job : Job) (modules : List Path → Except Fault (List Path))
    (files : FileSystem) (tasks : List Path) :
    Consistent job modules files tasks (start files tasks) where
  alike := .refl files
  paths := by
    rw [start, List.map_map]
    exact List.map_id tasks
  sound task htask := by
    obtain ⟨path, -, rfl⟩ := List.mem_map.1 htask
    exact .untouched (.inl rfl) fun _ _ => rfl
  elsewhere _ _ := rfl

/-- What a task holds that has not been written is what it would find alone. -/
theorem Sound.prepare_of_holding {path : Path} {code : Text}
    (h : Sound job modules files files' path (.holding code)) :
    job.prepare modules files path = .ok (some code) := by
  cases h with
  | untouched hprogress _ =>
    rcases hprogress with hprogress | hprogress
    · cases hprogress
    · cases hfound : job.prepare modules files path with
      | error fault => rw [hfound] at hprogress; cases hprogress
      | ok text =>
        rw [hfound] at hprogress
        cases text with
        | none => cases hprogress
        | some code' => cases hprogress; rfl

/-- A task that waits has its file as it was. -/
theorem Sound.bytes_of_waiting {path : Path} (h : Sound job modules files files' path .waiting) :
    ∀ place, files.locate path = .ok place → files'.bytes? place = files.bytes? place := by
  cases h with
  | untouched _ hbytes => exact hbytes

section Step

variable {tasks : List Path} {before after : List (Path × Progress)} {path : Path}
    {progress : Progress}

/-- The other tasks have other paths. -/
theorem ne_path (hnodup : tasks.Nodup)
    (hpaths : (before ++ (path, progress) :: after).map (·.1) = tasks) {task : Path × Progress}
    (htask : task ∈ before ∨ task ∈ after) : task.1 ≠ path := by
  rw [← hpaths, List.map_append, List.map_cons] at hnodup
  have hnodup' := List.nodup_middle.1 hnodup
  have hnot := (List.nodup_cons.1 hnodup').1
  intro heq
  apply hnot
  rw [← List.map_append, ← heq]
  exact List.mem_map.2 ⟨task, List.mem_append.2 htask, rfl⟩

/-- One task has gone a step, and the others find their files as they were. -/
theorem Consistent.advance (hapart : Apart files tasks) {old : FileSystem} {progress' : Progress}
    (h : Consistent job modules files tasks ⟨old, before ++ (path, progress) :: after⟩)
    (halike : Alike files files')
    (hown : Sound job modules files files' path progress')
    (hframe : ∀ place, files.locate path ≠ .ok place → files'.bytes? place = old.bytes? place) :
    Consistent job modules files tasks ⟨files', before ++ (path, progress') :: after⟩ := by
  have hmem : path ∈ tasks := by
    rw [← h.paths]
    exact List.mem_map.2 ⟨(path, progress), List.mem_append_right _ List.mem_cons_self, rfl⟩
  refine ⟨halike, ?_, fun task htask => ?_, fun place hplace => ?_⟩
  · rw [← h.paths]
    simp
  -- the other tasks have files at other places, so what is known of them stays true
  · have hother : ∀ task, task ∈ before ∨ task ∈ after →
        Sound job modules files files' task.1 task.2 := by
      intro task htask
      have hin : task ∈ before ++ (path, progress) :: after :=
        List.mem_append.2 (htask.imp_right (List.mem_cons_of_mem _))
      refine (h.sound task hin).frame fun place hl => hframe place fun hl' => ?_
      have htask' : task.1 ∈ tasks := by
        rw [← h.paths]
        exact List.mem_map_of_mem hin
      exact ne_path hapart.nodup h.paths htask (hapart.eq_of_locate _ htask' _ hmem place hl hl')
    rcases List.mem_append.1 htask with hbefore | hafter
    · exact hother task (.inl hbefore)
    · rcases List.mem_cons.1 hafter with rfl | hafter
      · exact hown
      · exact hother task (.inr hafter)
  · rw [hframe place (hplace path hmem)]
    exact h.elsewhere place hplace

end Step

/-- **One step keeps the tasks consistent**, whichever task goes it. -/
theorem Consistent.step {tasks : List Path} (hapart : Apart files tasks) {pool pool' : Pool}
    (h : Consistent job modules files tasks pool) (hstep : Step job modules pool pool') :
    Consistent job modules files tasks pool' := by
  have hsound :
      ∀ {files' : FileSystem} {before after : List (Path × Progress)} {task : Path × Progress},
      Consistent job modules files tasks ⟨files', before ++ task :: after⟩ →
        Sound job modules files files' task.1 task.2 := fun h =>
    h.sound _ (List.mem_append_right _ List.mem_cons_self)
  have hmem :
      ∀ {files' : FileSystem} {before after : List (Path × Progress)} {task : Path × Progress},
      Consistent job modules files tasks ⟨files', before ++ task :: after⟩ → task.1 ∈ tasks := by
    intro files' before after task h
    rw [← h.paths]
    exact List.mem_map_of_mem (List.mem_append_right _ List.mem_cons_self)
  -- whoever holds a text has read it from a file, and the file is still there
  have hwrite :
      ∀ {files' : FileSystem} {before after : List (Path × Progress)} {path : Path} {code : Text},
      Consistent job modules files tasks ⟨files', before ++ (path, .holding code) :: after⟩ →
        ∃ place, files.locate path = .ok place ∧ (files'.bytes? place).isSome = true ∧
          files'.write path code = .ok (files'.put place (Utf8.encode code)) := by
    intro files' before after path code h
    obtain ⟨place, bytes, hl, hdir, hbytes⟩ := Job.located_of_prepare (hsound h).prepare_of_holding
    refine ⟨place, hl, ?_, write_eq (hapart.namesFile path (hmem h)) ?_ ?_ code⟩
    · rw [h.alike.isSome_bytes?, hbytes]
      rfl
    · rw [h.alike.locate, hl]
    · rw [h.alike.hasDirectory, hdir]
  cases hstep with
  | read files' before after path =>
    have hbytes := (hsound h).bytes_of_waiting
    have hfound : job.prepare modules files' path = job.prepare modules files path :=
      job.prepare_congr modules (h.alike.readText hbytes)
    rw [hfound]
    exact h.advance hapart h.alike (.untouched (.inr rfl) hbytes) fun _ _ => rfl
  | write before after path hw =>
    obtain ⟨place, hl, hsome, hput⟩ := hwrite h
    rw [hput] at hw
    cases hw
    refine h.advance hapart (h.alike.trans (.put hsome _)) ?_ fun other hother => ?_
    · exact .written (hsound h).prepare_of_holding hl (bytes?_put ..)
    · refine bytes?_put_of_ne fun heq => hother ?_
      rw [heq, hl]
  | refuse before after path hw =>
    -- no such write is refused
    obtain ⟨place, -, -, hput⟩ := hwrite h
    rw [hput] at hw
    cases hw

/-- **Steps in any order keep the tasks consistent.** -/
theorem consistent_of_steps {tasks : List Path} (hapart : Apart files tasks) {pool : Pool}
    (h : Steps job modules (start files tasks) pool) : Consistent job modules files tasks pool := by
  induction h with
  | refl => exact consistent_start job modules files tasks
  | tail _ hstep ih => exact ih.step hapart hstep

end Pool

/-! ## Tasks that are done alone -/

namespace Job

/-- How a task ends that is done alone. -/
def alone (job : Job) (modules : List Path → Except Fault (List Path))
    (files : FileSystem) (path : Path) :
    EStateM.Result Fault Session Bool :=
  job.run (fun entries => give (modules entries)) path (Session.start files)

/-- What is at a place behind a task that is done alone; a task that fails leaves what was there. -/
def bytesAlone (job : Job) (modules : List Path → Except Fault (List Path)) (files : FileSystem)
    (path : Path) (place : Place) : Option (List UInt8) :=
  match job.alone modules files path with
  | .ok _ s => s.files.bytes? place
  | .error _ _ => files.bytes? place

/-- The failure of a task that is done alone. -/
def failureAlone (job : Job) (modules : List Path → Except Fault (List Path)) (files : FileSystem)
    (path : Path) : Option Failure :=
  match job.alone modules files path with
  | .ok _ _ => none
  | .error cause _ => some ⟨path, cause⟩

variable {job : Job} {modules : List Path → Except Fault (List Path)}
    {files files' : FileSystem} {path : Path}

theorem change_start :
    job.change (fun entries => give (modules entries)) path (Session.start files) =
    give (job.prepare modules files path) (Session.start files) :=
  job.change_give modules path (Session.start files)

theorem alone_of_error {cause : Fault} (h : job.prepare modules files path = .error cause) :
    job.alone modules files path = .error cause (Session.start files) :=
  run_of_error (by rw [change_start, h]; rfl)

theorem alone_of_none (h : job.prepare modules files path = .ok none) :
    job.alone modules files path = .ok false (Session.start files) :=
  run_of_none (by rw [change_start, h]; rfl)

theorem alone_of_some {code : Text} {place : Place}
    (h : job.prepare modules files path = .ok (some code)) (hpath : NamesFile path)
    (hl : files.locate path = .ok place) :
    job.alone modules files path = .ok true
      (job.committed path place code (Session.start files)) := by
  obtain ⟨place', bytes, hl', hdir, -⟩ := located_of_prepare h
  rw [hl] at hl'
  cases hl'
  exact run_of_some (by rw [change_start, h]; rfl) hpath hl hdir

/-- **A task that has come to its end has done what it does alone.** -/
theorem alone_of_finished {fault : Option Fault} (hpath : NamesFile path)
    (h : Pool.Sound job modules files files' path (.finished fault)) :
    (∀ place, files.locate path = .ok place →
      files'.bytes? place = job.bytesAlone modules files path place) ∧
      fault.map (Failure.mk path) = job.failureAlone modules files path := by
  cases h with
  | untouched hprogress hbytes =>
    -- a task that is over with its file untouched has failed, or has found nothing to write
    rcases hprogress with hprogress | hprogress
    · cases hprogress
    · cases hfound : job.prepare modules files path with
      | error cause =>
        rw [hfound] at hprogress
        cases hprogress
        refine ⟨fun place hl => ?_, ?_⟩
        · rw [hbytes place hl, bytesAlone, alone_of_error hfound]
        · rw [failureAlone, alone_of_error hfound]
          rfl
      | ok text =>
        rw [hfound] at hprogress
        cases text with
        | some code => cases hprogress
        | none =>
          cases hprogress
          refine ⟨fun place hl => ?_, ?_⟩
          · rw [hbytes place hl, bytesAlone, alone_of_none hfound]
            rfl
          · rw [failureAlone, alone_of_none hfound]
            rfl
  | @written code place hfound hl hbytes =>
    refine ⟨fun other hother => ?_, ?_⟩
    · rw [hl] at hother
      cases hother
      rw [hbytes, bytesAlone, alone_of_some hfound hpath hl]
      exact (bytes?_put ..).symm
    · rw [failureAlone, alone_of_some hfound hpath hl]
      rfl

end Job

namespace Pool

/-! ## Pools that have come to their ends -/

section Finished

variable {job : Job} {modules : List Path → Except Fault (List Path)} {files : FileSystem}
  {tasks : List Path} {pool pool' : Pool}

/-- **Where all tasks have come to their ends, each has done what it does alone.** -/
theorem Consistent.of_finished (h : Consistent job modules files tasks pool)
    (hnames : ∀ path ∈ tasks, NamesFile path) (hfin : pool.Finished) :
    (∀ path ∈ tasks, ∀ place, files.locate path = .ok place →
      pool.files.bytes? place = job.bytesAlone modules files path place) ∧
    pool.failures = tasks.filterMap (job.failureAlone modules files) := by
  -- a task that is over has its own file and failure as it would have them alone
  have hended : ∀ task ∈ pool.tasks, ∃ fault, task.2 = .finished fault ∧
      (∀ place, files.locate task.1 = .ok place →
        pool.files.bytes? place = job.bytesAlone modules files task.1 place) ∧
      fault.map (Failure.mk task.1) = job.failureAlone modules files task.1 := by
    intro task htask
    obtain ⟨fault, hfault⟩ := hfin task htask
    have hsound := h.sound task htask
    rw [hfault] at hsound
    have hname : NamesFile task.1 := hnames task.1 (h.paths ▸ List.mem_map_of_mem htask)
    exact ⟨fault, hfault, Job.alone_of_finished hname hsound⟩
  constructor
  · intro path hpath place hl
    rw [← h.paths] at hpath
    obtain ⟨task, htask, rfl⟩ := List.mem_map.1 hpath
    obtain ⟨fault, -, hbytes, -⟩ := hended task htask
    exact hbytes place hl
  · rw [← h.paths, List.filterMap_map, failures]
    refine List.filterMap_congr fun task htask => ?_
    obtain ⟨fault, hfault, -, hfailure⟩ := hended task htask
    rw [Function.comp_apply, ← hfailure, hfault]
    cases fault <;> rfl

/-- Two such pools have the same files. -/
theorem Consistent.bytes_eq (h : Consistent job modules files tasks pool)
    (h' : Consistent job modules files tasks pool') (hnames : ∀ path ∈ tasks, NamesFile path)
    (hfin : pool.Finished) (hfin' : pool'.Finished) (place : Place) :
    pool.files.bytes? place = pool'.files.bytes? place := by
  -- a place belongs to a task, which decides it alone, or it is as it was at the start
  by_cases hplace : ∃ path ∈ tasks, files.locate path = .ok place
  · obtain ⟨path, hpath, hl⟩ := hplace
    rw [(h.of_finished hnames hfin).1 path hpath place hl,
      (h'.of_finished hnames hfin').1 path hpath place hl]
  · have hother : ∀ path ∈ tasks, files.locate path ≠ .ok place :=
      fun path hpath hl => hplace ⟨path, hpath, hl⟩
    rw [h.elsewhere place hother, h'.elsewhere place hother]

/-! ## One task after the other -/

theorem prepare_of_change {path : Path} {s s' : Session} {found : Option Text}
    (h : job.change (fun entries => give (modules entries)) path s = .ok found s') :
    job.prepare modules s.files path = .ok found := by
  rw [Job.change_give] at h
  exact (of_give_ok h).1

theorem prepare_of_change_error {path : Path} {s s' : Session} {cause : Fault}
    (h : job.change (fun entries => give (modules entries)) path s = .error cause s') :
    job.prepare modules s.files path = .error cause := by
  rw [Job.change_give] at h
  exact (of_give_error h).1

/-- An attempt is the steps of one task. -/
theorem steps_of_attempted {path : Path} (hpath : NamesFile path) {s : Session}
    {failure : Option Failure} {files : FileSystem}
    (h : Job.Attempted job (fun entries => give (modules entries)) path s failure files) :
    ∃ fault, failure = fault.map (Failure.mk path) ∧ ∀ before after,
      Steps job modules ⟨s.files, before ++ (path, .waiting) :: after⟩
        ⟨files, before ++ (path, .finished fault) :: after⟩ := by
  have hread : ∀ before after {found}, job.prepare modules s.files path = found →
      Steps job modules ⟨s.files, before ++ (path, .waiting) :: after⟩
        ⟨s.files, before ++ (path, .ofFound found) :: after⟩ := by
    rintro before after found rfl
    exact .single (.read s.files before after path)
  cases h with
  | failed hchange =>
    exact ⟨some _, rfl, fun before after => hread before after (prepare_of_change_error hchange)⟩
  | kept hchange =>
    exact ⟨none, rfl, fun before after => hread before after (prepare_of_change hchange)⟩
  | written hchange hl hsome =>
    have hprepare := prepare_of_change hchange
    obtain ⟨place, -, hl', hdir, -⟩ := Job.located_of_prepare hprepare
    rw [hl] at hl'
    cases hl'
    refine ⟨none, rfl, fun before after => (hread before after hprepare).tail ?_⟩
    exact .write before after path (write_eq hpath hl hdir _)

/-- **Doing one task after the other is one of the schedules.** -/
theorem steps_of_sequence (tasks : List Path)
    (hnames : ∀ path ∈ tasks, NamesFile path) (s : Session) :
    ∃ failures s' pool,
      tasks.filterMapM (attemptTask job fun entries => give (modules entries)) s = .ok failures s' ∧
      Steps job modules (start s.files tasks) pool ∧ pool.Finished ∧
      pool.files = s'.files ∧ pool.failures = failures := by
  -- stated with any tasks in front, since the tasks that have ended stay in the list
  have hgo : ∃ failures s' ends,
      tasks.filterMapM (attemptTask job fun entries => give (modules entries)) s = .ok failures s' ∧
      (∀ before, Steps job modules ⟨s.files, before ++ tasks.map fun path => (path, .waiting)⟩
        ⟨s'.files, before ++ ends⟩) ∧
      (Pool.mk s'.files ends).Finished ∧ (Pool.mk s'.files ends).failures = failures := by
    induction tasks generalizing s with
    | nil => exact ⟨[], s, [], rfl, fun _ => .refl, nofun, rfl⟩
    | cons path tasks ih =>
      obtain ⟨failure, s', hattempt, -, hattempted⟩ := @Job.attemptTask_ends job
        (fun entries => give (modules entries)) path s
          (fun entries => looksUp_give (modules entries))
        (hnames path List.mem_cons_self)
      obtain ⟨fault, hfault, hsteps⟩ :=
        steps_of_attempted (hnames path List.mem_cons_self) hattempted
      obtain ⟨failures, s'', ends, hrest, hsteps', hfin, hfailures⟩ :=
        ih (fun p hp => hnames p (List.mem_cons_of_mem _ hp)) s'
      refine ⟨_, s'', (path, .finished fault) :: ends, ?_, fun before => ?_, ?_, rfl⟩
      · rw [Work.filterMapM_cons_of_ok hattempt, hrest, hfault, ← hfailures]
        cases fault <;> rfl
      · refine (hsteps before _).trans ?_
        have := hsteps' (before ++ [(path, .finished fault)])
        rwa [List.append_assoc, List.append_assoc] at this
      · intro task htask
        rcases List.mem_cons.1 htask with rfl | htask
        · exact ⟨fault, rfl⟩
        · exact hfin task htask
  obtain ⟨failures, s', ends, hrun, hsteps, hfin, hfailures⟩ := hgo
  exact ⟨failures, s', _, hrun, hsteps [], hfin, rfl, hfailures⟩

end Finished

/-! ## The end of all schedules -/

/-- **Tasks leave the same files and failures in every order.** However the reading and writing of
the tasks are interleaved, the schedule can be carried on to its end, and there each file of a task
is as the task alone leaves it, every other file is as it was, and the failures are those of the
tasks alone, in the order of the tasks. Done one after the other, as in a run, the tasks come
through with just these files and failures. -/
theorem schedule_independent (job : Job) (imports : Imports) (limit : Nat) {files : FileSystem}
    (hwf : files.WellFormed) {directory : Path} {exclude : List Text} {metaDir : Text}
    {listed : List Path} (hlisted : listFiles files directory exclude metaDir = .ok listed)
    {tasks : List Path} (htasks : tasks.Sublist listed) {pool : Pool}
    (hsteps : Steps job (imports.modules limit) (start files tasks) pool) :
    (∃ pool', Steps job (imports.modules limit) pool pool' ∧ pool'.Finished) ∧
    (pool.Finished →
      (∀ path ∈ tasks, ∀ place, files.locate path = .ok place →
        pool.files.bytes? place = job.bytesAlone (imports.modules limit) files path place) ∧
      (∀ place, (∀ path ∈ tasks, files.locate path ≠ .ok place) →
        pool.files.bytes? place = files.bytes? place) ∧
      pool.files.directories = files.directories ∧
      pool.failures = tasks.filterMap (job.failureAlone (imports.modules limit) files) ∧
      ∃ s', tasks.filterMapM (attemptTask job fun entries => give (imports.modules limit entries))
          (Session.start files) = .ok pool.failures s' ∧
        s'.files.directories = files.directories ∧
        ∀ place, s'.files.bytes? place = pool.files.bytes? place) := by
  have hapart := (apart_of_listFiles hwf hlisted).sublist htasks
  have h := consistent_of_steps hapart hsteps
  refine ⟨exists_finished job (imports.modules limit) pool, fun hfin => ?_⟩
  obtain ⟨hbytes, hfailures⟩ := h.of_finished hapart.namesFile hfin
  -- the run itself is one of the schedules, so its end is compared with
  -- this one as any two ends are
  obtain ⟨failures, s', last, hrun, hlast, hfin', hfiles, hfailures'⟩ :=
    @steps_of_sequence job (imports.modules limit) tasks hapart.namesFile (Session.start files)
  have h' := consistent_of_steps hapart hlast
  refine ⟨hbytes, h.elsewhere, h.alike.directories, hfailures, s', ?_, ?_, fun place => ?_⟩
  · rw [hrun, ← hfailures', (h'.of_finished hapart.namesFile hfin').2, hfailures]
  · rw [← hfiles]
    exact h'.alike.directories
  · rw [← hfiles]
    exact h'.bytes_eq h hapart.namesFile hfin' hfin place

/-! ### Two stylesheets, one of which cannot be minified -/

/-- The stylesheet that can be minified. -/
def goodSheet : Path := "/site/a.css".toList

/-- The stylesheet that cannot be minified. -/
def badSheet : Path := "/site/b.css".toList

/-- A directory with the two stylesheets. -/
def twoSheets : FileSystem where
  files := [(["site".toList, "a.css".toList], [112, 32, 123, 125]),
    (["site".toList, "b.css".toList], [120])]
  directories := [["site".toList]]
  sealedPlaces := []

/-- The fault of a minifier that refuses a text. -/
def refusal : Fault := .component .value "bad".toList

/-- Minifies the one stylesheet and refuses the other one. -/
def sheetJob : Job where
  root := "/site".toList
  settings := .default
  minify :=
    { css := fun code => if code = "p {}".toList then .ok "p{}".toList else .error refusal
      js := .ok
      html := .ok }
  manifest := []
  combined := some []

/-- Nothing imports anything. -/
def noImports : Imports := fun _ => .ok []

/-- Whatever the schedule, the one stylesheet is minified and the other one is a failure. -/
theorem schedule_twoSheets : ∃ pool,
    Steps sheetJob (noImports.modules 0) (start twoSheets [goodSheet, badSheet]) pool ∧
      pool.Finished ∧
      pool.files.bytes? ["site".toList, "a.css".toList] = some [112, 123, 125] ∧
      pool.failures = [⟨badSheet, refusal⟩] := by
  have hwf : twoSheets.WellFormed := by decide +kernel
  have hlisted : listFiles twoSheets "/site".toList [] [] = .ok [goodSheet, badSheet] := by
    have hdirectory : directoryPlace twoSheets "/site".toList = .ok ["site".toList] := by
      decide +kernel
    have hbelow : twoSheets.listBelow ["site".toList] =
        .ok [["a.css".toList], ["b.css".toList]] := by
      decide +kernel
    exact listFiles_of_listBelow hdirectory hbelow (by decide +kernel) (by decide +kernel)
  obtain ⟨pool, hsteps, hfin⟩ :=
    exists_finished sheetJob (noImports.modules 0) (start twoSheets [goodSheet, badSheet])
  obtain ⟨-, hend⟩ := schedule_independent sheetJob noImports 0 hwf hlisted
    (List.Sublist.refl _) hsteps
  obtain ⟨hbytes, -, -, hfailures, -⟩ := hend hfin
  have hplace : twoSheets.locate goodSheet = .ok ["site".toList, "a.css".toList] := by rfl
  refine ⟨pool, hsteps, hfin, ?_, ?_⟩
  · rw [hbytes goodSheet List.mem_cons_self _ hplace]
    decide +kernel
  · rw [hfailures]
    decide +kernel

end Pool
end Build
end SiteOptimizer
