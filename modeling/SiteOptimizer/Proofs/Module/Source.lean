import SiteOptimizer.Module.Source
import SiteOptimizer.Proofs.FileSystem
import SiteOptimizer.Proofs.Module.Closure
import SiteOptimizer.Proofs.Session

/-!
# Scripts answer for their imports

As long as the files stay as they are, looking up a module gives the imports that its
script has, whether they are remembered or not. A script has fewer statements than bytes,
and no more scripts can be opened than there are paths short enough, so the search through
scripts never comes to its limit.
-/

namespace SiteOptimizer
namespace Module

/-! ## Which modules a script imports -/

theorem mem_add {path root : Path} {e : Extraction} {specifier : Text} {target : Path} :
    target ∈ (e.add path root specifier).imports ↔ target ∈ e.imports ∨
      (Reference.isRemote specifier = false ∧ Reference.isLocal specifier = true ∧
        Reference.resolve? specifier path root = some target) := by
  unfold Extraction.add
  cases Reference.isRemote specifier with
  | true => exact ⟨.inl, fun h => h.resolve_right nofun⟩
  | false =>
    cases Reference.isLocal specifier with
    | false => exact ⟨.inl, fun h => h.resolve_right nofun⟩
    | true =>
      cases Reference.resolve? specifier path root with
      | none => exact ⟨.inl, fun h => h.resolve_right nofun⟩
      | some found =>
        simp only [Bool.false_eq_true, if_false, Bool.not_true, true_and, Option.some_inj]
        -- a target that is listed already is not listed again
        split
        · next hin =>
          refine ⟨.inl, fun h => h.elim id ?_⟩
          rintro rfl
          exact List.contains_iff_mem.1 hin
        · rw [List.mem_append, List.mem_singleton]
          exact or_congr_right eq_comm

/-- **A script imports the local files that its specifiers name.** -/
theorem mem_ofCode {code : Text} {path root target : Path} :
    target ∈ (Extraction.ofCode code path root).imports ↔ ∃ specifier ∈ Script.specifiers code,
      Reference.isRemote specifier = false ∧ Reference.isLocal specifier = true ∧
        Reference.resolve? specifier path root = some target := by
  have hfold : ∀ (specifiers : List Text) (e : Extraction),
      target ∈ (specifiers.foldl (Extraction.add path root) e).imports ↔
        target ∈ e.imports ∨ ∃ specifier ∈ specifiers, Reference.isRemote specifier = false ∧
          Reference.isLocal specifier = true ∧
          Reference.resolve? specifier path root = some target := by
    intro specifiers
    induction specifiers with
    | nil => exact fun e => ⟨.inl, fun h => h.resolve_right nofun⟩
    | cons specifier specifiers ih =>
      intro e
      rw [List.foldl_cons, ih, mem_add, List.exists_mem_cons_iff, or_assoc]
  exact (hfold _ _).trans ⟨fun h => h.resolve_left nofun, .inr⟩

/-! ## How many imports a script has -/

theorem length_occurrences_le (statement? : Text → Option (Text × Text)) (skip : Nat)
    (before : Option Char) (offset : Nat) (s : Text) :
    (Script.occurrences statement? skip before offset s).length ≤ s.length := by
  induction s generalizing skip before offset with
  | nil => exact Nat.le_refl 0
  | cons c s ih =>
    unfold Script.occurrences
    dsimp only
    rw [List.length_cons]
    split
    · exact Nat.le_succ_of_le (ih ..)
    · split
      · exact Nat.le_succ_of_le (ih ..)
      · split
        · exact Nat.succ_le_succ (ih ..)
        · exact Nat.le_succ_of_le (ih ..)

theorem length_strip_le (code : Text) : (Script.strip code).text.length ≤ code.length := by
  show ((Script.segments code).flatMap Script.Segment.stripped).length ≤ code.length
  induction code using Script.segments.induct with
  | case1 =>
    rw [Script.segments]
    exact Nat.zero_le _
  | case2 c s ih =>
    obtain ⟨hne, happ⟩ := Script.nextSegment_append c s
    -- a comment has a character at least, and one blank takes its place
    have hstripped : (Script.nextSegment c s).1.stripped.length ≤
        (Script.nextSegment c s).1.text.length := by
      cases hseg : (Script.nextSegment c s).1 with
      | literal text => exact Nat.le_refl _
      | comment text =>
        rw [hseg] at hne
        exact List.length_pos_iff.2 hne
      | plain c => exact Nat.le_refl _
    have hlen := congrArg List.length happ
    rw [List.length_append] at hlen
    rw [Script.segments, List.flatMap_cons, List.length_append]
    omega

theorem length_specifiers_le (code : Text) : (Script.specifiers code).length ≤ 2 * code.length := by
  unfold Script.specifiers
  dsimp only
  rw [List.length_map, List.length_mergeSort]
  refine Nat.le_trans (List.length_filter_le ..) ?_
  rw [List.length_append]
  have himport := length_occurrences_le Script.importStatement? 0 none 0 (Script.strip code).text
  have hexport := length_occurrences_le Script.exportStatement? 0 none 0 (Script.strip code).text
  have hstrip := length_strip_le code
  unfold Script.statements
  omega

theorem length_add_le (path root : Path) (e : Extraction) (specifier : Text) :
    (e.add path root specifier).imports.length ≤ e.imports.length + 1 := by
  unfold Extraction.add
  split
  · exact Nat.le_succ _
  · split
    · exact Nat.le_succ _
    · split
      · split
        · exact Nat.le_succ _
        · simp
      · exact Nat.le_succ _

theorem length_ofCode_le (code : Text) (path root : Path) :
    (Extraction.ofCode code path root).imports.length ≤ 2 * code.length := by
  have hfold : ∀ (specifiers : List Text) (e : Extraction),
      (specifiers.foldl (Extraction.add path root) e).imports.length ≤
        e.imports.length + specifiers.length := by
    intro specifiers
    induction specifiers with
    | nil => exact fun e => Nat.le_refl _
    | cons specifier specifiers ih =>
      intro e
      have hadd := length_add_le path root e specifier
      have hrest := ih (e.add path root specifier)
      rw [List.foldl_cons, List.length_cons]
      omega
  have hall := hfold (Script.specifiers code) ⟨[], []⟩
  rw [List.length_nil, Nat.zero_add] at hall
  exact Nat.le_trans hall (length_specifiers_le code)

theorem length_unifyNewlines_le (s : Text) : (Text.unifyNewlines s).length ≤ s.length := by
  fun_induction Text.unifyNewlines s with
  | case1 => exact Nat.le_refl 0
  | case2 s ih => exact Nat.succ_le_succ (Nat.le_succ_of_le ih)
  | case3 c s _ ih => exact Nat.succ_le_succ ih

theorem length_decodeFrom_le {start : Nat} {bytes : List UInt8} {s : Text}
    (h : Utf8.decodeFrom start bytes = .ok s) : s.length ≤ bytes.length := by
  fun_induction Utf8.decodeFrom start bytes generalizing s with
  | case1 start => cases h; exact Nat.le_refl 0
  | case2 => cases h
  | case3 => cases h
  | case4 => cases h
  | case5 start b bytes lead hlead n rest hcont found hfound ih =>
    cases h
    have hrest := Utf8.length_le_of_continuation hcont
    have hle := ih hfound
    simp only [List.length_cons]
    omega

/-- A document has no more characters than its file has bytes. -/
theorem length_le_of_readDocument {fs : FileSystem} {path : Path} {code : Text}
    (h : fs.readDocument path = .ok code) : code.length ≤ fs.size := by
  obtain ⟨text, hread, rfl⟩ := map_eq_ok_iff.1 h
  obtain ⟨bytes, hbytes, hdecode⟩ := FileSystem.decode_of_readText hread
  obtain ⟨place, -, -, hplace⟩ := FileSystem.of_readBytes hbytes
  have hsize := FileSystem.length_le_size hplace
  have htext := length_decodeFrom_le hdecode
  have hunified := length_unifyNewlines_le text
  omega

/-! ## The imports of scripts -/

/-- What the modules import while the files are these. -/
def Source.importsIn (source : Source) (fs : FileSystem) : Imports := fun path =>
  (source.imports fs path).map (·.imports)

variable {root : Path} {fs : FileSystem}

/-- **A script that imports anything is a file that can be read**, and its
code says what it imports. -/
theorem of_importsIn_scripts {path : Path} {targets : List Path}
    (h : (Source.scripts root).importsIn fs path = .ok targets) (hne : targets ≠ []) :
    fs.isFile path = true ∧ ∃ code, fs.readDocument path = .ok code ∧
      (Extraction.ofCode code path root).imports = targets := by
  have h : (extract fs path root).map (·.imports) = .ok targets := h
  unfold extract at h
  split at h
  · next hfile =>
    obtain ⟨extraction, hextraction, rfl⟩ := map_eq_ok_iff.1 h
    obtain ⟨code, hread, rfl⟩ := map_eq_ok_iff.1 hextraction
    exact ⟨hfile, code, hread, rfl⟩
  -- a script that is missing imports nothing
  · cases h
    exact absurd rfl hne

/-- Each import is what one of the specifiers refers to. -/
theorem exists_resolve?_of_importsIn {path target : Path} {targets : List Path}
    (h : (Source.scripts root).importsIn fs path = .ok targets) (ht : target ∈ targets) :
    ∃ specifier, Reference.resolve? specifier path root = some target := by
  obtain ⟨-, code, -, rfl⟩ := of_importsIn_scripts h (List.ne_nil_of_mem ht)
  obtain ⟨specifier, -, -, -, hresolve⟩ := mem_ofCode.1 ht
  exact ⟨specifier, hresolve⟩

/-- A script that imports anything can be opened, and it has no more imports than that. -/
theorem importsIn_scripts {path : Path} {targets : List Path}
    (h : (Source.scripts root).importsIn fs path = .ok targets) (hne : targets ≠ []) :
    path.length ≤ FileSystem.maxPathBytes ∧ targets.length ≤ 2 * fs.size := by
  obtain ⟨hfile, code, hread, rfl⟩ := of_importsIn_scripts h hne
  have hcode := length_le_of_readDocument hread
  have himports := length_ofCode_le code path root
  refine ⟨?_, Nat.le_trans himports (Nat.mul_le_mul_left 2 hcode)⟩
  unfold FileSystem.isFile at hfile
  split at hfile
  · next place hlocate => exact FileSystem.length_le_of_locate hlocate
  · cases hfile

/-- What a module imports, and nothing for a module that cannot be looked up. -/
def Imports.targets (imports : Imports) (path : Path) : List Path :=
  match imports path with
  | .ok targets => targets
  | .error _ => []

theorem Imports.targets_eq {imports : Imports} {path : Path} {targets : List Path}
    (h : imports path = .ok targets) : imports.targets path = targets := by
  rw [Imports.targets, h]

/-- What is reachable is an entry or an import, and there are no more
importing modules than needed. -/
theorem exists_importers {imports : Imports} {entries many : List Path}
    (hmany : ∀ p ∈ many, Reachable imports entries p) : ∃ importers : List Path, importers.Nodup ∧
      (∀ q ∈ importers, imports.targets q ≠ []) ∧
      ∀ p ∈ many, p ∈ entries ∨ p ∈ importers.flatMap imports.targets := by
  -- repeats are taken out in the end, when nothing depends on the order any more
  have hall : ∃ importers : List Path, (∀ q ∈ importers, imports.targets q ≠ []) ∧
      ∀ p ∈ many, p ∈ entries ∨ p ∈ importers.flatMap imports.targets := by
    induction many with
    | nil => exact ⟨[], nofun, nofun⟩
    | cons p many ih =>
      obtain ⟨importers, hne, hin⟩ := ih fun p hp => hmany p (List.mem_cons_of_mem _ hp)
      cases hmany p List.mem_cons_self with
      | entry hp =>
        refine ⟨importers, hne, fun q hq => ?_⟩
        rcases List.mem_cons.1 hq with rfl | hq
        · exact .inl hp
        · exact hin q hq
      | @step importer _ targets _ hi ht =>
        have htargets := Imports.targets_eq hi
        refine ⟨importer :: importers, fun q hq => ?_, fun q hq => ?_⟩
        · rcases List.mem_cons.1 hq with rfl | hq
          · rw [htargets]
            exact List.ne_nil_of_mem ht
          · exact hne q hq
        · rw [List.flatMap_cons, List.mem_append, htargets]
          rcases List.mem_cons.1 hq with rfl | hq
          · exact .inr (.inl ht)
          · exact (hin q hq).imp_right .inr
  obtain ⟨importers, hne, hin⟩ := hall
  refine ⟨Text.unique importers, Text.nodup_unique importers,
    fun q hq => hne q (Text.mem_unique.1 hq), fun p hp => (hin p hp).imp_right fun hp => ?_⟩
  obtain ⟨q, hq, hp⟩ := List.mem_flatMap.1 hp
  exact List.mem_flatMap.2 ⟨q, Text.mem_unique.2 hq, hp⟩

/-- **The search through scripts never comes to its limit.** -/
theorem length_le_of_reachable {entries many : List Path} (hnodup : many.Nodup)
    (hmany : ∀ p ∈ many, Reachable ((Source.scripts root).importsIn fs) entries p) :
    many.length ≤ (Source.scripts root).limit fs + entries.length := by
  obtain ⟨importers, himporters, hne, hin⟩ := exists_importers hmany
  have hshort : ∀ q ∈ importers, q.length ≤ FileSystem.maxPathBytes ∧
      (((Source.scripts root).importsIn fs).targets q).length ≤ 2 * fs.size := by
    intro q hq
    have hsome := hne q hq
    unfold Imports.targets at hsome ⊢
    cases hi : (Source.scripts root).importsIn fs q with
    | error fault => rw [hi] at hsome; exact absurd rfl hsome
    | ok targets =>
      rw [hi] at hsome
      exact importsIn_scripts hi hsome
  have hcount : importers.length ≤ FileSystem.maxPaths := by
    unfold FileSystem.maxPaths
    exact Text.length_le_of_nodup himporters fun q hq => (hshort q hq).1
  have htargets : ∀ l : List Path, (∀ q ∈ l,
      (((Source.scripts root).importsIn fs).targets q).length ≤ 2 * fs.size) →
      (l.flatMap ((Source.scripts root).importsIn fs).targets).length ≤
        l.length * (2 * fs.size) := by
    intro l hl
    induction l with
    | nil => exact Nat.zero_le _
    | cons q l ih =>
      have hq := hl q List.mem_cons_self
      have hrest := ih fun q hq => hl q (List.mem_cons_of_mem _ hq)
      rw [List.flatMap_cons, List.length_append, List.length_cons, Nat.succ_mul]
      omega
  -- whatever is reachable is an entry, or one of the imports of a script that can be opened
  have hsub : many ⊆ entries ++ importers.flatMap ((Source.scripts root).importsIn fs).targets :=
    fun p hp => List.mem_append.2 (hin p hp)
  calc many.length
      ≤ (entries ++ importers.flatMap ((Source.scripts root).importsIn fs).targets).length :=
        hnodup.length_le_of_subset hsub
    _ = entries.length + (importers.flatMap ((Source.scripts root).importsIn fs).targets).length :=
        List.length_append
    _ ≤ entries.length + importers.length * (2 * fs.size) :=
        Nat.add_le_add_left (htargets importers fun q hq => (hshort q hq).2) _
    _ ≤ entries.length + FileSystem.maxPaths * (2 * fs.size) :=
        Nat.add_le_add_left (Nat.mul_le_mul_right _ hcount) _
    _ = (Source.scripts root).limit fs + entries.length := Nat.add_comm ..

theorem limit_scripts_pos {root : Path} {fs : FileSystem} (h : 0 < fs.size) :
    0 < (Source.scripts root).limit fs := by
  have hpaths : 0 < FileSystem.maxPaths := by
    have hpow : ∀ n, 0 < Nat.pow 0x110001 n := fun n => Nat.pow_pos (Nat.succ_pos _)
    unfold FileSystem.maxPaths
    exact hpow FileSystem.maxPathBytes
  show 0 < FileSystem.maxPaths * (2 * fs.size)
  exact Nat.mul_pos hpaths (Nat.mul_pos Nat.two_pos h)

/-! ## Looking modules up -/

/-- The files are these, and what is remembered is what the modules import. -/
structure Remembers (source : Source) (fs : FileSystem) (s : Session) : Prop where
  files_eq : s.files = fs
  known : ∀ path targets, s.memory.find? path = some targets →
    source.importsIn fs path = .ok targets

theorem remembers_start (source : Source) (fs : FileSystem) :
    Remembers source fs (Session.start fs) where
  files_eq := rfl
  known _ _ h := by cases h

/-- Notes and calls do not matter. -/
theorem Remembers.congr {source : Source} {s s' : Session} (h : Remembers source fs s)
    (hfiles : s'.files = s.files) (hmemory : s'.memory = s.memory) : Remembers source fs s' where
  files_eq := hfiles.trans h.files_eq
  known path targets hfound := h.known path targets (hmemory ▸ hfound)

/-- Looking a module up makes a record of the call, and of what the script has to note. -/
theorem consult_eq (source : Source) (path : Path) (s : Session) : source.consult path s =
    match source.imports s.files path with
    | .ok found =>
      .ok found.imports { s with calls := s.calls ++ [path], notes := s.notes ++ found.notes }
    | .error fault => .error fault { s with calls := s.calls ++ [path] } := by
  show EStateM.bind (Work.ofExcept (source.imports s.files path))
    _ { s with calls := s.calls ++ [path] } = _
  cases source.imports s.files path with
  | error fault => rfl
  | ok found =>
    exact Work.bind_of_ok (Work.forM_note found.notes { s with calls := s.calls ++ [path] })

/-- A look-up that succeeds gives the imports, and it changes nothing but the
record of calls and the notes. -/
theorem exists_consult_of_ok {source : Source} {path : Path} {targets : List Path} {s : Session}
    (hi : source.importsIn s.files path = .ok targets) :
    ∃ notes, source.consult path s = .ok targets { s with calls := s.calls ++ [path], notes } := by
  obtain ⟨found, hfound, rfl⟩ := map_eq_ok_iff.1 hi
  exact ⟨_, by rw [consult_eq, hfound]⟩

theorem consult_of_error {source : Source} {path : Path} {fault : Fault} {s : Session}
    (hi : source.importsIn s.files path = .error fault) :
    source.consult path s = .error fault { s with calls := s.calls ++ [path] } := by
  rw [consult_eq, map_eq_error_iff.1 hi]

theorem recall_of_some {source : Source} {path : Path} {known : List Path} {s : Session}
    (h : s.memory.find? path = some known) : source.recall path s = .ok known s := by
  have hget : (get : Work Session) s = .ok s s := rfl
  rw [Source.recall, Work.bind_of_ok hget, h]
  rfl

/-- The state with the imports of one more module. -/
def remember (path : Path) (targets : List Path) (s : Session) : Session :=
  { s with memory := (s.memory.insertIfNew path targets).2 }

theorem fst_insertIfNew_of_none {m : Memory} {path : Path} (targets : List Path)
    (h : m.find? path = none) :
    (m.insertIfNew path targets).1 = targets := by
  rw [Memory.insertIfNew, h]

theorem recall_of_none {source : Source} {path : Path} {s : Session}
    (h : s.memory.find? path = none) :
    source.recall path s =
      match source.consult path s with
      | .ok targets s' => .ok (s'.memory.insertIfNew path targets).1 (remember path targets s')
      | .error fault s' => .error fault s' := by
  have hget : (get : Work Session) s = .ok s s := rfl
  rw [Source.recall, Work.bind_of_ok hget, h]
  cases hconsult : source.consult path s with
  | ok targets s' => exact Work.bind_of_ok hconsult
  | error fault s' => exact Work.bind_of_error hconsult

theorem recallModules_eq (source : Source) (entries : List Path) (s : Session) :
    source.recallModules entries s = closure source.recall (source.limit s.files) entries s := rfl

theorem looksUp_consult (source : Source) (path : Path) : Work.LooksUp (source.consult path) := by
  intro s
  rw [consult_eq]
  cases source.imports s.files path <;> exact ⟨rfl, fun _ _ h => h⟩

theorem looksUp_recall (source : Source) (path : Path) : Work.LooksUp (source.recall path) := by
  intro s
  cases hfind : s.memory.find? path with
  | some known =>
    rw [recall_of_some hfind]
    exact .refl s
  | none =>
    rw [recall_of_none hfind]
    cases hc : source.consult path s with
    | ok targets s' =>
      have hlater := (looksUp_consult source path).ok hc
      exact ⟨hlater.files, fun other known hfound =>
        Memory.find?_insertIfNew_of_some (hlater.memory other known hfound)⟩
    | error fault s' => exact (looksUp_consult source path).error hc

/-- A module that has been looked up is remembered. -/
theorem find?_of_recall {source : Source} {path : Path} {targets : List Path} {s s' : Session}
    (h : source.recall path s = .ok targets s') : s'.memory.find? path = some targets := by
  cases hfind : s.memory.find? path with
  | some known =>
    rw [recall_of_some hfind] at h
    cases h
    exact hfind
  | none =>
    rw [recall_of_none hfind] at h
    cases hc : source.consult path s with
    | error fault s'' => rw [hc] at h; cases h
    | ok found s'' =>
      rw [hc] at h
      cases h
      exact Memory.find?_insertIfNew_self s''.memory path found

/-- These modules are remembered. -/
def Knows (paths : List Path) (s : Session) : Prop :=
  ∀ path ∈ paths, ∃ targets, s.memory.find? path = some targets

theorem Knows.later {paths : List Path} {s s' : Session} (h : Knows paths s)
    (hs : Session.Later s s') :
    Knows paths s' := fun path hpath => by
  obtain ⟨targets, hfound⟩ := h path hpath
  exact ⟨targets, hs.memory path targets hfound⟩

/-- What is remembered of one more module is what it imports. -/
theorem Remembers.remember {source : Source} {fs : FileSystem} {path : Path} {targets : List Path}
    {s : Session} (h : Remembers source fs s) (hi : source.importsIn fs path = .ok targets)
    (hfind : s.memory.find? path = none) :
    Remembers source fs (remember path targets s) where
  files_eq := h.files_eq
  known other known hother := by
    have hother : (s.memory.insertIfNew path targets).2.find? other = some known := hother
    rw [Memory.insertIfNew, hfind] at hother
    by_cases heq : other = path
    · rw [heq] at hother ⊢
      rw [hi, Except.ok.injEq]
      simpa [Memory.find?] using hother
    · have hne : (other == path) = false := by simp [heq]
      simp only [Memory.find?, List.lookup_cons, hne] at hother
      exact h.known other known hother

/-- A module whose imports can be looked up is answered for, whether it is remembered or not. -/
theorem Remembers.exists_recall {source : Source} {fs : FileSystem} {path : Path}
    {targets : List Path} {s : Session} (h : Remembers source fs s)
    (hi : source.importsIn fs path = .ok targets) :
    ∃ s', source.recall path s = .ok targets s' ∧ Remembers source fs s' := by
  obtain rfl := h.files_eq
  cases hfind : s.memory.find? path with
  | some known =>
    have hknown := h.known path known hfind
    rw [hi] at hknown
    cases hknown
    exact ⟨s, recall_of_some hfind, h⟩
  | none =>
    obtain ⟨notes, hconsult⟩ := exists_consult_of_ok hi
    rw [recall_of_none hfind, hconsult]
    have hcalled : Remembers source s.files { s with calls := s.calls ++ [path], notes } :=
      h.congr rfl rfl
    exact ⟨_, congrArg₂ EStateM.Result.ok (fst_insertIfNew_of_none targets hfind) rfl,
      hcalled.remember hi hfind⟩

/-- **What is remembered answers as the scripts do**, and what has been looked up is remembered. -/
theorem answers_recall (source : Source) (fs : FileSystem) (entries : List Path) :
    Answers source.recall (source.importsIn fs) entries fun done s => Remembers source fs s ∧
      Knows done s where
  ok {path targets done s} _ hs hi := by
    obtain ⟨hs, hknows⟩ := hs
    obtain ⟨s', hrecall, hs'⟩ := hs.exists_recall hi
    refine ⟨s', hrecall, hs', fun other hother => ?_⟩
    rcases List.mem_cons.1 hother with rfl | hother
    · exact ⟨targets, find?_of_recall hrecall⟩
    · exact hknows.later ((looksUp_recall source path).ok hrecall) other hother
  error {path fault done s} _ hs hi := by
    obtain ⟨hs, hknows⟩ := hs
    obtain rfl := hs.files_eq
    cases hfind : s.memory.find? path with
    | some known =>
      have hknown := hs.known path known hfind
      rw [hi] at hknown
      cases hknown
    | none =>
      rw [recall_of_none hfind, consult_of_error hi]
      exact ⟨_, rfl, hs.congr rfl rfl, hknows⟩

/-- A search looks things up if looking modules up does. -/
theorem looksUp_run {lookup : Lookup Session} (h : ∀ path, Work.LooksUp (lookup path)) (limit : Nat)
    (search : Search) : Work.LooksUp (search.run lookup limit) := by
  intro s
  have hcourse := Search.course_run lookup limit search s
  generalize search.run lookup limit s = result at hcourse
  induction hcourse with
  | ended hp => exact .refl _
  | stopped hp => exact .refl _
  | skipped hp hdone _ ih => exact ih
  | failed hp hnew hlookup => exact (h _).error hlookup
  | @answered limit search s s' path pending targets result hp _ hlookup _ ih =>
    have hlater := (h path).ok hlookup
    cases result with
    | ok found s'' => exact hlater.trans ih
    | error fault s'' => exact hlater.trans ih

theorem looksUp_closure {lookup : Lookup Session} (h : ∀ path, Work.LooksUp (lookup path))
    (limit : Nat) (entries : List Path) : Work.LooksUp (closure lookup limit entries) :=
  looksUp_run h (limit + entries.length) (Search.start entries)

theorem looksUp_recallModules (source : Source) (entries : List Path) :
    Work.LooksUp (source.recallModules entries) := fun s =>
  looksUp_closure (looksUp_recall source) (source.limit s.files) entries s

/-! ## Modules that are all remembered -/

/-- Modules that are remembered with all that they import. -/
def Memory.Closed (m : Memory) (paths : List Path) : Prop :=
  ∀ path ∈ paths, ∃ targets, m.find? path = some targets ∧ ∀ target ∈ targets, target ∈ paths

theorem Memory.Closed.kept {m m' : Memory} {paths : List Path} (h : m.Closed paths)
    (hkept : m.Kept m') :
    m'.Closed paths := fun path hpath => by
  obtain ⟨targets, hfound, hall⟩ := h path hpath
  exact ⟨targets, hkept path targets hfound, hall⟩

/-- What modules import by what is remembered. -/
def Memory.imports (m : Memory) : Imports := fun path =>
  match m.find? path with
  | some targets => .ok targets
  | none => .error .moduleLimit

theorem Memory.imports_of_some {m : Memory} {path : Path} {targets : List Path}
    (h : m.find? path = some targets) : m.imports path = .ok targets := by
  rw [Memory.imports, h]

theorem Memory.Closed.mem_of_reachable {m : Memory} {paths entries : List Path} (h : m.Closed paths)
    (hentries : ∀ path ∈ entries, path ∈ paths) {path : Path}
    (hr : Reachable m.imports entries path) :
    path ∈ paths := by
  induction hr with
  | entry hp => exact hentries _ hp
  | step _ hi ht ih =>
    obtain ⟨known, hfound, hall⟩ := h _ ih
    rw [Memory.imports_of_some hfound] at hi
    cases hi
    exact hall _ ht

/-- Whatever a search from these entries comes to is remembered. -/
def Memory.Covers (m : Memory) (entries : List Path) : Prop :=
  ∀ path, Reachable m.imports entries path → ∃ targets, m.find? path = some targets

theorem Memory.Closed.covers {m : Memory} {paths entries : List Path} (h : m.Closed paths)
    (hentries : ∀ path ∈ entries, path ∈ paths) : m.Covers entries := by
  intro path hr
  obtain ⟨targets, hfound, -⟩ := h path (h.mem_of_reachable hentries hr)
  exact ⟨targets, hfound⟩

/-- **Where everything is remembered a search looks nothing up**, and it finds
nothing but what is remembered. -/
theorem recallModules_closed {source : Source} {paths entries : List Path} {s : Session}
    (h : s.memory.Closed paths) (hentries : ∀ path ∈ entries, path ∈ paths) :
    (∃ found, source.recallModules entries s = .ok found s ∧ ∀ path ∈ found, path ∈ paths) ∨
      source.recallModules entries s = .error .moduleLimit s := by
  have hknown : s.memory.Covers entries := h.covers hentries
  -- every module that is asked for is remembered, so no look-up changes the state and none fails
  have hanswers : Answers source.recall s.memory.imports entries fun _ => (· = s) := by
    refine ⟨?_, ?_⟩
    · rintro path targets done s' hr rfl hi
      obtain ⟨known, hfound⟩ := hknown path hr
      rw [Memory.imports_of_some hfound] at hi
      cases hi
      exact ⟨s', recall_of_some hfound, rfl⟩
    · rintro path fault done s' hr rfl hi
      obtain ⟨known, hfound⟩ := hknown path hr
      rw [Memory.imports_of_some hfound] at hi
      cases hi
  have hends := ends_closure hanswers (source.limit s.files) rfl
  have hrun := recallModules_eq source entries s
  rw [hrun]
  generalize closure source.recall (source.limit s.files) entries s = result at hends
  cases hends with
  | found hs _ _ hmem _ =>
    cases hs
    exact .inl ⟨_, rfl, fun path hp => h.mem_of_reachable hentries
      ((hmem path).1 (Text.mem_sort.1 hp))⟩
  | failed hs hr hi =>
    obtain ⟨known, hfound⟩ := hknown _ hr
    rw [Memory.imports_of_some hfound] at hi
    cases hi
  | exhausted hs _ _ _ =>
    cases hs
    exact .inr rfl

end Module
end SiteOptimizer
