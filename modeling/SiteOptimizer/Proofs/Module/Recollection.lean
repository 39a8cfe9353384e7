import Mathlib.Data.List.Count
import SiteOptimizer.Proofs.Page.Scan

/-!
# Remembering changes nothing but the calls

Looking a module up and recalling what was found before answer the same, so a search finds the same
and fails with the same fault whether or not anything is remembered, and so does the scan of pages.
`Gives` says of some work what it gives from every state of a sort, and that it leaves such a state;
it is closed under the ways in which work is put together, so each statement about a search or a
scan is read off its parts. What is remembered is only ever looked up once (`Thrifty`).
-/

namespace SiteOptimizer

namespace Work

open SiteOptimizer.Module (give)

/-- From every state of which `inv` holds the work gives this, or fails with its fault, and `inv`
holds of the state that it leaves. -/
def Gives {α : Type} (inv : Session → Prop) (work : Work α) (known : Except Fault α) : Prop :=
  ∀ s, inv s → ∃ s', inv s' ∧ work s = give known s'

section Gives

variable {α β : Type} {inv : Session → Prop} {work : Work α} {known : Except Fault α}

theorem gives_ofExcept (known : Except Fault α) : Gives inv (Work.ofExcept known) known := by
  intro s hs
  refine ⟨s, hs, ?_⟩
  cases known <;> rfl

theorem gives_pure (a : α) : Gives inv (pure a) (.ok a) :=
  fun s hs => ⟨s, hs, rfl⟩

theorem Gives.bind {f : α → Work β} {g : α → Except Fault β} (h : Gives inv work known)
    (hf : ∀ a, Gives inv (f a) (g a)) : Gives inv (work >>= f) (known.bind g) := by
  intro s hs
  obtain ⟨s', hs', hwork⟩ := h s hs
  cases known with
  | error fault => exact ⟨s', hs', bind_of_error hwork⟩
  | ok a =>
    obtain ⟨s'', hs'', hrest⟩ := hf a s' hs'
    exact ⟨s'', hs'', (bind_of_ok hwork).trans hrest⟩

theorem Gives.mapFault (h : Gives inv work known) (f : Fault → Fault) :
    Gives inv (Work.mapFault f work) (known.mapError f) := by
  intro s hs
  obtain ⟨s', hs', hwork⟩ := h s hs
  refine ⟨s', hs', ?_⟩
  rw [Work.mapFault, hwork]
  cases known <;> rfl

theorem Gives.attempt (h : Gives inv work known) : Gives inv (Work.attempt work) (.ok known) := by
  intro s hs
  obtain ⟨s', hs', hwork⟩ := h s hs
  refine ⟨s', hs', ?_⟩
  rw [Work.attempt, hwork]
  cases known <;> rfl

theorem Gives.mapM {f : α → Work β} {g : α → Except Fault β}
    (h : ∀ a, Gives inv (f a) (g a)) (l : List α) :
    Gives inv (l.mapM f) (l.mapM g) := by
  induction l with
  | nil => exact gives_pure []
  | cons a l ih =>
    rw [List.mapM_cons, List.mapM_cons]
    exact (h a).bind fun b => ih.bind fun bs => gives_pure (b :: bs)

end Gives

end Work

namespace Module

open Work (Gives)

/-! ## Searches -/

/-- What a search gives where imports are given once and for all. -/
def Search.outcome (imports : Imports) (limit : Nat) (search : Search) : Except Fault (List Path) :=
  match search.run (Lookup.fixed imports) limit () with
  | .ok found _ => .ok found
  | .error fault _ => .error fault

section Search

variable {inv : Session → Prop} {lookup : Lookup Session} {imports : Imports}

/-- **A search gives what the answers of its look-ups say**, whatever else these do. -/
theorem Search.gives_run (h : ∀ path, Gives inv (lookup path) (imports path)) (limit : Nat)
    (search : Search) :
    Gives inv (search.run lookup limit) (search.outcome imports limit) := by
  unfold Search.outcome
  generalize () = start
  -- induction on the course of the search that keeps no state; the other search follows it
  have hcourse := course_run (Lookup.fixed imports) limit search start
  generalize search.run (Lookup.fixed imports) limit start = result at hcourse
  induction hcourse with
  | ended hp => exact fun s hs => ⟨s, hs, run_nil _ s hp⟩
  | stopped hp => exact fun s hs => ⟨s, hs, run_zero s hp⟩
  | skipped hp hdone _ ih =>
    intro s hs
    rw [run_skip _ s hp hdone]
    exact ih s hs
  | @failed limit search _ _ path _ fault hp hnew hfixed =>
    intro s hs
    obtain ⟨s', hs', hlookup⟩ := h path s hs
    rw [run_succ _ s hp hnew, hlookup, (of_give_error hfixed).1]
    exact ⟨s', hs', rfl⟩
  | @answered limit search _ _ path _ targets _ hp hnew hfixed _ ih =>
    intro s hs
    obtain ⟨s', hs', hlookup⟩ := h path s hs
    rw [run_succ _ s hp hnew, hlookup, (of_give_ok hfixed).1]
    exact ih s' hs'

theorem gives_closure (h : ∀ path, Gives inv (lookup path) (imports path)) (limit : Nat)
    (entries : List Path) :
    Gives inv (closure lookup limit entries) (imports.modules limit entries) :=
  Search.gives_run h (limit + entries.length) (Search.start entries)

end Search

/-! ## Look-ups -/

/-- What is remembered is what the modules import, and no module that answers has been looked up
twice or is forgotten after it has. -/
structure Thrifty (source : Source) (fs : FileSystem) (s : Session) :
    Prop extends Remembers source fs s where
  found : ∀ path targets, source.importsIn fs path = .ok targets → path ∈ s.calls →
    s.memory.find? path = some targets
  once : ∀ path targets, source.importsIn fs path = .ok targets → s.calls.count path ≤ 1

section LookUp

variable {source : Source} {fs : FileSystem}

theorem thrifty_start (source : Source) (fs : FileSystem) :
    Thrifty source fs (Session.start fs) where
  toRemembers := remembers_start source fs
  found _ _ _ h := by cases h
  once _ _ _ := Nat.zero_le _

/-- Notes do not matter. -/
theorem Thrifty.note {s : Session} (h : Thrifty source fs s) (notes : List Note) :
    Thrifty source fs { s with notes } where
  toRemembers := h.toRemembers.congr rfl rfl
  found := h.found
  once := h.once

/-- A look-up that fails may come again. -/
theorem Thrifty.failed {s : Session} (h : Thrifty source fs s) {path : Path} {fault : Fault}
    (hi : source.importsIn fs path = .error fault) :
    Thrifty source fs { s with calls := s.calls ++ [path] } := by
  have hother : ∀ other targets, source.importsIn fs other = .ok targets → other ∉ [path] := by
    intro other targets hok hmem
    rw [List.mem_singleton.1 hmem, hi] at hok
    cases hok
  refine ⟨h.toRemembers.congr rfl rfl, ?_, ?_⟩
  · intro other targets hok hmem
    exact h.found other targets hok ((List.mem_append.1 hmem).resolve_right
      (hother other targets hok))
  · intro other targets hok
    rw [List.count_append, List.count_eq_zero_of_not_mem (hother other targets hok)]
    exact h.once other targets hok

/-- **A look-up that answers is remembered**, so it was the first one of its module. -/
theorem Thrifty.answered {s : Session} (h : Thrifty source fs s) {path : Path} {targets : List Path}
    (hi : source.importsIn fs path = .ok targets) (hnew : s.memory.find? path = none) :
    Thrifty source fs (remember path targets { s with calls := s.calls ++ [path] }) := by
  -- had it been called before, it would be remembered by now
  have hfirst : path ∉ s.calls := by
    intro hmem
    rw [h.found path targets hi hmem] at hnew
    cases hnew
  refine ⟨Remembers.remember (h.toRemembers.congr rfl rfl) hi hnew, ?_, ?_⟩
  · intro other targets' hok hmem
    rcases List.mem_append.1 hmem with hmem | hmem
    · exact Memory.find?_insertIfNew_of_some (h.found other targets' hok hmem)
    · obtain rfl := List.mem_singleton.1 hmem
      rw [hi] at hok
      cases hok
      have hbrought := Memory.find?_insertIfNew_self s.memory other targets
      rwa [fst_insertIfNew_of_none targets hnew] at hbrought
  · intro other targets' hok
    show (s.calls ++ [path]).count other ≤ 1
    rw [List.count_append]
    by_cases heq : path = other
    · subst heq
      have hbefore : s.calls.count path = 0 := List.count_eq_zero_of_not_mem hfirst
      have hnow : [path].count path = 1 := List.count_singleton_self
      omega
    · have hnone : other ∉ [path] := fun hmem => heq (List.mem_singleton.1 hmem).symm
      rw [List.count_eq_zero_of_not_mem hnone]
      exact h.once other targets' hok

theorem gives_consult (source : Source) (fs : FileSystem) (path : Path) :
    Gives (fun s => s.files = fs) (source.consult path) (source.importsIn fs path) := by
  rintro s rfl
  cases hi : source.importsIn s.files path with
  | error fault => exact ⟨{ s with calls := s.calls ++ [path] }, rfl, consult_of_error hi⟩
  | ok targets =>
    obtain ⟨notes, hconsult⟩ := exists_consult_of_ok hi
    exact ⟨{ s with calls := s.calls ++ [path], notes }, rfl, hconsult⟩

/-- **Recalling gives what looking up gives.** -/
theorem gives_recall (source : Source) (fs : FileSystem) (path : Path) :
    Gives (Thrifty source fs) (source.recall path) (source.importsIn fs path) := by
  intro s hs
  obtain rfl := hs.files_eq
  cases hfind : s.memory.find? path with
  | some known =>
    rw [recall_of_some hfind, hs.known path known hfind]
    exact ⟨s, hs, rfl⟩
  | none =>
    rw [recall_of_none hfind]
    cases hi : source.importsIn s.files path with
    | error fault =>
      rw [consult_of_error hi]
      exact ⟨_, hs.failed hi, rfl⟩
    | ok targets =>
      obtain ⟨notes, hconsult⟩ := exists_consult_of_ok hi
      rw [hconsult]
      exact ⟨_, (hs.answered hi hfind).note notes,
        congrArg₂ EStateM.Result.ok (fst_insertIfNew_of_none targets hfind) rfl⟩

theorem gives_modules (source : Source) (fs : FileSystem) (entries : List Path) :
    Gives (fun s => s.files = fs) (source.modules entries)
      ((source.importsIn fs).modules (source.limit fs) entries) := by
  rintro s rfl
  exact gives_closure (gives_consult source s.files) (source.limit s.files) entries s rfl

theorem gives_recallModules (source : Source) (fs : FileSystem) (entries : List Path) :
    Gives (Thrifty source fs) (source.recallModules entries)
      ((source.importsIn fs).modules (source.limit fs) entries) := by
  intro s hs
  rw [recallModules_eq, hs.files_eq]
  exact gives_closure (gives_recall source fs) (source.limit fs) entries s hs

end LookUp

end Module

namespace Page

open SiteOptimizer.Module
open Work (Gives)

/-! ## Scans -/

/-- What the scan of a page gives where `modules` says what searches give. -/
def scanned (modules : List Path → Except Fault (List Path)) (fs : FileSystem) (root page : Path) :
    Except Fault (Path × Dependencies) :=
  let found := (fs.readDocument page).bind fun code =>
    (modules (scripts code page root)).bind fun js =>
      Dependencies.ofLists (scripts code page root) (stylesheets code page root) js
  (found.mapError fun fault => if fault.concernsPage then .scan page fault
      else fault).bind fun found =>
    .ok (page, found)

section Scan

variable {inv : Session → Prop} {fs : FileSystem} {modules : List Path → Work (List Path)}
  {known : List Path → Except Fault (List Path)}

/-- **A scan gives what the searches of its pages say**: it needs nothing of a state but the files,
and its notes do not matter. -/
theorem gives_scanAll (hfiles : ∀ s, inv s → s.files = fs)
    (hnotes : ∀ s notes, inv s → inv { s with notes })
    (hmodules : ∀ entries, Gives inv (modules entries) (known entries))
    (pages : List Path) (root : Path) :
    Gives inv (scanAll modules pages root)
      (((Text.sort pages).mapM (scanned known fs root)).bind fun found =>
        .ok (.ofPages found)) := by
  have hpage : ∀ page, Gives inv (scan modules page root) ((fs.readDocument page).bind fun code =>
      (known (scripts code page root)).bind fun js =>
        Dependencies.ofLists (scripts code page root) (stylesheets code page root) js) := by
    intro page s hs
    rw [scan_eq, hfiles s hs]
    exact (Work.gives_ofExcept (fs.readDocument page)).bind
      (fun code => (hmodules (scripts code page root)).bind fun js => Work.gives_ofExcept _) s hs
  have hnote : ∀ n, Gives inv (Work.note n) (.ok ()) := fun n s hs => ⟨_, hnotes s _ hs, rfl⟩
  have hnoting : ∀ page, Gives inv (scanNoting modules root page) (scanned known fs root page) :=
    fun page => ((hpage page).mapFault _).bind fun found => (hnote _).bind fun _ =>
      Work.gives_pure (page, found)
  exact (Work.Gives.mapM hnoting (Text.sort pages)).bind fun found =>
    Work.gives_pure (Manifest.ofPages found)

end Scan

end Page

namespace Module

/-- **Remembering changes nothing but the calls.** Searches that share a memory, one after the
other, find the same sets of modules or fail with the same faults as searches that look every module
up, and over all of them no module that answers is looked up twice; and the scan of some pages gives
the same manifest or the same fault either way. -/
theorem recall_agrees (source : Source) (fs : FileSystem) :
    (∀ entrySets : List (List Path), ∃ results shared plain,
      entrySets.mapM (fun entries => Work.attempt (source.recallModules entries))
        (Session.start fs) = .ok results shared ∧
      entrySets.mapM (fun entries => Work.attempt (source.modules entries)) (Session.start fs) =
        .ok results plain ∧
      ∀ path targets, source.importsIn fs path = .ok targets → shared.calls.count path ≤ 1) ∧
    ∀ (pages : List Path) (root : Path), ∃ result shared plain,
      Page.scanAll source.recallModules pages root (Session.start fs) = give result shared ∧
      Page.scanAll source.modules pages root (Session.start fs) = give result plain := by
  have hshared := thrifty_start source fs
  have hplain : (Session.start fs).files = fs := rfl
  constructor
  · intro entrySets
    obtain ⟨shared, hthrifty, hrecalled⟩ :=
      Work.Gives.mapM (fun entries => (gives_recallModules source fs entries).attempt)
        entrySets _ hshared
    obtain ⟨plain, -, hconsulted⟩ :=
      Work.Gives.mapM (fun entries => (gives_modules source fs entries).attempt) entrySets _ hplain
    -- no search as a whole fails here, since its fault is what it gives
    have hnever : ∀ l : List (List Path),
        l.mapM (fun entries =>
            Except.ok ((source.importsIn fs).modules (source.limit fs) entries)) =
          (.ok (l.map ((source.importsIn fs).modules (source.limit fs))) : Except Fault _) :=
      fun l => List.mapM_pure
    rw [hnever] at hrecalled hconsulted
    exact ⟨_, shared, plain, hrecalled, hconsulted, hthrifty.once⟩
  · intro pages root
    obtain ⟨shared, -, hrecalled⟩ := Page.gives_scanAll (fun s hs => hs.files_eq)
      (fun s notes hs => hs.note notes) (gives_recallModules source fs) pages root _ hshared
    obtain ⟨plain, -, hconsulted⟩ := Page.gives_scanAll (fun s hs => hs) (fun s notes hs => hs)
      (gives_modules source fs) pages root _ hplain
    exact ⟨_, shared, plain, hrecalled, hconsulted⟩

end Module
end SiteOptimizer
