import Mathlib.Data.Set.Card
import Mathlib.Order.Bounds.Defs
import SiteOptimizer.Proofs.Page.Scan

/-!
# The search finds the least closed set

The modules that a search finds are the least set that holds the entries and all that its
modules import, and each of them has been looked up exactly once. It fails just if a module of
that set cannot be looked up. All a search needs to come to its end is that no more modules are
reachable than it may look up; that imports go round in a circle does not matter
(`closure_exact`).
-/

namespace SiteOptimizer
namespace Module

/-! ## What has been looked up -/

/-- Modules that are looked up one after the other, with the state before and after. -/
inductive Asked {σ : Type} (lookup : Lookup σ) : List Path → σ → σ → Prop where
  | nil (s : σ) : Asked lookup [] s s
  | cons {path : Path} {targets paths : List Path} {s s' s'' : σ} : lookup path s = .ok targets s' →
      Asked lookup paths s' s'' → Asked lookup (path :: paths) s s''

namespace Search

section Asked

variable {σ : Type} {lookup : Lookup σ} {limit : Nat} {search : Search} {s s' : σ}
    {found : List Path}

/-- **Whatever the look-ups answer, a search that comes through has looked up all that it
has found, each module once.** -/
theorem asked_of_run (htidy : search.Tidy) (h : search.run lookup limit s = .ok found s') :
    ∃ asked, Asked lookup asked s s' ∧ (search.done ++ asked).Nodup ∧
      ∀ p, p ∈ found ↔ p ∈ search.done ++ asked := by
  have hcourse := course_run lookup limit search s
  rw [h] at hcourse
  generalize hresult : EStateM.Result.ok found s' = result at hcourse
  clear h
  induction hcourse with
  | @ended limit search s hp =>
    cases hresult
    have hnodup := htidy.nodup
    rw [hp] at hnodup
    refine ⟨[], .nil _, hnodup, fun p => ?_⟩
    rw [Text.mem_sort, htidy.mem_met p, hp, List.mem_append]
  | stopped hp => cases hresult
  | skipped hp hdone => exact absurd hdone (htidy.next hp).1
  | failed hp hnew hlookup => cases hresult
  | @answered limit search s s'' path pending targets result hp _ hlookup _ ih =>
    obtain ⟨asked, hasked, hnodup, hmem⟩ := ih ((htidy.next hp).2.foldl targets) hresult
    -- the module that is looked up first stands in front of all that were looked up before
    have hperm : (search.done ++ path :: asked).Perm (path :: search.done ++ asked) :=
      List.perm_middle
    rw [done_foldl] at hnodup hmem
    refine ⟨path :: asked, .cons hlookup hasked, hperm.nodup_iff.2 hnodup, ?_⟩
    intro p
    rw [hmem p, hperm.mem_iff]

end Asked

end Search

theorem asked_of_closure {σ : Type} {lookup : Lookup σ} {limit : Nat} {entries found : List Path}
    {s s' : σ} (h : closure lookup limit entries s = .ok found s') :
    ∃ asked, Asked lookup asked s s' ∧ asked.Nodup ∧ ∀ p, p ∈ found ↔ p ∈ asked :=
  Search.asked_of_run (Search.tidy_start entries) h

/-- The calls of modules that are looked up without a memory are these modules. -/
theorem calls_of_asked {source : Source} {asked : List Path} {s s' : Session}
    (h : Asked source.consult asked s s') : s'.calls = s.calls ++ asked := by
  induction h with
  | nil s => exact (List.append_nil _).symm
  | @cons path targets paths s s' s'' hlookup _ ih =>
    rw [consult_eq] at hlookup
    cases hfound : source.imports s.files path with
    | error fault =>
      rw [hfound] at hlookup
      cases hlookup
    | ok found =>
      rw [hfound] at hlookup
      cases hlookup
      rw [ih, List.append_assoc, List.singleton_append]

theorem answers_consult (source : Source) (fs : FileSystem) (entries : List Path) :
    Answers source.consult (source.importsIn fs) entries fun _ s => s.files = fs where
  ok {path targets done s} _ hs hi := by
    obtain ⟨notes, hconsult⟩ := exists_consult_of_ok (hs ▸ hi)
    exact ⟨_, hconsult, hs⟩
  error {path fault done s} _ hs hi := ⟨_, consult_of_error (hs ▸ hi), hs⟩

/-! ## The least closed set -/

/-- A set of modules that holds the entries and all that its modules import; a module that cannot
be looked up imports nothing. -/
structure Imports.Closed (imports : Imports) (entries : List Path) (all : Set Path) : Prop where
  entries_mem : ∀ path ∈ entries, path ∈ all
  targets_mem : ∀ path ∈ all, ∀ targets, imports path = .ok targets →
    ∀ target ∈ targets, target ∈ all

/-- **What is reachable is the least closed set.** -/
theorem isLeast_reachable (imports : Imports) (entries : List Path) :
    IsLeast {all | imports.Closed entries all} {path | Reachable imports entries path} := by
  constructor
  · exact ⟨fun path hpath => .entry hpath, fun path hpath targets hi target ht =>
    Reachable.step hpath hi ht⟩
  · intro all hall path hpath
    induction hpath with
    | entry hp => exact hall.entries_mem _ hp
    | step _ hi ht ih => exact hall.targets_mem _ ih _ hi _ ht

theorem length_le_ncard {all : Set Path} (hfin : all.Finite) {many : List Path}
    (hnodup : many.Nodup) (hmany : ∀ path ∈ many, path ∈ all) : many.length ≤ all.ncard := by
  have hsub : (many.toFinset : Set Path) ⊆ all := by
    intro path hpath
    exact hmany path (List.mem_toFinset.1 hpath)
  have hle := Set.ncard_le_ncard hsub hfin
  rwa [Set.ncard_coe_finset, List.toFinset_card_of_nodup hnodup] at hle

end Module

namespace Page

open SiteOptimizer.Module

/-- **A scan fails where its page cannot be read or its scripts cannot be searched.** That every
script of a page is one of its modules holds of whatever a search finds. -/
theorem fault_of_scan {lookup : Lookup Session} {limit : Nat} {page root : Path} {s s' : Session}
    {fault : Fault} (h : scan (closure lookup limit) page root s = .error fault s') :
    s.files.readDocument page = .error fault ∨ ∃ code, s.files.readDocument page = .ok code ∧
      closure lookup limit (scripts code page root) s = .error fault s' := by
  cases hread : s.files.readDocument page with
  | error fault' =>
    rw [scan_of_unreadable hread] at h
    cases h
    exact .inl rfl
  | ok code =>
    rw [scan_of_readDocument hread] at h
    refine .inr ⟨code, rfl, ?_⟩
    cases hclosure : closure lookup limit (scripts code page root) s with
    | error fault' s'' =>
      rw [Work.bind_of_error hclosure] at h
      cases h
      rfl
    | ok js s'' =>
      -- the scan fails in no third way, since the entries are among the modules that are found
      have hsub : ∀ p ∈ scripts code page root, p ∈ js := fun p hp => mem_of_closure hclosure hp
      obtain ⟨found, hfound, -⟩ := exists_ofLists (stylesheets code page root) hsub
      rw [Work.bind_of_ok hclosure, hfound] at h
      cases h

end Page

namespace Module

/-- **The search for modules is exact.** Where no more modules are reachable than it may look up, a
search comes to its end. If all of them can be looked up it finds the least closed set and has
called for each module of it once; it fails just if one of them cannot be looked up. So the scripts
of a page are always found among its modules. -/
theorem closure_exact (source : Source) (s : Session) (entries : List Path) (limit : Nat)
    (hfin : {path | Reachable (source.importsIn s.files) entries path}.Finite)
    (hlimit : {path | Reachable (source.importsIn s.files) entries path}.ncard ≤ limit) :
    ((∀ path, Reachable (source.importsIn s.files) entries path →
        ∃ targets, source.importsIn s.files path = .ok targets) →
      ∃ found s' asked, closure source.consult limit entries s = .ok found s' ∧
        IsLeast {all | (source.importsIn s.files).Closed entries all} {path | path ∈ found} ∧
        s'.calls = s.calls ++ asked ∧ asked.Nodup ∧ ∀ path, path ∈ found ↔ path ∈ asked) ∧
    ((∃ fault s', closure source.consult limit entries s = .error fault s') ↔
      ∃ path fault, Reachable (source.importsIn s.files) entries path ∧
        source.importsIn s.files path = .error fault) ∧
    (∀ fault s', closure source.consult limit entries s = .error fault s' →
      ∃ path, Reachable (source.importsIn s.files) entries path ∧
        source.importsIn s.files path = .error fault) ∧
    ∀ (lookup : Lookup Session) (limit' : Nat) (page root : Path) (fault : Fault) (s' : Session),
      Page.scan (closure lookup limit') page root s = .error fault s' →
        s.files.readDocument page = .error fault ∨ ∃ code, s.files.readDocument page = .ok code ∧
          closure lookup limit' (Page.scripts code page root) s = .error fault s' := by
  have hends := ends_closure (answers_consult source s.files entries) limit rfl
  generalize hrun : closure source.consult limit entries s = result at hends
  -- the search ends in one of three ways, and the bound on what is reachable excludes the last
  cases hends with
  | @found met done s' _ _ _ hmem hok =>
    obtain ⟨asked, hasked, hnodup, hfound⟩ := asked_of_closure hrun
    have hset : {path | path ∈ Text.sort met} =
        {path | Reachable (source.importsIn s.files) entries path} :=
      Set.ext fun path => Text.mem_sort.trans (hmem path)
    refine ⟨fun _ => ⟨_, s', asked, rfl, ?_, calls_of_asked hasked, hnodup, hfound⟩, ?_, nofun,
      fun lookup limit' page root fault s' => Page.fault_of_scan⟩
    · rw [hset]
      exact isLeast_reachable (source.importsIn s.files) entries
    · refine iff_of_false (by rintro ⟨fault, s', h⟩; cases h) ?_
      rintro ⟨path, fault, hr, hi⟩
      obtain ⟨targets, htargets⟩ := hok path hr
      rw [htargets] at hi
      cases hi
  | @failed path fault done s' _ hr hi =>
    refine ⟨fun hall => ?_, iff_of_true ⟨fault, s', rfl⟩ ⟨path, fault, hr, hi⟩, ?_,
      fun lookup limit' page root fault s' => Page.fault_of_scan⟩
    · obtain ⟨targets, htargets⟩ := hall path hr
      rw [htargets] at hi
      cases hi
    · intro fault' s'' h
      cases h
      exact ⟨path, hr, hi⟩
  | exhausted _ hnodup hlen hmany =>
    have hle := length_le_ncard hfin hnodup hmany
    omega

/-! ### Imports that go round in a circle -/

/-- Two modules that import each other. -/
def circle : Source :=
  .graph [("/b.js".toList, .ok ["/c.js".toList, "/b.js".toList]),
    ("/c.js".toList, .ok ["/b.js".toList])]

theorem mem_circle_iff {fs : FileSystem} {path : Path} :
    Reachable (circle.importsIn fs) ["/b.js".toList, "/b.js".toList] path ↔
      path = "/b.js".toList ∨ path = "/c.js".toList := by
  have hb : circle.importsIn fs "/b.js".toList = .ok ["/c.js".toList, "/b.js".toList] := rfl
  have hc : circle.importsIn fs "/c.js".toList = .ok ["/b.js".toList] := rfl
  constructor
  · intro h
    induction h with
    | entry hp =>
      left
      simpa using hp
    | step _ hi ht ih =>
      rcases ih with rfl | rfl
      · rw [hb] at hi
        cases hi
        simpa [or_comm] using ht
      · rw [hc] at hi
        cases hi
        left
        simpa using ht
  · rintro (rfl | rfl)
    · exact .entry List.mem_cons_self
    · exact .step (.entry List.mem_cons_self) hb List.mem_cons_self

/-- From an entry that is named twice both modules are found, and each has been looked up once. -/
theorem exact_circle : ∃ found s' asked, closure circle.consult 2 ["/b.js".toList, "/b.js".toList]
      (Session.start ⟨[], [], []⟩) = .ok found s' ∧
    (∀ path, path ∈ found ↔ path = "/b.js".toList ∨ path = "/c.js".toList) ∧
    s'.calls = asked ∧ asked.Nodup ∧ asked.length = 2 := by
  let fs : FileSystem := ⟨[], [], []⟩
  have hset : {path | Reachable (circle.importsIn fs) ["/b.js".toList, "/b.js".toList] path} =
      {"/b.js".toList, "/c.js".toList} := by
    ext path
    exact mem_circle_iff
  obtain ⟨hfound, -, -, -⟩ :=
    closure_exact circle (Session.start fs) ["/b.js".toList, "/b.js".toList] 2
    (by
      show {path | Reachable (circle.importsIn fs) _ path}.Finite
      rw [hset]
      exact Set.toFinite _)
    (by
      show {path | Reachable (circle.importsIn fs) _ path}.ncard ≤ 2
      rw [hset]
      exact (Set.ncard_pair (by decide)).le)
  obtain ⟨found, s', asked, hrun, hleast, hcalls, hnodup, hasked⟩ := hfound (by
    intro path hpath
    rcases mem_circle_iff.1 hpath with rfl | rfl
    · exact ⟨_, rfl⟩
    · exact ⟨_, rfl⟩)
  -- least sets are unique, so the set that is found is the one that is reachable
  have hmem : ∀ path, path ∈ found ↔ path = "/b.js".toList ∨ path = "/c.js".toList := by
    intro path
    have hsame := hleast.unique (isLeast_reachable (circle.importsIn fs) _)
    exact (Set.ext_iff.1 hsame path).trans mem_circle_iff
  have hperm : asked.Perm ["/b.js".toList, "/c.js".toList] := by
    rw [List.perm_ext_iff_of_nodup hnodup (by decide)]
    intro path
    rw [← hasked, hmem]
    simp
  exact ⟨found, s', asked, hrun, hmem, hcalls, hnodup, hperm.length_eq⟩

end Module
end SiteOptimizer
