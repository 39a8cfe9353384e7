import SiteOptimizer.Module.Closure
import SiteOptimizer.Proofs.Text

/-!
# The search finds what is reachable

`Reachable` says which modules there are to find. `Search.Sound` is the invariant of the search:
what has been met is reachable and has been looked up or is pending, and the imports of what has
been looked up have been met. When nothing is pending, what has been met is therefore closed under
imports, so it is all that is reachable. Every look-up is of another module, so a search that gives
up has met more modules than its limit.
-/

namespace SiteOptimizer

namespace Module

/-- What modules import, or the fault that looking one up meets. -/
abbrev Imports := Path → Except Fault (List Path)

/-- The modules that are entries or that reachable modules import. -/
inductive Reachable (imports : Imports) (entries : List Path) : Path → Prop where
  | entry {path : Path} : path ∈ entries → Reachable imports entries path
  | step {path target : Path} {targets : List Path} : Reachable imports entries path →
      imports path = .ok targets → target ∈ targets → Reachable imports entries target

/-- More entries reach no less. -/
theorem Reachable.mono {imports : Imports} {entries entries' : List Path} {path : Path}
    (h : Reachable imports entries path) (hsub : ∀ p ∈ entries, Reachable imports entries' p) :
    Reachable imports entries' path := by
  induction h with
  | entry hp => exact hsub _ hp
  | step _ hi ht ih => exact .step ih hi ht

/-- A look-up that answers as `imports` says for the modules that the entries reach, where `inv`
relates what has been looked up and the state, and that keeps `inv`. -/
structure Answers {σ : Type} (lookup : Lookup σ) (imports : Imports) (entries : List Path)
    (inv : List Path → σ → Prop) : Prop where
  ok : ∀ {path targets done s}, Reachable imports entries path → inv done s →
    imports path = .ok targets → ∃ s', lookup path s = .ok targets s' ∧ inv (path :: done) s'
  error : ∀ {path fault done s}, Reachable imports entries path → inv done s →
    imports path = .error fault → ∃ s', lookup path s = .error fault s' ∧ inv done s'

/-- Gives what is known, or fails with its fault; the state stays as it is. -/
def give {α σ : Type} (known : Except Fault α) : EStateM Fault σ α := fun s =>
  match known with
  | .ok a => .ok a s
  | .error fault => .error fault s

theorem give_bind {α β σ : Type} (known : Except Fault α) (f : α → Except Fault β) (s : σ) :
    EStateM.bind (give known) (fun a => give (f a)) s = give (known.bind f) s := by
  cases known <;> rfl

theorem of_give_ok {α σ : Type} {known : Except Fault α} {a : α} {s s' : σ}
    (h : give known s = .ok a s') :
    known = .ok a ∧ s' = s := by
  cases known with
  | ok found => cases h; exact ⟨rfl, rfl⟩
  | error fault => cases h

theorem of_give_error {α σ : Type} {known : Except Fault α} {fault : Fault} {s s' : σ}
    (h : give known s = .error fault s') : known = .error fault ∧ s' = s := by
  cases known with
  | ok found => cases h
  | error trouble => cases h; exact ⟨rfl, rfl⟩

/-- Looks up imports that are given once and for all. -/
def Lookup.fixed {σ : Type} (imports : Imports) : Lookup σ := fun path =>
  give (imports path)

theorem Answers.fixed {σ : Type} (imports : Imports) (entries : List Path) (s : σ) :
    Answers (Lookup.fixed imports) imports entries (fun _ => (· = s)) where
  ok {path targets done s'} _ hs hi := ⟨s', by rw [Lookup.fixed, hi, give], hs⟩
  error {path fault done s'} _ hs hi := ⟨s', by rw [Lookup.fixed, hi, give], hs⟩

namespace Search

variable {imports : Imports} {entries : List Path}

/-- How far a search has come is consistent with what is reachable. -/
structure Sound (imports : Imports) (entries : List Path) (s : Search) : Prop where
  entries_met : ∀ p ∈ entries, p ∈ s.met
  reachable : ∀ p ∈ s.met, Reachable imports entries p
  mem_met : ∀ p, p ∈ s.met ↔ p ∈ s.done ∨ p ∈ s.pending
  closed : ∀ p ∈ s.done, ∃ targets, imports p = .ok targets ∧ ∀ t ∈ targets, t ∈ s.met
  nodup_met : s.met.Nodup
  nodup : (s.done ++ s.pending).Nodup

/-! ### One look-up -/

theorem mem_met_meet {s : Search} {path p : Path} :
    p ∈ (s.meet path).met ↔ p = path ∨ p ∈ s.met := by
  unfold meet
  split
  · next h =>
    have hin : path ∈ s.met := List.contains_iff_mem.1 h
    constructor
    · exact .inr
    · rintro (rfl | h)
      · exact hin
      · exact h
  · exact List.mem_cons

theorem mem_met_foldl {s : Search} {paths : List Path} {p : Path} :
    p ∈ (paths.foldl meet s).met ↔ p ∈ paths ∨ p ∈ s.met := by
  induction paths generalizing s with
  | nil => simp
  | cons path paths ih =>
    rw [List.foldl_cons, ih, mem_met_meet, List.mem_cons]
    constructor
    · rintro (h | h | h)
      · exact .inl (.inr h)
      · exact .inl (.inl h)
      · exact .inr h
    · rintro ((h | h) | h)
      · exact .inr (.inl h)
      · exact .inl h
      · exact .inr (.inr h)

theorem done_foldl (s : Search) (paths : List Path) : (paths.foldl meet s).done = s.done := by
  induction paths generalizing s with
  | nil => rfl
  | cons path paths ih =>
    rw [List.foldl_cons, ih]
    unfold meet
    split <;> rfl

/-- What meeting modules keeps: what has been met is done or pending, and nothing is there twice. -/
structure Tidy (s : Search) : Prop where
  mem_met : ∀ p, p ∈ s.met ↔ p ∈ s.done ∨ p ∈ s.pending
  nodup_met : s.met.Nodup
  nodup : (s.done ++ s.pending).Nodup

theorem tidy_start (entries : List Path) : (start entries).Tidy where
  mem_met p := by simp [start]
  nodup_met := Text.nodup_sortUnique entries
  nodup := (List.reverse_perm _).nodup_iff.2 (Text.nodup_sortUnique entries)

theorem Sound.tidy {s : Search} (h : s.Sound imports entries) : s.Tidy :=
  ⟨h.mem_met, h.nodup_met, h.nodup⟩

theorem sound_start (imports : Imports) (entries : List Path) :
    Sound imports entries (start entries) where
  entries_met p hp := Text.mem_sortUnique.2 hp
  reachable p hp := .entry (Text.mem_sortUnique.1 hp)
  mem_met := (tidy_start entries).mem_met
  closed p hp := by cases hp
  nodup_met := (tidy_start entries).nodup_met
  nodup := (tidy_start entries).nodup

/-- The next module has not been looked up, and counts as looked up from now on. -/
theorem Tidy.next {s : Search} (h : s.Tidy) {path : Path} {pending : List Path}
    (hp : s.pending = path :: pending) :
    path ∉ s.done ∧ Tidy { s with done := path :: s.done, pending } := by
  obtain ⟨hmem, hmet, hnodup⟩ := h
  rw [hp] at hnodup
  refine ⟨fun hd => (List.nodup_append.1 hnodup).2.2 path hd path List.mem_cons_self rfl,
    fun p => ?_, hmet, List.perm_middle.nodup_iff.1 hnodup⟩
  rw [hmem p, hp, List.mem_cons, List.mem_cons, or_left_comm, or_assoc]

theorem Tidy.meet {s : Search} (h : s.Tidy) (path : Path) : (s.meet path).Tidy := by
  unfold Search.meet
  split
  · exact h
  · next hc =>
    have hnew : path ∉ s.met := fun hin => hc (List.contains_iff_mem.2 hin)
    -- all that is done or pending has been met, so what is new is neither
    have hnot : path ∉ s.done ++ s.pending := fun hin =>
      hnew ((h.mem_met path).2 (List.mem_append.1 hin))
    refine ⟨fun p => ?_, List.nodup_cons.2 ⟨hnew, h.nodup_met⟩, ?_⟩
    · simp only [List.mem_cons, h.mem_met p]
      constructor
      · rintro (h | h | h)
        · exact .inr (.inl h)
        · exact .inl h
        · exact .inr (.inr h)
      · rintro (h | h | h)
        · exact .inr (.inl h)
        · exact .inl h
        · exact .inr (.inr h)
    · exact (List.perm_middle.nodup_iff).2 (List.nodup_cons.2 ⟨hnot, h.nodup⟩)

theorem Tidy.foldl {s : Search} (h : s.Tidy) (paths : List Path) :
    (paths.foldl Search.meet s).Tidy := by
  induction paths generalizing s with
  | nil => exact h
  | cons path paths ih => exact ih (h.meet path)

/-- **Looking up the next module keeps the search sound.** -/
theorem Sound.step {s : Search} (h : s.Sound imports entries) {path : Path}
    {pending targets : List Path} (hp : s.pending = path :: pending)
    (hi : imports path = .ok targets) :
    (targets.foldl meet { s with done := path :: s.done, pending }).Sound imports entries := by
  have hpath : path ∈ s.met := (h.mem_met path).2 (.inr (hp ▸ List.mem_cons_self))
  have htidy := (h.tidy.next hp).2.foldl targets
  refine ⟨fun p hpe => ?_, fun p hpm => ?_, htidy.mem_met, fun p hpd => ?_,
    htidy.nodup_met, htidy.nodup⟩
  · exact mem_met_foldl.2 (.inr (h.entries_met p hpe))
  · rcases mem_met_foldl.1 hpm with ht | hm
    · exact .step (h.reachable path hpath) hi ht
    · exact h.reachable p hm
  · rw [done_foldl] at hpd
    rcases List.mem_cons.1 hpd with rfl | hpd
    · exact ⟨targets, hi, fun t ht => mem_met_foldl.2 (.inl ht)⟩
    · obtain ⟨targets', hi', hmet⟩ := h.closed p hpd
      exact ⟨targets', hi', fun t ht => mem_met_foldl.2 (.inr (hmet t ht))⟩

/-- **Where nothing is pending everything reachable has been met**, and
everything has been looked up. -/
theorem Sound.exact {s : Search} (h : s.Sound imports entries) (hp : s.pending = []) {p : Path}
    (hr : Reachable imports entries p) : p ∈ s.met ∧ ∃ targets, imports p = .ok targets := by
  have hdone : ∀ q, q ∈ s.met → q ∈ s.done := fun q hq => by
    rcases (h.mem_met q).1 hq with hq | hq
    · exact hq
    · rw [hp] at hq
      cases hq
  have hmet : p ∈ s.met := by
    induction hr with
    | entry hpe => exact h.entries_met _ hpe
    | step _ hi ht ih =>
      obtain ⟨targets, hi', hall⟩ := h.closed _ (hdone _ ih)
      rw [hi] at hi'
      cases hi'
      exact hall _ ht
  obtain ⟨targets, hi, -⟩ := h.closed p (hdone p hmet)
  exact ⟨hmet, targets, hi⟩

/-! ### The whole search -/

/-- How a search can end. -/
inductive Ends {σ : Type} (imports : Imports) (entries : List Path)
    (inv : List Path → σ → Prop) (limit : Nat) :
    EStateM.Result Fault σ (List Path) → Prop where
  /-- Everything that is reachable has been found and looked up. -/
  | found {met done : List Path} {s : σ} : inv done s → (∀ p ∈ met, p ∈ done) → met.Nodup →
      (∀ p, p ∈ met ↔ Reachable imports entries p) →
      (∀ p, Reachable imports entries p → ∃ targets, imports p = .ok targets) →
      Ends imports entries inv limit (.ok (Text.sort met) s)
  /-- A reachable module cannot be looked up. -/
  | failed {path : Path} {fault : Fault} {done : List Path} {s : σ} :
      inv done s → Reachable imports entries path →
      imports path = .error fault → Ends imports entries inv limit (.error fault s)
  /-- More modules are reachable than may be looked up. -/
  | exhausted {many done : List Path} {s : σ} : inv done s → many.Nodup → limit < many.length →
      (∀ p ∈ many, Reachable imports entries p) →
      Ends imports entries inv limit (.error .moduleLimit s)

section Run

variable {σ : Type} {lookup : Lookup σ} {search : Search} {path : Path} {pending : List Path}

theorem run_nil (limit : Nat) (s : σ) (hp : search.pending = []) :
    run lookup limit search s = .ok (Text.sort search.met) s := by
  obtain ⟨met, done, pending⟩ := search
  cases hp
  cases limit <;> rfl

theorem run_zero (s : σ) (hp : search.pending = path :: pending) :
    run lookup 0 search s = .error .moduleLimit s := by
  obtain ⟨met, done, _⟩ := search
  cases hp
  rfl

theorem run_succ (limit : Nat) (s : σ) (hp : search.pending = path :: pending)
    (hnew : path ∉ search.done) :
    run lookup (limit + 1) search s =
      match lookup path s with
      | .ok targets s' =>
        run lookup limit (targets.foldl meet
          { search with done := path :: search.done, pending }) s'
      | .error fault s' => .error fault s' := by
  obtain ⟨met, done, _⟩ := search
  cases hp
  have hc : done.contains path = false := by simpa using hnew
  show (if done.contains path = true then run lookup limit ⟨met, done, pending⟩
    else (lookup path).bind fun targets =>
      run lookup limit (targets.foldl meet ⟨met, path :: done, pending⟩)) s = _
  rw [hc]
  show EStateM.bind _ _ s = _
  unfold EStateM.bind
  cases lookup path s <;> rfl

theorem run_skip (limit : Nat) (s : σ) (hp : search.pending = path :: pending)
    (hdone : path ∈ search.done) :
    run lookup (limit + 1) search s = run lookup limit { search with pending } s := by
  obtain ⟨met, done, _⟩ := search
  cases hp
  have hc : done.contains path = true := by simpa using hdone
  show (if done.contains path = true then run lookup limit ⟨met, done, pending⟩
    else (lookup path).bind fun targets =>
      run lookup limit (targets.foldl meet ⟨met, path :: done, pending⟩)) s = _
  rw [hc]
  rfl

/-- What a search does step by step, up to its result. -/
inductive Course (lookup : Lookup σ) :
    Nat → Search → σ → EStateM.Result Fault σ (List Path) → Prop where
  | ended {limit : Nat} {search : Search} {s : σ} : search.pending = [] →
      Course lookup limit search s (.ok (Text.sort search.met) s)
  | stopped {search : Search} {s : σ} {path : Path} {pending : List Path} :
      search.pending = path :: pending → Course lookup 0 search s (.error .moduleLimit s)
  | skipped {limit : Nat} {search : Search} {s : σ} {path : Path} {pending : List Path}
      {result : EStateM.Result Fault σ (List Path)} : search.pending = path :: pending →
        path ∈ search.done →
      Course lookup limit { search with pending } s result →
      Course lookup (limit + 1) search s result
  | failed {limit : Nat} {search : Search} {s s' : σ} {path : Path}
      {pending : List Path} {fault : Fault} :
      search.pending = path :: pending → path ∉ search.done → lookup path s = .error fault s' →
      Course lookup (limit + 1) search s (.error fault s')
  | answered {limit : Nat} {search : Search} {s s' : σ} {path : Path} {pending targets : List Path}
      {result : EStateM.Result Fault σ (List Path)} :
      search.pending = path :: pending → path ∉ search.done →
      lookup path s = .ok targets s' →
      Course lookup limit
        (targets.foldl meet { search with done := path :: search.done, pending }) s' result →
      Course lookup (limit + 1) search s result

/-- **Every search takes a course.** What is shown of all searches is shown by induction on it. -/
theorem course_run (lookup : Lookup σ) (limit : Nat) (search : Search) (s : σ) :
    Course lookup limit search s (run lookup limit search s) := by
  induction limit generalizing search s with
  | zero =>
    cases hp : search.pending with
    | nil => rw [run_nil 0 s hp]; exact .ended hp
    | cons path pending => rw [run_zero s hp]; exact .stopped hp
  | succ limit ih =>
    cases hp : search.pending with
    | nil => rw [run_nil _ s hp]; exact .ended hp
    | cons path pending =>
      by_cases hdone : path ∈ search.done
      · rw [run_skip limit s hp hdone]
        exact .skipped hp hdone (ih _ s)
      · rw [run_succ limit s hp hdone]
        cases hlookup : lookup path s with
        | error fault s' => exact .failed hp hdone hlookup
        | ok targets s' => exact .answered hp hdone hlookup (ih _ s')

/-- What is next has not been looked up. -/
theorem Sound.next (hs : search.Sound imports entries) (hp : search.pending = path :: pending) :
    path ∉ search.done ∧ Reachable imports entries path :=
  ⟨(hs.tidy.next hp).1, hs.reachable path ((hs.mem_met path).2 (.inr (hp ▸ List.mem_cons_self)))⟩

theorem ends_of_nil {inv : List Path → σ → Prop} {limit : Nat} {s : σ}
    (hs : search.Sound imports entries) (hp : search.pending = []) (hinv : inv search.done s) :
    Ends imports entries inv limit (.ok (Text.sort search.met) s) :=
  .found hinv (fun p hmet => ((hs.mem_met p).1 hmet).resolve_right (by rw [hp]; exact nofun))
    hs.nodup_met (fun p => ⟨hs.reachable p, fun hr => (hs.exact hp hr).1⟩) fun _ hr =>
      (hs.exact hp hr).2

/-- **Every search ends in one of these ways.** -/
theorem ends_run {inv : List Path → σ → Prop} (ha : Answers lookup imports entries inv)
    (limit : Nat) (search : Search) (s : σ) (hs : search.Sound imports entries)
    (hinv : inv search.done s) :
    Ends imports entries inv (search.done.length + limit) (run lookup limit search s) := by
  have hcourse := course_run lookup limit search s
  generalize run lookup limit search s = result at hcourse
  induction hcourse with
  | ended hp => exact ends_of_nil hs hp hinv
  | @stopped search s path pending hp =>
    -- as many modules have been looked up as the limit allows, and there is one more
    have hmany : (search.done ++ search.pending).length =
        search.done.length + (pending.length + 1) := by
      rw [hp, List.length_append, List.length_cons]
    refine .exhausted hinv hs.nodup (by omega) fun p hmem => ?_
    exact hs.reachable p ((hs.mem_met p).2 (List.mem_append.1 hmem))
  | skipped hp hdone => exact absurd hdone (hs.next hp).1
  | @failed limit search s s' path pending fault hp _ hlookup =>
    obtain ⟨-, hpath⟩ := hs.next hp
    cases hi : imports path with
    | ok targets =>
      obtain ⟨s'', hl, -⟩ := ha.ok hpath hinv hi
      rw [hl] at hlookup
      cases hlookup
    | error cause =>
      obtain ⟨s'', hl, hinv'⟩ := ha.error hpath hinv hi
      rw [hl] at hlookup
      cases hlookup
      exact .failed hinv' hpath hi
  | @answered limit search s s' path pending targets result hp _ hlookup _ ih =>
    obtain ⟨-, hpath⟩ := hs.next hp
    cases hi : imports path with
    | error cause =>
      obtain ⟨s'', hl, -⟩ := ha.error hpath hinv hi
      rw [hl] at hlookup
      cases hlookup
    | ok found =>
      obtain ⟨s'', hl, hinv'⟩ := ha.ok hpath hinv hi
      rw [hl] at hlookup
      cases hlookup
      -- what the limit loses the list of what is done gains
      have hrest := ih (hs.step hp hi) (by rwa [done_foldl])
      rw [done_foldl, List.length_cons] at hrest
      rwa [Nat.add_right_comm, Nat.add_assoc] at hrest

/-- What has been met is found, whatever the look-ups answer. -/
theorem mem_of_run {σ : Type} {lookup : Lookup σ} {limit : Nat} {search : Search} {s s' : σ}
    {found : List Path} (h : search.run lookup limit s = .ok found s') {path : Path}
    (hpath : path ∈ search.met) : path ∈ found := by
  have hcourse := course_run lookup limit search s
  rw [h] at hcourse
  generalize hresult : EStateM.Result.ok found s' = result at hcourse
  clear h
  induction hcourse with
  | ended hp =>
    cases hresult
    exact Text.mem_sort.2 hpath
  | stopped hp => cases hresult
  | skipped hp hdone _ ih => exact ih hpath hresult
  | failed hp hnew hlookup => cases hresult
  | answered hp hnew hlookup _ ih => exact ih (mem_met_foldl.2 (.inr hpath)) hresult

end Run

end Search

theorem mem_of_closure {σ : Type} {lookup : Lookup σ} {limit : Nat} {entries found : List Path}
    {s s' : σ} (h : closure lookup limit entries s = .ok found s') {path : Path}
    (hpath : path ∈ entries) :
    path ∈ found :=
  Search.mem_of_run h (Text.mem_sortUnique.2 hpath)

/-- **The search for modules ends** with all that is reachable, at a module that cannot be looked
up, or with more modules than there may be. -/
theorem ends_closure {σ : Type} {lookup : Lookup σ} {imports : Imports} {entries : List Path}
    {inv : List Path → σ → Prop} (ha : Answers lookup imports entries inv) (limit : Nat) {s : σ}
    (hinv : inv [] s) :
    Search.Ends imports entries inv (limit + entries.length) (closure lookup limit entries s) := by
  have h := Search.ends_run ha (limit + entries.length) (Search.start entries) s
    (Search.sound_start imports entries) hinv
  rw [show (Search.start entries).done.length + (limit + entries.length) = limit + entries.length by
    simp [Search.start]] at h
  exact h

/-- What a search finds where imports are given once and for all. -/
def Imports.modules (imports : Imports) (limit : Nat)
    (entries : List Path) : Except Fault (List Path) :=
  match closure (Lookup.fixed imports) limit entries () with
  | .ok found _ => .ok found
  | .error fault _ => .error fault

/-- No more modules than `limit` are reachable beside the entries. -/
def Within (imports : Imports) (entries : List Path) (limit : Nat) : Prop :=
  ∃ all : List Path, all.length ≤ limit ∧ ∀ p, Reachable imports entries p → p ∈ entries ∨ p ∈ all

/-- Where no more modules are reachable than the limit allows the search does not run into it. -/
theorem Within.not_exhausted {imports : Imports} {entries : List Path} {limit : Nat}
    (h : Within imports entries limit) {many : List Path} (hnodup : many.Nodup)
    (hmany : ∀ p ∈ many, Reachable imports entries p) : many.length ≤ limit + entries.length := by
  obtain ⟨all, hlen, hall⟩ := h
  have hsub : many ⊆ entries ++ all := fun p hp => List.mem_append.2 (hall p (hmany p hp))
  have hle := hnodup.length_le_of_subset hsub
  rw [List.length_append] at hle
  omega

/-- A module that imports one other, which imports nothing, reaches the two. -/
theorem closure_chain {σ : Type} {lookup : Lookup σ} {limit : Nat} (hlimit : 0 < limit)
    {path target : Path} (hne : target ≠ path) {s s' s'' : σ}
    (hpath : lookup path s = .ok [target] s') (htarget : lookup target s' = .ok [] s'') :
    closure lookup limit [path] s = .ok (Text.sort [target, path]) s'' := by
  have hsorted : Text.sortUnique [path] = [path] := List.mergeSort_singleton path
  have hstart : Search.start [path] = ⟨[path], [], [path]⟩ := by
    rw [Search.start, hsorted]
    rfl
  have hmeet : [target].foldl Search.meet ⟨[path], [path], []⟩ =
      ⟨[target, path], [path], [target]⟩ := by
    show Search.meet ⟨[path], [path], []⟩ target = _
    rw [Search.meet, if_neg (by simpa using hne)]
  obtain ⟨n, rfl⟩ := Nat.exists_eq_succ_of_ne_zero (Nat.ne_of_gt hlimit)
  rw [closure, hstart]
  show Search.run lookup (n + 1 + 1) _ s = _
  rw [Search.run_succ _ _ rfl List.not_mem_nil, hpath]
  dsimp only
  rw [hmeet, Search.run_succ _ _ rfl (by simpa using hne), htarget]
  exact Search.run_nil _ _ rfl

end Module
end SiteOptimizer
