import Mathlib.Logic.Function.Basic
import Mathlib.Logic.Relation
import SiteOptimizer.Proofs.Module.Source

/-!
# Calls that share a memory

Many calls may look up imports through one memory at the same time. A call sees whether its module
is remembered; if it is not, the call looks the module up while others go on, and then brings what
it has found to the memory. Two calls for one module can both find nothing and come back with
different answers, since the scripts may have changed in between. Whatever the order, the memory
keeps the first answer and every call returns what is remembered (`memory_settles`).
-/

namespace SiteOptimizer
namespace Module

/-- How far a call has come. -/
inductive Stage where
  | waiting
  /-- Nothing was remembered, so the module is being looked up. -/
  | asking
  /-- The module has been looked up, and its imports are to be remembered. -/
  | bringing (targets : List Path)
  | returned (targets : List Path)
  | failed (fault : Fault)
  deriving DecidableEq, Repr

/-- How far a call has come whose look-up has ended like this. -/
def Stage.ofResult {σ : Type} : EStateM.Result Fault σ (List Path) → Stage
  | .ok targets _ => .returned targets
  | .error fault _ => .failed fault

/-- One step of a call for a module, with the memory before and after it. Seeing the memory and
changing it are each done at once; looking a module up is not bound to any answer. -/
inductive Moves (path : Path) : Memory → Stage → Memory → Stage → Prop where
  | hit {m : Memory} {known : List Path} :
      m.find? path = some known → Moves path m .waiting m (.returned known)
  | miss {m : Memory} : m.find? path = none → Moves path m .waiting m .asking
  | answer (m : Memory) (targets : List Path) : Moves path m .asking m (.bringing targets)
  | fail (m : Memory) (fault : Fault) : Moves path m .asking m (.failed fault)
  | store (m : Memory) (targets : List Path) :
      Moves path m (.bringing targets) (m.insertIfNew path targets).2
      (.returned (m.insertIfNew path targets).1)

/-- A memory and the calls that share it. -/
structure Shared (ι : Type) where
  memory : Memory
  stage : ι → Stage

namespace Shared

variable {ι : Type}

/-- The calls before any of them has begun. -/
def start (m : Memory) : Shared ι :=
  ⟨m, fun _ => .waiting⟩

variable [DecidableEq ι]

/-- One of the calls goes a step; `asks` says which module each call is for. -/
inductive Step (asks : ι → Path) : Shared ι → Shared ι → Prop where
  | call {s : Shared ι} (i : ι) {m : Memory} {stage : Stage} :
      Moves (asks i) s.memory (s.stage i) m stage →
      Step asks s ⟨m, Function.update s.stage i stage⟩

/-- Steps of calls in any order. -/
def Steps (asks : ι → Path) : Shared ι → Shared ι → Prop :=
  Relation.ReflTransGen (Step asks)

variable {asks : ι → Path} {m : Memory} {s s' : Shared ι}

/-! ## One step -/

theorem kept_of_moves {path : Path} {m m' : Memory} {stage stage' : Stage}
    (h : Moves path m stage m' stage') :
    m.Kept m' := by
  cases h with
  | hit _ => exact .refl _
  | miss _ => exact .refl _
  | answer _ => exact .refl _
  | fail _ => exact .refl _
  | store targets =>
    intro other known hfound
    exact Memory.find?_insertIfNew_of_some hfound

/-- A call that returns has returned what is remembered. -/
theorem find?_of_moves {path : Path} {m m' : Memory} {stage : Stage} {targets : List Path}
    (h : Moves path m stage m' (.returned targets)) : m'.find? path = some targets := by
  cases h with
  | hit hfound => exact hfound
  | store found => exact Memory.find?_insertIfNew_self m path found

/-- Until a call returns it leaves the memory alone. -/
theorem memory_eq_of_moves {path : Path} {m m' : Memory} {stage stage' : Stage}
    (h : Moves path m stage m' stage') (hopen : ∀ targets, stage' ≠ .returned targets) :
    m' = m ∧ ∀ targets, stage ≠ .returned targets := by
  cases h with
  | hit _ => exact absurd rfl (hopen _)
  | miss _ => exact ⟨rfl, nofun⟩
  | answer _ => exact ⟨rfl, nofun⟩
  | fail _ => exact ⟨rfl, nofun⟩
  | store _ => exact absurd rfl (hopen _)

/-- A call that has returned goes no further. -/
theorem not_moves_returned {path : Path} {m m' : Memory} {targets : List Path} {stage : Stage} :
    ¬ Moves path m (.returned targets) m' stage := by
  intro h
  cases h

theorem kept_of_step (h : Step asks s s') : s.memory.Kept s'.memory := by
  cases h with
  | call i hmoves => exact kept_of_moves hmoves

theorem kept_of_steps (h : Steps asks s s') : s.memory.Kept s'.memory := by
  induction h with
  | refl => exact .refl _
  | tail _ hstep ih => exact ih.trans (kept_of_step hstep)

theorem returned_of_step (h : Step asks s s') {i : ι} {targets : List Path}
    (hi : s.stage i = .returned targets) : s'.stage i = .returned targets := by
  cases h with
  | call j hmoves =>
    by_cases hji : i = j
    · subst hji
      rw [hi] at hmoves
      exact absurd hmoves not_moves_returned
    · simp only [Function.update_of_ne hji, hi]

theorem returned_of_steps (h : Steps asks s s') {i : ι} {targets : List Path}
    (hi : s.stage i = .returned targets) : s'.stage i = .returned targets := by
  induction h with
  | refl => exact hi
  | tail _ hstep ih => exact returned_of_step hstep ih

/-! ## Every order of steps -/

/-- Every call that has returned has returned what is remembered now. -/
def Agreed (asks : ι → Path) (s : Shared ι) : Prop :=
  ∀ i targets, s.stage i = .returned targets → s.memory.find? (asks i) = some targets

/-- **A step keeps the calls agreed**: whoever returned before finds the same as it did,
since nothing is forgotten. -/
theorem Agreed.step (h : Agreed asks s) (hstep : Step asks s s') : Agreed asks s' := by
  intro i targets hi
  have hkept := kept_of_step hstep
  cases hstep with
  | call j hmoves =>
    by_cases hji : i = j
    · subst hji
      simp only [Function.update_self] at hi
      subst hi
      exact find?_of_moves hmoves
    · simp only [Function.update_of_ne hji] at hi
      exact hkept _ _ (h i targets hi)

theorem agreed_of_steps (h : Steps asks (start m) s) : Agreed asks s := by
  induction h with
  | refl =>
    intro i targets hi
    cases hi
  | tail _ hstep ih => exact ih.step hstep

/-- **A call that has not returned has left no trace**: the others could have gone the same
steps before it had even begun. -/
theorem steps_without (i : ι) (h : Steps asks (start m) s)
    (hopen : ∀ targets, s.stage i ≠ .returned targets) :
    Steps asks (start m) ⟨s.memory, Function.update s.stage i .waiting⟩ := by
  induction h with
  | refl =>
    have hstart : Function.update (start (ι := ι) m).stage i .waiting = (start m).stage :=
      Function.update_eq_self i _
    rw [hstart]
    exact .refl
  | @tail before _ _ hstep ih =>
    cases hstep with
    | @call j m' stage hmoves =>
      by_cases hij : i = j
      · subst hij
        -- the step is one of the call itself, and it is not the one that
        -- brings something to the memory
        simp only [Function.update_self] at hopen
        obtain ⟨rfl, hbefore⟩ := memory_eq_of_moves hmoves hopen
        simp only [Function.update_idem]
        exact ih hbefore
      · simp only [Function.update_of_ne hij] at hopen
        have hother : (Function.update before.stage i .waiting) j = before.stage j :=
          Function.update_of_ne (Ne.symm hij) _ _
        have hsame : Step asks ⟨before.memory, Function.update before.stage i .waiting⟩
            ⟨m', Function.update (Function.update before.stage i .waiting) j stage⟩ := by
          refine .call j ?_
          dsimp only
          rw [hother]
          exact hmoves
        rw [Function.update_comm hij] at hsame
        exact (ih hopen).tail hsame

/-! ## A call of its own -/

/-- **Looking up what is remembered is such a call**: if nobody comes between its steps it goes
these steps and ends as it does here. -/
theorem steps_of_recall (source : Source) (i : ι) (hi : s.stage i = .waiting) (session : Session)
    (hmemory : session.memory = s.memory) :
    Steps asks s ⟨(Work.after (source.recall (asks i)) session).memory,
      Function.update s.stage i (.ofResult (source.recall (asks i) session))⟩ := by
  have hstep : ∀ {stage : Stage}, Moves (asks i) s.memory .waiting s.memory stage →
      Steps asks s ⟨s.memory, Function.update s.stage i stage⟩ := by
    intro stage hmoves
    refine .single (.call i ?_)
    rw [hi]
    exact hmoves
  -- the call is the only one that moves, so its stages replace one another
  have hnext : ∀ {m m' : Memory} {stage stage' : Stage}, Moves (asks i) m stage m' stage' →
      Step asks ⟨m, Function.update s.stage i stage⟩ ⟨m', Function.update s.stage i stage'⟩ := by
    intro m m' stage stage' hmoves
    have hcall : Step asks ⟨m, Function.update s.stage i stage⟩
        ⟨m', Function.update (Function.update s.stage i stage) i stage'⟩ := by
      refine .call i ?_
      simp only [Function.update_self]
      exact hmoves
    rwa [Function.update_idem] at hcall
  unfold Work.after
  cases hfind : session.memory.find? (asks i) with
  | some known =>
    rw [recall_of_some hfind]
    dsimp only [Stage.ofResult]
    rw [hmemory] at hfind ⊢
    exact hstep (.hit hfind)
  | none =>
    rw [recall_of_none hfind, consult_eq]
    rw [hmemory] at hfind
    have hmiss := hstep (.miss hfind)
    cases source.imports session.files (asks i) with
    | error fault =>
      dsimp only [Stage.ofResult]
      rw [hmemory]
      exact hmiss.tail (hnext (.fail _ fault))
    | ok found =>
      dsimp only [remember, Stage.ofResult]
      rw [hmemory]
      exact (hmiss.tail (hnext (.answer _ found.imports))).tail (hnext (.store _ found.imports))

/-- **What is remembered stays, and every call returns it.** For any calls and any order of their
steps: a stored answer is never changed or removed, calls for one module that return give the same
answer, the stored one, and a call that fails stores nothing, so that the others cannot tell whether
it has taken place. A look-up of the work itself, begun at any moment, is such a call. -/
theorem memory_settles (asks : ι → Path) (m : Memory) {s s' : Shared ι} (h : Steps asks (start m) s)
    (h' : Steps asks s s') :
    s.memory.Kept s'.memory ∧
    (∀ i targets, s'.stage i = .returned targets → s'.memory.find? (asks i) = some targets) ∧
    (∀ i j targets targets', asks i = asks j → s.stage i = .returned targets →
      s'.stage j = .returned targets' → targets = targets') ∧
    (∀ i fault, s'.stage i = .failed fault →
      Steps asks (start m) ⟨s'.memory, Function.update s'.stage i .waiting⟩) ∧
    ∀ (source : Source) (session : Session) i, session.memory = s'.memory → s'.stage i = .waiting →
      Steps asks s' ⟨(Work.after (source.recall (asks i)) session).memory,
        Function.update s'.stage i (.ofResult (source.recall (asks i) session))⟩ := by
  have hall : Steps asks (start m) s' := h.trans h'
  have hagreed := agreed_of_steps hall
  refine ⟨kept_of_steps h', hagreed, ?_, ?_, ?_⟩
  · intro i j targets targets' hasks hi hj
    have hfirst := hagreed i targets (returned_of_steps h' hi)
    have hsecond := hagreed j targets' hj
    rw [hasks, hsecond] at hfirst
    exact (Option.some.inj hfirst).symm
  · intro i fault hi
    refine steps_without i hall ?_
    intro targets
    rw [hi]
    exact nofun
  · intro source session i hmemory hi
    exact steps_of_recall source i hi session hmemory

/-! ### Three calls -/

/-- Two calls for a module that both find nothing, and one for another module that fails. -/
def threeCalls : Fin 3 → Path := fun i =>
  if i = 2 then "/c.js".toList else "/a.js".toList

/-- The two calls come back with different answers. The answer of the one that comes back first
stays, and the other returns it too; of the call that fails nothing is stored. -/
theorem settles_threeCalls : ∃ s s', Steps threeCalls (start .empty) s ∧ Steps threeCalls s s' ∧
    s.stage 1 = .returned ["/new.js".toList] ∧ s.stage 0 = .bringing ["/old.js".toList] ∧
    s'.stage 0 = .returned ["/new.js".toList] ∧ s'.stage 2 = .failed .nulInPath ∧
    s'.memory.find? (threeCalls 0) = some ["/new.js".toList] ∧
    Steps threeCalls (start .empty) ⟨s'.memory, Function.update s'.stage 2 .waiting⟩ := by
  have hmissed : Steps threeCalls (start .empty) _ :=
    .tail (.tail .refl (.call 0 (.miss rfl))) (.call 1 (.miss rfl))
  have hanswered := (hmissed.tail (.call 0 (.answer _ ["/old.js".toList]))).tail
    (.call 1 (.answer _ ["/new.js".toList]))
  have hstored := hanswered.tail (.call 1 (.store _ _))
  have hrun : ∃ s s', Steps threeCalls (start .empty) s ∧ Steps threeCalls s s' ∧
      s.stage 1 = .returned ["/new.js".toList] ∧ s.stage 0 = .bringing ["/old.js".toList] ∧
      s'.stage 0 = .returned ["/new.js".toList] ∧ s'.stage 2 = .failed .nulInPath :=
    ⟨_, _, hstored, .tail (.tail (.single (.call 0 (.store _ _))) (.call 2 (.miss rfl)))
      (.call 2 (.fail _ .nulInPath)), rfl, rfl, rfl, rfl⟩
  obtain ⟨s, s', hs, hs', hfirst, hsecond, hlast, hfail⟩ := hrun
  obtain ⟨-, hfind, -, hwithout, -⟩ := memory_settles threeCalls .empty hs hs'
  exact ⟨s, s', hs, hs', hfirst, hsecond, hlast, hfail, hfind 0 _ hlast,
    hwithout 2 .nulInPath hfail⟩

end Shared
end Module
end SiteOptimizer
