import Mathlib.Data.List.Forall2
import SiteOptimizer.Session

/-!
# Laws of work

Work is peeled one part at a time: what a list of parts does is what the first part does and then
what the others do. `LooksUp` says of work that it changes no file and forgets nothing, however it
ends, and `Quiet` that it looks no module up.
-/

namespace SiteOptimizer
namespace Work

/-! ## One part after the other -/

section Bind

variable {σ α β : Type} {work : EStateM Fault σ α} {f : α → EStateM Fault σ β} {s s' : σ}

theorem bind_of_ok {a : α} (h : work s = .ok a s') : (work >>= f) s = f a s' := by
  show EStateM.bind work f s = _
  unfold EStateM.bind
  rw [h]

theorem bind_of_error {fault : Fault} (h : work s = .error fault s') :
    (work >>= f) s = .error fault s' := by
  show EStateM.bind work f s = _
  unfold EStateM.bind
  rw [h]

/-- The same work in front of the same rest. -/
theorem bind_congr {work' : EStateM Fault σ α} (h : work s = work' s) :
    (work >>= f) s = (work' >>= f) s := by
  show EStateM.bind work f s = EStateM.bind work' f s
  unfold EStateM.bind
  rw [h]

/-- What both parts give that come through together. -/
theorem of_bind_ok {b : β} (h : (work >>= f) s = .ok b s') :
    ∃ a s'', work s = .ok a s'' ∧ f a s'' = .ok b s' := by
  cases hw : work s with
  | ok a s'' => exact ⟨a, s'', rfl, by rw [← h, bind_of_ok hw]⟩
  | error fault s'' => rw [bind_of_error hw] at h; cases h

end Bind

/-- What has been computed is given, and nothing else is done. -/
theorem of_ofExcept_ok {α : Type} {known : Except Fault α} {a : α} {s s' : Session}
    (h : ofExcept known s = .ok a s') : known = .ok a ∧ s' = s := by
  cases known with
  | ok found => cases h; exact ⟨rfl, rfl⟩
  | error fault => cases h

section Attempt

variable {α : Type} {work : Work α} {s s' : Session}

theorem attempt_of_ok {a : α} (h : work s = .ok a s') : attempt work s = .ok (.ok a) s' := by
  rw [attempt, h]

theorem attempt_of_error {fault : Fault} (h : work s = .error fault s') :
    attempt work s = .ok (.error fault) s' := by
  rw [attempt, h]

end Attempt

end Work

/-! ## Results -/

instance decidableEqResult {ε σ α : Type} [DecidableEq ε] [DecidableEq σ] [DecidableEq α] :
    DecidableEq (EStateM.Result ε σ α)
  | .ok a s, .ok b t => decidable_of_iff (a = b ∧ s = t) (by simp)
  | .error a s, .error b t => decidable_of_iff (a = b ∧ s = t) (by simp)
  | .ok _ _, .error _ _ => isFalse nofun
  | .error _ _, .ok _ _ => isFalse nofun

theorem map_eq_ok_iff {ε α β : Type} {f : α → β} {result : Except ε α} {b : β} :
    result.map f = .ok b ↔ ∃ a, result = .ok a ∧ f a = b := by
  cases result with
  | error fault => exact ⟨nofun, fun ⟨_, h, _⟩ => nomatch h⟩
  | ok a => exact ⟨fun h => ⟨a, rfl, Except.ok.inj h⟩, fun ⟨_, h, hb⟩ => by cases h; rw [← hb]; rfl⟩

theorem map_eq_error_iff {ε α β : Type} {f : α → β} {result : Except ε α} {fault : ε} :
    result.map f = .error fault ↔ result = .error fault := by
  cases result with
  | error fault' =>
    exact ⟨fun h => congrArg Except.error (Except.error.inj h), fun h => by cases h; rfl⟩
  | ok a => exact ⟨nofun, nofun⟩

/-- **A list is gone through without a fault just if each item is**, and what it
gives is given item by item. -/
theorem mapM_eq_ok_iff {ε α β : Type} {f : α → Except ε β} {l : List α} {bs : List β} :
    l.mapM f = .ok bs ↔ List.Forall₂ (fun a b => f a = .ok b) l bs := by
  induction l generalizing bs with
  | nil =>
    rw [List.mapM_nil, List.forall₂_nil_left_iff]
    exact ⟨fun h => (Except.ok.inj h).symm, fun h => by rw [h]; rfl⟩
  | cons a l ih =>
    rw [List.mapM_cons, List.forall₂_cons_left_iff]
    constructor
    -- a list that comes through has come through at each item
    · intro h
      cases ha : f a with
      | error fault => rw [ha] at h; cases h
      | ok b =>
        cases hl : l.mapM f with
        | error fault => rw [ha, hl] at h; cases h
        | ok rest =>
          rw [ha, hl] at h
          cases h
          exact ⟨b, rest, rfl, ih.1 hl, rfl⟩
    · rintro ⟨b, rest, hb, hrest, rfl⟩
      rw [hb, ih.2 hrest]
      rfl

theorem exists_of_forall₂ {α β : Type} {R : α → β → Prop} {l : List α} {l' : List β}
    (h : List.Forall₂ R l l') {a : α} (ha : a ∈ l) : ∃ b ∈ l', R a b := by
  induction h with
  | nil => cases ha
  | @cons first b l l' hab _ ih =>
    rcases List.mem_cons.1 ha with rfl | ha
    · exact ⟨b, List.mem_cons_self, hab⟩
    · obtain ⟨b', hb', hfound⟩ := ih ha
      exact ⟨b', List.mem_cons_of_mem _ hb', hfound⟩

/-! ## Looking things up -/

/-- Nothing that was remembered has been forgotten. -/
def Module.Memory.Kept (m m' : Module.Memory) : Prop :=
  ∀ path targets, m.find? path = some targets → m'.find? path = some targets

theorem Module.Memory.Kept.refl (m : Module.Memory) : m.Kept m := fun _ _ h => h

theorem Module.Memory.Kept.trans {m m' m'' : Module.Memory} (h : m.Kept m')
    (h' : m'.Kept m'') : m.Kept m'' :=
  fun path targets hfound => h' path targets (h path targets hfound)

/-- The files are the same, and nothing has been forgotten. -/
structure Session.Later (s s' : Session) : Prop where
  files : s'.files = s.files
  memory : s.memory.Kept s'.memory

theorem Session.Later.refl (s : Session) : Session.Later s s := ⟨rfl, .refl _⟩

theorem Session.Later.trans {s s' s'' : Session} (h : Session.Later s s')
    (h' : Session.Later s' s'') :
    Session.Later s s'' :=
  ⟨h'.files.trans h.files, h.memory.trans h'.memory⟩

namespace Work

open Session (Later)

/-- Work that changes no file and forgets nothing, whether or not it fails. -/
def LooksUp {α : Type} (work : Work α) : Prop :=
  ∀ s, match work s with
    | .ok _ s' => Later s s'
    | .error _ s' => Later s s'

theorem LooksUp.ok {α : Type} {work : Work α} (h : LooksUp work) {s s' : Session} {a : α}
    (hw : work s = .ok a s') : Later s s' := by
  have hs := h s
  rw [hw] at hs
  exact hs

theorem LooksUp.error {α : Type} {work : Work α} (h : LooksUp work) {s s' : Session} {fault : Fault}
    (hw : work s = .error fault s') : Later s s' := by
  have hs := h s
  rw [hw] at hs
  exact hs

theorem looksUp_pure {α : Type} (a : α) : LooksUp (pure a) := fun s => .refl s

theorem looksUp_throw {α : Type} (fault : Fault) :
    LooksUp (throw fault : Work α) := fun s => .refl s

theorem looksUp_ofExcept {α : Type} (known : Except Fault α) : LooksUp (Work.ofExcept known) := by
  cases known with
  | ok a => exact looksUp_pure a
  | error fault => exact looksUp_throw fault

theorem looksUp_files : LooksUp Work.files := fun s => .refl s

theorem looksUp_note (n : Note) : LooksUp (Work.note n) := fun _ => ⟨rfl, .refl _⟩

theorem LooksUp.bind {α β : Type} {work : Work α} {f : α → Work β} (h : LooksUp work)
    (hf : ∀ a, LooksUp (f a)) : LooksUp (work >>= f) := by
  intro s
  cases hw : work s with
  | error fault s' =>
    rw [bind_of_error hw]
    exact h.error hw
  | ok a s' =>
    rw [bind_of_ok hw]
    have hrest := hf a s'
    cases hr : f a s' with
    | error fault s'' => rw [hr] at hrest; exact (h.ok hw).trans hrest
    | ok b s'' => rw [hr] at hrest; exact (h.ok hw).trans hrest

theorem LooksUp.mapFault {α : Type} {work : Work α} (h : LooksUp work) (f : Fault → Fault) :
    LooksUp (Work.mapFault f work) := by
  intro s
  unfold Work.mapFault
  cases hw : work s with
  | ok a s' => exact h.ok hw
  | error fault s' => exact h.error hw

theorem LooksUp.mapM {α β : Type} {f : α → Work β} (h : ∀ a, LooksUp (f a)) (l : List α) :
    LooksUp (l.mapM f) := by
  induction l with
  | nil => exact looksUp_pure []
  | cons a l ih =>
    rw [List.mapM_cons]
    exact (h a).bind fun b => ih.bind fun bs => looksUp_pure (b :: bs)

/-! ## Failing in certain ways -/

/-- Work whose faults are all of this sort. -/
def FailsWith {α : Type} (sort : Fault → Prop) (work : Work α) : Prop :=
  ∀ s fault s', work s = .error fault s' → sort fault

section FailsWith

variable {α β : Type} {sort : Fault → Prop} {work : Work α} {f : α → Work β}

theorem failsWith_pure (a : α) : FailsWith sort (pure a) := fun _ _ _ h => nomatch h

theorem failsWith_ofExcept {known : Except Fault α}
    (h : ∀ fault, known = .error fault → sort fault) :
    FailsWith sort (Work.ofExcept known) := by
  intro s fault s' hfail
  cases known with
  | ok a => cases hfail
  | error fault =>
    cases hfail
    exact h _ rfl

theorem failsWith_files : FailsWith sort Work.files := fun _ _ _ h => nomatch h

theorem failsWith_note (n : Note) : FailsWith sort (note n) := fun _ _ _ h => nomatch h

theorem failsWith_setFiles (files : FileSystem) :
    FailsWith sort (setFiles files) := fun _ _ _ h => nomatch h

theorem failsWith_attempt (work : Work α) : FailsWith sort (attempt work) := fun s fault s' h =>
  absurd h (attempt_ne_error work fault s s')

theorem FailsWith.bind (h : FailsWith sort work) (hf : ∀ a, FailsWith sort (f a)) :
    FailsWith sort (work >>= f) := by
  intro s fault s' hfail
  cases hw : work s with
  | ok a s'' =>
    rw [bind_of_ok hw] at hfail
    exact hf a s'' fault s' hfail
  | error fault' s'' =>
    rw [bind_of_error hw] at hfail
    cases hfail
    exact h s fault s' hw

/-- **Work that only looks things up and then fails in certain ways alone** has changed no file
if it fails in another way. -/
theorem LooksUp.files_eq_of_error (h : LooksUp work) (hf : ∀ a, FailsWith sort (f a))
    {s s' : Session} {fault : Fault} (hfail : (work >>= f) s = .error fault s')
    (hsort : ¬ sort fault) : s'.files = s.files := by
  cases hw : work s with
  | ok a s'' =>
    rw [bind_of_ok hw] at hfail
    exact absurd (hf a s'' fault s' hfail) hsort
  | error fault' s'' =>
    rw [bind_of_error hw] at hfail
    cases hfail
    exact (h.error hw).files

end FailsWith

/-! ## Looking nothing up -/

/-- The state that some work leaves, whether or not it fails. -/
def after {α : Type} (work : Work α) (s : Session) : Session :=
  match work s with
  | .ok _ s' => s'
  | .error _ s' => s'

theorem after_of_ok {α : Type} {work : Work α} {s s' : Session} {a : α} (h : work s = .ok a s') :
    after work s = s' := by
  rw [after, h]

theorem after_of_error {α : Type} {work : Work α} {s s' : Session} {fault : Fault}
    (h : work s = .error fault s') :
    after work s = s' := by
  rw [after, h]

/-- Work that leaves this state as it is. -/
def Still {α : Type} (work : Work α) (s : Session) : Prop :=
  after work s = s

theorem still_ofExcept {α : Type} (known : Except Fault α) (s : Session) :
    Still (Work.ofExcept known) s := by
  cases known <;> rfl

theorem Still.bind {α β : Type} {work : Work α} {f : α → Work β} {s : Session} (h : Still work s)
    (hf : ∀ a, work s = .ok a s → Still (f a) s) : Still (work >>= f) s := by
  cases hw : work s with
  | ok a s' =>
    obtain rfl : s' = s := (after_of_ok hw).symm.trans h
    rw [Still, after, bind_of_ok hw]
    exact hf a hw
  | error fault s' =>
    obtain rfl : s' = s := (after_of_error hw).symm.trans h
    exact after_of_error (bind_of_error hw)

end Work

/-- The same modules are remembered, and none has been looked up. -/
structure Session.Unasked (s s' : Session) : Prop where
  memory : s'.memory = s.memory
  calls : s'.calls = s.calls

theorem Session.Unasked.refl (s : Session) : Session.Unasked s s := ⟨rfl, rfl⟩

theorem Session.Unasked.trans {s s' s'' : Session} (h : Session.Unasked s s')
    (h' : Session.Unasked s' s'') :
    Session.Unasked s s'' :=
  ⟨h'.memory.trans h.memory, h'.calls.trans h.calls⟩

namespace Work

/-- Work that from this state on looks no module up. -/
def Quiet {α : Type} (work : Work α) (s : Session) : Prop :=
  Session.Unasked s (after work s)

theorem Still.quiet {α : Type} {work : Work α} {s : Session} (h : Still work s) : Quiet work s := by
  rw [Quiet, h]
  exact .refl s

theorem Quiet.bind {α β : Type} {work : Work α} {f : α → Work β} {s : Session} (h : Quiet work s)
    (hf : ∀ a s', work s = .ok a s' → Quiet (f a) s') : Quiet (work >>= f) s := by
  unfold Quiet at h ⊢
  cases hw : work s with
  | ok a s' =>
    rw [after_of_ok hw] at h
    refine h.trans ?_
    rw [after, bind_of_ok hw]
    exact hf a s' hw
  | error fault s' =>
    rw [after_of_error hw] at h
    rwa [after_of_error (bind_of_error hw)]

theorem Quiet.attempt {α : Type} {work : Work α} {s : Session}
    (h : Quiet work s) : Quiet (attempt work) s := by
  have hafter : after (Work.attempt work) s = after work s := by
    cases hw : work s with
    | ok a s' => rw [after_of_ok hw, after_of_ok (attempt_of_ok hw)]
    | error fault s' => rw [after_of_error hw, after_of_ok (attempt_of_error hw)]
  rwa [Quiet, hafter]

theorem quiet_note (n : Note) (s : Session) : Quiet (note n) s := ⟨rfl, rfl⟩

theorem quiet_setFiles (files : FileSystem) (s : Session) : Quiet (setFiles files) s := ⟨rfl, rfl⟩

theorem quiet_write (path : Path) (text : Text) (s : Session) : Quiet (write path text) s := by
  refine Quiet.bind (.refl s) fun files s' _ => ?_
  exact (still_ofExcept _ s').quiet.bind fun files' s'' _ => quiet_setFiles files' s''

theorem quiet_makeDirectories (path : Path) (s : Session) : Quiet (makeDirectories path) s := by
  refine Quiet.bind (.refl s) fun files s' _ => ?_
  exact (quiet_setFiles _ s').bind fun _ s'' _ => (still_ofExcept _ s'').quiet

/-! ## Lists -/

section Lists

variable {α β : Type} {f : α → Work (Option β)} {a : α} {l : List α} {s s' : Session}

theorem filterMapM_cons_of_ok {b : Option β} (h : f a s = .ok b s') :
    (a :: l).filterMapM f s =
      match l.filterMapM f s' with
      | .ok bs s'' => .ok (b.toList ++ bs) s''
      | .error fault s'' => .error fault s'' := by
  rw [List.filterMapM_cons, bind_of_ok h]
  cases b with
  | none =>
    dsimp only
    cases l.filterMapM f s' <;> rfl
  | some b =>
    dsimp only
    cases hl : l.filterMapM f s' with
    | ok bs s'' => exact bind_of_ok hl
    | error fault s'' => exact bind_of_error hl

theorem filterMapM_cons_of_error {fault : Fault} (h : f a s = .error fault s') :
    (a :: l).filterMapM f s = .error fault s' := by
  rw [List.filterMapM_cons]
  exact bind_of_error h

/-- Parts that fail in certain ways alone do so one after the other. -/
theorem FailsWith.filterMapM {sort : Fault → Prop} (h : ∀ a, FailsWith sort (f a)) (l : List α) :
    FailsWith sort (l.filterMapM f) := by
  induction l with
  | nil => exact failsWith_pure []
  | cons a l ih =>
    rw [List.filterMapM_cons]
    refine (h a).bind fun b => ?_
    cases b with
    | none => exact ih
    | some b => exact ih.bind fun bs => failsWith_pure (b :: bs)

/-- Parts that look nothing up are done one after the other, where each
leaves the others what they need. -/
theorem quiet_filterMapM (need : List α → Session → Prop)
    (h : ∀ a l s, need (a :: l) s → Quiet (f a) s ∧ ∀ b s', f a s = .ok b s' → need l s')
    (hneed : need l s) :
    Quiet (l.filterMapM f) s := by
  induction l generalizing s with
  | nil => exact .refl s
  | cons a l ih =>
    obtain ⟨hquiet, hnext⟩ := h a l s hneed
    unfold Quiet at hquiet ⊢
    cases hw : f a s with
    | error fault s' =>
      rw [after_of_error hw] at hquiet
      rwa [after_of_error (filterMapM_cons_of_error hw)]
    | ok b s' =>
      rw [after_of_ok hw] at hquiet
      refine hquiet.trans ?_
      have hrest := ih (hnext b s' hw)
      rw [after, filterMapM_cons_of_ok hw]
      unfold Quiet after at hrest
      cases hl : l.filterMapM f s' <;> rwa [hl] at hrest

end Lists

theorem forM_note (notes : List Note) (s : Session) :
    notes.forM note s = .ok () { s with notes := s.notes ++ notes } := by
  induction notes generalizing s with
  | nil => simp [pure, EStateM.pure]
  | cons n notes ih =>
    have hcons : (n :: notes).forM note = (note n >>= fun _ => notes.forM note) := List.forM_cons
    have hnote : note n s = .ok () { s with notes := s.notes ++ [n] } := rfl
    rw [hcons, bind_of_ok hnote, ih, List.append_assoc]
    rfl

end Work
end SiteOptimizer
