import SiteOptimizer.Proofs.FileSystem
import SiteOptimizer.Proofs.Reference
import SiteOptimizer.Proofs.Script.StyleProxy

/-!
# Paths in canonical form

All paths of one run have the same mark in front and lead from the root over steps down alone. There
is one such path to each place, so the run never meets one file under two names: two of these paths
are equal if they have the same URL (`Canonical.eq_of_relativeTo`) or if they can be opened at the
same place (`Canonical.eq_of_locate`).
-/

namespace SiteOptimizer

namespace Path

/-- What is in front of rooted paths in normal form. -/
def IsMark (mark : Text) : Prop :=
  mark = ['/'] ∨ mark = ['/', '/']

/-- A part that leads down. -/
structure IsStep (part : Text) : Prop extends IsPart part where
  ne_up : part ≠ up

/-- A path that leads from the root over steps down alone, with this mark in front. -/
def Canonical (mark : Text) (p : Path) : Prop :=
  ∃ steps, (∀ part ∈ steps, IsStep part) ∧ p = mark ++ Text.join ['/'] steps

section Marks

variable {mark : Text} {p : Path} {steps : List Text}

theorem IsMark.getLast? (h : IsMark mark) : mark.getLast? = some '/' := by
  rcases h with rfl | rfl <;> rfl

theorem IsMark.rootMark (h : IsMark mark) {t : Text} (ht : Path.isRooted t = false) :
    Path.rootMark (mark ++ t) = mark := by
  rcases h with rfl | rfl
  all_goals
    cases t with
    | nil => rfl
    | cons c t =>
      have hc : c ≠ '/' := by
        rintro rfl
        cases ht
      unfold Path.rootMark
      simp [hc]

theorem isRooted_join_append {t : Text} (h : ∀ part ∈ steps, IsPart part) (hne : steps ≠ []) :
    isRooted (Text.join ['/'] steps ++ t) = false := by
  have hsteps := isRooted_join_parts h
  cases hjoin : Text.join ['/'] steps with
  | nil =>
    have hparts := parts_join_parts h
    rw [hjoin] at hparts
    exact absurd hparts.symm hne
  | cons c rest =>
    rw [hjoin] at hsteps
    exact hsteps

/-- A slash stands in front of the last part. -/
theorem exists_front (hmark : IsMark mark) (above : List Text) :
    ∃ front : Path, front.getLast? = some '/' ∧
    ∀ last, mark ++ Text.join ['/'] (above ++ [last]) = front ++ last := by
  by_cases habove : above = []
  · refine ⟨mark, hmark.getLast?, fun last => ?_⟩
    rw [habove, List.nil_append, Text.join, List.intercalate_singleton]
  · refine ⟨mark ++ (Text.join ['/'] above ++ ['/']), by simp, fun last => ?_⟩
    rw [Text.join_append habove (List.cons_ne_nil _ _)]
    simp [Text.join]

theorem getLast?_join_parts (hmark : IsMark mark) (h : ∀ part ∈ steps, IsPart part)
    (hne : steps ≠ []) :
    (mark ++ Text.join ['/'] steps).getLast? ≠ some '/' := by
  obtain ⟨above, last, rfl⟩ := (List.eq_nil_or_concat steps).resolve_left hne
  rw [List.concat_eq_append] at h ⊢
  have hlast := h last (List.mem_append_right _ List.mem_cons_self)
  obtain ⟨front, -, hfront⟩ := exists_front hmark above
  rw [hfront, List.getLast?_append]
  cases hc : last.getLast? with
  | none => exact absurd (List.getLast?_eq_none_iff.1 hc) hlast.ne_nil
  | some c =>
    rintro heq
    cases heq
    exact hlast.no_slash (List.mem_of_getLast? hc)

/-- A path seen from a canonical directory has the mark of the directory. -/
theorem join_mark (hmark : IsMark mark) (h : ∀ part ∈ steps, IsPart part) {t : Path}
    (ht : isRooted t = false) :
    Path.join (mark ++ Text.join ['/'] steps) t =
      mark ++ if steps = [] then t else Text.join ['/'] steps ++ '/' :: t := by
  have hne : mark ++ Text.join ['/'] steps ≠ [] := by
    rcases hmark with rfl | rfl <;> exact List.cons_ne_nil _ _
  rw [Path.join, if_neg (by rw [ht]; simp)]
  by_cases hsteps : steps = []
  · rw [if_pos hsteps, hsteps, if_pos]
    · simp [Text.join]
    · simp [Text.join, hmark.getLast?]
  · rw [if_neg hsteps, if_neg, List.append_assoc]
    rw [Bool.or_eq_true, not_or, decide_eq_true_eq, decide_eq_true_eq]
    exact ⟨hne, getLast?_join_parts hmark h hsteps⟩

/-- The directory of a path, unless that is the root. -/
theorem parent_append {front last : Path} (hlast : '/' ∉ last) (hfront : front.getLast? ≠ some '/')
    (hne : front ≠ []) : Path.parent (front ++ '/' :: last) = front := by
  have hbefore : Text.dropEndWhile (· ≠ '/') (front ++ '/' :: last) = front ++ ['/'] := by
    rw [List.append_cons, Text.dropEndWhile_append
      fun c hc => by simpa using ne_of_mem_of_not_mem hc hlast]
    refine Text.dropEndWhile_eq_self fun c hc => ?_
    rw [List.getLast?_concat] at hc
    cases hc
    rfl
  have hall : (front ++ ['/']).all (· = '/') = false := by
    rw [List.all_eq_false]
    obtain ⟨c, hc⟩ := Option.ne_none_iff_exists'.1 (mt List.getLast?_eq_none_iff.1 hne)
    refine ⟨c, List.mem_append_left _ (List.mem_of_getLast? hc), ?_⟩
    rw [hc] at hfront
    simpa using hfront
  rw [Path.parent, hbefore, hall, if_neg Bool.false_ne_true, Text.dropEndWhile_append (by simp)]
  refine Text.dropEndWhile_eq_self fun c hc => ?_
  rw [hc] at hfront
  simpa using hfront

theorem parent_mark (hmark : IsMark mark) {last : Path} (hlast : '/' ∉ last) :
    Path.parent (mark ++ last) = mark := by
  have hbefore : Text.dropEndWhile (· ≠ '/') (mark ++ last) = mark := by
    rw [Text.dropEndWhile_append fun c hc => by simpa using ne_of_mem_of_not_mem hc hlast]
    rcases hmark with rfl | rfl <;> rfl
  rw [Path.parent, hbefore, if_pos]
  rcases hmark with rfl | rfl <;> rfl

end Marks

/-! ## Paths of a run -/

section Canonical

variable {mark : Text} {p q : Path}

/-- **The normal form of a path with a mark is canonical.** -/
theorem canonical_normalize (hmark : IsMark mark) (hp : rootMark p = mark) :
    Canonical mark (normalize p) := by
  have hrooted : isRooted p = true := by
    rcases rootMark_cases p with ⟨h, -⟩ | ⟨-, h⟩
    · exact h
    · rw [h] at hp
      rcases hmark with rfl | rfl <;> cases hp
  refine ⟨normalParts p, fun part hpart =>
    ⟨isPart_of_mem_parts (mem_parts_of_mem_normalParts hpart), ?_⟩, ?_⟩
  · rw [normalParts, hrooted, List.mem_reverse] at hpart
    exact ne_up_of_mem_follow (by simp) part hpart
  · unfold normalize
    dsimp only
    rw [hp, if_neg]
    rcases hmark with rfl | rfl <;> exact List.cons_ne_nil _ _

/-- The root of a run is canonical with its mark. -/
theorem exists_canonical_absolute (p : Path) :
    ∃ mark, IsMark mark ∧ Canonical mark (absolute p) := by
  obtain ⟨hrooted, -⟩ := isRooted_absolute_base p
  have hmark : IsMark (rootMark (join ['/'] p)) := by
    rcases rootMark_cases (join ['/'] p) with ⟨-, h⟩ | ⟨h, -⟩
    · exact h
    · rw [h] at hrooted
      cases hrooted
  exact ⟨_, hmark, canonical_normalize hmark rfl⟩

theorem Canonical.ne_nil (h : Canonical mark p) (hmark : IsMark mark) : p ≠ [] := by
  obtain ⟨steps, -, rfl⟩ := h
  rcases hmark with rfl | rfl <;> exact List.cons_ne_nil _ _

/-- **A file that a directory names is canonical** if the directory is. -/
theorem Canonical.normalize_join (h : Canonical mark p) (hmark : IsMark mark) {t : Path}
    (ht : isRooted t = false) : Canonical mark (normalize (join p t)) := by
  obtain ⟨steps, hsteps, rfl⟩ := h
  have hparts : ∀ part ∈ steps, IsPart part := fun part hpart => (hsteps part hpart).toIsPart
  refine canonical_normalize hmark ?_
  rw [join_mark hmark hparts ht]
  refine hmark.rootMark ?_
  split
  · exact ht
  · next hne => exact isRooted_join_append hparts hne

/-- The directory of a canonical path is canonical, the root being its own. -/
theorem Canonical.parent (h : Canonical mark p) (hmark : IsMark mark) :
    Canonical mark (parent p) := by
  obtain ⟨steps, hsteps, rfl⟩ := h
  rcases List.eq_nil_or_concat steps with rfl | ⟨above, last, rfl⟩
  · exact ⟨[], nofun, (parent_mark hmark List.not_mem_nil).trans (List.append_nil mark).symm⟩
  · rw [List.concat_eq_append] at hsteps ⊢
    have hslash := (hsteps last (List.mem_append_right _ List.mem_cons_self)).no_slash
    have habove : ∀ part ∈ above, IsStep part :=
      fun part hpart => hsteps part (List.mem_append_left _ hpart)
    refine ⟨above, habove, ?_⟩
    by_cases hnil : above = []
    · rw [hnil, List.nil_append, Text.join, List.intercalate_singleton, parent_mark hmark hslash]
      simp [Text.join]
    · have hfront : mark ++ Text.join ['/'] (above ++ [last]) =
          (mark ++ Text.join ['/'] above) ++ '/' :: last := by
        rw [Text.join_append hnil (List.cons_ne_nil _ _)]
        simp [Text.join]
      rw [hfront]
      refine parent_append hslash (getLast?_join_parts hmark (fun part hpart =>
        (habove part hpart).toIsPart) hnil) ?_
      rcases hmark with rfl | rfl <;> exact List.cons_ne_nil _ _

/-- **A reference in a canonical file leads to a canonical file.** -/
theorem Canonical.resolve? {root referrer reference : Text} (hreferrer : Canonical mark referrer)
    (hroot : Canonical mark root) (hmark : IsMark mark)
    (h : Reference.resolve? reference referrer root = some p) :
    Canonical mark p := by
  unfold Reference.resolve? at h
  dsimp only at h
  split at h
  · cases h
  · split at h
    · cases h
      refine hroot.normalize_join hmark ?_
      have hhead := List.head?_dropWhile_not (· = '/') (Reference.withoutSuffix reference)
      unfold isRooted
      cases hc : ((Reference.withoutSuffix reference).dropWhile (· = '/')).head? with
      | none => rfl
      | some c =>
        rw [hc] at hhead
        simpa using hhead
    · next hrooted =>
      cases h
      exact (hreferrer.parent hmark).normalize_join hmark (Bool.eq_false_iff.2 hrooted)

/-- A listed file is canonical if the directory is. -/
theorem Canonical.pathBelow {directory : Path} (h : Canonical mark directory) (hmark : IsMark mark)
    {parts : List Text} (hparts : ∀ part ∈ parts, FileSystem.IsName part) :
    Canonical mark (Build.pathBelow directory parts) := by
  unfold Build.pathBelow
  split
  · exact h
  · next hne =>
    obtain ⟨steps, hsteps, rfl⟩ := h
    have hbelow : ∀ part ∈ parts, IsStep part := fun part hpart =>
      ⟨⟨(hparts part hpart).ne_nil, (hparts part hpart).ne_here, (hparts part hpart).no_slash⟩,
        (hparts part hpart).ne_up⟩
    refine ⟨steps ++ parts, fun part hpart => (List.mem_append.1 hpart).elim
      (hsteps part) (hbelow part), ?_⟩
    rw [join_mark hmark (fun part hpart => (hsteps part hpart).toIsPart)
      (isRooted_join_parts fun part hpart => (hbelow part hpart).toIsPart)]
    split
    · next hnil => rw [hnil, List.nil_append]
    · next hsome =>
      rw [Text.join_append hsome hne]
      simp

/-- A word without slashes at the end of a path is at the end of the last part. -/
theorem isSuffix_of_front {front last word : Path} (hfront : front.getLast? = some '/')
    (hword : '/' ∉ word) (h : word <:+ front ++ last) : word <:+ last := by
  rcases List.suffix_or_suffix_of_suffix h
    (List.suffix_append front last) with hsuffix | ⟨rest, hrest⟩
  · exact hsuffix
  · obtain ⟨before, hbefore⟩ := h
    rw [← hrest, ← List.append_assoc] at hbefore
    have heq : before ++ rest = front := List.append_cancel_right hbefore
    rcases List.eq_nil_or_concat rest with rfl | ⟨rest, c, rfl⟩
    · exact ⟨[], hrest.symm⟩
    · rw [← heq, List.concat_eq_append, ← List.append_assoc, List.getLast?_concat] at hfront
      cases hfront
      exact absurd (by simp [← hrest]) hword

theorem isStep_append_css {stem : Text} (h : '/' ∉ stem) : IsStep (stem ++ ".css".toList) := by
  have hlong : ∀ part : Text, part.length < 4 → stem ++ ".css".toList ≠ part := by
    rintro part hshort rfl
    rw [List.length_append] at hshort
    exact absurd hshort (Nat.not_lt.2 (Nat.le_add_left ..))
  refine ⟨⟨hlong [] (by decide), hlong here (by decide), ?_⟩, hlong up (by decide)⟩
  rw [List.mem_append, not_or]
  exact ⟨h, by decide⟩

/-- The stylesheet behind a canonical proxy is canonical. -/
theorem Canonical.styleSource? (h : Canonical mark p) (hmark : IsMark mark) {source : Path}
    (hs : Script.styleSource? p = some source) : Canonical mark source := by
  obtain ⟨hsource, name, rfl⟩ := Script.of_styleSource? hs
  obtain ⟨steps, hsteps, rfl⟩ := h
  rcases List.eq_nil_or_concat steps with rfl | ⟨above, last, rfl⟩
  · -- the root is no proxy, as it ends with a slash
    have hend : mark.getLast? = some 's' := by
      rw [← List.append_nil mark]
      exact (congrArg List.getLast? hsource).trans (by rw [List.getLast?_append]; rfl)
    rw [hmark.getLast?] at hend
    exact absurd hend (by decide)
  · rw [List.concat_eq_append] at hsteps hsource
    -- the suffix of a proxy has no slash, so it is cut off from the last
    -- part, whose stem stays a step
    obtain ⟨front, hslash, hfront⟩ := exists_front hmark above
    rw [hfront, List.append_assoc] at hsource
    obtain ⟨stem, rfl⟩ := isSuffix_of_front hslash (by decide) ⟨name, hsource.symm⟩
    have hname : front ++ stem = name := by
      rw [← List.append_assoc] at hsource
      exact List.append_cancel_right hsource
    have hlast := hsteps _ (List.mem_append_right _ List.mem_cons_self)
    have hcss := isStep_append_css fun hc => hlast.no_slash (List.mem_append_left _ hc)
    refine ⟨above ++ [stem ++ ".css".toList], fun part hpart => ?_, ?_⟩
    · rcases List.mem_append.1 hpart with hpart | hpart
      · exact hsteps part (List.mem_append_left _ hpart)
      · rw [List.mem_singleton.1 hpart]
        exact hcss
    · rw [hfront, ← hname, List.append_assoc]

/-- The parts of a canonical path are those that it is made of. -/
theorem absoluteParts_mark {steps : List Text} (hmark : IsMark mark)
    (h : ∀ part ∈ steps, IsStep part) :
    absoluteParts (mark ++ Text.join ['/'] steps) = steps := by
  have hparts : parts (mark ++ Text.join ['/'] steps) = steps := by
    have hjoin := parts_join_parts fun part hpart => (h part hpart).toIsPart
    rcases hmark with rfl | rfl
    · exact (parts_cons_slash _).trans hjoin
    · exact (parts_cons_slash _).trans ((parts_cons_slash _).trans hjoin)
  rw [absoluteParts_eq, hparts, follow_of_down fun part hpart => (h part hpart).ne_up]
  simp

theorem Canonical.eq_of_absoluteParts (hp : Canonical mark p) (hq : Canonical mark q)
    (hmark : IsMark mark) (h : absoluteParts p = absoluteParts q) : p = q := by
  obtain ⟨steps, hsteps, rfl⟩ := hp
  obtain ⟨steps', hsteps', rfl⟩ := hq
  rw [absoluteParts_mark hmark hsteps, absoluteParts_mark hmark hsteps'] at h
  rw [h]

/-- **Canonical paths with the same URL are the same.** -/
theorem Canonical.eq_of_relativeTo (hp : Canonical mark p) (hq : Canonical mark q)
    (hmark : IsMark mark) {root : Path} (h : relativeTo root p = relativeTo root q) : p = q := by
  refine hp.eq_of_absoluteParts hq hmark ?_
  rw [← absoluteParts_join_relativeTo root p, h, absoluteParts_join_relativeTo]

end Canonical

end Path

namespace FileSystem

open SiteOptimizer.Path

/-! ## The places of canonical paths -/

variable {fs : FileSystem} {place found : Place}

/-- Steps down lead where they say, if they lead anywhere. -/
theorem place_of_follow {steps : List Text} (h : ∀ part ∈ steps, IsStep part)
    (hfollow : fs.follow place steps = .ok found) : found = place ++ steps := by
  induction steps generalizing place with
  | nil =>
    cases hfollow
    exact (List.append_nil _).symm
  | cons part steps ih =>
    have hpart := h part List.mem_cons_self
    unfold FileSystem.follow at hfollow
    split at hfollow
    · rw [if_neg (by simp [hpart.ne_nil, hpart.ne_here]), if_neg hpart.ne_up] at hfollow
      split at hfollow
      · cases hfollow
      · rw [ih (fun p hp => h p (List.mem_cons_of_mem _ hp)) hfollow, List.append_assoc,
          List.singleton_append]
    · split at hfollow <;> cases hfollow

theorem follow_cons_nil {parts : List Text} (h : fs.follow place ([] :: parts) = .ok found) :
    fs.follow place parts = .ok found := by
  unfold FileSystem.follow at h
  split at h
  · rwa [if_pos (by simp)] at h
  · split at h <;> cases h

/-- **A canonical path can be opened nowhere but at its parts.** -/
theorem place_of_locate {mark : Text} {steps : List Text} (hmark : IsMark mark)
    (h : ∀ part ∈ steps, IsStep part)
    (hl : fs.locate (mark ++ Text.join ['/'] steps) = .ok place) : place = steps := by
  have hslash : ∀ t, Text.splitOn '/' ('/' :: t) = [] :: Text.splitOn '/' t :=
    Text.splitOn_append '/' []
  obtain ⟨-, hfollow⟩ := locate_ok hl
  have hsteps : fs.follow [] (Text.splitOn '/' (Text.join ['/'] steps)) = .ok place := by
    rcases hmark with rfl | rfl
    · rw [List.singleton_append, hslash] at hfollow
      exact follow_cons_nil hfollow
    · rw [List.cons_append, List.singleton_append, hslash, hslash] at hfollow
      exact follow_cons_nil (follow_cons_nil hfollow)
  by_cases hnil : steps = []
  · subst hnil
    cases follow_cons_nil hsteps
    rfl
  · rw [Text.splitOn_join hnil fun part hpart => (h part hpart).no_slash] at hsteps
    exact place_of_follow h hsteps

end FileSystem

/-- **Canonical paths that can be opened at the same place are the same.** -/
theorem Path.Canonical.eq_of_locate {mark : Text} {p q : Path} (hp : Canonical mark p)
    (hq : Canonical mark q) (hmark : IsMark mark) {fs : FileSystem} {place : Place}
    (hl : fs.locate p = .ok place) (hl' : fs.locate q = .ok place) : p = q := by
  obtain ⟨steps, hsteps, rfl⟩ := hp
  obtain ⟨steps', hsteps', rfl⟩ := hq
  rw [← FileSystem.place_of_locate hmark hsteps hl, FileSystem.place_of_locate hmark hsteps' hl']

end SiteOptimizer
