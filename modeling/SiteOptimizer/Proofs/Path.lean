import SiteOptimizer.Path
import SiteOptimizer.Proofs.Text

/-!
# Paths and their parts

Two paths that lead to the same place from the root have the same `Path.absoluteParts`.
Normalizing a path keeps them, and the path from a directory to a file leads to the file when it
is followed from that directory.
-/

namespace SiteOptimizer

namespace Path

/-- What a part of a path can be if it names something. -/
structure IsPart (part : Text) : Prop where
  ne_nil : part ≠ []
  ne_here : part ≠ here
  no_slash : '/' ∉ part

theorem isPart_of_mem_parts {p : Path} {part : Text} (h : part ∈ parts p) : IsPart part := by
  rw [parts, List.mem_filter] at h
  obtain ⟨hsplit, hkeep⟩ := h
  simp only [Bool.and_eq_true, ne_eq, decide_not, Bool.not_eq_eq_eq_not,
    Bool.not_true, decide_eq_false_iff_not] at hkeep
  exact ⟨hkeep.1, hkeep.2, fun hslash => (Text.mem_of_mem_splitOn hsplit hslash).1 rfl⟩

theorem mem_of_mem_parts {p : Path} {part : Text} {c : Char} (h : part ∈ parts p)
    (hc : c ∈ part) : c ∈ p :=
  (Text.mem_of_mem_splitOn (List.mem_filter.1 h).1 hc).2

theorem parts_append (a b : Path) : parts (a ++ '/' :: b) = parts a ++ parts b := by
  rw [parts, Text.splitOn_append, List.filter_append]
  rfl

theorem parts_cons_slash (p : Path) : parts ('/' :: p) = parts p := by
  have h := parts_append [] p
  rw [List.nil_append] at h
  rw [h]
  rfl

/-- Parts that have been joined are found again. -/
theorem parts_join_parts {steps : List Text} (h : ∀ part ∈ steps, IsPart part) :
    parts (Text.join ['/'] steps) = steps := by
  cases steps with
  | nil => rfl
  | cons a steps =>
    rw [parts, Text.splitOn_join (by simp) fun part hp => (h part hp).no_slash]
    refine List.filter_eq_self.2 fun part hp => ?_
    simp [(h part hp).ne_nil, (h part hp).ne_here]

/-- A path seen from a directory has the parts of both, unless it is rooted. -/
theorem parts_join {base p : Path} (hp : isRooted p = false) :
    parts (join base p) = parts base ++ parts p := by
  rw [join, if_neg (by rw [hp]; simp)]
  split
  · next h =>
    rcases List.eq_nil_or_concat base with rfl | ⟨a, c, rfl⟩
    · rfl
    · have hc : c = '/' := by simpa using h
      rw [hc, List.concat_eq_append, List.append_assoc, List.singleton_append, parts_append]
      have ha := parts_append a []
      rw [ha, show parts [] = [] from rfl, List.append_nil]
  · exact parts_append base p

/-! ## Following parts from the root -/

/-- The parts of the place that is reached from `above` over some parts;
both are given last part first. -/
def follow (above : List Text) (steps : List Text) : List Text :=
  steps.foldl (descend true) above

theorem follow_append (above a b : List Text) : follow above (a ++ b) = follow (follow above a) b :=
  List.foldl_append ..

theorem descend_of_ne {rooted : Bool} {above : List Text} {part : Text} (h : part ≠ up) :
    descend rooted above part = part :: above :=
  if_pos h

theorem descend_up_cons {rooted : Bool} {top : Text} {rest : List Text} (h : top ≠ up) :
    descend rooted (top :: rest) up = rest := by
  simp [descend, h]

/-- Steps down are kept as they are. -/
theorem follow_of_down {above steps : List Text} (h : ∀ part ∈ steps, part ≠ up) :
    follow above steps = steps.reverse ++ above := by
  induction steps generalizing above with
  | nil => rfl
  | cons part steps ih =>
    rw [follow, List.foldl_cons, descend_of_ne (h part List.mem_cons_self)]
    have hrest := @ih (part :: above) fun p hp => h p (List.mem_cons_of_mem part hp)
    rw [follow] at hrest
    rw [hrest]
    simp

/-- As many steps up as there have been steps down lead back. -/
theorem follow_ups {above below : List Text} (h : ∀ part ∈ below, part ≠ up) :
    follow (below ++ above) (List.replicate below.length up) = above := by
  induction below with
  | nil => rfl
  | cons part below ih =>
    rw [List.length_cons, List.replicate_succ, follow, List.foldl_cons, List.cons_append,
      descend_up_cons (h part List.mem_cons_self)]
    exact ih fun p hp => h p (List.mem_cons_of_mem part hp)

/-- From the root no step up is left. -/
theorem ne_up_of_mem_follow {above steps : List Text} (habove : ∀ part ∈ above, part ≠ up) :
    ∀ part ∈ follow above steps, part ≠ up := by
  induction steps generalizing above with
  | nil => exact habove
  | cons step steps ih =>
    refine @ih (descend true above step) fun part hp => ?_
    unfold descend at hp
    split at hp
    · next hstep =>
      rcases List.mem_cons.1 hp with rfl | hp
      · exact hstep
      · exact habove part hp
    · split at hp
      · cases hp
      · next top rest =>
        rw [if_neg (habove top List.mem_cons_self)] at hp
        exact habove part (List.mem_cons_of_mem top hp)

/-- What is followed comes from the steps. -/
theorem mem_of_mem_descend {rooted : Bool} {above : List Text} {step part : Text}
    (h : part ∈ descend rooted above step) : part ∈ step :: above := by
  unfold descend at h
  split at h
  · exact h
  · next hup =>
    have hup : step = up := by simpa using hup
    split at h
    · split at h
      · cases h
      · simpa [hup] using h
    · next top rest =>
      split at h
      · rw [hup]
        exact h
      · exact List.mem_cons_of_mem _ (List.mem_cons_of_mem _ h)

theorem mem_of_mem_foldl_descend {rooted : Bool} {above steps : List Text} {part : Text}
    (h : part ∈ steps.foldl (descend rooted) above) : part ∈ steps ∨ part ∈ above := by
  induction steps generalizing above with
  | nil => exact .inr h
  | cons step steps ih =>
    rcases ih h with h | h
    · exact .inl (List.mem_cons_of_mem step h)
    · rcases List.mem_cons.1 (mem_of_mem_descend h) with rfl | h
      · exact .inl List.mem_cons_self
      · exact .inr h

theorem mem_parts_of_mem_normalParts {p : Path} {part : Text} (h : part ∈ normalParts p) :
    part ∈ parts p := by
  rcases mem_of_mem_foldl_descend (List.mem_reverse.1 h) with h | h
  · exact h
  · cases h

/-- Leaving out what a relative path walks back and forth does not change where it leads. The
induction is on the parts from the last one on. -/
theorem follow_normal (above steps : List Text) :
    follow above (steps.foldl (descend false) []).reverse = follow above steps := by
  induction hs : steps.reverse generalizing steps with
  | nil =>
    rw [List.reverse_eq_nil_iff.1 hs]
    rfl
  | cons part before ih =>
    have hsteps : steps = before.reverse ++ [part] := by
      rw [← List.reverse_reverse steps, hs, List.reverse_cons]
    have hbefore := ih before.reverse (List.reverse_reverse before)
    rw [hsteps, List.foldl_append, follow_append, ← hbefore, List.foldl_cons, List.foldl_nil]
    generalize before.reverse.foldl (descend false) [] = stack
    -- two dots cancel the step above them, unless that is two dots itself
    by_cases hpart : part = up
    · cases stack with
      | nil => rw [hpart]; rfl
      | cons top rest =>
        by_cases htop : top = up
        · rw [show descend false (top :: rest) part =
            up :: up :: rest by simp [descend, hpart, htop],
            List.reverse_cons, follow_append, htop, hpart]
        · rw [hpart, descend_up_cons htop, List.reverse_cons, follow_append]
          rw [show follow (follow above rest.reverse) [top] = top :: follow above rest.reverse from
            descend_of_ne htop]
          exact (if_neg htop).symm
    · rw [descend_of_ne hpart, List.reverse_cons, follow_append]

/-! ## The place of a path -/

theorem rootMark_cases (p : Path) :
    (isRooted p = true ∧ (rootMark p = ['/'] ∨ rootMark p = ['/', '/'])) ∨
      (isRooted p = false ∧ rootMark p = []) := by
  unfold rootMark
  split
  · exact .inl ⟨rfl, .inl rfl⟩
  · exact .inl ⟨rfl, .inr rfl⟩
  · exact .inl ⟨rfl, .inl rfl⟩
  · next hslash =>
    refine .inr ⟨?_, rfl⟩
    cases p with
    | nil => rfl
    | cons c p =>
      have hc : c ≠ '/' := by
        rintro rfl
        exact hslash p rfl
      simp [isRooted, hc]

/-- The normal form of a path has the parts that are kept. -/
theorem parts_normalize (p : Path) : parts (normalize p) = normalParts p := by
  have hparts : ∀ part ∈ normalParts p, IsPart part := fun part h =>
    isPart_of_mem_parts (mem_parts_of_mem_normalParts h)
  have hjoin := parts_join_parts hparts
  unfold normalize
  dsimp only
  split
  · next h =>
    rw [(List.append_eq_nil_iff.1 h).2] at hjoin
    rw [← hjoin]
    rfl
  · rcases rootMark_cases p with ⟨-, hmark | hmark⟩ | ⟨-, hmark⟩ <;> rw [hmark]
    · exact (parts_cons_slash _).trans hjoin
    · exact (parts_cons_slash _).trans ((parts_cons_slash _).trans hjoin)
    · exact hjoin

/-- Joined parts do not start with a slash. -/
theorem isRooted_join_parts {steps : List Text} (h : ∀ part ∈ steps, IsPart part) :
    isRooted (Text.join ['/'] steps) = false := by
  cases steps with
  | nil => rfl
  | cons part steps =>
    obtain ⟨hne, -, hslash⟩ := h part List.mem_cons_self
    cases part with
    | nil => exact absurd rfl hne
    | cons c part =>
      have hc : c ≠ '/' := by
        rintro rfl
        exact hslash List.mem_cons_self
      cases steps with
      | nil => simp [isRooted, Text.join, hc]
      | cons b steps =>
        rw [Text.join, List.intercalate_cons_cons]
        simp [isRooted, hc]

/-- What is joined from some parts, without empty pieces. -/
theorem filter_splitOn_join {steps : List Text} (h : ∀ part ∈ steps, IsPart part) :
    (Text.splitOn '/' (Text.join ['/'] steps)).filter (· ≠ []) = steps := by
  cases steps with
  | nil => rfl
  | cons a steps =>
    rw [Text.splitOn_join (by simp) fun part hp => (h part hp).no_slash]
    refine List.filter_eq_self.2 fun part hp => ?_
    simp [(h part hp).ne_nil]

theorem filter_splitOn_cons_slash (p : Path) :
    (Text.splitOn '/' ('/' :: p)).filter (· ≠ []) = (Text.splitOn '/' p).filter (· ≠ []) := by
  have h := Text.splitOn_append '/' [] p
  rw [List.nil_append] at h
  rw [h]
  rfl

theorem isRooted_absolute_base (p : Path) :
    isRooted (join ['/'] p) = true ∧ parts (join ['/'] p) = parts p := by
  cases hp : isRooted p with
  | true => simp [join, hp]
  | false =>
    refine ⟨?_, parts_join hp⟩
    rw [join, hp]
    rfl

/-- **The place of a path is what its parts lead to from the root.** -/
theorem absoluteParts_eq (p : Path) : absoluteParts p = (follow [] (parts p)).reverse := by
  obtain ⟨hrooted, hparts⟩ := isRooted_absolute_base p
  have hnormal : normalParts (join ['/'] p) = (follow [] (parts p)).reverse := by
    rw [normalParts, hrooted, hparts]
    rfl
  have hall : ∀ part ∈ normalParts (join ['/'] p), IsPart part := fun part h =>
    isPart_of_mem_parts (mem_parts_of_mem_normalParts h)
  rw [← hnormal, absoluteParts, absolute, normalize]
  rcases rootMark_cases (join ['/'] p) with ⟨-, hmark | hmark⟩ | ⟨hnot, -⟩
  · rw [hmark, if_neg (by simp), List.singleton_append, filter_splitOn_cons_slash,
      filter_splitOn_join hall]
  · rw [hmark, if_neg (by simp), List.cons_append, List.singleton_append, filter_splitOn_cons_slash,
      filter_splitOn_cons_slash, filter_splitOn_join hall]
  · rw [hrooted] at hnot
    cases hnot

theorem ne_up_of_mem_absoluteParts {p : Path} {part : Text}
    (h : part ∈ absoluteParts p) : part ≠ up := by
  rw [absoluteParts_eq] at h
  exact ne_up_of_mem_follow (by simp) part (List.mem_reverse.1 h)

theorem mem_parts_of_mem_absoluteParts {p : Path} {part : Text} (h : part ∈ absoluteParts p) :
    part ∈ parts p := by
  rw [absoluteParts_eq] at h
  rcases mem_of_mem_foldl_descend (List.mem_reverse.1 h) with h | h
  · exact h
  · cases h

/-- **Normalizing a path does not change its place.** -/
theorem absoluteParts_normalize (p : Path) : absoluteParts (normalize p) = absoluteParts p := by
  rw [absoluteParts_eq, absoluteParts_eq, parts_normalize, normalParts]
  cases isRooted p with
  | false => rw [follow_normal]
  | true =>
    have hdown : ∀ part ∈ ((parts p).foldl (descend true) []).reverse, part ≠ up := fun part h =>
      ne_up_of_mem_follow (by simp) part (List.mem_reverse.1 h)
    rw [follow_of_down hdown]
    simp [follow]

/-! ## Relative paths -/

theorem dropCommon_eq (a b : List Text) :
    ∃ common, a = common ++ (dropCommon a b).1 ∧ b = common ++ (dropCommon a b).2 := by
  fun_induction dropCommon a b with
  | case1 as x bs ih =>
    obtain ⟨common, ha, hb⟩ := ih
    exact ⟨x :: common, by rw [List.cons_append, ← ha], by rw [List.cons_append, ← hb]⟩
  | case2 as x bs y h => exact ⟨[], rfl, rfl⟩
  | case3 as bs h => exact ⟨[], rfl, rfl⟩

/-- The steps from one place to another. -/
def stepsTo (base p : Path) : List Text :=
  (dropCommon (absoluteParts base) (absoluteParts p)).1.map (fun _ => up) ++
    (dropCommon (absoluteParts base) (absoluteParts p)).2

theorem isPart_up : IsPart up :=
  ⟨by decide, by decide, by decide⟩

theorem mem_stepsTo {base p : Path} {part : Text} (h : part ∈ stepsTo base p) :
    part = up ∨ part ∈ parts p := by
  obtain ⟨common, -, hp⟩ := dropCommon_eq (absoluteParts base) (absoluteParts p)
  rcases List.mem_append.1 h with h | h
  · obtain ⟨-, -, rfl⟩ := List.mem_map.1 h
    exact .inl rfl
  · refine .inr (mem_parts_of_mem_absoluteParts ?_)
    rw [hp]
    exact List.mem_append_right common h

theorem isPart_of_mem_stepsTo {base p : Path} : ∀ part ∈ stepsTo base p, IsPart part := by
  intro part h
  rcases mem_stepsTo h with rfl | h
  · exact isPart_up
  · exact isPart_of_mem_parts h

theorem relativeTo_eq (base p : Path) :
    relativeTo base p = if stepsTo base p = [] then here else Text.join ['/'] (stepsTo base p) := by
  unfold relativeTo stepsTo
  dsimp only
  split
  · next h => rw [if_pos h]
  · next h => rw [if_neg h]

theorem isRooted_relativeTo (base p : Path) : isRooted (relativeTo base p) = false := by
  rw [relativeTo_eq]
  split
  · rfl
  · exact isRooted_join_parts isPart_of_mem_stepsTo

theorem parts_relativeTo (base p : Path) : parts (relativeTo base p) = stepsTo base p := by
  rw [relativeTo_eq]
  split
  · next h => rw [h]; rfl
  · exact parts_join_parts isPart_of_mem_stepsTo

/-- **The path from a directory to a file leads from the directory to the place of the file.** -/
theorem absoluteParts_join_relativeTo (base p : Path) :
    absoluteParts (join base (relativeTo base p)) = absoluteParts p := by
  obtain ⟨common, ha, hb⟩ := dropCommon_eq (absoluteParts base) (absoluteParts p)
  have hbase : follow [] (parts base) = (absoluteParts base).reverse := by
    rw [absoluteParts_eq, List.reverse_reverse]
  rw [absoluteParts_eq, parts_join (isRooted_relativeTo base p), parts_relativeTo, follow_append,
    hbase, stepsTo, follow_append]
  generalize (dropCommon (absoluteParts base) (absoluteParts p)).1 = a at ha
  generalize (dropCommon (absoluteParts base) (absoluteParts p)).2 = b at hb
  have hups : follow (absoluteParts base).reverse (a.map fun _ => up) = common.reverse := by
    have hdown : ∀ part ∈ a.reverse, part ≠ up := fun part h =>
      ne_up_of_mem_absoluteParts (p := base)
        (ha ▸ List.mem_append_right common (List.mem_reverse.1 h))
    rw [ha, List.reverse_append, List.map_const', ← List.length_reverse]
    exact follow_ups hdown
  have hdown : ∀ part ∈ b, part ≠ up := fun part h =>
    ne_up_of_mem_absoluteParts (p := p) (hb ▸ List.mem_append_right common h)
  rw [hups, follow_of_down hdown, hb]
  simp

/-! ## Suffixes -/

theorem suffix_isSuffix (p : Path) : suffix p <:+ p := by
  have hname : fileName p <:+ p := by
    rw [fileName, ← List.reverse_prefix, List.reverse_reverse]
    exact List.takeWhile_prefix _
  refine List.IsSuffix.trans ?_ hname
  unfold suffix
  dsimp only
  split
  · next c before hbefore =>
    split
    · have hc : c = '.' := by
        have hhead := List.head?_dropWhile_not (· ≠ '.') (fileName p).reverse
        rw [hbefore] at hhead
        simpa using hhead
      rw [← List.reverse_prefix]
      -- what was read backwards from the end up to the first dot is put forwards again
      have hsplit := List.takeWhile_append_dropWhile (p := (· ≠ '.')) (l := (fileName p).reverse)
      rw [hbefore, hc] at hsplit
      refine ⟨before, ?_⟩
      rw [List.reverse_cons, List.reverse_reverse, List.append_assoc, List.singleton_append]
      exact hsplit
    · exact List.nil_suffix
  · exact List.nil_suffix

end Path
end SiteOptimizer
