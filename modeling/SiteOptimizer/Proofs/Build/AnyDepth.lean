import Mathlib.Data.List.Infix
import SiteOptimizer.Proofs.Build.Listing

/-!
# Globs for files at any depth

A star stands for slashes too, so a mark for any directories in front of a glob stands for
what ends in a slash, but not for nothing. For that an exclude glob has variants, which lose
the marks one by one. Together they describe the paths that the glob behind the marks
describes, as a whole or from behind one of their slashes on, and it makes no difference how
many marks there are (`dropsJust_atAnyDepth`).
-/

namespace SiteOptimizer
namespace Build

open FileSystem

variable {depth slashes : Nat} {glob path : Text}

/-! ## Marks for any directories -/

/-- Marks for any directories in a row. -/
def marks (depth : Nat) : Text :=
  (List.replicate depth anyDirectory).flatten

theorem marks_succ (depth : Nat) : marks (depth + 1) = anyDirectory ++ marks depth := by
  rw [marks, List.replicate_succ, List.flatten_cons, marks]

theorem length_marks (depth : Nat) : (marks depth).length = 3 * depth := by
  induction depth with
  | zero => rfl
  | succ depth ih =>
    have hmark : anyDirectory.length = 3 := rfl
    rw [marks_succ, List.length_append, ih, hmark]
    omega

/-- A glob behind marks for any directories, with slashes in front. -/
def atAnyDepth (slashes depth : Nat) (glob : Text) : Text :=
  List.replicate slashes '/' ++ (marks depth ++ glob)

/-- Whether a glob describes what follows one of the slashes of a path. -/
def MatchesBehind (glob path : Text) : Prop :=
  ∃ front back, path = front ++ '/' :: back ∧ Glob.isMatch glob back = true

/-- Whether a glob describes a path, or what follows one of its slashes. -/
def MatchesPart (glob path : Text) : Prop :=
  Glob.isMatch glob path = true ∨ MatchesBehind glob path

instance (glob path : Text) : Decidable (MatchesBehind glob path) :=
  decidable_of_iff (∃ back ∈ path.tails, back.head? = some '/' ∧
    Glob.isMatch glob back.tail = true) <| by
    constructor
    · rintro ⟨tail, htail, hslash, hmatch⟩
      obtain ⟨front, rfl⟩ := (List.mem_tails _ _).1 htail
      obtain ⟨back, rfl⟩ := List.head?_eq_some_iff.1 hslash
      exact ⟨front, back, rfl, hmatch⟩
    · rintro ⟨front, back, rfl, hmatch⟩
      exact ⟨'/' :: back, (List.mem_tails _ _).2 (List.suffix_append _ _), rfl, hmatch⟩

instance (glob path : Text) : Decidable (MatchesPart glob path) :=
  inferInstanceAs (Decidable (_ ∨ _))

/-! ## What marks describe -/

/-- **A mark for any directories stands for what ends in a slash.** -/
theorem isMatch_anyDirectory_append {glob path : Text} :
    Glob.isMatch (anyDirectory ++ glob) path = true ↔ MatchesBehind glob path := by
  have hpieces : Glob.pieces (anyDirectory ++ glob) = .star :: .star :: .literal '/' ::
      Glob.pieces glob := by
    have hslash : Glob.pieces ('/' :: glob) = .literal '/' :: Glob.pieces glob :=
      Glob.pieces_literal (by decide) (by decide) (by decide) glob
    rw [← hslash]
    rfl
  have hslash : Glob.Piece.literal '/' ≠ .star := nofun
  simp only [MatchesBehind, Glob.isMatch_eq, hpieces, Glob.matchPieces_star,
    Glob.matchPieces_cons hslash]
  constructor
  · rintro ⟨a, -, rfl, b, -, rfl, c, back, rfl, hc, hback⟩
    obtain rfl : c = '/' := of_decide_eq_true hc
    exact ⟨a ++ b, back, (List.append_assoc a b _).symm, hback⟩
  · rintro ⟨front, back, rfl, hback⟩
    exact ⟨front, '/' :: back, rfl, [], '/' :: back, rfl, '/', back, rfl, rfl, hback⟩

/-- What follows a slash of what follows a slash follows a slash. -/
theorem MatchesBehind.of_anyDirectory
    (h : MatchesBehind (anyDirectory ++ glob) path) : MatchesBehind glob path := by
  obtain ⟨front, _, rfl, hmatch⟩ := h
  obtain ⟨inner, back, rfl, hback⟩ := isMatch_anyDirectory_append.1 hmatch
  exact ⟨front ++ '/' :: inner, back, by rw [List.append_assoc, List.cons_append], hback⟩

/-- More marks describe nothing more than one. -/
theorem matchesBehind_of_marks (h : Glob.isMatch (marks (depth + 1) ++ glob) path = true) :
    MatchesBehind glob path := by
  induction depth with
  | zero =>
    have hmark : marks 1 = anyDirectory := List.append_nil _
    rw [hmark] at h
    exact isMatch_anyDirectory_append.1 h
  | succ depth ih =>
    rw [marks_succ, List.append_assoc] at h
    have hbehind := isMatch_anyDirectory_append.1 h
    rw [marks_succ, List.append_assoc] at hbehind
    refine ih ?_
    rw [marks_succ, List.append_assoc]
    exact isMatch_anyDirectory_append.2 hbehind.of_anyDirectory

/-! ## The variants of a glob behind marks -/

theorem mem_withoutDirectories (h : ¬ anyDirectory <+: glob) {limit : Nat} (hlimit : depth ≤ limit)
    {variant : Text} :
    variant ∈ withoutDirectories limit (marks depth ++ glob) ↔
      ∃ n ≤ depth, variant = marks n ++ glob := by
  induction depth generalizing limit with
  | zero =>
    -- nothing is cut off a glob that has no mark in front, whatever the limit
    have hnone : Text.after? anyDirectory glob = none := by
      rw [Option.eq_none_iff_forall_ne_some]
      exact fun rest hrest => h ⟨rest, (Text.after?_eq_some_iff.1 hrest).symm⟩
    have hself : withoutDirectories limit glob = [glob] := by
      cases limit with
      | zero => rfl
      | succ limit => rw [withoutDirectories, hnone]
    have hmarks : marks 0 ++ glob = glob := rfl
    simp [hmarks, hself]
  | succ depth ih =>
    obtain ⟨limit, rfl⟩ : ∃ n, limit = n + 1 := ⟨limit - 1, by omega⟩
    have hcut : Text.after? anyDirectory (marks (depth + 1) ++ glob) =
        some (marks depth ++ glob) := by
      rw [marks_succ, List.append_assoc]
      exact Text.after?_eq_some_iff.2 rfl
    rw [withoutDirectories, hcut, List.mem_cons, ih (Nat.le_of_succ_le_succ hlimit)]
    constructor
    · rintro (rfl | ⟨n, hn, rfl⟩)
      · exact ⟨depth + 1, Nat.le_refl _, rfl⟩
      · exact ⟨n, Nat.le_succ_of_le hn, rfl⟩
    · rintro ⟨n, hn, rfl⟩
      rcases Nat.le_succ_iff.1 hn with hn | rfl
      · exact .inr ⟨n, hn, rfl⟩
      · exact .inl rfl

/-- **A glob behind marks stands for the globs with as many marks or fewer.** -/
theorem mem_globVariants_atAnyDepth (hdepth : 0 < depth) (h : ¬ anyDirectory <+: glob)
    {variant : Text} :
    variant ∈ globVariants (atAnyDepth slashes depth glob) ↔
      ∃ n ≤ depth, variant = marks n ++ glob := by
  obtain ⟨depth, rfl⟩ : ∃ n, depth = n + 1 := ⟨depth - 1, by omega⟩
  have hfront : (atAnyDepth slashes (depth + 1) glob).dropWhile (· = '/') =
      marks (depth + 1) ++ glob := by
    have hslashes : ∀ c ∈ List.replicate slashes '/', decide (c = '/') = true := by simp
    rw [atAnyDepth, List.dropWhile_append_of_pos hslashes, marks_succ]
    rfl
  have hlimit : depth + 1 ≤ (marks (depth + 1) ++ glob).length := by
    rw [List.length_append, length_marks]
    omega
  rw [globVariants, hfront]
  exact mem_withoutDirectories h hlimit

/-- **At any depth, none included**: what the variants describe is what the glob
describes from some part on. -/
theorem exists_variant_iff (hdepth : 0 < depth) (h : ¬ anyDirectory <+: glob) :
    (∃ variant ∈ globVariants (atAnyDepth slashes depth glob), Glob.isMatch variant path = true) ↔
      MatchesPart glob path := by
  simp only [mem_globVariants_atAnyDepth hdepth h]
  constructor
  · rintro ⟨_, ⟨n, -, rfl⟩, hmatch⟩
    cases n with
    | zero => exact .inl hmatch
    | succ n => exact .inr (matchesBehind_of_marks hmatch)
  · rintro (hmatch | hbehind)
    · exact ⟨glob, ⟨0, Nat.zero_le _, rfl⟩, hmatch⟩
    · exact ⟨anyDirectory ++ glob, ⟨1, hdepth, rfl⟩, isMatch_anyDirectory_append.2 hbehind⟩

/-! ## What is dropped from listings -/

/-- Whether an exclude glob drops the files with some property of their paths and no others: a build
of which nothing is excluded is listed as a whole, and whatever else is excluded, the glob takes
those files out of the listing. -/
def DropsJust (glob : Text) (p : Text → Prop) : Prop :=
  ∀ fs : FileSystem, fs.WellFormed → ∀ directory place, directoryPlace fs directory = .ok place →
  Listable fs place → (∃ all, listFiles fs directory [] [] = .ok all ∧
      ∀ path parts, ListedAt fs directory place path parts → path ∈ all) ∧
    ∀ front back metaDir, ∃ others listed,
      listFiles fs directory (front ++ back) metaDir = .ok others ∧
      listFiles fs directory (front ++ glob :: back) metaDir = .ok listed ∧
        ∀ path, path ∈ listed ↔ path ∈ others ∧
          ∀ parts, ListedAt fs directory place path parts → ¬ p (Text.join ['/'] parts)

theorem mem_excludedGlobs_append (front back : List Text) (metaDir variant : Text) :
    variant ∈ excludedGlobs (front ++ glob :: back) metaDir ↔
      variant ∈ globVariants glob ∨ variant ∈ excludedGlobs (front ++ back) metaDir := by
  simp only [excludedGlobs, List.flatMap_append, List.flatMap_cons, List.mem_append]
  constructor
  · rintro ((h | h | h) | h)
    · exact .inr (.inl (.inl h))
    · exact .inl h
    · exact .inr (.inl (.inr h))
    · exact .inr (.inr h)
  · rintro (h | (h | h) | h)
    · exact .inl (.inr (.inl h))
    · exact .inl (.inl h)
    · exact .inl (.inr (.inr h))
    · exact .inr h

/-- An exclude glob drops what its variants describe. -/
theorem dropsJust_variants (glob : Text) :
    DropsJust glob fun path => ∃ variant ∈ globVariants glob, Glob.isMatch variant path = true := by
  intro fs hwf directory place hplace hopen
  have hdirectory : directory ≠ [] := (locate_ok (locate_directory hplace).1).1
  constructor
  · obtain ⟨all, hall, -, -, hmem⟩ := exists_listFiles hwf hplace hopen [] []
    exact ⟨all, hall, fun path parts hat =>
      (hmem path).2 ⟨parts, hat, fun _ hnone => absurd hnone List.not_mem_nil⟩⟩
  · intro front back metaDir
    obtain ⟨others, hothers, -, -, hmemOthers⟩ :=
      exists_listFiles hwf hplace hopen (front ++ back) metaDir
    obtain ⟨listed, hlisted, -, -, hmemListed⟩ :=
      exists_listFiles hwf hplace hopen (front ++ glob :: back) metaDir
    refine ⟨others, listed, hothers, hlisted, fun path => ?_⟩
    -- the two listings differ in the variants of this one glob alone
    simp only [hmemOthers, hmemListed, mem_excludedGlobs_append]
    constructor
    · rintro ⟨parts, hat, hnone⟩
      refine ⟨⟨parts, hat, fun variant hvariant => hnone variant (.inr hvariant)⟩, ?_⟩
      rintro parts' hat' ⟨variant, hvariant, hmatch⟩
      rw [hat'.unique hat hdirectory, hnone variant (.inl hvariant)] at hmatch
      cases hmatch
    · rintro ⟨⟨parts, hat, hothers⟩, hnone⟩
      refine ⟨parts, hat, ?_⟩
      rintro variant (hvariant | hvariant)
      · rw [← Bool.not_eq_true]
        exact fun hmatch => hnone parts hat ⟨variant, hvariant, hmatch⟩
      · exact hothers variant hvariant

/-- **A glob behind marks for any directories drops the files that it describes at some
depth.** At least one mark is needed, and the glob may not start with one itself: the listing
would take that one away, too. -/
theorem dropsJust_atAnyDepth (slashes : Nat) (hdepth : 0 < depth) (h : ¬ anyDirectory <+: glob) :
    DropsJust (atAnyDepth slashes depth glob) (MatchesPart glob) := by
  have hproperty : (fun path => ∃ variant ∈ globVariants (atAnyDepth slashes depth glob),
      Glob.isMatch variant path = true) = MatchesPart glob :=
    funext fun path => propext (exists_variant_iff hdepth h)
  rw [← hproperty]
  exact dropsJust_variants _

/-- A glob with a class and stars of its own, behind a slash and two marks. -/
theorem dropsJust_versionGlob :
    atAnyDepth 1 2 "v[0-9]/?*.js".toList = "/**/**/v[0-9]/?*.js".toList ∧
      DropsJust (atAnyDepth 1 2 "v[0-9]/?*.js".toList) (MatchesPart "v[0-9]/?*.js".toList) ∧
      MatchesPart "v[0-9]/?*.js".toList "v1/x.js".toList ∧
      MatchesPart "v[0-9]/?*.js".toList "a/b/v1/c/x.js".toList ∧
      ¬ MatchesPart "v[0-9]/?*.js".toList "a/bv1/x.js".toList :=
  ⟨by decide, dropsJust_atAnyDepth 1 (by decide)
    (by decide), by decide +kernel, by decide +kernel, by decide +kernel⟩

end Build
end SiteOptimizer
