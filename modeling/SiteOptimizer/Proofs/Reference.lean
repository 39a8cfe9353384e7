import Mathlib.Data.List.TakeWhile
import SiteOptimizer.Reference
import SiteOptimizer.Proofs.Path

/-!
# The URL of a file and the file of a URL

`Reference.projectUrl?` writes the rooted URL of a file and `Reference.resolve?` reads it again.
What is read is `Path.relink`: another path to the same place, which is the same one for all paths
to that place. So reading and writing once more changes nothing.
-/

namespace SiteOptimizer

namespace Path

/-- A file by the path that its URL names. -/
def relink (root p : Path) : Path :=
  normalize (join root (relativeTo root p))

/-- What a relative path is written with. -/
theorem mem_relativeTo {root p : Path} {c : Char} (h : c ∈ relativeTo root p) :
    c = '.' ∨ c = '/' ∨ c ∈ p := by
  rw [relativeTo_eq] at h
  split at h
  · rw [List.mem_singleton.1 h]
    exact .inl rfl
  · rcases Text.mem_join h with h | ⟨part, hpart, hc⟩
    · rw [List.mem_singleton.1 h]
      exact .inr (.inl rfl)
    · rcases mem_stepsTo hpart with rfl | hpart
      · left
        revert hc
        simp [up]
      · exact .inr (.inr (mem_of_mem_parts hpart hc))

/-- Paths to the same place have the same URL. -/
theorem relativeTo_congr {root p q : Path} (h : absoluteParts p = absoluteParts q) :
    relativeTo root p = relativeTo root q := by
  rw [relativeTo_eq, relativeTo_eq, stepsTo, stepsTo, h]

/-- The URL of a file names the place of the file. -/
theorem absoluteParts_relink (root p : Path) : absoluteParts (relink root p) = absoluteParts p := by
  rw [relink, absoluteParts_normalize, absoluteParts_join_relativeTo]

theorem relink_congr {root p q : Path} (h : absoluteParts p = absoluteParts q) :
    relink root p = relink root q := by
  rw [relink, relink, relativeTo_congr h]

/-- **Relinking twice is relinking once.** -/
theorem relink_relink (root p : Path) : relink root (relink root p) = relink root p :=
  relink_congr (absoluteParts_relink root p)

end Path

namespace Reference

open SiteOptimizer.Path

/-- A rooted URL is read as what it says, if nothing of it is cut off. -/
theorem resolve?_slash {steps : Path} (page root : Path) (hrooted : isRooted steps = false)
    (hmark : ∀ c ∈ steps, c ≠ '?' ∧ c ≠ '#')
    (hlast : ∀ c, steps.getLast? = some c → Text.isBlank c = false) :
    resolve? ('/' :: steps) page root = some (normalize (join root steps)) := by
  have hstrip : Text.strip ('/' :: steps) = '/' :: steps := by
    have hslash : Text.isBlank '/' = false := by decide
    rw [Text.strip, Text.trim, List.dropWhile_cons_of_neg (by simp [hslash])]
    refine Text.dropEndWhile_eq_self fun c hc => ?_
    cases steps with
    | nil => cases hc; exact hslash
    | cons d steps => exact hlast c (by simpa using hc)
  have hsuffix : withoutSuffix ('/' :: steps) = '/' :: steps := by
    rw [withoutSuffix, hstrip]
    refine List.takeWhile_eq_self_iff.2 fun c hc => ?_
    rcases List.mem_cons.1 hc with rfl | hc
    · decide
    · simp [hmark c hc]
  -- a second slash would make the reference lead to another host
  have hhead : ∀ c rest, steps = c :: rest → c ≠ '/' := by
    rintro c rest rfl rfl
    cases hrooted
  have hlocal : isRemote ('/' :: steps) = false := by
    cases steps with
    | nil => rfl
    | cons c steps =>
      have hc := hhead c steps rfl
      unfold isRemote
      split
      · next heq =>
        cases heq
        exact absurd rfl hc
      · next heq => cases heq; rfl
      · next heq => cases heq
  have hdrop : ('/' :: steps).dropWhile (· = '/') = steps := by
    cases steps with
    | nil => rfl
    | cons c steps => simp [hhead c steps rfl]
  unfold resolve?
  dsimp only
  rw [hsuffix, hlocal, hdrop]
  rfl

theorem projectUrl?_eq {p : Path} (hp : p ≠ []) (root : Path) :
    projectUrl? p root = some ('/' :: relativeTo root p) := by
  have hdrop : (relativeTo root p).dropWhile (· = '/') = relativeTo root p := by
    have hrooted := isRooted_relativeTo root p
    cases hrel : relativeTo root p with
    | nil => rfl
    | cons c steps =>
      rw [hrel] at hrooted
      have hc : c ≠ '/' := by
        rintro rfl
        cases hrooted
      simp [hc]
  rw [projectUrl?, if_neg hp, hdrop]

/-- **The URL of a file is read as the file, relinked.** -/
theorem resolve?_projectUrl {p : Path} (page root : Path)
    (hp : ∀ c ∈ p, Text.isBlank c = false ∧ c ≠ '?' ∧ c ≠ '#') :
    resolve? ('/' :: relativeTo root p) page root = some (relink root p) := by
  have hclean : ∀ c ∈ relativeTo root p, Text.isBlank c = false ∧ c ≠ '?' ∧ c ≠ '#' := by
    intro c hc
    rcases mem_relativeTo hc with rfl | rfl | hc
    · decide
    · decide
    · exact hp c hc
  exact resolve?_slash page root (isRooted_relativeTo root p) (fun c hc => (hclean c hc).2)
    fun c hc => (hclean c (List.mem_of_getLast? hc)).1

end Reference
end SiteOptimizer
