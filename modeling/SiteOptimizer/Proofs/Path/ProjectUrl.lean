import Mathlib.Data.Set.Function
import SiteOptimizer.Proofs.Path.Canonical

/-!
# The URL of a file names the file

A path in normal form that starts with one slash is the only such path to its place, so relinking it
gives it back. Its URL therefore names it, from whatever file the URL is read, unless the reader
takes a part of the path for a query or a fragment or strips white space off its end
(`resolve_projectUrl`). The URL leads there over steps up where the file is not below the root
directory, and it is a single dot for the root directory itself.
-/

namespace SiteOptimizer

namespace Path

/-- A path in normal form that starts with one slash. -/
structure IsAbsolute (p : Path) : Prop where
  normalize_eq : normalize p = p
  rootMark_eq : rootMark p = ['/']

theorem isMark_slash : IsMark ['/'] := .inl rfl

theorem IsAbsolute.canonical {p : Path} (h : IsAbsolute p) : Canonical ['/'] p := by
  have hcanonical := canonical_normalize isMark_slash h.rootMark_eq
  rwa [h.normalize_eq] at hcanonical

/-- **Relinking leaves canonical paths as they are.** -/
theorem Canonical.relink_eq {mark : Text} {root p : Path} (hroot : Canonical mark root)
    (hp : Canonical mark p) (hmark : IsMark mark) : relink root p = p :=
  (hroot.normalize_join hmark (isRooted_relativeTo root p)).eq_of_absoluteParts hp hmark
    (absoluteParts_relink root p)

/-- The last step to a place leads up, or it is the last part of the place. -/
theorem getLast?_stepsTo {base p : Path} {part : Text} (h : (stepsTo base p).getLast? = some part) :
    part = up ∨ (absoluteParts p).getLast? = some part := by
  obtain ⟨common, -, hp⟩ := dropCommon_eq (absoluteParts base) (absoluteParts p)
  rw [stepsTo] at h
  generalize (dropCommon (absoluteParts base) (absoluteParts p)).2 = below at h hp
  by_cases hbelow : below = []
  · rw [hbelow, List.append_nil] at h
    obtain ⟨-, -, rfl⟩ := List.mem_map.1 (List.mem_of_getLast? h)
    exact .inl rfl
  · rw [List.getLast?_append_of_ne_nil _ hbelow] at h
    rw [hp, List.getLast?_append_of_ne_nil _ hbelow]
    exact .inr h

/-- A relative path ends as the path does, or with the dot of a step up or
of the directory itself. -/
theorem Canonical.getLast?_relativeTo {mark : Text} {p : Path} (hp : Canonical mark p)
    (hmark : IsMark mark) (root : Path) {c : Char} (h : (relativeTo root p).getLast? = some c) :
    c = '.' ∨ p.getLast? = some c := by
  -- the last step is one upwards or the last name of the path
  have hstep : ∀ last, (stepsTo root p).getLast? = some last → last.getLast? = some c →
      c = '.' ∨ p.getLast? = some c := by
    intro last hlast hc
    rcases getLast?_stepsTo hlast with rfl | hlast
    · cases hc
      exact .inl rfl
    · obtain ⟨steps, hsteps, rfl⟩ := hp
      rw [absoluteParts_mark hmark hsteps] at hlast
      obtain ⟨above, rfl⟩ := List.getLast?_eq_some_iff.1 hlast
      obtain ⟨front, -, hfront⟩ := exists_front hmark above
      right
      rw [hfront, List.getLast?_append_of_ne_nil _ (List.ne_nil_of_mem (List.mem_of_getLast? hc)),
        hc]
  rw [relativeTo_eq] at h
  split at h
  · cases h
    exact .inl rfl
  · next hne =>
    obtain ⟨above, last, hlast⟩ := (List.eq_nil_or_concat _).resolve_left hne
    rw [List.concat_eq_append] at hlast
    have hpart : IsPart last := isPart_of_mem_stepsTo last (by rw [hlast]; simp)
    rw [hlast, Text.getLast?_join_concat _ above hpart.ne_nil] at h
    exact hstep last (by rw [hlast, List.getLast?_concat]) h

end Path

namespace Reference

open SiteOptimizer.Path

/-- A path that a URL can hold as it is: nothing in it starts a query or a fragment,
and no white space ends it. -/
structure IsVerbatim (p : Path) : Prop where
  no_mark : ∀ c ∈ p, c ≠ '?' ∧ c ≠ '#'
  no_blank : ∀ c, p.getLast? = some c → Text.isBlank c = false

/-- The URL of a canonical path is read as the path. -/
theorem resolve?_relativeTo {mark : Text} {root p : Path} (hroot : Canonical mark root)
    (hp : Canonical mark p) (hmark : IsMark mark) (h : IsVerbatim p) (referrer : Path) :
    resolve? ('/' :: relativeTo root p) referrer root = some p := by
  have hchars : ∀ c ∈ relativeTo root p, c ≠ '?' ∧ c ≠ '#' := by
    intro c hc
    rcases mem_relativeTo hc with rfl | rfl | hc
    · decide
    · decide
    · exact h.no_mark c hc
  have hlast : ∀ c, (relativeTo root p).getLast? = some c → Text.isBlank c = false := by
    intro c hc
    rcases hp.getLast?_relativeTo hmark root hc with rfl | hc
    · decide
    · exact h.no_blank c hc
  rw [resolve?_slash referrer root (isRooted_relativeTo root p) hchars hlast]
  exact congrArg some (hroot.relink_eq hp hmark)

/-- **Writing the URL of a file and reading it are inverse.** For a root directory and a file by
their absolute paths, wherever the file lies, the file has a URL, and the URL names the file in
every page and module. So different files have different URLs, which holds even of those whose URLs
are not read as they are written. -/
theorem resolve_projectUrl {root : Path} (hroot : IsAbsolute root) :
    (∀ p, IsAbsolute p → IsVerbatim p → ∃ url, projectUrl? p root = some url ∧
      ∀ referrer, resolve? url referrer root = some p) ∧
      Set.InjOn (projectUrl? · root) {p | IsAbsolute p} := by
  have hmark := isMark_slash
  have hurl : ∀ p, IsAbsolute p → projectUrl? p root = some ('/' :: relativeTo root p) :=
    fun p hp => projectUrl?_eq (hp.canonical.ne_nil hmark) root
  constructor
  · intro p hp hverbatim
    exact ⟨_, hurl p hp, resolve?_relativeTo hroot.canonical hp.canonical hmark hverbatim⟩
  · intro p hp q hq heq
    have hrelative : some ('/' :: relativeTo root p) = some ('/' :: relativeTo root q) := by
      rw [← hurl p hp, ← hurl q hq]
      exact heq
    exact hp.canonical.eq_of_relativeTo hq.canonical hmark
      (List.cons.inj (Option.some.inj hrelative)).2

/-- A file beside the root directory, whose name starts with white space. -/
theorem resolve_projectUrl_beside :
    IsAbsolute "/a/b".toList ∧ IsAbsolute "/a/ c:d".toList ∧ IsVerbatim "/a/ c:d".toList ∧
      projectUrl? "/a/ c:d".toList "/a/b".toList = some "/../ c:d".toList ∧
      resolve? "/../ c:d".toList "/a/b/x/y.html".toList "/a/b".toList = some "/a/ c:d".toList := by
  have hroot : IsAbsolute "/a/b".toList := ⟨by decide +kernel, by decide +kernel⟩
  have hp : IsAbsolute "/a/ c:d".toList := ⟨by decide +kernel, by decide +kernel⟩
  have hverbatim : IsVerbatim "/a/ c:d".toList := by
    refine ⟨by decide +kernel, fun c hc => ?_⟩
    cases hc
    decide
  have hurl : projectUrl? "/a/ c:d".toList "/a/b".toList = some "/../ c:d".toList := by
    decide +kernel
  obtain ⟨url, hsome, hresolve⟩ := (resolve_projectUrl hroot).1 _ hp hverbatim
  cases hurl.symm.trans hsome
  exact ⟨hroot, hp, hverbatim, hurl, hresolve _⟩

end Reference
end SiteOptimizer
