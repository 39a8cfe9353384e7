/-!
# Classes of characters given by ranges

A property of characters is stored as an ascending list of closed ranges of code points.
The search stops at the first range that starts beyond the character, so text in the
first ranges is decided at once.
-/

namespace SiteOptimizer
namespace Text

/-- An ascending list of closed ranges of code points. -/
abbrev Ranges := List (Nat × Nat)

def Ranges.contains : Ranges → Nat → Bool
  | [], _ => false
  | (low, high) :: rest, n => if n < low then false else n ≤ high || Ranges.contains rest n

theorem Ranges.exists_of_contains {ranges : Ranges} {n : Nat} (h : ranges.contains n = true) :
    ∃ r ∈ ranges, r.1 ≤ n ∧ n ≤ r.2 := by
  induction ranges with
  | nil => simp [Ranges.contains] at h
  | cons r rest ih =>
    obtain ⟨low, high⟩ := r
    simp only [Ranges.contains] at h
    split at h
    · simp at h
    · next hlow =>
      simp only [Bool.or_eq_true, decide_eq_true_eq] at h
      rcases h with h | h
      · exact ⟨(low, high), by simp, by omega, h⟩
      · obtain ⟨q, hq, hn⟩ := ih h
        exact ⟨q, by simp [hq], hn⟩

end Text
end SiteOptimizer
