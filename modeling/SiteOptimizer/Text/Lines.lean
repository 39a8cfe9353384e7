import SiteOptimizer.Text.Basic

/-!
# Lines

`splitLines` cuts a text at every Unicode line boundary, where a carriage return and the line feed
behind it make one boundary and a boundary at the end starts no further line. `unifyNewlines` writes
the three line ends of documents, CR LF, CR and LF, as LF.
-/

namespace SiteOptimizer
namespace Text

def isLineBreak (c : Char) : Bool :=
  c = '\n' || c = '\r' || c = Char.ofNat 0xB || c = Char.ofNat 0xC || c = Char.ofNat 0x1C ||
    c = Char.ofNat 0x1D || c = Char.ofNat 0x1E || c = Char.ofNat 0x85 || c = Char.ofNat 0x2028 ||
    c = Char.ofNat 0x2029

/-- The lines of a text without what ends them. -/
def splitLines : Text → List Text
  | [] => []
  | '\r' :: '\n' :: s => [] :: splitLines s
  | c :: s =>
    if isLineBreak c then [] :: splitLines s
    else
      match splitLines s with
      | [] => [[c]]
      | line :: lines => (c :: line) :: lines

theorem splitLines_eq_nil_iff {s : Text} : splitLines s = [] ↔ s = [] := by
  fun_cases splitLines s <;> simp_all

/-- The text with every line end written as a line feed. -/
def unifyNewlines : Text → Text
  | [] => []
  | '\r' :: '\n' :: s => '\n' :: unifyNewlines s
  | c :: s => (if c = '\r' then '\n' else c) :: unifyNewlines s

theorem not_mem_unifyNewlines (s : Text) : '\r' ∉ unifyNewlines s := by
  fun_induction unifyNewlines s with
  | case1 => simp
  | case2 s ih => simp [ih]
  | case3 c s _ ih =>
    by_cases h : c = '\r'
    · simp [h, ih]
    · simp [h, ih, Ne.symm h]

end Text
end SiteOptimizer
