import SiteOptimizer.Text.Basic
import SiteOptimizer.Text.Ranges

/-!
# White space

White space is the set of Unicode white-space characters together with the four information
separators U+001C to U+001F. A zero-width space and a byte-order mark are not in it.
-/

namespace SiteOptimizer
namespace Text

/-- The code points that count as white space. -/
def blankRanges : Ranges :=
  [(0x9, 0xD), (0x1C, 0x20), (0x85, 0x85), (0xA0, 0xA0), (0x1680, 0x1680), (0x2000, 0x200A),
   (0x2028, 0x2029), (0x202F, 0x202F), (0x205F, 0x205F), (0x3000, 0x3000)]

def isBlank (c : Char) : Bool :=
  blankRanges.contains c.toNat

def isVisible (c : Char) : Bool :=
  !isBlank c

def strip (s : Text) : Text :=
  trim isBlank s

def withoutBlanks (s : Text) : Text :=
  s.filter isVisible

/-- A blank or a tab, the characters that indent a line. -/
def isIndent (c : Char) : Bool :=
  c = ' ' || c = '\t'

theorem isBlank_of_isIndent {c : Char} (h : isIndent c = true) : isBlank c = true := by
  simp only [isIndent, Bool.or_eq_true, decide_eq_true_eq] at h
  rcases h with rfl | rfl <;> decide

end Text
end SiteOptimizer
