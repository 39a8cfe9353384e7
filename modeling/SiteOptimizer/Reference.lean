import SiteOptimizer.Text.Blank
import SiteOptimizer.Text.Word
import SiteOptimizer.Path

/-!
# References between files

A page names its scripts and stylesheets, and a module names its imports, by references. A reference
with a scheme or a host has no local file. A rooted reference starts at the root directory of the
project, any other one at the directory of the file that holds it. Going the other way,
`projectUrl?` gives the rooted reference of a file.
-/

namespace SiteOptimizer
namespace Reference

def isSchemeChar (c : Char) : Bool :=
  Text.isLetter c || Text.isDigit c || c = '+' || c = '.' || c = '-'

/-- Whether a reference starts with a scheme or with the two slashes of a host. -/
def isRemote : Text → Bool
  | '/' :: '/' :: _ => true
  | c :: s => Text.isLetter c && (s.dropWhile isSchemeChar).head? = some ':'
  | [] => false

/-- The reference without white space around it, and without a query or a fragment. -/
def withoutSuffix (reference : Text) : Text :=
  (Text.strip reference).takeWhile fun c => c ≠ '?' && c ≠ '#'

/-- The local file of a reference that stands in the file `referrer`. -/
def resolve? (reference : Text) (referrer root : Path) : Option Path :=
  let target := withoutSuffix reference
  if target = [] || isRemote target then none
  else if Path.isRooted target then some
    (Path.normalize (Path.join root (target.dropWhile (· = '/'))))
  else some (Path.normalize (Path.join (Path.parent referrer) target))

/-- The rooted reference of a file of the project; the empty path names no file. -/
def projectUrl? (path root : Path) : Option Text :=
  if path = [] then none else some ('/' :: (Path.relativeTo root path).dropWhile (· = '/'))

/-- Whether an import names a file rather than a package. -/
def isLocal (specifier : Text) : Bool :=
  Text.startsWith ['/'] specifier || Text.startsWith ['.', '/'] specifier ||
    Text.startsWith ['.', '.', '/'] specifier

end Reference
end SiteOptimizer
