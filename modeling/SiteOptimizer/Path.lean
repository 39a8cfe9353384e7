import SiteOptimizer.Text.Basic

/-!
# Paths

A path is the text by which a file is named: parts with slashes between them, rooted if it starts
with a slash. Nothing here looks at files. Normalizing drops empty parts and `.`, and lets `..` take
away the part in front of it; exactly two slashes in front survive, more than two count as one.
Relative paths start at the root directory, which is where the library works.
-/

namespace SiteOptimizer

/-- A path is the text that names a file. -/
abbrev Path := Text

namespace Path

/-- The part that stands for the directory itself. -/
def here : Text := ['.']

/-- The part that stands for the directory above. -/
def up : Text := ['.', '.']

def isRooted (p : Path) : Bool :=
  p.head? = some '/'

/-- The slashes in front of a path that its normal form keeps. -/
def rootMark : Path → Text
  | '/' :: '/' :: '/' :: _ => ['/']
  | '/' :: '/' :: _ => ['/', '/']
  | '/' :: _ => ['/']
  | _ => []

/-- The parts of a path that name something. -/
def parts (p : Path) : List Text :=
  (Text.splitOn '/' p).filter fun part => part ≠ [] && part ≠ here

/-- Adds a part to a path that is given last part first. Above the root there is nothing. -/
def descend (rooted : Bool) (above : List Text) (part : Text) : List Text :=
  if part ≠ up then part :: above
  else
    match above with
    | [] => if rooted then [] else [up]
    -- Above the start of the path nothing is known, so going up from there is kept.
    | top :: rest => if top = up then up :: above else rest

def normalParts (p : Path) : List Text :=
  ((parts p).foldl (descend (isRooted p)) []).reverse

/-- The normal form of a path; that of the empty path is `.`. -/
def normalize (p : Path) : Path :=
  let result := rootMark p ++ Text.join ['/'] (normalParts p)
  if result = [] then here else result

/-- The path `p` seen from `base`: `p` itself if it is rooted. -/
def join (base p : Path) : Path :=
  if isRooted p then p
  else if base = [] || base.getLast? = some '/' then base ++ p
  else base ++ '/' :: p

/-- The last part of a path, empty if the path ends with a slash. -/
def fileName (p : Path) : Text :=
  (p.reverse.takeWhile (· ≠ '/')).reverse

/-- What stands before the last part, without the slashes between them. A root mark is kept. -/
def parent (p : Path) : Path :=
  let before := Text.dropEndWhile (· ≠ '/') p
  -- Nothing but slashes is a root mark.
  if before.all (· = '/') then before else Text.dropEndWhile (· = '/') before

/-- What stands from the last dot of the last part on, unless only dots stand before it. -/
def suffix (p : Path) : Text :=
  let name := (fileName p).reverse
  match name.dropWhile (· ≠ '.') with
  | _ :: before => if before.any (· ≠ '.') then '.' :: (name.takeWhile (· ≠ '.')).reverse else []
  | [] => []

def absolute (p : Path) : Path :=
  normalize (join ['/'] p)

def absoluteParts (p : Path) : List Text :=
  (Text.splitOn '/' (absolute p)).filter (· ≠ [])

/-- Both lists without the items that they have in common in front. -/
def dropCommon : List Text → List Text → List Text × List Text
  | a :: as, b :: bs => if a = b then dropCommon as bs else (a :: as, b :: bs)
  | as, bs => (as, bs)

/-- The path from the directory `base` to `p`. -/
def relativeTo (base p : Path) : Path :=
  let (above, below) := dropCommon (absoluteParts base) (absoluteParts p)
  match above.map (fun _ => up) ++ below with
  | [] => here
  | steps => Text.join ['/'] steps

end Path
end SiteOptimizer
