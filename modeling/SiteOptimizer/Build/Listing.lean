import SiteOptimizer.FileSystem
import SiteOptimizer.Glob

/-!
# The files of a build directory

A run works on the files below a build directory, less those that a glob excludes and those below
the metadata directory. A glob describes the path of a file from the build directory on. In globs a
star also stands for slashes, so two stars and a slash in front stand for any directories but not
for none; a glob with them therefore also counts without them.
-/

namespace SiteOptimizer
namespace Build

/-- The front of a glob that stands for the directories above. -/
def anyDirectory : Text := "**/".toList

/-- A glob, the glob without the directories in front, and so on. -/
def withoutDirectories : Nat → Text → List Text
  | 0, glob => [glob]
  | limit + 1, glob =>
    match Text.after? anyDirectory glob with
    | some rest => glob :: withoutDirectories limit rest
    | none => [glob]

/-- The globs that an exclude glob stands for. Slashes in front do not count. -/
def globVariants (glob : Text) : List Text :=
  let glob := glob.dropWhile (· = '/')
  withoutDirectories glob.length glob

/-- The globs of the files to leave out. An empty name of the metadata directory stands for none. -/
def excludedGlobs (exclude : List Text) (metaDir : Text) : List Text :=
  exclude.flatMap globVariants ++
    if metaDir = [] then [] else [Text.trim (· = '/') metaDir ++ "/*".toList]

def pathBelow (directory : Path) (parts : List Text) : Path :=
  if parts = [] then directory else Path.join directory (Text.join ['/'] parts)

def directoryPlace (fs : FileSystem) (directory : Path) : Except Fault Place :=
  let missing : Except Fault Place := .error (.setup (.noDirectory directory))
  match fs.locate directory with
  -- Why the directory cannot be reached is not told.
  | .error _ => missing
  | .ok place => if fs.hasDirectory place then .ok place else missing

/-- The files below a directory that no exclude glob describes, in ascending order. -/
def listFiles (fs : FileSystem) (directory : Path) (exclude : List Text) (metaDir : Text) :
    Except Fault (List Path) :=
  match directoryPlace fs directory with
  | .error fault => .error fault
  | .ok place =>
    match fs.listBelow place with
    | .error parts => .error (.setup (.unlistable (pathBelow directory parts)))
    | .ok found =>
      let globs := excludedGlobs exclude metaDir
      let kept := found.filter fun parts =>
        !globs.any fun glob => Glob.isMatch glob (Text.join ['/'] parts)
      .ok (Text.sort (kept.map (pathBelow directory)))

end Build
end SiteOptimizer
