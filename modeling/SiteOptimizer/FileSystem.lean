import SiteOptimizer.Fault
import SiteOptimizer.Text.Lines

/-!
# Files

A file system is a value: files with their bytes and directories, each named by its parts from the
root. Unlike `Path.normalize`, opening a path follows its parts one after the other, so that every
part but the last must be a directory. Texts are UTF-8. A document is read with line feeds as its
only line ends, and everything else as it stands.
-/

namespace SiteOptimizer

/-- A place in the file system: the parts of its path from the root. -/
abbrev Place := List Text

structure FileSystem where
  files : List (Place × List UInt8)
  /-- The directories but for the root, which is always there. -/
  directories : List Place
  /-- The directories whose contents cannot be listed. -/
  sealedPlaces : List Place
  deriving DecidableEq, Repr

namespace FileSystem

def empty : FileSystem := ⟨[], [], []⟩

/-! ## Places -/

def bytes? (fs : FileSystem) (place : Place) : Option (List UInt8) :=
  fs.files.lookup place

def hasDirectory (fs : FileSystem) (place : Place) : Bool :=
  place = [] || fs.directories.contains place

def put (fs : FileSystem) (place : Place) (bytes : List UInt8) : FileSystem :=
  { fs with files := (place, bytes) :: fs.files.filter (·.1 ≠ place) }

def addDirectory (fs : FileSystem) (place : Place) : FileSystem :=
  if fs.hasDirectory place then fs else { fs with directories := place :: fs.directories }

def addDirectories (fs : FileSystem) (place : Place) : FileSystem :=
  (List.range (place.length + 1)).foldl (fun fs n => fs.addDirectory (place.take n)) fs

def erase (fs : FileSystem) (place : Place) : FileSystem :=
  { fs with
    files := fs.files.filter fun file => !place.isPrefixOf file.1
    directories := fs.directories.filter fun directory => !place.isPrefixOf directory }

theorem bytes?_put (fs : FileSystem) (place : Place) (bytes : List UInt8) :
    (fs.put place bytes).bytes? place = some bytes := by
  simp [put, bytes?]

theorem bytes?_put_of_ne {fs : FileSystem} {place other : Place} {bytes : List UInt8}
    (h : other ≠ place) : (fs.put place bytes).bytes? other = fs.bytes? other := by
  have hne : (other == place) = false := by simp [h]
  simp only [put, bytes?, List.lookup_cons, hne]
  induction fs.files with
  | nil => rfl
  | cons file files ih =>
    obtain ⟨here, held⟩ := file
    by_cases hf : here = place
    · simpa [hf, List.lookup_cons, hne] using ih
    · by_cases ho : other = here
      · simp [← ho, h]
      · have : (other == here) = false := by simp [ho]
        simpa [hf, List.lookup_cons, this] using ih

/-! ## Opening paths -/

def maxPartBytes : Nat := 255

def maxPathBytes : Nat := 4095

/-- No more paths than this can be opened, since a path that can be has no more than `maxPathBytes`
characters. -/
def maxPaths : Nat := Nat.pow 0x110001 maxPathBytes

/-- Follows parts from a place: each part is looked up in a directory. -/
def follow (fs : FileSystem) (place : Place) : List Text → Except FileTrouble Place
  | [] => .ok place
  | part :: parts =>
    if fs.hasDirectory place then
      if part = [] || part = Path.here then fs.follow place parts
      -- Above the root there is the root.
      else if part = Path.up then fs.follow place.dropLast parts
      else if maxPartBytes < (Utf8.encode part).length then .error .nameTooLong
      else fs.follow (place ++ [part]) parts
    else if (fs.bytes? place).isSome then .error .notDirectory
    else .error .missing

/-- The place that a path names, whether or not something is there. -/
def locate (fs : FileSystem) (path : Path) : Except Fault Place :=
  if path.contains (Char.ofNat 0) then .error .nulInPath
  else if path = [] then .error (.file .missing path)
  else if maxPathBytes < (Utf8.encode path).length then .error (.file .nameTooLong path)
  else (fs.follow [] (Text.splitOn '/' path)).mapError (.file · path)

def isFile (fs : FileSystem) (path : Path) : Bool :=
  match fs.locate path with
  | .ok place => !fs.hasDirectory place && (fs.bytes? place).isSome
  | .error _ => false

def isDirectory (fs : FileSystem) (path : Path) : Bool :=
  match fs.locate path with
  | .ok place => fs.hasDirectory place
  | .error _ => false

/-! ## Reading and writing -/

def readBytes (fs : FileSystem) (path : Path) : Except Fault (List UInt8) :=
  match fs.locate path with
  | .error fault => .error fault
  | .ok place =>
    if fs.hasDirectory place then .error (.file .isDirectory path)
    else
      match fs.bytes? place with
      | some bytes => .ok bytes
      | none => .error (.file .missing path)

def readText (fs : FileSystem) (path : Path) : Except Fault Text :=
  (fs.readBytes path).bind fun bytes => (Utf8.decode bytes).mapError .undecodable

/-- The text of a file with line feeds as its only line ends. -/
def readDocument (fs : FileSystem) (path : Path) : Except Fault Text :=
  (fs.readText path).map Text.unifyNewlines

/-- Writes a text to the file that a path names. A path that ends with a slash can only name a
directory. -/
def write (fs : FileSystem) (path : Path) (text : Text) : Except Fault FileSystem :=
  let trimmed := Text.dropEndWhile (· = '/') path
  match fs.locate (if trimmed = [] then path else trimmed) with
  | .error .nulInPath => .error .nulInPath
  -- The fault names the path as it was given.
  | .error (.file trouble _) => .error (.file trouble path)
  | .error fault => .error fault
  | .ok place =>
    if fs.hasDirectory place then .error (.file .isDirectory path)
    -- The slash asks for a directory, and there is none.
    else if trimmed ≠ path then
      .error (.file (if (fs.bytes? place).isSome then .notDirectory else .isDirectory) path)
    else .ok (fs.put place (Utf8.encode text))

def makeDirectory (fs : FileSystem) (path : Path) : Except Fault FileSystem :=
  let trimmed := Text.dropEndWhile (· = '/') path
  match fs.locate (if trimmed = [] then path else trimmed) with
  | .error (.file trouble _) => .error (.file trouble path)
  | .error fault => .error fault
  | .ok place =>
    if fs.hasDirectory place || (fs.bytes? place).isSome then .error (.file .present path)
    else .ok (fs.addDirectory place)

def isPresent (fs : FileSystem) (path : Path) : Bool :=
  fs.isFile path || fs.isDirectory path

/-- A path without its last part, and that part; a slash at the end does not count. -/
def splitLast (path : Path) : Path × Text :=
  if Path.fileName path = [] then (Path.parent (Path.parent path), Path.fileName (Path.parent path))
  else (Path.parent path, Path.fileName path)

/-- Makes a directory and those above it that are missing. That the directory is there already is no
fault. What has been made before a fault stays. -/
def makeDirectories : Nat → FileSystem → Path → Except Fault Unit × FileSystem
  -- Not met from `makeAll`: each path above is shorter.
  | 0, fs, path => (.error (.file .nameTooLong path), fs)
  | depth + 1, fs, path =>
    let make (fs : FileSystem) : Except Fault Unit × FileSystem :=
      match fs.makeDirectory path with
      | .ok fs => (.ok (), fs)
      | .error (.file trouble blamed) =>
        if fs.isDirectory path then (.ok (), fs) else (.error (.file trouble blamed), fs)
      | .error fault => (.error fault, fs)
    let (above, last) := splitLast path
    if above ≠ [] && last ≠ [] && !fs.isPresent above then
      let (result, fs) := makeDirectories depth fs above
      -- A dot names the directory that has just been made.
      let goOn := if last = Path.here then (.ok (), fs) else make fs
      match result with
      | .ok _ => goOn
      -- Something is there by now; whether it is a directory shows when the last part is made.
      | .error (.file .present _) => goOn
      | .error fault => (.error fault, fs)
    else make fs

def makeAll (fs : FileSystem) (path : Path) : Except Fault Unit × FileSystem :=
  makeDirectories (path.length + 1) fs path

/-! ## Listing -/

def below? (directory place : Place) : Option (List Text) :=
  if directory.isPrefixOf place then some (place.drop directory.length) else none

/-- The files below a directory, each by the parts that lead to it. The first directory below that
cannot be listed is a fault. -/
def listBelow (fs : FileSystem) (directory : Place) : Except (List Text) (List (List Text)) :=
  let blocked := (fs.sealedPlaces.filter fs.hasDirectory).filterMap (below? directory)
  match blocked.mergeSort fun a b => !b.lex a Text.precedes with
  | first :: _ => .error first
  | [] => .ok (fs.files.filterMap fun file => below? directory file.1)

def size (fs : FileSystem) : Nat :=
  fs.files.foldr (fun file count => file.2.length + count) 0

end FileSystem
end SiteOptimizer
