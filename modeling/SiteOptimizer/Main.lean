import SiteOptimizer.CommandLine.Command

/-!
# Command line program

The outermost layer of the command. It brings files from the disk into a file system value, has the
command work on that value, and brings back to the disk what is different then. Files outside of the
build directory are brought in when a run notes that they are missing, and the run starts over; a
run on a value leaves no traces.
-/

namespace SiteOptimizer
namespace CommandLine

/-- Brings in what is on the disk at an entry of a directory and below it. -/
partial def bringIn (files : FileSystem) (place : Place)
    (entry : IO.FS.DirEntry) : IO FileSystem := do
  if ← entry.path.isDir then
    let files := files.addDirectories place
    match ← entry.path.readDir.toBaseIO with
    | .ok entries =>
      entries.foldlM (fun files entry =>
        bringIn files (place ++ [entry.fileName.toList]) entry) files
    | .error _ => return { files with sealedPlaces := place :: files.sealedPlaces }
  else if ← entry.path.pathExists then
    let bytes ← IO.FS.readBinFile entry.path
    return (files.addDirectories place.dropLast).put place bytes.toList
  else return files

def bringInPath (files : FileSystem) (path : Path) : IO FileSystem := do
  bringIn files (Path.absoluteParts path) ⟨← IO.currentDir, String.ofList path⟩

/-- Executes a request on a file system value, with all files in it that the run asks for. -/
partial def settle (request : Request) (files : FileSystem) : IO (FileSystem × Execution) := do
  let execution := request.execute files
  let more ← (execution.notes.filterMap Note.missing?).foldlM bringInPath files
  if more.files.length = files.files.length then return (files, execution) else settle request more

/-- Writes to the disk the files that are not as they were before. -/
def bringBack (before after : FileSystem) : IO Unit := do
  for (place, bytes) in after.files do
    if before.bytes? place ≠ some bytes then
      let path := fun (place : Place) => String.ofList ('/' :: Text.join ['/'] place)
      IO.FS.createDirAll (path place.dropLast)
      IO.FS.writeBinFile (path place) ⟨bytes.toArray⟩

def Ending.print (ending : Ending) : IO UInt32 := do
  IO.print (String.ofList ending.output)
  IO.eprint (String.ofList ending.errors)
  return ending.status.toUInt32

def perform (arguments : List Text) : IO UInt32 := do
  match Request.ofTexts arguments with
  | .error refusal => refusal.ending.print
  | .ok request =>
    let request := request.within (← IO.currentDir).toString.toList
    let files ← (request.directory :: (request.config.bind Given.value?).toList).foldlM
      bringInPath .empty
    let (files, execution) ← settle request files
    bringBack files execution.files
    match execution.ending with
    | .ok ending => ending.print
    | .error fault =>
      IO.eprintln (String.ofList fault.message)
      return 1

end CommandLine
end SiteOptimizer

def main (arguments : List String) : IO UInt32 :=
  SiteOptimizer.CommandLine.perform (arguments.map String.toList)
