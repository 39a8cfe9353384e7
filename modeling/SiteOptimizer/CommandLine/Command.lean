import SiteOptimizer.CommandLine.Selection

/-!
# The command

The command optimizes the build directory that its arguments name. What the run notes goes to the
error output, less what is below the level that the arguments ask for, and so does the fault of a
run that is refused. Its exit status is 0 when all is well, 1 for a run that is refused, and 2 for a
misuse of the command, or, if the arguments ask to be strict, for files that could not be optimized.
-/

namespace SiteOptimizer
namespace CommandLine

/-- What the command leaves behind when it ends by itself. -/
structure Ending where
  status : Nat
  output : Text
  errors : Text
  deriving DecidableEq, Repr

def lineOf (text : Text) : Text :=
  text ++ ['\n']

def commandName : Text := "turbooptimize".toList

def usage : Text :=
  "usage: ".toList ++ commandName ++ " [options] build_dir".toList

def Refusal.ending : Refusal → Ending
  | .help => ⟨0, lineOf usage, []⟩
  | .misuse error =>
    ⟨2, [], lineOf usage ++ lineOf (commandName ++ ": error: ".toList ++ error.message)⟩

def Request.level (request : Request) : Level :=
  if request.verbose then .debug else if request.quiet then .warning else .info

def noteLines (level : Level) (notes : List Note) : Text :=
  (notes.filter fun note => level.rank ≤ note.level.rank).flatMap fun note =>
    lineOf (note.level.name ++ ": ".toList ++ note.message)

def summary (report : Build.Report) : Text :=
  lineOf ("Optimized ".toList ++ Text.ofNat report.files.length ++ " files, ".toList ++
    Text.ofNat report.manifest.length ++ " HTML entry points, ".toList ++
    Text.ofNat report.failures.length ++ " failed".toList)

/-- The end of a command whose run is refused or goes wrong; only the
former is the command's own end. -/
def endingOfFault (fault : Fault) (errors : Text) : Except Fault Ending :=
  if fault.isFatal then .ok ⟨1, [], errors ++ lineOf ("error: ".toList ++ fault.message)⟩
  else .error fault

/-- What the command comes to: its end, the files as they are then, and the
notes that were taken. -/
structure Execution where
  ending : Except Fault Ending
  files : FileSystem
  notes : List Note

def Request.execute (request : Request) (files : FileSystem) : Execution :=
  match request.selection files with
  | .error fault => ⟨endingOfFault fault [], files, []⟩
  | .ok selection =>
    let outcome := selection.run request.directory files
    let notes := outcome.session.notes
    let errors := noteLines request.level notes
    let ending :=
      match outcome.result with
      | .error fault => endingOfFault fault errors
      | .ok report =>
        .ok ⟨if request.strict && report.failures ≠ [] then 2 else 0, summary report, errors⟩
    ⟨ending, outcome.session.files, notes⟩

def execute (arguments : List Text) (files : FileSystem) : Execution :=
  match Request.ofTexts arguments with
  | .error refusal => ⟨.ok refusal.ending, files, []⟩
  | .ok request => request.execute files

end CommandLine
end SiteOptimizer
