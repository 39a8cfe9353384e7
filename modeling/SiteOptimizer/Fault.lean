import SiteOptimizer.Text.Quoted
import SiteOptimizer.Text.Utf8
import SiteOptimizer.Path
import SiteOptimizer.Json.Parser

/-!
# Faults

Everything that can go wrong is a value that tells the cause; `Fault.message` is the one place that
words it. Faults of options and of the set-up stop a run before it starts, and so does a page that
cannot be scanned. All other faults concern one file.
-/

namespace SiteOptimizer

inductive FileTrouble where
  | missing
  | present
  | notDirectory
  | isDirectory
  | nameTooLong
  deriving DecidableEq, Repr

def FileTrouble.number : FileTrouble → Nat
  | .missing => 2
  | .present => 17
  | .notDirectory => 20
  | .isDirectory => 21
  | .nameTooLong => 36

def FileTrouble.message : FileTrouble → Text
  | .missing => "No such file or directory".toList
  | .present => "File exists".toList
  | .notDirectory => "Not a directory".toList
  | .isDirectory => "Is a directory".toList
  | .nameTooLong => "File name too long".toList

/-- What is wrong with options. Values appear as messages show them. -/
inductive OptionTrouble where
  | unknown (key : Text)
  | notBool (key shown : Text)
  | notText (key shown : Text)
  | notTextOrNull (key shown : Text)
  | notGlobs (key : Text)
  | unreadable (path : Path) (reason : Text)
  | notObject (path : Path)
  deriving DecidableEq, Repr

def OptionTrouble.message : OptionTrouble → Text
  | .unknown key => "unknown option ".toList ++ Text.quoted key
  | .notBool key shown =>
    "option ".toList ++ Text.quoted key ++ " must be true or false, got ".toList ++ shown
  | .notText key shown =>
    "option ".toList ++ Text.quoted key ++ " must be a string, got ".toList ++ shown
  | .notTextOrNull key shown =>
    "option ".toList ++ Text.quoted key ++ " must be a string or null, got ".toList ++ shown
  | .notGlobs key => "option ".toList ++ Text.quoted key ++ " must be a list of globs".toList
  | .unreadable path reason => "cannot read config ".toList ++ path ++ ": ".toList ++ reason
  | .notObject path => "config ".toList ++ path ++ " must contain a JSON object".toList

inductive SetupTrouble where
  | noDirectory (path : Path)
  | unlistable (path : Path)
  | unknownTarget (target : Text)
  | notRunning
  | noStart (reason : Text)
  /-- A component that the caller supplies refuses to work. -/
  | refused (reason : Text)
  deriving DecidableEq, Repr

def SetupTrouble.message : SetupTrouble → Text
  | .noDirectory path => "build directory ".toList ++ path ++ " does not exist".toList
  | .unlistable path => "cannot list ".toList ++ path ++ ": Permission denied".toList
  | .unknownTarget target => "unknown JS target ".toList ++ Text.quoted target
  | .notRunning => "minifier used outside of an optimize run".toList
  | .noStart reason => "cannot start minifier: ".toList ++ reason
  | .refused reason => reason

/-- What is wanted of a setting that is void where a text is needed. -/
inductive TextUse where
  | front
  | trimFront
  | trim
  deriving DecidableEq, Repr

def TextUse.word : TextUse → Text
  | .front => "startswith".toList
  | .trimFront => "lstrip".toList
  | .trim => "strip".toList

inductive SectionTrouble where
  /-- No name stands where the section starts. -/
  | unnamed (start : Text)
  | unknownName (name : Text)
  deriving DecidableEq, Repr

def SectionTrouble.message : SectionTrouble → Text
  | .unnamed start => "expected name token at ".toList ++ Text.quoted start
  | .unknownName name =>
    "unknown status keyword ".toList ++ Text.quoted name ++ " in marked section".toList

inductive ComponentFault where
  | system
  | value
  | runtime
  deriving DecidableEq, Repr

inductive Fault where
  | file (trouble : FileTrouble) (path : Path)
  /-- A path holds the character that ends paths. -/
  | nulInPath
  | undecodable (flaw : Utf8.Flaw)
  | emptyPath
  | entryNotListed
  | option (trouble : OptionTrouble)
  | setup (trouble : SetupTrouble)
  | voidSetting (wanted : TextUse)
  | tooDeep (container : Json.Container)
  | badSection (trouble : SectionTrouble)
  | scan (path : Path) (cause : Fault)
  | component (sort : ComponentFault) (message : Text)
  | moduleLimit
  deriving DecidableEq, Repr

namespace Fault

def message : Fault → Text
  | .file trouble path =>
    "[Errno ".toList ++ Text.ofNat trouble.number ++ "] ".toList ++ trouble.message ++
      ": ".toList ++ Text.quoted path
  | .nulInPath => "embedded null byte".toList
  | .undecodable flaw => flaw.message
  | .emptyPath => "no path specified".toList
  | .entryNotListed => "every entry must also be listed in js".toList
  | .option trouble => trouble.message
  | .setup trouble => trouble.message
  | .voidSetting wanted => "'list' object has no attribute ".toList ++ Text.quoted wanted.word
  | .tooDeep container => (Json.Problem.depth container).message
  | .badSection trouble => trouble.message
  | .scan path cause => path ++ ": ".toList ++ cause.message
  | .component _ message => message
  | .moduleLimit => "too many modules".toList

/-- Whether a fault that a page's scan meets is reported as a fault of that page. -/
def concernsPage : Fault → Bool
  | .file .. | .nulInPath | .undecodable _ | .emptyPath | .entryNotListed => true
  -- A component's fault at run time is not caught by the scan.
  | .component sort _ => sort ≠ .runtime
  | .option _ | .setup _ | .voidSetting _ | .tooDeep _ | .badSection _ | .scan .. | .moduleLimit =>
    false

/-- Whether a fault is the way in which a run as a whole is refused. -/
def isFatal : Fault → Bool
  | .option _ | .setup _ | .scan .. => true
  | _ => false

end Fault

end SiteOptimizer
