import SiteOptimizer.Fault

/-!
# Notes

While it works the library takes notes: what it skips, what it has done and what has failed. A note
is a value that tells the event; its level says who wants to read it, and `Note.message` words it.
-/

namespace SiteOptimizer

inductive Level where
  | debug
  | info
  | warning
  deriving DecidableEq, Repr

def Level.rank : Level → Nat
  | .debug => 0
  | .info => 1
  | .warning => 2

def Level.name : Level → Text
  | .debug => "DEBUG".toList
  | .info => "INFO".toList
  | .warning => "WARNING".toList

inductive Note where
  | scriptMissing (path : Path)
  | importIgnored (specifier : Text) (path : Path)
  | stylesheetMissing (path : Path)
  | minifierStarted (targets : List Text)
  | pageScanned (path : Path) (css js entries : Nat)
  | runStarted (files pages : Nat) (directory : Path)
  | scanFinished (pages modules : Nat)
  | fileOptimized (url : Text)
  | fileFailed (url : Text) (cause : Fault)
  | runFailed (failed files : Nat)
  | runFinished (files : Nat)
  deriving DecidableEq, Repr

namespace Note

def level : Note → Level
  | .stylesheetMissing _ | .fileFailed .. | .runFailed .. => .warning
  | .runStarted .. | .runFinished _ => .info
  | .scriptMissing _ | .importIgnored .. | .minifierStarted _ | .pageScanned .. | .scanFinished ..
  | .fileOptimized _ => .debug

/-- The file that a note says is not there. -/
def missing? : Note → Option Path
  | .scriptMissing path | .stylesheetMissing path => some path
  | _ => none

def message : Note → Text
  | .scriptMissing path => "Skipping import scan of missing file ".toList ++ path
  | .importIgnored specifier path =>
    "Ignoring unresolved import ".toList ++ Text.quoted specifier ++ " in ".toList ++ path
  | .stylesheetMissing path =>
    "Missing stylesheet ".toList ++ path ++ " behind a CSS proxy; skipping".toList
  | .minifierStarted targets =>
    "Minifier started (target: ".toList ++
      (if targets = [] then "default".toList else Text.join [','] targets) ++ [')']
  | .pageScanned path css js entries =>
    "Scanned ".toList ++ path ++ ": ".toList ++ Text.ofNat css ++ " css, ".toList ++
      Text.ofNat js ++ " js (".toList ++ Text.ofNat entries ++ " entries)".toList
  | .runStarted files pages directory =>
    "Optimizing ".toList ++ Text.ofNat files ++ " files (".toList ++ Text.ofNat pages ++
      " HTML) in ".toList ++ directory
  | .scanFinished pages modules =>
    "Scanned ".toList ++ Text.ofNat pages ++ " HTML files, ".toList ++ Text.ofNat modules ++
      " JS modules".toList
  | .fileOptimized url => "Optimized ".toList ++ url
  | .fileFailed url cause => "Failed to optimize ".toList ++ url ++ ": ".toList ++ cause.message
  | .runFailed failed files =>
    Text.ofNat failed ++ " of ".toList ++ Text.ofNat files ++ " files failed to optimize".toList
  | .runFinished files => "Optimized ".toList ++ Text.ofNat files ++ " files".toList

end Note

end SiteOptimizer
