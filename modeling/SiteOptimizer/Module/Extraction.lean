import SiteOptimizer.Reference
import SiteOptimizer.Script.Import
import SiteOptimizer.FileSystem
import SiteOptimizer.Note

/-!
# The imports of a script

A script's imports are the local files that its static imports name, each once and in order. Imports
of other hosts are passed over, and so are imports of packages, of which a note is taken. A script
that is not there imports nothing.
-/

namespace SiteOptimizer
namespace Module

/-- What a script imports, and the notes on what it does not. -/
structure Extraction where
  imports : List Path
  notes : List Note
  deriving DecidableEq, Repr

def Extraction.add (path root : Path) (e : Extraction) (specifier : Text) : Extraction :=
  if Reference.isRemote specifier then e
  else if !Reference.isLocal specifier then
    { e with notes := e.notes ++ [.importIgnored specifier path] }
  else
    match Reference.resolve? specifier path root with
    | some target =>
      if e.imports.contains target then e else { e with imports := e.imports ++ [target] }
    | none => e

def Extraction.ofCode (code : Text) (path root : Path) : Extraction :=
  (Script.specifiers code).foldl (Extraction.add path root) ⟨[], []⟩

def extract (files : FileSystem) (path root : Path) : Except Fault Extraction :=
  if files.isFile path then
    (files.readDocument path).map fun code => Extraction.ofCode code path root
  else .ok ⟨[], [.scriptMissing path]⟩

end Module
end SiteOptimizer
