import SiteOptimizer.Text.Quoted

/-!
# Flags

The flags of the command line with their names. A long name has two hyphens in front and a short one
has one hyphen and one letter. Some flags take a value. A flag is shown by all its names.
-/

namespace SiteOptimizer
namespace CommandLine

inductive Flag where
  | help
  | config
  | noMinifyJs
  | noMinifyCss
  | noMinifyHtml
  | noPreloadCss
  | preloadModules
  | combinedCssName
  | exclude
  | target
  | metaDir
  | jobs
  | strict
  | verbose
  | quiet
  deriving DecidableEq, Repr

namespace Flag

/-- Every flag once, in the order in which they are shown. -/
def all : List Flag :=
  [.help, .config, .noMinifyJs, .noMinifyCss, .noMinifyHtml, .noPreloadCss, .preloadModules,
   .combinedCssName, .exclude, .target, .metaDir, .jobs, .strict, .verbose, .quiet]

/-- The names of a flag, a short one first. -/
def names : Flag → List Text
  | .help => ["-h".toList, "--help".toList]
  | .config => ["--config".toList]
  | .noMinifyJs => ["--no-minify-js".toList]
  | .noMinifyCss => ["--no-minify-css".toList]
  | .noMinifyHtml => ["--no-minify-html".toList]
  | .noPreloadCss => ["--no-preload-css".toList]
  | .preloadModules => ["--preload-modules".toList]
  | .combinedCssName => ["--combined-css-name".toList]
  | .exclude => ["--exclude".toList]
  | .target => ["--target".toList]
  | .metaDir => ["--meta-dir".toList]
  | .jobs => ["-j".toList, "--jobs".toList]
  | .strict => ["--strict".toList]
  | .verbose => ["-v".toList, "--verbose".toList]
  | .quiet => ["-q".toList, "--quiet".toList]

def isShort (name : Text) : Bool :=
  name.length = 2

def takesValue : Flag → Bool
  | .config | .combinedCssName | .exclude | .target | .metaDir | .jobs => true
  | _ => false

def label (flag : Flag) : Text :=
  Text.join ['/'] flag.names

def ofName? (name : Text) : Option Flag :=
  all.find? fun flag => flag.names.contains name

/-- The flags and names that a text may abbreviate. -/
def completions (start : Text) : List (Flag × Text) :=
  all.flatMap fun flag => (flag.names.filter (Text.startsWith start)).map fun name => (flag, name)

theorem mem_all (flag : Flag) : flag ∈ all := by
  cases flag <;> decide

/-- Every name of a flag stands for that flag and no other. -/
theorem ofName?_of_mem {flag : Flag} {name : Text}
    (h : name ∈ flag.names) : ofName? name = some flag := by
  have checked : ∀ flag ∈ all, ∀ name ∈ flag.names, ofName? name = some flag := by decide
  exact checked flag (mem_all flag) name h

end Flag

end CommandLine
end SiteOptimizer
