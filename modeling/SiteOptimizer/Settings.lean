import SiteOptimizer.FileSystem
import SiteOptimizer.Json.Parser

/-!
# Settings of a run

A run has nine settings. They are changed one at a time by typed changes, and a mapping from option
names to JSON values is read as a list of such changes to the default settings. Most options have a
second name in camel case. The name of the combined stylesheet always starts with a slash.
-/

namespace SiteOptimizer

structure Settings where
  minifyJs : Bool
  minifyHtml : Bool
  minifyCss : Bool
  /-- Link one stylesheet that combines the stylesheets which scripts import, and keep their proxies
  from being preloaded and minified. -/
  preloadCss : Bool
  /-- Preload the modules that pages reach through imports. -/
  preloadModules : Bool
  combinedCssName : Text
  /-- The globs of the files to leave alone. -/
  exclude : List Text
  /-- What the minified scripts should run on. -/
  target : Option Text
  /-- The directory that holds the manifest; its files are left alone. -/
  metaDir : Text
  deriving DecidableEq, Repr

namespace Settings

def default : Settings where
  minifyJs := true
  minifyHtml := true
  minifyCss := true
  preloadCss := true
  preloadModules := false
  combinedCssName := "/imported-styles.css".toList
  exclude := []
  target := none
  metaDir := "__meta__".toList

def rooted (url : Text) : Text :=
  if url.head? = some '/' then url else '/' :: url

inductive Change where
  | minifyJs (value : Bool)
  | minifyHtml (value : Bool)
  | minifyCss (value : Bool)
  | preloadCss (value : Bool)
  | preloadModules (value : Bool)
  | combinedCssName (value : Text)
  | exclude (value : List Text)
  | target (value : Option Text)
  | metaDir (value : Text)
  deriving DecidableEq, Repr

def change (s : Settings) : Change → Settings
  | .minifyJs value => { s with minifyJs := value }
  | .minifyHtml value => { s with minifyHtml := value }
  | .minifyCss value => { s with minifyCss := value }
  | .preloadCss value => { s with preloadCss := value }
  | .preloadModules value => { s with preloadModules := value }
  | .combinedCssName value => { s with combinedCssName := rooted value }
  | .exclude value => { s with exclude := value }
  | .target value => { s with target := value }
  | .metaDir value => { s with metaDir := value }

def replace (s : Settings) (changes : List Change) : Settings :=
  changes.foldl change s

/-! ## Options -/

inductive Key where
  | minifyJs
  | minifyHtml
  | minifyCss
  | preloadCss
  | preloadModules
  | combinedCssName
  | exclude
  | target
  | metaDir
  deriving DecidableEq, Repr

def Key.all : List Key :=
  [.minifyJs, .minifyHtml, .minifyCss, .preloadCss, .preloadModules, .combinedCssName, .exclude,
    .target, .metaDir]

def Key.name : Key → Text
  | .minifyJs => "minify_js".toList
  | .minifyHtml => "minify_html".toList
  | .minifyCss => "minify_css".toList
  | .preloadCss => "preload_css".toList
  | .preloadModules => "preload_modules".toList
  | .combinedCssName => "combined_css_name".toList
  | .exclude => "exclude".toList
  | .target => "target".toList
  | .metaDir => "meta_dir".toList

def Key.camelName : Key → Text
  | .minifyJs => "minifyJS".toList
  | .minifyHtml => "minifyHTML".toList
  | .minifyCss => "minifyCSS".toList
  | .preloadCss => "preloadCSS".toList
  | .preloadModules => "preloadModules".toList
  | .combinedCssName => "combinedCSSName".toList
  | .exclude => "exclude".toList
  | .target => "target".toList
  | .metaDir => "metaDir".toList

def Key.ofName? (name : Text) : Option Key :=
  Key.all.find? fun key => key.name = name || key.camelName = name

def boolValue (name : Text) (value : Json) : Except OptionTrouble Bool :=
  match value with
  | .bool value => .ok value
  | value => .error (.notBool name value.display)

def textValue (name : Text) (value : Json) : Except OptionTrouble Text :=
  match value with
  | .string value => .ok value
  | value => .error (.notText name value.display)

def textOrNull (name : Text) (value : Json) : Except OptionTrouble (Option Text) :=
  match value with
  | .null => .ok none
  | .string value => .ok (some value)
  | value => .error (.notTextOrNull name value.display)

def stringOf? : Json → Option Text
  | .string s => some s
  | _ => none

/-- A value that is a list of globs or a single glob. -/
def globsValue (name : Text) (value : Json) : Except OptionTrouble (List Text) :=
  match value with
  | .string glob => .ok [glob]
  | .array items =>
    match items.mapM stringOf? with
    | some globs => .ok globs
    | none => .error (.notGlobs name)
  | _ => .error (.notGlobs name)

/-- The change that an option and its value ask for. -/
def Change.ofOption (name : Text) (value : Json) : Except OptionTrouble Change :=
  match Key.ofName? name with
  | none => .error (.unknown name)
  | some .minifyJs => (boolValue name value).map .minifyJs
  | some .minifyHtml => (boolValue name value).map .minifyHtml
  | some .minifyCss => (boolValue name value).map .minifyCss
  | some .preloadCss => (boolValue name value).map .preloadCss
  | some .preloadModules => (boolValue name value).map .preloadModules
  | some .combinedCssName => (textValue name value).map .combinedCssName
  | some .exclude => (globsValue name value).map .exclude
  | some .target => (textOrNull name value).map .target
  | some .metaDir => (textValue name value).map .metaDir

/-- The changes that options ask for; the first option that is wrong counts. -/
def changesOf (options : List (Text × Json)) : Except OptionTrouble (List Change) :=
  options.mapM fun option => Change.ofOption option.1 option.2

def ofOptions (options : List (Text × Json)) : Except Fault Settings :=
  ((changesOf options).map default.replace).mapError .option

def toOptions (s : Settings) : List (Text × Json) :=
  [(Key.minifyJs.name, .bool s.minifyJs), (Key.minifyHtml.name, .bool s.minifyHtml),
   (Key.minifyCss.name, .bool s.minifyCss), (Key.preloadCss.name, .bool s.preloadCss),
   (Key.preloadModules.name, .bool s.preloadModules),
   (Key.combinedCssName.name, .string s.combinedCssName),
   (Key.exclude.name, .array (s.exclude.map .string)),
   (Key.target.name, (s.target.map Json.string).getD .null), (Key.metaDir.name, .string s.metaDir)]

def load (files : FileSystem) (path : Path) : Except Fault Settings :=
  let unreadable (reason : Text) : Except Fault Settings :=
    .error (.option (.unreadable path reason))
  match files.readDocument path with
  | .error fault => unreadable fault.message
  | .ok document =>
    match Json.parse document with
    | .error flaw =>
      match flaw.problem with
      -- The one flaw that is not a matter of the options.
      | .depth container => .error (.tooDeep container)
      | _ => unreadable flaw.message
    | .ok (.object options) => ofOptions options
    | .ok _ => .error (.option (.notObject path))

end Settings
end SiteOptimizer
