import SiteOptimizer.CommandLine.Word
import SiteOptimizer.Settings

/-!
# Requests

A command line asks for a run on one build directory, for help, or for nothing that makes sense.
Words are acted on from left to right, and the first that is wrong counts; words that nothing
takes are complained of at the end.
-/

namespace SiteOptimizer
namespace CommandLine

/-- What a flag gives. Two hyphens for a value are void: the flag has been
used but gives nothing. -/
inductive Given (α : Type) where
  | value (a : α)
  | void
  deriving DecidableEq, Repr

def Given.value? {α : Type} : Given α → Option α
  | .value a => some a
  | .void => none

structure Wishes where
  config : Option (Given Path)
  changes : List Settings.Change
  combinedCssName : Option (Given Text)
  exclude : List (Given Text)
  target : Option (Given Text)
  metaDir : Option (Given Text)
  jobs : Option (Given Nat)
  strict : Bool
  verbose : Bool
  quiet : Bool
  deriving DecidableEq, Repr

def Wishes.none : Wishes where
  config := .none
  changes := []
  combinedCssName := .none
  exclude := []
  target := .none
  metaDir := .none
  jobs := .none
  strict := false
  verbose := false
  quiet := false

/-- What a command line asks for, as far as it has been read. -/
structure Draft extends Wishes where
  directory : Option Path
  /-- The words that nothing takes. -/
  extras : List Text
  deriving DecidableEq, Repr

def Draft.empty : Draft where
  toWishes := .none
  directory := none
  extras := []

/-- Why a command line asks for no run. -/
inductive Refusal where
  | help
  | misuse (error : UsageError)
  deriving DecidableEq, Repr

def readCount (value : Text) : Except CountTrouble Nat :=
  match Text.integer? value with
  | none => .error (.notNumber value)
  | some count => if count < 1 then .error (.tooSmall count) else .ok count.toNat

/-! ## Flags -/

structure Use where
  flag : Flag
  value : Option Text
  deriving DecidableEq, Repr

/-- The flags that stand behind each other in one word, the first by its short name and each of the
others by the letter of its short name. A flag that takes a value gets all that follows it. -/
def usesOfCluster (flag : Flag) : Text → Except UsageError (List Use)
  | [] => if flag.takesValue then .ok [⟨flag, some []⟩] else .error (.valueUnused flag [])
  | c :: rest =>
    if flag.takesValue then .ok [⟨flag, some (c :: rest)⟩]
    else
      match Flag.ofName? ['-', c] with
      | none => .error (.valueUnused flag (c :: rest))
      | some next =>
        if rest = [] then .ok [⟨flag, none⟩, ⟨next, none⟩]
        else (usesOfCluster next rest).map (⟨flag, none⟩ :: ·)

def usesOf : Word → Except UsageError (List Use)
  | .argument _ | .separator | .unknown _ => .ok []
  | .flag flag none => .ok [⟨flag, none⟩]
  | .flag flag (some value) =>
    if flag.takesValue then .ok [⟨flag, some value⟩] else .error (.valueUnused flag value)
  | .cluster flag rest => usesOfCluster flag rest

/-- The flag at the end that still needs a value. -/
def needy? (uses : List Use) : Option Flag :=
  match uses.getLast? with
  | some ⟨flag, none⟩ => if flag.takesValue then some flag else none
  | _ => none

def giveValue (uses : List Use) (value : Text) : List Use :=
  uses.dropLast ++ uses.getLast?.toList.map fun use => { use with value := some value }

def Given.ofText (value : Text) : Given Text :=
  if value = separatorText then .void else .value value

def Given.countOfText (value : Text) : Except CountTrouble (Given Nat) :=
  match Given.ofText value with
  | .void => .ok .void
  | .value value => (readCount value).map .value

def Draft.use (draft : Draft) (use : Use) : Except Refusal Draft :=
  let value := use.value.getD []
  let given := Given.ofText value
  let change (change : Settings.Change) : Except Refusal Draft :=
    .ok { draft with changes := draft.changes ++ [change] }
  match use.flag with
  | .help => .error .help
  | .config => .ok { draft with config := some given }
  | .noMinifyJs => change (.minifyJs false)
  | .noMinifyCss => change (.minifyCss false)
  | .noMinifyHtml => change (.minifyHtml false)
  | .noPreloadCss => change (.preloadCss false)
  | .preloadModules => change (.preloadModules true)
  | .combinedCssName => .ok { draft with combinedCssName := some given }
  | .exclude => .ok { draft with exclude := draft.exclude ++ [given] }
  | .target => .ok { draft with target := some given }
  | .metaDir => .ok { draft with metaDir := some given }
  | .jobs =>
    match Given.countOfText value with
    | .ok count => .ok { draft with jobs := some count }
    | .error trouble => .error (.misuse (.badCount .jobs trouble))
  | .strict => .ok { draft with strict := true }
  | .verbose =>
    if draft.quiet then .error (.misuse (.excluded .verbose .quiet))
    else .ok { draft with verbose := true }
  | .quiet =>
    if draft.verbose then .error (.misuse (.excluded .quiet .verbose))
    else .ok { draft with quiet := true }

/-! ## Words -/

def Draft.read (draft : Draft) : List Word → Except Refusal Draft
  | [] => .ok draft
  | .argument text :: words =>
    -- The first argument is the build directory, and a separator next to it goes with it.
    if draft.directory.isSome then { draft with extras := draft.extras ++ [text] }.read words
    else
      let draft := { draft with directory := some text }
      match words with
      | .separator :: words => draft.read words
      | words => draft.read words
  | .separator :: words =>
    match draft.directory, words with
    | none, .argument text :: words => { draft with directory := some text }.read words
    | _, words => { draft with extras := draft.extras ++ [separatorText] }.read words
  | .unknown text :: words => { draft with extras := draft.extras ++ [text] }.read words
  | word :: words =>
    match usesOf word with
    | .error error => .error (.misuse error)
    | .ok uses =>
      match needy? uses, words with
      | none, words => do (← uses.foldlM Draft.use draft).read words
      -- A flag that still needs a value takes the argument behind it.
      | some _, .argument value :: words => do
        (← (giveValue uses value).foldlM Draft.use draft).read words
      | some flag, _ => .error (.misuse (.valueMissing flag))

/-! ## Requests -/

structure Request extends Wishes where
  directory : Path
  deriving DecidableEq, Repr

def Draft.finish (draft : Draft) : Except Refusal Request :=
  match draft.directory with
  | none => .error (.misuse .directoryMissing)
  | some directory =>
    if draft.extras ≠ [] then .error (.misuse (.unrecognized draft.extras))
    else .ok { toWishes := draft.toWishes, directory }

def Request.ofTexts (texts : List Text) : Except Refusal Request := do
  match wordsOf texts with
  | .error error => .error (.misuse error)
  | .ok words => (← Draft.empty.read words).finish

/-- The request where the build directory is seen from another directory. -/
def Request.within (request : Request) (base : Path) : Request :=
  { request with directory := Path.join base request.directory }

end CommandLine
end SiteOptimizer
