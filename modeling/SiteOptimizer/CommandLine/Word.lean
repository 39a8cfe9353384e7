import SiteOptimizer.CommandLine.Flag
import SiteOptimizer.Text.Numeral

/-!
# Words of the command line

Every word is sorted before any of them is acted on. A word that starts with a hyphen names a flag,
with its value behind an equals sign if it has one; a long name may be cut short as long as one flag
remains. A short name may have more short names or its value right behind it, and the equals sign
may be left out. A word that looks like a negative number or holds a blank is an argument like any
other. Two hyphens make arguments of all words that follow.
-/

namespace SiteOptimizer
namespace CommandLine

inductive Word where
  | argument (text : Text)
  /-- A flag, with what follows the equals sign behind its long name. -/
  | flag (flag : Flag) (value : Option Text)
  /-- A flag by its short name, with what follows it right away or behind an equals sign. -/
  | cluster (flag : Flag) (rest : Text)
  | unknown (text : Text)
  | separator
  deriving DecidableEq, Repr

inductive CountTrouble where
  | notNumber (value : Text)
  | tooSmall (count : Int)
  deriving DecidableEq, Repr

def CountTrouble.message : CountTrouble → Text
  | .notNumber value => "invalid int value: ".toList ++ Text.quoted value
  | .tooSmall count => "must be at least 1, got ".toList ++ Text.ofInt count

inductive UsageError where
  | ambiguous (word : Text) (names : List Text)
  | valueMissing (flag : Flag)
  | valueUnused (flag : Flag) (value : Text)
  | excluded (flag other : Flag)
  | badCount (flag : Flag) (trouble : CountTrouble)
  | directoryMissing
  | unrecognized (words : List Text)
  deriving DecidableEq, Repr

def aboutFlag (flag : Flag) (text : Text) : Text :=
  "argument ".toList ++ flag.label ++ ": ".toList ++ text

def UsageError.message : UsageError → Text
  | .ambiguous word names =>
    "ambiguous option: ".toList ++ word ++ " could match ".toList ++ Text.join ", ".toList names
  | .valueMissing flag => aboutFlag flag "expected one argument".toList
  | .valueUnused flag value =>
    aboutFlag flag ("ignored explicit argument ".toList ++ Text.quoted value)
  | .excluded flag other => aboutFlag flag ("not allowed with argument ".toList ++ other.label)
  | .badCount flag trouble => aboutFlag flag trouble.message
  | .directoryMissing => "the following arguments are required: build_dir".toList
  | .unrecognized words => "unrecognized arguments: ".toList ++ Text.join [' '] words

/-! ## Sorting -/

def isDigits (s : Text) : Bool :=
  s ≠ [] && s.all Text.isDecimalDigit

/-- Whether a text is a negative number with or without a point; a line feed may follow it. -/
def isNegativeNumber (s : Text) : Bool :=
  match s with
  | '-' :: s =>
    let s := if s.getLast? = some '\n' then s.dropLast else s
    isDigits s ||
      match s.dropWhile Text.isDecimalDigit with
      | '.' :: fraction => isDigits fraction
      | _ => false
  | _ => false

/-- A text at its first equals sign: what stands before it, and what follows it. -/
def splitValue (s : Text) : Text × Option Text :=
  match s.span (· ≠ '=') with
  | (name, _ :: value) => (name, some value)
  | (name, []) => (name, none)

/-- The sort of a word that names no flag. -/
def otherWord (s : Text) : Word :=
  if isNegativeNumber s || s.contains ' ' then .argument s else .unknown s

/-- The sort of a word that starts with a hyphen and is not the full name of a flag. -/
def abbreviated (s : Text) : Except UsageError Word :=
  match s with
  | '-' :: '-' :: _ =>
    let (name, value) := splitValue s
    match Flag.completions name with
    | [] => .ok (otherWord s)
    | [(flag, _)] => .ok (.flag flag value)
    | found => .error (.ambiguous s (found.map (·.2)))
  | a :: b :: rest =>
    match Flag.ofName? [a, b] with
    | some flag => .ok (.cluster flag rest)
    | none => .ok (otherWord s)
  | s => .ok (.argument s)

def Word.ofText (s : Text) : Except UsageError Word :=
  if s.head? ≠ some '-' then .ok (.argument s)
  else
    match Flag.ofName? s, splitValue s with
    | some named, _ => .ok (.flag named none)
    -- What stands in front of the equals sign may be a full name.
    | none, (name, some value) =>
      match Flag.ofName? name with
      | some named =>
        .ok (if Flag.isShort name then .cluster named value else .flag named (some value))
      | none => abbreviated s
    | none, (_, none) => abbreviated s

/-- The word that makes arguments of all words behind it. -/
def separatorText : Text := ['-', '-']

def wordsOf : List Text → Except UsageError (List Word)
  | [] => .ok []
  | text :: texts =>
    if text = separatorText then .ok (.separator :: texts.map .argument)
    else do
      let word ← Word.ofText text
      return word :: (← wordsOf texts)

end CommandLine
end SiteOptimizer
