import SiteOptimizer.Script.Comment

/-!
# Minifying stylesheets

Comments count as white space, and white space goes where it separates nothing: at both ends, behind
marks that open or join something and in front of marks that close or join something. In front of a
colon it stays outside rules, where it tells a descendant from the element itself. Of several
semicolons one is left, and none at the end of a rule. Strings stay as they are. Two old ways to
hide rules by comments are kept, shrunk to the shortest comment that does it.
-/

namespace SiteOptimizer
namespace Minify
namespace Css

/-! ## Characters -/

def isSpace (c : Char) : Bool :=
  c = ' ' || c = '\t' || c = '\n' || c = '\r' || c = Char.ofNat 12

def isLineEnd (c : Char) : Bool :=
  c = '\n' || c = '\r' || c = Char.ofNat 12

def isNameChar (c : Char) : Bool :=
  c.isAlphanum || c = '-' || c = '_' || 0x7F < c.toNat

/-- The characters that stand for themselves whatever is next to them. -/
def isPlain (c : Char) : Bool :=
  !(isSpace c || "\\\"'u>@/;:\x7b\x7d+".toList.contains c)

/-- The marks behind which white space goes. -/
def opensOrJoins (c : Char) : Bool :=
  "\x7b\x7d(=:>[,!".toList.contains c

/-- The marks in front of which white space goes. -/
def closesOrJoins (c : Char) : Bool :=
  ":\x7b\x7d);=>],!".toList.contains c

/-! ## What stands at the start of a text -/

def isHexDigit (c : Char) : Bool :=
  c.isDigit || ('a' ≤ c && c ≤ 'f') || ('A' ≤ c && c ≤ 'F')

/-- The end of a line; a carriage return goes with the line feed behind it. -/
def lineEnd? : Text → Option (Text × Text)
  | '\r' :: '\n' :: s => some (['\r', '\n'], s)
  | c :: s => if isLineEnd c then some ([c], s) else none
  | [] => none

/-- The one white space that may end an escape by code. -/
def escapeEnd : Text → Text × Text
  | '\r' :: '\n' :: s => (['\r', '\n'], s)
  | c :: s => if isSpace c then ([c], s) else ([], c :: s)
  | [] => ([], [])

/-- An escape: by up to six digits, or of one character that is neither a
digit nor the end of a line. -/
def escape? : Text → Option (Text × Text)
  | '\\' :: c :: s =>
    if isHexDigit c then
      let digits := ((c :: s).take 6).takeWhile isHexDigit
      let (space, rest) := escapeEnd ((c :: s).drop digits.length)
      some ('\\' :: digits ++ space, rest)
    else if isLineEnd c then none
    else some (['\\', c], s)
  | _ => none

def continuation? : Text → Option (Text × Text)
  | '\\' :: s => (lineEnd? s).map fun (found, rest) => ('\\' :: found, rest)
  | _ => none

/-- What stands between the quotes of a string, and the closing quote, with continuations of lines
taken out. Only some strings may hold them, or line ends as they are. -/
def stringTail (quote : Char) (continues multiline : Bool) : Nat → Text → Option (Text × Text)
  | 0, _ => none
  | _ + 1, [] => none
  | fuel + 1, c :: s =>
    if c = quote then some ([c], s)
    else if c = '\\' then
      match continuation? (c :: s), s with
      | some (_, rest), _ =>
        if continues then stringTail quote continues multiline fuel rest else none
      | none, d :: s =>
        (stringTail quote continues multiline fuel s).map fun (t, rest) => (c :: d :: t, rest)
      | none, [] => none
    else if isLineEnd c && !multiline then none
    else (stringTail quote continues multiline fuel s).map fun (t, rest) => (c :: t, rest)

def string? (continues multiline : Bool) : Text → Option (Text × Text)
  | c :: s =>
    if c = '"' || c = '\'' then
      (stringTail c continues multiline (s.length + 1) s).map fun (found, rest) =>
        (c :: found, rest)
    else none
  | [] => none

def isUrlChar (c : Char) : Bool :=
  ' ' < c && c ≠ '"' && c ≠ '\'' && c ≠ '(' && c ≠ ')' && c ≠ '\\' && c ≠ Char.ofNat 0x7F

/-- Whether an escape by code has taken white space at its end. -/
def endsEscape (escape : Text) : Bool :=
  2 < escape.length && escape.getLast?.any isSpace

/-- A URL without quotes up to its bracket, with the white space in it taken out; `onePiece` tells
whether there has been none so far. -/
def bareUrl? : Nat → Bool → Text → Option (Text × Text)
  | 0, _, _ => none
  | _ + 1, _, [] => none
  | fuel + 1, onePiece, c :: s =>
    if c = ')' then some ([], c :: s)
    else if isUrlChar c then (bareUrl? fuel onePiece s).map fun (found, rest) => (c :: found, rest)
    else if isSpace c then bareUrl? fuel false s
    else
      match escape? (c :: s), continuation? (c :: s) with
      | some (found, rest), _ =>
        (bareUrl? fuel (onePiece && !endsEscape found) rest).map fun (more, rest) =>
          (found ++ more, rest)
      | none, some (_, rest) =>
        -- At the end of the URL, or in front of white space, a continuation needs white space or
        -- another continuation before it.
        if onePiece && rest.head?.all (fun d => isSpace d || d = ')') then none
        else bareUrl? fuel false rest
      | none, none => none

def url? (s : Text) : Option (Text × Text) :=
  (Text.after? "url(".toList s).bind fun s =>
    let inner := s.dropWhile isSpace
    let found := (string? true true inner).orElse fun _ =>
      bareUrl? (inner.length + 1) (!s.head?.any isSpace) inner
    found.bind fun (url, rest) =>
      match rest.dropWhile isSpace with
      | ')' :: rest => some ("url(".toList ++ url ++ [')'], rest)
      | _ => none

/-! ## White space -/

inductive Space where
  | blank
  | comment (text : Text)
  deriving DecidableEq, Repr

/-- White space and comments, and what follows them; `skip` characters still
belong to the last comment. -/
def spaces (skip : Nat) : Text → List Space × Text
  | [] => ([], [])
  | c :: s =>
    if 0 < skip then spaces (skip - 1) s
    else if isSpace c then
      let (found, rest) := spaces 0 s
      (.blank :: found, rest)
    else
      match Script.blockComment.split? (c :: s) with
      | some (text, _) =>
        let (found, rest) := spaces (text.length - 1) s
        (.comment text :: found, rest)
      | none => ([], c :: s)

/-- What is left of white space: nothing but the comments that hide the rules between them from
one old reader of stylesheets. The first of them ends with a backslash, and the next one that
does not brings the rules back. -/
def squeeze (hidden : Bool) : List Space → Text × Bool
  | [] => ([], hidden)
  | .blank :: spaces => squeeze hidden spaces
  -- Of comments in a row the last one tells.
  | .comment _ :: .comment text :: spaces => squeeze hidden (.comment text :: spaces)
  | .comment text :: spaces =>
    let hides := Text.endsWith "\\*/".toList text
    let mark :=
      if hides && !hidden then "/*\\*/".toList
      else if hidden && !hides then "/**/".toList
      else []
    let (rest, hidden) := squeeze hides spaces
    (mark ++ rest, hidden)

/-! ## Writing -/

structure State where
  inRule : Bool
  /-- The rules that hold rules and whose braces have not been opened. -/
  groups : Nat
  hidden : Bool

structure Step where
  written : Text
  state : State
  last : Char
  rest : Text

def groupRules : List Text :=
  ["@media", "@supports", "@document", "@keyframes", "@-webkit-keyframes", "@-moz-keyframes",
    "@-o-keyframes", "@-ms-keyframes"].map String.toList

def groupRule? (s : Text) : Option (Text × Text) :=
  groupRules.findSome? fun name =>
    let (found, rest) := s.splitAt name.length
    if found.map Char.toLower = name && !rest.head?.any isNameChar then some (found, rest) else none

/-- The elements that need a blank behind them in front of a brace or a comma. -/
def firstParts : List Text :=
  [":first-line", ":first-letter"].map String.toList

def firstPart? (s : Text) : Option (Text × List Space × Text) :=
  firstParts.findSome? fun name =>
    let (found, rest) := s.splitAt name.length
    let (spaces, rest) := spaces 0 rest
    if found.map Char.toLower = name && rest.head?.any (fun c => c = '\x7b' || c = ',') then
      some (found, spaces, rest)
    else none

/-- What is written for white space that may be needed, in front of `rest`. -/
def State.gap (st : State) (rest : Text) : Text :=
  match rest.head? with
  | none => []
  | some c => if closesOrJoins c && !(c = ':' && !st.inRule && st.groups = 0) then [] else [' ']

/-- White space and semicolons, and what follows them; `skip` characters still belong to the last
comment. -/
def idle (skip : Nat) : Text → List Space × Text
  | [] => ([], [])
  | c :: s =>
    if 0 < skip then idle (skip - 1) s
    else if isSpace c || c = ';' then
      let (found, rest) := idle 0 s
      (.blank :: found, rest)
    else
      match Script.blockComment.split? (c :: s) with
      | some (text, _) =>
        let (found, rest) := idle (text.length - 1) s
        (.comment text :: found, rest)
      | none => ([], c :: s)

/-- What stands in the place of line ends and tabs in an escape. -/
def flatten : Text → Text
  | [] => []
  | c :: s =>
    if isLineEnd c || c = '\t' then ' ' :: flatten (s.dropWhile fun d => isLineEnd d || d = '\t')
    else c :: flatten s
termination_by s => s.length
decreasing_by
  · exact Nat.lt_succ_of_le (List.dropWhile_sublist _).length_le
  · simp

/-- Writes the piece at the start of a text; `before` is the character in front of it. -/
def step (st : State) (before : Option Char) (c : Char) (s : Text) : Step :=
  let plain : Step := ⟨[c], st, c, s⟩
  if isPlain c then plain
  else
    match spaces 0 (c :: s) with
    | (space :: more, rest) =>
      let (kept, hidden) := squeeze st.hidden (space :: more)
      let gap := if before.all opensOrJoins then [] else st.gap rest
      ⟨gap ++ kept, { st with hidden }, ' ', rest⟩
    | ([], _) =>
      match c with
      | ';' =>
        let (found, rest) := idle 0 s
        let (kept, hidden) := squeeze st.hidden found
        let mark := if st.inRule && rest.head? = some '\x7d' then [] else [c]
        ⟨mark ++ kept, { st with hidden }, c, rest⟩
      -- The first braces behind the name of a group are its own, and no rule's.
      | '\x7b' =>
        if st.groups = 0 then ⟨[c], { st with inRule := true }, c, s⟩
        else ⟨[c], { st with groups := st.groups - 1 }, c, s⟩
      | '\x7d' => ⟨[c], { st with inRule := false }, c, s⟩
      | 'u' =>
        match if before.any isNameChar then none else url? (c :: s) with
        | some (found, rest) => ⟨found, st, ')', rest⟩
        | none => plain
      | '@' =>
        match groupRule? (c :: s) with
        | some (found, rest) => ⟨found, { st with groups := st.groups + 1 }, c, rest⟩
        | none => plain
      | '>' =>
        -- The other way to hide a rule; within a rule there is nothing to hide.
        match Text.after? "/**/".toList s with
        | some rest =>
          let (found, rest) := spaces 0 rest
          let inside := st.inRule || 0 < st.groups
          let (kept, hidden) := squeeze (st.hidden && inside) found
          ⟨(if inside then [c] else ">/**/".toList) ++ kept, { st with hidden }, '/', rest⟩
        | none => plain
      | ':' =>
        match firstPart? (c :: s) with
        | some (found, more, rest) =>
          let (kept, hidden) := squeeze st.hidden more
          ⟨found ++ ' ' :: kept, { st with hidden }, ' ', rest⟩
        | none => plain
      | _ =>
        match string? false false (c :: s), string? true false (c :: s), escape? (c :: s) with
        | some (found, rest), _, _ => ⟨found, st, c, rest⟩
        | none, some (found, rest), _ => ⟨found, st, c, rest⟩
        | none, none, some (found, rest) => ⟨flatten found, st, found.getLastD c, rest⟩
        | none, none, none => plain

def writeFrom : Nat → State → Option Char → Text → Text
  | 0, _, _, _ => []
  | _ + 1, _, _, [] => []
  | fuel + 1, st, before, c :: s =>
    let next := step st before c s
    next.written ++ writeFrom fuel next.state (some next.last) next.rest

def minify (code : Text) : Text :=
  writeFrom code.length ⟨false, 0, false⟩ none code

end Css
end Minify
end SiteOptimizer
