import SiteOptimizer.Text.Basic

/-!
# Globs

A glob describes texts: a star stands for any text, a question mark for any character, and brackets
for one character of a class. No character is special to a star or a question mark, neither a slash
nor a line feed. Brackets that never close stand for themselves.
-/

namespace SiteOptimizer

inductive Glob.Piece where
  | star
  | any
  /-- A character within one of the ranges or, if negated, outside all of them. -/
  | oneOf (negated : Bool) (ranges : List (Char × Char))
  | literal (c : Char)
  deriving DecidableEq, Repr

namespace Glob

/-! ## Classes -/

/-- The text between the brackets of a class, and what follows the class. A closing bracket right
behind the opening one, or behind the mark of negation, belongs to the class. -/
def classBody? (s : Text) : Option (Text × Text) :=
  let (mark, s) :=
    match s with
    | '!' :: s => (['!'], s)
    | s => ([], s)
  let (first, s) :=
    match s with
    | ']' :: s => ([']'], s)
    | s => ([], s)
  match s.span (· ≠ ']') with
  | (body, _ :: rest) => some (mark ++ first ++ body, rest)
  | (_, []) => none

/-- Cuts a class at the hyphens that make ranges. The first `held` characters cannot be such a
hyphen, nor can the two characters behind one; a hyphen at the very end stands for itself. -/
def cutRanges (held : Nat) (piece : Text) : Text → List Text
  | [] => [piece]
  | c :: s =>
    match held with
    | held + 1 => cutRanges held (piece ++ [c]) s
    | 0 =>
      if c = '-' then
        if s = [] then [piece ++ [c]] else piece :: cutRanges 2 [] s
      else cutRanges 0 (piece ++ [c]) s

/-- Takes out the ranges that run backwards, from the last one to the first. -/
def dropBackward : List Text → List Text
  | [] => []
  | a :: pieces =>
    match dropBackward pieces with
    | [] => [a]
    | b :: rest =>
      match a.getLast?, b with
      -- The two ends of such a range go, and what is left on both sides is one piece.
      | some x, y :: b' => if y < x then (a.dropLast ++ b') :: rest else a :: b :: rest
      | _, _ => a :: b :: rest

def rangesOf : List Text → List (Char × Char)
  | [] => []
  | [a] => a.map fun c => (c, c)
  | a :: b :: rest =>
    match a.getLast?, b with
    | some x, y :: b' => a.dropLast.map (fun c => (c, c)) ++ (x, y) :: rangesOf (b' :: rest)
    -- A hyphen with nothing on one side stands for itself.
    | _, _ => a.map (fun c => (c, c)) ++ ('-', '-') :: rangesOf (b :: rest)
termination_by pieces => pieces.length

def classOf (body : Text) : Piece :=
  -- A hyphen that comes first stands for itself, also behind the mark of negation.
  let held := if body.head? = some '!' then 2 else 1
  match dropBackward (if body.contains '-' then cutRanges held [] body else [body]) with
  | ('!' :: piece) :: pieces =>
    -- If no range is left, nothing is outside of the class.
    if piece = [] && pieces = [] then .any else .oneOf true (rangesOf (piece :: pieces))
  | pieces => .oneOf false (rangesOf pieces)

/-! ## Globs -/

def piecesFrom : Nat → Text → List Piece
  | 0, _ => []
  | _ + 1, [] => []
  | fuel + 1, c :: s =>
    if c = '*' then .star :: piecesFrom fuel s
    else if c = '?' then .any :: piecesFrom fuel s
    else if c = '[' then
      match classBody? s with
      | some (body, rest) => classOf body :: piecesFrom fuel rest
      -- Brackets that never close.
      | none => .literal c :: piecesFrom fuel s
    else .literal c :: piecesFrom fuel s

def pieces (glob : Text) : List Piece :=
  piecesFrom glob.length glob

def Piece.admits : Piece → Char → Bool
  | .star, _ => false
  | .any, _ => true
  | .oneOf negated ranges, c => negated != ranges.any fun range => range.1 ≤ c && c ≤ range.2
  | .literal d, c => c = d

/-- Whether the pieces describe a text. -/
def matchPieces : List Piece → Text → Bool
  | [], s => s.isEmpty
  | .star :: pieces, [] => matchPieces pieces []
  | .star :: pieces, c :: s => matchPieces pieces (c :: s) || matchPieces (.star :: pieces) s
  | _ :: _, [] => false
  | piece :: pieces, c :: s => piece.admits c && matchPieces pieces s
termination_by pieces s => pieces.length + s.length

/-! ## Matching in one pass

The search above may try a star at every place again for every star in front of it. The answers for
a glob and all of its ends fit in a row, and the row for a text follows from that for the text
without its first character. -/

/-- For these pieces and for every end of them, the answer for a text. -/
def answers : List Piece → Text → List Bool
  | [], s => [matchPieces [] s]
  | piece :: pieces, s => matchPieces (piece :: pieces) s :: answers pieces s

def emptyRow : List Piece → List Bool
  | [] => [true]
  | piece :: pieces =>
    let row := emptyRow pieces
    (piece = .star && row.headD false) :: row

/-- The answers for a text with one more character in front of it. -/
def extendRow (c : Char) : List Piece → List Bool → List Bool
  | piece :: pieces, answer :: row =>
    let rest := extendRow c pieces row
    (if piece = .star then rest.headD false || answer else piece.admits c &&
      row.headD false) :: rest
  | _, _ => [false]

theorem head?_answers (pieces : List Piece) (s : Text) :
    (answers pieces s).head? = some (matchPieces pieces s) := by
  cases pieces <;> rfl

theorem emptyRow_eq (pieces : List Piece) : emptyRow pieces = answers pieces [] := by
  induction pieces with
  | nil => simp [emptyRow, answers, matchPieces]
  | cons piece pieces ih =>
    cases piece <;> simp [emptyRow, answers, ih, head?_answers, matchPieces]

theorem extendRow_eq (c : Char) (pieces : List Piece) (s : Text) :
    extendRow c pieces (answers pieces s) = answers pieces (c :: s) := by
  induction pieces with
  | nil => simp [extendRow, answers, matchPieces]
  | cons piece pieces ih =>
    cases piece <;> simp [extendRow, answers, ih, head?_answers, matchPieces]

def isMatch (glob text : Text) : Bool :=
  let pieces := pieces glob
  (text.foldr (extendRow · pieces) (emptyRow pieces)).headD false

/-- **One pass finds what the search finds.** -/
theorem isMatch_eq (glob text : Text) : isMatch glob text = matchPieces (pieces glob) text := by
  have rows : text.foldr (extendRow · (pieces glob)) (emptyRow (pieces glob)) =
      answers (pieces glob) text := by
    induction text with
    | nil => exact emptyRow_eq _
    | cons c s ih => rw [List.foldr_cons, ih, extendRow_eq]
  simp [isMatch, rows, head?_answers]

end Glob
end SiteOptimizer
