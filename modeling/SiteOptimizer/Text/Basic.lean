/-!
# Text as a list of code points

Documents, scripts, paths and messages are all lists of characters, so that every offset,
position and length in this library counts code points. `after?` is the one way the recognisers
of this library look for a fixed word, and `after?_eq_some_iff` says that it finds nothing but
that word. `sortUnique` turns a list of texts into the canonical listing of a set: ascending by
code point and without repeats.
-/

namespace SiteOptimizer

/-- A text is the list of its code points. -/
abbrev Text := List Char

namespace Text

-- Characters are finitely many, so there may be an instance around that goes through all there are.
/-- Whether all characters of a text are of some sort is decided on the text. -/
instance decidableForallMem (s : Text) (p : Char → Prop)
    [DecidablePred p] : Decidable (∀ c ∈ s, p c) :=
  List.decidableBAll p s

/-! ## Fixed words -/

/-- What follows `word` in a text that starts with it. -/
def after? : Text → Text → Option Text
  | [], s => some s
  | _ :: _, [] => none
  | a :: word, c :: s => if a = c then after? word s else none

/-- **`after?` splits the text at the end of the word**, and at nothing else. -/
theorem after?_eq_some_iff {word s r : Text} : after? word s = some r ↔ s = word ++ r := by
  induction word generalizing s with
  | nil => simp [after?, eq_comm]
  | cons a word ih =>
    cases s with
    | nil => simp [after?]
    | cons c s =>
      by_cases h : a = c
      · simp [after?, h, ih]
      · simp [after?, h, Ne.symm h]

def startsWith (word s : Text) : Bool :=
  word.isPrefixOf s

def endsWith (word s : Text) : Bool :=
  word.isSuffixOf s

/-- What stands before `word` in a text that ends with it. -/
def before? (word s : Text) : Option Text :=
  if endsWith word s then some (s.take (s.length - word.length)) else none

/-- The first place of a text where `find?` finds something: what stands
before it and what is found. -/
def search? {α : Type} (find? : Text → Option α) (s : Text) : Option (Text × α) :=
  go [] s
where
  go (before : Text) : Text → Option (Text × α)
    | [] => none
    | c :: s =>
      match find? (c :: s) with
      | some found => some (before.reverse, found)
      | none => go (c :: before) s

/-- What stands before the first place where a word stands, and what follows the word. -/
def cutAt? (word s : Text) : Option (Text × Text) :=
  search? (after? word) s

/-! ## Trimming, splitting and joining -/

def dropEndWhile (p : Char → Bool) (s : Text) : Text :=
  (s.reverse.dropWhile p).reverse

def trim (p : Char → Bool) (s : Text) : Text :=
  dropEndWhile p (s.dropWhile p)

/-- The pieces between the separators; there is always one more piece than separators. -/
def splitOn (sep : Char) : Text → List Text
  | [] => [[]]
  | c :: s =>
    match splitOn sep s with
    -- Never met: there is always a piece.
    | [] => [[c]]
    | piece :: pieces => if c = sep then [] :: piece :: pieces else (c :: piece) :: pieces

theorem splitOn_of_not_mem {sep : Char} {s : Text} (h : sep ∉ s) : splitOn sep s = [s] := by
  induction s with
  | nil => rfl
  | cons c s ih =>
    rw [List.mem_cons, not_or] at h
    simp [splitOn, ih h.2, Ne.symm h.1]

/-- The pieces in order with the separator between neighbours. -/
def join (sep : Text) (pieces : List Text) : Text :=
  sep.intercalate pieces

def ofNat (n : Nat) : Text :=
  Nat.toDigits 10 n

def ofInt : Int → Text
  | .ofNat n => ofNat n
  | .negSucc n => '-' :: ofNat (n + 1)

/-! ## Order -/

/-- Whether a text comes before another: by code point at the first difference, and a
text before its extensions. -/
def precedes (a b : Text) : Bool :=
  a.lex b fun c d => decide (c.toNat < d.toNat)

def le (a b : Text) : Bool :=
  !b.precedes a

def sort (texts : List Text) : List Text :=
  texts.mergeSort le

def unique (texts : List Text) : List Text :=
  texts.foldr List.insert []

/-- The canonical listing of the set of these texts: ascending and without repeats. -/
def sortUnique (texts : List Text) : List Text :=
  sort (unique texts)

theorem mem_unique {t : Text} {texts : List Text} : t ∈ unique texts ↔ t ∈ texts := by
  induction texts with
  | nil => simp [unique]
  | cons u texts ih => simpa [unique, List.mem_insert_iff] using or_congr_right ih

theorem mem_sortUnique {t : Text} {texts : List Text} : t ∈ sortUnique texts ↔ t ∈ texts := by
  rw [sortUnique, sort, List.Perm.mem_iff (List.mergeSort_perm _ _), mem_unique]

end Text

end SiteOptimizer
