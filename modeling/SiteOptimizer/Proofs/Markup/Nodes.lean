import SiteOptimizer.Proofs.Markup.Coverage

/-!
# Documents that are made of nodes

A well-formed document is a list of nodes: texts, comments, document types, closing tags and
opening tags with attributes. Each sort of node carries the proof that it is written as such a
node, and how it is written is left free where markup leaves it free: white space, the case of
names, the quotes around values.

The one fact about them is that **nodes are read one by one**: the tags of the document are
those of its nodes (`tagsNamed_render`), so no node is read as part of another, whatever stands
around it. Inside a tag this takes an induction on the attributes, behind any of which the lexer
may stand in either of two modes.
-/

namespace SiteOptimizer
namespace Markup

open Text (Pattern)

/-! ## Nodes -/

/-- White space, or nothing. -/
def IsSpace (s : Text) : Prop :=
  ∀ c ∈ s, Text.isBlank c = true

instance (s : Text) : Decidable (IsSpace s) :=
  inferInstanceAs (Decidable (∀ c ∈ s, _))

instance (body : Text) : Decidable (Unended body) :=
  inferInstanceAs (Decidable (¬ _))

/-- The value of an attribute as it is written. -/
inductive Value where
  | quoted (quote : Char) (text : Text) (isQuote : IsQuote quote) (free : quote ∉ text)
  | bare (text : Text) (ne_nil : text ≠ []) (chars : ∀ c ∈ text, isBareValue c = true)

namespace Value

def text : Value → Text
  | quoted _ text _ _ => text
  | bare text _ _ => text

def render : Value → Text
  | quoted quote text _ _ => quote :: text ++ [quote]
  | bare text _ _ => text

end Value

/-- An equals sign and a value, with white space around the sign. -/
structure Assignment where
  before : Text
  behind : Text
  value : Value
  before_space : IsSpace before
  behind_space : IsSpace behind

def Assignment.render (a : Assignment) : Text :=
  a.before ++ '=' :: (a.behind ++ a.value.render)

/-- An attribute with the white space in front of it. -/
structure Attribute where
  space : Text
  name : Text
  assigned : Option Assignment
  space_ne : space ≠ []
  is_space : IsSpace space
  name_ne : name ≠ []
  name_chars : ∀ c ∈ name, isAttributeName c = true

namespace Attribute

def render (a : Attribute) : Text :=
  a.space ++ (a.name ++ (a.assigned.map Assignment.render).getD [])

def value? (a : Attribute) : Option Text :=
  a.assigned.map (·.value.text)

end Attribute

/-- The end of an opening tag. -/
inductive Ending where
  | plain (space : Text) (is_space : IsSpace space)
  | void (space : Text) (is_space : IsSpace space) (space_ne : space ≠ [])

def Ending.render : Ending → Text
  | plain space _ => space ++ ['>']
  | void space _ _ => space ++ ['/', '>']

/-- An opening tag. -/
structure Element where
  name : Text
  attributes : List Attribute
  ending : Ending
  isName : IsName name

namespace Element

def render (e : Element) : Text :=
  '<' :: e.name ++ (e.attributes.flatMap Attribute.render ++ e.ending.render)

/-- The value of the first attribute with this name, if it has one. -/
def value? (e : Element) (name : Text) : Option Text :=
  (e.attributes.find? fun a => Text.lower a.name = name).bind Attribute.value?

end Element

/-- A piece of a document. -/
inductive Node where
  | text (s : Text) (plain : '<' ∉ s)
  | comment (body : Text) (unended : Unended body)
  | docType (body : Text) (ne_nil : body ≠ []) (open_ended : '>' ∉ body) (no_comment :
      ¬ ['-', '-'] <+: body)
  | close (name space : Text) (isName : IsName name) (is_space : IsSpace space)
  | element (e : Element)

def Node.render : Node → Text
  | text s _ => s
  | comment body _ => Markup.comment body
  | docType body _ _ _ => ['<', '!'] ++ body ++ ['>']
  | close name space _ _ => ['<', '/'] ++ name ++ space ++ ['>']
  | element e => e.render

/-- The document that some nodes make up. -/
def render (nodes : List Node) : Text :=
  nodes.flatMap Node.render

/-! ## What a tag's attributes are read as -/

/-- The attributes with one more, which does not count if it is there already. -/
def Attributes.add (found : Attributes) (a : Attribute) : Attributes :=
  if found.has (Text.lower a.name) then found else found ++ [(Text.lower a.name, a.value?)]

/-- The attributes of an opening tag, as they are read. -/
def Element.read (e : Element) : Attributes :=
  e.attributes.foldl Attributes.add []

theorem lookup_add (found : Attributes) (a : Attribute) (name : Text) :
    (found.add a).lookup name =
      (found.lookup name).or (if Text.lower a.name = name then some a.value? else none) := by
  unfold Attributes.add Attributes.has
  by_cases hname : Text.lower a.name = name
  · subst hname
    cases hfound : found.lookup (Text.lower a.name) with
    | some value => simp [hfound]
    | none => simp [hfound, List.lookup_append]
  · have hbeq : (name == Text.lower a.name) = false := by simpa using Ne.symm hname
    rw [if_neg hname, Option.or_none]
    split
    · rfl
    · simp [List.lookup_append, List.lookup_cons, hbeq]

/-- **The first attribute with a name is the one that counts.** -/
theorem lookup_foldl_add (attributes : List Attribute) (found : Attributes) (name : Text) :
    (attributes.foldl Attributes.add found).lookup name =
      (found.lookup name).or ((attributes.find? fun a => Text.lower a.name = name).map
        Attribute.value?) := by
  induction attributes generalizing found with
  | nil => simp
  | cons a attributes ih =>
    rw [List.foldl_cons, ih, lookup_add, Option.or_assoc]
    by_cases hname : Text.lower a.name = name
    · simp [hname]
    · simp [hname]

theorem value?_read (e : Element) (name : Text) : e.read.value? name = e.value? name := by
  rw [Attributes.value?, Element.read, lookup_foldl_add, Element.value?]
  cases e.attributes.find? fun a => Text.lower a.name = name <;> rfl

/-! ## Reading inside a tag -/

/-- The modes behind a tag's name and between its attributes. -/
def Mode.beside (m : Mode) : Prop :=
  m = .tag ∨ m = .attribute false

/-- Markup that opens no tag, and that makes these attributes of those that have
been found in the tag before. -/
structure Gives (v : List Sign) (f : Attributes → Attributes) : Prop where
  no_open : ∀ sign ∈ v, sign.kind ≠ .tagOpen
  read : ∀ (found : Attributes) (pending : Option Text), ∃ pending', ∀ tokens,
    Attributes.readFrom found pending (v.map Sign.token ++ tokens) =
      Attributes.readFrom (f found) pending' tokens

theorem gives_nil : Gives [] id where
  no_open := by simp
  read found pending := ⟨pending, fun _ => rfl⟩

theorem Gives.append {v w : List Sign} {f g : Attributes → Attributes} (hv : Gives v f)
    (hw : Gives w g) :
    Gives (v ++ w) (g ∘ f) where
  no_open sign h := (List.mem_append.1 h).elim (hv.no_open sign) (hw.no_open sign)
  read found pending := by
    obtain ⟨pending', hread⟩ := hv.read found pending
    obtain ⟨pending'', hread'⟩ := hw.read (f found) pending'
    refine ⟨pending'', fun tokens => ?_⟩
    rw [List.map_append, List.append_assoc, hread, hread']
    rfl

theorem gives_attrEnd (s : Text) : Gives [⟨.attrEnd, s⟩] id where
  no_open := by simp
  read found pending :=
    ⟨pending, fun tokens => by simp [Attributes.readFrom, Sign.token, Kind.endsTag]⟩

/-- The rule of white space behind the name of an attribute. -/
def attrEndRule : Rule := ⟨.attrEnd, .someOf Text.isBlank, .tag⟩

theorem split?_assignment {before behind w : Text} (hbefore : IsSpace before)
    (hbehind : IsSpace behind) (hw : ∀ c, w.head? = some c → Text.isBlank c = false) :
    assignmentRule.pattern.split? (before ++ '=' :: (behind ++ w)) =
      some (before ++ '=' :: behind, w) := by
  have hequals : Text.isBlank '=' = false := by decide
  obtain ⟨htake, hdrop⟩ :=
    takeWhile_exact (w := '=' :: (behind ++ w)) hbefore (by simpa using hequals)
  obtain ⟨htake', hdrop'⟩ := takeWhile_exact hbehind hw
  have hfirst : (Pattern.run Text.isBlank).split? (before ++ '=' :: (behind ++ w)) =
      some (before, '=' :: (behind ++ w)) := by
    rw [Pattern.split?_run, htake, hdrop]
  have hlast : (Pattern.run Text.isBlank).split? (behind ++ w) = some (behind, w) := by
    rw [Pattern.split?_run, htake', hdrop']
  have hnothing : (Pattern.inOrder []).split? w = some ([], w) := rfl
  have h := Pattern.inOrder_cons hfirst (Pattern.inOrder_cons (p := .word ['=']) (a := ['=']) rfl
    (Pattern.inOrder_cons hlast hnothing))
  simpa [assignmentRule] using h

/-- Without an equals sign nothing is assigned. -/
theorem split?_assignment_of_ne {space w : Text} {c : Char} (hspace : IsSpace space)
    (hblank : Text.isBlank c = false) (hc : c ≠ '=') :
    assignmentRule.pattern.split? (space ++ c :: w) = none := by
  obtain ⟨htake, hdrop⟩ := takeWhile_exact (w := c :: w) hspace (by simpa using hblank)
  simp [assignmentRule, Pattern.inOrder, Pattern.split?_followedBy, Pattern.split?_run, htake,
    hdrop, Pattern.split?_word, Text.after?, Ne.symm hc]

/-- White space between attributes gives nothing, and behind it the lexer stands in the tag. -/
theorem reads_between {m : Mode} (hm : m.beside) {space : Text} (hne : space ≠ [])
    (hspace : IsSpace space) :
    ∃ v, Gives v id ∧ ∀ (c : Char) (w : Text), Text.isBlank c = false → c ≠ '=' →
      Reads m (space ++ c :: w) v .tag (c :: w) := by
  rcases hm with rfl | rfl
  · exact ⟨[], gives_nil, fun c w hblank _ => reads_blank hne hspace hblank⟩
  · refine ⟨_, gives_attrEnd space, ?_⟩
    intro c w hblank hc
    obtain ⟨htake, hdrop⟩ := takeWhile_exact (w := c :: w) hspace (by simpa using hblank)
    have hbefore : firstMatch? [assignmentRule] (space ++ c :: w) = none := by
      simp [firstMatch?, Rule.take?, split?_assignment_of_ne hspace hblank hc]
    have hsplit : attrEndRule.pattern.split? (space ++ c :: w) = some (space, c :: w) := by
      rw [attrEndRule, Pattern.split?_someOf, htake, hdrop, if_neg hne]
    have hmatch := firstMatch?_of_split? [assignmentRule] attrEndRule tagRules hbefore hsplit hne
    exact Reads.one (m := .attribute false) hmatch

/-! ### Values -/

theorem isBareValue_iff {c : Char} :
    isBareValue c = true ↔ Text.isBlank c = false ∧ c ≠ '"' ∧ c ≠ '\'' ∧
    c ≠ '<' ∧ c ≠ '>' ∧ c ≠ '=' ∧ c ≠ Char.ofNat 0x60 := by
  simp [isBareValue, and_assoc]

theorem IsQuote.not_isBlank {q : Char} (hq : IsQuote q) : Text.isBlank q = false := by
  rcases hq with rfl | rfl <;> decide

/-- A value starts with a character that is no white space. -/
theorem Value.head_render (value : Value) (w : Text) :
    ∀ c, (value.render ++ w).head? = some c → Text.isBlank c = false := by
  intro c hc
  cases value with
  | quoted quote text isQuote free =>
    cases hc
    exact isQuote.not_isBlank
  | bare text ne_nil chars =>
    cases text with
    | nil => exact absurd rfl ne_nil
    | cons d text =>
      obtain rfl : d = c := Option.some.inj hc
      exact (isBareValue_iff.1 (chars d List.mem_cons_self)).1

theorem split?_quoted {q : Char} {text : Text} (h : q ∉ text) (w : Text) :
    (quotedValue q).split? (q :: text ++ q :: w) = some (q :: text ++ [q], w) := by
  obtain ⟨htake, hdrop⟩ := takeWhile_exact (w := q :: w) (Gap.all_ne_of_not_mem h) (by simp)
  have hsplit := Gap.split?_quotedValue hdrop
  rw [htake] at hsplit
  exact hsplit

/-- Whether a value stands without quotes. -/
def Value.isBare : Value → Bool
  | quoted _ _ _ _ => false
  | bare _ _ _ => true

/-- A value is taken as it is written, if it is quoted or nothing behind it could be part of it. -/
theorem Value.split?_render (value : Value) {w : Text}
    (hw : value.isBare = true → ∀ c, w.head? = some c → isBareValue c = false) :
    attributeValue.split? (value.render ++ w) = some (value.render, w) := by
  cases value with
  | quoted quote text isQuote free =>
    have hquoted := split?_quoted free w
    have hrender : (Value.quoted quote text isQuote free).render ++ w =
        quote :: text ++ quote :: w := by
      simp [Value.render]
    rw [hrender, attributeValue, Pattern.split?_orElse, Pattern.split?_orElse]
    rcases isQuote with rfl | rfl
    · rw [hquoted]
      rfl
    -- the alternative of double quotes comes first and turns down a single one
    · have hother := Gap.split?_quotedValue_of_ne (q := '"') (c := '\'')
        (by decide) (text ++ '\'' :: w)
      rw [List.cons_append, hother, ← List.cons_append, hquoted]
      rfl
  | bare text ne_nil chars =>
    cases text with
    | nil => exact absurd rfl ne_nil
    | cons c text =>
      obtain ⟨-, hdouble, hsingle, -⟩ := isBareValue_iff.1 (chars c List.mem_cons_self)
      obtain ⟨htake, hdrop⟩ := takeWhile_exact chars (hw rfl)
      have hbare : (Pattern.someOf isBareValue).split? (c :: text ++ w) = some (c :: text, w) := by
        rw [Pattern.split?_someOf, htake, hdrop]
        simp
      rw [Value.render, attributeValue, Pattern.split?_orElse, Pattern.split?_orElse,
        List.cons_append, Gap.split?_quotedValue_of_ne (Ne.symm hdouble),
        Gap.split?_quotedValue_of_ne (Ne.symm hsingle)]
      exact hbare

theorem strip_of_ends {q : Char} (hq : Text.isBlank q = false) (s : Text) :
    Text.strip (q :: s ++ [q]) = q :: s ++ [q] := by
  simp [Text.strip, Text.trim, Text.dropEndWhile, hq]

theorem strip_of_visible {s : Text} (h : ∀ c ∈ s, Text.isBlank c = false) : Text.strip s = s := by
  have hall : ∀ l : Text, (∀ c ∈ l, Text.isBlank c = false) → l.dropWhile Text.isBlank = l := by
    intro l hl
    cases l with
    | nil => rfl
    | cons c l => simp [hl c List.mem_cons_self]
  rw [Text.strip, Text.trim, hall s h, Text.dropEndWhile, hall s.reverse fun c hc =>
    h c (List.mem_reverse.1 hc),
    List.reverse_reverse]

/-- **A value means the same in any quotes.** -/
theorem Value.normalize_render (value : Value) :
    Kind.attrValue.normalize value.render = '"' :: value.text ++ ['"'] := by
  -- white space is stripped before the quotes, so white space inside them stays
  have hstrip : withoutQuotes (Text.strip value.render) = value.text := by
    cases value with
    | quoted quote text isQuote free =>
      have hend : Text.endsWith [quote] (text ++ [quote]) = true := by simp [Text.endsWith]
      have hquote : quote = '"' ∨ quote = '\'' := isQuote
      show withoutQuotes (Text.strip (quote :: text ++ [quote])) = text
      rw [strip_of_ends isQuote.not_isBlank]
      simp [withoutQuotes, hquote, Text.before?, hend]
    | bare text ne_nil chars =>
      show withoutQuotes (Text.strip text) = text
      rw [strip_of_visible fun c hc => (isBareValue_iff.1 (chars c hc)).1]
      cases text with
      | nil => rfl
      | cons c text =>
        obtain ⟨-, hdouble, hsingle, -⟩ := isBareValue_iff.1 (chars c List.mem_cons_self)
        simp [withoutQuotes, hdouble, hsingle]
  show '"' :: withoutQuotes (Text.strip value.render) ++ ['"'] = _
  rw [hstrip]

/-! ### Attributes -/

theorem isTagName_of_isBlank {c : Char} (h : Text.isBlank c = true) : isTagName c = false := by
  cases hc : isTagName c with
  | false => rfl
  | true =>
    rw [isBlank_of_isTagName hc] at h
    cases h

/-- What may follow a name or a value. -/
structure Stops (w : Text) : Prop where
  tagName : ∀ c, w.head? = some c → isTagName c = false
  name : ∀ c, w.head? = some c → isAttributeName c = false
  value : ∀ c, w.head? = some c → isBareValue c = false

theorem stops_of_blank {c : Char} (hc : Text.isBlank c = true) (w : Text) : Stops (c :: w) where
  tagName d hd := by cases hd; exact isTagName_of_isBlank hc
  name d hd := by cases hd; simp [isAttributeName, hc]
  value d hd := by cases hd; simp [isBareValue, hc]

theorem stops_of_space {space : Text} (hne : space ≠ []) (hspace : IsSpace space) (w : Text) :
    Stops (space ++ w) := by
  cases space with
  | nil => exact absurd rfl hne
  | cons c space => exact stops_of_blank (hspace c List.mem_cons_self) (space ++ w)

/-- What follows an attribute is no part of its name, nor of a value without quotes. -/
structure Attribute.EndsAt (a : Attribute) (w : Text) : Prop where
  name : ∀ c, w.head? = some c → isAttributeName c = false
  value : ∀ assigned ∈ a.assigned, assigned.value.isBare = true → ∀ c, w.head? = some c →
    isBareValue c = false

theorem Stops.endsAt {w : Text} (h : Stops w) (a : Attribute) : a.EndsAt w :=
  ⟨h.name, fun _ _ _ => h.value⟩

theorem gives_name (a : Attribute) (hassigned : a.assigned = none) :
    Gives [⟨.attrName, Text.lower a.name⟩] (Attributes.add · a) where
  no_open := by simp
  read found pending := by
    cases hhas : found.has (Text.lower a.name) with
    | true =>
      refine ⟨none, fun tokens => ?_⟩
      simp [Attributes.readFrom, Sign.token, Kind.endsTag, Attributes.add, hhas]
    | false =>
      refine ⟨some (Text.lower a.name), fun tokens => ?_⟩
      simp [Attributes.readFrom, Sign.token, Kind.endsTag, Attributes.add, hhas,
        Attribute.value?, hassigned]

theorem not_mem_of_has_eq_false {found : Attributes} {name : Text} (h : found.has name = false) :
    name ∉ found.map Prod.fst := by
  intro hin
  obtain ⟨a, ha, rfl⟩ := List.mem_map.1 hin
  rw [Attributes.has, Option.isSome_eq_false_iff, Option.isNone_iff_eq_none,
    List.lookup_eq_none_iff] at h
  simpa using h a ha

theorem gives_assigned (a : Attribute) (assigned : Assignment)
    (hassigned : a.assigned = some assigned) (s : Text) :
    Gives [⟨.attrName, Text.lower a.name⟩, ⟨.attrAssignment, s⟩,
      ⟨.attrValue, '"' :: assigned.value.text ++ ['"']⟩]
      (Attributes.add · a) where
  no_open := by simp
  read found pending := by
    refine ⟨none, fun tokens => ?_⟩
    have hvalue : unquote ('"' :: (assigned.value.text ++ ['"'])) = assigned.value.text :=
      unquote_quoted _
    cases hhas : found.has (Text.lower a.name) with
    | true => simp [Attributes.readFrom, Sign.token, Kind.endsTag, Attributes.add, hhas]
    | false =>
      have hset := setValue_append_singleton (not_mem_of_has_eq_false hhas) none assigned.value.text
      simp [Attributes.readFrom, Sign.token, Kind.endsTag, Attributes.add, hhas, hvalue, hset,
        Attribute.value?, hassigned]

/-- An attribute is read up to its end, and it counts if it is the first one with its name. -/
theorem Attribute.reads (a : Attribute) {m : Mode} (hm : m.beside) :
    ∃ v m', m'.beside ∧ Gives v (Attributes.add · a) ∧ ∀ w, a.EndsAt w →
      Reads m (a.render ++ w) v m' w := by
  obtain ⟨c, name, hname⟩ := List.exists_cons_of_ne_nil a.name_ne
  have hchars := a.name_chars
  rw [hname] at hchars
  obtain ⟨hblank, -, -, -, -, -, hequals⟩ := isAttributeName_iff.1 (hchars c List.mem_cons_self)
  obtain ⟨v, hnothing, hspace⟩ := reads_between hm a.space_ne a.is_space
  cases hassigned : a.assigned with
  | none =>
    refine ⟨_, .attribute false, .inr rfl, hnothing.append (gives_name a hassigned), ?_⟩
    intro w hw
    have hrender : a.render ++ w = a.space ++ c :: (name ++ w) := by
      simp [Attribute.render, hassigned, hname]
    rw [hrender, hname]
    exact (hspace c _ hblank hequals).trans (reads_attrName hchars hw.name)
  | some assigned =>
    have hgives := gives_assigned a assigned hassigned (Kind.attrAssignment.normalize
      (assigned.before ++ '=' :: assigned.behind))
    rw [← assigned.value.normalize_render, hname] at hgives
    refine ⟨_, .tag, .inl rfl, hnothing.append hgives, ?_⟩
    intro w hw
    have hrender : a.render ++ w = a.space ++ c :: (name ++ (assigned.before ++ '=' ::
        (assigned.behind ++ (assigned.value.render ++ w)))) := by
      simp [Attribute.render, Assignment.render, hassigned, hname]
    -- the name ends at the white space in front of the equals sign, or at that sign
    have hstop : ∀ d, (assigned.before ++ '=' ::
        (assigned.behind ++ (assigned.value.render ++ w))).head? =
        some d → isAttributeName d = false := by
      cases hb : assigned.before with
      | nil => exact isAttributeName_assignment _
      | cons d before =>
        have hd : Text.isBlank d = true := assigned.before_space d (hb ▸ List.mem_cons_self)
        exact (stops_of_blank hd _).name
    have hassign := firstMatch?_of_split? [] assignmentRule (attrEndRule :: tagRules) rfl
      (split?_assignment assigned.before_space assigned.behind_space
        (assigned.value.head_render w)) (by simp)
    have hne : assigned.value.render ≠ [] := by
      cases assigned.value with
      | quoted quote text isQuote free => exact List.cons_ne_nil _ _
      | bare text ne_nil chars => exact ne_nil
    have hvalue := firstMatch?_of_split? [] valueRule tagRules rfl
      (assigned.value.split?_render (hw.value assigned hassigned)) hne
    have hread := (reads_attrName hchars hstop).trans
      ((Reads.one (m := .attribute false) hassign).trans
      (Reads.one (m := .attribute true) hvalue))
    rw [hrender]
    exact (hspace c _ hblank hequals).trans hread

/-- **All attributes of a tag are read.** The induction is on the attributes; the mode that the
lexer stands in behind one of them depends on whether it has a value. -/
theorem reads_attributes (attributes : List Attribute) {m : Mode} (hm : m.beside) :
    ∃ v m', m'.beside ∧ Gives v (fun found => attributes.foldl Attributes.add found) ∧
      ∀ w, (∀ a ∈ attributes, a.EndsAt w) →
        Reads m (attributes.flatMap Attribute.render ++ w) v m' w := by
  induction attributes generalizing m with
  | nil => exact ⟨[], m, hm, gives_nil, fun w _ => .done m w⟩
  | cons a attributes ih =>
    obtain ⟨v, m', hm', hgives, hread⟩ := a.reads hm
    obtain ⟨v', m'', hm'', hgives', hread'⟩ := ih hm'
    refine ⟨v ++ v', m'', hm'', hgives.append hgives', ?_⟩
    intro w hw
    have hnext : a.EndsAt (attributes.flatMap Attribute.render ++ w) := by
      cases attributes with
      | nil => exact hw a List.mem_cons_self
      | cons b attributes =>
        rw [List.flatMap_cons, Attribute.render, List.append_assoc, List.append_assoc]
        exact (stops_of_space b.space_ne b.is_space _).endsAt a
    rw [List.flatMap_cons, List.append_assoc]
    exact (hread _ hnext).trans (hread' w fun b hb => hw b (List.mem_cons_of_mem a hb))

/-- The start of a tag is its name, whatever attributes stand behind it. -/
theorem firstMatch?_front {name : Text} (hname : IsName name) (attributes : List Attribute)
    {w : Text} (hw : ∀ c, w.head? = some c → isTagName c = false) :
    firstMatch? textRules ('<' :: name ++ (attributes.flatMap Attribute.render ++ w)) =
      some (openRule, '<' :: name, attributes.flatMap Attribute.render ++ w) := by
  obtain ⟨c, rest, rfl, hc, hrest⟩ := hname
  apply firstMatch?_tagOpen hc hrest
  cases attributes with
  | nil => exact hw
  | cons a attributes =>
    rw [List.flatMap_cons, Attribute.render, List.append_assoc, List.append_assoc]
    exact (stops_of_space a.space_ne a.is_space _).tagName

theorem reads_front {name : Text} (hname : IsName name) (attributes : List Attribute) {w : Text}
    (hw : ∀ c, w.head? = some c → isTagName c = false) :
    Reads .text ('<' :: name ++ (attributes.flatMap Attribute.render ++ w))
      [⟨.tagOpen, Text.lower name⟩] .tag
      (attributes.flatMap Attribute.render ++ w) := by
  have hread := Reads.one (m := .text) (firstMatch?_front hname attributes hw)
  obtain ⟨c, rest, rfl, hc, hrest⟩ := hname
  rw [← normalize_tagOpen hc hrest]
  exact hread

/-! ### Ends -/

/-- What ends a tag, with or without a slash. -/
def endMark (slash : Bool) : Text :=
  if slash then ['/', '>'] else ['>']

/-- The rule of what ends a tag. -/
def endRule (slash : Bool) : Rule :=
  ⟨if slash then .tagSelfClose else .tagEnd, .word (endMark slash), .text⟩

/-- The sign of what ends a tag. -/
def endSign (slash : Bool) : Sign :=
  ⟨(endRule slash).kind, endMark slash⟩

theorem firstMatch?_endMark (slash : Bool) {m : Mode} (hm : m.beside) (w : Text) :
    firstMatch? m.rules (endMark slash ++ w) = some (endRule slash, endMark slash, w) := by
  rcases hm with rfl | rfl <;> cases slash <;> rfl

theorem endsTag_endSign (slash : Bool) : (endSign slash).kind.endsTag = true := by
  cases slash <;> rfl

theorem reads_endMark (slash : Bool) {m : Mode} (hm : m.beside) (w : Text) :
    Reads m (endMark slash ++ w) [endSign slash] .text w := by
  have hread := Reads.one (firstMatch?_endMark slash hm w)
  cases slash <;> exact hread

/-- White space in front of the end of a tag gives nothing. -/
theorem reads_endSpace {m : Mode} (hm : m.beside) {space : Text}
    (hspace : IsSpace space) (slash : Bool) :
    ∃ v m', m'.beside ∧ Gives v id ∧ ∀ w, Reads m (space ++ (endMark slash ++ w)) v m'
      (endMark slash ++ w) := by
  by_cases hne : space = []
  · exact ⟨[], m, hm, gives_nil, fun w => hne ▸ .done m _⟩
  · obtain ⟨v, hgives, hread⟩ := reads_between hm hne hspace
    refine ⟨v, .tag, .inl rfl, hgives, ?_⟩
    intro w
    cases slash
    · exact hread '>' w (by decide) (by decide)
    · exact hread '/' ('>' :: w) (by decide) (by decide)

/-- What ends a tag ends the reading of its attributes, whatever stood in front of it. -/
theorem Gives.readFrom_end {v : List Sign} {f : Attributes → Attributes} (h : Gives v f)
    (slash : Bool) (found : Attributes) (pending : Option Text) (tokens : List Token) :
    Attributes.readFrom found pending ((v ++ [endSign slash]).map Sign.token ++ tokens) =
      (f found, tokens) := by
  obtain ⟨pending', hread⟩ := h.read found pending
  have hends : (endSign slash).token.kind.endsTag = true := endsTag_endSign slash
  rw [List.map_append, List.append_assoc, hread]
  simp [Attributes.readFrom, hends]

def Ending.space : Ending → Text
  | plain space _ => space
  | void space _ _ => space

def Ending.slash : Ending → Bool
  | plain _ _ => false
  | void _ _ _ => true

theorem Ending.render_eq (ending : Ending) :
    ending.render = ending.space ++ endMark ending.slash := by
  cases ending <;> rfl

theorem Ending.isSpace (ending : Ending) : IsSpace ending.space := by
  cases ending <;> assumption

theorem Ending.stops (ending : Ending) (w : Text) : Stops (ending.render ++ w) := by
  cases ending with
  | plain space is_space =>
    cases space with
    | nil => constructor <;> intro c hc <;> cases hc <;> decide
    | cons c space => exact stops_of_blank (is_space c List.mem_cons_self) _
  | void space is_space space_ne =>
    rw [Ending.render, List.append_assoc]
    exact stops_of_space space_ne is_space _

/-- **Inside a tag its own attributes are read, up to its end**, whatever stands behind it. -/
theorem Element.reads_inside (e : Element) :
    ∃ v m, m.beside ∧ Gives v (fun found => e.attributes.foldl Attributes.add found) ∧
      ∀ w, Reads .tag (e.attributes.flatMap Attribute.render ++ (e.ending.render ++ w)) v m
        (endMark e.ending.slash ++ w) := by
  obtain ⟨v, m, hm, hgives, hread⟩ := reads_attributes e.attributes (.inl rfl)
  obtain ⟨v', m', hm', hnothing, hspace⟩ := reads_endSpace hm e.ending.isSpace e.ending.slash
  refine ⟨v ++ v', m', hm', hgives.append hnothing, ?_⟩
  intro w
  have hend := hread (e.ending.render ++ w) fun a _ => (e.ending.stops w).endsAt a
  have hrest : e.ending.render ++ w = e.ending.space ++ (endMark e.ending.slash ++ w) := by
    rw [e.ending.render_eq, List.append_assoc]
  rw [hrest] at hend ⊢
  exact hend.trans (hspace w)

theorem Element.render_append (e : Element) (w : Text) :
    e.render ++ w = '<' :: e.name ++ (e.attributes.flatMap Attribute.render ++
      (e.ending.render ++ w)) := by
  simp [Element.render]

/-! ## Reading nodes -/

/-- The tags that a node opens and that have one of these names. -/
def Node.tags (names : Text → Bool) : Node → List (Text × Attributes)
  | element e => if names (Text.lower e.name) then [(Text.lower e.name, e.read)] else []
  | _ => []

/-- The rules of markup all start with an angle bracket, so without one in
front one of the others applies. -/
theorem filler_of_firstMatch? {c : Char} {s found rest : Text} {rule : Rule} (hc : '<' ≠ c)
    (hf : firstMatch? textRules (c :: s) = some (rule, found, rest)) :
    rule.kind.isFiller = true ∧ rule.next = .text ∧ '<' ∉ found := by
  have hmem := Mode.mem_rules_of_firstMatch? hf
  have hsplit := split?_of_firstMatch? hf
  have hword : ∀ w, Text.after? ('<' :: w) (c :: s) = none := by
    intro w
    simp [Text.after?, hc]
  -- the rules of markup start with an opening bracket; only the last three are left
  have hmarkup : ∀ {w patterns}, (Pattern.inOrder (.word ('<' :: w) :: patterns)).split? (c :: s) ≠
      some (found, rest) := by
    intro w patterns
    rw [Pattern.inOrder, List.foldr_cons, Pattern.split?_followedBy, Pattern.split?_word, hword]
    simp
  simp only [textRules, List.mem_cons, List.not_mem_nil, or_false] at hmem
  rcases hmem with rfl | rfl | rfl | rfl | rfl | rfl | rfl
  · rw [Pattern.split?_word, hword] at hsplit
    cases hsplit
  · exact absurd hsplit hmarkup
  · exact absurd hsplit hmarkup
  · exact absurd hsplit hmarkup
  · refine ⟨rfl, rfl, ?_⟩
    rcases isNewline_of_split? hsplit with rfl | rfl | rfl <;> decide
  · refine ⟨rfl, rfl, fun hmem => ?_⟩
    exact absurd (isIndent_of_split? hsplit _ hmem) (by decide)
  · refine ⟨rfl, rfl, fun hmem => ?_⟩
    rw [Pattern.split?_orElse, Pattern.split?_word, hword] at hsplit
    have hsome : (Pattern.someOf isProse).split? (c :: s) = some (found, rest) := hsplit
    rw [Pattern.split?_someOf, Option.ite_none_left_eq_some] at hsome
    obtain ⟨-, rfl, -⟩ := hsome
    exact absurd (List.all_eq_true.1 List.all_takeWhile _ hmem) (by decide)

/-- What stands in front of the next angle bracket carries no markup. -/
theorem reads_prose (s : Text) : Reads .text s [] .text (s.dropWhile (· ≠ '<')) := by
  induction hn : s.length using Nat.strongRecOn generalizing s with
  | _ n ih =>
    cases s with
    | nil => exact .done _ _
    | cons c s =>
      -- the induction is on the length, as a rule for prose takes many characters at once
      by_cases hc : '<' = c
      · subst hc
        simpa using Reads.done .text ('<' :: s)
      · obtain ⟨rule, found, rest, hf⟩ := exists_firstMatch? .text c s
        obtain ⟨-, happ⟩ := append_of_firstMatch? hf
        obtain ⟨hfiller, hnext, hfound⟩ := filler_of_firstMatch? hc hf
        have hdrop : (c :: s).dropWhile (· ≠ '<') = rest.dropWhile (· ≠ '<') := by
          rw [← happ]
          exact List.dropWhile_append_of_pos (Gap.all_ne_of_not_mem hfound)
        have hlt : rest.length < n := hn ▸ length_lt_of_firstMatch? hf
        have hstep := Reads.one (m := .text) hf
        rw [hnext, Sign.ofPiece, if_pos hfiller] at hstep
        rw [hdrop]
        exact hstep.trans (ih _ hlt rest rfl)

/-- A text without angle brackets carries no markup, whatever follows it. -/
theorem signsFrom_text {s : Text} (h : '<' ∉ s) (w : Text) :
    signsFrom .text (s ++ w) = signsFrom .text w := by
  have hdrop : (s ++ w).dropWhile (· ≠ '<') = w.dropWhile (· ≠ '<') :=
    List.dropWhile_append_of_pos (Gap.all_ne_of_not_mem h)
  rw [(reads_prose (s ++ w)).signsFrom_eq, (reads_prose w).signsFrom_eq, hdrop]

/-- A document type is read as one, so it is no comment. -/
theorem reads_docType {body : Text} (hne : body ≠ []) (hopen : '>' ∉ body)
    (hcomment : ¬ ['-', '-'] <+: body) (w : Text) : ∃ sign : Sign, sign.kind ≠ .tagOpen ∧
      Reads .text (['<', '!'] ++ body ++ ['>'] ++ w) [sign] .text w := by
  have hcut : ['<', '!'] ++ body ++ ['>'] ++ w = '<' :: '!' :: (body ++ '>' :: w) := by simp
  obtain ⟨htake, hdrop⟩ := takeWhile_exact (w := '>' :: w) (Gap.all_ne_of_not_mem hopen) (by simp)
  have hsplit := Gap.split?_docType hdrop
  rw [htake, if_neg hne] at hsplit
  -- the rule of comments comes first and would take a body that starts with two hyphens
  have hbefore : firstMatch? [commentRule] ('<' :: '!' :: (body ++ '>' :: w)) = none := by
    have hafter : Text.after? ['<', '!', '-', '-'] ('<' :: '!' :: (body ++ '>' :: w)) = none := by
      rcases body with _ | ⟨a, _ | ⟨b, body⟩⟩
      · exact absurd rfl hne
      · simp [Text.after?]
      · simp only [Text.after?, List.cons_append, if_true]
        split
        · next ha =>
          split
          · next hb =>
            exact absurd ⟨body, by rw [← ha, ← hb]; rfl⟩ hcomment
          · rfl
        · rfl
    simp [firstMatch?, Rule.take?, commentRule, Pattern.split?_word, hafter]
  have hmatch := firstMatch?_of_split? [commentRule] ⟨.docType, Gap.docType, .text⟩
    (textRules.drop 2) hbefore hsplit (by simp)
  rw [hcut]
  exact ⟨_, by simp, Reads.one (m := .text) hmatch⟩

/-- A closing tag is read as one. -/
theorem reads_closeTag {name space : Text} (hname : IsName name)
    (hspace : IsSpace space) (w : Text) :
    Reads .text (['<', '/'] ++ name ++ space ++ ['>'] ++ w)
      [⟨.tagClose, Kind.tagClose.normalize (['<', '/'] ++ name ++ space ++ ['>'])⟩] .text w := by
  obtain ⟨c, name, rfl, hc, hrest⟩ := hname
  have hblank : Text.isBlank c = false := isBlank_of_isTagName (by simp [isTagName, hc])
  have hend : ∀ d, (space ++ '>' :: w).head? = some d → isTagName d = false := by
    intro d hd
    cases space with
    | nil =>
      cases hd
      decide
    | cons e space =>
      obtain rfl : e = d := Option.some.inj hd
      exact isTagName_of_isBlank (hspace e List.mem_cons_self)
  obtain ⟨htake, hdrop⟩ := takeWhile_exact hrest hend
  obtain ⟨htake', hdrop'⟩ :=
    takeWhile_exact (w := '>' :: w) hspace (by simpa using isBlank_of_ascii (by decide) (by decide))
  have hsplit : closeRule.pattern.split? ('<' :: '/' :: c :: (name ++ (space ++ '>' :: w))) =
      some (['<', '/'] ++ (c :: name ++ (space ++ ['>'])), w) := by
    -- pattern by pattern: no white space in front, the name, the white space behind it
    have hlead : (Pattern.run Text.isBlank).split? (c :: (name ++ (space ++ '>' :: w))) =
        some ([], c :: (name ++ (space ++ '>' :: w))) := by
      rw [Pattern.split?_run, List.takeWhile_cons_of_neg (by simp [hblank]),
        List.dropWhile_cons_of_neg (by simp [hblank])]
    have hletter : (Pattern.one Text.isLetter).split? (c :: (name ++ (space ++ '>' :: w))) =
        some ([c], name ++ (space ++ '>' :: w)) := by
      rw [Pattern.split?_one, if_pos hc]
    have hrun : (Pattern.run isTagName).split? (name ++ (space ++ '>' :: w)) =
        some (name, space ++ '>' :: w) := by
      rw [Pattern.split?_run, htake, hdrop]
    have hgap : (Pattern.run Text.isBlank).split? (space ++ '>' :: w) = some (space, '>' :: w) := by
      rw [Pattern.split?_run, htake', hdrop']
    have hnothing : (Pattern.inOrder []).split? w = some ([], w) := rfl
    have hstart : (Pattern.word ['<', '/']).split?
      ('<' :: '/' :: c :: (name ++ (space ++ '>' :: w))) =
        some (['<', '/'], c :: (name ++ (space ++ '>' :: w))) := rfl
    have h := Pattern.inOrder_cons hstart (Pattern.inOrder_cons hlead
      (Pattern.inOrder_cons hletter (Pattern.inOrder_cons hrun (Pattern.inOrder_cons hgap
        (Pattern.inOrder_cons (p := .word ['>']) rfl hnothing)))))
    exact h
  have hcut : ['<', '/'] ++ (c :: name) ++ space ++ ['>'] ++ w =
      '<' :: '/' :: c :: (name ++ (space ++ '>' :: w)) := by simp
  have hmatch := firstMatch?_of_split? (textRules.take 2) closeRule (textRules.drop 3)
    rfl hsplit (by simp)
  have htag : ['<', '/'] ++ (c :: name) ++ space ++ ['>'] =
    ['<', '/'] ++ (c :: name ++ (space ++ ['>'])) := by simp
  rw [hcut, htag]
  exact Reads.one (m := .text) hmatch

/-- A node without tags leaves the reading of what follows as it is. -/
theorem tagsOf_of_reads (names : Text → Bool) {s w : Text} {sign : Sign}
    (hsign : sign.kind ≠ .tagOpen) (hread : Reads .text (s ++ w) [sign] .text w) :
    tagsOf names (signsFrom .text (s ++ w)) = tagsOf names (signsFrom .text w) := by
  rw [hread.signsFrom_eq]
  exact tagsOf_append_of_ne names (by simpa using hsign) _

/-- An opening tag is read with its own attributes, and nothing behind it counts among them. -/
theorem tagsOf_element (names : Text → Bool) (e : Element) (w : Text) :
    tagsOf names (signsFrom .text (e.render ++ w)) =
      (Node.element e).tags names ++ tagsOf names (signsFrom .text w) := by
  obtain ⟨v, m, hm, hgives, hinside⟩ := e.reads_inside
  have hopen : ∀ sign ∈ v ++ [endSign e.ending.slash], sign.kind ≠ .tagOpen := by
    intro sign hsign
    rcases List.mem_append.1 hsign with hsign | hsign
    · exact hgives.no_open sign hsign
    · rw [List.mem_singleton.1 hsign]
      cases e.ending.slash <;> decide
  have hread := (hinside w).trans (reads_endMark e.ending.slash hm w)
  rw [e.render_append, ((reads_front e.isName e.attributes (e.ending.stops w).tagName).trans
    hread).signsFrom_eq]
  exact tagsOf_open names (Text.lower e.name) hopen (hgives.readFrom_end e.ending.slash [] none)
    (signsFrom .text w)

/-- **Each node is read on its own.** -/
theorem tagsOf_node (names : Text → Bool) (node : Node) (w : Text) :
    tagsOf names (signsFrom .text (node.render ++ w)) =
      node.tags names ++ tagsOf names (signsFrom .text w) := by
  cases node with
  | text s plain =>
    rw [Node.render, signsFrom_text plain]
    rfl
  | comment body unended =>
    obtain ⟨space, -, hread⟩ := reads_comment unended
    have hsigns := (hread []).signsFrom_eq
    rw [List.append_nil, signsFrom_nil, List.append_nil] at hsigns
    rw [Node.render, (hread w).signsFrom_eq, tagsOf_append names (hread w), ← hsigns,
      tagsOf_comment unended]
    rfl
  | docType body ne_nil open_ended no_comment =>
    obtain ⟨sign, hsign, hread⟩ := reads_docType ne_nil open_ended no_comment w
    exact tagsOf_of_reads names hsign hread
  | close name space isName is_space =>
    exact tagsOf_of_reads names (by simp) (reads_closeTag isName is_space w)
  | element e => exact tagsOf_element names e w

/-- **The tags of a document are those of its nodes.** -/
theorem tagsNamed_render (names : Text → Bool) (nodes : List Node) :
    tagsNamed names (tokenize (render nodes)) = nodes.flatMap (Node.tags names) := by
  rw [tagsNamed_eq_tagsOf, signs_tokenize]
  induction nodes with
  | nil =>
    rw [render, List.flatMap_nil, signsFrom_nil]
    simp [tagsOf, tagsNamed]
  | cons node nodes ih =>
    rw [render, List.flatMap_cons, tagsOf_node, List.flatMap_cons, ← ih]
    rfl

/-- What a document's tags are, one by one. -/
theorem mem_tags_render {names : Text → Bool} {nodes : List Node} {tag : Text × Attributes} :
    tag ∈ tagsNamed names (tokenize (render nodes)) ↔
      ∃ e, .element e ∈ nodes ∧ names (Text.lower e.name) = true ∧
        tag = (Text.lower e.name, e.read) := by
  rw [tagsNamed_render, List.mem_flatMap]
  constructor
  · rintro ⟨node, hnode, htag⟩
    cases node with
    | element e =>
      simp only [Node.tags, List.mem_ite_nil_right, List.mem_singleton] at htag
      exact ⟨e, hnode, htag⟩
    | text | comment | docType | close => cases htag
  · rintro ⟨e, he, hname, rfl⟩
    refine ⟨_, he, ?_⟩
    rw [Node.tags, if_pos hname]
    exact List.mem_singleton_self _

end Markup
end SiteOptimizer
