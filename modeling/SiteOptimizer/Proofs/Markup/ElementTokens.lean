import SiteOptimizer.Proofs.Markup.Nodes

/-!
# The tokens of a tag

`Attributes.read` takes the tokens of one tag off those of a document. Here this is proved to undo
the writing of the tag (`read_render`): the attributes come back as they were written, and what is
left over is what the text behind the tag is cut into by itself, only further on in the document.

Signs leave out fillers and places, so they cannot say what is left over. What is new here is the
way back from them: a stretch of a document that reads as some signs is cut into tokens with these
signs, and the tokens of what follows come behind (`Reads.exists_tokens`).
-/

namespace SiteOptimizer
namespace Markup

variable {m m' : Mode} {s s' : Text} {v : List Sign}

/-! ## Tokens further on -/

/-- The token, `n` characters further on. -/
def Token.shift (n : Nat) (t : Token) : Token :=
  { t with offset := t.offset + n }

theorem shift_ofPiece (n : Nat) (kind : Kind) (piece : Text) (offset : Nat) :
    (Token.ofPiece kind piece offset).shift n = Token.ofPiece kind piece (offset + n : Nat) := by
  simp [Token.ofPiece, Token.shift]

theorem tokens_shift (l : Lexer) (n : Nat) :
    Lexer.tokens ⟨l.rest, l.offset + n, l.mode⟩ = l.tokens.map (Token.shift n) := by
  induction l using Lexer.induct with
  | done l h =>
    have hnone : Lexer.next ⟨l.rest, l.offset + n, l.mode⟩ = none := by
      rw [Lexer.next_eq_none_iff] at h ⊢
      exact h
    rw [Lexer.tokens_of_none h, Lexer.tokens_of_none hnone, List.map_nil]
  | step l rule found rest hf ih =>
    have hnext := Lexer.next_eq ⟨l.rest, l.offset + n, l.mode⟩ hf
    have hplace : l.offset + n + found.length = l.offset + found.length + n := by omega
    rw [Lexer.tokens_of_some hnext, Lexer.tokens_of_some (Lexer.next_eq l hf), List.map_cons,
      shift_ofPiece, ← ih]
    show _ :: Lexer.tokens ⟨rest, l.offset + n + found.length, rule.next⟩ = _
    rw [hplace]

/-- **A text is cut into the same tokens wherever it stands between tags.** -/
theorem tokens_text (s : Text) (offset : Nat) :
    Lexer.tokens ⟨s, offset, .text⟩ = (tokenize s).map (Token.shift offset) := by
  have h := tokens_shift (Lexer.ofText s) offset
  simpa [Lexer.ofText, tokenize] using h

/-- What has been read is a stretch of tokens, and the tokens of what is left come behind it. -/
theorem Reads.exists_tokens (h : Reads m s v m' s') (offset : Nat) :
    ∃ tokens offset', Lexer.tokens ⟨s, offset, m⟩ = tokens ++ Lexer.tokens ⟨s', offset', m'⟩ ∧
      signs tokens = v ∧ offset' + s'.length = offset + s.length := by
  induction h generalizing offset with
  | done m s => exact ⟨[], offset, rfl, rfl, rfl⟩
  | @step m m' s found rest s' rule v hf _ ih =>
    obtain ⟨tokens, offset', htokens, hsigns, hoffset⟩ := ih (offset + found.length)
    refine ⟨Token.ofPiece rule.kind found offset :: tokens, offset', ?_, ?_, ?_⟩
    · rw [Lexer.tokens_of_some (Lexer.next_eq ⟨s, offset, m⟩ hf), htokens]
      rfl
    · rw [signs_cons, hsigns]
    · rw [hoffset, ← (append_of_firstMatch? hf).2, List.length_append]
      omega

/-! ## Inside a tag -/

/-- As long as no other tag opens, whoever stands in a tag has not left it. -/
theorem Reads.stays_inTag (h : Reads m s v m' s') (hopen : ∀ sign ∈ v, sign.kind ≠ .tagOpen) :
    m'.inTag = true → m.inTag = true ∧ ∀ sign ∈ v, sign.kind.endsTag = false := by
  induction h with
  | done m s => intro hin; exact ⟨hin, by simp⟩
  | @step m m' s found rest s' rule v hf _ ih =>
    intro hin
    obtain ⟨hnext, hrest⟩ := ih (fun sign hs => hopen sign (List.mem_append_right _ hs)) hin
    have hkind : rule.kind ≠ .tagOpen := by
      intro hk
      refine hopen ⟨rule.kind, rule.kind.normalize found⟩ (List.mem_append_left v ?_) hk
      simp [Sign.ofPiece, hk, Kind.isFiller]
    -- a rule that leads into a tag starts one, and that is excluded, or it is a rule of the tag
    -- itself
    rcases Mode.rule_cases (Mode.mem_rules_of_firstMatch? hf) with
      ⟨-, ⟨hk, -⟩ | ⟨-, hout⟩⟩ | ⟨hm, -, ⟨-, hout⟩ | ⟨hend, -⟩⟩
    · exact absurd hk hkind
    · rw [hout] at hnext
      cases hnext
    · rw [hout] at hnext
      cases hnext
    · refine ⟨hm, ?_⟩
      intro sign hs
      rcases List.mem_append.1 hs with hs | hs
      · unfold Sign.ofPiece at hs
        split at hs
        · cases hs
        · rw [List.mem_singleton.1 hs]
          exact hend
      · exact hrest sign hs

/-- Up to the end of a tag the attributes depend on the signs of the tokens,
and so does what is left over. -/
theorem readFrom_signs {tokens : List Token} (h : ∀ sign ∈ signs tokens, sign.kind.endsTag = false)
    (found : Attributes) (pending : Option Text) (behind : List Token) :
    Attributes.readFrom found pending (tokens ++ behind) =
      Attributes.readFrom found pending ((signs tokens).map Sign.token ++ behind) := by
  induction tokens generalizing found pending with
  | nil => rfl
  | cons t tokens ih =>
    cases hfiller : t.kind.isFiller with
    | true =>
      have hsigns : signs (t :: tokens) = signs tokens := by simp [signs, hfiller]
      rw [hsigns] at h ⊢
      rw [List.cons_append, Attributes.readFrom_filler hfiller, ih h]
    | false =>
      have hsigns : signs (t :: tokens) = ⟨t.kind, t.value⟩ :: signs tokens := by
        simp [signs, hfiller]
      rw [hsigns] at h ⊢
      have hend : t.kind.endsTag = false := h ⟨t.kind, t.value⟩ List.mem_cons_self
      have ih := ih fun sign hs => h sign (List.mem_cons_of_mem _ hs)
      simp only [List.cons_append, List.map_cons, Attributes.readFrom, Sign.token, hend, ih,
        Bool.false_eq_true, if_false]

/-! ## The attributes that are read -/

/-- The names that are read are those that are written, each where it stands first. -/
theorem names_foldl_add (attributes : List Attribute) (found : Attributes) :
    (attributes.foldl Attributes.add found).map Prod.fst = found.map Prod.fst ++
      ((attributes.map fun a => Text.lower a.name).filter (· ∉ found.map Prod.fst)).eraseDups := by
  induction attributes generalizing found with
  | nil => simp
  | cons a attributes ih =>
    rw [List.foldl_cons, ih, List.map_cons]
    cases hhas : found.has (Text.lower a.name) with
    | true =>
      have hmem : Text.lower a.name ∈ found.map Prod.fst := by
        by_contra hnot
        rw [has_eq_false hnot] at hhas
        cases hhas
      have hadd : found.add a = found := by rw [Attributes.add, if_pos hhas]
      rw [hadd, List.filter_cons_of_neg (by simpa using hmem)]
    | false =>
      have hnot := not_mem_of_has_eq_false hhas
      have hadd : (found.add a).map Prod.fst = found.map Prod.fst ++ [Text.lower a.name] := by
        simp [Attributes.add, hhas]
      rw [hadd, List.filter_cons_of_pos (by simpa using hnot), List.eraseDups_cons,
        List.filter_filter, List.append_assoc, List.singleton_append]
      -- what is left to show is that the two filters take out the same names
      refine congrArg (fun names => _ ++ Text.lower a.name :: names) (congrArg List.eraseDups ?_)
      apply List.filter_congr
      intro name _
      rw [Bool.eq_iff_iff]
      simp [not_or, and_comm]

theorem names_read (e : Element) :
    e.read.map Prod.fst = (e.attributes.map fun a => Text.lower a.name).eraseDups := by
  rw [Element.read, names_foldl_add]
  simp

theorem lookup_read (e : Element) (name : Text) :
    e.read.lookup name = (e.attributes.find? fun a => Text.lower a.name = name).map
      Attribute.value? := by
  rw [Element.read, lookup_foldl_add]
  rfl

/-! ## A whole tag -/

/-- A tag is cut into the token that opens it, tokens that its attributes are read from,
and the token that ends it. -/
theorem Element.exists_tokens (e : Element) (w : Text) :
    ∃ tokens last, tokenize (e.render ++ w) = Token.ofPiece .tagOpen ('<' :: e.name) 0 ::
        (tokens ++ last :: (tokenize w).map (Token.shift e.render.length)) ∧
      last.kind.endsTag = true ∧ ∃ pending, ∀ behind,
        Attributes.readFrom [] none (tokens ++ behind) =
          Attributes.readFrom e.read pending behind := by
  obtain ⟨v, m, hm, hgives, hinside⟩ := e.reads_inside
  have hopen := firstMatch?_front e.isName e.attributes (e.ending.stops w).tagName
  rw [← e.render_append] at hopen
  obtain ⟨tokens, offset, htokens, hsigns, hoffset⟩ := (hinside w).exists_tokens (e.name.length + 1)
  have hend := firstMatch?_endMark e.ending.slash hm w
  -- the reading of the inside stops where the end mark starts, so its end is the end of the element
  have hplace : offset + (endMark e.ending.slash).length = e.render.length := by
    have hlength := congrArg List.length (e.render_append w)
    simp only [List.length_append, List.length_cons] at hoffset hlength
    omega
  refine ⟨tokens, Token.ofPiece (endRule e.ending.slash).kind (endMark e.ending.slash)
    offset, ?_, ?_, ?_⟩
  · have hfirst := Lexer.next_eq (Lexer.ofText (e.render ++ w)) hopen
    have hlast := Lexer.next_eq ⟨endMark e.ending.slash ++ w, offset, m⟩ hend
    rw [tokenize, Lexer.tokens_of_some hfirst, ← tokens_text, ← hplace]
    show _ :: Lexer.tokens ⟨_, 0 + ('<' :: e.name).length, .tag⟩ = _
    rw [Nat.zero_add, List.length_cons, htokens, Lexer.tokens_of_some hlast]
    rfl
  · exact endsTag_endSign e.ending.slash
  · obtain ⟨-, hstays⟩ := (hinside w).stays_inTag hgives.no_open
      (by rcases hm with rfl | rfl <;> rfl)
    obtain ⟨pending, hread⟩ := hgives.read [] none
    refine ⟨pending, ?_⟩
    intro behind
    rw [← hsigns] at hstays hread
    rw [readFrom_signs hstays, hread]
    rfl

/-- **Reading the attributes of a tag undoes writing them.** The tag opens with its name in lower
case. The attributes are the written names in lower case, each where it stands first, and each has
the value of the attribute that stands first with this name, if that has one. The tokens that are
left over are those of the text behind the tag, shifted by the length of the tag. -/
theorem read_render (e : Element) (w : Text) :
    ∃ t tokens attributes, tokenize (e.render ++ w) = t :: tokens ∧
      t.kind = .tagOpen ∧ t.text = '<' :: e.name ∧ t.value = Text.lower e.name ∧
      Attributes.read tokens = (attributes, (tokenize w).map (Token.shift e.render.length)) ∧
      attributes.map Prod.fst = (e.attributes.map fun a => Text.lower a.name).eraseDups ∧
      ∀ name, attributes.lookup name =
        (e.attributes.find? fun a => Text.lower a.name = name).map Attribute.value? := by
  obtain ⟨tokens, last, htokens, hend, pending, hread⟩ := e.exists_tokens w
  have hvalue : Kind.tagOpen.normalize ('<' :: e.name) = Text.lower e.name := by
    obtain ⟨c, rest, hname, hc, hrest⟩ := e.isName
    rw [hname]
    exact normalize_tagOpen hc hrest
  refine ⟨_, _, e.read, htokens, rfl, rfl, hvalue, ?_, names_read e, lookup_read e⟩
  rw [Attributes.read, hread]
  simp [Attributes.readFrom, hend]

end Markup
end SiteOptimizer
