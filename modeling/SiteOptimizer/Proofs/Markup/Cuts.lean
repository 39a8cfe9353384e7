import SiteOptimizer.Proofs.Markup.Coverage
import SiteOptimizer.Proofs.Markup.Tags

/-!
# An injected document piece by piece

`insertAll` corrects each offset by the length of what has gone in before it. What comes out is told
here without corrected offsets: the document is cut at the offsets that its closing tags had before
anything went in, and a block stands at each cut (`insertAll_eq_interleave`). What one pass over the
tokens has found by a place is told by the tokens in front of that place (`survey_eq`).
-/

namespace SiteOptimizer
namespace Markup

/-! ## Cutting and putting together -/

/-- The pieces of a text, cut at some places; a place is counted as the text's own start is. -/
def cuts (start : Int) (s : Text) : List Int → List Text
  | [] => [s]
  | place :: places =>
    s.take (place - start).toNat :: cuts place (s.drop (place - start).toNat) places

/-- The pieces with a block between each two. -/
def interleave : List Text → List Text → Text
  | pieces, [] => pieces.flatten
  | [], blocks => blocks.flatten
  | piece :: pieces, block :: blocks => piece ++ (block ++ interleave pieces blocks)

/-- Places of a text from `start` on, in order. -/
structure Places (start : Int) (s : Text) (places : List Int) : Prop where
  sorted : places.Pairwise (· ≤ ·)
  low : ∀ place ∈ places, start ≤ place
  high : ∀ place ∈ places, place ≤ start + s.length

section

variable {start place : Int} {s : Text} {places : List Int}

theorem flatten_cuts (start : Int) (s : Text) (places : List Int) :
    (cuts start s places).flatten = s := by
  induction places generalizing start s with
  | nil => simp [cuts]
  | cons place places ih => rw [cuts, List.flatten_cons, ih, List.take_append_drop]

theorem length_cuts (start : Int) (s : Text) (places : List Int) :
    (cuts start s places).length = places.length + 1 := by
  induction places generalizing start s with
  | nil => rfl
  | cons place places ih => rw [cuts, List.length_cons, ih, List.length_cons]

/-- What is left behind the first place has the other places in it. -/
theorem Places.tail (h : Places start s (place :: places)) :
    Places place (s.drop (place - start).toNat) places where
  sorted := (List.pairwise_cons.1 h.sorted).2
  low := (List.pairwise_cons.1 h.sorted).1
  high := by
    intro p hp
    have hplace := h.low place List.mem_cons_self
    have hend := h.high p (List.mem_cons_of_mem _ hp)
    rw [List.length_drop]
    omega

theorem Places.length_take (h : Places start s (place :: places)) :
    ((s.take (place - start).toNat).length : Int) = place - start := by
  have hlow := h.low place List.mem_cons_self
  have hhigh := h.high place List.mem_cons_self
  rw [List.length_take]
  omega

theorem interleave_cuts_append (a s : Text) (blocks : List Text)
    (h : ∀ place ∈ places, start + a.length ≤ place) :
    interleave (cuts start (a ++ s) places) blocks =
      a ++ interleave (cuts (start + a.length) s places) blocks := by
  cases places with
  | nil => cases blocks <;> simp [cuts, interleave]
  | cons place places =>
    have hplace := h place List.mem_cons_self
    have hlen : (place - start).toNat = a.length + (place - (start + a.length)).toNat := by omega
    rw [cuts, cuts, hlen, List.take_length_add_append, List.drop_length_add_append]
    cases blocks <;> simp [interleave]

/-- A place in front of which and behind which there are parts of one line, with
all others behind that line. -/
theorem interleave_cuts_cons {line : Text} (s block : Text) (blocks : List Text)
    (hlow : start ≤ place) (hhigh : place ≤ start + line.length)
    (h : ∀ p ∈ places, start + line.length ≤ p) :
    interleave (cuts start (line ++ s) (place :: places)) (block :: blocks) =
      line.take (place - start).toNat ++ (block ++ (line.drop (place - start).toNat ++
        interleave (cuts (start + line.length) s places) blocks)) := by
  have hle : (place - start).toNat ≤ line.length := by omega
  have hend : place + (line.drop (place - start).toNat).length = start + line.length := by
    rw [List.length_drop]
    omega
  have hbehind : ∀ p ∈ places, place + (line.drop (place - start).toNat).length ≤ p := by
    rw [hend]
    exact h
  -- what is left of the line stands in front of the next place, so it belongs to the next piece
  rw [cuts, interleave, List.take_append_of_le_length hle, List.drop_append_of_le_length hle,
    interleave_cuts_append _ _ _ hbehind, hend]

/-- **Corrected offsets are cuts.** `done` is the text so far with all that has gone into it, and
`shift` is by how much longer it is than what stood there; both grow by each block that goes in. -/
theorem insertAll_eq_interleave (plan : List (Int × Text)) (done : Text) {shift : Int}
    (hplaces : Places start s (plan.map Prod.fst)) (hshift : (done.length : Int) = start + shift) :
    insertAll (done ++ s) shift plan =
      done ++ interleave (cuts start s (plan.map Prod.fst)) (plan.map Prod.snd) := by
  induction plan generalizing done start s shift with
  | nil => simp [insertAll, cuts, interleave]
  | cons entry plan ih =>
    obtain ⟨place, block⟩ := entry
    have hlen : ((s.take (place - start).toNat).length : Int) = place - start := hplaces.length_take
    have hoffset : ((done ++ s.take (place - start).toNat).length : Int) = place + shift := by
      rw [List.length_append]
      omega
    have hnext : ((done ++ s.take (place - start).toNat ++ block).length : Int) =
        place + (shift + block.length) := by
      rw [List.length_append]
      omega
    have hsplit : done ++ s = done ++ s.take (place - start).toNat ++
        s.drop (place - start).toNat := by
      rw [List.append_assoc, List.take_append_drop]
    rw [insertAll, hsplit, insertAt_append _ _ _ hoffset, ih _ hplaces.tail hnext]
    simp only [List.map_cons, cuts, interleave, List.append_assoc]

end

/-! ## What a pass has found -/

/-- Whether lines go in front of a token. -/
def isTarget (frag : Text → Option Text) (t : Token) : Bool :=
  (closing frag t.kind t.value).isSome

def lastIndent (tokens : List Token) : Text :=
  ((tokens.filter (·.kind = .indent)).getLast?.map Token.value).getD []

def firstNewline? (tokens : List Token) : Option Text :=
  (tokens.find? (·.kind = .newline)).map Token.text

def tokensBefore (tokens : List Token) (place : Int) : List Token :=
  tokens.takeWhile (·.offset < place)

/-- What goes in front of one of the tokens of a document. -/
def insertionAt (document : Text) (frag : Text → Option Text) (tokens : List Token)
    (t : Token) : Insertion where
  offset := t.offset
  fragment := (frag t.value).getD []
  indent := lastIndent (tokensBefore tokens t.offset)
  hanging := (tokensBefore tokens t.offset).getLast?.any (startsLine document)

section

variable {document : Text} {frag : Text → Option Text} {tokens : List Token} {t : Token}

theorem isTarget_iff {headEnd bodyEnd : Text} :
    isTarget (fragmentFor headEnd bodyEnd) t = true ↔
      t.kind = .tagClose ∧ (t.value = headClose ∧ headEnd ≠ [] ∨ t.value = bodyClose ∧
        bodyEnd ≠ []) := by
  have hne : bodyClose ≠ headClose := by decide
  unfold isTarget closing fragmentFor
  by_cases hkind : t.kind = .tagClose
  · by_cases hhead : t.value = headClose
    · simp [hkind, hhead, hne.symm]
    · simp [hkind, hhead]
  · simp [hkind]

theorem frag_of_isTarget (h : isTarget frag t = true) :
    frag t.value = some ((frag t.value).getD []) := by
  unfold isTarget closing at h
  split at h
  · obtain ⟨fragment, hfragment⟩ := Option.isSome_iff_exists.1 h
    rw [hfragment, Option.getD_some]
  · cases h

theorem lastIndent_concat (tokens : List Token) (t : Token) :
    lastIndent (tokens ++ [t]) = if t.kind = .indent then t.value else lastIndent tokens := by
  unfold lastIndent
  split
  · next hk => simp [hk]
  · next hk => simp [hk]

theorem firstNewline?_concat (tokens : List Token) (t : Token) :
    firstNewline? (tokens ++ [t]) =
      (firstNewline? tokens).or (if t.kind = .newline then some t.text else none) := by
  unfold firstNewline?
  rw [List.find?_append]
  by_cases hk : t.kind = .newline
  · cases htokens : tokens.find? (·.kind = .newline) <;> simp [hk]
  · cases htokens : tokens.find? (·.kind = .newline) <;> simp [hk]

/-- The tokens in front of a token are those that stand before it in the list. -/
theorem tokensBefore_append {before : List Token} (h : ∀ u ∈ before, u.offset < t.offset)
    (after : List Token) :
    tokensBefore (before ++ t :: after) t.offset = before := by
  unfold tokensBefore
  rw [List.takeWhile_append_of_pos (by simpa using h),
    List.takeWhile_cons_of_neg (by simp), List.append_nil]

theorem tokensBefore_concat (h : tokens.Pairwise fun a b => a.offset < b.offset) {u : Token}
    (hu : u ∈ tokens) (t : Token) :
    tokensBefore (tokens ++ [t]) u.offset = tokensBefore tokens u.offset := by
  obtain ⟨before, after, rfl⟩ := List.append_of_mem hu
  have hbefore : ∀ v ∈ before, v.offset < u.offset := fun v hv =>
    (List.pairwise_append.1 h).2.2 v hv u List.mem_cons_self
  rw [List.append_assoc, List.cons_append, tokensBefore_append hbefore, tokensBefore_append hbefore]

/-- **What a pass has found by the end of some tokens.** The induction adds one token
at the end, as the pass does. -/
theorem foldl_step (h : tokens.Pairwise fun a b => a.offset < b.offset) :
    tokens.foldl (Survey.step document frag) ⟨[], none, none, []⟩ =
      ⟨lastIndent tokens, firstNewline? tokens, tokens.getLast?,
        (tokens.filter (isTarget frag)).map (insertionAt document frag tokens)⟩ := by
  induction tokens using List.reverseRecOn with
  | nil => rfl
  | append_singleton tokens t ih =>
    obtain ⟨htokens, -, hlast⟩ := List.pairwise_append.1 h
    have hbefore : ∀ u ∈ tokens, u.offset < t.offset := fun u hu => hlast u hu t List.mem_cons_self
    -- the insertions so far look back from tokens in front of this one, so they stay as they are
    have hsame : (tokens.filter (isTarget frag)).map (insertionAt document frag (tokens ++ [t])) =
        (tokens.filter (isTarget frag)).map (insertionAt document frag tokens) := by
      apply List.map_congr_left
      intro u hu
      simp only [insertionAt, tokensBefore_concat htokens (List.mem_filter.1 hu).1 t]
    have hnew : insertionAt document frag (tokens ++ [t]) t =
        ⟨t.offset, (frag t.value).getD [], lastIndent tokens,
          tokens.getLast?.any (startsLine document)⟩ := by
      simp only [insertionAt, tokensBefore_append hbefore []]
    rw [List.foldl_concat, ih htokens, lastIndent_concat, firstNewline?_concat,
      List.getLast?_concat, List.filter_append, List.map_append, hsame]
    unfold Survey.step
    cases hk : t.kind with
    | tagClose =>
      cases hfrag : frag t.value with
      | none => simp [isTarget, closing, hk, hfrag]
      | some fragment => simp [isTarget, closing, hk, hfrag, hnew]
    | _ => simp [isTarget, closing, hk]

theorem offsets_ascend (document : Text) :
    (tokenize document).Pairwise fun a b => a.offset < b.offset := by
  have htiles := tiles_tokenize document
  refine htiles.pairwise.imp_of_mem ?_
  intro a b ha _ hle
  exact Int.lt_of_lt_of_le (Token.offset_lt_endOffset (htiles.text_ne_nil a ha)) hle

theorem survey_eq (document : Text) (frag : Text → Option Text) :
    survey document frag =
      ⟨lastIndent (tokenize document), firstNewline? (tokenize document),
        (tokenize document).getLast?,
        ((tokenize document).filter (isTarget frag)).map
        (insertionAt document frag (tokenize document))⟩ :=
  foldl_step (offsets_ascend document)

end

/-! ## Injected documents -/

/-- The closing tags of a document in front of which lines go. -/
def targets (document headEnd bodyEnd : Text) : List Token :=
  (tokenize document).filter (isTarget (fragmentFor headEnd bodyEnd))

/-- How the lines that go into a document end. -/
def newlineOf (document : Text) : Text :=
  (firstNewline? (tokenize document)).getD ['\n']

/-- The lines that go in front of a closing tag of a document. -/
def blockAt (document headEnd bodyEnd : Text) (t : Token) : Text :=
  (insertionAt document (fragmentFor headEnd bodyEnd) (tokenize document) t).block
    (newlineOf document)

/-- A document, cut in front of the closing tags where lines go in. -/
def pieces (document headEnd bodyEnd : Text) : List Text :=
  cuts 0 document ((targets document headEnd bodyEnd).map Token.offset)

section

variable {document headEnd bodyEnd : Text} {t : Token}

theorem offset_bounds (ht : t ∈ tokenize document) : 0 ≤ t.offset ∧ t.offset < document.length := by
  obtain ⟨before, after, hdocument, hplace⟩ := (tiles_tokenize document).exists_append ht
  have hne := List.length_pos_iff.2 ((tiles_tokenize document).text_ne_nil t ht)
  have hlength := congrArg List.length hdocument
  simp only [List.length_append] at hlength
  omega

theorem places_targets (document headEnd bodyEnd : Text) :
    Places 0 document ((targets document headEnd bodyEnd).map Token.offset) where
  sorted := by
    rw [List.pairwise_map]
    exact ((offsets_ascend document).sublist List.filter_sublist).imp Int.le_of_lt
  low := by
    intro place hplace
    obtain ⟨t, ht, rfl⟩ := List.mem_map.1 hplace
    exact (offset_bounds (List.mem_filter.1 ht).1).1
  high := by
    intro place hplace
    obtain ⟨t, ht, rfl⟩ := List.mem_map.1 hplace
    have hlt := (offset_bounds (List.mem_filter.1 ht).1).2
    omega

theorem inject_eq (document headEnd bodyEnd : Text) :
    inject document headEnd bodyEnd =
      interleave (pieces document headEnd bodyEnd)
        ((targets document headEnd bodyEnd).map (blockAt document headEnd bodyEnd)) := by
  have hoffsets : ((targets document headEnd bodyEnd).map fun t =>
      (t.offset, blockAt document headEnd bodyEnd t)).map Prod.fst =
        (targets document headEnd bodyEnd).map Token.offset := by
    rw [List.map_map]
    rfl
  have hplaces := places_targets document headEnd bodyEnd
  rw [← hoffsets] at hplaces
  have hshift : (([] : Text).length : Int) = 0 + 0 := rfl
  have hall := insertAll_eq_interleave _ [] hplaces hshift
  rw [hoffsets, List.map_map, List.nil_append, List.nil_append] at hall
  unfold inject
  rw [survey_eq]
  dsimp only
  rw [List.map_map]
  exact hall

theorem isIndent_lastIndent {tokens : List Token} (h : ∀ t ∈ tokens, Nonempty t.Taken) :
    ∀ c ∈ lastIndent tokens, Text.isIndent c = true := by
  unfold lastIndent
  cases hlast : (tokens.filter (·.kind = .indent)).getLast? with
  | none => simp
  | some t =>
    obtain ⟨ht, hk⟩ := List.mem_filter.1 (List.mem_of_getLast? hlast)
    obtain ⟨taken⟩ := h t ht
    exact taken.isIndent (by simpa using hk)

theorem blockAt_ne_nil (ht : t ∈ targets document headEnd bodyEnd) :
    blockAt document headEnd bodyEnd t ≠ [] := by
  have hfrag := frag_of_isTarget (List.mem_filter.1 ht).2
  apply Insertion.block_ne_nil
  · apply isIndent_lastIndent
    intro u hu
    exact (Lexer.ofText document).taken_of_mem u ((List.takeWhile_sublist _).subset hu)
  · exact fragmentFor_ne_nil hfrag

/-- Cutting in front of tokens puts each of them at the start of a piece, and whole. -/
theorem forall₂_cuts {start : Int} {s : Text} {tokens : List Token}
    (h : ∀ t ∈ tokens, start ≤ t.offset ∧ t.text <+: s.drop (t.offset - start).toNat)
    (hsorted : tokens.Pairwise fun a b => a.endOffset ≤ b.offset) :
    List.Forall₂ (fun t piece => t.text <+: piece) tokens
      (cuts start s (tokens.map Token.offset)).tail := by
  induction tokens generalizing start s with
  | nil => exact .nil
  | cons t tokens ih =>
    obtain ⟨hfirst, hrest⟩ := List.pairwise_cons.1 hsorted
    obtain ⟨hstart, htext⟩ := h t List.mem_cons_self
    -- what is behind the first place is told from that place on
    have hbehind : ∀ u ∈ tokens, t.offset ≤ u.offset ∧
        u.text <+: (s.drop (t.offset - start).toNat).drop (u.offset - t.offset).toNat := by
      intro u hu
      have hle := hfirst u hu
      rw [Token.endOffset] at hle
      refine ⟨by omega, ?_⟩
      have hplace : (t.offset - start).toNat + (u.offset - t.offset).toNat =
        (u.offset - start).toNat := by omega
      rw [List.drop_drop, hplace]
      exact (h u (List.mem_cons_of_mem _ hu)).2
    have hall := ih hbehind hrest
    rw [List.map_cons, cuts, List.tail_cons]
    cases tokens with
    | nil => exact .cons htext .nil
    | cons u tokens =>
      refine .cons ?_ hall
      have hle := hfirst u List.mem_cons_self
      rw [Token.endOffset] at hle
      exact List.prefix_take_iff.2 ⟨htext, by omega⟩

theorem text_prefix_drop (ht : t ∈ tokenize document) :
    t.text <+: document.drop (t.offset - 0).toNat := by
  obtain ⟨before, after, hdocument, hplace⟩ := (tiles_tokenize document).exists_append ht
  have hlength : (t.offset - 0).toNat = before.length := by omega
  rw [hlength, hdocument, List.drop_left]
  exact List.prefix_append _ _

end

/-- **An injected document is the document with blocks put in, and nothing else.** The
document is cut in front of those closing tags that lines are wanted for, all of them and each
once, in the order in which they stand there; one block stands at each cut; and without the
blocks the document is what it was. -/
theorem inject_splices (document headEnd bodyEnd : Text) :
    inject document headEnd bodyEnd =
      interleave (pieces document headEnd bodyEnd)
        ((targets document headEnd bodyEnd).map (blockAt document headEnd bodyEnd)) ∧
    (pieces document headEnd bodyEnd).length = (targets document headEnd bodyEnd).length + 1 ∧
    (pieces document headEnd bodyEnd).flatten = document ∧
    List.Forall₂ (fun t piece => t.text <+: piece) (targets document headEnd bodyEnd)
      (pieces document headEnd bodyEnd).tail ∧
    (∀ t ∈ targets document headEnd bodyEnd, blockAt document headEnd bodyEnd t ≠ []) ∧
    (targets document headEnd bodyEnd).Sublist (tokenize document) ∧
    (targets document headEnd bodyEnd).Pairwise (fun a b => a.offset < b.offset) ∧
    ∀ t, t ∈ targets document headEnd bodyEnd ↔ t ∈ tokenize document ∧ t.kind = .tagClose ∧
      (t.value = headClose ∧ headEnd ≠ [] ∨ t.value = bodyClose ∧ bodyEnd ≠ []) := by
  have hsublist : (targets document headEnd bodyEnd).Sublist (tokenize document) :=
    List.filter_sublist
  have hpieces : List.Forall₂ (fun t piece => t.text <+: piece) (targets document headEnd bodyEnd)
      (pieces document headEnd bodyEnd).tail := by
    apply forall₂_cuts
    · intro t ht
      exact ⟨(offset_bounds (hsublist.subset ht)).1, text_prefix_drop (hsublist.subset ht)⟩
    · exact (tiles_tokenize document).pairwise.sublist hsublist
  refine ⟨inject_eq document headEnd bodyEnd, ?_, flatten_cuts _ _ _, hpieces,
    fun t => blockAt_ne_nil, hsublist, (offsets_ascend document).sublist hsublist, ?_⟩
  · rw [pieces, length_cuts, List.length_map]
  · intro t
    rw [targets, List.mem_filter, isTarget_iff]

end Markup
end SiteOptimizer
