import SiteOptimizer.Proofs.FileSystem
import SiteOptimizer.Proofs.Glob

/-!
# What the listing of a build leaves out

The name of the metadata directory is written into a glob as it is. If nothing in it is special to
globs, the listing leaves out the files below that directory and those that an exclude glob
describes, and no others. With any other name there is a build of which files below the directory
are listed, or files elsewhere are not (`hidesOnly_iff`).
-/

namespace SiteOptimizer
namespace Build

open FileSystem

variable {fs : FileSystem} {directory : Path} {place : Place} {names : List Text}

/-! ## Listed files -/

/-- No directory at this place or below it is sealed. -/
def Listable (fs : FileSystem) (place : Place) : Prop :=
  ∀ blocked ∈ fs.sealedPlaces, fs.hasDirectory blocked = true → ¬ place <+: blocked

theorem listBelow_eq (h : Listable fs place) :
    fs.listBelow place = .ok (fs.files.filterMap fun file => below? place file.1) := by
  have hnone : (fs.sealedPlaces.filter fs.hasDirectory).filterMap (below? place) = [] := by
    refine List.filterMap_eq_nil_iff.2 fun blocked hblocked => ?_
    obtain ⟨hsealed, hdir⟩ := List.mem_filter.1 hblocked
    rw [below?, if_neg fun hprefix => h blocked hsealed hdir (List.isPrefixOf_iff_prefix.1 hprefix)]
  rw [FileSystem.listBelow, hnone, List.mergeSort_nil]

/-- **A build that can be listed is listed in order and without repeats**, with all
files that no glob describes. -/
theorem exists_listFiles (hwf : fs.WellFormed) (hplace : directoryPlace fs directory = .ok place)
    (hopen : Listable fs place) (exclude : List Text) (metaDir : Text) :
    ∃ listed, listFiles fs directory exclude metaDir = .ok listed ∧ listed.Nodup ∧
      listed.Pairwise (fun p q => Text.le p q = true) ∧
      ∀ path, path ∈ listed ↔ ∃ parts, ListedAt fs directory place path parts ∧
        ∀ glob ∈ excludedGlobs exclude metaDir,
        Glob.isMatch glob (Text.join ['/'] parts) = false := by
  obtain ⟨-, hdir⟩ := locate_directory hplace
  -- the root of the listing is found and can be read, so nothing stands in the way
  have hlisted : listFiles fs directory exclude metaDir = .ok (Text.sort
      (((fs.files.filterMap fun file => below? place file.1).filter fun parts =>
        !(excludedGlobs exclude metaDir).any fun glob =>
          Glob.isMatch glob (Text.join ['/'] parts)).map
          (pathBelow directory))) := by
    rw [listFiles, hplace]
    dsimp only
    rw [listBelow_eq hopen]
  refine ⟨_, hlisted, (listed_of_listFiles hwf hlisted).1, ?_, fun path => ?_⟩
  · refine List.pairwise_mergeSort (fun a b c hab hbc => ?_) (fun a b => Text.le_total a b) _
    exact Text.le_trans hab hbc
  · have hkept : ∀ parts, (!(excludedGlobs exclude metaDir).any fun glob =>
        Glob.isMatch glob (Text.join ['/'] parts)) = true ↔
          ∀ glob ∈ excludedGlobs exclude metaDir,
          Glob.isMatch glob (Text.join ['/'] parts) = false := by
      intro parts
      rw [Bool.not_eq_true', List.any_eq_false]
      simp only [Bool.not_eq_true]
    rw [Text.mem_sort, List.mem_map]
    constructor
    · rintro ⟨parts, hparts, rfl⟩
      obtain ⟨hbelow, hglobs⟩ := List.mem_filter.1 hparts
      obtain ⟨hne, hname, hmem⟩ := of_mem_filterMap_below? hwf hdir hbelow
      exact ⟨parts, ⟨rfl, hne, hname, hmem⟩, (hkept parts).1 hglobs⟩
    · rintro ⟨parts, hat, hglobs⟩
      obtain ⟨bytes, hfile⟩ := hat.mem
      refine ⟨parts, List.mem_filter.2 ⟨?_, (hkept parts).2 hglobs⟩, hat.path_eq.symm⟩
      exact List.mem_filterMap.2 ⟨_, hfile, mem_below?.2 rfl⟩

/-! ## What should be left out -/

/-- Whether names lead to something below a directory. -/
def Below (names parts : List Text) : Prop :=
  ∃ rest, rest ≠ [] ∧ parts = names ++ rest

/-- Whether an exclude glob describes a path. -/
def Excluded (exclude parts : List Text) : Prop :=
  ∃ glob ∈ exclude, ∃ variant ∈ globVariants glob,
  Glob.isMatch variant (Text.join ['/'] parts) = true

/-- A listing of the files below a directory that hides one directory in it, and what
the exclude globs describe. -/
structure Hides (fs : FileSystem) (directory : Path) (place : Place) (exclude hidden : List Text)
    (listed : List Path) : Prop where
  nodup : listed.Nodup
  ascending : listed.Pairwise fun p q => Text.le p q = true
  mem_iff : ∀ path, path ∈ listed ↔ ∃ parts, ListedAt fs directory place path parts ∧
    ¬ Below hidden parts ∧
    ¬ Excluded exclude parts

theorem Below.text {parts : List Text} (hne : names ≠ []) (h : Below names parts) :
    ∃ t, Text.join ['/'] parts = Text.join ['/'] names ++ '/' :: t := by
  obtain ⟨rest, hrest, rfl⟩ := h
  refine ⟨Text.join ['/'] rest, ?_⟩
  rw [Text.join_append hne hrest, List.append_assoc]
  rfl

theorem below_of_text {parts : List Text} (hne : names ≠ []) (hnames : ∀ name ∈ names, IsName name)
    (hparts : parts ≠ []) (hname : ∀ part ∈ parts, IsName part) {t : Text}
    (h : Text.join ['/'] parts = Text.join ['/'] names ++ '/' :: t) : Below names parts := by
  have hsplit := congrArg (Text.splitOn '/') h
  rw [Text.splitOn_join hparts fun part hp => (hname part hp).no_slash, Text.splitOn_append,
    Text.splitOn_join hne fun name hn => (hnames name hn).no_slash] at hsplit
  exact ⟨Text.splitOn '/' t, Text.splitOn_ne_nil _ _, hsplit⟩

/-- Whether the glob for a directory describes what is below the directory. -/
def Agrees (names : List Text) : Prop :=
  ∀ parts, parts ≠ [] → (∀ part ∈ parts, IsName part) →
    (Glob.isMatch (Text.join ['/'] names ++ ['/', '*']) (Text.join ['/'] parts) =
      true ↔ Below names parts)

/-! ## Names that are not special to globs -/

theorem agrees_of_isLiteral (hne : names ≠ []) (hnames : ∀ name ∈ names, IsName name)
    (h : Glob.IsLiteral (Text.join ['/'] names)) : Agrees names := by
  intro parts hparts hname
  obtain ⟨hrigid, hany⟩ := h
  rw [Glob.isMatch_append_slash_star hrigid]
  constructor
  · rintro ⟨a, t, heq, ha⟩
    rw [Glob.eq_of_matchPieces_map hany ha] at heq
    exact below_of_text hne hnames hparts hname heq
  · intro hbelow
    obtain ⟨t, ht⟩ := hbelow.text hne
    exact ⟨_, t, ht, Glob.matchPieces_map_pieceOf _⟩

/-! ## Names that are -/

/-- Characters that can stand in a name wherever another one does. -/
structure Harmless (c : Char) : Prop where
  no_slash : c ≠ '/'
  no_dot : c ≠ '.'
  narrow : c.utf8Size = 1

theorem exists_harmless (d : Char) : ∃ c, c ≠ d ∧ Harmless c := by
  by_cases hd : d = 'q'
  · exact ⟨'r', by rw [hd]; decide, by decide, by decide, by decide⟩
  · exact ⟨'q', Ne.symm hd, by decide, by decide, by decide⟩

/-- A name stays one when a harmless character takes the place of another, or of all
that is left from there on. -/
theorem isName_harmless {a b b' : Text} {c d : Char} (h : IsName (a ++ d :: b)) (hc : Harmless c)
    (hb : b' <+: b) : IsName (a ++ c :: b') := by
  obtain ⟨rest, rfl⟩ := hb
  have hmem : c ∈ a ++ c :: b' := List.mem_append_right _ List.mem_cons_self
  have hdots : ∀ {name : Text}, c ∉ name → a ++ c :: b' ≠ name := by
    rintro _ hname rfl
    exact hname hmem
  -- a name with this character is neither of the names that mean a directory
  refine ⟨by simp, hdots (by simp [Path.here, hc.no_dot]),
    hdots (by simp [Path.up, hc.no_dot]), ?_, ?_⟩
  · have hslash := h.no_slash
    simp only [List.mem_append, List.mem_cons, not_or] at hslash ⊢
    exact ⟨hslash.1, hc.no_slash.symm, hslash.2.2.1⟩
  -- the character is no longer than the one that it replaces
  · have hshort := h.short
    have hd := Char.utf8Size_pos d
    have hcons : ∀ e t, (Utf8.encode (e :: t)).length = e.utf8Size + (Utf8.encode t).length := by
      intro e t
      rw [Utf8.encode, List.flatMap_cons, List.length_append, String.length_utf8EncodeChar]
      rfl
    have happend : ∀ s t, (Utf8.encode (s ++ t)).length = (Utf8.encode s).length +
        (Utf8.encode t).length := by
      intro s t
      rw [Utf8.encode, List.flatMap_append, List.length_append]
      rfl
    rw [happend, hcons, happend] at hshort
    rw [happend, hcons, hc.narrow]
    omega

/-- Paths that lead down from a directory. -/
def IsPath (path : Text) : Prop :=
  ∀ part ∈ Text.splitOn '/' path, IsName part

section IsPath

variable {a s : Text} {c d : Char}

/-- The names around a character of a path. -/
theorem IsPath.around (h : IsPath (a ++ d :: s)) (hd : d ≠ '/') : ∃ front last first back,
    Text.splitOn '/' a = front ++ [last] ∧ Text.splitOn '/' s = first :: back ∧
      (∀ part ∈ front ++ back, IsName part) ∧ IsName (last ++ d :: first) := by
  obtain ⟨front, last, ha⟩ :=
    (List.eq_nil_or_concat' (Text.splitOn '/' a)).resolve_left (Text.splitOn_ne_nil _ _)
  obtain ⟨first, back, hs⟩ := List.exists_cons_of_ne_nil (Text.splitOn_ne_nil '/' s)
  rw [IsPath, Text.splitOn_append_cons hd ha hs] at h
  refine ⟨front, last, first, back, ha, hs, fun part hp => h part ?_, h _ (by simp)⟩
  rcases List.mem_append.1 hp with hp | hp
  · exact List.mem_append_left _ hp
  · exact List.mem_append_right _ (List.mem_cons_of_mem _ hp)

theorem IsPath.replace (h : IsPath (a ++ d :: s)) (hd : d ≠ '/')
    (hc : Harmless c) : IsPath (a ++ c :: s) := by
  obtain ⟨front, last, first, back, ha, hs, hother, hname⟩ := h.around hd
  rw [IsPath, Text.splitOn_append_cons hc.no_slash ha hs]
  intro part hp
  rcases List.mem_append.1 hp with hp | hp
  · exact hother part (List.mem_append_left _ hp)
  · rcases List.mem_cons.1 hp with rfl | hp
    · exact isName_harmless hname hc (List.prefix_refl _)
    · exact hother part (List.mem_append_right _ hp)

/-- A path can be interrupted by a directory whose name starts as the one that it is
in, and then go on from there. -/
theorem IsPath.detour (h : IsPath (a ++ d :: s)) (hd : d ≠ '/') (hc : Harmless c) :
    ∃ last, IsPath (a ++ c :: '/' :: (last ++ d :: s)) := by
  obtain ⟨front, last, first, back, ha, hs, hother, hname⟩ := h.around hd
  have hlast : Text.splitOn '/' last = [] ++ [last] := by
    refine Text.splitOn_of_not_mem fun hmem => ?_
    have hin : last ∈ Text.splitOn '/' a := by simp [ha]
    exact (Text.mem_of_mem_splitOn hin hmem).1 rfl
  have hcut : a ++ c :: '/' :: (last ++ d :: s) = (a ++ [c]) ++ '/' :: (last ++ d :: s) := by simp
  refine ⟨last, ?_⟩
  rw [IsPath, hcut, Text.splitOn_append, Text.splitOn_append_cons hc.no_slash ha (b := []) rfl,
    Text.splitOn_append_cons hd hlast hs]
  intro part hp
  simp only [List.mem_append, List.mem_cons, List.not_mem_nil, or_false, List.nil_append] at hp
  rcases hp with (hp | rfl) | (rfl | hp)
  · exact hother part (List.mem_append_left _ hp)
  · exact isName_harmless hname hc (List.nil_prefix)
  · exact hname
  · exact hother part (List.mem_append_right _ hp)

theorem IsPath.insert (h : IsPath (a ++ '/' :: s)) (hc : Harmless c) :
    IsPath (a ++ '/' :: c :: '/' :: s) := by
  have hsingle : Text.splitOn '/' [c] = [[c]] :=
    Text.splitOn_of_not_mem (by simpa using hc.no_slash.symm)
  have hcut : c :: '/' :: s = [c] ++ '/' :: s := rfl
  rw [IsPath, Text.splitOn_append] at h
  rw [IsPath, Text.splitOn_append, hcut, Text.splitOn_append, hsingle]
  intro part hp
  simp only [List.mem_append, List.mem_cons, List.not_mem_nil, or_false] at hp
  rcases hp with hp | rfl | hp
  · exact h part (List.mem_append_left _ hp)
  · exact isName_harmless (a := []) (b := []) (d := 'x') (by decide) hc (List.prefix_refl _)
  · exact h part (List.mem_append_right _ hp)

end IsPath

/-- A glob that with `/*` behind it describes no path but those that go on behind it. -/
def Confined (glob : Text) : Prop :=
  ∀ path, IsPath path → Glob.isMatch (glob ++ ['/', '*']) path = true → ∃ t, path = glob ++ '/' :: t

section Confined

variable {glob : Text}

/-- A question mark would stand for another character too. -/
theorem Confined.no_any (h : Confined glob) (hrigid : Glob.IsRigid glob)
    (hpath : IsPath (glob ++ ['/', 'x'])) :
    '?' ∉ glob := by
  intro hany
  obtain ⟨a, b, rfl⟩ := List.append_of_mem hany
  rw [List.append_assoc, List.cons_append] at hpath
  have hother := hpath.replace (c := 'q') (by decide) ⟨by decide, by decide, by decide⟩
  have hmatch : Glob.isMatch ((a ++ '?' :: b) ++ ['/', '*'])
      (a ++ 'q' :: (b ++ ['/', 'x'])) = true := by
    refine (Glob.isMatch_append_slash_star hrigid).2 ⟨a ++ 'q' :: b, ['x'], by simp, ?_⟩
    rw [List.map_append, List.map_cons, Glob.matchPieces_append]
    exact ⟨a, 'q' :: b, rfl, Glob.matchPieces_map_pieceOf a,
      (Glob.matchPieces_cons (Glob.pieceOf_ne_star _)).2
      ⟨'q', b, rfl, rfl, Glob.matchPieces_map_pieceOf b⟩⟩
  obtain ⟨t, ht⟩ := h _ hother hmatch
  rw [List.append_assoc] at ht
  exact absurd (List.cons.inj (List.append_cancel_left ht)).1 (by decide)

/-- A star that stands for something at a place of the glob would stand for more there. -/
theorem Confined.isRigid (h : Confined glob) (hpath : IsPath (glob ++ ['/', 'x']))
    (hself : Glob.isMatch (glob ++ ['/', '*']) (glob ++ ['/', 'x']) = true) :
    Glob.IsRigid glob := by
  by_contra hrigid
  obtain ⟨front, back, hpieces, hfront, -, hlt⟩ := Glob.exists_star glob
  rw [Glob.isMatch_eq, hpieces, Glob.matchPieces_append] at hself
  obtain ⟨a, s, hcut, ha, hs⟩ := hself
  have hshort : a.length < glob.length := by
    rw [Glob.length_of_matchPieces hfront ha]
    exact hlt hrigid
  -- the star starts to count at a place of the glob itself, so a path may go elsewhere there
  obtain ⟨d, b, rfl⟩ : ∃ d b, glob = a ++ d :: b := by
    rcases List.append_eq_append_iff.1 hcut with ⟨rest, ha, -⟩ | ⟨rest, hglob, -⟩
    · rw [ha, List.length_append] at hshort
      omega
    · cases rest with
      | nil =>
        rw [hglob, List.append_nil] at hshort
        exact absurd hshort (Nat.lt_irrefl _)
      | cons d b => exact ⟨d, b, hglob⟩
  rw [List.append_assoc] at hcut hpath
  obtain rfl := List.append_cancel_left hcut
  have hinsert : ∀ v, Glob.isMatch ((a ++ d :: b) ++ ['/', '*'])
      (a ++ (v ++ (d :: b ++ ['/', 'x']))) = true := by
    intro v
    rw [Glob.isMatch_eq, hpieces]
    exact Glob.matchPieces_append.2 ⟨a, _, rfl, ha, Glob.matchPieces_star_append hs v⟩
  -- no part of the path may get longer, since the parts of the glob may be as long as names can be
  by_cases hd : d = '/'
  · subst hd
    obtain ⟨c, hc, hharmless⟩ := exists_harmless (b.headD '/')
    obtain ⟨t, ht⟩ := h _ (hpath.insert hharmless) (hinsert ['/', c])
    rw [List.append_assoc, List.append_cancel_left_eq, List.cons_append, List.cons.injEq] at ht
    cases b with
    | nil => exact hharmless.no_slash (List.cons.inj ht.2).1
    | cons e b => exact hc (List.cons.inj ht.2).1
  · obtain ⟨c, hc, hharmless⟩ := exists_harmless d
    obtain ⟨last, hdetour⟩ := hpath.detour hd hharmless
    obtain ⟨t, ht⟩ := h _ hdetour (by simpa using hinsert (c :: '/' :: last))
    rw [List.append_assoc] at ht
    exact hc (List.cons.inj (List.append_cancel_left ht)).1

end Confined

/-- **A glob that describes just what is below its directory is literal.** -/
theorem isLiteral_of_agrees (hne : names ≠ []) (hnames : ∀ name ∈ names, IsName name)
    (h : Agrees names) :
    Glob.IsLiteral (Text.join ['/'] names) := by
  -- the glob is tried on a file of its own directory, which it must hide
  have hparts : ∀ part ∈ names ++ [['x']], IsName part := by
    intro part hp
    rcases List.mem_append.1 hp with hp | hp
    · exact hnames part hp
    · rw [List.mem_singleton.1 hp]
      decide
  have hjoin : Text.join ['/'] (names ++ [['x']]) = Text.join ['/'] names ++ ['/', 'x'] := by
    rw [Text.join_append hne (List.cons_ne_nil _ _), List.append_assoc]
    rfl
  have hpath : IsPath (Text.join ['/'] names ++ ['/', 'x']) := by
    rw [IsPath, ← hjoin, Text.splitOn_join (by simp) fun part hp => (hparts part hp).no_slash]
    exact hparts
  have hconfined : Confined (Text.join ['/'] names) := by
    intro path hpath hmatch
    have hback := Text.join_splitOn '/' path
    rw [← hback] at hmatch
    obtain ⟨t, ht⟩ := ((h _ (Text.splitOn_ne_nil _ _) hpath).1 hmatch).text hne
    exact ⟨t, hback.symm.trans ht⟩
  have hself := (h _ (by simp) hparts).2 ⟨[['x']], List.cons_ne_nil _ _, rfl⟩
  rw [hjoin] at hself
  have hrigid := hconfined.isRigid hpath hself
  exact ⟨hrigid, hconfined.no_any hrigid hpath⟩

/-! ## Builds with one file -/

/-- A file system with one file. -/
def oneFile (parts : Place) : FileSystem where
  files := [(parts, [])]
  directories := (List.range parts.length).map parts.take
  sealedPlaces := []

section OneFile

variable {parts : Place}

theorem wellFormed_oneFile (hne : parts ≠ []) (hname : ∀ part ∈ parts, IsName part) :
    (oneFile parts).WellFormed where
  nodup := List.nodup_singleton _
  isName file hfile := by
    rw [List.mem_singleton.1 hfile]
    exact hname
  above file hfile n hn := by
    rw [List.mem_singleton.1 hfile] at hn ⊢
    have hmem : parts.take n ∈ (List.range parts.length).map parts.take :=
      List.mem_map_of_mem (List.mem_range.2 hn)
    rw [FileSystem.hasDirectory, Bool.or_eq_true]
    exact .inr (List.contains_iff_mem.2 hmem)
  not_directory file hfile := by
    rw [List.mem_singleton.1 hfile, FileSystem.hasDirectory, Bool.or_eq_false_iff]
    refine ⟨decide_eq_false hne, ?_⟩
    rw [List.contains_eq_mem, decide_eq_false_iff_not]
    intro hmem
    obtain ⟨n, hn, htake⟩ := List.mem_map.1 hmem
    have hlength : min n parts.length = parts.length :=
      List.length_take.symm.trans (congrArg List.length htake)
    have hlt := List.mem_range.1 hn
    omega

theorem directoryPlace_oneFile (parts : Place) : directoryPlace (oneFile parts) ['/'] = .ok [] := by
  have hfollow : (oneFile parts).follow [] (Text.splitOn '/' ['/']) = .ok [] := rfl
  have hlocate : (oneFile parts).locate ['/'] = .ok [] := by
    rw [FileSystem.locate, if_neg (by decide), if_neg (by decide), if_neg (by decide), hfollow]
    rfl
  rw [directoryPlace, hlocate]
  rfl

/-- The one file is all that is listed. -/
theorem exists_listedAt_oneFile (hne : parts ≠ []) (hname : ∀ part ∈ parts, IsName part)
    {p : List Text → Prop} :
    (∃ found, ListedAt (oneFile parts) ['/'] [] (pathBelow ['/'] parts) found ∧
      p found) ↔ p parts := by
  constructor
  · rintro ⟨found, hat, h⟩
    obtain ⟨bytes, hfile⟩ := hat.mem
    obtain rfl : found = parts := (Prod.mk.inj (List.mem_singleton.1 hfile)).1
    exact h
  · exact fun h => ⟨parts, ⟨rfl, hne, hname, [], List.mem_singleton_self _⟩, h⟩

end OneFile

/-! ## The metadata directory -/

/-- The globs of a listing are those of the exclude globs and that of the metadata directory. -/
theorem forall_excludedGlobs (exclude : List Text) {metaDir name : Text} (hname : name ≠ [])
    (hmeta : Text.trim (· = '/') metaDir = name) (parts : List Text) :
    (∀ glob ∈ excludedGlobs exclude metaDir, Glob.isMatch glob (Text.join ['/'] parts) = false) ↔
      ¬ Glob.isMatch (name ++ ['/', '*']) (Text.join ['/'] parts) = true ∧
      ¬ Excluded exclude parts := by
  have hne : metaDir ≠ [] := by
    rintro rfl
    exact hname hmeta.symm
  -- the metadata directory adds one glob to those of the options
  have hmem : ∀ glob, glob ∈ excludedGlobs exclude metaDir ↔
      (∃ exclusion ∈ exclude, glob ∈ globVariants exclusion) ∨ glob = name ++ ['/', '*'] := by
    intro glob
    rw [excludedGlobs, if_neg hne, hmeta, List.mem_append, List.mem_flatMap, List.mem_singleton]
    rfl
  simp only [hmem, Excluded, Bool.not_eq_true]
  constructor
  · refine fun h => ⟨h _ (.inr rfl), ?_⟩
    rintro ⟨glob, hglob, variant, hvariant, hmatch⟩
    rw [h variant (.inl ⟨glob, hglob, hvariant⟩)] at hmatch
    cases hmatch
  · rintro ⟨hself, hnone⟩ glob (⟨exclusion, hexclusion, hvariant⟩ | rfl)
    · rw [← Bool.not_eq_true]
      exact fun hmatch => hnone ⟨exclusion, hexclusion, glob, hvariant, hmatch⟩
    · exact hself

/-- Whether a name of the metadata directory hides this directory and nothing else, whatever build
is listed and whatever is excluded from it. -/
def HidesOnly (metaDir : Text) (names : List Text) : Prop :=
  ∀ fs : FileSystem, fs.WellFormed → ∀ directory place, directoryPlace fs directory = .ok place →
    Listable fs place → ∀ exclude, ∃ listed, listFiles fs directory exclude metaDir = .ok listed ∧
      Hides fs directory place exclude names listed

/-- **The metadata directory, and nothing else, is hidden just if its name is literal**: with no
star, no question mark and no class in it. Slashes around the name do not count. -/
theorem hidesOnly_iff (hne : names ≠ []) (hnames : ∀ name ∈ names, IsName name) {metaDir : Text}
    (hmeta : Text.trim (· = '/') metaDir = Text.join ['/'] names) :
    HidesOnly metaDir names ↔ Glob.IsLiteral (Text.join ['/'] names) := by
  have hname : Text.join ['/'] names ≠ [] := by
    obtain ⟨name, rest, rfl⟩ := List.exists_cons_of_ne_nil hne
    rw [Text.join_cons_flatMap]
    simp [(hnames name List.mem_cons_self).ne_nil]
  constructor
  -- whether the glob describes a path is read off a build with just that file
  · refine fun h => isLiteral_of_agrees hne hnames fun parts hparts hpartNames => ?_
    have hwf := wellFormed_oneFile hparts hpartNames
    have hplace := directoryPlace_oneFile parts
    have hopen : Listable (oneFile parts) [] :=
      fun blocked hblocked => absurd hblocked List.not_mem_nil
    obtain ⟨listed, hlisted, hhides⟩ := h _ hwf _ _ hplace hopen []
    obtain ⟨listed', hlisted', -, -, hmem⟩ := exists_listFiles hwf hplace hopen [] metaDir
    obtain rfl := Except.ok.inj (hlisted.symm.trans hlisted')
    have hiff := (hmem (pathBelow ['/'] parts)).symm.trans (hhides.mem_iff (pathBelow ['/'] parts))
    simp only [forall_excludedGlobs [] hname hmeta] at hiff
    rw [exists_listedAt_oneFile hparts hpartNames,
      exists_listedAt_oneFile hparts hpartNames] at hiff
    have hnone : ¬ Excluded [] parts := by
      rintro ⟨glob, hglob, -⟩
      cases hglob
    exact not_iff_not.1 ((and_iff_left hnone).symm.trans (hiff.trans (and_iff_left hnone)))
  · intro h fs hwf directory place hplace hopen exclude
    obtain ⟨listed, hlisted, hnodup, hascending, hmem⟩ :=
      exists_listFiles hwf hplace hopen exclude metaDir
    refine ⟨listed, hlisted, hnodup, hascending,
      fun path => (hmem path).trans (exists_congr fun parts => ?_)⟩
    refine and_congr_right fun hat => ?_
    rw [forall_excludedGlobs exclude hname hmeta,
      agrees_of_isLiteral hne hnames h parts hat.ne_nil hat.isName]

/-- A name that reads as a class, and a path of names that is literal, with a
bracket that closes nothing. -/
theorem hidesOnly_class_bracket :
    ¬ HidesOnly "[meta]".toList ["[meta]".toList] ∧
      HidesOnly "/a[b/__meta__/".toList ["a[b".toList, "__meta__".toList] := by
  constructor
  · rw [hidesOnly_iff (by decide) (by decide +kernel) (by decide +kernel)]
    decide +kernel
  · rw [hidesOnly_iff (by decide) (by decide +kernel) (by decide +kernel)]
    decide +kernel

end Build
end SiteOptimizer
