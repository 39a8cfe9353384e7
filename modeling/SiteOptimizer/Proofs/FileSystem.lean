import Mathlib.Data.List.Nodup
import SiteOptimizer.Build.Listing
import SiteOptimizer.Proofs.Text

/-!
# Places of files

Opening a path depends on which files and directories there are, not on what the files hold.
So writing to a file that is there moves nothing (`Alike.put`). In a well-formed file system
the files below a directory are at the places that their listed paths name, and different
listed paths name different places.
-/

namespace SiteOptimizer
namespace FileSystem

/-! ## What opening depends on -/

/-- The same files and directories are there, whatever the files hold. -/
structure Alike (fs fs' : FileSystem) : Prop where
  directories : fs'.directories = fs.directories
  sealedPlaces : fs'.sealedPlaces = fs.sealedPlaces
  isSome_bytes? : ∀ place, (fs'.bytes? place).isSome = (fs.bytes? place).isSome

variable {fs fs' fs'' : FileSystem}

theorem Alike.refl (fs : FileSystem) : Alike fs fs :=
  ⟨rfl, rfl, fun _ => rfl⟩

theorem Alike.trans (h : Alike fs fs') (h' : Alike fs' fs'') : Alike fs fs'' where
  directories := h'.directories.trans h.directories
  sealedPlaces := h'.sealedPlaces.trans h.sealedPlaces
  isSome_bytes? place := (h'.isSome_bytes? place).trans (h.isSome_bytes? place)

theorem Alike.hasDirectory (h : Alike fs fs') (place : Place) :
    fs'.hasDirectory place = fs.hasDirectory place := by
  rw [FileSystem.hasDirectory, FileSystem.hasDirectory, h.directories]

/-- **Writing to a file that is there leaves the same files and directories.** -/
theorem Alike.put {place : Place} (h : (fs.bytes? place).isSome = true) (bytes : List UInt8) :
    Alike fs (fs.put place bytes) where
  directories := rfl
  sealedPlaces := rfl
  isSome_bytes? other := by
    by_cases heq : other = place
    · rw [heq, bytes?_put, h]
      rfl
    · rw [bytes?_put_of_ne heq]

theorem Alike.follow (h : Alike fs fs') (place : Place) (parts : List Text) :
    fs'.follow place parts = fs.follow place parts := by
  induction parts generalizing place with
  | nil => rfl
  | cons part parts ih =>
    unfold FileSystem.follow
    rw [h.hasDirectory, h.isSome_bytes?, ih, ih, ih]

/-- Paths name the same places. -/
theorem Alike.locate (h : Alike fs fs') (path : Path) : fs'.locate path = fs.locate path := by
  rw [FileSystem.locate, FileSystem.locate, h.follow]

theorem Alike.isFile (h : Alike fs fs') (path : Path) : fs'.isFile path = fs.isFile path := by
  rw [FileSystem.isFile, FileSystem.isFile, h.locate]
  split
  · rw [h.hasDirectory, h.isSome_bytes?]
  · rfl

/-- What is read depends on what is at the place of the path alone. -/
theorem Alike.readBytes (h : Alike fs fs') {path : Path}
    (hbytes : ∀ place, fs.locate path = .ok place → fs'.bytes? place = fs.bytes? place) :
    fs'.readBytes path = fs.readBytes path := by
  rw [FileSystem.readBytes, FileSystem.readBytes, h.locate]
  cases hl : fs.locate path with
  | error fault => rfl
  | ok place =>
    dsimp only
    rw [h.hasDirectory, hbytes place hl]

theorem Alike.readText (h : Alike fs fs') {path : Path}
    (hbytes : ∀ place, fs.locate path = .ok place → fs'.bytes? place = fs.bytes? place) :
    fs'.readText path = fs.readText path := by
  rw [FileSystem.readText, FileSystem.readText, h.readBytes hbytes]

/-- What can be read is a file at the place of its path. -/
theorem of_readBytes {path : Path} {bytes : List UInt8} (h : fs.readBytes path = .ok bytes) :
    ∃ place, fs.locate path = .ok place ∧ fs.hasDirectory place = false ∧
      fs.bytes? place = some bytes := by
  unfold FileSystem.readBytes at h
  split at h
  · cases h
  · next place hl =>
    split at h
    · cases h
    · next hdir =>
      split at h
      · next found hb =>
        cases h
        exact ⟨place, hl, by simpa using hdir, hb⟩
      · cases h

/-- A file has no more bytes than all the files. -/
theorem length_le_size {place : Place} {bytes : List UInt8} (h : fs.bytes? place = some bytes) :
    bytes.length ≤ fs.size := by
  obtain ⟨before, after, hfiles, -⟩ := List.lookup_eq_some_iff.1 h
  have hmore : ∀ (files : List (Place × List UInt8)) (start : Nat),
      start ≤ files.foldr (fun file count => file.2.length + count) start := by
    intro files start
    induction files with
    | nil => exact Nat.le_refl start
    | cons file files ih => exact Nat.le_trans ih (Nat.le_add_left ..)
  rw [size, hfiles, List.foldr_append, List.foldr_cons]
  exact Nat.le_trans (Nat.le_add_right ..) (hmore before _)

theorem readText_eq {path : Path} {place : Place} {bytes : List UInt8}
    (hl : fs.locate path = .ok place) (hdir : fs.hasDirectory place = false)
    (hb : fs.bytes? place = some bytes) :
    fs.readText path = (Utf8.decode bytes).mapError .undecodable := by
  have hread : fs.readBytes path = .ok bytes := by
    rw [FileSystem.readBytes, hl]
    dsimp only
    rw [hdir, hb]
    rfl
  rw [FileSystem.readText, hread]
  rfl

/-- A text that has been read is what the bytes of its file say. -/
theorem decode_of_readText {path : Path} {text : Text} (h : fs.readText path = .ok text) :
    ∃ bytes, fs.readBytes path = .ok bytes ∧ Utf8.decode bytes = .ok text := by
  rw [FileSystem.readText] at h
  cases hb : fs.readBytes path with
  | error fault => rw [hb] at h; cases h
  | ok bytes =>
    rw [hb] at h
    have h : (Utf8.decode bytes).mapError Fault.undecodable = .ok text := h
    cases hd : Utf8.decode bytes with
    | error flaw => rw [hd] at h; cases h
    | ok found => rw [hd] at h; cases h; exact ⟨bytes, rfl, hd⟩

/-- A text that cannot be read has a file that cannot be read, or its bytes are no text. -/
theorem readText_eq_error {path : Path} {fault : Fault} (h : fs.readText path = .error fault) :
    fs.readBytes path = .error fault ∨ ∃ flaw, fault = .undecodable flaw := by
  rw [FileSystem.readText] at h
  cases hb : fs.readBytes path with
  | error fault' => rw [hb] at h; cases h; exact .inl rfl
  | ok bytes =>
    rw [hb] at h
    have h : (Utf8.decode bytes).mapError Fault.undecodable = .error fault := h
    cases hd : Utf8.decode bytes with
    | error flaw => rw [hd] at h; cases h; exact .inr ⟨flaw, rfl⟩
    | ok text => rw [hd] at h; cases h

theorem of_readText {path : Path} {text : Text} (h : fs.readText path = .ok text) :
    ∃ place bytes, fs.locate path = .ok place ∧ fs.hasDirectory place = false ∧
      fs.bytes? place = some bytes := by
  obtain ⟨bytes, hb, -⟩ := decode_of_readText h
  obtain ⟨place, hl, hdir, hbytes⟩ := of_readBytes hb
  exact ⟨place, bytes, hl, hdir, hbytes⟩

/-! ## Writing -/

/-- Paths that can name a file: they do not end with a slash. -/
def NamesFile (path : Path) : Prop :=
  path ≠ [] ∧ path.getLast? ≠ some '/'

theorem NamesFile.trimmed {path : Path} (h : NamesFile path) :
    Text.dropEndWhile (· = '/') path = path := by
  refine Text.dropEndWhile_eq_self fun c hc => ?_
  have hne : c ≠ '/' := by
    rintro rfl
    exact h.2 hc
  simpa using hne

/-- **Writing to a file that is there succeeds**, and changes what is at its place. -/
theorem write_eq {path : Path} {place : Place} (h : NamesFile path)
    (hl : fs.locate path = .ok place) (hdir : fs.hasDirectory place = false) (text : Text) :
    fs.write path text = .ok (fs.put place (Utf8.encode text)) := by
  unfold FileSystem.write
  dsimp only
  rw [h.trimmed, if_neg h.1, hl]
  dsimp only
  rw [hdir, if_neg Bool.false_ne_true, if_neg (not_not_intro rfl)]

/-! ## Making directories -/

theorem Alike.addDirectory (h : Alike fs fs') (place : Place) :
    Alike (fs.addDirectory place) (fs'.addDirectory place) := by
  unfold FileSystem.addDirectory
  rw [h.hasDirectory]
  split
  · exact h
  · exact ⟨congrArg (place :: ·) h.directories, h.sealedPlaces, h.isSome_bytes?⟩

/-- Making a directory fails for both, or makes both alike. -/
theorem Alike.makeDirectory (h : Alike fs fs') (path : Path) :
    (∃ fault, fs.makeDirectory path = .error fault ∧ fs'.makeDirectory path = .error fault) ∨
      ∃ made made', fs.makeDirectory path = .ok made ∧ fs'.makeDirectory path = .ok made' ∧
        Alike made made' := by
  unfold FileSystem.makeDirectory
  dsimp only
  rw [h.locate]
  split
  · exact .inl ⟨_, rfl, rfl⟩
  · exact .inl ⟨_, rfl, rfl⟩
  · rw [h.hasDirectory, h.isSome_bytes?]
    split
    · exact .inl ⟨_, rfl, rfl⟩
    · exact .inr ⟨_, _, rfl, rfl, h.addDirectory _⟩

theorem Alike.isDirectory (h : Alike fs fs') (path : Path) :
    fs'.isDirectory path = fs.isDirectory path := by
  rw [FileSystem.isDirectory, FileSystem.isDirectory, h.locate]
  split
  · rw [h.hasDirectory]
  · rfl

theorem Alike.isPresent (h : Alike fs fs') (path : Path) :
    fs'.isPresent path = fs.isPresent path := by
  rw [FileSystem.isPresent, FileSystem.isPresent, h.isFile, h.isDirectory]

/-- Makes a directory; that it is there already is no fault. -/
def makeLast (fs : FileSystem) (path : Path) : Except Fault Unit × FileSystem :=
  match fs.makeDirectory path with
  | .ok fs => (.ok (), fs)
  | .error (.file trouble blamed) =>
    if fs.isDirectory path then (.ok (), fs) else (.error (.file trouble blamed), fs)
  | .error fault => (.error fault, fs)

theorem makeDirectories_succ (depth : Nat) (fs : FileSystem) (path : Path) :
    makeDirectories (depth + 1) fs path =
      if (splitLast path).1 ≠ [] && (splitLast path).2 ≠ [] && !fs.isPresent (splitLast path).1 then
        let (result, fs) := makeDirectories depth fs (splitLast path).1
        match result with
        | .ok _ => if (splitLast path).2 = Path.here then (.ok (), fs) else fs.makeLast path
        | .error (.file .present _) =>
          if (splitLast path).2 = Path.here then (.ok (), fs) else fs.makeLast path
        | .error fault => (.error fault, fs)
      else fs.makeLast path :=
  rfl

theorem Alike.makeLast (h : Alike fs fs') (path : Path) :
    (FileSystem.makeLast fs' path).1 = (FileSystem.makeLast fs path).1 ∧
      Alike (FileSystem.makeLast fs path).2 (FileSystem.makeLast fs' path).2 := by
  unfold FileSystem.makeLast
  rcases h.makeDirectory path with ⟨fault, hf, hf'⟩ | ⟨made, made', hm, hm', hmade⟩
  · rw [hf, hf']
    cases fault with
    | file trouble blamed =>
      dsimp only
      rw [h.isDirectory]
      split <;> exact ⟨rfl, h⟩
    | _ => exact ⟨rfl, h⟩
  · rw [hm, hm']
    exact ⟨rfl, hmade⟩

/-- Making directories ends the same way for both, and leaves them alike. -/
theorem Alike.makeDirectories (h : Alike fs fs') (depth : Nat) (path : Path) :
    (FileSystem.makeDirectories depth fs' path).1 = (FileSystem.makeDirectories depth fs path).1 ∧
      Alike (FileSystem.makeDirectories depth fs path).2
        (FileSystem.makeDirectories depth fs' path).2 := by
  induction depth generalizing fs fs' path with
  | zero => exact ⟨rfl, h⟩
  | succ depth ih =>
    rw [makeDirectories_succ, makeDirectories_succ, h.isPresent]
    split
    · obtain ⟨hresult, habove⟩ := ih h (splitLast path).1
      dsimp only
      rw [hresult]
      split
      · split
        · exact ⟨rfl, habove⟩
        · exact habove.makeLast path
      · split
        · exact ⟨rfl, habove⟩
        · exact habove.makeLast path
      · exact ⟨rfl, habove⟩
    · exact h.makeLast path

/-- A file can be written at a path once the directories above it have been made. -/
structure Accepts (fs : FileSystem) (path : Path) (place : Place) (after : FileSystem) : Prop where
  made : fs.makeAll (Path.parent path) = (.ok (), after)
  namesFile : NamesFile path
  located : after.locate path = .ok place
  free : after.hasDirectory place = false

/-- What can be there when a file has been written at a path. -/
inductive Wrote (fs : FileSystem) (path : Path) : FileSystem → Prop where
  | intro {place : Place} {after : FileSystem} (bytes : List UInt8) : Accepts fs path place after →
      Wrote fs path (after.put place bytes)

/-- Whether a file can be written at a path. -/
def Writable (fs : FileSystem) (path : Path) : Prop :=
  ∃ place after, Accepts fs path place after

/-- What the files hold does not matter for where files can be written. -/
theorem Accepts.alike (h : Alike fs fs') {path : Path} {place : Place} {after : FileSystem}
    (ha : Accepts fs path place after) :
    ∃ after', Accepts fs' path place after' ∧ Alike after after' := by
  obtain ⟨hresult, hafter⟩ := h.makeDirectories ((Path.parent path).length + 1) (Path.parent path)
  have hmade : makeDirectories ((Path.parent path).length + 1) fs (Path.parent path) =
    (.ok (), after) := ha.made
  rw [hmade] at hresult hafter
  refine ⟨(fs'.makeAll (Path.parent path)).2, ⟨Prod.ext hresult rfl, ha.namesFile, ?_, ?_⟩, hafter⟩
  · exact (hafter.locate path).trans ha.located
  · exact (hafter.hasDirectory place).trans ha.free

theorem Writable.alike (h : Alike fs fs') {path : Path}
    (hw : Writable fs path) : Writable fs' path := by
  obtain ⟨place, after, ha⟩ := hw
  obtain ⟨after', ha', -⟩ := ha.alike h
  exact ⟨place, after', ha'⟩

theorem Alike.put_both (h : Alike fs fs') (place : Place) (bytes bytes' : List UInt8) :
    Alike (fs.put place bytes) (fs'.put place bytes') where
  directories := h.directories
  sealedPlaces := h.sealedPlaces
  isSome_bytes? other := by
    by_cases heq : other = place
    · rw [heq, bytes?_put, bytes?_put]
      rfl
    · rw [bytes?_put_of_ne heq, bytes?_put_of_ne heq, h.isSome_bytes?]

/-! ## Well-formed file systems -/

/-- Names of files and directories. -/
structure IsName (part : Text) : Prop where
  ne_nil : part ≠ []
  ne_here : part ≠ Path.here
  ne_up : part ≠ Path.up
  no_slash : '/' ∉ part
  short : (Utf8.encode part).length ≤ maxPartBytes

instance (part : Text) : Decidable (IsName part) :=
  decidable_of_iff (part ≠ [] ∧ part ≠ Path.here ∧ part ≠ Path.up ∧ '/' ∉ part ∧
      (Utf8.encode part).length ≤ maxPartBytes)
    ⟨fun ⟨hne, hhere, hup, hslash, hshort⟩ => ⟨hne, hhere, hup, hslash, hshort⟩,
      fun h => ⟨h.ne_nil, h.ne_here, h.ne_up, h.no_slash, h.short⟩⟩

/-- There is one file at a place, the parts of its path are names, and what
is above it are directories. -/
structure WellFormed (fs : FileSystem) : Prop where
  nodup : (fs.files.map (·.1)).Nodup
  isName : ∀ file ∈ fs.files, ∀ part ∈ file.1, IsName part
  above : ∀ file ∈ fs.files, ∀ n < file.1.length, fs.hasDirectory (file.1.take n) = true
  not_directory : ∀ file ∈ fs.files, fs.hasDirectory file.1 = false

instance (fs : FileSystem) : Decidable fs.WellFormed :=
  decidable_of_iff ((fs.files.map (·.1)).Nodup ∧ (∀ file ∈ fs.files, ∀ part ∈ file.1, IsName part) ∧
      (∀ file ∈ fs.files, ∀ n < file.1.length, fs.hasDirectory (file.1.take n) = true) ∧
        ∀ file ∈ fs.files, fs.hasDirectory file.1 = false)
    ⟨fun ⟨hnodup, hname, habove, hnot⟩ => ⟨hnodup, hname, habove, hnot⟩,
      fun h => ⟨h.nodup, h.isName, h.above, h.not_directory⟩⟩

theorem WellFormed.hasDirectory_front (h : fs.WellFormed) {front back : List Text}
    {bytes : List UInt8} (hfile : (front ++ back, bytes) ∈ fs.files) (hback : back ≠ []) :
    fs.hasDirectory front = true := by
  have hlt : front.length < (front ++ back).length := by
    rw [List.length_append]
    have := List.length_pos_iff.2 hback
    omega
  have habove := h.above _ hfile front.length hlt
  rwa [List.take_left] at habove

theorem follow_append (place : Place) (a b : List Text) :
    fs.follow place (a ++ b) = (fs.follow place a).bind fun place => fs.follow place b := by
  induction a generalizing place with
  | nil => rfl
  | cons part a ih =>
    rw [List.cons_append, FileSystem.follow, FileSystem.follow]
    split
    · split
      · exact ih place
      · split
        · exact ih place.dropLast
        · split
          · rfl
          · exact ih (place ++ [part])
    · split <;> rfl

/-- Names lead down from directory to directory. -/
theorem follow_names {place : Place} {parts : List Text} (hname : ∀ part ∈ parts, IsName part)
    (hdir : ∀ front back, parts = front ++ back → back ≠ [] →
      fs.hasDirectory (place ++ front) = true) :
    fs.follow place parts = .ok (place ++ parts) := by
  induction parts generalizing place with
  | nil => rw [FileSystem.follow, List.append_nil]
  | cons part parts ih =>
    have hpart := hname part List.mem_cons_self
    have hplace := hdir [] (part :: parts) rfl (List.cons_ne_nil _ _)
    rw [List.append_nil] at hplace
    have hshort : ¬ maxPartBytes < (Utf8.encode part).length := Nat.not_lt.2 hpart.short
    rw [FileSystem.follow, if_pos hplace, if_neg (by simp [hpart.ne_nil, hpart.ne_here]),
      if_neg hpart.ne_up, if_neg hshort, ih (fun p hp => hname p (List.mem_cons_of_mem _ hp))]
    · rw [List.append_assoc, List.singleton_append]
    · intro front back hparts hback
      have := hdir (part :: front) back (by rw [hparts, List.cons_append]) hback
      rwa [List.append_assoc, List.singleton_append]

/-- The pieces of the path of a directory, without the empty one that a slash at its end leaves. -/
def trunk (directory : Path) : List Text :=
  if directory.getLast? = some '/' then (Text.splitOn '/' directory).dropLast
  else Text.splitOn '/' directory

theorem splitOn_eq_trunk (directory : Path) :
    Text.splitOn '/' directory = trunk directory ∨
      Text.splitOn '/' directory = trunk directory ++ [[]] := by
  unfold trunk
  split
  · next hlast =>
    obtain ⟨front, rfl⟩ := List.getLast?_eq_some_iff.1 hlast
    have hsplit : Text.splitOn '/' (front ++ ['/']) = Text.splitOn '/' front ++ [[]] :=
      Text.splitOn_append '/' front []
    rw [hsplit, List.dropLast_concat]
    exact .inr rfl
  · exact .inl rfl

/-- A path below a directory is cut into what leads to the directory and what leads on. -/
theorem splitOn_pathBelow {directory : Path} {parts : List Text} (hne : parts ≠ [])
    (hname : ∀ part ∈ parts, IsName part) (hdirectory : directory ≠ []) :
    Text.splitOn '/' (Build.pathBelow directory parts) = trunk directory ++ parts := by
  have hjoin : Text.splitOn '/' (Text.join ['/'] parts) = parts :=
    Text.splitOn_join hne fun part hp => (hname part hp).no_slash
  have hrooted : Path.isRooted (Text.join ['/'] parts) = false := by
    obtain ⟨part, parts, rfl⟩ := List.exists_cons_of_ne_nil hne
    have hpart := hname part List.mem_cons_self
    obtain ⟨c, rest, rfl⟩ := List.exists_cons_of_ne_nil hpart.ne_nil
    have hc : c ≠ '/' := by
      rintro rfl
      exact hpart.no_slash List.mem_cons_self
    have hhead : (Text.join ['/'] ((c :: rest) :: parts)).head? = some c := by
      cases parts with
      | nil => simp [Text.join]
      | cons b parts => rw [Text.join, List.intercalate_cons_cons]; rfl
    rw [Path.isRooted, hhead]
    simpa using hc
  rw [Build.pathBelow, if_neg hne, Path.join, if_neg (by rw [hrooted]; simp)]
  -- a directory may be written with a slash at its end, and then no other one goes in
  by_cases hlast : directory.getLast? = some '/'
  · obtain ⟨front, hfront⟩ := List.getLast?_eq_some_iff.1 hlast
    have hsplit : Text.splitOn '/' directory = Text.splitOn '/' front ++ [[]] := by
      rw [hfront]
      exact Text.splitOn_append '/' front []
    rw [if_pos (by simp [hlast]), trunk, if_pos hlast, hsplit, List.dropLast_concat, hfront,
      List.append_assoc, List.singleton_append, Text.splitOn_append, hjoin]
  · rw [if_neg (by simp [hlast, hdirectory]), trunk, if_neg hlast, Text.splitOn_append, hjoin]

theorem locate_ok {path : Path} {place : Place} (h : fs.locate path = .ok place) :
    path ≠ [] ∧ fs.follow [] (Text.splitOn '/' path) = .ok place := by
  unfold FileSystem.locate at h
  split at h
  · cases h
  · split at h
    · cases h
    · next hne =>
      split at h
      · cases h
      · cases hf : fs.follow [] (Text.splitOn '/' path) with
        | error trouble => rw [hf] at h; cases h
        | ok found => rw [hf] at h; cases h; exact ⟨hne, rfl⟩

/-- A path that can be opened is short. -/
theorem length_le_of_locate {path : Path} {place : Place} (h : fs.locate path = .ok place) :
    path.length ≤ maxPathBytes := by
  -- every character takes a byte at least, so the bound on bytes bounds the characters
  have hencode : ∀ s : Text, s.length ≤ (Utf8.encode s).length := by
    intro s
    induction s with
    | nil => exact Nat.le_refl 0
    | cons c s ih =>
      have hc : 1 ≤ (String.utf8EncodeChar c).length := by
        rw [String.length_utf8EncodeChar]
        exact Char.utf8Size_pos c
      have hcons : Utf8.encode (c :: s) = String.utf8EncodeChar c ++ Utf8.encode s := rfl
      rw [hcons, List.length_append, List.length_cons, Nat.add_comm s.length]
      exact Nat.add_le_add hc ih
  unfold FileSystem.locate at h
  split at h
  · cases h
  · split at h
    · cases h
    · split at h
      · cases h
      · next hshort => exact Nat.le_trans (hencode path) (Nat.le_of_not_lt hshort)

/-- A build directory is a directory. -/
theorem locate_directory {directory : Path} {place : Place}
    (h : Build.directoryPlace fs directory = .ok place) :
    fs.locate directory = .ok place ∧ fs.hasDirectory place = true := by
  unfold Build.directoryPlace at h
  dsimp only at h
  split at h
  · cases h
  · next found hfound =>
    split at h
    · next hdir => cases h; exact ⟨hfound, hdir⟩
    · cases h

/-- **The listed path of a file names the place of the file**, if it names anything. -/
theorem locate_pathBelow (hwf : fs.WellFormed) {directory : Path} {place : Place}
    {parts : List Text} {bytes : List UInt8}
    (hdirectory : Build.directoryPlace fs directory = .ok place)
    (hfile : (place ++ parts, bytes) ∈ fs.files) (hne : parts ≠ []) {found : Place}
    (h : fs.locate (Build.pathBelow directory parts) = .ok found) : found = place ++ parts := by
  have hname : ∀ part ∈ parts, IsName part := fun part hp =>
    hwf.isName _ hfile part (List.mem_append_right _ hp)
  obtain ⟨hdirectory, hplace⟩ := locate_ok (locate_directory hdirectory).1
  -- a slash at the end of the directory leads nowhere else
  have hfollow : fs.follow [] (trunk directory) = .ok place := by
    rcases splitOn_eq_trunk directory with habove | habove
    · rwa [habove] at hplace
    · rw [habove, follow_append] at hplace
      cases hf : fs.follow [] (trunk directory) with
      | error trouble => rw [hf] at hplace; cases hplace
      | ok found =>
        rw [hf] at hplace
        have hstay : fs.follow found [[]] = .ok place := hplace
        unfold FileSystem.follow at hstay
        split at hstay
        · rw [if_pos (by simp), FileSystem.follow] at hstay
          exact hstay
        · split at hstay <;> cases hstay
  obtain ⟨-, hfound⟩ := locate_ok h
  rw [splitOn_pathBelow hne hname hdirectory, follow_append, hfollow] at hfound
  have hdown : fs.follow place parts = .ok (place ++ parts) := by
    refine follow_names hname fun front back hparts hback => ?_
    rw [hparts, ← List.append_assoc] at hfile
    exact hwf.hasDirectory_front hfile hback
  have hfound : fs.follow place parts = .ok found := hfound
  rw [hdown] at hfound
  cases hfound
  rfl

/-! ## Listed files -/

/-- Different paths of files, each at a place of its own. -/
structure Apart (fs : FileSystem) (paths : List Path) : Prop where
  nodup : paths.Nodup
  namesFile : ∀ path ∈ paths, NamesFile path
  eq_of_locate : ∀ p ∈ paths, ∀ q ∈ paths, ∀ place, fs.locate p = .ok place →
    fs.locate q = .ok place → p = q

theorem Apart.sublist {paths paths' : List Path} (h : Apart fs paths)
    (hsub : paths'.Sublist paths) :
    Apart fs paths' where
  nodup := h.nodup.sublist hsub
  namesFile path hp := h.namesFile path (hsub.subset hp)
  eq_of_locate p hp q hq := h.eq_of_locate p (hsub.subset hp) q (hsub.subset hq)

/-- Where a listed file is. -/
structure ListedAt (fs : FileSystem) (directory : Path) (place : Place) (path : Path)
    (parts : List Text) :
    Prop where
  path_eq : path = Build.pathBelow directory parts
  ne_nil : parts ≠ []
  isName : ∀ part ∈ parts, IsName part
  mem : ∃ bytes, (place ++ parts, bytes) ∈ fs.files

theorem mem_below? {directory place : Place} {parts : List Text} :
    below? directory place = some parts ↔ place = directory ++ parts := by
  rw [below?]
  constructor
  · intro h
    split at h
    · next hprefix =>
      obtain ⟨rest, rfl⟩ := List.isPrefixOf_iff_prefix.1 hprefix
      cases h
      rw [List.drop_left]
    · cases h
  · rintro rfl
    rw [if_pos (List.isPrefixOf_iff_prefix.2 (List.prefix_append _ _)), List.drop_left]

theorem nodup_filterMap_below? {directory : Place} {files : List (Place × List UInt8)}
    (h : (files.map (·.1)).Nodup) :
    (files.filterMap fun file => below? directory file.1).Nodup := by
  have hmap : (files.filterMap fun file => below? directory file.1) =
      (files.map (·.1)).filterMap (below? directory) := by
    rw [List.filterMap_map]
    rfl
  rw [hmap]
  refine h.filterMap fun a b parts ha hb => ?_
  rw [mem_below?.1 ha, mem_below?.1 hb]

/-- What leads from a directory to a file below it are names. -/
theorem WellFormed.names_below (hwf : fs.WellFormed) {place : Place}
    (hdir : fs.hasDirectory place = true) {parts : List Text} {bytes : List UInt8}
    (hfile : (place ++ parts, bytes) ∈ fs.files) :
    parts ≠ [] ∧ ∀ part ∈ parts, IsName part := by
  refine ⟨?_, fun part hp => hwf.isName _ hfile part (List.mem_append_right _ hp)⟩
  rintro rfl
  have := hwf.not_directory _ hfile
  rw [List.append_nil, hdir] at this
  cases this

/-- Different names below a directory make different paths. -/
theorem pathBelow_injective {directory : Path} (hdirectory : directory ≠ []) {a b : List Text}
    (ha : a ≠ []) (hb : b ≠ []) (haname : ∀ part ∈ a, IsName part)
    (hbname : ∀ part ∈ b, IsName part)
    (h : Build.pathBelow directory a = Build.pathBelow directory b) : a = b := by
  have hsplit := congrArg (Text.splitOn '/') h
  rw [splitOn_pathBelow ha haname hdirectory, splitOn_pathBelow hb hbname hdirectory] at hsplit
  exact List.append_cancel_left hsplit

/-- A path is the path of one file only. -/
theorem ListedAt.unique {directory path : Path} {place : Place} {parts parts' : List Text}
    (h : ListedAt fs directory place path parts) (h' : ListedAt fs directory place path parts')
    (hdirectory : directory ≠ []) : parts = parts' :=
  pathBelow_injective hdirectory h.ne_nil h'.ne_nil h.isName h'.isName
    (h.path_eq.symm.trans h'.path_eq)

/-- The parts that lead to the files below a directory are names. -/
theorem of_mem_filterMap_below? (hwf : fs.WellFormed) {place : Place}
    (hdir : fs.hasDirectory place = true) {parts : List Text}
    (h : parts ∈ fs.files.filterMap fun file => below? place file.1) :
    parts ≠ [] ∧ (∀ part ∈ parts, IsName part) ∧ ∃ bytes, (place ++ parts, bytes) ∈ fs.files := by
  obtain ⟨⟨at', bytes⟩, hfile, hbelow⟩ := List.mem_filterMap.1 h
  obtain rfl : at' = place ++ parts := mem_below?.1 hbelow
  obtain ⟨hne, hname⟩ := hwf.names_below hdir hfile
  exact ⟨hne, hname, bytes, hfile⟩

/-- What is left of the files below a directory is the listing if it is in order. -/
theorem listFiles_of_listBelow {directory : Path} {exclude : List Text} {metaDir : Text}
    {place : Place} {found : List (List Text)} {listed : List Path}
    (hplace : Build.directoryPlace fs directory = .ok place)
    (hfound : fs.listBelow place = .ok found)
    (hkept : ((found.filter fun parts => !(Build.excludedGlobs exclude metaDir).any fun glob =>
      Glob.isMatch glob (Text.join ['/'] parts)).map (Build.pathBelow directory)) = listed)
    (hsorted : listed.Pairwise fun p q => Text.le p q = true) :
    Build.listFiles fs directory exclude metaDir = .ok listed := by
  rw [Build.listFiles, hplace]
  dsimp only
  rw [hfound]
  dsimp only
  rw [hkept, Text.sort_eq_self hsorted]

/-- A listing that comes through holds the files below the directory, less
those that a glob describes. -/
theorem of_listFiles {directory : Path} {exclude : List Text} {metaDir : Text} {listed : List Path}
    (h : Build.listFiles fs directory exclude metaDir = .ok listed) :
    ∃ place, Build.directoryPlace fs directory = .ok place ∧ listed = Text.sort
      (((fs.files.filterMap fun file => below? place file.1).filter fun parts =>
        !(Build.excludedGlobs exclude metaDir).any fun glob =>
          Glob.isMatch glob (Text.join ['/'] parts)).map
          (Build.pathBelow directory)) := by
  unfold Build.listFiles at h
  cases hplace : Build.directoryPlace fs directory with
  | error fault => rw [hplace] at h; cases h
  | ok place =>
    rw [hplace] at h
    dsimp only at h
    unfold FileSystem.listBelow at h
    dsimp only at h
    split at h
    · cases h
    · next found hfound =>
      split at hfound
      · cases hfound
      · cases hfound
        cases h
        exact ⟨place, rfl, rfl⟩

/-- **The listed files are files below the directory, each listed once.** -/
theorem listed_of_listFiles (hwf : fs.WellFormed) {directory : Path} {exclude : List Text}
    {metaDir : Text} {listed : List Path}
    (h : Build.listFiles fs directory exclude metaDir = .ok listed) :
    listed.Nodup ∧ ∃ place, Build.directoryPlace fs directory = .ok place ∧
      ∀ path ∈ listed, ∃ parts, ListedAt fs directory place path parts := by
  obtain ⟨place, hplace, rfl⟩ := of_listFiles h
  obtain ⟨hlocate, hdir⟩ := locate_directory hplace
  have hdirectory := (locate_ok hlocate).1
  constructor
  · -- the parts of a listed file are names, so its path can be cut into them again
    rw [Text.nodup_sort]
    refine List.Nodup.map_on ?_ ((nodup_filterMap_below? hwf.nodup).filter _)
    intro a ha b hb hab
    obtain ⟨hane, haname, -⟩ := of_mem_filterMap_below? hwf hdir (List.mem_filter.1 ha).1
    obtain ⟨hbne, hbname, -⟩ := of_mem_filterMap_below? hwf hdir (List.mem_filter.1 hb).1
    exact pathBelow_injective hdirectory hane hbne haname hbname hab
  · refine ⟨place, hplace, fun path hpath => ?_⟩
    rw [Text.mem_sort, List.mem_map] at hpath
    obtain ⟨parts, hparts, rfl⟩ := hpath
    obtain ⟨hne, hname, hmem⟩ := of_mem_filterMap_below? hwf hdir (List.mem_filter.1 hparts).1
    exact ⟨parts, rfl, hne, hname, hmem⟩

theorem ListedAt.namesFile {directory path : Path} {place : Place} {parts : List Text}
    (h : ListedAt fs directory place path parts)
    (hdirectory : directory ≠ []) : NamesFile path := by
  have hsplit := splitOn_pathBelow h.ne_nil h.isName hdirectory
  rw [← h.path_eq] at hsplit
  constructor
  · rintro rfl
    obtain ⟨part, hpart⟩ := List.exists_mem_of_ne_nil parts h.ne_nil
    have hnil : part ∈ Text.splitOn '/' [] := by rw [hsplit]; exact List.mem_append_right _ hpart
    exact (h.isName part hpart).ne_nil (List.mem_singleton.1 hnil)
  · intro hlast
    obtain ⟨front, hfront⟩ := List.getLast?_eq_some_iff.1 hlast
    -- a slash at the end would leave an empty part behind it, and no name is empty
    have hend : Text.splitOn '/' path = Text.splitOn '/' front ++ [[]] := by
      rw [hfront]
      exact Text.splitOn_append '/' front []
    rw [hend] at hsplit
    have hlastpart : parts.getLast? = some [] := by
      have := congrArg List.getLast? hsplit
      rw [List.getLast?_append, List.getLast?_append] at this
      cases hp : parts.getLast? with
      | none => exact absurd (List.getLast?_eq_none_iff.1 hp) h.ne_nil
      | some part => rw [hp] at this; simpa using this.symm
    exact (h.isName [] (List.mem_of_getLast? hlastpart)).ne_nil rfl

/-- **Listed files are apart**: each path names a place of its own. -/
theorem apart_of_listFiles (hwf : fs.WellFormed) {directory : Path} {exclude : List Text}
    {metaDir : Text} {listed : List Path}
    (h : Build.listFiles fs directory exclude metaDir = .ok listed) :
    Apart fs listed := by
  obtain ⟨hnodup, place, hplace, hlisted⟩ := listed_of_listFiles hwf h
  have hdirectory := (locate_ok (locate_directory hplace).1).1
  refine ⟨hnodup, fun path hp => ?_, fun p hp q hq found hfp hfq => ?_⟩
  · obtain ⟨parts, hat⟩ := hlisted path hp
    exact hat.namesFile hdirectory
  · obtain ⟨as, ha⟩ := hlisted p hp
    obtain ⟨bs, hb⟩ := hlisted q hq
    obtain ⟨_, hfilea⟩ := ha.mem
    obtain ⟨_, hfileb⟩ := hb.mem
    rw [ha.path_eq] at hfp
    rw [hb.path_eq] at hfq
    have hsame := (locate_pathBelow hwf hplace hfilea ha.ne_nil hfp).symm.trans
      (locate_pathBelow hwf hplace hfileb hb.ne_nil hfq)
    rw [ha.path_eq, hb.path_eq, List.append_cancel_left hsame]

end FileSystem
end SiteOptimizer
