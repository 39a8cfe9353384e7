import SiteOptimizer.Proofs.FileSystem
import SiteOptimizer.Proofs.Utf8

/-!
# What other files are spared

Making directories and writing files elsewhere spares a file: what could be opened still
can be, and the file holds what it held (`Spares`). A file that has been written holds
what was written (`readText_put`).
-/

namespace SiteOptimizer
namespace FileSystem

/-- The file at a place is as it was, and all directories are still there. -/
structure Spares (fs fs' : FileSystem) (place : Place) : Prop where
  hasDirectory : ∀ other, fs.hasDirectory other = true → fs'.hasDirectory other = true
  free : fs.hasDirectory place = false → fs'.hasDirectory place = false
  bytes : fs'.bytes? place = fs.bytes? place

variable {fs fs' fs'' : FileSystem} {place : Place}

theorem Spares.refl (fs : FileSystem) (place : Place) : Spares fs fs place :=
  ⟨fun _ h => h, fun h => h, rfl⟩

theorem Spares.trans (h : Spares fs fs' place)
    (h' : Spares fs' fs'' place) : Spares fs fs'' place where
  hasDirectory other hd := h'.hasDirectory other (h.hasDirectory other hd)
  free hf := h'.free (h.free hf)
  bytes := h'.bytes.trans h.bytes

theorem follow_mono (h : ∀ other, fs.hasDirectory other = true → fs'.hasDirectory other = true)
    {start found : Place} {parts : List Text} (hf : fs.follow start parts = .ok found) :
    fs'.follow start parts = .ok found := by
  -- with more directories each part is taken as before, since only missing ones stop the walk
  induction parts generalizing start with
  | nil => exact hf
  | cons part parts ih =>
    unfold FileSystem.follow at hf ⊢
    split at hf
    · next hdir =>
      rw [if_pos (h start hdir)]
      split at hf
      · next hstay => rw [if_pos hstay]; exact ih hf
      · next hstay =>
        rw [if_neg hstay]
        split at hf
        · next hup => rw [if_pos hup]; exact ih hf
        · next hup =>
          rw [if_neg hup]
          split at hf
          · cases hf
          · next hshort => rw [if_neg hshort]; exact ih hf
    · split at hf <;> cases hf

/-- Paths that can be opened name the same places where there are more directories. -/
theorem locate_mono (h : ∀ other, fs.hasDirectory other = true → fs'.hasDirectory other = true)
    {path : Path} {found : Place} (hl : fs.locate path = .ok found) :
    fs'.locate path = .ok found := by
  obtain ⟨-, hfollow⟩ := locate_ok hl
  unfold FileSystem.locate at hl ⊢
  rw [follow_mono h hfollow]
  split at hl
  · cases hl
  · next hnul =>
    rw [if_neg hnul]
    split at hl
    · cases hl
    · next hne =>
      rw [if_neg hne]
      split at hl
      · cases hl
      · next hshort =>
        rw [if_neg hshort, ← hl, hfollow]

theorem Spares.locate (h : Spares fs fs' place) {path : Path} {found : Place}
    (hl : fs.locate path = .ok found) : fs'.locate path = .ok found :=
  locate_mono h.hasDirectory hl

/-- **A file that has been spared is read as before.** -/
theorem Spares.readText (h : Spares fs fs' place) {path : Path} {text : Text}
    (hl : fs.locate path = .ok place) (hread : fs.readText path = .ok text) :
    fs'.readText path = .ok text := by
  obtain ⟨found, bytes, hfound, hdir, hbytes⟩ := of_readText hread
  rw [hl] at hfound
  cases hfound
  rw [← hread, readText_eq hl hdir hbytes,
    readText_eq (h.locate hl) (h.free hdir) (h.bytes.trans hbytes)]

theorem spares_put {other : Place} (h : place ≠ other) (bytes : List UInt8) :
    Spares fs (fs.put other bytes) place :=
  ⟨fun _ hd => hd, fun hf => hf, bytes?_put_of_ne h⟩

/-! ## Making directories -/

/-- The same files are there, and all directories, perhaps with others where nothing was. -/
structure Grown (fs fs' : FileSystem) : Prop where
  files : fs'.files = fs.files
  hasDirectory : ∀ place, fs.hasDirectory place = true → fs'.hasDirectory place = true
  free : ∀ place, (fs.bytes? place).isSome = true → fs.hasDirectory place = false →
    fs'.hasDirectory place = false

theorem Grown.refl (fs : FileSystem) : Grown fs fs :=
  ⟨rfl, fun _ h => h, fun _ _ h => h⟩

theorem Grown.bytes? (h : Grown fs fs') (place : Place) : fs'.bytes? place = fs.bytes? place := by
  rw [FileSystem.bytes?, FileSystem.bytes?, h.files]

theorem Grown.trans (h : Grown fs fs') (h' : Grown fs' fs'') : Grown fs fs'' where
  files := h'.files.trans h.files
  hasDirectory place hd := h'.hasDirectory place (h.hasDirectory place hd)
  free place hfile hf := h'.free place (h.bytes? place ▸ hfile) (h.free place hfile hf)

theorem Grown.spares (h : Grown fs fs')
    (hfile : (fs.bytes? place).isSome = true) : Spares fs fs' place :=
  ⟨h.hasDirectory, h.free place hfile, h.bytes? place⟩

theorem grown_addDirectory (hnothing : (fs.bytes? place).isSome = false) :
    Grown fs (fs.addDirectory place) := by
  unfold FileSystem.addDirectory
  split
  · exact .refl fs
  · refine ⟨rfl, fun other hd => ?_, fun other hfile hf => ?_⟩
    · unfold FileSystem.hasDirectory at hd ⊢
      rw [List.contains_cons, Bool.or_left_comm, hd, Bool.or_true]
    · have hne : (other == place) = false := by
        rw [beq_eq_false_iff_ne]
        rintro rfl
        rw [hfile] at hnothing
        cases hnothing
      unfold FileSystem.hasDirectory at hf ⊢
      rw [List.contains_cons, hne, Bool.false_or, hf]

theorem grown_makeDirectory {path : Path}
    (hmade : fs.makeDirectory path = .ok fs') : Grown fs fs' := by
  unfold FileSystem.makeDirectory at hmade
  dsimp only at hmade
  split at hmade
  · cases hmade
  · cases hmade
  · split at hmade
    · cases hmade
    · next hfree =>
      cases hmade
      simp only [Bool.or_eq_true, not_or, Bool.not_eq_true] at hfree
      exact grown_addDirectory hfree.2

theorem grown_makeLast (fs : FileSystem) (path : Path) : Grown fs (fs.makeLast path).2 := by
  unfold makeLast
  split
  · next hmade => exact grown_makeDirectory hmade
  · split <;> exact .refl fs
  · exact .refl fs

/-- **Making directories leaves the files as they are**, however it ends. -/
theorem grown_makeDirectories (depth : Nat) (fs : FileSystem) (path : Path) :
    Grown fs (FileSystem.makeDirectories depth fs path).2 := by
  induction depth generalizing path with
  | zero => exact .refl fs
  | succ depth ih =>
    rw [makeDirectories_succ]
    split
    · have habove := ih (splitLast path).1
      -- whatever the directories above have come to, the last one is made behind them or not at all
      have hlast : ∀ {result : Except Fault Unit × FileSystem}, Grown fs result.2 →
          Grown fs (if (splitLast path).2 = Path.here then (.ok (), result.2)
            else result.2.makeLast path : Except Fault Unit × FileSystem).2 := by
        intro result hs
        split
        · exact hs
        · exact hs.trans (grown_makeLast result.2 path)
      dsimp only
      split
      · exact hlast habove
      · exact hlast habove
      · exact habove
    · exact grown_makeLast fs path

theorem grown_makeAll (fs : FileSystem) (path : Path) : Grown fs (fs.makeAll path).2 :=
  grown_makeDirectories _ fs path

/-! ## Writing -/

/-- What can be written is put at the place of its path. -/
theorem of_write {path : Path} {text : Text} (h : fs.write path text = .ok fs') :
    ∃ place, fs.locate path = .ok place ∧ fs.hasDirectory place = false ∧
      fs' = fs.put place (Utf8.encode text) := by
  unfold FileSystem.write at h
  dsimp only at h
  split at h
  · cases h
  · cases h
  · cases h
  · next place hl =>
    split at h
    · cases h
    · next hdir =>
      split at h
      · cases h
      · next htrim =>
        cases h
        rw [not_not.1 htrim, ite_self] at hl
        exact ⟨place, hl, by simpa using hdir, rfl⟩

/-- What can be written is not named like a directory. -/
theorem getLast?_of_write {path : Path} {text : Text} (h : fs.write path text = .ok fs') :
    path.getLast? ≠ some '/' := by
  intro hlast
  obtain ⟨front, rfl⟩ := List.getLast?_eq_some_iff.1 hlast
  -- writing compares the path with itself but for the slashes at its end
  have htrim : Text.dropEndWhile (· = '/') (front ++ ['/']) ≠ front ++ ['/'] := by
    rw [Text.dropEndWhile_append (by simp)]
    intro heq
    have hle : (Text.dropEndWhile (· = '/') front).length ≤ front.length := by
      unfold Text.dropEndWhile
      rw [List.length_reverse]
      exact Nat.le_trans (List.dropWhile_suffix _).length_le (Nat.le_of_eq List.length_reverse)
    rw [heq, List.length_append] at hle
    exact absurd hle (Nat.not_succ_le_self _)
  unfold FileSystem.write at h
  dsimp only at h
  split at h
  · cases h
  · cases h
  · cases h
  · split at h
    · cases h
    · cases h

/-- **A file is read as it was written.** -/
theorem readText_put {path : Path} (hl : fs.locate path = .ok place)
    (hdir : fs.hasDirectory place = false) (halike : Alike fs fs') {text : Text}
    (hbytes : fs'.bytes? place = some (Utf8.encode text)) :
    fs'.readText path = .ok text := by
  rw [readText_eq ((halike.locate path).trans hl) ((halike.hasDirectory place).trans hdir) hbytes,
    Utf8.decode_encode]
  rfl

end FileSystem
end SiteOptimizer
