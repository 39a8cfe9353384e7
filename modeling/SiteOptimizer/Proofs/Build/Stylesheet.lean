import SiteOptimizer.Build.Run
import SiteOptimizer.Proofs.FileSystem
import SiteOptimizer.Proofs.Session

/-!
# How the combined stylesheet is written

The combined stylesheet depends on the files alone (`combinedText`). Building it changes no file; it
fails if a stylesheet is no text, or if the minifier refuses what the stylesheets make up.
-/

namespace SiteOptimizer
namespace Build

open FileSystem

/-- The text of the combined stylesheet, or the fault that stands against it. -/
def combinedText (fs : FileSystem) (manifest : Page.Manifest)
    (minify? : Option (Text → Except Fault Text)) :
    Except Fault Text :=
  (((combinedSources manifest).filter fs.isFile).mapM fs.readText).bind fun parts =>
    match minify? with
    | some minify => if Text.join ['\n'] parts = [] then .ok [] else minify (Text.join ['\n'] parts)
    | none => .ok (Text.join ['\n'] parts)

theorem combinedSources_singleton (page : Path) (found : Page.Dependencies) :
    combinedSources [(page, found)] =
      ((Text.sort found.js).filterMap Script.styleSource?).eraseDups := by
  have hsorted : Page.Manifest.sorted [(page, found)] = [(page, found)] :=
    List.mergeSort_singleton _
  rw [combinedSources, hsorted, List.flatMap_singleton]

theorem stylesheetPart_eq (source : Path) (s : Session) : stylesheetPart source s =
    if s.files.isFile source then
      match s.files.readText source with
      | .ok text => .ok (some text) s
      | .error fault => .error fault s
    else .ok none { s with notes := s.notes ++ [.stylesheetMissing source] } := by
  show (if s.files.isFile source then
      EStateM.bind (Work.ofExcept (s.files.readText source)) fun text => pure (some text)
    else EStateM.bind (Work.note (.stylesheetMissing source)) fun _ => pure none :
    Work (Option Text)) s = _
  split
  · cases s.files.readText source <;> rfl
  · rfl

/-- The stylesheets that are files are read; of the others a note is taken. -/
theorem stylesheetParts_eq (sources : List Path) (s : Session) :
    ∃ s', s'.files = s.files ∧ sources.filterMapM stylesheetPart s =
      match (sources.filter s.files.isFile).mapM s.files.readText with
      | .ok parts => .ok parts s'
      | .error fault => .error fault s' := by
  induction sources generalizing s with
  | nil => exact ⟨s, rfl, rfl⟩
  | cons source sources ih =>
    by_cases hfile : s.files.isFile source = true
    · rw [List.filter_cons_of_pos hfile, List.mapM_cons]
      cases hread : s.files.readText source with
      | error fault =>
        refine ⟨s, rfl, Work.filterMapM_cons_of_error ?_⟩
        rw [stylesheetPart_eq, if_pos hfile, hread]
      | ok text =>
        obtain ⟨s', hs', hrest⟩ := ih s
        have hpart : stylesheetPart source s = .ok (some text) s := by
          rw [stylesheetPart_eq, if_pos hfile, hread]
        refine ⟨s', hs', ?_⟩
        rw [Work.filterMapM_cons_of_ok hpart, hrest]
        cases (sources.filter s.files.isFile).mapM s.files.readText <;> rfl
    -- a stylesheet that is not there leaves a note, and the files as they are
    · obtain ⟨s', hs', hrest⟩ := ih { s with notes := s.notes ++ [.stylesheetMissing source] }
      have hpart : stylesheetPart source s =
          .ok none { s with notes := s.notes ++ [.stylesheetMissing source] } := by
        rw [stylesheetPart_eq, if_neg hfile]
      refine ⟨s', hs', ?_⟩
      rw [List.filter_cons_of_neg hfile, Work.filterMapM_cons_of_ok hpart, hrest]
      cases (sources.filter s.files.isFile).mapM s.files.readText <;> rfl

/-- **The combined stylesheet is what its stylesheets make up**, and building it changes no file. -/
theorem buildStylesheet_eq (manifest : Page.Manifest) (minify? : Option (Text → Except Fault Text))
    (s : Session) : ∃ s', s'.files = s.files ∧ buildStylesheet manifest minify? s =
      match combinedText s.files manifest minify? with
      | .ok code => .ok code s'
      | .error fault => .error fault s' := by
  obtain ⟨s', hs', hparts⟩ := stylesheetParts_eq (combinedSources manifest) s
  refine ⟨s', hs', ?_⟩
  show EStateM.bind (stylesheetParts manifest) _ s = _
  unfold EStateM.bind stylesheetParts combinedText
  rw [hparts]
  cases ((combinedSources manifest).filter s.files.isFile).mapM s.files.readText with
  | error fault => rfl
  | ok parts =>
    dsimp only [Except.bind]
    cases minify? with
    | none => rfl
    | some minify =>
      dsimp only
      by_cases hnil : Text.join ['\n'] parts = []
      · rw [if_pos hnil, if_pos hnil, hnil]
        rfl
      · rw [if_neg hnil, if_neg hnil]
        cases minify (Text.join ['\n'] parts) <;> rfl

/-! ## Writing a file below directories that may be missing -/

/-- **A file is written where one can be.** -/
theorem write_of_accepts {s : Session} {path : Path} {place : Place} {after : FileSystem}
    (h : Accepts s.files path place after) (text : Text) {α : Type} (next : Unit → Work α) :
    (Work.makeDirectories (Path.parent path) >>= fun _ => Work.write path text >>= next) s =
      next () { s with files := after.put place (Utf8.encode text) } := by
  have hmake : Work.makeDirectories (Path.parent path) s = .ok () { s with files := after } := by
    show EStateM.bind (Work.setFiles (s.files.makeAll (Path.parent path)).2)
      (fun _ => Work.ofExcept (s.files.makeAll (Path.parent path)).1) s = _
    rw [h.made]
    rfl
  have hwrite : Work.write path text { s with files := after } =
      .ok () { s with files := after.put place (Utf8.encode text) } := by
    show EStateM.bind (Work.ofExcept (after.write path text)) Work.setFiles
      { s with files := after } = _
    rw [write_eq h.namesFile h.located h.free]
    rfl
  rw [Work.bind_of_ok hmake, Work.bind_of_ok hwrite]

end Build
end SiteOptimizer
