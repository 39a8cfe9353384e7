import SiteOptimizer.Proofs.Build.Run

/-!
# What a run has done that gives a report

A run that gives a report has come through all its stages (`exists_reported`). The files that it
generates are written after the tasks, and they spare all other files, so each file that the run
worked on is left as its task has left it (`Reported.ended`).
-/

namespace SiteOptimizer
namespace Build

open SiteOptimizer.Module FileSystem Work

/-! ## Files that are generated -/

/-- Writes a file; directories that are missing are made. -/
def writeBelow (path : Path) (text : Text) : Work Unit := do
  Work.makeDirectories (Path.parent path)
  Work.write path text

section Stages

variable {root path : Path} {settings : Settings} {minify : Minify.Backend}
    {manifest : Page.Manifest} {report : Report} {s s' : Session} {place : Place}

theorem files_of_makeDirectories (h : Work.makeDirectories path s = .ok () s') :
    s'.files = (s.files.makeAll path).2 := by
  have h : (Work.setFiles (s.files.makeAll path).2 >>= fun _ =>
    Work.ofExcept (s.files.makeAll path).1) s =
      .ok () s' := h
  obtain ⟨_, s'', hset, hresult⟩ := of_bind_ok h
  cases hset
  rw [(of_ofExcept_ok hresult).2]

theorem of_write_ok {text : Text} (h : Work.write path text s = .ok () s') :
    s.files.write path text = .ok s'.files := by
  have h : (Work.ofExcept (s.files.write path text) >>= Work.setFiles) s = .ok () s' := h
  obtain ⟨files, s'', hwrite, hset⟩ := of_bind_ok h
  cases hset
  exact (of_ofExcept_ok hwrite).1

/-- **A file is put at the place of its path**, with directories that have been made for it. -/
theorem of_writeBelow {text : Text} (h : writeBelow path text s = .ok () s') :
    ∃ grown place, Grown s.files grown ∧ grown.locate path = .ok place ∧
      grown.hasDirectory place = false ∧
      s'.files = grown.put place (Utf8.encode text) := by
  obtain ⟨_, s'', hmade, hwritten⟩ := of_bind_ok h
  obtain ⟨place, hl, hfree, hput⟩ := of_write (of_write_ok hwritten)
  exact ⟨s''.files, place, files_of_makeDirectories hmade ▸ grown_makeAll _ _, hl, hfree, hput⟩

/-- **A file is read as it was written**, with the directories that were made for it. -/
theorem readText_of_writeBelow {text : Text} (h : writeBelow path text s = .ok () s') :
    s'.files.readText path = .ok text := by
  obtain ⟨grown, place, -, hl, hfree, hput⟩ := of_writeBelow h
  have hl' : s'.files.locate path = .ok place := locate_mono (fun _ hd => hput ▸ hd) hl
  rw [readText_eq hl' (hput ▸ hfree) (hput ▸ bytes?_put ..), Utf8.decode_encode]
  rfl

/-- What could be opened still can be. -/
theorem hasDirectory_writeBelow {text : Text} (h : writeBelow path text s = .ok () s')
    (other : Place) (hd : s.files.hasDirectory other = true) :
    s'.files.hasDirectory other = true := by
  obtain ⟨grown, found, hgrown, -, -, hput⟩ := of_writeBelow h
  rw [hput]
  exact hgrown.hasDirectory other hd

/-- **A file that is written spares the files at other places.** -/
theorem spares_writeBelow {text : Text} (h : writeBelow path text s = .ok () s')
    (hfile : (s.files.bytes? place).isSome = true) (hother : s'.files.locate path ≠ .ok place) :
    Spares s.files s'.files place := by
  obtain ⟨grown, found, hgrown, hl, -, hput⟩ := of_writeBelow h
  have hmono : ∀ other, grown.hasDirectory other = true → s'.files.hasDirectory other = true :=
    fun other hd => hput ▸ hd
  have hne : place ≠ found := by
    rintro rfl
    exact hother (locate_mono hmono hl)
  rw [hput]
  exact (hgrown.spares hfile).trans (spares_put hne _)

/-- A stylesheet that can be written has a name. -/
theorem combinedCssName_ne_nil {text : Text} (hroot : root ≠ [])
    (h : writeBelow (stylesheetPath root settings) text s = .ok () s') :
    settings.combinedCssName ≠ [] := by
  intro hnil
  obtain ⟨_, s'', -, hwrite⟩ := of_bind_ok h
  refine getLast?_of_write (of_write_ok hwrite) ?_
  unfold stylesheetPath
  rw [hnil]
  unfold Path.join
  split
  · next hrooted => cases hrooted
  · split
    · next hslash =>
      rw [List.dropWhile_nil, List.append_nil]
      simpa [hroot] using hslash
    · rw [List.dropWhile_nil, List.getLast?_append]
      rfl

/-- The combined stylesheet is built and written, unless it is empty. -/
theorem built_of_generate {generated : List Path} (hcss : settings.preloadCss = true)
    (h : generate root settings minify manifest s = .ok generated s') :
    ∃ code s'', buildStylesheet manifest (styleMinifier settings minify) s = .ok code s'' ∧
      ((code = [] ∧ generated = [] ∧ s' = s'') ∨
        (code ≠ [] ∧ generated = [stylesheetPath root settings] ∧
          writeBelow (stylesheetPath root settings) code s'' = .ok () s')) := by
  unfold generate at h
  rw [hcss, if_neg (by simp)] at h
  obtain ⟨code, s'', hbuild, h⟩ := of_bind_ok h
  refine ⟨code, s'', hbuild, ?_⟩
  by_cases hnil : code = []
  · rw [if_pos hnil] at h
    cases h
    exact .inl ⟨hnil, rfl, rfl⟩
  · rw [if_neg hnil] at h
    have h : (writeBelow (stylesheetPath root settings) code >>= fun _ =>
        pure [stylesheetPath root settings]) s'' = .ok generated s' := by
      rw [← h, writeBelow, bind_assoc]
      rfl
    obtain ⟨_, s₃, hwrite, hpure⟩ := of_bind_ok h
    cases hpure
    exact .inr ⟨hnil, rfl, hwrite⟩

/-- **What has been generated is the combined stylesheet**, or nothing. -/
theorem of_generate {generated : List Path}
    (h : generate root settings minify manifest s = .ok generated s') :
    (generated = [] ∧ s'.files = s.files) ∨
    ∃ code s'', generated = [stylesheetPath root settings] ∧
      settings.preloadCss = true ∧ code ≠ [] ∧
      combinedText s.files manifest (styleMinifier settings minify) = .ok code ∧
      s''.files = s.files ∧
      writeBelow (stylesheetPath root settings) code s'' = .ok () s' := by
  cases hcss : settings.preloadCss with
  | false =>
    unfold generate at h
    rw [hcss] at h
    cases h
    exact .inl ⟨rfl, rfl⟩
  | true =>
    obtain ⟨code, s₁, hbuild, hwritten⟩ := built_of_generate hcss h
    -- the stylesheet is the text that the files as they are now combine to
    obtain ⟨s₂, hs₂, hbuild'⟩ := buildStylesheet_eq manifest (styleMinifier settings minify) s
    rw [hbuild'] at hbuild
    cases htext : combinedText s.files manifest (styleMinifier settings minify) with
    | error fault => rw [htext] at hbuild; cases hbuild
    | ok text =>
      rw [htext] at hbuild
      cases hbuild
      rcases hwritten with ⟨-, hgenerated, rfl⟩ | ⟨hne, hgenerated, hwrite⟩
      · exact .inl ⟨hgenerated, hs₂⟩
      · exact .inr ⟨code, s₁, hgenerated, rfl, hne, rfl, hs₂, hwrite⟩

/-- **The last thing that is written is the document.** -/
theorem of_finish {report' : Report} (h : finish settings root report s = .ok report' s') :
    report' = report ∧ ∃ document s'', documentOf root settings report = .ok document ∧
      writeBelow (documentPath root settings.metaDir) document.toJson.render s = .ok () s'' ∧
      s'.files = s''.files := by
  unfold finish at h
  obtain ⟨document, s₁, hdocument, h⟩ := of_bind_ok h
  obtain ⟨hdocument, hs₁⟩ := of_ofExcept_ok hdocument
  rw [hs₁] at h
  obtain ⟨_, s₂, hwrite, h⟩ := of_bind_ok h
  cases h
  exact ⟨rfl, document, s₂, hdocument, hwrite, rfl⟩

end Stages

/-! ## The stages of a run -/

/-- The stages that a run has come through that gives a report: the session when its tasks were
done, and the one when the combined stylesheet was written. -/
structure Reported (plan : Plan) (files : FileSystem) (report : Report) (listed : List Path)
    (memory : Memory) (done written : Session) : Prop where
  listFiles_eq : listFiles files (Path.absolute plan.directory) plan.settings.exclude
    plan.settings.metaDir = .ok listed
  files_eq : report.files = (inventoryOf (Path.absolute plan.directory) plan.settings listed).tasks
  worked_eq : workedOf plan files = .ok (report.manifest, report.failures) done
  worked : Worked (Path.absolute plan.directory) plan.settings plan.supply.backend
    (inventoryOf (Path.absolute plan.directory) plan.settings listed) files memory
    report.manifest report.failures done.files
  generate_eq : generate (Path.absolute plan.directory) plan.settings plan.supply.backend
    report.manifest done = .ok report.generated written
  finish_eq : finish plan.settings (Path.absolute plan.directory) report written =
    .ok report (optimize plan files).session

section Run

variable {plan : Plan} {files : FileSystem} {report : Report}

theorem of_concluded {settings : Settings} {root : Path} {minifiers : List Minify.Minifier}
    {result : EStateM.Result Fault Session Report}
    (h : (concluded settings root minifiers result).result = .ok report) :
    ∃ s, result = .ok report s ∧
      finish settings root report s = .ok report
        (concluded settings root minifiers result).session := by
  cases result with
  | error fault s => cases h
  | ok found s =>
    unfold concluded at h ⊢
    dsimp only at h ⊢
    cases hfinish : finish settings root found s with
    | error fault s' => rw [hfinish] at h; cases h
    | ok report' s' =>
      obtain ⟨rfl, -⟩ := of_finish hfinish
      rw [hfinish] at h
      cases h
      exact ⟨s, rfl, hfinish⟩

/-- **A run that gives a report has come through all its stages.** -/
theorem exists_reported (hwf : files.WellFormed) (hsource : plan.source = Source.scripts)
    (h : (optimize plan files).result = .ok report) :
    ∃ listed memory done written, Reported plan files report listed memory done written := by
  rcases run_starts plan files with hunstarted | ⟨listed, s, minifiers, hstarted⟩
  · obtain ⟨trouble, hsetup⟩ := hunstarted.setup
    rw [hsetup] at h
    cases h
  · obtain ⟨hlisted, hs, hrun, -, -, hworkedOf, -⟩ := hstarted
    rw [hsource] at hs hrun hworkedOf
    rw [hrun] at h
    -- the report has come through all phases, so each is read off in turn
    obtain ⟨written, hall, hfinish⟩ := of_concluded h
    rw [← hrun] at hfinish
    rw [optimizeAll_eq] at hall
    obtain ⟨⟨manifest, failures⟩, done, hthrough, hrest⟩ := of_bind_ok hall
    obtain ⟨generated, s', hgenerate, hpure⟩ := of_bind_ok hrest
    cases hpure
    have hapart : Apart files (inventoryOf (Path.absolute plan.directory)
        plan.settings listed).tasks :=
      (apart_of_listFiles hwf hlisted).sublist List.filter_sublist
    rcases workThrough_ends hs plan.settings plan.supply.backend rfl hapart with
      ⟨_, _, _, memory, hended, hworked⟩ | ⟨page, fault, s', hended⟩
    · rw [hthrough] at hended
      cases hended
      exact ⟨listed, memory, done, written, hlisted, rfl, hworkedOf.trans hthrough,
        hworked, hgenerate, hfinish⟩
    · rw [hthrough] at hended
      cases hended

/-- One of the files that a run generates is at the place of this path. -/
def Overwrites (plan : Plan) (fs : FileSystem) (path : Path) : Prop :=
  ∃ place, fs.locate path = .ok place ∧
    (fs.locate (stylesheetPath (Path.absolute plan.directory) plan.settings) = .ok place ∨
      fs.locate (documentPath (Path.absolute plan.directory) plan.settings.metaDir) = .ok place)

/-- What the tasks of a run share that gives this report. -/
def Plan.job (plan : Plan) (files : FileSystem) (report : Report) : Job :=
  jobOf (Path.absolute plan.directory) plan.settings plan.supply.backend files report.manifest

variable {listed : List Path} {memory : Memory} {done written : Session}

/-- **Files that are generated spare all others.** -/
theorem Reported.spares (h : Reported plan files report listed memory done written) {path : Path}
    {place : Place} (hl : done.files.locate path = .ok place)
    (hfile : (done.files.bytes? place).isSome = true)
    (hover : ¬ Overwrites plan (optimize plan files).session.files path) :
    Spares done.files (optimize plan files).session.files place := by
  obtain ⟨-, document, last, -, hlast, hfinal⟩ := of_finish h.finish_eq
  rw [hfinal] at hover ⊢
  have hmono := hasDirectory_writeBelow hlast
  have hdocument : Spares done.files written.files place → Spares done.files last.files place := by
    intro hs
    refine hs.trans (spares_writeBelow hlast (hs.bytes ▸ hfile) fun hout =>
      hover ⟨place, ?_, .inr hout⟩)
    exact locate_mono hmono (hs.locate hl)
  rcases of_generate h.generate_eq with ⟨-, hsame⟩ | ⟨code, s, -, -, -, -, hsame, hsheet⟩
  · exact hdocument (hsame ▸ .refl _ _)
  · rw [← hsame] at hl hfile
    have hl' : last.files.locate path = .ok place :=
      locate_mono hmono (locate_mono (hasDirectory_writeBelow hsheet) hl)
    refine hdocument (hsame ▸ spares_writeBelow hsheet hfile fun hout => ?_)
    exact hover ⟨place, hl', .inl (locate_mono hmono hout)⟩

/-- **A file is left as its task has left it.** -/
theorem Reported.ended (h : Reported plan files report listed memory done written) {path : Path}
    {code : Text} (hpath : path ∈ report.files) (hread : files.readText path = .ok code)
    (hover : ¬ Overwrites plan (optimize plan files).session.files path) :
    ∃ text, (optimize plan files).session.files.readText path = .ok text ∧
      (plan.job files report).Ended (Source.scripts (Path.absolute plan.directory)).recallModules
      files memory path code report.failures text := by
  obtain ⟨text, htext, hended⟩ :=
    (h.worked.done path (h.files_eq ▸ hpath)).ended h.worked.alike hread
  obtain ⟨place, bytes, hl, -, hbytes⟩ := of_readText htext
  exact ⟨text, (h.spares hl (by rw [hbytes]; rfl) hover).readText hl htext, hended⟩

end Run

end Build
end SiteOptimizer
