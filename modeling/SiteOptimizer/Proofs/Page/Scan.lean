import SiteOptimizer.Page.Scan
import SiteOptimizer.Proofs.Module.Source

/-!
# What a scan finds and how it fails

A scan changes no files. It finds for each page what the page depends on, with all modules that the
scripts of the page reach, or it fails with a fault that names the page.
-/

namespace SiteOptimizer
namespace Page

open SiteOptimizer.Module

variable {root page : Path} {fs : FileSystem} {s : Session}

theorem concernsPage_of_locate {path : Path} {fault : Fault} (h : fs.locate path = .error fault) :
    fault.concernsPage = true := by
  unfold FileSystem.locate at h
  split at h
  · cases h; rfl
  · split at h
    · cases h; rfl
    · split at h
      · cases h; rfl
      · cases hf : fs.follow [] (Text.splitOn '/' path) with
        | error trouble => rw [hf] at h; cases h; rfl
        | ok place => rw [hf] at h; cases h

theorem concernsPage_of_readBytes {path : Path} {fault : Fault}
    (h : fs.readBytes path = .error fault) :
    fault.concernsPage = true := by
  unfold FileSystem.readBytes at h
  split at h
  · next hl => cases h; exact concernsPage_of_locate hl
  · split at h
    · cases h; rfl
    · split at h
      · cases h
      · cases h; rfl

/-- **Whatever goes wrong with reading a document concerns the page.** -/
theorem concernsPage_of_readDocument {path : Path} {fault : Fault}
    (h : fs.readDocument path = .error fault) :
    fault.concernsPage = true := by
  rcases FileSystem.readText_eq_error (map_eq_error_iff.1 h) with hread | ⟨flaw, rfl⟩
  · exact concernsPage_of_readBytes hread
  · rfl

theorem concernsPage_of_importsIn {path : Path} {fault : Fault}
    (h : (Source.scripts root).importsIn fs path = .error fault) : fault.concernsPage = true := by
  have h : extract fs path root = .error fault := map_eq_error_iff.1 h
  unfold extract at h
  split at h
  · exact concernsPage_of_readDocument (map_eq_error_iff.1 h)
  · cases h

/-! ## One page -/

/-- A tag names the file that its first attribute of the name leads to. -/
theorem reference?_eq_some {attributes : Markup.Attributes} {name : Text} {page root path : Path} :
    reference? attributes name page root = some path ↔
      ∃ reference, attributes.value? name = some reference ∧ reference ≠ [] ∧
        Reference.resolve? reference page root = some path := by
  simp [reference?, Option.bind_eq_some_iff]

/-- What the tags of one name lead to is what references lead to. -/
theorem exists_resolve?_of_mem_filterMap {tags : List (Text × Markup.Attributes)} {tag name : Text}
    {path : Path} (h : path ∈ tags.filterMap fun (found, attributes) =>
      if found = tag then reference? attributes name page root else none) :
    ∃ reference, Reference.resolve? reference page root = some path := by
  obtain ⟨⟨found, attributes⟩, -, h⟩ := List.mem_filterMap.1 h
  obtain ⟨-, h⟩ := Option.ite_none_right_eq_some.1 h
  obtain ⟨reference, -, -, hresolve⟩ := reference?_eq_some.1 h
  exact ⟨reference, hresolve⟩

theorem exists_resolve?_of_mem_scripts {code : Text} {path : Path}
    (h : path ∈ scripts code page root) :
    ∃ reference, Reference.resolve? reference page root = some path :=
  exists_resolve?_of_mem_filterMap h

theorem exists_resolve?_of_mem_stylesheets {code : Text} {path : Path}
    (h : path ∈ stylesheets code page root) :
    ∃ reference, Reference.resolve? reference page root = some path :=
  exists_resolve?_of_mem_filterMap h

/-- What the page `page` of these files depends on. -/
structure Describes (root : Path) (fs : FileSystem) (page : Path) (code : Text)
    (found : Dependencies) : Prop where
  readDocument : fs.readDocument page = .ok code
  mem_js : ∀ p, p ∈ found.js ↔
    Reachable ((Source.scripts root).importsIn fs) (scripts code page root) p
  mem_css : ∀ p, p ∈ found.css ↔ p ∈ stylesheets code page root

/-- What a page depends on is remembered with all that it imports. -/
theorem Describes.closed {code : Text} {found : Dependencies}
    (h : Describes root fs page code found) (hs : Remembers (Source.scripts root) fs s)
    (hknows : Knows found.js s) : s.memory.Closed found.js := by
  intro path hpath
  obtain ⟨targets, hfound⟩ := hknows path hpath
  refine ⟨targets, hfound, fun target ht => (h.mem_js target).2 ?_⟩
  exact .step ((h.mem_js path).1 hpath) (hs.known path targets hfound) ht

theorem exists_ofLists {entry js : List Path} (css : List Path) (h : ∀ p ∈ entry, p ∈ js) :
    ∃ found, Dependencies.ofLists entry css js = .ok found ∧ (∀ p, p ∈ found.entry ↔ p ∈ entry) ∧
      (∀ p, p ∈ found.css ↔ p ∈ css) ∧ ∀ p, p ∈ found.js ↔ p ∈ js :=
  ⟨_, dif_pos h, fun _ => Text.mem_sortUnique, fun _ => Text.mem_sortUnique,
    fun _ => Text.mem_sortUnique⟩

/-- Dependencies whose files are listed as sets are are what their lists describe. -/
theorem ofLists_eq {found : Dependencies} (hentry : Text.sortUnique found.entry = found.entry)
    (hcss : Text.sortUnique found.css = found.css) (hjs : Text.sortUnique found.js = found.js) :
    Dependencies.ofLists found.entry found.css found.js = .ok found := by
  obtain ⟨entry, css, js, hsubset⟩ := found
  rw [Dependencies.ofLists, dif_pos hsubset]
  simp only [hentry, hcss, hjs]

/-- Modules that are remembered are searched to the end, or a module cannot be looked up. -/
theorem recallModules_ends (hs : Remembers (Source.scripts root) fs s) (entries : List Path) :
    (∃ js s', (Source.scripts root).recallModules entries s = .ok js s' ∧
      Remembers (Source.scripts root) fs s' ∧ Knows js s' ∧
      ∀ p, p ∈ js ↔ Reachable ((Source.scripts root).importsIn fs) entries p) ∨
    ∃ fault s', (Source.scripts root).recallModules entries s = .error fault s' ∧
    fault.concernsPage = true := by
  have hrun : (Source.scripts root).recallModules entries s =
      closure (Source.scripts root).recall ((Source.scripts root).limit fs) entries s := by
    rw [recallModules_eq, hs.files_eq]
  have hends := ends_closure (answers_recall (Source.scripts root) fs entries)
    ((Source.scripts root).limit fs) ⟨hs, nofun⟩
  rw [hrun]
  generalize closure (Source.scripts root).recall ((Source.scripts root).limit fs)
    entries s = result at hends
  cases hends with
  | found hs' hdone _ hmem _ =>
    refine .inl ⟨_, _, rfl, hs'.1, fun p hp => hs'.2 p (hdone p (Text.mem_sort.1 hp)), fun p => ?_⟩
    rw [Text.mem_sort]
    exact hmem p
  | failed _ _ hi => exact .inr ⟨_, _, rfl, concernsPage_of_importsIn hi⟩
  | exhausted _ hnodup hlen hmany =>
    have hle := length_le_of_reachable hnodup hmany
    omega

theorem scan_eq (modules : List Path → Work (List Path)) (page root : Path) (s : Session) :
    scan modules page root s = (Work.ofExcept (s.files.readDocument page) >>= fun code =>
      modules (scripts code page root) >>= fun js =>
        Work.ofExcept (Dependencies.ofLists (scripts code page root)
          (stylesheets code page root) js)) s :=
  rfl

/-- A scan searches for the modules of the scripts that the page names. -/
theorem scan_of_readDocument {modules : List Path → Work (List Path)} {code : Text}
    (h : s.files.readDocument page = .ok code) :
    scan modules page root s = (modules (scripts code page root) >>= fun js =>
      Work.ofExcept (Dependencies.ofLists (scripts code page root)
        (stylesheets code page root) js)) s := by
  rw [scan_eq, h]
  rfl

theorem scan_of_unreadable {modules : List Path → Work (List Path)} {fault : Fault}
    (h : s.files.readDocument page = .error fault) : scan modules page root s = .error fault s := by
  rw [scan_eq, h]
  rfl

/-- **A page is scanned, or a fault concerns it.** -/
theorem scan_ends (hs : Remembers (Source.scripts root) fs s) (page : Path) :
    (∃ found s' code, scan (Source.scripts root).recallModules page root s = .ok found s' ∧
      Remembers (Source.scripts root) fs s' ∧ Knows found.js s' ∧
      Describes root fs page code found) ∨
    ∃ fault s', scan (Source.scripts root).recallModules page root s = .error fault s' ∧
      fault.concernsPage = true := by
  cases hread : fs.readDocument page with
  | error fault =>
    rw [scan_of_unreadable (hs.files_eq ▸ hread)]
    exact .inr ⟨fault, s, rfl, concernsPage_of_readDocument hread⟩
  | ok code =>
    rw [scan_of_readDocument (hs.files_eq ▸ hread)]
    rcases recallModules_ends hs (scripts code page root) with
      ⟨js, s', hjs, hs', hknows, hmem⟩ | ⟨fault, s', hf, hc⟩
    · have hsubset : ∀ p ∈ scripts code page root, p ∈ js := fun p hp => (hmem p).2 (.entry hp)
      obtain ⟨found, hfound, -, hcss, hjsFound⟩ :=
        exists_ofLists (stylesheets code page root) hsubset
      rw [Work.bind_of_ok hjs, hfound]
      exact .inl ⟨found, s', code, rfl, hs', fun p hp => hknows p ((hjsFound p).1 hp),
        hread, fun p => (hjsFound p).trans (hmem p), hcss⟩
    · exact .inr ⟨fault, s', Work.bind_of_error hf, hc⟩

/-! ## What is remembered of a page -/

/-- The scripts of a page, as they stand in these files, are remembered with all that they reach. -/
def Remembered (root : Path) (fs : FileSystem) (page : Path) (s : Session) : Prop :=
  ∃ code js, fs.readDocument page = .ok code ∧ s.memory.Closed js ∧
    ∀ p ∈ scripts code page root, p ∈ js

theorem Remembered.later {s' : Session} (h : Remembered root fs page s) (hs : Session.Later s s') :
    Remembered root fs page s' := by
  obtain ⟨code, js, hread, hclosed, hsub⟩ := h
  exact ⟨code, js, hread, hclosed.kept hs.memory, hsub⟩

section Source

variable {source : Source} {s' : Session}

/-- **A search that comes through leaves all that it has found in the memory**,
wherever imports come from. -/
theorem closed_of_recallModules {entries js : List Path} (hs : Remembers source fs s)
    (h : source.recallModules entries s = .ok js s') :
    Remembers source fs s' ∧ s'.memory.Closed js := by
  have hends := ends_closure (answers_recall source fs entries) (source.limit fs) ⟨hs, nofun⟩
  rw [recallModules_eq, hs.files_eq] at h
  rw [h] at hends
  cases hends with
  | @found met done _ hinv hdone _ hmem _ =>
    obtain ⟨hs', hknows⟩ := hinv
    refine ⟨hs', fun path hpath => ?_⟩
    have hmet : path ∈ met := Text.mem_sort.1 hpath
    obtain ⟨targets, hfound⟩ := hknows path (hdone path hmet)
    refine ⟨targets, hfound, fun target ht => Text.mem_sort.2 ((hmem target).2 ?_)⟩
    exact .step ((hmem path).1 hmet) (hs'.known path targets hfound) ht

theorem remembered_of_scan {found : Dependencies} (hs : Remembers source fs s)
    (h : scan source.recallModules page root s = .ok found s') :
    Remembers source fs s' ∧ Remembered root fs page s' := by
  cases hread : fs.readDocument page with
  | error fault =>
    rw [scan_of_unreadable (hs.files_eq ▸ hread)] at h
    cases h
  | ok code =>
    rw [scan_of_readDocument (hs.files_eq ▸ hread)] at h
    obtain ⟨js, s'', hjs, hlists⟩ := Work.of_bind_ok h
    obtain ⟨hs'', hclosed⟩ := closed_of_recallModules hs hjs
    have hsub : ∀ p ∈ scripts code page root, p ∈ js := fun p hp => mem_of_closure hjs hp
    obtain ⟨deps, hdeps, -⟩ := exists_ofLists (stylesheets code page root) hsub
    rw [hdeps] at hlists
    cases hlists
    exact ⟨hs'', code, js, hread, hclosed, hsub⟩

theorem remembered_of_scanNoting {found : Path × Dependencies} (hs : Remembers source fs s)
    (h : scanNoting source.recallModules root page s = .ok found s') :
    Remembers source fs s' ∧ Remembered root fs page s' := by
  unfold scanNoting at h
  obtain ⟨deps, s'', hmapped, hnoted⟩ := Work.of_bind_ok h
  have hscan : scan source.recallModules page root s = .ok deps s'' := by
    unfold Work.mapFault at hmapped
    cases hscan : scan source.recallModules page root s with
    | ok deps' s' =>
      rw [hscan] at hmapped
      cases hmapped
      rfl
    | error fault s' =>
      rw [hscan] at hmapped
      cases hmapped
  obtain ⟨hs'', hpage⟩ := remembered_of_scan hs hscan
  cases hnoted
  exact ⟨hs''.congr rfl rfl, hpage⟩

end Source

/-! ## All pages -/

/-- Every page of a manifest is as it is described. -/
def Manifest.Describes (root : Path) (fs : FileSystem)
    (pages : List (Path × Dependencies)) : Prop :=
  ∀ entry ∈ pages, ∃ code, Page.Describes root fs entry.1 code entry.2

/-- The modules of every page are remembered. -/
def Manifest.Known (pages : List (Path × Dependencies)) (s : Session) : Prop :=
  ∀ entry ∈ pages, Knows entry.2.js s

theorem looksUp_scanNoting (source : Source) (root page : Path) :
    Work.LooksUp (scanNoting source.recallModules root page) := by
  have hscan : Work.LooksUp (scan source.recallModules page root) :=
    Work.looksUp_files.bind fun files => (Work.looksUp_ofExcept _).bind fun code =>
      (looksUp_recallModules source _).bind fun js => Work.looksUp_ofExcept _
  exact (hscan.mapFault _).bind fun found => (Work.looksUp_note _).bind fun _ => Work.looksUp_pure _

theorem scanNoting_ends (hs : Remembers (Source.scripts root) fs s) (page : Path) :
    (∃ found s' code, scanNoting (Source.scripts root).recallModules root page s =
      .ok (page, found) s' ∧
      Remembers (Source.scripts root) fs s' ∧ Knows found.js s' ∧
      Describes root fs page code found) ∨
    ∃ fault s', scanNoting (Source.scripts root).recallModules root page s =
      .error (.scan page fault) s' := by
  unfold scanNoting
  rcases scan_ends hs page with
    ⟨found, s', code, hscan, hs', hknows, hfound⟩ | ⟨fault, s', hscan, hconcerns⟩
  · have hmapped : ∀ f, Work.mapFault f (scan (Source.scripts root).recallModules page root) s =
        .ok found s' := by
      intro f
      rw [Work.mapFault, hscan]
    refine .inl ⟨found, _, code, Work.bind_of_ok (hmapped _), hs'.congr rfl rfl, hknows, hfound⟩
  · refine .inr ⟨fault, s', Work.bind_of_error ?_⟩
    rw [Work.mapFault, hscan]
    dsimp only
    rw [if_pos hconcerns]

theorem mapM_scanNoting_ends (hs : Remembers (Source.scripts root) fs s) (pages : List Path) :
    (∃ found s', pages.mapM (scanNoting (Source.scripts root).recallModules root) s = .ok found s' ∧
      Remembers (Source.scripts root) fs s' ∧ found.map (·.1) = pages ∧
      Manifest.Describes root fs found ∧
      Manifest.Known found s') ∨
    ∃ page fault s', pages.mapM (scanNoting (Source.scripts root).recallModules root) s =
      .error (.scan page fault) s' := by
  induction pages generalizing s with
  | nil => exact .inl ⟨[], s, rfl, hs, rfl, nofun, nofun⟩
  | cons page pages ih =>
    rw [List.mapM_cons]
    rcases scanNoting_ends hs page with
      ⟨found, s', code, hscan, hs', hknows, hfound⟩ | ⟨fault, s', hscan⟩
    · rw [Work.bind_of_ok hscan]
      rcases ih hs' with
        ⟨rest, s'', hrest, hs'', hpages, hdescribes, hknown⟩ | ⟨page', fault, s'', hrest⟩
      · have hlater := (Work.LooksUp.mapM (looksUp_scanNoting (Source.scripts root) root)
          pages).ok hrest
        refine .inl ⟨(page, found) :: rest, s'', Work.bind_of_ok hrest,
          hs'', by rw [List.map_cons, hpages], fun entry he => ?_, fun entry he => ?_⟩
        · rcases List.mem_cons.1 he with rfl | he
          · exact ⟨code, hfound⟩
          · exact hdescribes entry he
        · rcases List.mem_cons.1 he with rfl | he
          · exact hknows.later hlater
          · exact hknown entry he
      · exact .inr ⟨page', fault, s'', Work.bind_of_error hrest⟩
    · exact .inr ⟨page, fault, s', Work.bind_of_error hscan⟩

/-- The pages of a scan that comes through are remembered, the earlier ones also when the
later ones have been scanned. -/
theorem remembered_of_mapM {source : Source} {pages : List Path}
    {found : List (Path × Dependencies)} {s' : Session} (hs : Remembers source fs s)
    (h : pages.mapM (scanNoting source.recallModules root) s = .ok found s') :
    Remembers source fs s' ∧ ∀ page ∈ pages, Remembered root fs page s' := by
  induction pages generalizing s found with
  | nil =>
    cases h
    exact ⟨hs, nofun⟩
  | cons page pages ih =>
    rw [List.mapM_cons] at h
    obtain ⟨first, s'', hfirst, h⟩ := Work.of_bind_ok h
    obtain ⟨rest, last, hrest, h⟩ := Work.of_bind_ok h
    cases h
    obtain ⟨hs'', hpage⟩ := remembered_of_scanNoting hs hfirst
    obtain ⟨hs', hpages⟩ := ih hs'' hrest
    refine ⟨hs', fun p hp => ?_⟩
    rcases List.mem_cons.1 hp with rfl | hp
    · exact hpage.later ((Work.LooksUp.mapM (looksUp_scanNoting source root) pages).ok hrest)
    · exact hpages p hp

theorem mem_insert {manifest : Manifest} {page : Path} {found : Dependencies}
    {entry : Path × Dependencies} (h : entry ∈ manifest.insert page found) :
    entry = (page, found) ∨ entry ∈ manifest := by
  induction manifest with
  | nil => exact .inl (List.mem_singleton.1 h)
  | cons other rest ih =>
    unfold Manifest.insert at h
    split at h
    · exact (List.mem_cons.1 h).imp_right (List.mem_cons_of_mem _)
    · rcases List.mem_cons.1 h with rfl | h
      · exact .inr List.mem_cons_self
      · exact (ih h).imp_right (List.mem_cons_of_mem _)

theorem mem_ofPages {pages : List (Path × Dependencies)} {entry : Path × Dependencies}
    (h : entry ∈ Manifest.ofPages pages) : entry ∈ pages := by
  have hfold : ∀ (pages : List (Path × Dependencies)) (manifest : Manifest),
      entry ∈ pages.foldl (fun manifest page => manifest.insert page.1 page.2) manifest →
        entry ∈ pages ∨ entry ∈ manifest := by
    intro pages
    induction pages with
    | nil => exact fun manifest h => .inr h
    | cons page pages ih =>
      intro manifest h
      rcases ih _ h with h | h
      · exact .inl (List.mem_cons_of_mem _ h)
      · rcases mem_insert h with rfl | h
        · exact .inl List.mem_cons_self
        · exact .inr h
  exact (hfold pages [] h).resolve_right nofun

/-- **A scan ends with a manifest of all pages, or with a fault that names a page.** -/
theorem scanAll_ends (hs : Remembers (Source.scripts root) fs s) (pages : List Path) :
    (∃ manifest s', scanAll (Source.scripts root).recallModules pages root s = .ok manifest s' ∧
      Remembers (Source.scripts root) fs s' ∧ (∀ entry ∈ manifest, entry.1 ∈ pages) ∧
      Manifest.Describes root fs manifest ∧ Manifest.Known manifest s') ∨
    ∃ page fault s', scanAll (Source.scripts root).recallModules pages root s =
      .error (.scan page fault) s' := by
  unfold scanAll
  rcases mapM_scanNoting_ends hs (Text.sort pages) with
    ⟨found, s', hscan, hs', hpages, hfound, hknown⟩ | ⟨page, fault, s', hscan⟩
  · refine .inl ⟨Manifest.ofPages found, s', Work.bind_of_ok hscan, hs', fun entry he => ?_,
      fun entry he => hfound entry (mem_ofPages he), fun entry he => hknown entry (mem_ofPages he)⟩
    have hmem : entry.1 ∈ Text.sort pages := hpages ▸ List.mem_map_of_mem (mem_ofPages he)
    exact Text.mem_sort.1 hmem
  · exact .inr ⟨page, fault, s', Work.bind_of_error hscan⟩

/-- The scan of a single page. -/
theorem scanAll_singleton {modules : List Path → Work (List Path)} {found : Dependencies}
    {s' : Session} (h : scan modules page root s = .ok found s') :
    scanAll modules [page] root s = .ok [(page, found)]
      { s' with
        notes := s'.notes ++ [.pageScanned page found.css.length found.js.length
          found.entry.length] } := by
  have hsort : Text.sort [page] = [page] := List.mergeSort_singleton page
  have hmapped : Work.mapFault (fun fault => if fault.concernsPage then .scan page fault else fault)
      (scan modules page root) s = .ok found s' := by
    rw [Work.mapFault, h]
  have hscan : scanNoting modules root page s = .ok (page, found)
      { s' with
        notes := s'.notes ++ [.pageScanned page found.css.length found.js.length
          found.entry.length] } :=
    (Work.bind_of_ok hmapped).trans rfl
  have hpages : [page].mapM (scanNoting modules root) s = .ok [(page, found)]
      { s' with
        notes := s'.notes ++ [.pageScanned page found.css.length found.js.length
          found.entry.length] } := by
    rw [List.mapM_cons]
    exact (Work.bind_of_ok hscan).trans rfl
  unfold scanAll
  rw [hsort]
  exact (Work.bind_of_ok hpages).trans rfl

/-- **A scan that comes through leaves the modules of all pages in the memory**,
wherever imports come from. -/
theorem remembered_of_scanAll {source : Source} {pages : List Path} {manifest : Manifest}
    {s' : Session} (hs : Remembers source fs s)
    (h : scanAll source.recallModules pages root s = .ok manifest s') :
    Remembers source fs s' ∧ ∀ page ∈ pages, Remembered root fs page s' := by
  unfold scanAll at h
  obtain ⟨found, s'', hfound, h⟩ := Work.of_bind_ok h
  cases h
  obtain ⟨hs', hpages⟩ := remembered_of_mapM hs hfound
  exact ⟨hs', fun page hpage => hpages page (Text.mem_sort.2 hpage)⟩

end Page
end SiteOptimizer
