import SiteOptimizer.Proofs.Module.Closure
import SiteOptimizer.Proofs.Page.Hints
import SiteOptimizer.Proofs.Reference

/-!
# When preloading again changes nothing

A preloaded page names its modules only in the script tags at the end of its body, and it names them
by URLs. So a second run finds nothing to add just if the body is closed wherever the head is, and
the URLs of the modules are read as the modules themselves.
-/

namespace SiteOptimizer
namespace Page

open Markup SiteOptimizer.Module

/-- Paths whose characters need no quoting in a URL on a line of markup. -/
def IsPlain (path : Path) : Prop :=
  ∀ c ∈ path, Text.isBlank c = false ∧ c ≠ '?' ∧ c ≠ '#' ∧ c ≠ '"' ∧ c ≠ '\''

/-- The modules that a page reaches but does not name; with linked stylesheets
their proxies do not count. -/
def Unnamed (imports : Imports) (entries : List Path) (linkStyles : Bool) (path : Path) : Prop :=
  Reachable imports entries path ∧ path ∉ entries ∧ (linkStyles && Script.isStyleProxy path) = false

/-- Whether a page reads the URL of a file as the file. -/
def ReadsBack (root page path : Path) : Prop :=
  (Reference.projectUrl? path root).bind (Reference.resolve? · page root) = some path

instance (root page path : Path) : Decidable (ReadsBack root page path) :=
  inferInstanceAs (Decidable (_ = _))

/-- Preloads a page whose modules import what `imports` says. -/
def preloadWith {σ : Type} (imports : Imports) (limit : Nat) (root page : Path) (linkStyles : Bool)
    (code : Text) : EStateM Fault σ Text :=
  preload (closure (Lookup.fixed imports) limit) code root page linkStyles

/-! ## The URLs of the modules -/

/-- The URLs of some files, in ascending order. -/
def urlsOf (root : Path) (paths : List Path) : List Text :=
  Text.sort (paths.map fun path => '/' :: Path.relativeTo root path)

theorem mem_urlsOf {root : Path} {paths : List Path} {url : Text} :
    url ∈ urlsOf root paths ↔ ∃ path ∈ paths, url = '/' :: Path.relativeTo root path := by
  rw [urlsOf, Text.mem_sort, List.mem_map]
  refine exists_congr fun path => and_congr_right fun _ => ?_
  exact eq_comm

theorem mapM_urlOf (root : Path) {paths : List Path} (h : [] ∉ paths) :
    paths.mapM (urlOf root) = .ok (paths.map fun path => '/' :: Path.relativeTo root path) := by
  induction paths with
  | nil => rfl
  | cons path paths ih =>
    obtain ⟨hpath, hpaths⟩ := not_or.1 (mt List.mem_cons.2 h)
    rw [List.mapM_cons, urlOf, Reference.projectUrl?_eq (Ne.symm hpath), ih hpaths]
    rfl

theorem mapM_urlOf_of_nil_mem (root : Path) {paths : List Path} (h : [] ∈ paths) :
    paths.mapM (urlOf root) = .error .emptyPath := by
  induction paths with
  | nil => cases h
  | cons path paths ih =>
    rw [List.mapM_cons]
    by_cases hpath : path = []
    · rw [hpath]
      rfl
    · rw [ih ((List.mem_cons.1 h).resolve_left (Ne.symm hpath)), urlOf,
        Reference.projectUrl?_eq hpath]
      rfl

/-- The URL of a plain path can stand between double quotes on a line. -/
theorem IsPlain.writableUrl {path : Path} (h : IsPlain path) (root : Path) :
    WritableUrl ('/' :: Path.relativeTo root path) := by
  have hurl : ∀ c ∈ '/' :: Path.relativeTo root path, c ≠ '"' ∧ c ≠ '\'' ∧
      Text.isLineBreak c = false := by
    intro c hc
    have hc : c = '.' ∨ c = '/' ∨ c ∈ path := by
      rcases List.mem_cons.1 hc with rfl | hc
      · exact .inr (.inl rfl)
      · exact Path.mem_relativeTo hc
    rcases hc with rfl | rfl | hc
    · decide
    · decide
    · obtain ⟨hblank, -, -, hdouble, hsingle⟩ := h c hc
      refine ⟨hdouble, hsingle, ?_⟩
      cases hbreak : Text.isLineBreak c with
      | false => rfl
      | true => rw [Text.isBlank_of_isLineBreak hbreak] at hblank; cases hblank
  exact ⟨fun hc => (hurl _ hc).1 rfl, fun c hc => (hurl c hc).2⟩

/-- A page reads the URL of a plain path as the path, relinked. -/
theorem IsPlain.resolve {path : Path} (h : IsPlain path) (root page : Path) :
    Reference.resolve? ('/' :: Path.relativeTo root path) page root =
      some (Path.relink root path) :=
  Reference.resolve?_projectUrl page root fun c hc => ⟨(h c hc).1, (h c hc).2.1, (h c hc).2.2.1⟩

theorem readsBack_iff {root page path : Path} (hne : path ≠ []) (h : IsPlain path) :
    ReadsBack root page path ↔ Path.relink root path = path := by
  rw [ReadsBack, Reference.projectUrl?_eq hne, Option.bind_some,
    h.resolve root page, Option.some_inj]

/-! ## What a preloaded page loads -/

/-- The page with what preloads these modules. -/
def preloaded (root : Path) (missing : List Path) (code : Text) : Text :=
  if missing = [] then code
  else inject code (renderHints (urlsOf root missing)) (renderFallbacks (urlsOf root missing))

theorem forall_urlsOf {P : Text → Prop} {root : Path} {missing : List Path}
    (h : ∀ path ∈ missing, P ('/' :: Path.relativeTo root path)) :
    ∀ url ∈ urlsOf root missing, P url := by
  intro url hurl
  obtain ⟨path, hpath, rfl⟩ := mem_urlsOf.1 hurl
  exact h path hpath

/-- Plain paths have URLs that disturb a page only if it leaves a double quote open. -/
theorem undisturbed_of_isPlain {root : Path} {missing : List Path}
    (h : ∀ path ∈ missing, IsPlain path) {code : Text} (hq : QuoteClosed '"' .text code) :
    Undisturbed (preloadFragment (urlsOf root missing)) .text code :=
  undisturbed_preload (forall_urlsOf fun path hpath => (h path hpath).writableUrl root) hq

theorem lineUrl_of_isPlain {root : Path} {missing : List Path}
    (h : ∀ path ∈ missing, IsPlain path) :
    ∀ path ∈ missing, LineUrl ('/' :: Path.relativeTo root path) :=
  fun path hpath => ((h path hpath).writableUrl root).lineUrl

theorem closes_preloaded_iff {root : Path} {missing : List Path}
    (h : ∀ path ∈ missing, IsPlain path) {code : Text} (hq : QuoteClosed '"' .text code)
    {tag : Text} (htag : tag ≠ scriptClose) :
    Closes tag (preloaded root missing code) ↔ Closes tag code := by
  unfold preloaded
  split
  · exact Iff.rfl
  · exact closes_preloaded (forall_urlsOf (lineUrl_of_isPlain h)) (undisturbed_of_isPlain h hq) htag

/-- A script tag for a module is a module script, and it names what its URL names. -/
theorem fallbackRead_names (url : Text) (hurl : url ≠ []) (page root : Path) :
    isModule (fallbackRead url).2 = true ∧
      reference? (fallbackRead url).2 srcAttribute page root =
        Reference.resolve? url page root := by
  have hmodule : Text.lower moduleType = moduleType := by decide +kernel
  constructor
  · rw [isModule, value_type_fallbackRead, Option.map_some, hmodule]
    exact decide_eq_true rfl
  · rw [reference?, value_src_fallbackRead, Option.bind_some, if_neg hurl]

/-- **A preloaded page loads the modules that it loaded before, and if its body is closed those that
the URLs of the preloaded ones are read as.** -/
theorem mem_moduleEntries_preloaded {root page : Path} {missing : List Path}
    (h : ∀ path ∈ missing, LineUrl ('/' :: Path.relativeTo root path)) {code : Text}
    (hu : Undisturbed (preloadFragment (urlsOf root missing)) .text code) {path : Path} :
    path ∈ moduleEntries (preloaded root missing code) page root ↔
      path ∈ moduleEntries code page root ∨ (Closes bodyClose code ∧
        ∃ p ∈ missing,
          Reference.resolve? ('/' :: Path.relativeTo root p) page root = some path) := by
  unfold preloaded
  split
  · next hnil =>
    rw [hnil]
    simp
  · rw [mem_moduleEntries, mem_moduleEntries]
    constructor
    -- of the tags that were added only the fallbacks are scripts
    · rintro ⟨tag, htag, hmodule, hpath⟩
      rcases (mem_tags_preloaded isScript (forall_urlsOf h) hu tag).1 htag with
        htag | ⟨-, hlink, -⟩ | ⟨hbody, -, url, hurl, rfl⟩
      · exact .inl ⟨tag, htag, hmodule, hpath⟩
      · exact absurd hlink (by decide)
      · obtain ⟨p, hp, rfl⟩ := mem_urlsOf.1 hurl
        rw [(fallbackRead_names _ (List.cons_ne_nil _ _) page root).2] at hpath
        exact .inr ⟨hbody, p, hp, hpath⟩
    · rintro (⟨tag, htag, hmodule, hpath⟩ | ⟨hbody, p, hp, hread⟩)
      · exact ⟨tag, (mem_tags_preloaded isScript (forall_urlsOf h) hu tag).2 (.inl htag),
          hmodule, hpath⟩
      · have hurl : '/' :: Path.relativeTo root p ∈ urlsOf root missing := mem_urlsOf.2 ⟨p, hp, rfl⟩
        obtain ⟨hmodule, hnames⟩ :=
          fallbackRead_names _ (List.cons_ne_nil '/' (Path.relativeTo root p)) page root
        refine ⟨_, (mem_tags_preloaded isScript (forall_urlsOf h) hu _).2
          (.inr (.inr ⟨hbody, by decide, _, hurl, rfl⟩)), hmodule, ?_⟩
        rw [hnames, hread]

theorem mem_moduleEntries_preloaded_of_isPlain {root page : Path} {missing : List Path}
    (h : ∀ path ∈ missing, IsPlain path) {code : Text}
    (hq : QuoteClosed '"' .text code) {path : Path} :
    path ∈ moduleEntries (preloaded root missing code) page root ↔
      path ∈ moduleEntries code page root ∨
        (Closes bodyClose code ∧ ∃ p ∈ missing, path = Path.relink root p) := by
  rw [mem_moduleEntries_preloaded (lineUrl_of_isPlain h) (undisturbed_of_isPlain h hq)]
  refine or_congr_right (and_congr_right fun _ => exists_congr fun p =>
    and_congr_right fun hp => ?_)
  rw [(h p hp).resolve root page, Option.some_inj]
  exact eq_comm

/-- **A preloaded page has the links that it had, and the hints if its head is closed.** -/
theorem links_preloaded_iff {root : Path} {missing : List Path} {url code : Text}
    (h : ∀ path ∈ missing, WritableUrl ('/' :: Path.relativeTo root path))
    (hq : QuoteClosed '"' .text code) :
    Links url (preloaded root missing code) ↔ Links url code ∨
      (Closes headClose code ∧ ∃ path ∈ missing, url = '/' :: Path.relativeTo root path) := by
  have hurls : ∀ url ∈ urlsOf root missing, LineUrl url :=
    forall_urlsOf fun path hpath => (h path hpath).lineUrl
  have hu : Undisturbed (preloadFragment (urlsOf root missing)) .text code :=
    undisturbed_preload (forall_urlsOf h) hq
  unfold preloaded
  split
  · next hnil =>
    rw [hnil]
    simp
  · rw [links_iff, links_iff]
    constructor
    -- of the tags that were added only the hints are links
    · rintro ⟨tag, htag, hvalue⟩
      rcases (mem_tags_preloaded isLink hurls hu tag).1 htag with
        htag | ⟨hhead, -, hint, hurl, rfl⟩ | ⟨-, hscript, -⟩
      · exact .inl ⟨tag, htag, hvalue⟩
      · rw [value_linkRead, Option.some_inj] at hvalue
        rw [hvalue] at hurl
        exact .inr ⟨hhead, mem_urlsOf.1 hurl⟩
      · exact absurd hscript (by decide)
    · rintro (⟨tag, htag, hvalue⟩ | ⟨hhead, hurl⟩)
      · exact ⟨tag, (mem_tags_preloaded isLink hurls hu tag).2 (.inl htag), hvalue⟩
      · exact ⟨_, (mem_tags_preloaded isLink hurls hu _).2
          (.inr (.inl ⟨hhead, by decide, url, mem_urlsOf.2 hurl, rfl⟩)), value_linkRead _ _⟩

/-- A link to a stylesheet names no module. -/
theorem mem_moduleEntries_inject_link {root page path : Path} {url code : Text}
    (h : WritableUrl url) (hq : QuoteClosed '"' .text code) :
    path ∈ moduleEntries (inject code (link styleRel url) []) page root ↔
      path ∈ moduleEntries code page root := by
  rw [mem_moduleEntries, mem_moduleEntries]
  refine exists_congr fun tag => and_congr_left fun _ => ?_
  rw [mem_tags_inject_link isScript h hq]
  exact ⟨fun htag => htag.resolve_right fun ⟨_, hlink, _⟩ => absurd hlink (by decide), .inl⟩

/-! ## How preloading ends -/

section Run

variable {σ : Type} {imports : Imports} {limit : Nat} {root page : Path}
    {linkStyles : Bool} {code : Text}

theorem mem_preloadModules {entries modules : List Path} {path : Path} :
    path ∈ preloadModules entries modules linkStyles ↔
      path ∈ modules ∧ path ∉ entries ∧ (linkStyles && Script.isStyleProxy path) = false := by
  rw [preloadModules, List.mem_filter, Bool.and_eq_true, Bool.not_eq_true', Bool.not_eq_true',
    List.contains_eq_mem, decide_eq_false_iff_not]

theorem preload_of_ok {modules : List Path → EStateM Fault σ (List Path)} {found : List Path}
    {s s' : σ} (h : modules (moduleEntries code page root) s = .ok found s')
    (hne : [] ∉ preloadModules (moduleEntries code page root) found linkStyles) :
    preload modules code root page linkStyles s = .ok (preloaded root
      (preloadModules (moduleEntries code page root) found linkStyles) code) s' := by
  show EStateM.bind _ _ s = _
  unfold EStateM.bind preloaded
  rw [h]
  dsimp only
  by_cases hnil : preloadModules (moduleEntries code page root) found linkStyles = []
  · rw [if_pos hnil, if_pos hnil]
    rfl
  · rw [if_neg hnil, if_neg hnil, mapM_urlOf root hne]
    rfl

theorem preload_of_nil_mem {modules : List Path → EStateM Fault σ (List Path)} {found : List Path}
    {s s' : σ} (h : modules (moduleEntries code page root) s = .ok found s')
    (hmem : [] ∈ preloadModules (moduleEntries code page root) found linkStyles) :
    preload modules code root page linkStyles s = .error .emptyPath s' := by
  show EStateM.bind _ _ s = _
  unfold EStateM.bind
  rw [h]
  dsimp only
  rw [if_neg (List.ne_nil_of_mem hmem), mapM_urlOf_of_nil_mem root hmem]
  rfl

theorem preload_of_error {modules : List Path → EStateM Fault σ (List Path)} {fault : Fault}
    {s s' : σ} (h : modules (moduleEntries code page root) s = .error fault s') :
    preload modules code root page linkStyles s = .error fault s' := by
  show EStateM.bind _ _ s = _
  unfold EStateM.bind
  rw [h]

/-- A run that ends well has found the unnamed modules, and all that is
reachable could be looked up. -/
theorem preloadWith_ok {s s' : σ} {code' : Text}
    (h : preloadWith imports limit root page linkStyles code s = .ok code' s') :
    s' = s ∧ (∀ path, Reachable imports (moduleEntries code page root) path →
      ∃ targets, imports path = .ok targets) ∧
      ∃ missing, [] ∉ missing ∧ code' = preloaded root missing code ∧
        ∀ path, path ∈ missing ↔ Unnamed imports (moduleEntries code page root)
          linkStyles path := by
  unfold preloadWith at h
  have hends := ends_closure (Answers.fixed imports (moduleEntries code page root) s) limit rfl
  generalize hrun : closure (Lookup.fixed imports) limit (moduleEntries code page root) s =
    result at hends
  cases hends with
  | failed _ _ _ => rw [preload_of_error hrun] at h; cases h
  | exhausted _ _ _ _ => rw [preload_of_error hrun] at h; cases h
  | @found met _ s'' hs _ hnodup hmem hall =>
    by_cases hnil : [] ∈ preloadModules (moduleEntries code page root) (Text.sort met) linkStyles
    · rw [preload_of_nil_mem hrun hnil] at h
      cases h
    · rw [preload_of_ok hrun hnil] at h
      cases h
      refine ⟨hs, hall, _, hnil, rfl, fun path => ?_⟩
      rw [mem_preloadModules, Text.mem_sort, hmem]
      exact Iff.rfl

/-- A run over modules that can all be looked up ends well. -/
theorem preloadWith_found (s : σ) (hwithin : Within imports (moduleEntries code page root) limit)
    (hall : ∀ path, Reachable imports (moduleEntries code page root) path →
      ∃ targets, imports path = .ok targets)
    (hne : ¬ Unnamed imports (moduleEntries code page root) linkStyles []) :
    ∃ missing, preloadWith imports limit root page linkStyles code s =
      .ok (preloaded root missing code) s ∧
      ∀ path, path ∈ missing ↔ Unnamed imports (moduleEntries code page root) linkStyles path := by
  unfold preloadWith
  have hends := ends_closure (Answers.fixed imports (moduleEntries code page root) s) limit rfl
  generalize hrun : closure (Lookup.fixed imports) limit (moduleEntries code page root) s =
    result at hends
  -- no look-up fails and the limit is wide enough, so the search comes to its end
  cases hends with
  | failed _ hr hi =>
    obtain ⟨targets, hi'⟩ := hall _ hr
    rw [hi] at hi'
    cases hi'
  | exhausted _ hnodup hlen hmany =>
    have hle := hwithin.not_exhausted hnodup hmany
    omega
  | @found met _ s' hs _ hnodup hmem _ =>
    cases hs
    have hmissing : ∀ path,
        path ∈ preloadModules (moduleEntries code page root) (Text.sort met) linkStyles ↔
        Unnamed imports (moduleEntries code page root) linkStyles path := by
      intro path
      rw [mem_preloadModules, Text.mem_sort, hmem]
      exact Iff.rfl
    exact ⟨_, preload_of_ok hrun fun hnil => hne ((hmissing []).1 hnil), hmissing⟩

end Run

/-! ## Looking at a preloaded page again -/

section Again

variable {σ : Type} {imports : Imports} {limit : Nat} {root page : Path}
    {linkStyles : Bool} {code : Text}

/-- Files with URLs that can be written on a line and are read as the files are named once they are
preloaded, if the body of the page is closed. -/
theorem mem_moduleEntries_of_readsBack {missing : List Path}
    (hurls : ∀ path ∈ missing, ∃ url, Reference.projectUrl? path root = some url ∧ LineUrl url ∧
      Reference.resolve? url page root = some path)
    (hquotes : ∀ q, IsQuote q → QuoteClosed q .text code) (path : Path) :
    path ∈ moduleEntries (preloaded root missing code) page root ↔
      path ∈ moduleEntries code page root ∨ (Closes bodyClose code ∧ path ∈ missing) := by
  -- the URL that is written is the one that is read back
  have hurl : ∀ p ∈ missing, LineUrl ('/' :: Path.relativeTo root p) ∧
      Reference.resolve? ('/' :: Path.relativeTo root p) page root = some p := by
    intro p hp
    obtain ⟨url, hproject, hline, hback⟩ := hurls p hp
    have hne : p ≠ [] := by
      rintro rfl
      cases hproject
    rw [Reference.projectUrl?_eq hne, Option.some_inj] at hproject
    rw [hproject]
    exact ⟨hline, hback⟩
  rw [mem_moduleEntries_preloaded (fun p hp => (hurl p hp).1) fun q hq => .inl (hquotes q hq)]
  refine or_congr_right (and_congr_right fun _ => ?_)
  constructor
  · rintro ⟨p, hp, hback⟩
    rw [(hurl p hp).2, Option.some_inj] at hback
    rwa [← hback]
  · intro hp
    exact ⟨path, hp, (hurl path hp).2⟩

/-- **A preloaded page names what it named before, and the modules that it did not name just if its
body is closed.** The run ends well if all that the page reaches can be looked up. -/
theorem mem_moduleEntries_preloadWith (imports : Imports) (limit : Nat) (root page : Path)
    (linkStyles : Bool) (code : Text) (s : σ)
    (hwithin : Within imports (moduleEntries code page root) limit)
    (hquotes : ∀ q, IsQuote q → QuoteClosed q .text code)
    (hurls : ∀ path, Unnamed imports (moduleEntries code page root) linkStyles path →
      ∃ url, Reference.projectUrl? path root = some url ∧ LineUrl url ∧
        Reference.resolve? url page root = some path) :
    ((∀ path, Reachable imports (moduleEntries code page root) path →
        ∃ targets, imports path = .ok targets) →
      ∃ code', preloadWith imports limit root page linkStyles code s = .ok code' s) ∧
    ∀ code' s', preloadWith imports limit root page linkStyles code s = .ok code' s' →
      ∀ path, path ∈ moduleEntries code' page root ↔ path ∈ moduleEntries code page root ∨
        (Closes bodyClose code ∧
          Unnamed imports (moduleEntries code page root) linkStyles path) := by
  constructor
  · intro hall
    have hnil : ¬ Unnamed imports (moduleEntries code page root) linkStyles [] := by
      intro hun
      obtain ⟨url, hproject, -⟩ := hurls [] hun
      cases hproject
    obtain ⟨missing, hrun, -⟩ := preloadWith_found s hwithin hall hnil
    exact ⟨_, hrun⟩
  · intro code' s' hrun path
    obtain ⟨-, -, missing, -, rfl, hmissing⟩ := preloadWith_ok hrun
    rw [mem_moduleEntries_of_readsBack (fun p hp => hurls p ((hmissing p).1 hp)) hquotes, hmissing]

end Again

/-! ## Preloading twice -/

section Twice

variable {σ : Type} {imports : Imports} {limit : Nat} {root page : Path}
    {linkStyles : Bool} {code : Text}

/-- Preloading leaves nothing to add: if it adds anything for the head it names the modules in the
body, and it names them by URLs that are read as the modules. -/
def Settled (imports : Imports) (root page : Path) (linkStyles : Bool) (code : Text) : Prop :=
  ∀ path, Unnamed imports (moduleEntries code page root) linkStyles path →
    (Closes headClose code → Closes bodyClose code) ∧
      (Closes bodyClose code → ReadsBack root page path)

theorem settled_iff {missing : List Path} (hplain : ∀ path ∈ missing, IsPlain path)
    (hne : [] ∉ missing)
    (hmissing : ∀ path, path ∈ missing ↔
      Unnamed imports (moduleEntries code page root) linkStyles path) :
    Settled imports root page linkStyles code ↔ ∀ path ∈ missing,
      (Closes headClose code → Closes bodyClose code) ∧
        (Closes bodyClose code → Path.relink root path = path) := by
  refine forall_congr' fun path => ?_
  rw [← hmissing path]
  refine forall_congr' fun hp => ?_
  rw [readsBack_iff (fun heq => hne (heq ▸ hp)) (hplain path hp)]

theorem preloaded_eq_self_iff {missing : List Path} :
    preloaded root missing code = code ↔
      (missing ≠ [] → ¬ Closes headClose code ∧ ¬ Closes bodyClose code) := by
  unfold preloaded
  by_cases hnil : missing = []
  · rw [if_pos hnil]
    exact iff_of_true rfl fun hne => absurd hnil hne
  · rw [if_neg hnil, inject_preload_eq_self_iff]
    exact ⟨fun h _ => h, fun h => h hnil⟩

/-- The page of a first run leaves a second one nothing to do just if the first one was settled. -/
theorem settled_of_preloaded {missing : List Path} (hplain : ∀ path ∈ missing, IsPlain path)
    (hq : QuoteClosed '"' .text code)
    (hmissing : ∀ path, path ∈ missing ↔
      Unnamed imports (moduleEntries code page root) linkStyles path)
    {again : List Path}
    (hagain : ∀ path, path ∈ again ↔ Unnamed imports
      (moduleEntries (preloaded root missing code) page root) linkStyles path)
    (h : preloaded root again (preloaded root missing code) = preloaded root missing code) :
    ∀ path ∈ missing, (Closes headClose code → Closes bodyClose code) ∧
      (Closes bodyClose code → Path.relink root path = path) := by
  intro path hpath
  obtain ⟨hreach, hnot, hstyle⟩ := (hmissing path).1 hpath
  have hreach' : Reachable imports (moduleEntries (preloaded root missing code) page root) path :=
    hreach.mono fun p hp => .entry ((mem_moduleEntries_preloaded_of_isPlain hplain hq).2 (.inl hp))
  -- what the second run leaves as it is names all modules, and only the fallbacks name new ones
  have hnamed : Closes headClose code ∨ Closes bodyClose code →
      Closes bodyClose code ∧ ∃ p ∈ missing, path = Path.relink root p := by
    intro hcloses
    have hnil : again = [] := by
      by_contra hne
      obtain ⟨hhead, hbody⟩ := preloaded_eq_self_iff.1 h hne
      rw [closes_preloaded_iff hplain hq (by decide)] at hhead hbody
      exact hcloses.elim hhead hbody
    have hin : path ∈ moduleEntries (preloaded root missing code) page root := by
      by_contra hout
      have hmem := (hagain path).2 ⟨hreach', hout, hstyle⟩
      rw [hnil] at hmem
      cases hmem
    exact ((mem_moduleEntries_preloaded_of_isPlain hplain hq).1 hin).resolve_left hnot
  refine ⟨fun hhead => (hnamed (.inl hhead)).1, fun hbody => ?_⟩
  obtain ⟨-, p, -, rfl⟩ := hnamed (.inr hbody)
  exact Path.relink_relink root p

/-- The page of a first run that names its modules reaches what it reached before and leaves nothing
unnamed. -/
theorem not_unnamed_preloaded {missing : List Path} (hplain : ∀ path ∈ missing, IsPlain path)
    (hq : QuoteClosed '"' .text code)
    (hmissing : ∀ path, path ∈ missing ↔
      Unnamed imports (moduleEntries code page root) linkStyles path)
    (hbody : Closes bodyClose code) (hlinks : ∀ path ∈ missing, Path.relink root path = path) :
    (∀ path, Reachable imports (moduleEntries (preloaded root missing code) page root) path →
        Reachable imports (moduleEntries code page root) path) ∧
      ∀ path, ¬ Unnamed imports (moduleEntries (preloaded root missing code) page root)
        linkStyles path := by
  have hreach : ∀ path,
      Reachable imports (moduleEntries (preloaded root missing code) page root) path →
      Reachable imports (moduleEntries code page root) path := by
    intro path hr
    refine hr.mono fun p hp => ?_
    rcases (mem_moduleEntries_preloaded_of_isPlain hplain hq).1 hp with hp | ⟨-, q, hmem, rfl⟩
    · exact .entry hp
    · rw [hlinks q hmem]
      exact ((hmissing q).1 hmem).1
  refine ⟨hreach, fun path hun => ?_⟩
  obtain ⟨hr, hnot, hstyle⟩ := hun
  have hold : path ∉ moduleEntries code page root := fun hp =>
    hnot ((mem_moduleEntries_preloaded_of_isPlain hplain hq).2 (.inl hp))
  have hmem : path ∈ missing := (hmissing path).2 ⟨hreach path hr, hold, hstyle⟩
  exact hnot ((mem_moduleEntries_preloaded_of_isPlain hplain hq).2
    (.inr ⟨hbody, path, hmem, (hlinks path hmem).symm⟩))

/-- **Preloading twice is preloading once just if the first run leaves nothing to add**: a page
whose head is closed has its body closed too, and the URLs of the modules are read as the modules. A
page that only closes its head gets the hints again with every run. -/
theorem preload_idempotent_iff (imports : Imports) (limit : Nat) (root page : Path)
    (linkStyles : Bool) (code : Text) (s : σ)
    (hwithin : Within imports (moduleEntries code page root) limit)
    (hquotes : QuoteClosed '"' .text code)
    (hplain : ∀ path, Unnamed imports (moduleEntries code page root) linkStyles path →
      IsPlain path) :
    (preloadWith imports limit root page linkStyles code >>=
        preloadWith imports limit root page linkStyles) s =
      preloadWith imports limit root page linkStyles code s ↔
    ∀ code' s', preloadWith imports limit root page linkStyles code s = .ok code' s' →
      Settled imports root page linkStyles code := by
  show EStateM.bind _ _ s = _ ↔ _
  unfold EStateM.bind
  cases hrun : preloadWith imports limit root page linkStyles code s with
  | error fault s' => exact iff_of_true rfl fun code' s'' h => nomatch h
  | ok code' s' =>
    obtain ⟨hs, hall, missing, hne, rfl, hmissing⟩ := preloadWith_ok hrun
    subst hs
    have hplain : ∀ path ∈ missing, IsPlain path :=
      fun path hp => hplain path ((hmissing path).1 hp)
    dsimp only
    constructor
    · intro h _ _ _
      obtain ⟨-, -, again, -, hsame, hagain⟩ := preloadWith_ok h
      rw [settled_iff hplain hne hmissing]
      exact settled_of_preloaded hplain hquotes hmissing hagain hsame.symm
    · intro h
      have hsettled := (settled_iff hplain hne hmissing).1 (h _ _ rfl)
      -- where nothing is added the page is the same; else the body is closed and the second run
      -- finds nothing
      by_cases hself : preloaded root missing code = code
      · rw [hself] at hrun ⊢
        exact hrun
      · have hbody : Closes bodyClose code := by
          rw [preloaded_eq_self_iff, Classical.not_imp, not_and_or, not_not, not_not] at hself
          obtain ⟨hsome, hhead | hbody⟩ := hself
          · obtain ⟨path, hpath⟩ := List.exists_mem_of_ne_nil missing hsome
            exact (hsettled path hpath).1 hhead
          · exact hbody
        obtain ⟨hreach, hnone⟩ := not_unnamed_preloaded hplain hquotes hmissing hbody
          fun path hp => (hsettled path hp).2 hbody
        have hwithin' : Within imports (moduleEntries (preloaded root missing code)
            page root) limit := by
          obtain ⟨all, hlen, hin⟩ := hwithin
          refine ⟨all, hlen, fun p hp => (hin p (hreach p hp)).imp_left fun hold => ?_⟩
          exact (mem_moduleEntries_preloaded_of_isPlain hplain hquotes).2 (.inl hold)
        obtain ⟨again, hrun', hagain⟩ := preloadWith_found s' hwithin'
          (fun path hr => hall path (hreach path hr)) (hnone [])
        have hnil : again = [] := List.eq_nil_iff_forall_not_mem.2 fun path hp =>
          hnone path ((hagain path).1 hp)
        rw [hrun', hnil]
        rfl

end Twice

/-! ### A page that only closes its head -/

/-- The directory of a project. -/
def siteRoot : Path := "/site".toList

/-- A page of the project. -/
def indexPage : Path := "/site/index.html".toList

/-- The script that the page names. -/
def appScript : Path := "/site/a.js".toList

/-- The script that the other one imports. -/
def libScript : Path := "/site/b.js".toList

/-- One script imports the other one. -/
def chain : Imports := fun path =>
  if path = appScript then .ok [libScript] else .ok []

/-- A page that closes its head and leaves its body open. -/
def openPage : Text := "<head><script type='module' src='/a.js'></script></head><body>".toList

/-- The same page with its body closed. -/
def closedPage :
    Text := "<head><script type='module' src='/a.js'></script></head><body></body>".toList

theorem moduleEntries_closedPage : moduleEntries closedPage indexPage siteRoot = [appScript] := by
  decide +kernel

theorem reachable_chain {path : Path} (h : Reachable chain [appScript] path) :
    path = appScript ∨ path = libScript := by
  induction h with
  | entry hp => exact .inl (List.mem_singleton.1 hp)
  | step _ hi ht _ =>
    unfold chain at hi
    split at hi
    · cases hi
      exact .inr (List.mem_singleton.1 ht)
    · cases hi
      cases ht

theorem unnamed_chain : ∀ path, Unnamed chain [appScript] false path ↔ path = libScript := by
  intro path
  constructor
  · rintro ⟨hr, hnot, -⟩
    exact (reachable_chain hr).resolve_left fun h => hnot (List.mem_singleton.2 h)
  · rintro rfl
    have happ : Reachable chain [appScript] appScript := .entry (List.mem_singleton.2 rfl)
    have himports : chain appScript = .ok [libScript] := rfl
    exact ⟨.step happ himports (List.mem_singleton.2 rfl), by decide +kernel, rfl⟩

theorem within_chain : Within chain [appScript] 1 :=
  ⟨[libScript], Nat.le_refl 1, fun _ hp =>
    (reachable_chain hp).imp List.mem_singleton.2 List.mem_singleton.2⟩

theorem isPlain_libScript : IsPlain libScript := by
  have hplain : (libScript.all fun c =>
      !Text.isBlank c && c ≠ '?' && c ≠ '#' && c ≠ '"' && c ≠ '\'') = true := by decide +kernel
  intro c hc
  have := List.all_eq_true.1 hplain c hc
  simpa [and_assoc] using this

/-- A page without double quotes leaves none open. -/
theorem quoteClosed_of_not_mem {q : Char} {m : Mode} {code : Text}
    (h : q ∉ code) : QuoteClosed q m code := by
  intro v t hr
  obtain ⟨consumed, hcode⟩ := hr.suffix
  exact absurd (hcode ▸ List.mem_append_right _ List.mem_cons_self) h

/-- The page that leaves its body open gets its hints twice, the other one does not. -/
theorem preload_openPage_closedPage :
    ((preloadWith chain 1 siteRoot indexPage false openPage >>=
        preloadWith chain 1 siteRoot indexPage false) () ≠
      preloadWith chain 1 siteRoot indexPage false openPage ()) ∧
    ((preloadWith chain 1 siteRoot indexPage false closedPage >>=
        preloadWith chain 1 siteRoot indexPage false) () =
      preloadWith chain 1 siteRoot indexPage false closedPage ()) := by
  have hopen : moduleEntries openPage indexPage siteRoot = [appScript] := by decide +kernel
  have hclosed := moduleEntries_closedPage
  have hiff : ∀ code : Text, moduleEntries code indexPage siteRoot = [appScript] → '"' ∉ code → _ :=
    fun code hentries hquote => preload_idempotent_iff chain 1 siteRoot indexPage false code ()
      (hentries ▸ within_chain) (quoteClosed_of_not_mem hquote)
      (hentries ▸ fun path hp => (unnamed_chain path).1 hp ▸ isPlain_libScript)
  refine ⟨?_, ?_⟩
  · rw [Ne, hiff openPage hopen (by decide +kernel)]
    intro h
    have hall : ∀ path, Reachable chain (moduleEntries openPage indexPage siteRoot) path →
        ∃ targets, chain path = .ok targets := by
      intro path _
      unfold chain
      split <;> exact ⟨_, rfl⟩
    have hnil : ¬ Unnamed chain (moduleEntries openPage indexPage siteRoot) false [] := by
      rw [hopen, unnamed_chain]
      decide +kernel
    have hwithin : Within chain (moduleEntries openPage indexPage siteRoot) 1 :=
      hopen ▸ within_chain
    obtain ⟨missing, hrun, -⟩ := preloadWith_found () hwithin hall hnil
    have hsettled := h _ _ hrun libScript (hopen ▸ (unnamed_chain libScript).2 rfl)
    rw [closes_iff, closes_iff] at hsettled
    exact absurd (hsettled.1 (by decide +kernel)) (by decide +kernel)
  · rw [hiff closedPage hclosed (by decide +kernel)]
    intro _ _ _ path hpath
    rw [hclosed, unnamed_chain] at hpath
    rw [closes_iff, hpath]
    exact ⟨fun _ => by rw [closes_iff]; decide +kernel, fun _ => by decide +kernel⟩

/-- A page that closes its body names the imported script afterwards. -/
theorem named_closedPage : ∃ code',
    preloadWith chain 1 siteRoot indexPage false closedPage () = .ok code' () ∧
      ∀ path, path ∈ moduleEntries code' indexPage siteRoot ↔
        path = appScript ∨ path = libScript := by
  have hentries := moduleEntries_closedPage
  have hbody : Closes bodyClose closedPage := by
    rw [closes_iff]
    decide +kernel
  have hquotes : ∀ q, IsQuote q → QuoteClosed q .text closedPage := by
    rintro q (rfl | rfl) <;> decide +kernel
  have hurl : Reference.projectUrl? libScript siteRoot = some "/b.js".toList := by decide +kernel
  obtain ⟨hends, hnames⟩ :=
    mem_moduleEntries_preloadWith chain 1 siteRoot indexPage false closedPage ()
    (hentries ▸ within_chain) hquotes (by
      intro path hun
      rw [hentries, unnamed_chain] at hun
      rw [hun]
      exact ⟨_, hurl, ⟨by decide +kernel, by decide +kernel⟩, by decide +kernel⟩)
  obtain ⟨code', hrun⟩ := hends fun path _ => by
    unfold chain
    split <;> exact ⟨_, rfl⟩
  refine ⟨code', hrun, fun path => ?_⟩
  rw [hnames _ _ hrun path, hentries, unnamed_chain, List.mem_singleton]
  simp [hbody]

end Page
end SiteOptimizer
