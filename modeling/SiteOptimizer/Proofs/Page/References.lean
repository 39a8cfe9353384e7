import SiteOptimizer.Proofs.Markup.Nodes
import SiteOptimizer.Proofs.Page.Scan

/-!
# A scan finds what a page names

A page that is made of nodes names files in its link and script tags and nowhere else: not in its
texts, and not in what its comments hide. A scan finds just these files (`scan_render`). It looks at
other attributes of a tag than the search for modules does, and both see the same tags.
-/

namespace SiteOptimizer
namespace Page

open Markup SiteOptimizer.Module

/-- Whether an opening tag has this name and names a file in the first of
its attributes of this name. -/
def Names (e : Element) (tag key : Text) (page root path : Path) : Prop :=
  Text.lower e.name = tag ∧ ∃ reference, e.value? key = some reference ∧ reference ≠ [] ∧
    Reference.resolve? reference page root = some path

theorem names_iff {e : Element} {tag key : Text} {page root path : Path} :
    Names e tag key page root path ↔
      Text.lower e.name = tag ∧ reference? e.read key page root = some path := by
  rw [reference?_eq_some, value?_read, Names]

variable {nodes : List Node} {page root path : Path}

/-- Of the link and script tags those of one name are looked at for one attribute. -/
theorem mem_filterMap_referenceTags {tag key : Text} (htag : tag = linkTag ∨ tag = scriptTag) :
    path ∈ (referenceTags (render nodes)).filterMap (fun (name, attributes) =>
        if name = tag then reference? attributes key page root else none) ↔
      ∃ e, .element e ∈ nodes ∧ Names e tag key page root path := by
  simp only [List.mem_filterMap, referenceTags, mem_tags_render]
  constructor
  · rintro ⟨_, ⟨e, he, -, rfl⟩, hpath⟩
    obtain ⟨hname, href⟩ := Option.ite_none_right_eq_some.1 hpath
    exact ⟨e, he, names_iff.2 ⟨hname, href⟩⟩
  · rintro ⟨e, he, hnames⟩
    obtain ⟨hname, href⟩ := names_iff.1 hnames
    refine ⟨_, ⟨e, he, ?_, rfl⟩, ?_⟩
    · simpa [hname] using htag
    · dsimp only
      rw [if_pos hname, href]

theorem mem_stylesheets_render : path ∈ stylesheets (render nodes) page root ↔
    ∃ e, .element e ∈ nodes ∧ Names e linkTag hrefAttribute page root path :=
  mem_filterMap_referenceTags (.inl rfl)

theorem mem_scripts_render : path ∈ scripts (render nodes) page root ↔
    ∃ e, .element e ∈ nodes ∧ Names e scriptTag srcAttribute page root path :=
  mem_filterMap_referenceTags (.inr rfl)

/-- **The modules of a page are those of its scripts that say so** in their
first type, in any case. -/
theorem mem_moduleEntries_render : path ∈ moduleEntries (render nodes) page root ↔
    ∃ e, .element e ∈ nodes ∧ Names e scriptTag srcAttribute page root path ∧
      (e.value? typeAttribute).map Text.lower = some moduleType := by
  rw [moduleEntries, Text.mem_sortUnique, List.mem_filterMap]
  simp only [mem_tags_render]
  constructor
  · rintro ⟨_, ⟨e, he, hname, rfl⟩, hpath⟩
    obtain ⟨hmodule, href⟩ := Option.ite_none_right_eq_some.1 hpath
    refine ⟨e, he, names_iff.2 ⟨by simpa using hname, href⟩, ?_⟩
    rw [← value?_read]
    simpa [isModule] using hmodule
  · rintro ⟨e, he, hnames, hmodule⟩
    obtain ⟨hname, href⟩ := names_iff.1 hnames
    refine ⟨_, ⟨e, he, by simpa using hname, rfl⟩, ?_⟩
    have hmodule : isModule e.read = true := by
      rw [isModule, value?_read]
      simpa using hmodule
    dsimp only
    rw [if_pos hmodule, href]

/-! ## The whole scan -/

theorem readDocument_of_readText {fs : FileSystem} {code : Text} (h : fs.readText page = .ok code)
    (hlines : '\r' ∉ code) : fs.readDocument page = .ok code := by
  rw [FileSystem.readDocument, h]
  show Except.ok (Text.unifyNewlines code) = _
  rw [Text.unifyNewlines_eq_self hlines]

/-- A scan ends as the search for the modules of the scripts that the page names. -/
theorem scan_closure (lookup : Lookup Session) (limit : Nat) {s : Session} {code : Text}
    (hread : s.files.readDocument page = .ok code) :
    scan (closure lookup limit) page root s =
      match closure lookup limit (scripts code page root) s with
      | .ok js s' => Work.ofExcept (Dependencies.ofLists (scripts code page root)
          (stylesheets code page root) js) s'
      | .error fault s' => .error fault s' := by
  rw [scan_of_readDocument hread]
  cases hjs : closure lookup limit (scripts code page root) s with
  | ok js s' => rw [Work.bind_of_ok hjs]
  | error fault s' => rw [Work.bind_of_error hjs]

/-- **A scan finds exactly what the nodes of a page name.** Whatever imports are looked up, a scan
of such a page fails just where the search for modules fails; else its stylesheets are what the
page's links name and its entries what its script tags name. Among those the module entries of the
page are the ones of type module. -/
theorem scan_render (lookup : Lookup Session) (limit : Nat) (nodes : List Node) (page root : Path)
    (s : Session) (hread : s.files.readText page = .ok (render nodes))
    (hlines : '\r' ∉ render nodes) :
    (match closure lookup limit (scripts (render nodes) page root) s with
      | .ok _ s' => ∃ found, scan (closure lookup limit) page root s = .ok found s' ∧
        (∀ path, path ∈ found.css ↔
          ∃ e, .element e ∈ nodes ∧ Names e linkTag hrefAttribute page root path) ∧
        ∀ path, path ∈ found.entry ↔
          ∃ e, .element e ∈ nodes ∧ Names e scriptTag srcAttribute page root path
      | .error fault s' => scan (closure lookup limit) page root s = .error fault s') ∧
    ∀ path, path ∈ moduleEntries (render nodes) page root ↔
      ∃ e, .element e ∈ nodes ∧ Names e scriptTag srcAttribute page root path ∧
        (e.value? typeAttribute).map Text.lower = some moduleType := by
  refine ⟨?_, fun path => mem_moduleEntries_render⟩
  rw [scan_closure lookup limit (readDocument_of_readText hread hlines)]
  cases hjs : closure lookup limit (scripts (render nodes) page root) s with
  | error fault s' => rfl
  | ok js s' =>
    have hsubset : ∀ path ∈ scripts (render nodes) page root, path ∈ js := fun path hpath =>
      mem_of_closure hjs hpath
    obtain ⟨found, hfound, hentry, hcss, -⟩ := exists_ofLists (stylesheets (render nodes) page root)
      hsubset
    refine ⟨found, ?_, fun path => (hcss path).trans mem_stylesheets_render,
      fun path => (hentry path).trans mem_scripts_render⟩
    dsimp only
    rw [hfound]
    rfl

/-! ### A page in mixed spelling -/

/-- A stylesheet in capital letters, with white space around the sign of its assignment. -/
def mixedLink : Element where
  name := "LINK".toList
  attributes := [
    { space := [' '], name := "rel".toList
      space_ne := by decide +kernel, is_space := by decide +kernel
      name_ne := by decide +kernel, name_chars := by decide +kernel
      assigned := none },
    { space := ['\n', '\t'], name := "HREF".toList
      space_ne := by decide +kernel, is_space := by decide +kernel
      name_ne := by decide +kernel, name_chars := by decide +kernel
      assigned := some ⟨[' '], ['\n'], .quoted '\'' "/a.css".toList (.inr rfl)
        (by decide +kernel), by decide +kernel, by decide +kernel⟩ }]
  ending := .plain [' '] (by decide +kernel)
  isName := ⟨'L', "INK".toList, rfl, by decide +kernel, by decide +kernel⟩

/-- A module whose first source counts and whose value stands without quotes. -/
def mixedScript : Element where
  name := "Script".toList
  attributes := [
    { space := [' '], name := "src".toList
      space_ne := by decide +kernel, is_space := by decide +kernel
      name_ne := by decide +kernel, name_chars := by decide +kernel
      assigned := some ⟨[], [], .bare "app.js".toList (by decide +kernel)
        (by decide +kernel), by decide +kernel, by decide +kernel⟩ },
    { space := [' '], name := "SRC".toList
      space_ne := by decide +kernel, is_space := by decide +kernel
      name_ne := by decide +kernel, name_chars := by decide +kernel
      assigned := some ⟨[], [], .quoted '"' "/b.js".toList (.inl rfl)
        (by decide +kernel), by decide +kernel, by decide +kernel⟩ },
    { space := [' '], name := "type".toList
      space_ne := by decide +kernel, is_space := by decide +kernel
      name_ne := by decide +kernel, name_chars := by decide +kernel
      assigned := some ⟨[], [], .quoted '"' "Module".toList (.inl rfl)
        (by decide +kernel), by decide +kernel, by decide +kernel⟩ }]
  ending := .void [' '] (by decide +kernel) (by decide +kernel)
  isName := ⟨'S', "cript".toList, rfl, by decide +kernel, by decide +kernel⟩

/-- A page that hides another script in a comment. -/
def mixedNodes : List Node :=
  [.docType "doctype html".toList (by decide +kernel) (by decide +kernel) (by decide +kernel),
   .comment " <script src='/old.js'></script> - ".toList (by decide +kernel),
   .element mixedLink, .text "\n x > y ".toList (by decide +kernel), .element mixedScript,
   .close "script".toList [' '] ⟨'s', "cript".toList, rfl, by decide +kernel, by decide +kernel⟩
     (by decide +kernel)]

/-- The session before the page is scanned. -/
def mixedStart : Session :=
  .start ⟨[(["site".toList, "index.html".toList], Utf8.encode (render mixedNodes))],
    [["site".toList]], []⟩

/-- The page depends on the stylesheet and on the script in front, but not on the hidden one. -/
theorem scan_mixedNodes :
    ∃ found s', scan (closure (Lookup.fixed fun _ => .ok []) 0) "/site/index.html".toList
      "/site".toList mixedStart = .ok found s' ∧
      (∀ path, path ∈ found.css ↔ path = "/site/a.css".toList) ∧
      (∀ path, path ∈ found.entry ↔ path = "/site/app.js".toList) := by
  have hcss : stylesheets (render mixedNodes) "/site/index.html".toList "/site".toList =
      ["/site/a.css".toList] := by
    decide +kernel
  have hscripts : scripts (render mixedNodes) "/site/index.html".toList "/site".toList =
      ["/site/app.js".toList] := by
    decide +kernel
  -- the script has no imports, so the search ends behind its entries
  have hclosure : closure (Lookup.fixed fun _ => .ok []) 0 ["/site/app.js".toList] mixedStart =
      .ok ["/site/app.js".toList] mixedStart := by
    have hsorted : Text.sortUnique ["/site/app.js".toList] = ["/site/app.js".toList] :=
      List.mergeSort_singleton _
    have hstart : Search.start ["/site/app.js".toList] =
        ⟨["/site/app.js".toList], [], ["/site/app.js".toList]⟩ := by
      rw [Search.start, hsorted]
      rfl
    rw [Module.closure, hstart]
    show Search.run _ (0 + 1) _ _ = _
    rw [Search.run_succ _ _ rfl (by decide +kernel)]
    exact (Search.run_nil _ _ rfl).trans
      (congrArg (EStateM.Result.ok · mixedStart) (List.mergeSort_singleton _))
  obtain ⟨hscan, -⟩ := scan_render (Lookup.fixed fun _ => .ok []) 0 mixedNodes
    "/site/index.html".toList "/site".toList mixedStart (by decide +kernel) (by decide +kernel)
  rw [hscripts, hclosure] at hscan
  obtain ⟨found, hfound, hmem, hentry⟩ := hscan
  refine ⟨found, mixedStart, hfound, fun path => ?_, fun path => ?_⟩
  · rw [hmem, ← mem_stylesheets_render, hcss, List.mem_singleton]
  · rw [hentry, ← mem_scripts_render, hscripts, List.mem_singleton]

end Page
end SiteOptimizer
