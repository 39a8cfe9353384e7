import SiteOptimizer.Module.Extraction
import SiteOptimizer.Proofs.FileSystem
import SiteOptimizer.Proofs.Script.LineEnds
import SiteOptimizer.Proofs.Utf8

/-!
# The imports of a module

The imports of a script are the files that its local specifiers name, each where it is named first
(`imports_ofCode`). Whether a specifier is found once or twice in a row makes no difference, so for
a script that is made of declarations they are the files that its declarations name, whatever white
space and comments it has (`extract_declarations`).
-/

namespace SiteOptimizer
namespace Module

open Script (Declaration ModuleText Spaced Stutters Trivia)

/-! ## Lists without repetitions -/

section

variable {α β : Type} [BEq β] [LawfulBEq β]

theorem eraseDups_concat (l : List β) (b : β) :
    (l ++ [b]).eraseDups = if b ∈ l then l.eraseDups else l.eraseDups ++ [b] := by
  rw [List.eraseDups_append]
  split
  case isTrue h => simp [List.removeAll, h]
  case isFalse h => simp [List.removeAll, h, List.eraseDups_cons]

/-- What is left out may be left out before or after the repetitions. -/
theorem eraseDups_filter (p : β → Bool) (l : List β) :
    (l.filter p).eraseDups = l.eraseDups.filter p := by
  induction l using List.reverseRecOn with
  | nil => rfl
  | append_singleton l b ih =>
    rw [List.filter_append, eraseDups_concat]
    cases hb : p b with
    | true =>
      rw [List.filter_cons_of_pos hb, List.filter_nil, eraseDups_concat, ih]
      by_cases hmem : b ∈ l
      · rw [if_pos hmem, if_pos (List.mem_filter.2 ⟨hmem, hb⟩)]
      · rw [if_neg hmem, if_neg fun h => hmem (List.mem_filter.1 h).1, List.filter_append,
          List.filter_cons_of_pos hb, List.filter_nil]
    | false =>
      rw [List.filter_cons_of_neg (by simp [hb]), List.filter_nil, List.append_nil, ih]
      split
      · rfl
      · rw [List.filter_append, List.filter_cons_of_neg (by simp [hb]),
          List.filter_nil, List.append_nil]

/-- Repetitions that are in a row already do not count. -/
theorem eraseDups_filterMap_of_stutters {ss ts : List Text} (h : Stutters ss ts)
    {f : Text → Option β} (hnil : f [] = none) :
    (ts.filterMap f).eraseDups = (ss.filterMap f).eraseDups := by
  induction h with
  | nil => rfl
  | @cons s ss ts times htimes _ ih =>
    rw [List.filterMap_append]
    cases hs : f s with
    | none =>
      have hempty : (List.replicate times s).filterMap f = [] := by simp [hs]
      rw [hempty, List.nil_append, List.filterMap_cons_none hs, ih]
    | some b =>
      obtain ⟨n, rfl⟩ : ∃ n, times = n + 1 := by
        refine Nat.exists_eq_succ_of_ne_zero fun hzero => ?_
        rw [htimes.1 hzero, hnil] at hs
        cases hs
      -- the repeats of a target are erased by its first occurrence
      have hsame : (List.replicate (n + 1) s).filterMap f = b :: List.replicate n b := by
        simp [hs, List.replicate_succ]
      have hothers : (List.replicate n b ++ ts.filterMap f).filter (fun c => !c == b) =
          (ts.filterMap f).filter fun c => !c == b := by
        simp [List.filter_append]
      rw [hsame, List.filterMap_cons_some hs, List.cons_append, List.eraseDups_cons,
        List.eraseDups_cons, hothers, eraseDups_filter, ih, eraseDups_filter]

end

/-! ## What a script imports -/

variable {path root : Path}

/-- The file that a specifier names if it is a local one. -/
def target? (path root : Path) (specifier : Text) : Option Path :=
  if Reference.isLocal specifier && !Reference.isRemote specifier then
    Reference.resolve? specifier path root
  else none

theorem imports_add (e : Extraction) (specifier : Text) :
    (e.add path root specifier).imports =
      match target? path root specifier with
      | none => e.imports
      | some target => if target ∈ e.imports then e.imports else e.imports ++ [target] := by
  unfold Extraction.add target?
  cases Reference.isRemote specifier with
  | true => simp
  | false =>
    cases Reference.isLocal specifier with
    | false => simp
    | true =>
      cases Reference.resolve? specifier path root with
      | none => simp
      | some target =>
        by_cases hmem : target ∈ e.imports <;> simp [hmem]

/-- **A script imports the files that its local specifiers name**, each where it is named first. -/
theorem imports_ofCode (code : Text) :
    (Extraction.ofCode code path root).imports =
      ((Script.specifiers code).filterMap (target? path root)).eraseDups := by
  rw [Extraction.ofCode]
  induction Script.specifiers code using List.reverseRecOn with
  | nil => rfl
  | append_singleton specifiers specifier ih =>
    rw [List.foldl_append, List.foldl_cons, List.foldl_nil, imports_add, ih, List.filterMap_append]
    cases htarget : target? path root specifier with
    | none => simp [htarget]
    | some target =>
      have hone : [specifier].filterMap (target? path root) = [target] := by simp [htarget]
      simp only [hone, eraseDups_concat, List.mem_eraseDups]

theorem target?_nil : target? path root [] = none := rfl

/-- The local files that declarations name, each where it is named first. -/
def filesNamed (path root : Path) (ds : List Declaration) : List Path :=
  let locals := (ds.map (·.specifier.text)).filter fun s =>
    Reference.isLocal s && !Reference.isRemote s
  (locals.filterMap fun s => Reference.resolve? s path root).eraseDups

theorem filesNamed_eq (ds : List Declaration) :
    filesNamed path root ds = ((ds.map (·.specifier.text)).filterMap
      (target? path root)).eraseDups := by
  rw [filesNamed, List.filterMap_filter]
  rfl

/-- **A script that is made of declarations imports exactly the local files that they name**, each
once and in the order of the declarations. -/
theorem extract_declarations {files : FileSystem} {ds : List Declaration} {text : Text}
    (hbytes : files.readBytes path = .ok (Utf8.encode text)) (h : ModuleText ds text) :
    (extract files path root).map (·.imports) = .ok (filesNamed path root ds) := by
  have hfile : files.isFile path = true := by
    obtain ⟨place, hlocate, hdirectory, hfound⟩ := FileSystem.of_readBytes hbytes
    rw [FileSystem.isFile, hlocate]
    simp [hdirectory, hfound]
  have hcode : files.readDocument path = .ok (Text.unifyNewlines text) := by
    rw [FileSystem.readDocument, FileSystem.readText, hbytes]
    simp [Except.bind, Utf8.decode_encode, Except.mapError, Except.map]
  have hspecifiers := Script.stutters_specifiers h.unifyNewlines (Text.not_mem_unifyNewlines text)
  have himports : (Extraction.ofCode (Text.unifyNewlines text) path root).imports =
      filesNamed path root ds := by
    rw [imports_ofCode, eraseDups_filterMap_of_stutters hspecifiers target?_nil, filesNamed_eq]
  rw [extract, if_pos hfile, hcode]
  exact congrArg Except.ok himports

/-- An import for its effect. -/
def effectImport : Declaration :=
  ⟨.importEffect, ⟨'\'', "./b.js".toList, Script.isQuote_single, by decide, .of_plain (by decide)⟩⟩

/-- An export under a name that starts like an import. -/
def listExport : Declaration :=
  ⟨.exportList ⟨[⟨⟨"x".toList, by decide, by decide, by decide⟩,
      some ⟨"importY".toList, by decide, by decide, by decide⟩⟩], false⟩,
    ⟨'"', "/c.js".toList, Script.isQuote_double, by decide, .of_plain (by decide)⟩⟩

/-- An import of all that a module exports. -/
def wholeImport : Declaration :=
  ⟨.importClause (.all ⟨"n".toList, by decide, by decide, by decide⟩),
    ⟨'"', "../a/b.js".toList, Script.isQuote_double, by decide, .of_plain (by decide)⟩⟩

/-- A module with these declarations, with comments and all line ends, and
without most of the white space. -/
def mixedText : Text :=
  ("import './b.js';\r\n/* import './no.js'; */export\x7bx as importY\x7dfrom\"/c.js\" ;" ++
    "\r// it's\nimport* as\nn from \"../a/b.js\";\n").toList

theorem written_effectImport : effectImport.Written "import './b.js'".toList :=
  @Declaration.Written.intro effectImport "import".toList " ".toList
    (.last (.word Script.importWord)) (by decide)

theorem written_listExport :
    listExport.Written "export\x7bx as importY\x7dfrom\"/c.js\"".toList := by
  have hend : Spaced [.mark '\x7d', .word Script.fromWord] "\x7dfrom".toList :=
    @Spaced.cons _ _ _ [] _ (by decide) (by decide) (.last _)
  have hitem : Spaced
      [.word "x".toList, .word Script.asWord, .word "importY".toList, .mark '\x7d',
        .word Script.fromWord]
      "x as importY\x7dfrom".toList :=
    @Spaced.cons _ _ _ [' '] _ (by decide) (by decide)
      (@Spaced.cons _ _ _ [' '] _ (by decide) (by decide)
      (@Spaced.cons _ _ _ [] _ (by decide) (by decide) hend))
  exact @Declaration.Written.intro listExport "export\x7bx as importY\x7dfrom".toList []
    (@Spaced.cons _ _ _ [] _ (by decide) (by decide)
      (@Spaced.cons _ _ _ [] _ (by decide) (by decide) hitem)) (by decide)

theorem written_wholeImport : wholeImport.Written "import* as\nn from \"../a/b.js\"".toList :=
  @Declaration.Written.intro wholeImport "import* as\nn from".toList [' ']
    (@Spaced.cons _ _ _ [] _ (by decide) (by decide)
      (@Spaced.cons _ _ _ [' '] _ (by decide) (by decide)
      (@Spaced.cons _ _ _ ['\n'] _ (by decide) (by decide)
        (@Spaced.cons _ _ _ [' '] _ (by decide) (by decide)
        (.last _))))) (by decide)

theorem moduleText_mixedText : ModuleText [effectImport, listExport, wholeImport] mixedText := by
  have hcut : mixedText = [] ++ ("import './b.js'".toList ++
    ([] ++ ';' :: ("\r\n/* import './no.js'; */".toList ++
      ("export\x7bx as importY\x7dfrom\"/c.js\"".toList ++ ([' '] ++ ';' :: ("\r// it's\n".toList ++
        ("import* as\nn from \"../a/b.js\"".toList ++
          ([] ++ ';' :: "\n".toList)))))))) := by decide +kernel
  have hcomment : Trivia "\r\n/* import './no.js'; */".toList :=
    .blank (by decide) (.blank (by decide) (@Trivia.block " import './no.js'; ".toList []
      (by unfold Script.Unclosed; decide +kernel) .nil))
  have hremark : Trivia "\r// it's\n".toList :=
    .blank (by decide) (@Trivia.line '\n' " it's".toList [] (by decide) (.inl rfl)
      (.blank (by decide) .nil))
  rw [hcut]
  exact .cons .nil written_effectImport (by decide) ⟨_, _, .inr rfl, rfl⟩
    (.cons hcomment written_listExport (by decide) ⟨_, _, .inr rfl, rfl⟩
      (.cons hremark written_wholeImport (by decide) ⟨_, _, .inl rfl, rfl⟩
        (.nil (.blank (by decide) .nil))))

/-- The file of this module. -/
def mixedFiles : FileSystem :=
  ⟨[(["a".toList, "m.js".toList], Utf8.encode mixedText)], [["a".toList]], []⟩

theorem extract_mixedFiles : ModuleText [effectImport, listExport, wholeImport] mixedText ∧
    (extract mixedFiles "/a/m.js".toList "/a".toList).map (·.imports) =
      .ok ["/a/b.js".toList, "/a/c.js".toList] := by
  have hbytes : mixedFiles.readBytes "/a/m.js".toList = .ok (Utf8.encode mixedText) := by rfl
  have hnamed : filesNamed "/a/m.js".toList "/a".toList [effectImport, listExport, wholeImport] =
      ["/a/b.js".toList, "/a/c.js".toList] := by decide +kernel
  exact ⟨moduleText_mixedText, (extract_declarations hbytes moduleText_mixedText).trans
    (congrArg Except.ok hnamed)⟩

end Module
end SiteOptimizer
