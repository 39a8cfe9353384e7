import SiteOptimizer.Proofs.Page.Scan
import SiteOptimizer.Proofs.Path.Canonical

/-!
# Manifests

A manifest has one entry for each page, so whoever reads it page by page in ascending order reads
the same whatever the order of its entries is (`Manifest.sorted_eq_of_perm`). Every module of a page
of a run is named by its canonical path.
-/

namespace SiteOptimizer
namespace Page

open SiteOptimizer.Module SiteOptimizer.Path

/-! ## One entry for each page -/

/-- The pages of a manifest. -/
def Manifest.pages (manifest : Manifest) : List Path :=
  manifest.map (·.1)

theorem Manifest.nodup_insert {manifest : Manifest} (h : manifest.pages.Nodup) (page : Path)
    (found : Dependencies) :
    (manifest.insert page found).pages.Nodup := by
  induction manifest with
  | nil => exact List.nodup_singleton page
  | cons other rest ih =>
    obtain ⟨hother, hrest⟩ := List.nodup_cons.1 h
    unfold Manifest.insert
    split
    · next hpage => exact List.nodup_cons.2 ⟨hpage ▸ hother, hrest⟩
    · next hpage =>
      refine List.nodup_cons.2 ⟨fun hin => ?_, ih hrest⟩
      obtain ⟨entry, hentry, heq⟩ := List.mem_map.1 hin
      rcases mem_insert hentry with rfl | hentry
      · exact hpage heq.symm
      · exact hother (heq ▸ List.mem_map_of_mem hentry)

theorem Manifest.nodup_ofPages (pages : List (Path × Dependencies)) :
    (Manifest.ofPages pages).pages.Nodup := by
  have hfold : ∀ (pages : List (Path × Dependencies)) (manifest : Manifest), manifest.pages.Nodup →
      (pages.foldl (fun manifest page => manifest.insert page.1 page.2) manifest).pages.Nodup := by
    intro pages
    induction pages with
    | nil => exact fun _ h => h
    | cons page pages ih => exact fun manifest h => ih _ (Manifest.nodup_insert h page.1 page.2)
  exact hfold pages [] List.nodup_nil

/-- **A scan leaves one entry for each page**, wherever imports come from. -/
theorem nodup_of_scanAll {modules : List Path → Work (List Path)} {pages : List Path} {root : Path}
    {manifest : Manifest} {s s' : Session} (h : scanAll modules pages root s = .ok manifest s') :
    manifest.pages.Nodup := by
  obtain ⟨found, s'', -, hpure⟩ := Work.of_bind_ok h
  cases hpure
  exact Manifest.nodup_ofPages found

/-- **Manifests with the same entries are the same page by page.** -/
theorem Manifest.sorted_eq_of_perm {manifest manifest' : Manifest} (hnodup : manifest.pages.Nodup)
    (h : manifest'.Perm manifest) : manifest'.sorted = manifest.sorted := by
  have hordered : ∀ manifest : Manifest, manifest.sorted.Pairwise fun a b =>
    Text.le a.1 b.1 = true := by
    intro manifest
    refine List.pairwise_mergeSort (fun a b c hab hbc => ?_)
      (fun a b => Text.le_total a.1 b.1) manifest
    exact Text.le_trans hab hbc
  have hsame : ∀ {m : Manifest}, m.sorted.Perm m := List.mergeSort_perm _ _
  -- what stands at the same place in both orders has the same page, and a page has one entry
  refine List.Perm.eq_of_pairwise (fun a b ha hb hab hba => ?_) (hordered manifest')
    (hordered manifest) ((hsame.trans h).trans hsame.symm)
  have ha : a ∈ manifest := h.mem_iff.1 (hsame.mem_iff.1 ha)
  have hb : b ∈ manifest := hsame.mem_iff.1 hb
  exact List.inj_on_of_nodup_map hnodup ha hb (Text.le_antisymm hab hba)

/-! ## Canonical modules -/

section Canonical

variable {mark : Text} {root page : Path} {fs : FileSystem}

theorem canonical_of_mem_scripts {code : Text} {path : Path} (hpage : Canonical mark page)
    (hroot : Canonical mark root) (hmark : IsMark mark)
    (h : path ∈ scripts code page root) : Canonical mark path := by
  obtain ⟨reference, hresolve⟩ := exists_resolve?_of_mem_scripts h
  exact hpage.resolve? hroot hmark hresolve

/-- Imports lead from canonical modules to canonical modules. -/
theorem canonical_of_reachable {entries : List Path} {path : Path} (hroot : Canonical mark root)
    (hmark : IsMark mark) (hentries : ∀ p ∈ entries, Canonical mark p)
    (h : Reachable ((Source.scripts root).importsIn fs) entries path) : Canonical mark path := by
  induction h with
  | entry hp => exact hentries _ hp
  | step _ hi ht ih =>
    obtain ⟨specifier, hresolve⟩ := exists_resolve?_of_importsIn hi ht
    exact ih.resolve? hroot hmark hresolve

/-- **The modules of a canonical page are canonical.** -/
theorem Describes.canonical {code : Text} {found : Dependencies}
    (h : Describes root fs page code found) (hpage : Canonical mark page)
    (hroot : Canonical mark root) (hmark : IsMark mark) :
    ∀ path ∈ found.js, Canonical mark path := fun path hpath =>
  canonical_of_reachable hroot hmark (fun _ => canonical_of_mem_scripts hpage hroot hmark)
    ((h.mem_js path).1 hpath)

end Canonical

end Page
end SiteOptimizer
