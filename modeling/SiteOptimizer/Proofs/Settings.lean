import Mathlib.Data.List.Pairwise
import Mathlib.Data.List.Perm.Basic
import SiteOptimizer.Proofs.Session
import SiteOptimizer.Settings

/-!
# Settings and the options that give them

An option counts by what it names and not by how it is spelled or where it stands. Changes of
different settings commute, so options that name different settings give the same settings in any
order, and whether one of them is wrong does not depend on the others. Settings that come from
options and from changes can be written as options and read again (`ofOptions_canonical`).
-/

namespace SiteOptimizer
namespace Settings

/-! ## Names of options -/

/-- The two spellings of an option. -/
def Key.IsSpelled (key : Key) (name : Text) : Prop :=
  name = key.name ∨ name = key.camelName

/-- **A name stands for an option just if it is one of its spellings.** -/
theorem Key.ofName?_eq_some {key : Key} {name : Text} :
    Key.ofName? name = some key ↔ key.IsSpelled name := by
  constructor
  · intro h
    have hname := List.find?_some h
    rw [Bool.or_eq_true, decide_eq_true_eq, decide_eq_true_eq] at hname
    exact hname.imp Eq.symm Eq.symm
  · rintro (rfl | rfl)
    · cases key <;> rfl
    · cases key <;> rfl

/-- Options with the same value that name the same or are written with the same name. -/
def Respelled (option option' : Text × Json) : Prop :=
  option.2 = option'.2 ∧ (option.1 = option'.1 ∨ ∃ key : Key, key.IsSpelled option.1 ∧
    key.IsSpelled option'.1)

/-- No two options name the same. -/
def Unambiguous (options : List (Text × Json)) : Prop :=
  options.Pairwise fun a b => ¬ ∃ key : Key, key.IsSpelled a.1 ∧ key.IsSpelled b.1

instance (options : List (Text × Json)) : Decidable (Unambiguous options) :=
  decidable_of_iff (options.Pairwise fun a b => Key.ofName? a.1 = none ∨ Key.ofName? a.1 ≠
    Key.ofName? b.1) <| by
    have hiff (a b : Text) : (Key.ofName? a = none ∨ Key.ofName? a ≠ Key.ofName? b) ↔
        ¬ ∃ key : Key, key.IsSpelled a ∧ key.IsSpelled b := by
      simp only [← Key.ofName?_eq_some]
      cases Key.ofName? a with
      | none => exact ⟨fun _ => nofun, fun _ => .inl rfl⟩
      | some key => simp [eq_comm]
    simp only [hiff, Unambiguous]

theorem Respelled.ofName?_eq {option option' : Text × Json} (h : Respelled option option') :
    Key.ofName? option.1 = Key.ofName? option'.1 := by
  rcases h.2 with hname | ⟨key, hkey, hkey'⟩
  · rw [hname]
  · rw [Key.ofName?_eq_some.2 hkey, Key.ofName?_eq_some.2 hkey']

theorem Respelled.symm {option option' : Text × Json}
    (h : Respelled option option') : Respelled option' option :=
  ⟨h.1.symm, h.2.imp Eq.symm fun ⟨key, hkey, hkey'⟩ => ⟨key, hkey', hkey⟩⟩

/-! ## Changes -/

/-- The setting that a change is about. -/
def Change.key : Change → Key
  | .minifyJs _ => .minifyJs
  | .minifyHtml _ => .minifyHtml
  | .minifyCss _ => .minifyCss
  | .preloadCss _ => .preloadCss
  | .preloadModules _ => .preloadModules
  | .combinedCssName _ => .combinedCssName
  | .exclude _ => .exclude
  | .target _ => .target
  | .metaDir _ => .metaDir

/-- **Changes of different settings commute.** -/
theorem change_comm {a b : Change} (h : a.key ≠ b.key) (s : Settings) :
    (s.change a).change b = (s.change b).change a := by
  cases a <;> cases b <;> first | rfl | exact absurd rfl h

/-! ## What options ask for -/

/-- The change that a value asks for under an option. -/
inductive Wants : Key → Json → Change → Prop where
  | minifyJs (flag : Bool) : Wants .minifyJs (.bool flag) (.minifyJs flag)
  | minifyHtml (flag : Bool) : Wants .minifyHtml (.bool flag) (.minifyHtml flag)
  | minifyCss (flag : Bool) : Wants .minifyCss (.bool flag) (.minifyCss flag)
  | preloadCss (flag : Bool) : Wants .preloadCss (.bool flag) (.preloadCss flag)
  | preloadModules (flag : Bool) : Wants .preloadModules (.bool flag) (.preloadModules flag)
  | combinedCssName (url : Text) : Wants .combinedCssName (.string url) (.combinedCssName url)
  | oneGlob (glob : Text) : Wants .exclude (.string glob) (.exclude [glob])
  | globs (globs : List Text) : Wants .exclude (.array (globs.map .string)) (.exclude globs)
  | noTarget : Wants .target .null (.target none)
  | target (target : Text) : Wants .target (.string target) (.target (some target))
  | metaDir (name : Text) : Wants .metaDir (.string name) (.metaDir name)

/-- The change that an option asks for, under either spelling. -/
def Asks (option : Text × Json) (change : Change) : Prop :=
  ∃ key : Key, key.IsSpelled option.1 ∧ Wants key option.2 change

theorem Wants.key_eq {key : Key} {value : Json} {change : Change}
    (h : Wants key value change) : change.key = key := by
  cases h <;> rfl

theorem Asks.ofName?_eq {option : Text × Json} {change : Change} (h : Asks option change) :
    Key.ofName? option.1 = some change.key := by
  obtain ⟨key, hkey, hwants⟩ := h
  rw [hwants.key_eq]
  exact Key.ofName?_eq_some.2 hkey

/-- What an option asks for does not depend on its spelling. -/
theorem Asks.respelled {option option' : Text × Json} {change : Change} (h : Asks option change)
    (hspelling : Respelled option option') : Asks option' change := by
  obtain ⟨key, hkey, hwants⟩ := h
  rw [hspelling.1] at hwants
  rw [← Key.ofName?_eq_some, hspelling.ofName?_eq, Key.ofName?_eq_some] at hkey
  exact ⟨key, hkey, hwants⟩

theorem boolValue_eq_ok {name : Text} {value : Json} {flag : Bool} :
    boolValue name value = .ok flag ↔ value = .bool flag := by
  cases value <;> simp [boolValue]

theorem textValue_eq_ok {name text : Text} {value : Json} :
    textValue name value = .ok text ↔ value = .string text := by
  cases value <;> simp [textValue]

theorem mapM_stringOf? {items : List Json} {texts : List Text} :
    items.mapM stringOf? = some texts ↔ items = texts.map .string := by
  induction items generalizing texts with
  | nil =>
    rw [List.mapM_nil, List.nil_eq, List.map_eq_nil_iff]
    exact ⟨fun h => (Option.some.inj h).symm, fun h => by rw [h]; rfl⟩
  | cons item items ih =>
    rw [List.mapM_cons, eq_comm (a := item :: items), List.map_eq_cons_iff]
    constructor
    · intro h
      obtain ⟨text, htext, h⟩ := Option.bind_eq_some_iff.1 h
      obtain ⟨rest, hrest, h⟩ := Option.bind_eq_some_iff.1 h
      cases h
      refine ⟨text, rest, rfl, ?_, (ih.1 hrest).symm⟩
      cases item <;> cases htext
      rfl
    · rintro ⟨text, rest, rfl, rfl, hrest⟩
      rw [ih.2 hrest.symm]
      rfl

theorem wants_target {name : Text} {value : Json} {target : Option Text}
    (h : textOrNull name value = .ok target) :
    Wants .target value (.target target) := by
  cases value <;> cases h
  · exact .noTarget
  · exact .target _

theorem wants_exclude {name : Text} {value : Json} {globs : List Text}
    (h : globsValue name value = .ok globs) :
    Wants .exclude value (.exclude globs) := by
  cases value with
  | string glob =>
    cases h
    exact .oneGlob glob
  | array items =>
    rw [globsValue] at h
    cases hitems : items.mapM stringOf? with
    | none => rw [hitems] at h; cases h
    | some found =>
      rw [hitems] at h
      cases h
      rw [mapM_stringOf?.1 hitems]
      exact .globs globs
  | _ => cases h

/-- **An option is read as the change that it asks for**, and every other option is refused. -/
theorem ofOption_eq_ok_iff {name : Text} {value : Json} {change : Change} :
    Change.ofOption name value = .ok change ↔ Asks (name, value) change := by
  constructor
  · intro h
    rw [Change.ofOption] at h
    cases hname : Key.ofName? name with
    | none => rw [hname] at h; cases h
    | some key =>
      refine ⟨key, Key.ofName?_eq_some.1 hname, ?_⟩
      rw [hname] at h
      -- keys whose values are of one sort are read alike
      cases key with
      | minifyJs | minifyHtml | minifyCss | preloadCss | preloadModules =>
        obtain ⟨flag, hflag, rfl⟩ := map_eq_ok_iff.1 h
        rw [boolValue_eq_ok.1 hflag]
        constructor
      | combinedCssName | metaDir =>
        obtain ⟨text, htext, rfl⟩ := map_eq_ok_iff.1 h
        rw [textValue_eq_ok.1 htext]
        constructor
      | exclude =>
        obtain ⟨globs, hglobs, rfl⟩ := map_eq_ok_iff.1 h
        exact wants_exclude hglobs
      | target =>
        obtain ⟨target, htarget, rfl⟩ := map_eq_ok_iff.1 h
        exact wants_target htarget
  · rintro ⟨key, hkey, hwants⟩
    have hname : Key.ofName? name = some key := Key.ofName?_eq_some.2 hkey
    rw [Change.ofOption, hname]
    cases hwants with
    | globs globs =>
      have hitems : (globs.map Json.string).mapM stringOf? = some globs := mapM_stringOf?.2 rfl
      dsimp only
      rw [globsValue, hitems]
      rfl
    | _ => rfl

/-! ## Options in another order and another spelling -/

variable {options options' : List (Text × Json)} {changes changes' : List Change} {s : Settings}

/-- **Settings come from options just if each of them asks for a change.** -/
theorem ofOptions_eq_ok_iff :
    ofOptions options = .ok s ↔ ∃ changes, List.Forall₂ Asks options changes ∧
      default.replace changes = s := by
  have hreads : ∀ changes, changesOf options = .ok changes ↔ List.Forall₂ Asks options changes := by
    intro changes
    rw [changesOf, mapM_eq_ok_iff]
    simp only [ofOption_eq_ok_iff]
  simp only [← hreads]
  rw [ofOptions, ← map_eq_ok_iff]
  cases (changesOf options).map default.replace with
  | error trouble => exact ⟨nofun, nofun⟩
  | ok found => exact ⟨fun h => by cases h; rfl, fun h => by cases h; rfl⟩

/-- Options are refused with a fault of the options only. -/
theorem exists_trouble {fault : Fault} (h : ofOptions options = .error fault) :
    ∃ trouble, fault = .option trouble := by
  rw [ofOptions] at h
  cases hread : (changesOf options).map default.replace with
  | error trouble =>
    rw [hread] at h
    cases h
    exact ⟨trouble, rfl⟩
  | ok s => rw [hread] at h; cases h

/-- Options that name different settings ask for changes of different settings. -/
theorem Unambiguous.pairwise_key (h : Unambiguous options)
    (hasks : List.Forall₂ Asks options changes) :
    changes.Pairwise fun a b => a.key ≠ b.key := by
  induction hasks with
  | nil => exact .nil
  | @cons option change options changes hoption hrest ih =>
    obtain ⟨hfirst, hothers⟩ := List.pairwise_cons.1 h
    refine List.pairwise_cons.2 ⟨fun other hother heq => ?_, ih hothers⟩
    obtain ⟨option', hoption', hasked⟩ := exists_of_forall₂ hrest.flip hother
    refine hfirst option' hoption' ⟨change.key, Key.ofName?_eq_some.1 hoption.ofName?_eq, ?_⟩
    rw [heq]
    exact Key.ofName?_eq_some.1 (Asks.ofName?_eq hasked)

/-- **Changes of different settings give the same settings in any order.** -/
theorem replace_perm (h : changes.Perm changes')
    (hkeys : changes.Pairwise fun a b => a.key ≠ b.key) (s : Settings) :
    s.replace changes = s.replace changes' := by
  have hsymm : Std.Symm fun a b : Change => a.key ≠ b.key := ⟨fun _ _ hne => Ne.symm hne⟩
  refine h.foldl_eq' (fun a ha b hb s => ?_) s
  by_cases hab : a = b
  · rw [hab]
  · exact change_comm (hkeys.forall ha hb hab) s

theorem ofOptions_perm (h : options.Perm options') (hdistinct : Unambiguous options)
    (hs : ofOptions options = .ok s) :
    ofOptions options' = .ok s := by
  obtain ⟨changes, hasks, rfl⟩ := ofOptions_eq_ok_iff.1 hs
  obtain ⟨changes', hasks', hperm⟩ := List.perm_comp_forall₂ h.symm hasks
  exact ofOptions_eq_ok_iff.2 ⟨changes', hasks',
    (replace_perm hperm.symm (hdistinct.pairwise_key hasks) _).symm⟩

theorem ofOptions_respelled (h : List.Forall₂ Respelled options options')
    (hs : ofOptions options = .ok s) :
    ofOptions options' = .ok s := by
  obtain ⟨changes, hasks, rfl⟩ := ofOptions_eq_ok_iff.1 hs
  refine ofOptions_eq_ok_iff.2 ⟨changes, ?_, rfl⟩
  clear hs
  induction h generalizing changes with
  | nil => exact hasks
  | cons hoption _ ih =>
    cases hasks with
    | cons hchange hrest => exact .cons (hchange.respelled hoption) (ih _ hrest)

theorem Unambiguous.perm (h : Unambiguous options)
    (hperm : options.Perm options') : Unambiguous options' := by
  refine (hperm.pairwise_iff ?_).1 h
  rintro a b hne ⟨key, ha, hb⟩
  exact hne ⟨key, hb, ha⟩

/-- Two readings that end alike: with the same settings, or both with a fault of the options. -/
inductive SameOutcome : Except Fault Settings → Except Fault Settings → Prop where
  | settings (s : Settings) : SameOutcome (.ok s) (.ok s)
  | refused (trouble trouble' : OptionTrouble) :
      SameOutcome (.error (.option trouble)) (.error (.option trouble'))

theorem sameOutcome_of_iff (h : ∀ s, ofOptions options = .ok s ↔ ofOptions options' = .ok s) :
    SameOutcome (ofOptions options) (ofOptions options') := by
  cases hread : ofOptions options with
  | ok s =>
    rw [(h s).1 hread]
    exact .settings s
  | error fault =>
    cases hread' : ofOptions options' with
    | ok s =>
      rw [(h s).2 hread'] at hread
      cases hread
    | error fault' =>
      obtain ⟨trouble, rfl⟩ := exists_trouble hread
      obtain ⟨trouble', rfl⟩ := exists_trouble hread'
      exact .refused trouble trouble'

/-- **The order and the spelling of options do not count.** -/
theorem sameOutcome_rewritten {reordered : List (Text × Json)} (hdistinct : Unambiguous options)
    (horder : options.Perm reordered) (hspelling : List.Forall₂ Respelled reordered options') :
    SameOutcome (ofOptions options) (ofOptions options') := by
  refine sameOutcome_of_iff fun s => ⟨fun hs => ?_, fun hs => ?_⟩
  · exact ofOptions_respelled hspelling (ofOptions_perm horder hdistinct hs)
  · have hback : List.Forall₂ Respelled options' reordered :=
      hspelling.flip.imp fun _ _ => Respelled.symm
    exact ofOptions_perm horder.symm (hdistinct.perm horder) (ofOptions_respelled hback hs)

/-! ## Settings as options -/

/-- Settings whose combined stylesheet is named by a rooted URL. -/
def IsRooted (s : Settings) : Prop :=
  s.combinedCssName.head? = some '/'

theorem head?_rooted (url : Text) : (rooted url).head? = some '/' := by
  unfold rooted
  split
  · assumption
  · rfl

theorem IsRooted.change (h : s.IsRooted) (change : Change) : (s.change change).IsRooted := by
  cases change with
  | combinedCssName url => exact head?_rooted url
  | _ => exact h

theorem IsRooted.replace (h : s.IsRooted) (changes : List Change) :
    (s.replace changes).IsRooted := by
  induction changes generalizing s with
  | nil => exact h
  | cons change changes ih => exact ih (h.change change)

/-- Settings that come from options and from changes to what came before. -/
inductive Obtained : Settings → Prop where
  | read {options : List (Text × Json)} {s : Settings} : ofOptions options = .ok s → Obtained s
  | replaced {s : Settings} (changes : List Change) : Obtained s → Obtained (s.replace changes)

theorem Obtained.isRooted (h : Obtained s) : s.IsRooted := by
  induction h with
  | read hs =>
    obtain ⟨changes, -, rfl⟩ := ofOptions_eq_ok_iff.1 hs
    have hdefault : IsRooted default := rfl
    exact hdefault.replace changes
  | replaced changes _ ih => exact ih.replace changes

/-- The form in which the value of a setting is written. -/
def Key.HasForm : Key → Json → Prop
  | .combinedCssName, value => ∃ path : Text, value = .string ('/' :: path)
  | .exclude, value => ∃ globs : List Text, value = .array (globs.map .string)
  | .target, value => value = .null ∨ ∃ target : Text, value = .string target
  | .metaDir, value => ∃ name : Text, value = .string name
  | _, value => ∃ flag : Bool, value = .bool flag

/-- **Rooted settings are written as one option for each setting**, in the form of that setting. -/
theorem IsRooted.forall₂_toOptions (h : s.IsRooted) :
    List.Forall₂ (fun key option => option.1 = key.name ∧ key.HasForm option.2)
      Key.all s.toOptions := by
  obtain ⟨path, hpath⟩ := List.head?_eq_some_iff.1 h
  have htarget : Key.target.HasForm ((s.target.map Json.string).getD .null) := by
    cases s.target with
    | none => exact .inl rfl
    | some target => exact .inr ⟨target, rfl⟩
  refine .cons ⟨rfl, _, rfl⟩ <| .cons ⟨rfl, _, rfl⟩ <| .cons ⟨rfl, _, rfl⟩ <| .cons ⟨rfl, _, rfl⟩ <|
    .cons ⟨rfl, _, rfl⟩ <| .cons ⟨rfl, path, by rw [hpath]⟩ <| .cons ⟨rfl, _, rfl⟩ <|
    .cons ⟨rfl, htarget⟩ <| .cons ⟨rfl, _, rfl⟩ .nil

/-- **Rooted settings written as options are read back.** -/
theorem IsRooted.ofOptions_toOptions (h : s.IsRooted) : ofOptions s.toOptions = .ok s := by
  have hasks {key : Key} {value : Json} {change : Change} (hwants : Wants key value change) :
      Asks (key.name, value) change := ⟨key, .inl rfl, hwants⟩
  have htarget : Wants .target ((s.target.map Json.string).getD .null) (.target s.target) := by
    cases s.target with
    | none => exact .noTarget
    | some target => exact .target target
  refine ofOptions_eq_ok_iff.2 ⟨[.minifyJs s.minifyJs, .minifyHtml s.minifyHtml,
    .minifyCss s.minifyCss, .preloadCss s.preloadCss, .preloadModules s.preloadModules,
    .combinedCssName s.combinedCssName, .exclude s.exclude, .target s.target,
    .metaDir s.metaDir], ?_, ?_⟩
  · exact .cons (hasks (.minifyJs _)) <| .cons (hasks (.minifyHtml _)) <|
      .cons (hasks (.minifyCss _)) <| .cons (hasks (.preloadCss _)) <|
      .cons (hasks (.preloadModules _)) <| .cons (hasks (.combinedCssName _)) <|
      .cons (hasks (.globs _)) <| .cons (hasks htarget) <| .cons (hasks (.metaDir _)) .nil
  · -- every setting is replaced, so nothing of the default settings is left
    have hname : rooted s.combinedCssName = s.combinedCssName := if_pos h
    simp only [Settings.replace, List.foldl_cons, List.foldl_nil, Settings.change, hname]

/-- **However options are written they give the same settings, and settings written as options give
themselves.** The options may come in any order and in either spelling, and some of them may be
wrong; the settings may come from options and any changes. -/
theorem ofOptions_canonical :
    (∀ options reordered options' : List (Text × Json), Unambiguous options →
      options.Perm reordered → List.Forall₂ Respelled reordered options' →
      SameOutcome (ofOptions options) (ofOptions options')) ∧
    ∀ s : Settings, Obtained s → s.IsRooted ∧
      List.Forall₂ (fun key option => option.1 = key.name ∧ key.HasForm option.2)
        Key.all s.toOptions ∧
        ofOptions s.toOptions = .ok s :=
  ⟨fun _ _ _ => sameOutcome_rewritten,
    fun _ h => ⟨h.isRooted, h.isRooted.forall₂_toOptions, h.isRooted.ofOptions_toOptions⟩⟩

/-- Three options, the same in another order and spelling, and two that are both wrong. -/
theorem canonical_threeOptions :
    let glob : Text × Json := ("exclude".toList, .string "*.map".toList)
    let flag := Json.bool false
    let sheet := Json.string "all.css".toList
    let s :=
      { default with
        minifyJs := false, exclude := ["*.map".toList], combinedCssName := "/all.css".toList }
    let s' := s.replace [.combinedCssName "b.css".toList, .target (some "es2020".toList)]
    SameOutcome (ofOptions [("minifyJS".toList, flag), glob, ("combined_css_name".toList, sheet)])
        (ofOptions [("combinedCSSName".toList, sheet), ("minify_js".toList, flag), glob]) ∧
      SameOutcome (ofOptions [("minifyJS".toList, .int 1), ("minify".toList, .null)])
        (ofOptions [("minify".toList, .null), ("minify_js".toList, .int 1)]) ∧
      Obtained s' ∧ s'.combinedCssName = "/b.css".toList ∧ ofOptions s'.toOptions = .ok s' := by
  intro glob flag sheet s s'
  have hread : ofOptions [("minifyJS".toList, flag), glob, ("combined_css_name".toList, sheet)] =
    .ok s := rfl
  have hobtained : Obtained s' := .replaced _ (.read hread)
  have hsheet : Respelled ("combined_css_name".toList, sheet) ("combinedCSSName".toList, sheet) :=
    ⟨rfl, .inr ⟨.combinedCssName, .inl rfl, .inr rfl⟩⟩
  have hflag (value : Json) : Respelled ("minifyJS".toList, value) ("minify_js".toList, value) :=
    ⟨rfl, .inr ⟨.minifyJs, .inr rfl, .inl rfl⟩⟩
  have hself (option : Text × Json) : Respelled option option := ⟨rfl, .inl rfl⟩
  have horder : [("minifyJS".toList, flag), glob, ("combined_css_name".toList, sheet)].Perm
      [("combined_css_name".toList, sheet), ("minifyJS".toList, flag), glob] :=
    @List.perm_append_comm _ [("minifyJS".toList, flag), glob] _
  refine ⟨ofOptions_canonical.1 _ _ _ (by decide) horder
      (.cons hsheet <| .cons (hflag _) <| .cons (hself _) .nil),
    ofOptions_canonical.1 _ _ _ (by decide) (.swap _ _ []) (.cons (hself _) <|
      .cons (hflag _) .nil), hobtained, rfl, (ofOptions_canonical.2 s' hobtained).2.2⟩

end Settings
end SiteOptimizer
