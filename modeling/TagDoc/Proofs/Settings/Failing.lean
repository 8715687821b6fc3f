import TagDoc.Proofs.Command.Reporting
import TagDoc.Proofs.FrontMatter.Recognition
import TagDoc.Proofs.Settings.Sources

/-!
# Kinds of faults of settings

Whoever loads settings expects them to fail because a value is of no use. They fail for other reasons where what the file
holds is no mapping, or one whose keys are not all texts, since nobody looks whether it is; and where options in JSON are
nested too deep.

## Main definitions

* `Settings.HoldsYaml`: a tree whose file with settings, if there is one, is read as YAML or refused as YAML
* `Settings.Sources.Misfit`: what there is in the sources that makes settings fail for another reason

## Main results

* `Settings.Sources.misfit_of_load`: settings that fail for another reason have one of these
* `Settings.Sources.exists_of_misfit`: settings with one of these fail
* `Settings.load_kind_iff`: of which kind the faults are
-/

namespace TagDoc

namespace Settings

/-- The file with settings, if there is one, has a text that is read as YAML, or that one of the stages of YAML refuses. -/
def HoldsYaml (yaml : Text → Except Yaml.Fault Value) (t : FileTree) : Prop :=
  t.contains file = true → ∃ text, t.readText file = .ok text ∧
    ∀ fault, yaml text = .error fault → fault.stage?.isSome = true

namespace Sources

/-- What the file holds counts, and is no mapping. -/
structure NoMapping (s : Sources) : Prop where
  truthy : s.file.isTruthy = true
  ne_map : ∀ es, s.file ≠ .map es

/-- What makes settings fail not because a value is of no use, with the kind of the fault; options in JSON may be nested to
`depth`. -/
inductive Misfit (depth : Nat) (s : Sources) : FaultKind → Prop
  /-- A variable is set, and what the file holds takes no entries. -/
  | takesNoEntry (hno : s.NoMapping) (henv : s.env.fields ≠ []) : Misfit depth s .type
  /-- A run is given something, and what the file holds does not take that. -/
  | takesNoEntries (hno : s.NoMapping) (henv : s.env.fields = []) (hgiven : s.overrides ≠ [])
      (hset : ∀ vs, s.file ≠ .set vs) : Misfit depth s .attribute
  /-- Nothing is put into what the file holds, or it is a set, and no fields can be read from it. -/
  | notMapping (hno : s.NoMapping) (henv : s.env.fields = []) (hgiven : s.overrides = [] ∨ ∃ vs, s.file = .set vs) :
      Misfit depth s .type
  /-- A key of the file is no text. -/
  | keyNotText {es : Entries} {e : Value × Value} (hfile : s.file = .map es) (he : e ∈ es) (hkey : isText e.1 = false) :
      Misfit depth s .type
  /-- The options that count are in JSON that is nested too deep. -/
  | optionsTooDeep (hs : s.Mergeable) {options : Value} {text : Text} {fault : Json.Fault}
      (hoptions : s.chosen? .markdownOptions = some options)
      (hread : readOptions? depth options = some (text, .error fault))
      (hdeep : isTooDeep fault = true) : Misfit depth s .work

variable {depth : Nat} {s : Sources} {kind : FaultKind} {v : Value} {entries : Entries}

/-! ### Values that are no mappings -/

theorem assign_nil (v : Value) : assign v [] = .ok v := by
  cases v <;> rfl

theorem assign_of_ne_map (hv : ∀ es, v ≠ .map es) (hne : entries ≠ []) : assign v entries = .error (.takesNoEntry v) := by
  cases entries with
  | nil => exact absurd rfl hne
  | cons e entries =>
    cases v with
    | map es => exact absurd rfl (hv es)
    | _ => rfl

theorem update_of_ne_map (hv : ∀ es, v ≠ .map es) (hset : ∀ vs, v ≠ .set vs) :
    update v entries = .error (.takesNoEntries v) := by
  cases v with
  | map es => exact absurd rfl (hv es)
  | set vs => exact absurd rfl (hset vs)
  | _ => rfl

theorem entriesOf_of_ne_map (hv : ∀ es, v ≠ .map es) : entriesOf v = .error (.notMapping v) := by
  cases v with
  | map es => exact absurd rfl (hv es)
  | _ => rfl

theorem NoMapping.merge_eq (h : s.NoMapping) :
    merge s.file s.env s.overrides = assign s.file s.env.fields >>= fun v =>
      (if s.overrides.isEmpty then pure v else update v (given s.overrides)) >>= entriesOf := by
  rw [merge, h.truthy, if_pos rfl]
  refine congrArg (assign s.file s.env.fields >>= ·) (funext fun v => ?_)
  split <;> rfl

theorem NoMapping.merge_eq_takesNoEntry (h : s.NoMapping) (henv : s.env.fields ≠ []) :
    merge s.file s.env s.overrides = .error (.takesNoEntry s.file) := by
  rw [h.merge_eq, assign_of_ne_map h.ne_map henv]
  rfl

theorem NoMapping.merge_eq_takesNoEntries (h : s.NoMapping) (henv : s.env.fields = []) (hgiven : s.overrides ≠ [])
    (hset : ∀ vs, s.file ≠ .set vs) : merge s.file s.env s.overrides = .error (.takesNoEntries s.file) := by
  rw [h.merge_eq, henv, assign_nil]
  change (if s.overrides.isEmpty then pure s.file else update s.file (given s.overrides)) >>= entriesOf = _
  rw [if_neg (mt List.isEmpty_iff.1 hgiven), update_of_ne_map h.ne_map hset]
  rfl

theorem NoMapping.merge_eq_notMapping (h : s.NoMapping) (henv : s.env.fields = [])
    (hgiven : s.overrides = [] ∨ ∃ vs, s.file = .set vs) :
    merge s.file s.env s.overrides = .error (.notMapping s.file) := by
  have hkept : (if s.overrides.isEmpty then pure s.file else update s.file (given s.overrides)) = .ok s.file := by
    rcases hgiven with hempty | ⟨vs, hvs⟩
    · rw [hempty]
      rfl
    · rw [hvs]
      split <;> rfl
  rw [h.merge_eq, henv, assign_nil]
  change (if s.overrides.isEmpty then pure s.file else update s.file (given s.overrides)) >>= entriesOf = _
  rw [hkept]
  exact entriesOf_of_ne_map h.ne_map

/-- What is put together of a file that holds no mapping is refused, and the fault is of the kind of its misfit. -/
theorem NoMapping.exists_merge_error (depth : Nat) (h : s.NoMapping) :
    ∃ f, merge s.file s.env s.overrides = .error f ∧ s.Misfit depth f.kind := by
  by_cases henv : s.env.fields = []
  · by_cases hgiven : s.overrides = [] ∨ ∃ vs, s.file = .set vs
    · exact ⟨_, h.merge_eq_notMapping henv hgiven, .notMapping h henv hgiven⟩
    · obtain ⟨hne, hset⟩ := not_or.1 hgiven
      have hset := not_exists.1 hset
      exact ⟨_, h.merge_eq_takesNoEntries henv hne hset, .takesNoEntries h henv hne hset⟩
  · exact ⟨_, h.merge_eq_takesNoEntry henv, .takesNoEntry h henv⟩

/-! ### Keys that are no texts -/

/-- Keys stay where entries are put in. -/
theorem exists_key_insert {es : Entries} {e : Value × Value} (he : e ∈ es) (key v : Value) :
    ∃ e' ∈ es.insert key v, e'.1 = e.1 := by
  induction es with
  | nil => cases he
  | cons first es ih =>
    obtain ⟨k, w⟩ := first
    rw [Entries.insert]
    rcases List.mem_cons.1 he with rfl | he
    · split
      · exact ⟨_, List.mem_cons_self, rfl⟩
      · exact ⟨_, List.mem_cons_self, rfl⟩
    · split
      · exact ⟨e, List.mem_cons_of_mem _ he, rfl⟩
      · obtain ⟨e', he', hkey⟩ := ih he
        exact ⟨e', List.mem_cons_of_mem _ he', hkey⟩

theorem exists_key_insertAll {es : Entries} {e : Value × Value} (he : e ∈ es) (puts : Entries) :
    ∃ e' ∈ es.insertAll puts, e'.1 = e.1 := by
  induction puts generalizing es e with
  | nil => exact ⟨e, he, rfl⟩
  | cons put puts ih =>
    obtain ⟨e', he', hkey⟩ := exists_key_insert he put.1 put.2
    obtain ⟨e'', he'', hkey'⟩ := ih he'
    exact ⟨e'', he'', hkey'.trans hkey⟩

/-- A file that has an entry holds a mapping. -/
theorem file_eq_of_mem_entries {e : Value × Value} (he : e ∈ s.entries) : s.file = .map s.entries := by
  rw [entries] at he ⊢
  cases hfile : s.file with
  | map es => rfl
  | _ =>
    rw [hfile] at he
    cases he

theorem merge_eq_keyNotText {es : Entries} {e : Value × Value} (hfile : s.file = .map es) (he : e ∈ es)
    (hkey : isText e.1 = false) : merge s.file s.env s.overrides = .error .keyNotText := by
  have hentries : s.entries = es := by rw [Sources.entries, hfile]
  obtain ⟨e', he', hkey'⟩ := exists_key_insertAll he s.env.fields
  obtain ⟨e'', he'', hkey''⟩ := exists_key_insertAll he' (given s.overrides)
  have hno : ¬ (s.merged.all fun e => isText e.1) = true := by
    intro hall
    rw [merged, hentries] at hall
    have htext := List.all_eq_true.1 hall e'' he''
    rw [hkey'', hkey', hkey] at htext
    cases htext
  rw [merge_of_mapping (.inr ⟨es, hfile⟩)]
  exact if_neg hno

/-! ### All sources -/

/-- Sources can be put together unless the file holds no mapping, or one of its keys is no text. -/
theorem mergeable_or (hoverrides : s.overrides.OfTexts) :
    s.Mergeable ∨ s.NoMapping ∨ ∃ es e, s.file = .map es ∧ e ∈ es ∧ isText e.1 = false := by
  by_cases htruthy : s.file.isTruthy = true
  · by_cases hmap : ∃ es, s.file = .map es
    · obtain ⟨es, hes⟩ := hmap
      by_cases htext : ∀ e ∈ es, isText e.1 = true
      · exact .inl ⟨.inr ⟨es, hes, htext⟩, hoverrides⟩
      · simp only [not_forall, Bool.not_eq_true, exists_prop] at htext
        obtain ⟨e, he, hkey⟩ := htext
        exact .inr (.inr ⟨es, e, hes, he, hkey⟩)
    · exact .inr (.inl ⟨htruthy, not_exists.1 hmap⟩)
  · exact .inl ⟨.inl (Bool.not_eq_true _ ▸ htruthy), hoverrides⟩

variable {yaml : Text → Except Yaml.Fault Value} {t : FileTree}

theorem load_of_merge_error {f : MergeFault} (hfile : readFile yaml t = .ok s.file)
    (h : merge s.file s.env s.overrides = .error f) : load yaml depth t s.env s.overrides = .error (.merge f) := by
  rw [load, hfile]
  change (merge s.file s.env s.overrides).mapError ConfigFault.merge >>= _ = _
  rw [h]
  rfl

/-- Settings that fail although no value is of no use have a misfit among their sources. -/
theorem misfit_of_load {fault : ConfigFault} (hfile : readFile yaml t = .ok s.file) (hoverrides : s.overrides.OfTexts)
    (h : load yaml depth t s.env s.overrides = .error fault) (hkind : fault.kind ≠ .value) : s.Misfit depth fault.kind := by
  rcases mergeable_or hoverrides with hs | hno | ⟨es, e, hes, he, hkey⟩
  · rw [load_eq hfile hs] at h
    obtain ⟨f, hf, rfl⟩ := mapError_eq_error_iff.1 h
    cases f with
    | invalid report => exact absurd rfl hkind
    | optionsTooDeep text fault =>
      obtain ⟨options, hoptions, hread, hdeep⟩ := given_of_optionsTooDeep hf
      exact .optionsTooDeep hs ((hs.get?_merged .markdownOptions).symm.trans hoptions) hread hdeep
  · obtain ⟨f, hf, hmisfit⟩ := hno.exists_merge_error depth
    rw [load_of_merge_error hfile hf] at h
    obtain rfl := Except.error.inj h
    exact hmisfit
  · rw [load_of_merge_error hfile (merge_eq_keyNotText hes he hkey)] at h
    obtain rfl := Except.error.inj h
    exact .keyNotText hes he hkey

/-- With a misfit among the sources, there are no settings. -/
theorem exists_of_misfit (hfile : readFile yaml t = .ok s.file) (h : s.Misfit depth kind) :
    ∃ fault, load yaml depth t s.env s.overrides = .error fault ∧ fault.kind = kind := by
  cases h with
  | takesNoEntry hno henv => exact ⟨_, load_of_merge_error hfile (hno.merge_eq_takesNoEntry henv), rfl⟩
  | takesNoEntries hno henv hgiven hset =>
    exact ⟨_, load_of_merge_error hfile (hno.merge_eq_takesNoEntries henv hgiven hset), rfl⟩
  | notMapping hno henv hgiven => exact ⟨_, load_of_merge_error hfile (hno.merge_eq_notMapping henv hgiven), rfl⟩
  | keyNotText hes he hkey => exact ⟨_, load_of_merge_error hfile (merge_eq_keyNotText hes he hkey), rfl⟩
  | @optionsTooDeep hs options text fault hoptions hread hdeep =>
    have hget : Entries.getText? s.merged "markdown_options".toList = some options :=
      (hs.get?_merged .markdownOptions).trans hoptions
    have hfault : depthFault? depth (some options) = some (.optionsTooDeep text fault) :=
      depthFault?_eq_some_iff.2 ⟨options, text, fault, rfl, hread, hdeep, rfl⟩
    refine ⟨.settings (.optionsTooDeep text fault), ?_, rfl⟩
    rw [load_eq hfile hs, ofEntries, hget, hfault]
    rfl

end Sources

variable {yaml : Text → Except Yaml.Fault Value} {t : FileTree}

/-- A file that holds YAML is refused as a value of no use, if at all. -/
theorem HoldsYaml.kind_of_readFile {fault : ConfigFault} (h : HoldsYaml yaml t) (hread : readFile yaml t = .error fault) :
    fault.kind = .value := by
  rw [readFile] at hread
  split at hread
  · rename_i hthere
    obtain ⟨text, htext, hstage⟩ := h hthere
    rw [htext] at hread
    obtain ⟨f, hf, rfl⟩ := mapError_eq_error_iff.1 hread
    exact f.kind_of_stage (hstage f hf)
  · cases hread

/-- Where the file holds YAML, if there is one, settings either load, or fail because a value is of no use, or have a
misfit among their sources, and then they do fail, with a fault of its kind. -/
theorem load_kind_iff (yaml : Text → Except Yaml.Fault Value) (depth : Nat) (hyaml : HoldsYaml yaml t) (env : Environment)
    {overrides : Entries} (hoverrides : overrides.OfTexts) (kind : FaultKind) (hkind : kind ≠ .value) :
    (∃ fault, load yaml depth t env overrides = .error fault ∧ fault.kind = kind) ↔
      ∃ v, readFile yaml t = .ok v ∧ (⟨v, env, overrides⟩ : Sources).Misfit depth kind := by
  constructor
  · rintro ⟨fault, hload, rfl⟩
    cases hfile : readFile yaml t with
    | error f =>
      rw [load, hfile] at hload
      obtain rfl : f = fault := Except.error.inj hload
      exact absurd (hyaml.kind_of_readFile hfile) hkind
    | ok v =>
      let s : Sources := ⟨v, env, overrides⟩
      exact ⟨v, rfl, Sources.misfit_of_load (s := s) hfile hoverrides hload hkind⟩
  · rintro ⟨v, hfile, hmisfit⟩
    exact Sources.exists_of_misfit hfile hmisfit

theorem holdsYaml_of_loads
    (h : (t.readText file).toOption.any (fun text => (yaml text).toOption.isSome) = true) : HoldsYaml yaml t := by
  intro _
  obtain ⟨text, htext, hloads⟩ := (Option.any_eq_true _ _).1 h
  obtain ⟨v, hv⟩ := exists_eq_ok_of_isSome hloads
  refine ⟨text, eq_ok_of_toOption htext, fun fault hfault => ?_⟩
  rw [hv] at hfault
  cases hfault

/-- A key of the file that is read as a truth value makes settings fail, whatever else is given. -/
theorem load_kind_of_truth_value :
    let t := FileTree.ofTexts [("config.yaml", "app_name: docs\non: 1\n")]
    let env : Environment := [("DOCBLOCK_LOG_LEVEL".toList, "INFO".toList)]
    let overrides : Entries := [(.str "output_dir".toList, .str "site".toList)]
    HoldsYaml Host.usual.loadConfig t ∧ overrides.OfTexts ∧
      ∃ fault, load Host.usual.loadConfig Host.usual.optionsDepth t env overrides = .error fault ∧ fault.kind = .type := by
  intro t env overrides
  have hyaml : HoldsYaml Host.usual.loadConfig t := holdsYaml_of_loads (by decide +kernel)
  have hoverrides : overrides.OfTexts := ⟨by decide, by simp [overrides]⟩
  have hread : (readFile Host.usual.loadConfig t).toOption.any (fun v =>
      (Sources.mk v env overrides).entries.any fun e => !isText e.1) = true := by decide +kernel
  obtain ⟨v, hv, hkey⟩ := (Option.any_eq_true _ _).1 hread
  obtain ⟨e, he, hkey⟩ := List.any_eq_true.1 hkey
  refine ⟨hyaml, hoverrides, (load_kind_iff Host.usual.loadConfig Host.usual.optionsDepth hyaml env hoverrides .type
    nofun).2 ⟨v, eq_ok_of_toOption hv, ?_⟩⟩
  exact .keyNotText (Sources.file_eq_of_mem_entries he) he (by simpa using hkey)

/-- A list in the file is no value of no use, but a fault of another kind. -/
theorem not_forall_load_kind :
    ¬ ∀ (t : FileTree) (env : Environment) (overrides : Entries),
      HoldsYaml Host.usual.loadConfig t → overrides.OfTexts →
      ∀ fault, load Host.usual.loadConfig Host.usual.optionsDepth t env overrides = .error fault →
        fault.kind = .value := by
  intro h
  let t := FileTree.ofTexts [("config.yaml", "- a\n")]
  have hyaml : HoldsYaml Host.usual.loadConfig t := holdsYaml_of_loads (by decide +kernel)
  have hload : (match load Host.usual.loadConfig Host.usual.optionsDepth t [] [] with
    | .error fault => decide (fault.kind = .type)
    | .ok _ => false) = true := by decide +kernel
  have hvalue := h t [] [] hyaml .nil
  cases hresult : load Host.usual.loadConfig Host.usual.optionsDepth t [] [] with
  | ok settings =>
    rw [hresult] at hload
    cases hload
  | error fault =>
    rw [hresult] at hload
    have hkind := of_decide_eq_true hload
    rw [hvalue fault hresult] at hkind
    cases hkind

end Settings

end TagDoc
