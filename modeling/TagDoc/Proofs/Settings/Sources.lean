import TagDoc.Proofs.Files.Tree
import TagDoc.Proofs.Settings.Field
import TagDoc.Proofs.Step

/-!
# Which source counts

A field of settings can be set for a single run, by a variable or in the file with settings. It holds what the first of
these sets it to. What the others say about it is not looked at, and could as well be of no use: whether there are
settings, and which they are, depends on one value for each field.

## Main definitions

* `Settings.Sources`: what the three sources say
* `Settings.Sources.chosen?`: what is set for a field by the first source that sets it
* `Settings.Sources.SameInSight`: sources that differ only in what is hidden

## Main results

* `Settings.merge_eq`: what comes of putting the sources together
* `Settings.Sources.get?_merged`: what then stands under the name of a field
* `Settings.load_eq_ok_iff`, `Settings.exists_load_eq_error_iff`: the settings by what is chosen for each field
* `Settings.load_by_precedence`: the settings that the sources give, and what they do not depend on
-/

namespace TagDoc

/-- What the variable for a field says, if it is not empty. -/
def Environment.value? (env : Environment) (field : String) : Option Value :=
  match env.lookup (variableName field) with
  | some [] | none => none
  | some t => some (.str t)

namespace Settings

/-- What the three sources say: the value of the file, the variables, and what is given for a run. -/
structure Sources where
  file : Value
  env : Environment
  overrides : Entries

namespace Sources

variable {s s' : Sources} {f : Field}

/-- What a run is given for a field. Null is not given. -/
def given? (s : Sources) (f : Field) : Option Value := (s.overrides.get? f.key).filter fun v => !(v matches .null)

/-- What the variable for a field says. -/
def exported? (s : Sources) (f : Field) : Option Value := s.env.value? f.name

/-- The entries of the file; a file that holds no mapping has none. -/
def entries (s : Sources) : Entries :=
  match s.file with
  | .map es => es
  | _ => []

/-- What the file says about a field. -/
def entry? (s : Sources) (f : Field) : Option Value := s.entries.get? f.key

/-- What is set for a field by the first source that sets it. -/
def chosen? (s : Sources) (f : Field) : Option Value := (s.given? f).or ((s.exported? f).or (s.entry? f))

/-- The file holds a mapping from texts or a value that does not count, and so does a file that is not there. What is
given for a run is a mapping from texts. -/
structure Mergeable (s : Sources) : Prop where
  file : s.file.isTruthy = false ∨ ∃ es, s.file = .map es ∧ ∀ e ∈ es, isText e.1 = true
  overrides : s.overrides.OfTexts

/-- Sources that say the same about each field, but for what is hidden by a higher source, and that may say anything about
what is no field. -/
def SameInSight (s s' : Sources) : Prop :=
  ∀ f : Field, s.given? f = s'.given? f ∧
    (s.given? f = none → s.exported? f = s'.exported? f ∧ (s.exported? f = none → s.entry? f = s'.entry? f))

theorem SameInSight.chosen?_eq (h : s.SameInSight s') (f : Field) : s.chosen? f = s'.chosen? f := by
  obtain ⟨hgiven, hlower⟩ := h f
  rw [chosen?, chosen?, ← hgiven]
  cases hsome : s.given? f with
  | some v => rfl
  | none =>
    obtain ⟨hvariable, hlowest⟩ := hlower hsome
    rw [← hvariable]
    cases hset : s.exported? f with
    | some v => rfl
    | none => rw [hlowest hset]

/-! ### Putting sources together -/

/-- The entries of the file, with those of the variables and then those that are given put into them. -/
def merged (s : Sources) : Entries := (s.entries.insertAll s.env.fields).insertAll (given s.overrides)

theorem fields_eq (env : Environment) : env.fields = Entries.underNames env.value? fieldNames := by
  refine congrArg (List.filterMap · fieldNames) (funext fun name => ?_)
  rw [Environment.value?]
  cases env.lookup (variableName name) with
  | none => rfl
  | some t => cases t <;> rfl

theorem ofTexts_fields (env : Environment) : env.fields.OfTexts :=
  fields_eq env ▸ Entries.ofTexts_underNames Field.nodup_fieldNames

theorem get?_fields (s : Sources) (f : Field) : s.env.fields.get? f.key = s.exported? f := by
  rw [fields_eq, Field.key, Entries.get?_underNames Field.nodup_fieldNames f.name_mem_fieldNames, exported?]

theorem Mergeable.get?_given (h : s.Mergeable) (f : Field) : (given s.overrides).get? f.key = s.given? f :=
  Entries.get?_filter h.overrides (show isText f.key = true from rfl) fun v => !(v matches .null)

theorem Mergeable.ofTexts_given (h : s.Mergeable) : (given s.overrides).OfTexts := h.overrides.filter _

/-- Under the name of a field stands what the first source says that sets it. -/
theorem Mergeable.get?_merged (h : s.Mergeable) (f : Field) : s.merged.get? f.key = s.chosen? f := by
  rw [merged, Entries.get?_insertAll h.ofTexts_given rfl, Entries.get?_insertAll (ofTexts_fields _) rfl, h.get?_given,
    s.get?_fields]
  rfl

theorem Mergeable.text_entries (h : s.Mergeable) : ∀ e ∈ s.entries, isText e.1 = true := by
  rcases h.file with hfalse | ⟨es, hes, htext⟩
  · rw [entries]
    split
    · rename_i es hes
      rw [hes, Value.isTruthy, Bool.not_eq_false', List.isEmpty_iff] at hfalse
      exact hfalse ▸ nofun
    · exact nofun
  · rw [entries, hes]
    exact htext

theorem Mergeable.text_merged (h : s.Mergeable) : ∀ e ∈ s.merged, isText e.1 = true :=
  Entries.text_insertAll h.ofTexts_given.text (Entries.text_insertAll (ofTexts_fields _).text h.text_entries)

/-- A file that counts as nothing is an empty mapping. -/
theorem mapping_eq (h : s.file.isTruthy = false ∨ ∃ es, s.file = .map es) :
    (if s.file.isTruthy then s.file else .map []) = .map s.entries := by
  rcases h with hfalse | ⟨es, hes⟩
  · rw [hfalse, if_neg Bool.false_ne_true, entries]
    split
    · rename_i es hes
      rw [hes, Value.isTruthy, Bool.not_eq_false', List.isEmpty_iff] at hfalse
      rw [hfalse]
    · rfl
  · rw [entries, hes]
    cases es <;> rfl

end Sources

theorem assign_map (es entries : Entries) : assign (.map es) entries = .ok (.map (es.insertAll entries)) := by
  cases entries <;> rfl

/-- Entries are put into a mapping whatever its keys are, which are looked at in the end. -/
theorem merge_of_mapping {s : Sources} (h : s.file.isTruthy = false ∨ ∃ es, s.file = .map es) :
    merge s.file s.env s.overrides = entriesOf (.map s.merged) := by
  rw [merge, Sources.mapping_eq h, assign_map]
  change (if s.overrides.isEmpty then entriesOf (.map (s.entries.insertAll s.env.fields)) else
    entriesOf (.map s.merged)) = _
  split
  · rename_i hempty
    rw [Sources.merged, List.isEmpty_iff.1 hempty]
    rfl
  · rfl

/-- Sources that are mappings from texts can be put together. -/
theorem merge_eq {s : Sources} (h : s.Mergeable) : merge s.file s.env s.overrides = .ok s.merged := by
  rw [merge_of_mapping (h.file.imp_right fun ⟨es, hes, _⟩ => ⟨es, hes⟩)]
  exact if_pos (List.all_eq_true.2 h.text_merged)

variable {depth : Nat} {t : FileTree} {s : Sources}

theorem load_eq {yaml : Text → Except Yaml.Fault Value} (hfile : readFile yaml t = .ok s.file) (hs : s.Mergeable) :
    load yaml depth t s.env s.overrides = (ofEntries depth s.merged).mapError .settings := by
  rw [load, hfile]
  change (merge s.file s.env s.overrides).mapError ConfigFault.merge >>= _ = _
  rw [merge_eq hs]
  rfl

/-- Sources give some settings if each field is settled by what the first source says that sets it. -/
theorem load_eq_ok_iff {yaml : Text → Except Yaml.Fault Value} (hfile : readFile yaml t = .ok s.file) (hs : s.Mergeable)
    {settings : Settings} :
    load yaml depth t s.env s.overrides = .ok settings ↔
      ∀ f : Field, f.Settles depth (s.chosen? f) (f.get settings) := by
  simp only [load_eq hfile hs, mapError_eq_ok_iff, ofEntries_eq_ok_iff, hs.get?_merged]

/-- Sources give no settings if a field refuses what the first source says that sets it. -/
theorem exists_load_eq_error_iff {yaml : Text → Except Yaml.Fault Value} (hfile : readFile yaml t = .ok s.file)
    (hs : s.Mergeable) :
    (∃ fault, load yaml depth t s.env s.overrides = .error fault) ↔
      ∃ f : Field, f.Rejects depth (s.chosen? f) := by
  simp only [load_eq hfile hs, mapError_eq_error_iff, ← hs.get?_merged]
  rw [← exists_ofEntries_eq_error_iff]
  constructor
  · rintro ⟨_, fault, hfault, -⟩
    exact ⟨fault, hfault⟩
  · rintro ⟨fault, hfault⟩
    exact ⟨_, fault, hfault, rfl⟩

/-- Each field of the settings holds what its check makes of what the first source says that sets it, or else what it
holds by default; and there are no settings just if a field refuses that. What a higher source hides and what is no
field can be anything: neither the settings nor the fault change with it. -/
theorem load_by_precedence (yaml : Text → Except Yaml.Fault Value) (depth : Nat)
    (hfile : readFile yaml t = .ok s.file) (hs : s.Mergeable) :
    (∀ settings, load yaml depth t s.env s.overrides = .ok settings ↔
        ∀ f : Field, f.Settles depth (s.chosen? f) (f.get settings)) ∧
      ((∃ fault, load yaml depth t s.env s.overrides = .error fault) ↔ ∃ f : Field, f.Rejects depth (s.chosen? f)) ∧
      ∀ t' s', readFile yaml t' = .ok s'.file → s'.Mergeable → s.SameInSight s' →
        load yaml depth t' s'.env s'.overrides = load yaml depth t s.env s.overrides := by
  refine ⟨fun settings => load_eq_ok_iff hfile hs, exists_load_eq_error_iff hfile hs, fun t' s' hfile' hs' hsame => ?_⟩
  have hentries : ofEntries depth s'.merged = ofEntries depth s.merged := ofEntries_congr fun f => by
    rw [hs'.get?_merged, hs.get?_merged, hsame.chosen?_eq]
  rw [load_eq hfile hs, load_eq hfile' hs', hentries]

/-! ### Files of texts -/

/-- The entries of a mapping, if it holds nothing but texts under texts. -/
def textEntries? : Entries → Option (List (Text × Text))
  | [] => some []
  | (.str k, .str v) :: es => (textEntries? es).map ((k, v) :: ·)
  | _ => none

/-- The entries with the given texts. -/
def ofTextEntries (pairs : List (Text × Text)) : Entries := pairs.map fun pair => (.str pair.1, .str pair.2)

theorem eq_of_textEntries? {es : Entries} {pairs : List (Text × Text)} (h : textEntries? es = some pairs) :
    es = ofTextEntries pairs := by
  fun_induction textEntries? es generalizing pairs with
  | case1 =>
    obtain rfl := Option.some.inj h
    rfl
  | case2 k v es ih =>
    obtain ⟨rest, hrest, rfl⟩ := Option.map_eq_some_iff.1 h
    rw [ih hrest]
    rfl
  | case3 => cases h

/-- What a file says that holds texts can be computed. -/
theorem readFile_eq_of_texts {yaml : Text → Except Yaml.Fault Value} {pairs : List (Text × Text)}
    (h : (readFile yaml t).toOption.bind (fun | .map es => textEntries? es | _ => none) = some pairs) :
    readFile yaml t = .ok (.map (ofTextEntries pairs)) := by
  obtain ⟨v, hv, hpairs⟩ := Option.bind_eq_some_iff.1 h
  rw [eq_ok_of_toOption hv]
  cases v with
  | map es => rw [eq_of_textEntries? hpairs]
  | _ => cases hpairs

theorem text_ofTextEntries (pairs : List (Text × Text)) : ∀ e ∈ ofTextEntries pairs, isText e.1 = true := by
  intro e he
  obtain ⟨pair, -, rfl⟩ := List.mem_map.1 he
  rfl

/-- A format that is none counts for nothing in the file where a variable gives another, and neither does an entry that is
no field. What is null is not given. -/
theorem load_by_precedence_over_bad_format :
    let t := FileTree.ofTexts [("config.yaml", "log_format: loud\nlog_level: ERROR\nauthor: x\n")]
    let t' := FileTree.ofTexts [("config.yaml", "log_level: ERROR\n")]
    let env : Environment := [("DOCBLOCK_LOG_FORMAT".toList, "json".toList)]
    let overrides : Entries := [(.str "output_dir".toList, .null), (.str "app_name".toList, .str "docs".toList)]
    let yaml := Host.usual.loadConfig
    ∃ settings, load yaml 100 t env overrides = .ok settings ∧ settings.logFormat = .json ∧
      settings.logLevel = "ERROR".toList ∧ settings.appName = "docs".toList ∧ settings.outputDir = "dist".toList ∧
      load yaml 100 t' env overrides = .ok settings := by
  intro t t' env overrides yaml
  let level : Text × Text := ("log_level".toList, "ERROR".toList)
  let pairs : List (Text × Text) := [("log_format".toList, "loud".toList), level, ("author".toList, "x".toList)]
  let s : Sources := ⟨.map (ofTextEntries pairs), env, overrides⟩
  let s' : Sources := ⟨.map (ofTextEntries [level]), env, overrides⟩
  have hfile : readFile yaml t = .ok s.file := readFile_eq_of_texts (by decide +kernel)
  have hfile' : readFile yaml t' = .ok s'.file := readFile_eq_of_texts (by decide +kernel)
  have hoverrides : overrides.OfTexts := ⟨by decide, by simp [overrides]⟩
  have hs : s.Mergeable := ⟨.inr ⟨_, rfl, text_ofTextEntries _⟩, hoverrides⟩
  have hs' : s'.Mergeable := ⟨.inr ⟨_, rfl, text_ofTextEntries _⟩, hoverrides⟩
  have hsame : s.SameInSight s' := by
    intro f
    refine ⟨rfl, fun _ => ⟨rfl, fun hnone => ?_⟩⟩
    cases f with
    | logFormat => cases hnone
    | _ => rfl
  obtain ⟨hok, -, hcongr⟩ := load_by_precedence yaml 100 hfile hs
  let settings : Settings :=
    { Settings.default with appName := "docs".toList, logLevel := "ERROR".toList, logFormat := .json }
  have hload : load yaml 100 t env overrides = .ok settings := by
    refine (hok settings).2 fun f => ?_
    cases f with
    | appName => exact ⟨0, rfl⟩
    | logLevel => exact ⟨0, rfl⟩
    | logFormat => exact ⟨0, rfl⟩
    | _ => rfl
  exact ⟨settings, hload, rfl, rfl, rfl, rfl, (hcongr t' s' hfile' hs' hsame).trans hload⟩

end Settings

end TagDoc
