import Mathlib.Tactic.Common
import TagDoc.Proofs.Schema.Check

/-!
# The fields of settings

Each field of settings has a name, a check of its own and a value that holds where it is not set. To read settings from
the entries of a mapping is to read each field by itself: what stands under one name tells nothing about the others. How
deep options in JSON may be nested is fixed throughout.

## Main definitions

* `Settings.Field`, with `Field.name`, `Field.check`, `Field.default` and `Field.get`
* `Settings.Field.Settles`: what a field holds, by what is set for it
* `Settings.Field.Rejects`: what is set for a field is refused

## Main results

* `Settings.ofEntries_eq_ok_iff`: the settings that entries give hold what each field is set to
* `Settings.exists_ofEntries_eq_error_iff`: there are none just if a field refuses what is set for it
* `Settings.ofEntries_congr`: nothing but what is set for the fields counts
-/

namespace TagDoc

/-! ### What fields give -/

section Gives

variable {α β γ : Type} {whole : Value} {es : Entries}

theorem Fields.gives_present_iff {name : String} {check : Check α} {v : Value} {a : α} :
    (present name check v).Gives a ↔ (check v).Gives a := by
  rw [present]
  cases check v with
  | error issues => exact iff_of_false Checked.not_gives_error Checked.not_gives_error
  | ok r => exact Checked.gives_ok_iff.trans (Checked.gives_ok_iff (r := r)).symm

theorem Fields.gives_map_iff {f : α → β} {x : Fields α} {b : β} :
    ((f <$> x).read whole es).Gives b ↔ ∃ a, (x.read whole es).Gives a ∧ f a = b := by
  refine Checked.gives_both_iff.trans ⟨?_, ?_⟩
  · rintro ⟨g, a, ⟨n, hg⟩, ha, rfl⟩
    obtain ⟨rfl, -⟩ := Prod.mk.inj (Except.ok.inj hg)
    exact ⟨a, ha, rfl⟩
  · rintro ⟨a, ha, rfl⟩
    exact ⟨f, a, ⟨0, rfl⟩, ha, rfl⟩

theorem Fields.gives_seq_iff {f : Fields (α → β)} {x : Fields α} {b : β} :
    ((f <*> x).read whole es).Gives b ↔ ∃ g a, (f.read whole es).Gives g ∧ (x.read whole es).Gives a ∧ g a = b :=
  Checked.gives_both_iff

/-- Some fields are read alike from two mappings. -/
def Fields.ReadsAlike (x : Fields α) (es es' : Entries) : Prop := ∀ whole whole', x.read whole es = x.read whole' es'

theorem Fields.ReadsAlike.map {f : α → β} {x : Fields α} {es es' : Entries} (h : x.ReadsAlike es es') :
    (f <$> x).ReadsAlike es es' :=
  fun whole whole' => congrArg (Checked.both _ _) (h whole whole')

theorem Fields.ReadsAlike.seq {f : Fields (α → β)} {x : Fields α} {es es' : Entries} (hf : f.ReadsAlike es es')
    (hx : x.ReadsAlike es es') : (f <*> x).ReadsAlike es es' :=
  fun whole whole' => congrArg₂ (Checked.both _) (hf whole whole') (hx whole whole')

theorem Fields.ReadsAlike.optional {name : String} {a : α} {check : Check α} {es es' : Entries}
    (h : Entries.getText? es name.toList = Entries.getText? es' name.toList) :
    (Fields.optional name a check).ReadsAlike es es' := by
  intro whole whole'
  simp only [Fields.optional, h]

end Gives

namespace Settings

/-- The fields of settings. -/
inductive Field where
  | appName
  | markdownPreset
  | markdownOptions
  | reservedTags
  | outputDir
  | logLevel
  | logFormat
  deriving DecidableEq, Repr

namespace Field

/-- What a field holds. -/
@[reducible]
def Content : Field → Type
  | appName => RawText
  | markdownPreset => RawText
  | markdownOptions => Entries
  | reservedTags => List RawText
  | outputDir => RawText
  | logLevel => RawText
  | logFormat => LogFormat

/-- The name under which a field is set. -/
def name : Field → String
  | appName => "app_name"
  | markdownPreset => "markdown_preset"
  | markdownOptions => "markdown_options"
  | reservedTags => "reserved_tags"
  | outputDir => "output_dir"
  | logLevel => "log_level"
  | logFormat => "log_format"

/-- The name of a field as a key. -/
def key (f : Field) : Value := .str f.name.toList

theorem key_injective : Function.Injective key := by
  intro f g h
  have hname : f.name = g.name := String.toList_injective (Value.str.inj h)
  cases f <;> cases g <;> simp_all [name]

/-- What may be set for a field. -/
def check (depth : Nat) : (f : Field) → Check f.Content
  | appName => Check.rawText
  | markdownPreset => Check.rawText
  | markdownOptions => checkOptions depth
  | reservedTags => checkNames
  | outputDir => Check.rawText
  | logLevel => Check.rawText
  | logFormat => checkFormat

/-- What a field holds in some settings. -/
def get : (f : Field) → Settings → f.Content
  | appName => Settings.appName
  | markdownPreset => Settings.markdownPreset
  | markdownOptions => Settings.markdownOptions
  | reservedTags => Settings.reservedTags
  | outputDir => Settings.outputDir
  | logLevel => Settings.logLevel
  | logFormat => Settings.logFormat

/-- The settings in which each field holds what it is given. -/
def settings (content : (f : Field) → f.Content) : Settings where
  appName := content appName
  markdownPreset := content markdownPreset
  markdownOptions := content markdownOptions
  reservedTags := content reservedTags
  outputDir := content outputDir
  logLevel := content logLevel
  logFormat := content logFormat

theorem get_settings (content : (f : Field) → f.Content) (f : Field) : f.get (settings content) = content f := by
  cases f <;> rfl

theorem name_mem_fieldNames (f : Field) : f.name ∈ fieldNames := by
  cases f <;> simp [name, fieldNames]

theorem nodup_fieldNames : fieldNames.Nodup := by
  simp [fieldNames]

/-- A field holds `a` if what is set for it stands for `a`, or if nothing is set and it holds `a` by default. -/
def Settles (depth : Nat) (f : Field) (o : Option Value) (a : f.Content) : Prop :=
  match o with
  | some v => (f.check depth v).Gives a
  | none => a = f.get Settings.default

/-- A field refuses what is set for it. -/
def Rejects (depth : Nat) (f : Field) (o : Option Value) : Prop :=
  ∃ v issues, o = some v ∧ f.check depth v = .error issues

variable {depth : Nat}

theorem exists_settles_or_rejects (f : Field) (o : Option Value) : (∃ a, f.Settles depth o a) ∨ f.Rejects depth o := by
  cases o with
  | none => exact .inl ⟨_, rfl⟩
  | some v =>
    cases h : f.check depth v with
    | ok r => exact .inl ⟨r.1, r.2, h⟩
    | error issues => exact .inr ⟨v, issues, rfl, h⟩

theorem Settles.not_rejects {f : Field} {o : Option Value} {a : f.Content} (h : f.Settles depth o a) :
    ¬ f.Rejects depth o := by
  rintro ⟨v, issues, rfl, hrefused⟩
  obtain ⟨n, hgiven⟩ := h
  rw [hrefused] at hgiven
  cases hgiven

theorem Settles.unique {f : Field} {o : Option Value} {a b : f.Content} (ha : f.Settles depth o a)
    (hb : f.Settles depth o b) : a = b := by
  cases o with
  | none => exact ha.trans (Eq.symm hb)
  | some v =>
    obtain ⟨m, ha⟩ := ha
    obtain ⟨n, hb⟩ := hb
    exact (Prod.mk.inj (Except.ok.inj (ha.symm.trans hb))).1

/-- A field that may be left out is read by its check alone. -/
theorem gives_optional_iff (f : Field) (whole : Value) (es : Entries) {a : f.Content} :
    ((Fields.optional f.name (f.get Settings.default) (f.check depth)).read whole es).Gives a ↔
      f.Settles depth (es.get? f.key) a := by
  change Checked.Gives (match Entries.get? es f.key with
    | some v => Fields.present f.name (f.check depth) v
    | none => Checked.accept (f.get Settings.default)) a ↔ _
  cases es.get? f.key with
  | none =>
    constructor
    · rintro ⟨n, h⟩
      exact (Prod.mk.inj (Except.ok.inj h)).1.symm
    · intro h
      exact ⟨0, congrArg (fun a => Except.ok (a, 0)) (Eq.symm h)⟩
  | some v => exact Fields.gives_present_iff

end Field

variable {depth : Nat} {s : Settings} {es es' : Entries}

/-! ### All fields -/

/-- The fields are read one by one. -/
theorem gives_fields_iff (whole : Value) :
    ((fields depth).read whole es).Gives s ↔ ∀ f : Field, f.Settles depth (es.get? f.key) (f.get s) := by
  have hread (f : Field) {a : f.Content} := @Field.gives_optional_iff depth f whole es a
  simp only [fields, Fields.gives_seq_iff, Fields.gives_map_iff]
  -- what is read last stands outermost
  constructor
  · rintro ⟨_, format, ⟨_, level, ⟨_, dir, ⟨_, tags, ⟨_, options, ⟨_, preset, ⟨app, happ, rfl⟩, hpreset, rfl⟩, hoptions, rfl⟩,
      htags, rfl⟩, hdir, rfl⟩, hlevel, rfl⟩, hformat, rfl⟩ f
    cases f with
    | appName => exact (hread .appName).1 happ
    | markdownPreset => exact (hread .markdownPreset).1 hpreset
    | markdownOptions => exact (hread .markdownOptions).1 hoptions
    | reservedTags => exact (hread .reservedTags).1 htags
    | outputDir => exact (hread .outputDir).1 hdir
    | logLevel => exact (hread .logLevel).1 hlevel
    | logFormat => exact (hread .logFormat).1 hformat
  · intro h
    have hfield (f : Field) := (hread f).2 (h f)
    exact ⟨_, _, ⟨_, _, ⟨_, _, ⟨_, _, ⟨_, _, ⟨_, _, ⟨_, hfield .appName, rfl⟩, hfield .markdownPreset, rfl⟩,
      hfield .markdownOptions, rfl⟩, hfield .reservedTags, rfl⟩, hfield .outputDir, rfl⟩, hfield .logLevel, rfl⟩,
      hfield .logFormat, rfl⟩

/-- Options are nested too deep to be checked at all just if they are a text in JSON that is nested too deep. -/
theorem depthFault?_eq_some_iff {o : Option Value} {fault : SettingsFault} :
    depthFault? depth o = some fault ↔
      ∃ v source deep, o = some v ∧ readOptions? depth v = some (source, .error deep) ∧ isTooDeep deep = true ∧
        fault = .optionsTooDeep source deep := by
  constructor
  · intro h
    rw [depthFault?] at h
    split at h
    · rename_i source deep hread
      obtain ⟨v, rfl, hread⟩ := Option.bind_eq_some_iff.1 hread
      split at h
      · rename_i hdeep
        exact ⟨v, source, deep, rfl, hread, hdeep, (Option.some.inj h).symm⟩
      · cases h
    · cases h
  · rintro ⟨v, source, deep, rfl, hread, hdeep, rfl⟩
    rw [depthFault?, Option.bind_some, hread]
    exact if_pos hdeep

/-- Such options are refused by their check as well. -/
theorem rejects_of_depthFault? {o : Option Value} {fault : SettingsFault} (h : depthFault? depth o = some fault) :
    Field.markdownOptions.Rejects depth o := by
  obtain ⟨v, source, deep, rfl, hread, -, -⟩ := depthFault?_eq_some_iff.1 h
  exact ⟨v, _, rfl, by rw [Field.check, checkOptions, hread]; rfl⟩

/-- Settings come from the entries of a mapping just if each field is settled by what stands under its name. -/
theorem ofEntries_eq_ok_iff :
    ofEntries depth es = .ok s ↔ ∀ f : Field, f.Settles depth (es.get? f.key) (f.get s) := by
  rw [← gives_fields_iff (.map es), ofEntries]
  cases hdeep : depthFault? depth (Entries.getText? es "markdown_options".toList) with
  | some fault =>
    refine iff_of_false (fun h => by cases h) fun h => ?_
    exact ((gives_fields_iff _).1 h .markdownOptions).not_rejects (rejects_of_depthFault? hdeep)
  | none =>
    cases (fields depth).read (.map es) es with
    | ok r =>
      constructor
      · intro h
        exact ⟨r.2, congrArg (fun s => Except.ok (s, r.2)) (Except.ok.inj h)⟩
      · rintro ⟨n, h⟩
        exact congrArg Except.ok (Prod.mk.inj (Except.ok.inj h)).1
    | error issues => exact ⟨fun h => (by cases h), fun ⟨_, h⟩ => (by cases h)⟩

/-- There are no settings just if some field refuses what stands under its name. -/
theorem exists_ofEntries_eq_error_iff :
    (∃ fault, ofEntries depth es = .error fault) ↔ ∃ f : Field, f.Rejects depth (es.get? f.key) := by
  constructor
  · rintro ⟨fault, hfault⟩
    by_contra hno
    -- if no field refused what is set for it, the settings with what each of them holds would be read
    have hsettled (f : Field) : ∃ a, f.Settles depth (es.get? f.key) a :=
      (f.exists_settles_or_rejects _).resolve_right fun h => hno ⟨f, h⟩
    choose content hcontent using hsettled
    have hok : ofEntries depth es = .ok (Field.settings content) :=
      ofEntries_eq_ok_iff.2 fun f => (f.get_settings content).symm ▸ hcontent f
    rw [hok] at hfault
    cases hfault
  · rintro ⟨f, hrejects⟩
    cases h : ofEntries depth es with
    | ok s => exact absurd hrejects (ofEntries_eq_ok_iff.1 h f).not_rejects
    | error fault => exact ⟨fault, rfl⟩

/-- What entries give depends on nothing but what stands under the names of the fields. -/
theorem ofEntries_congr (h : ∀ f : Field, es.get? f.key = es'.get? f.key) :
    ofEntries depth es = ofEntries depth es' := by
  have hread : (fields depth).ReadsAlike es es' :=
    .seq (.seq (.seq (.seq (.seq (.seq (.map (.optional (h .appName))) (.optional (h .markdownPreset)))
      (.optional (h .markdownOptions))) (.optional (h .reservedTags))) (.optional (h .outputDir)))
      (.optional (h .logLevel))) (.optional (h .logFormat))
  have hdeep : Entries.getText? es "markdown_options".toList = Entries.getText? es' "markdown_options".toList :=
    h .markdownOptions
  rw [ofEntries, ofEntries, hdeep, hread (.map es) (.map es')]

end Settings

end TagDoc
