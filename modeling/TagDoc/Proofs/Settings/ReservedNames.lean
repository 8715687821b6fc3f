import TagDoc.Command.Run
import TagDoc.Proofs.Command.Arguments
import TagDoc.Proofs.Document.Block
import TagDoc.Proofs.Node.Options
import TagDoc.Proofs.Node.Reserving
import TagDoc.Proofs.Settings.Names
import TagDoc.Proofs.Settings.Sources

/-!
# Reserving names in any source

Names can be reserved by options on a command line, by a variable that has commas between them, and by a list in the file
with settings. Whichever source it is, and however the names are written there, the settings and the compiler are the
same, and the compiler reserves these names and no others.

## Main definitions

* `IsPlainName`: a name that can be told from how it is written
* `NameWritten`: a name with signs before it and white space around that
* `Settings.Sources.Reserves`: how sources reserve names
* `Compiler.ReservesJust`: the tags with some names stay text, and no others

## Main results

* `Settings.Sources.Reserves.settles`: all sources set the names alike
* `Settings.load_reserving`: the settings and the compiler when names are reserved
-/

namespace TagDoc

open Text

/-- A name without white space, commas, and signs before it. -/
structure IsPlainName (name : Text) : Prop where
  ne_nil : name ≠ []
  plain : ∀ c ∈ name, isSpace c = false ∧ c ≠ ','
  first : ∀ c ∈ name.head?, c ≠ '@'

/-- A name as it may be written: with signs before it, and white space around that. -/
inductive NameWritten (name : Text) : Text → Prop
  | intro (before signs after : Text) (hbefore : ∀ c ∈ before, isSpace c = true) (hsigns : ∀ c ∈ signs, c = '@')
      (hafter : ∀ c ∈ after, isSpace c = true) : NameWritten name (before ++ (signs ++ name) ++ after)

variable {name t w : Text} {names written : List Text} {c : Compiler}

/-! ### Names as they are written -/

theorem isPlainName_iff : IsPlainName name ↔
    (!name.isEmpty && name.all (fun c => !isSpace c && c != ',') && name.head?.all (· != '@')) = true := by
  simp only [Bool.and_eq_true, Bool.not_eq_true', List.isEmpty_eq_false_iff, List.all_eq_true, Option.all_eq_true,
    bne_iff_ne]
  exact ⟨fun h => ⟨⟨h.ne_nil, h.plain⟩, h.first⟩, fun ⟨⟨hne, hplain⟩, hfirst⟩ => ⟨hne, hplain, hfirst⟩⟩

instance : Decidable (IsPlainName name) := decidable_of_iff' _ isPlainName_iff

theorem ne_comma_of_isSpace {c : Char} (h : isSpace c = true) : c ≠ ',' := by
  rintro rfl
  revert h
  decide

theorem NameWritten.not_mem_comma (h : NameWritten name w) (hname : IsPlainName name) : ',' ∉ w := by
  obtain ⟨before, signs, after, hbefore, hsigns, hafter⟩ := h
  simp only [List.mem_append]
  rintro ((hc | hc | hc) | hc)
  · exact ne_comma_of_isSpace (hbefore _ hc) rfl
  · exact absurd (hsigns _ hc) (by decide)
  · exact (hname.plain _ hc).2 rfl
  · exact ne_comma_of_isSpace (hafter _ hc) rfl

theorem NameWritten.ne_nil (h : NameWritten name w) (hname : IsPlainName name) : w ≠ [] := by
  obtain ⟨before, signs, after, -, -, -⟩ := h
  simp [hname.ne_nil]

/-- Of a name as it is written the name comes out. -/
theorem NameWritten.cleanItem?_eq (h : NameWritten name w) (hname : IsPlainName name) :
    Settings.cleanItem? (.str w) = some (.str name) := by
  obtain ⟨before, signs, after, hbefore, hsigns, hafter⟩ := h
  have hbody : ∀ c ∈ signs ++ name, isSpace c = false := by
    intro c hc
    rcases List.mem_append.1 hc with hc | hc
    · rw [hsigns c hc]
      decide
    · exact (hname.plain c hc).1
  have hparts : NameParts isSpace (· == '@') (before ++ (signs ++ name) ++ after) before signs name after :=
    ⟨rfl, hbefore, fun c hc => beq_iff_eq.2 (hsigns c hc), hafter, fun c hc => hbody c (List.mem_of_mem_head? hc),
      fun c hc => hbody c (List.mem_of_mem_getLast? hc), fun c hc => beq_eq_false_iff_ne.2 (hname.first c hc)⟩
  have hname' : Settings.cleanName (before ++ (signs ++ name) ++ after) = name := hparts.stripStart_eq
  rw [Settings.cleanItem?, hname', strip, hparts.trim_eq, if_neg (by simp [hname.ne_nil])]

theorem filterMap_cleanItem?_written (h : List.Forall₂ NameWritten names written)
    (hnames : ∀ name ∈ names, IsPlainName name) :
    (written.map Value.str).filterMap Settings.cleanItem? = names.map .str := by
  induction h with
  | nil => rfl
  | cons hw _ ih =>
    obtain ⟨hname, hnames⟩ := List.forall_mem_cons.1 hnames
    rw [List.map_cons, List.filterMap_cons_some (hw.cleanItem?_eq hname), ih hnames, List.map_cons]

/-! ### What a compiler reserves -/

/-- The tags with the names `names` stay text, at their places, and all other tags are shown. -/
structure Compiler.ReservesJust (c : Compiler) (names : List Text) : Prop where
  mem_iff : ∀ name, name ∈ c.reserved ↔ name ∈ names
  shown : ∀ t shown, c.contents none t = .ok shown →
    shown.filter Node.isStructured = (freeTags names t).map fun tag => tag.1.toNode c.decode tag.2
  kept : ∀ t start g source, ⟨start, .tag g source⟩ ∈ tagChunks t → g.name ∈ names →
    ∃ before lead trail after,
      parseNodes c.decode (c.reservedFor none) t = before ++ .text (lead ++ source ++ trail) :: after ∧
        (sourceText before ++ lead).length = start

theorem Compiler.reservesJust_reserved (c : Compiler) : c.ReservesJust c.reserved where
  mem_iff _ := Iff.rfl
  shown t shown hshown := by
    rw [(contents_eq_ok hshown).2, filter_isStructured_shown, filter_isStructured_parseNodes]
    rfl
  kept _ _ _ _ hchunk hname := exists_text_of_reserved hchunk hname

namespace Settings

/-- The compiler that settings ask for reserves those of their names that are texts. -/
theorem reserved_of_compiler? {settings : Settings} {host : Host} {traces : Bool}
    (h : settings.compiler? host traces = .ok c) : c.reserved = settings.reservedTags.filterMap RawText.text? := by
  rw [compiler?, Compiler.ofDialect?] at h
  split at h
  · cases h
  · cases h
    rfl

/-! ### Sources -/

namespace Sources

variable {s s' : Sources}

/-- The first source that sets names reserves the names that are written there: a line by its options, a variable with
commas between the names, or the file with a list. -/
inductive Reserves (written : List Text) : Sources → Prop
  | options {file : Value} {env : Environment} {items : List Argument} {name : Text} {args : List Text} {command : Command}
      (hline : CommandLine items args) (hcommand : Command.ofNamed? name args = some command)
      (hwritten : items.filterMap Argument.reserved? = written) : Reserves written ⟨file, env, command.overrides⟩
  | exported {s : Sources} (hgiven : s.given? .reservedTags = none)
      (hlookup : s.env.lookup (variableName Field.reservedTags.name) = some (join [','] written)) : Reserves written s
  | entry {s : Sources} (hgiven : s.given? .reservedTags = none) (hexported : s.exported? .reservedTags = none)
      (hentry : s.entry? .reservedTags = some (.list (written.map .str))) : Reserves written s

/-- Names on a line are given, unless there are none. -/
theorem given?_overrides {file : Value} {env : Environment} (command : Command) (hne : command.reserved ≠ []) :
    (Sources.mk file env command.overrides).given? .reservedTags = some (.list (command.reserved.map .str)) := by
  have hnames : Command.givenNames command.reserved = .list (command.reserved.map .str) :=
    if_neg (mt List.isEmpty_iff.1 hne)
  have hget : command.overrides.get? Field.reservedTags.key = some (Command.givenNames command.reserved) := by
    cases command <;> rfl
  rw [given?, hget, hnames]
  rfl

theorem exported?_eq_of_lookup {s : Sources} {f : Field} {t : Text} (h : s.env.lookup (variableName f.name) = some t)
    (hne : t ≠ []) : s.exported? f = some (.str t) := by
  rw [exported?, Environment.value?, h]
  cases t with
  | nil => exact absurd rfl hne
  | cons c t => rfl

/-- What is set for the reserved names holds them as they are written. -/
theorem Reserves.exists_chosen? (h : s.Reserves written) (hne : written ≠ []) (hempty : ∀ w ∈ written, w ≠ [])
    (hcomma : ∀ w ∈ written, ',' ∉ w) :
    ∃ v, s.chosen? .reservedTags = some v ∧ nameItems? v = some (written.map .str) := by
  cases h with
  | options hline hcommand hwritten =>
    have hreserved := (Command.reserved_eq hline hcommand).trans hwritten
    refine ⟨_, by rw [chosen?, given?_overrides _ (hreserved ▸ hne)]; rfl, ?_⟩
    rw [nameItems?, hreserved]
  | exported hgiven hlookup =>
    have hexported := exported?_eq_of_lookup hlookup (mt (join_eq_nil_iff hempty).1 hne)
    -- between the commas stand the names again, since none of them has a comma
    refine ⟨.str (join [','] written), by rw [chosen?, hgiven, hexported]; rfl, ?_⟩
    rw [nameItems?, splitOn_join hne hcomma]
  | entry hgiven hexported hentry => exact ⟨_, by rw [chosen?, hgiven, hexported, hentry]; rfl, rfl⟩

/-- All sources set the names alike, however they are written. -/
theorem Reserves.settles (depth : Nat) (h : s.Reserves written) (hne : names ≠ [])
    (hnames : ∀ name ∈ names, IsPlainName name) (hwritten : List.Forall₂ NameWritten names written) :
    Field.reservedTags.Settles depth (s.chosen? .reservedTags) (names.map RawText.text) := by
  have hplain : ∀ w ∈ written, ∃ name, IsPlainName name ∧ NameWritten name w := by
    intro w hw
    obtain ⟨i, hi, rfl⟩ := List.mem_iff_getElem.1 hw
    have hi' : i < names.length := hwritten.length_eq ▸ hi
    exact ⟨names[i], hnames _ (List.getElem_mem hi'), hwritten.get hi' hi⟩
  have hempty : ∀ w ∈ written, w ≠ [] := by
    intro w hw
    obtain ⟨name, hname, hw⟩ := hplain w hw
    exact hw.ne_nil hname
  have hcomma : ∀ w ∈ written, ',' ∉ w := by
    intro w hw
    obtain ⟨name, hname, hw⟩ := hplain w hw
    exact hw.not_mem_comma hname
  have hwne : written ≠ [] := by
    rintro rfl
    exact hne (List.forall₂_nil_right_iff.1 hwritten)
  obtain ⟨v, hv, hitems⟩ := h.exists_chosen? hwne hempty hcomma
  rw [hv]
  refine (gives_checkNames_iff hitems).2 ?_
  rw [filterMap_cleanItem?_written hwritten hnames, List.map_map]
  rfl

end Sources

/-- Settings have a compiler just if there is the dialect that they name. -/
theorem exists_compiler?_iff (settings : Settings) (host : Host) (traces : Bool) :
    (∃ c, settings.compiler? host traces = .ok c) ↔
      ∃ d, settings.markdownPreset.text?.bind Markdown.Dialect.named? = some d := by
  rw [compiler?, Compiler.ofDialect?]
  cases settings.markdownPreset.text?.bind Markdown.Dialect.named? with
  | none => simp
  | some d => simp

variable {yaml : Text → Except Yaml.Fault Value} {depth : Nat} {tree : FileTree} {s s' : Sources}

/-- Names that are reserved in any source, and written in any way, are what the settings and their compiler reserve. There
are no settings just if another field refuses what is set for it. Which they are depends on the names, and on what is set
for the other fields. -/
theorem load_reserving (hne : names ≠ []) (hnames : ∀ name ∈ names, IsPlainName name)
    (hwritten : List.Forall₂ NameWritten names written) (hfile : readFile yaml tree = .ok s.file) (hs : s.Mergeable)
    (h : s.Reserves written) :
    ((∃ fault, load yaml depth tree s.env s.overrides = .error fault) ↔
        ∃ f : Field, f ≠ .reservedTags ∧ f.Rejects depth (s.chosen? f)) ∧
      (∀ settings, load yaml depth tree s.env s.overrides = .ok settings →
        settings.reservedTags = names.map RawText.text ∧ ∀ host traces,
          ((∃ c, settings.compiler? host traces = .ok c) ↔
              ∃ d, settings.markdownPreset.text?.bind Markdown.Dialect.named? = some d) ∧
            ∀ c, settings.compiler? host traces = .ok c → c.ReservesJust names) ∧
      ∀ (tree' : FileTree) (s' : Sources) (written' : List Text), List.Forall₂ NameWritten names written' →
        readFile yaml tree' = .ok s'.file → s'.Mergeable → s'.Reserves written' →
        (∀ f : Field, f ≠ .reservedTags → s'.chosen? f = s.chosen? f) →
        ∀ settings, load yaml depth tree' s'.env s'.overrides = .ok settings ↔
          load yaml depth tree s.env s.overrides = .ok settings := by
  -- The source settles the names on its own, so all that is left to fail is another field.
  have hsettles := h.settles depth hne hnames hwritten
  refine ⟨?_, fun settings hok => ?_, fun tree' s' written' hwritten' hfile' hs' h' hothers settings => ?_⟩
  · rw [exists_load_eq_error_iff hfile hs]
    constructor
    · rintro ⟨f, hrejects⟩
      refine ⟨f, ?_, hrejects⟩
      rintro rfl
      exact hsettles.not_rejects hrejects
    · rintro ⟨f, -, hrejects⟩
      exact ⟨f, hrejects⟩
  · have hreserved : settings.reservedTags = names.map RawText.text :=
      ((load_eq_ok_iff hfile hs).1 hok .reservedTags).unique hsettles
    refine ⟨hreserved, fun host traces => ⟨exists_compiler?_iff settings host traces, fun c hc => ?_⟩⟩
    have hnames : c.reserved = names := by
      rw [reserved_of_compiler? hc, hreserved, List.filterMap_map]
      exact List.filterMap_some
    exact hnames ▸ c.reservesJust_reserved
  · have hsettles' := h'.settles depth hne hnames hwritten'
    rw [load_eq_ok_iff hfile' hs', load_eq_ok_iff hfile hs]
    -- the sources settle the reserved names alike, and say the same about the other fields
    refine forall_congr' fun f => ?_
    rcases eq_or_ne f .reservedTags with rfl | hf
    · exact ⟨fun hsettled => hsettled.unique hsettles' ▸ hsettles, fun hsettled => hsettled.unique hsettles ▸ hsettles'⟩
    · rw [hothers f hf]

/-- Two names are reserved by options around a path, and by a variable with a tab and a blank in it. -/
theorem load_reserving_in_two_sources :
    let tree := FileTree.ofTexts [("config.yaml", "markdown_preset: commonmark\n")]
    let names := ["note".toList, "tab".toList]
    let args := ["-r".toList, " @@note".toList, "x.md".toList, "--reserved-tag=tab".toList]
    let env : Environment := [("DOCBLOCK_RESERVED_TAGS".toList, "\tnote, @tab".toList)]
    let yaml := Host.usual.loadConfig
    ∃ command settings c, Command.ofNamed? "show".toList args = some command ∧
      load yaml 100 tree [] command.overrides = .ok settings ∧ load yaml 100 tree env [] = .ok settings ∧
      settings.compiler? .usual = .ok c ∧ c.ReservesJust names := by
  intro tree names args env yaml
  let written := [" @@note".toList, "tab".toList]
  let written' := ["\tnote".toList, " @tab".toList]
  let command : Command := .show "x.md".toList written
  let pairs : List (Text × Text) := [("markdown_preset".toList, "commonmark".toList)]
  let s : Sources := ⟨.map (ofTextEntries pairs), [], command.overrides⟩
  let s' : Sources := ⟨.map (ofTextEntries pairs), env, []⟩
  have hnames : ∀ name ∈ names, IsPlainName name := by decide
  have hwritten : List.Forall₂ NameWritten names written :=
    .cons (.intro " ".toList "@@".toList [] (List.all_eq_true.1 rfl) (by simp) nofun)
      (.cons (.intro [] [] [] nofun nofun nofun) .nil)
  have hwritten' : List.Forall₂ NameWritten names written' :=
    .cons (.intro "\t".toList [] [] (List.all_eq_true.1 rfl) nofun nofun)
      (.cons (.intro " ".toList "@".toList [] (List.all_eq_true.1 rfl) (by simp) nofun) .nil)
  have hfile : readFile yaml tree = .ok s.file := readFile_eq_of_texts (by decide +kernel)
  have hs : s.Mergeable := ⟨.inr ⟨_, rfl, text_ofTextEntries _⟩, by decide, by simp [s, command, Command.overrides]⟩
  have hs' : s'.Mergeable := ⟨.inr ⟨_, rfl, text_ofTextEntries _⟩, by decide, by simp [s']⟩
  have hcommand : Command.ofNamed? "show".toList args = some command := by decide +kernel
  let items : List Argument := [.option .reserved " @@note".toList, .path "x.md".toList, .option .reserved "tab".toList]
  have hline : CommandLine items args :=
    .cons (.short _) (.cons (.path rfl) (.cons (.longWith .reserved _) .nil))
  have h : s.Reserves written := .options hline hcommand rfl
  have h' : s'.Reserves written' := .exported rfl rfl
  obtain ⟨-, hok, hsame⟩ := load_reserving (List.cons_ne_nil _ _) hnames hwritten hfile hs h
  -- The settings are not computed: each of their fields is what the sources settle for it.
  let settings : Settings :=
    { Settings.default with markdownPreset := "commonmark".toList, reservedTags := names.map RawText.text }
  have hload : load yaml 100 tree [] command.overrides = .ok settings := by
    refine (load_eq_ok_iff hfile hs).2 fun f => ?_
    cases f with
    | markdownPreset => exact ⟨0, rfl⟩
    | reservedTags => exact ⟨0, rfl⟩
    | _ => rfl
  have hothers : ∀ f : Field, f ≠ .reservedTags → s'.chosen? f = s.chosen? f := by
    intro f hf
    cases f with
    | reservedTags => exact absurd rfl hf
    | _ => rfl
  obtain ⟨-, hcompiler⟩ := hok settings hload
  obtain ⟨c, hc⟩ := (hcompiler .usual false).1.2 ⟨_, rfl⟩
  exact ⟨command, settings, c, hcommand, hload, (hsame tree s' written' hwritten' hfile hs' h' hothers settings).2 hload,
    hc, (hcompiler .usual false).2 c hc⟩

end Settings

end TagDoc
