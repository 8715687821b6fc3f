import TagDoc.Proofs.Command.Ending
import TagDoc.Proofs.Document.Room
import TagDoc.Proofs.Files.Path
import TagDoc.Proofs.Run.Discovery
import TagDoc.Proofs.Run.Record

/-!
# The two commands agree

A file can be shown, or it can be compiled by a run of its own. Both load the same settings, so both make the same
document of the file, and the run writes what is shown. To make the output directory first does not change the file.

Each command is a process of its own, so this holds as far as the two read alike what both read: one may go over the items
of a set in another order, and a run has a little less room for what is nested. And the run prints the name of the output
directory, which is not part of what is shown.

## Main definitions

* `Host.AgreeOn`: two hosts read alike what is read for a file
* `Setup.CanWrite`: a document can be written to the output directory
* `Setup.Work`: what a command works with, and what it makes of a file

## Main results

* `Setup.load_overrides`: both commands work with the same settings
* `Setup.document_eq_of_agreeOn`: hosts that read alike what is read for a file make the same document of it
* `Runtime.agreeOn`: processes of the same kind read alike what the one with less room has room for
* `Run.exists_document_of_all`, `Run.exists_all_of_file`: a run over a single file
* `Command.show_agrees`: what is shown is what is written
* `Command.show_disagrees`: where it is not, or the run fails
-/

namespace TagDoc

variable {h h' : Host} {t made files : FileTree} {env : Environment} {overrides : Entries} {p out : Path}
  {octets : List UInt8} {c : Compiler} {d : Document} {json path : Text} {reserved : List Text} {r : Run} {s s' : Setup}

/-! ### Settings -/

theorem Settings.merge_congr {v : Value} {overrides overrides' : Entries}
    (hempty : overrides.isEmpty = overrides'.isEmpty) (hgiven : given overrides = given overrides') :
    merge v env overrides = merge v env overrides' := by
  rw [merge, merge, hempty, hgiven]

theorem Command.given_overrides (path : Text) (reserved : List Text) :
    Settings.given (Command.show path reserved).overrides =
      Settings.given (Command.compile path none reserved none).overrides := by
  cases reserved <;> rfl

/-- Names that are reserved count the same for both commands. -/
theorem Setup.load_overrides (h : Host) (t : FileTree) (env : Environment) (path : Text) (reserved : List Text) :
    load h t env (Command.show path reserved).overrides =
      load h t env (Command.compile path none reserved none).overrides := by
  have hmerge (v : Value) : Settings.merge v env (Command.show path reserved).overrides =
      Settings.merge v env (Command.compile path none reserved none).overrides :=
    Settings.merge_congr rfl (Command.given_overrides path reserved)
  simp only [load, Settings.load, hmerge]

/-- The directory for output can be made, and then the JSON of a document can be written to the file for its slug. -/
def Setup.CanWrite (s : Setup) (t : FileTree) (d : Document) (json : Text) : Prop :=
  s.makeFault? = none ∧ ∃ made files, t.ensureDirectory s.out = (made, none) ∧
    made.writeText (Run.outputFile s.out d.slug) json = .ok files

theorem Setup.out_of_text {name : Text} (hname : s.settings.outputDir = .text name) : s.out = .ofText name := by
  rw [out, hname, RawText.shown]

/-- For a directory whose name is a text, this is only about the files. -/
theorem Setup.canWrite_of_text {name : Text} (hname : s.settings.outputDir = .text name)
    (hmade : t.ensureDirectory (.ofText name) = (made, none))
    (hwrite : made.writeText (Run.outputFile (.ofText name) d.slug) json = .ok files) : s.CanWrite t d json :=
  ⟨makeFault?_of_text hname, made, files, out_of_text hname ▸ hmade, out_of_text hname ▸ hwrite⟩

/-- What a command works with, the document of a file, and the JSON of the document. -/
structure Setup.Work where
  setup : Setup
  document : Document
  json : Text

/-- The work of a command, if the settings can be loaded and the file has a document with a JSON. -/
def Setup.work? (h : Host) (t : FileTree) (env : Environment) (overrides : Entries) (p : Path) : Option Work := do
  let s ← (load h t env overrides).toOption
  let d ← (s.compiler.document t p).toOption
  let json ← (d.toJson documentLayout).toOption
  return ⟨s, d, json⟩

theorem Setup.work?_eq_some_iff :
    work? h t env overrides p = some ⟨s, d, json⟩ ↔
      load h t env overrides = .ok s ∧ s.compiler.document t p = .ok d ∧ d.toJson documentLayout = .ok json := by
  simp only [work?, Option.bind_eq_bind, Option.bind_eq_some_iff, toOption_eq_some_iff, Option.pure_def, Option.some.injEq,
    Work.mk.injEq]
  constructor
  · rintro ⟨s, hload, d, hdocument, json, hjson, rfl, rfl, rfl⟩
    exact ⟨hload, hdocument, hjson⟩
  · rintro ⟨hload, hdocument, hjson⟩
    exact ⟨s, hload, d, hdocument, json, hjson, rfl, rfl, rfl⟩

/-- A command has no other work. -/
theorem Setup.forall_of_work? {holds : Setup → Document → Text → Prop}
    (hwork : work? h t env overrides p = some ⟨s, d, json⟩) (hholds : holds s d json) :
    ∀ s d json, load h t env overrides = .ok s → s.compiler.document t p = .ok d →
      d.toJson documentLayout = .ok json → holds s d json := by
  intro s' d' json' hload hdocument hjson
  cases hwork.symm.trans (work?_eq_some_iff.2 ⟨hload, hdocument, hjson⟩)
  exact hholds

/-! ### Hosts that read alike -/

/-- Two hosts read alike what is read for a file: the settings, and then the parts of the file. -/
structure Host.AgreeOn (h h' : Host) (t : FileTree) (env : Environment) (overrides : Entries) (p : Path) : Prop where
  loadConfig : ∀ text, t.readText Settings.file = .ok text → h.loadConfig text = h'.loadConfig text
  optionsDepth : h.optionsDepth = h'.optionsDepth
  parts : ∀ s s' text, Setup.load h t env overrides = .ok s → Setup.load h' t env overrides = .ok s' →
    t.readText p = .ok text → s.compiler.AgreeOn s'.compiler text

theorem Settings.load_congr {load load' : Text → Except Yaml.Fault Value} (depth : Nat)
    (hload : ∀ text, t.readText file = .ok text → load text = load' text) :
    Settings.load load depth t env overrides = Settings.load load' depth t env overrides := by
  have hfile : readFile load t = readFile load' t := by
    rw [readFile, readFile]
    cases htext : t.readText file with
    | error fault => rfl
    | ok text => simp only [hload text htext]
  rw [Settings.load, Settings.load, hfile]

theorem Host.AgreeOn.settings_eq (hagree : h.AgreeOn h' t env overrides p) :
    Settings.load h.loadConfig h.optionsDepth t env overrides =
      Settings.load h'.loadConfig h'.optionsDepth t env overrides :=
  hagree.optionsDepth ▸ Settings.load_congr h.optionsDepth hagree.loadConfig

/-- Every host has the compiler that settings ask for, if one has it. Each of them reads as its host does, and the dialect
and the names that are reserved are the same. -/
theorem Settings.exists_compiler?_of_compiler? {settings : Settings} {traces : Bool} (h' : Host)
    (hc : settings.compiler? h traces = .ok c) :
    ∃ c' dialect, settings.compiler? h' traces = .ok c' ∧ c'.reserved = c.reserved ∧ c.ReadsAs h dialect ∧
      c'.ReadsAs h' dialect := by
  rw [compiler?, Compiler.ofDialect?] at hc
  rw [compiler?, Compiler.ofDialect?]
  cases hdialect : settings.markdownPreset.text?.bind Markdown.Dialect.named? with
  | none =>
    rw [hdialect] at hc
    cases hc
  | some dialect =>
    rw [hdialect] at hc
    cases hc
    exact ⟨_, _, rfl, rfl, ⟨rfl, rfl, rfl⟩, ⟨rfl, rfl, rfl⟩⟩

/-- Hosts that load the same settings set commands up alike. -/
theorem Setup.exists_load_of_settings_eq
    (hsettings : Settings.load h.loadConfig h.optionsDepth t env overrides =
      Settings.load h'.loadConfig h'.optionsDepth t env overrides) (hload : load h t env overrides = .ok s) :
    ∃ s' dialect, load h' t env overrides = .ok s' ∧ s'.compiler.reserved = s.compiler.reserved ∧
      s.compiler.ReadsAs h dialect ∧ s'.compiler.ReadsAs h' dialect := by
  rw [load] at hload ⊢
  simp only [bind_eq_ok_iff, mapError_eq_ok_iff] at hload ⊢
  obtain ⟨settings, hloaded, threshold, hthreshold, c, hc, hs⟩ := hload
  obtain rfl := Except.ok.inj hs
  obtain ⟨c', dialect, hc', hreserved, hreads⟩ := settings.exists_compiler?_of_compiler? h' hc
  exact ⟨⟨settings, threshold, c'⟩, dialect,
    ⟨settings, hsettings ▸ hloaded, threshold, hthreshold, c', hc', rfl⟩, hreserved, hreads⟩

/-- Hosts that read alike what is read for a file make the same document of it. -/
theorem Setup.document_eq_of_agreeOn (hagree : h.AgreeOn h' t env overrides p) (hload : load h t env overrides = .ok s)
    (hload' : load h' t env overrides = .ok s') (hreserved : s'.compiler.reserved = s.compiler.reserved) :
    s.compiler.document t p = s'.compiler.document t p :=
  Compiler.document_eq_of_agreeOn hreserved.symm fun text htext => hagree.parts s s' text hload hload' htext

/-- Two processes of the same kind read alike what there is room for where more calls stand around. -/
theorem Runtime.agreeOn {calls calls' : Nat} (r : Runtime) (hle : calls ≤ calls')
    (hroom : ∀ s text, Setup.load (r.host calls') t env overrides = .ok s → t.readText p = .ok text →
      r.HasRoom calls' s.compiler text) : (r.host calls).AgreeOn (r.host calls') t env overrides p where
  loadConfig _ _ := rfl
  optionsDepth := rfl
  parts s s' text hload hload' htext := by
    -- The two set up the same, so the compilers differ in the calls around them only.
    have hconfig : (r.host calls).loadConfig = (r.host calls').loadConfig := rfl
    have hsettings : Settings.load (r.host calls).loadConfig (r.host calls).optionsDepth t env overrides =
        Settings.load (r.host calls').loadConfig (r.host calls').optionsDepth t env overrides := by
      rw [hconfig, host, host]
    obtain ⟨s'', dialect, hload'', hreserved, hreads, hreads'⟩ := Setup.exists_load_of_settings_eq hsettings hload
    obtain rfl : s' = s'' := Except.ok.inj (hload'.symm.trans hload'')
    exact ((hroom s' text hload' htext).agreeOn hle hreads hreads').symm hreserved

/-! ### A single file -/

theorem FileTree.read_of_find? (hfile : t.find? p = .ok (some (.file octets))) : t.read p = .ok octets :=
  read_eq_ok_iff.2 (find?_eq_some_iff.1 hfile)

/-- A file that is a source is the only one that its path leads to. -/
theorem FileTree.sources_of_file (hfile : t.find? p = .ok (some (.file octets))) (hsource : p.isSource = true) :
    t.sources p = .ok [p] := by
  obtain ⟨place, hplace, hitem⟩ := find?_eq_some_iff.1 hfile
  rw [sources_of_no_directory hplace (by simp [hitem]), if_pos ⟨hsource, by simp [hitem]⟩]

/-- A directory that is made for output leaves a file where it was. -/
theorem FileTree.find?_of_ensureDirectory (hmade : t.ensureDirectory out = (made, none))
    (hfile : t.find? p = .ok (some (.file octets))) : made.find? p = .ok (some (.file octets)) := by
  have hmore := moreDirectories_ensureDirectory t out
  have hworking := working_ensureDirectory t out
  rw [hmade] at hmore hworking
  exact hmore.find?_file hworking hfile

/-- And it does not change the document of the file. -/
theorem Compiler.document_of_ensureDirectory (hmade : t.ensureDirectory out = (made, none))
    (hfile : t.find? p = .ok (some (.file octets))) (c : Compiler) : c.document made p = c.document t p := by
  have hread : made.read p = t.read p := by
    rw [FileTree.read_of_find? hfile, FileTree.read_of_find? (FileTree.find?_of_ensureDirectory hmade hfile)]
  rw [document, document, FileTree.readText, FileTree.readText, hread]

namespace Run

/-- A run over a file that comes to its end has written the document of the file. -/
theorem exists_document_of_all (hfile : t.find? p = .ok (some (.file octets))) (hsource : p.isSource = true)
    (h : all c t p out = .ok r) :
    ∃ d json, c.document t p = .ok d ∧ d.toJson documentLayout = .ok json ∧
      r.files.read (outputFile out d.slug) = .ok json.toUtf8 := by
  obtain ⟨made, works, hmade, hsources, hr⟩ := all_eq_ok_iff.1 h
  have honly : works.map Product.source = [p] :=
    Except.ok.inj (hsources.symm.trans
      (FileTree.sources_of_file (FileTree.find?_of_ensureDirectory hmade hfile) hsource))
  obtain ⟨w, rfl, rfl⟩ := List.map_eq_singleton_iff.1 honly
  have hw := hr.madeBy w (List.mem_singleton_self w)
  obtain ⟨files, hwrite, hend⟩ := FileTree.writeAll_cons_eq_ok_iff.1 hr.files
  obtain rfl : files = r.files := Except.ok.inj hend
  exact ⟨w.document, w.json, (c.document_of_ensureDirectory hmade hfile).symm.trans hw.document, hw.json,
    FileTree.read_of_write hwrite⟩

/-- A run over a file that has a document writes it, if it can be written. -/
theorem exists_all_of_file (hfile : t.find? p = .ok (some (.file octets))) (hsource : p.isSource = true)
    (hdocument : c.document t p = .ok d) (hjson : d.toJson documentLayout = .ok json)
    (hmade : t.ensureDirectory out = (made, none)) (hwrite : made.writeText (outputFile out d.slug) json = .ok files) :
    ∃ r, all c t p out = .ok r ∧ r.files.read (outputFile out d.slug) = .ok json.toUtf8 := by
  let w : Product := ⟨p, d, json⟩
  have hw : w.MadeBy c made := ⟨(c.document_of_ensureDirectory hmade hfile).trans hdocument, hjson⟩
  obtain ⟨r, hr⟩ := exists_records (List.forall_mem_singleton.2 hw) (List.forall_mem_singleton.2 ⟨files, hwrite⟩)
  have hsources : made.sources p = .ok [p] :=
    FileTree.sources_of_file (FileTree.find?_of_ensureDirectory hmade hfile) hsource
  have hall : all c t p out = .ok r := all_eq_ok_iff.2 ⟨made, [w], hmade, hsources, hr⟩
  obtain ⟨d', json', hdocument', hjson', hread⟩ := exists_document_of_all hfile hsource hall
  obtain rfl : d = d' := Except.ok.inj (hdocument.symm.trans hdocument')
  obtain rfl : json = json' := Except.ok.inj (hjson.symm.trans hjson')
  exact ⟨r, hall, hread⟩

end Run

/-- A source whose document can be written is compiled by a run over it. -/
theorem Setup.exists_all_of_canWrite (hfile : t.find? p = .ok (some (.file octets))) (hsource : p.isSource = true)
    (hdocument : s.compiler.document t p = .ok d) (hjson : d.toJson documentLayout = .ok json)
    (hwrite : s.CanWrite t d json) :
    s.makeFault? = none ∧ ∃ r, Run.all s.compiler t p s.out = .ok r ∧
      r.files.read (Run.outputFile s.out d.slug) = .ok json.toUtf8 := by
  obtain ⟨hmake, made, files, hmade, hfiles⟩ := hwrite
  exact ⟨hmake, Run.exists_all_of_file hfile hsource hdocument hjson hmade hfiles⟩

namespace Command

/-- A file is shown if there is a JSON of its document. -/
theorem run_show_of_work? (stamp : Text) (hzero : '\x00' ∉ path)
    (hwork : Setup.work? h t env (Command.show path reserved).overrides (.ofText path) = some ⟨s, d, json⟩) :
    (run h t env stamp (.show path reserved)).exit = 0 ∧
      (run h t env stamp (.show path reserved)).output = json ++ ['\n'] := by
  obtain ⟨hload, hdocument, hjson⟩ := Setup.work?_eq_some_iff.1 hwork
  rw [run_show hzero hload hdocument hjson]
  exact ⟨rfl, rfl⟩

/-- A run does not end well if the name of the output directory cannot be printed. -/
theorem exit_compile_of_not_canPrint (stamp : Text)
    (hload : Setup.load h t env (Command.compile path none reserved none).overrides = .ok s) (hprint : ¬ s.CanPrint) :
    (run h t env stamp (.compile path none reserved none)).exit = 1 := by
  cases hfault : fault? h t env (.compile path none reserved none) with
  | none =>
    obtain ⟨s', r, hload', -, -, hprint'⟩ := fault?_compile_eq_none_iff.1 hfault
    obtain rfl : s = s' := Except.ok.inj (hload.symm.trans hload')
    exact absurd hprint' hprint
  | some f => exact exit_of_fault hfault stamp

/-- A file that is a source is compiled just if it is shown and the name of the output directory can be printed. And if it
is shown, that is what the file for its slug holds then, but for the line feed at its end. It is taken that the processes of
the two commands read alike what both read, and that the document can be written, if there is one. -/
theorem show_agrees (stamp stamp' : Text) (hfile : t.find? (.ofText path) = .ok (some (.file octets)))
    (hsource : (Path.ofText path).isSource = true)
    (hagree : h.AgreeOn h' t env (Command.compile path none reserved none).overrides (.ofText path))
    (hwrite : ∀ s d json, Setup.load h' t env (Command.compile path none reserved none).overrides = .ok s →
      s.compiler.document t (.ofText path) = .ok d → d.toJson documentLayout = .ok json → s.CanWrite t d json) :
    ((run h' t env stamp' (.compile path none reserved none)).exit = 0 ↔
        (run h t env stamp (.show path reserved)).exit = 0 ∧
          ∀ s, Setup.load h' t env (Command.compile path none reserved none).overrides = .ok s → s.CanPrint) ∧
      ((run h t env stamp (.show path reserved)).exit = 0 →
        ∃ s d json, Setup.load h' t env (Command.compile path none reserved none).overrides = .ok s ∧
          s.compiler.document t (.ofText path) = .ok d ∧
          (run h t env stamp (.show path reserved)).output = json ++ ['\n'] ∧
          (run h' t env stamp' (.compile path none reserved none)).files.read (Run.outputFile s.out d.slug) =
            .ok json.toUtf8 ∧
          ('/' ∉ d.slug → Run.outputFile s.out d.slug = s.out.child (d.slug ++ ".json".toList))) := by
  have hzero : '\x00' ∉ path := by
    obtain ⟨place, hplace, -⟩ := FileTree.find?_eq_some_iff.1 hfile
    rw [← Path.mem_toText_ofText_iff (by decide) (by decide)]
    exact (FileTree.resolve_eq_ok_iff.1 hplace).1
  -- What is shown has the same document for the other host.
  have hshown : ∀ s d, Setup.load h t env (Command.show path reserved).overrides = .ok s →
      s.compiler.document t (.ofText path) = .ok d →
      ∃ s', Setup.load h' t env (Command.compile path none reserved none).overrides = .ok s' ∧
        s'.compiler.document t (.ofText path) = .ok d := by
    intro s d hload hdocument
    rw [Setup.load_overrides] at hload
    obtain ⟨s', -, hload', hreserved, -⟩ := Setup.exists_load_of_settings_eq hagree.settings_eq hload
    exact ⟨s', hload', Setup.document_eq_of_agreeOn hagree hload hload' hreserved ▸ hdocument⟩
  rw [exit_eq_zero_iff, exit_eq_zero_iff, fault?_show_eq_none_iff, fault?_compile_eq_none_iff]
  refine ⟨⟨?compiled, ?printed⟩, ?content⟩
  case compiled =>
    rintro ⟨s', r, hload', -, hr, hprint⟩
    obtain ⟨s, -, hload, hreserved, -⟩ := Setup.exists_load_of_settings_eq hagree.settings_eq.symm hload'
    obtain ⟨d, json, hdocument, hjson, -⟩ := Run.exists_document_of_all hfile hsource hr
    rw [← Setup.document_eq_of_agreeOn hagree hload hload' hreserved.symm] at hdocument
    rw [← Setup.load_overrides] at hload
    refine ⟨⟨hzero, s, d, json, hload, hdocument, hjson⟩, fun s'' hload'' => ?_⟩
    obtain rfl : s' = s'' := Except.ok.inj (hload'.symm.trans hload'')
    exact hprint
  case printed =>
    rintro ⟨⟨-, s, d, json, hload, hdocument, hjson⟩, hprint⟩
    obtain ⟨s', hload', hdocument'⟩ := hshown s d hload hdocument
    obtain ⟨hmake, r, hr, -⟩ :=
      Setup.exists_all_of_canWrite hfile hsource hdocument' hjson (hwrite s' d json hload' hdocument' hjson)
    exact ⟨s', r, hload', hmake, hr, hprint s' hload'⟩
  case content =>
    rintro ⟨-, s, d, json, hload, hdocument, hjson⟩
    obtain ⟨s', hload', hdocument'⟩ := hshown s d hload hdocument
    obtain ⟨hmake, r, hr, hread⟩ :=
      Setup.exists_all_of_canWrite hfile hsource hdocument' hjson (hwrite s' d json hload' hdocument' hjson)
    refine ⟨s', d, json, hload', hdocument', ?_, ?_, fun hslug => Run.outputFile_eq_child hslug _⟩
    · rw [run_show hzero hload hdocument hjson]
    · rw [files_run_compile hload' hmake hr]
      exact hread

/-- With an output directory of its own in the file with settings, and a name that is reserved, a file is shown as it is
compiled. The run has room for one call less, which is enough for both. -/
theorem show_agrees_with_config :
    let t := FileTree.ofTexts [("config.yaml", "output_dir: site\n"), ("a.md", "---\nslug: x\n---\nA @note here")]
    let path := "a.md".toList
    let reserved := ["note".toList]
    let showHost := Runtime.usual.hostFor (.show path reserved)
    let compileHost := Runtime.usual.hostFor (.compile path none reserved none)
    ∃ json, (run showHost t [] [] (.show path reserved)).exit = 0 ∧
      (run showHost t [] [] (.show path reserved)).output = json ++ ['\n'] ∧
      (run compileHost t [] [] (.compile path none reserved none)).exit = 0 ∧
      (run compileHost t [] [] (.compile path none reserved none)).files.read ⟨0, ["site".toList, "x.json".toList]⟩ =
        .ok json.toUtf8 := by
  intro t path reserved showHost compileHost
  let overrides := (Command.compile path none reserved none).overrides
  let text : Text := "---\nslug: x\n---\nA @note here".toList
  let body : Text := "A @note here".toList
  let html : Text := "<p>A @note here</p>\n".toList
  let made := t.put ["site".toList] .directory
  have hmade : t.ensureDirectory (.ofText "site".toList) = (made, none) := by
    rw [FileTree.ensureDirectory]
    rfl
  have hcompile : (Setup.work? compileHost t [] overrides (.ofText path)).any (fun w =>
      w.setup.settings.outputDir = .text "site".toList ∧ (w.setup.compiler.toHtml body).toOption = some html ∧
        w.document.slug = "x".toList) = true := by
    decide +kernel
  obtain ⟨⟨s, d, json⟩, hwork, hcompile⟩ := (Option.any_eq_true _ _).1 hcompile
  obtain ⟨hload, hdocument, hjson⟩ := Setup.work?_eq_some_iff.1 hwork
  obtain ⟨hname, hhtml, hslug⟩ := of_decide_eq_true hcompile
  dsimp only at hname hslug
  have hagree : showHost.AgreeOn compileHost t [] overrides (.ofText path) := by
    refine Runtime.usual.agreeOn (by decide) fun s' u hload' hu => ?_
    obtain rfl : s = s' := Except.ok.inj (hload.symm.trans hload')
    have hread : t.readText (.ofText path) = .ok text := eq_ok_of_toOption (by decide +kernel)
    obtain rfl : text = u := Except.ok.inj (hread.symm.trans hu)
    have hcut : FrontMatter.cut? text.strip = some ("slug: x".toList, body) := by
      decide +kernel
    have hscan : scan body = [⟨0, .plain body⟩] := by
      decide +kernel
    have hmetadata : (compileHost.loadMetadata "slug: x".toList).toOption.isSome = true := by
      decide +kernel
    -- No tag has options here, so only the front matter and one text between tags are read.
    refine .of_plain hcut hscan ?_ ?_
    · obtain ⟨v, hv⟩ := exists_eq_ok_of_isSome hmetadata
      rw [Setup.load_compiler hload, hv]
      intro hdeep
      cases hdeep
    · rw [eq_ok_of_toOption hhtml]
      intro hdeep
      cases hdeep
  have hcan : s.CanWrite t d json := by
    have hfiles : made.writeText (Run.outputFile (.ofText "site".toList) d.slug) json =
        .ok (made.put ["site".toList, "x.json".toList] (.file json.toUtf8)) := by
      rw [hslug]
      rfl
    exact Setup.canWrite_of_text hname hmade hfiles
  have hfile : t.find? (.ofText path) = .ok (some (.file text.toUtf8)) := rfl
  obtain ⟨hmake, r, hr, -⟩ := Setup.exists_all_of_canWrite hfile rfl hdocument hjson hcan
  have hcompiled : (run compileHost t [] [] (.compile path none reserved none)).exit = 0 :=
    exit_eq_zero_iff.2 (fault?_compile_eq_none_iff.2 ⟨s, r, hload, hmake, hr, Setup.canPrint_of_text hname⟩)
  obtain ⟨hexit, hcontent⟩ := show_agrees [] [] hfile rfl hagree (Setup.forall_of_work? hwork hcan)
  have hshown := (hexit.1 hcompiled).1
  obtain ⟨s'', d'', json'', hload'', hdocument'', houtput, hread, -⟩ := hcontent hshown
  obtain rfl : s = s'' := Except.ok.inj (hload.symm.trans hload'')
  obtain rfl : d = d'' := Except.ok.inj (hdocument.symm.trans hdocument'')
  rw [Setup.out_of_text hname, hslug] at hread
  exact ⟨json'', hshown, houtput, hcompiled, hread⟩

/-- The two do not agree where the name of the output directory cannot be printed: the document is shown, and it is written,
but the run fails when it tells so. Nor do they agree where two processes go over a set in another order. -/
theorem show_disagrees :
    (let t := FileTree.ofTexts [("config.yaml", "output_dir: \"\\udc80\"\n"), ("a.md", "A")]
      let path := "a.md".toList
      let showHost := Runtime.usual.hostFor (.show path [])
      let compileHost := Runtime.usual.hostFor (.compile path none [] none)
      (∃ octets, t.find? (.ofText path) = .ok (some (.file octets))) ∧ (Path.ofText path).isSource = true ∧
        (∀ s d json, Setup.load compileHost t [] (Command.compile path none [] none).overrides = .ok s →
          s.compiler.document t (.ofText path) = .ok d → d.toJson documentLayout = .ok json →
          '/' ∉ d.slug ∧ '\x00' ∉ d.slug ∧ s.CanWrite t d json) ∧
        (run showHost t [] [] (.show path [])).exit = 0 ∧
        (run compileHost t [] [] (.compile path none [] none)).exit = 1) ∧
    (let t := FileTree.ofTexts [("a.md", "---\na: !!set \x7bb, c\x7d\n---\n")]
      let path := "a.md".toList
      let showHost := Runtime.usual.hostFor (.show path [])
      let compileHost := (⟨List.reverse, 1000⟩ : Runtime).hostFor (.compile path none [] none)
      ∃ json json', (run showHost t [] [] (.show path [])).exit = 0 ∧
        (run showHost t [] [] (.show path [])).output = json ++ ['\n'] ∧
        (run compileHost t [] [] (.compile path none [] none)).exit = 0 ∧
        (run compileHost t [] [] (.compile path none [] none)).files.read ⟨0, ["dist".toList, "a.json".toList]⟩ =
          .ok json'.toUtf8 ∧ json ≠ json') := by
  refine ⟨?directory, ?order⟩
  case directory =>
    intro t path showHost compileHost
    let out : Path := ⟨0, [['\uFFFD']]⟩
    let made := t.put [['\uFFFD']] .directory
    have hmade : t.ensureDirectory out = (made, none) := by
      rw [FileTree.ensureDirectory]
      rfl
    have hcompile : (Setup.work? compileHost t [] (Command.compile path none [] none).overrides (.ofText path)).any
        (fun w => w.setup.settings.outputDir = .codes [0xDC80] ∧ w.document.slug = "a".toList) = true := by
      decide +kernel
    have hshow : (Setup.work? showHost t [] (Command.show path []).overrides (.ofText path)).isSome = true := by
      decide +kernel
    obtain ⟨⟨s', d', json'⟩, hwork'⟩ := Option.isSome_iff_exists.1 hshow
    obtain ⟨⟨s, d, json⟩, hwork, hcompile⟩ := (Option.any_eq_true _ _).1 hcompile
    have hload := (Setup.work?_eq_some_iff.1 hwork).1
    obtain ⟨hname, hslug⟩ := of_decide_eq_true hcompile
    dsimp only at hname hslug
    have hpath : s.out = out := by
      rw [Setup.out, hname]
      rfl
    have hcan : s.CanWrite t d json := by
      refine ⟨?_, made, made.put [['\uFFFD'], "a.json".toList] (.file json.toUtf8), ?_, ?_⟩
      · rw [Setup.makeFault?, hname]
        rfl
      · rw [hpath, hmade]
      · rw [hpath, hslug]
        rfl
    -- What stands before the name does not matter: not even the name alone can be printed.
    have hprint : ¬ s.CanPrint := by
      intro hprint
      have hnone := hprint []
      rw [Setup.printFault?, hname] at hnone
      cases hnone
    refine ⟨⟨_, rfl⟩, rfl, Setup.forall_of_work? hwork ?_, (run_show_of_work? [] (by decide) hwork').1,
      exit_compile_of_not_canPrint [] hload hprint⟩
    rw [hslug]
    exact ⟨by decide, by decide, hcan⟩
  case order =>
    intro t path showHost compileHost
    let made := t.put ["dist".toList] .directory
    have hmade : t.ensureDirectory (.ofText "dist".toList) = (made, none) := by
      rw [FileTree.ensureDirectory]
      rfl
    have hboth : (Setup.work? showHost t [] (Command.show path []).overrides (.ofText path)).any (fun shown =>
        (Setup.work? compileHost t [] (Command.compile path none [] none).overrides (.ofText path)).any fun w =>
          w.setup.settings.outputDir = .text "dist".toList ∧ w.document.slug = "a".toList ∧ shown.json ≠ w.json) =
            true := by
      decide +kernel
    obtain ⟨⟨s', d', json'⟩, hwork', hboth⟩ := (Option.any_eq_true _ _).1 hboth
    obtain ⟨⟨s, d, json⟩, hwork, hboth⟩ := (Option.any_eq_true _ _).1 hboth
    obtain ⟨hname, hslug, hne⟩ := of_decide_eq_true hboth
    dsimp only at hname hslug
    obtain ⟨hload, hdocument, hjson⟩ := Setup.work?_eq_some_iff.1 hwork
    have hcan : s.CanWrite t d json := by
      have hfiles : made.writeText (Run.outputFile (.ofText "dist".toList) d.slug) json =
          .ok (made.put ["dist".toList, "a.json".toList] (.file json.toUtf8)) := by
        rw [hslug]
        rfl
      exact Setup.canWrite_of_text hname hmade hfiles
    obtain ⟨hmake, r, hr, hread⟩ := Setup.exists_all_of_canWrite rfl rfl hdocument hjson hcan
    rw [Setup.out_of_text hname, hslug] at hread
    obtain ⟨hexit, houtput⟩ := run_show_of_work? [] (by decide) hwork'
    refine ⟨json', json, hexit, houtput, ?_, ?_, hne⟩
    · rw [run_compile hload hmake hr (Setup.canPrint_of_text hname)]
    · rw [run_compile hload hmake hr (Setup.canPrint_of_text hname)]
      exact hread

end Command

end TagDoc
