import Mathlib.Data.List.TakeWhile
import TagDoc.Command.Run
import TagDoc.Proofs.Step

/-!
# How commands end

A command ends well, with what it shows, or it ends with a fault. Which fault that is does not depend on the time, and
neither does anything else but the lines of the log. All this holds of every host.

## Main definitions

* `Setup.CanPrint`: the name of the output directory can be printed
* `Command.fault?`: the fault that ends a command
* `Command.EndsBy`: where it comes from

## Main results

* `Command.endsBy_of_fault`: all the faults that can end a command
* `Command.exists_run_of_fault`: what a command leaves that ends with a fault
* `Command.fault?_show_eq_none_iff`, `Command.fault?_compile_eq_none_iff`: what it takes for a command to end well
* `Command.exit_eq_zero_iff`: the exit code tells whether it did
-/

namespace TagDoc

variable {h : Host} {t : FileTree} {env : Environment} {stamp path : Text} {reserved : List Text}
  {outDir preset : Option Text} {command : Command} {f : CommandFault} {s : Setup}

/-! ### Names that cannot be printed -/

theorem encodeFault?_eq_none_iff {passes : Nat → Bool} {points : List Nat} :
    encodeFault? passes points = none ↔ ∀ point ∈ points, isHalf point = true → passes point = true := by
  have hdrop : encodeFault? passes points = none ↔
      points.dropWhile (fun point => !(isHalf point && !passes point)) = [] := by
    rw [encodeFault?]
    cases points.dropWhile (fun point => !(isHalf point && !passes point)) <;> simp
  rw [hdrop, List.dropWhile_eq_nil_iff]
  refine forall₂_congr fun point _ => ?_
  cases isHalf point <;> cases passes point <;> simp

/-- A character is no half of a surrogate pair. -/
theorem isHalf_toNat (c : Char) : isHalf c.toNat = false := by
  have hvalid : c.toNat.isValidChar := c.valid
  rw [isHalf, decide_eq_true hvalid, Bool.not_true]

namespace Setup

/-- The name of the output directory can be printed, whatever stands before it. -/
def CanPrint (s : Setup) : Prop := ∀ before, s.printFault? before = none

theorem printFault?_eq_none_iff {before : Text} : s.printFault? before = none ↔ s.printFault? [] = none := by
  rw [printFault?, printFault?]
  cases s.settings.outputDir with
  | text name => exact Iff.rfl
  | codes points =>
    rw [encodeFault?_eq_none_iff, encodeFault?_eq_none_iff, List.map_nil, List.nil_append, List.forall_mem_append]
    refine and_iff_right fun point hpoint hhalf => ?_
    obtain ⟨c, -, rfl⟩ := List.mem_map.1 hpoint
    rw [isHalf_toNat] at hhalf
    cases hhalf

theorem canPrint_iff (before : Text) : s.CanPrint ↔ s.printFault? before = none :=
  ⟨fun h => h before, fun h _ => printFault?_eq_none_iff.2 (printFault?_eq_none_iff.1 h)⟩

/-- A directory whose name is a text can be made. -/
theorem makeFault?_of_text {name : Text} (hname : s.settings.outputDir = .text name) : s.makeFault? = none := by
  rw [makeFault?, hname]

/-- And its name can be printed. -/
theorem canPrint_of_text {name : Text} (hname : s.settings.outputDir = .text name) : s.CanPrint := fun before => by
  rw [printFault?, hname]

end Setup

/-! ### Compilers of commands -/

/-- The compiler of a command loads front matter as its host does. -/
theorem Setup.load_compiler {overrides : Entries} (hload : load h t env overrides = .ok s) :
    s.compiler.load = h.loadMetadata := by
  rw [load] at hload
  simp only [bind_eq_ok_iff, mapError_eq_ok_iff] at hload
  obtain ⟨settings, -, threshold, -, c, hc, hs⟩ := hload
  cases hs
  rw [Settings.compiler?, Compiler.ofDialect?] at hc
  split at hc
  · cases hc
  · cases hc
    rfl

/-! ### Faults that end commands -/

theorem CommandFault.exit_outcome (f : CommandFault) (log : Text) (files : FileTree) : (f.outcome log files).exit = 1 := by
  rw [outcome]
  split <;> rfl

theorem CommandFault.files_outcome (f : CommandFault) (log : Text) (files : FileTree) :
    (f.outcome log files).files = files := by
  rw [outcome]
  split <;> rfl

namespace Command

/-- The fault that ends the work on all sources below a path, if one does. -/
def compileFault? (s : Setup) (t : FileTree) (path : Text) : Option CommandFault :=
  match s.makeFault? with
  | some fault => some (.unencodable fault)
  | none =>
    match Run.all s.compiler t (.ofText path) s.out with
    | .ok r => (s.printFault? (beforeName s.out r.outputs).2).map .unprintable
    | .error stopped => some (.run stopped.fault)

/-- The fault that ends the work on one source, if one does. -/
def showFault? (s : Setup) (t : FileTree) (p : Path) : Option CommandFault :=
  match s.compiler.document t p with
  | .error fault => some (.document p fault)
  | .ok d =>
    match d.toJson documentLayout with
    | .error fault => some (.unwritable fault)
    | .ok _ => none

/-- The fault that ends a command, if one does. -/
def fault? (h : Host) (t : FileTree) (env : Environment) (command : Command) : Option CommandFault :=
  match command with
  | compile path .. =>
    match Setup.load h t env command.overrides with
    | .error fault => some fault
    | .ok s => compileFault? s t path
  | .show path _ =>
    if path.contains '\x00' then some (.path ⟨.zeroCharacter, .ofText path⟩)
    else
      match Setup.load h t env command.overrides with
      | .error fault => some fault
      | .ok s => showFault? s t (.ofText path)

/-- Where the fault comes from that ends a command: from its path, from setting it up, from its work, or from telling of
it. -/
inductive EndsBy (h : Host) (t : FileTree) (env : Environment) : Command → CommandFault → Prop
  | path {path : Text} {reserved : List Text} (hzero : '\x00' ∈ path) :
      EndsBy h t env (.show path reserved) (.path ⟨.zeroCharacter, .ofText path⟩)
  | showSetup {path : Text} {reserved : List Text} {fault : CommandFault} (hzero : '\x00' ∉ path)
      (hload : Setup.load h t env (Command.show path reserved).overrides = .error fault) :
      EndsBy h t env (.show path reserved) fault
  | document {path : Text} {reserved : List Text} {s : Setup} {fault : DocumentFault} (hzero : '\x00' ∉ path)
      (hload : Setup.load h t env (Command.show path reserved).overrides = .ok s)
      (hdocument : s.compiler.document t (.ofText path) = .error fault) :
      EndsBy h t env (.show path reserved) (.document (.ofText path) fault)
  | json {path : Text} {reserved : List Text} {s : Setup} {d : Document} {fault : Json.WriteFault} (hzero : '\x00' ∉ path)
      (hload : Setup.load h t env (Command.show path reserved).overrides = .ok s)
      (hdocument : s.compiler.document t (.ofText path) = .ok d) (hjson : d.toJson documentLayout = .error fault) :
      EndsBy h t env (.show path reserved) (.unwritable fault)
  | compileSetup {path : Text} {outDir preset : Option Text} {reserved : List Text} {fault : CommandFault}
      (hload : Setup.load h t env (Command.compile path outDir reserved preset).overrides = .error fault) :
      EndsBy h t env (.compile path outDir reserved preset) fault
  | directory {path : Text} {outDir preset : Option Text} {reserved : List Text} {s : Setup} {fault : EncodeFault}
      (hload : Setup.load h t env (Command.compile path outDir reserved preset).overrides = .ok s)
      (hmake : s.makeFault? = some fault) : EndsBy h t env (.compile path outDir reserved preset) (.unencodable fault)
  | run {path : Text} {outDir preset : Option Text} {reserved : List Text} {s : Setup} {stopped : Stopped}
      (hload : Setup.load h t env (Command.compile path outDir reserved preset).overrides = .ok s)
      (hmake : s.makeFault? = none) (hrun : Run.all s.compiler t (.ofText path) s.out = .error stopped) :
      EndsBy h t env (.compile path outDir reserved preset) (.run stopped.fault)
  | listing {path : Text} {outDir preset : Option Text} {reserved : List Text} {s : Setup} {r : Run} {fault : EncodeFault}
      (hload : Setup.load h t env (Command.compile path outDir reserved preset).overrides = .ok s)
      (hmake : s.makeFault? = none) (hrun : Run.all s.compiler t (.ofText path) s.out = .ok r)
      (hprint : s.printFault? (beforeName s.out r.outputs).2 = some fault) :
      EndsBy h t env (.compile path outDir reserved preset) (.unprintable fault)

theorem endsBy_of_fault (hfault : fault? h t env command = some f) : EndsBy h t env command f := by
  -- The stages of a command in their order: the first that fails decides, so the later ones are looked at only if it ends
  -- well.
  cases command with
  | compile path outDir reserved preset =>
    rw [fault?] at hfault
    cases hload : Setup.load h t env (compile path outDir reserved preset).overrides with
    | error fault =>
      rw [hload] at hfault
      cases hfault
      exact .compileSetup hload
    | ok s =>
      rw [hload] at hfault
      cases hmake : s.makeFault? with
      | some fault =>
        simp only [compileFault?, hmake, Option.some.injEq] at hfault
        subst hfault
        exact .directory hload hmake
      | none =>
        cases hrun : Run.all s.compiler t (.ofText path) s.out with
        | ok r =>
          simp only [compileFault?, hmake, hrun, Option.map_eq_some_iff] at hfault
          obtain ⟨fault, hprint, rfl⟩ := hfault
          exact .listing hload hmake hrun hprint
        | error stopped =>
          simp only [compileFault?, hmake, hrun, Option.some.injEq] at hfault
          subst hfault
          exact .run hload hmake hrun
  | «show» path reserved =>
    rw [fault?] at hfault
    by_cases hzero : '\x00' ∈ path
    · rw [if_pos (by simpa using hzero)] at hfault
      cases hfault
      exact .path hzero
    · rw [if_neg (by simpa using hzero)] at hfault
      cases hload : Setup.load h t env (Command.show path reserved).overrides with
      | error fault =>
        rw [hload] at hfault
        cases hfault
        exact .showSetup hzero hload
      | ok s =>
        rw [hload] at hfault
        cases hdocument : s.compiler.document t (.ofText path) with
        | error fault =>
          simp only [showFault?, hdocument, Option.some.injEq] at hfault
          subst hfault
          exact .document hzero hload hdocument
        | ok d =>
          cases hjson : d.toJson documentLayout with
          | ok json => simp [showFault?, hdocument, hjson] at hfault
          | error fault =>
            simp only [showFault?, hdocument, hjson, Option.some.injEq] at hfault
            subst hfault
            exact .json hzero hload hdocument hjson

/-- A command that ends with a fault leaves what that fault leaves, behind some lines of the log and some that it has
printed. -/
theorem exists_run_of_fault (hfault : fault? h t env command = some f) (stamp : Text) :
    ∃ log printed files, Command.run h t env stamp command = { f.outcome log files with output := printed } := by
  -- nothing is printed but where the work is done
  have hnothing (f : CommandFault) (log : Text) (files : FileTree) :
      ∃ log' printed files', f.outcome log files = { f.outcome log' files' with output := printed } :=
    ⟨log, (f.outcome log files).output, files, rfl⟩
  cases endsBy_of_fault hfault with
  | path hzero =>
    rw [Command.run, if_pos (by simpa using hzero)]
    exact hnothing _ _ _
  | showSetup hzero hload =>
    rw [Command.run, if_neg (by simpa using hzero), hload]
    exact hnothing _ _ _
  | document hzero hload hdocument =>
    rw [Command.run, if_neg (by simpa using hzero), hload]
    simp only [showOne, hdocument]
    exact hnothing _ _ _
  | json hzero hload hdocument hjson =>
    rw [Command.run, if_neg (by simpa using hzero), hload]
    simp only [showOne, hdocument, hjson]
    exact hnothing _ _ _
  | compileSetup hload =>
    rw [Command.run, hload]
    exact hnothing _ _ _
  | directory hload hmake =>
    rw [Command.run, hload]
    simp only [compileAll, hmake]
    exact hnothing _ _ _
  | run hload hmake hrun =>
    rw [Command.run, hload]
    simp only [compileAll, hmake, hrun]
    exact hnothing _ _ _
  | listing hload hmake hrun hprint =>
    rw [Command.run, hload]
    simp only [compileAll, hmake, hrun, tellOutputs, hprint]
    exact ⟨_, _, _, rfl⟩

theorem exit_of_fault (hfault : fault? h t env command = some f) (stamp : Text) :
    (run h t env stamp command).exit = 1 := by
  obtain ⟨log, printed, files, hrun⟩ := exists_run_of_fault hfault stamp
  rw [hrun]
  exact f.exit_outcome log files

theorem compileFault?_eq_none_iff :
    compileFault? s t path = none ↔
      s.makeFault? = none ∧ ∃ r, Run.all s.compiler t (.ofText path) s.out = .ok r ∧ s.CanPrint := by
  rw [compileFault?]
  cases s.makeFault? with
  | some fault => simp
  | none =>
    cases Run.all s.compiler t (.ofText path) s.out with
    | error stopped => simp
    | ok r => simp [s.canPrint_iff (beforeName s.out r.outputs).2]

theorem showFault?_eq_none_iff {p : Path} :
    showFault? s t p = none ↔
      ∃ d json, s.compiler.document t p = .ok d ∧ d.toJson documentLayout = .ok json := by
  rw [showFault?]
  split
  · rename_i fault hfault
    simp [hfault]
  · rename_i d hd
    simp only [hd, Except.ok.injEq, exists_and_left, exists_eq_left']
    split <;> simp [*]

/-- To show a source ends well if it has a document that can be written, and then that is shown. -/
theorem fault?_show_eq_none_iff :
    fault? h t env (.show path reserved) = none ↔
      '\x00' ∉ path ∧ ∃ s d json, Setup.load h t env (Command.show path reserved).overrides = .ok s ∧
        s.compiler.document t (.ofText path) = .ok d ∧ d.toJson documentLayout = .ok json := by
  rw [fault?]
  by_cases hzero : '\x00' ∈ path
  · simp [hzero]
  · rw [if_neg (by simpa using hzero)]
    cases hload : Setup.load h t env (Command.show path reserved).overrides with
    | error fault => simp
    | ok s => simp [hzero, showFault?_eq_none_iff]

theorem run_show {d : Document} {json : Text} (hzero : '\x00' ∉ path)
    (hload : Setup.load h t env (Command.show path reserved).overrides = .ok s)
    (hdocument : s.compiler.document t (.ofText path) = .ok d) (hjson : d.toJson documentLayout = .ok json) :
    run h t env stamp (.show path reserved) =
      ⟨0, json ++ ['\n'], s.log stamp (s.compiler.documentNotices t (.ofText path)), none, t⟩ := by
  rw [run, if_neg (by simpa using hzero), hload]
  simp only [showOne, hdocument, hjson]

/-- To compile ends well if the output directory can be made, the run comes to its end, and what it has written can be
told. Then its files are left. -/
theorem fault?_compile_eq_none_iff :
    fault? h t env (.compile path outDir reserved preset) = none ↔
      ∃ s r, Setup.load h t env (Command.compile path outDir reserved preset).overrides = .ok s ∧
        s.makeFault? = none ∧ Run.all s.compiler t (.ofText path) s.out = .ok r ∧ s.CanPrint := by
  rw [fault?]
  cases hload : Setup.load h t env (Command.compile path outDir reserved preset).overrides with
  | error fault => simp
  | ok s => simp [compileFault?_eq_none_iff]

theorem run_compile {r : Run} (hload : Setup.load h t env (Command.compile path outDir reserved preset).overrides = .ok s)
    (hmake : s.makeFault? = none) (hall : Run.all s.compiler t (.ofText path) s.out = .ok r) (hprint : s.CanPrint) :
    run h t env stamp (.compile path outDir reserved preset) =
      ⟨0, listing s.out r.outputs, s.log stamp r.notices, none, r.files⟩ := by
  rw [run, hload]
  simp only [compileAll, hmake, hall, tellOutputs, hprint _]

/-- A run that comes to its end leaves its files, whether what it has written can be told or not. -/
theorem files_run_compile {r : Run}
    (hload : Setup.load h t env (Command.compile path outDir reserved preset).overrides = .ok s)
    (hmake : s.makeFault? = none) (hall : Run.all s.compiler t (.ofText path) s.out = .ok r) :
    (run h t env stamp (.compile path outDir reserved preset)).files = r.files := by
  rw [run, hload]
  simp only [compileAll, hmake, hall, tellOutputs]
  cases s.printFault? (beforeName s.out r.outputs).2 with
  | none => rfl
  | some fault => exact CommandFault.files_outcome _ _ _

/-- A command ends well just if no fault ends it. -/
theorem exit_eq_zero_iff : (run h t env stamp command).exit = 0 ↔ fault? h t env command = none := by
  constructor
  · intro hexit
    cases hfault : fault? h t env command with
    | none => rfl
    | some f =>
      rw [exit_of_fault hfault] at hexit
      cases hexit
  · intro hfault
    cases command with
    | compile path outDir reserved preset =>
      obtain ⟨s, r, hload, hmake, hall, hprint⟩ := fault?_compile_eq_none_iff.1 hfault
      rw [run_compile hload hmake hall hprint]
    | «show» path reserved =>
      obtain ⟨hzero, s, d, json, hload, hdocument, hjson⟩ := fault?_show_eq_none_iff.1 hfault
      rw [run_show hzero hload hdocument hjson]

end Command

end TagDoc
