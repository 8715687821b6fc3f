import TagDoc.Command.Basic
import TagDoc.Proofs.Text.Run

/-!
# What a command line says

The words of a command line make up arguments: paths, and options with their values. An option and its value are written
in two words or in one. A name is reserved by an option, and the names of all these options add up in order, wherever they
stand among the other arguments.

## Main definitions

* `Argument`: a path, or an option with its value
* `Argument.Written`: the ways to write an argument
* `CommandLine`: the arguments that words make up
* `Command.reserved`: the names that a command reserves

## Main results

* `eq_of_readArguments`: words are read as the arguments that they make up
* `Command.reserved_eq`: a command reserves the names that its line says
-/

namespace TagDoc

open Text

/-- What words of a command line say: a path, or an option with its value. -/
inductive Argument where
  | path (t : Text)
  | option (o : CommandOption) (v : Text)
  deriving DecidableEq, Repr

/-- The name that is reserved by an argument. -/
def Argument.reserved? : Argument → Option Text
  | option .reserved v => some v
  | _ => none

/-- Arguments read so far, with one more. -/
def Arguments.add (a : Arguments) : Argument → Arguments
  | .path t => a.addPath t
  | .option o v => a.set o v

/-- The long name of an option, with its hyphens. -/
def CommandOption.longName : CommandOption → Text
  | outDir => "--out-dir".toList
  | reserved => "--reserved-tag".toList
  | preset => "--preset".toList

/-- The ways to write an argument. What reserves a name can be shortened to a letter. -/
inductive Argument.Written : Argument → List Text → Prop
  | path {t : Text} (hplain : isOptionLike t = false) : Written (path t) [t]
  | long (o : CommandOption) (v : Text) : Written (option o v) [o.longName, v]
  | longWith (o : CommandOption) (v : Text) : Written (option o v) [o.longName ++ '=' :: v]
  | short (v : Text) : Written (option .reserved v) ["-r".toList, v]
  | shortWith {v : Text} (hne : v ≠ []) : Written (option .reserved v) ["-r".toList ++ v]

/-- The arguments that words make up. Behind two hyphens all words are paths. -/
inductive CommandLine : List Argument → List Text → Prop
  | nil : CommandLine [] []
  | paths (paths : List Text) : CommandLine (paths.map .path) (['-', '-'] :: paths)
  | cons {item : Argument} {items : List Argument} {words rest : List Text} (h : item.Written words) (hrest : CommandLine items rest) :
       CommandLine (item :: items) (words ++ rest)

/-- The names that a command reserves. -/
def Command.reserved : Command → List Text
  | compile _ _ reserved _ => reserved
  | .show _ reserved => reserved

/-! ### One argument -/

variable {known : List CommandOption} {a a' : Arguments} {item : Argument} {items : List Argument} {o : CommandOption}
  {t v : Text} {words rest args : List Text}

namespace CommandOption

theorem ofLongName?_longName (o : CommandOption) : ofLongName? o.longName = some o := by
  cases o <;> decide

/-- A long name ends at an equals sign. -/
theorem run_longName (o : CommandOption) (h : ∀ c ∈ t.head?, c = '=') : Text.Run (· != '=') o.longName t where
  all := List.all_eq_true.1 (by cases o <;> rfl)
  stops c hc := by simp [h c hc]

theorem ofLongName?_short (t : Text) : ofLongName? ('-' :: 'r' :: t) = none := by
  rw [ofLongName?]
  split
  · rename_i h
    cases String.ofList_injective (h.trans (String.ofList_toList (s := "--out-dir")).symm)
  · rename_i h
    cases String.ofList_injective (h.trans (String.ofList_toList (s := "--reserved-tag")).symm)
  · rename_i h
    cases String.ofList_injective (h.trans (String.ofList_toList (s := "--preset")).symm)
  · rfl

theorem find?_longName (known : List CommandOption) (o : CommandOption) :
    find? known o.longName = if known.contains o then some (o, none) else none := by
  have hrun := o.run_longName (t := []) nofun
  have htake := hrun.takeWhile_append
  have hdrop := hrun.dropWhile_append
  rw [List.append_nil] at htake hdrop
  simp only [find?, htake, hdrop, ofLongName?_longName]

theorem find?_longName_append (known : List CommandOption) (o : CommandOption) (v : Text) :
    find? known (o.longName ++ '=' :: v) = if known.contains o then some (o, some v) else none := by
  have hrun := o.run_longName (t := '=' :: v) fun c hc => (Option.some.inj hc).symm
  simp only [find?, hrun.takeWhile_append, hrun.dropWhile_append, ofLongName?_longName]

/-- Behind the letter everything is the value, an equals sign too. -/
theorem find?_short (known : List CommandOption) (v : Text) :
    find? known ('-' :: 'r' :: v) = some (.reserved, if v = [] then none else some v) := by
  have hname : ('-' :: 'r' :: v).takeWhile (· != '=') = '-' :: 'r' :: v.takeWhile (· != '=') := rfl
  simp only [find?, hname, ofLongName?_short]
  cases v <;> rfl

/-- A long name is more than two hyphens. -/
theorem exists_longName_eq (o : CommandOption) : ∃ c name, o.longName = '-' :: '-' :: c :: name := by
  cases o with
  | outDir => exact ⟨'o', "ut-dir".toList, by decide⟩
  | reserved => exact ⟨'r', "eserved-tag".toList, by decide⟩
  | preset => exact ⟨'p', "reset".toList, by decide⟩

end CommandOption

/-- Options are told from paths and from two hyphens. -/
def IsOptionWord (t : Text) : Prop := isOptionLike t = true ∧ t ≠ ['-', '-']

theorem isOptionWord_longName_append (o : CommandOption) (t : Text) : IsOptionWord (o.longName ++ t) := by
  obtain ⟨c, name, hname⟩ := o.exists_longName_eq
  rw [hname]
  exact ⟨by simp [isOptionLike], by simp⟩

theorem isOptionWord_short (v : Text) : IsOptionWord ('-' :: 'r' :: v) :=
  ⟨by simp [isOptionLike], by simp⟩

theorem readArguments_of_find? (ht : IsOptionWord t)
    (h : CommandOption.find? known t = some (o, some v)) :
    readArguments known a (t :: rest) = readArguments known (a.set o v) rest := by
  rw [readArguments.eq_def]
  simp only [if_neg ht.2, ht.1, h, if_true]

/-- An option without a value takes the next word for it. -/
theorem readArguments_of_find?_none (ht : IsOptionWord t)
    (h : CommandOption.find? known t = some (o, none)) :
    readArguments known a (t :: v :: rest) = readArguments known (a.set o v) rest := by
  rw [readArguments.eq_def]
  simp only [if_neg ht.2, ht.1, h, if_true]

theorem readArguments_of_not_find? (ht : IsOptionWord t)
    (h : CommandOption.find? known t = none) : readArguments known a (t :: rest) = none := by
  rw [readArguments.eq_def]
  simp only [if_neg ht.2, ht.1, h, if_true]

/-- A word with the name of an option is not read unless the option is known. -/
theorem find?_eq_of_readArguments {v? : Option Text} (ht : IsOptionWord t)
    (hfind : CommandOption.find? known t = if known.contains o then some (o, v?) else none)
    (hread : readArguments known a (t :: rest) = some a') : CommandOption.find? known t = some (o, v?) := by
  by_cases hknown : known.contains o = true
  · rw [hfind, if_pos hknown]
  · rw [if_neg hknown] at hfind
    rw [readArguments_of_not_find? ht hfind] at hread
    cases hread

/-- If words are read at all, reading goes on behind the first argument with that argument added. -/
theorem Argument.Written.readArguments_append (h : item.Written words)
    (hread : readArguments known a (words ++ rest) = some a') :
    readArguments known (a.add item) rest = some a' := by
  cases h with
  | @path t hplain =>
    have hdashes : t ≠ ['-', '-'] := by
      rintro rfl
      cases hplain
    rw [List.singleton_append, readArguments.eq_def] at hread
    simp only [if_neg hdashes, hplain, Bool.false_eq_true, if_false] at hread
    exact hread
  | long o v =>
    have hword : IsOptionWord o.longName := by simpa using isOptionWord_longName_append o []
    have hfind := find?_eq_of_readArguments hword (o.find?_longName known) hread
    exact (readArguments_of_find?_none hword hfind).symm.trans hread
  | longWith o v =>
    have hword := isOptionWord_longName_append o ('=' :: v)
    have hfind := find?_eq_of_readArguments hword (o.find?_longName_append known v) hread
    exact (readArguments_of_find? hword hfind).symm.trans hread
  | short v =>
    exact (readArguments_of_find?_none (isOptionWord_short []) (CommandOption.find?_short known [])).symm.trans hread
  | @shortWith v hne =>
    have hfind := CommandOption.find?_short known v
    rw [if_neg hne] at hfind
    exact (readArguments_of_find? (isOptionWord_short v) hfind).symm.trans hread

/-! ### The whole line -/

theorem foldl_addPath (paths : List Text) (a : Arguments) :
    paths.foldl Arguments.addPath a = (paths.map Argument.path).foldl Arguments.add a := by
  rw [List.foldl_map]
  rfl

/-- If words are read at all, the arguments that they make up are what is read. -/
theorem eq_of_readArguments (hline : CommandLine items args) (hread : readArguments known a args = some a') :
    a' = items.foldl Arguments.add a := by
  induction hline generalizing a with
  | nil =>
    rw [readArguments.eq_def] at hread
    exact (Option.some.inj hread).symm
  | paths paths =>
    rw [readArguments.eq_def] at hread
    exact (Option.some.inj hread).symm.trans (foldl_addPath paths a)
  | cons hwritten _ ih => exact ih (hwritten.readArguments_append hread)

/-- Names are reserved in the order of the arguments. -/
theorem reserved_foldl_add (items : List Argument) (a : Arguments) :
    (items.foldl Arguments.add a).reserved = a.reserved ++ items.filterMap Argument.reserved? := by
  induction items generalizing a with
  | nil => simp
  | cons item items ih =>
    rw [List.foldl_cons, ih]
    obtain t | ⟨_ | _ | _, v⟩ := item
    · rfl
    · rfl
    · simp [Arguments.add, Arguments.set, Argument.reserved?]
    · rfl

/-- A command reserves the names that are said on its line. -/
theorem Command.reserved_eq {name : Text} {command : Command} (hline : CommandLine items args)
    (h : Command.ofNamed? name args = some command) : command.reserved = items.filterMap Argument.reserved? := by
  have hnames (known : List CommandOption) (a : Arguments) (hread : readArguments known .none args = some a) :
      a.reserved = items.filterMap Argument.reserved? := by
    rw [eq_of_readArguments hline hread, reserved_foldl_add]
    rfl
  rw [ofNamed?] at h
  split at h
  · split at h
    · rename_i hread
      cases h
      exact hnames _ _ hread
    · cases h
  · split at h
    · rename_i hread
      cases h
      exact hnames _ _ hread
    · cases h
  · cases h

end TagDoc
