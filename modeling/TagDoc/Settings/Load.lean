import TagDoc.Files.Reading
import TagDoc.Settings.Basic

/-!
# Loading settings

Settings come from three sources, each of which takes the place of those before it: a file in the directory in
use, variables of the environment, and what is given for a single run. A variable that is empty, or a value
that is null, is not given.

The file should hold a mapping. Where it holds another value, that shows when the other sources are put into it
or when the fields are read from it.

## Main definitions

* `Environment`, `Environment.fields`: what variables set
* `Settings.merge`: the three sources put together
* `Settings.load`
-/

namespace TagDoc

/-- Variables and their values. -/
abbrev Environment := List (Text × Text)

/-- The variable for a field. -/
def variableName (field : String) : Text := "DOCBLOCK_".toList ++ field.toList.map Char.toUpper

/-- The values that variables give to fields, in the order of the fields. -/
def Environment.fields (env : Environment) : Entries :=
  Settings.fieldNames.filterMap fun field =>
    match env.lookup (variableName field) with
    | some [] | none => none
    | some t => some (.str field.toList, .str t)

/-- Why sources cannot be put together: the value of the file takes no entries, neither one by one nor all at
once, or it is no mapping, or one of its keys is no text. -/
inductive MergeFault where
  | takesNoEntry (v : Value)
  | takesNoEntries (v : Value)
  | notMapping (v : Value)
  | keyNotText
  deriving Repr

/-- The wording of a fault. -/
def MergeFault.message : MergeFault → Text
  | takesNoEntry (.list _) => "list indices must be integers or slices, not str".toList
  | takesNoEntry v => ('\x27' :: v.fullTypeName.toList) ++ "' object does not support item assignment".toList
  | takesNoEntries v => ('\x27' :: v.fullTypeName.toList) ++ "' object has no attribute 'update'".toList
  | notMapping v =>
    "docblock.config.Settings() argument after ** must be a mapping, not ".toList ++ v.fullTypeName.toList
  | keyNotText => "keywords must be strings".toList

/-- Why there are no settings. -/
inductive ConfigFault where
  | unreadable (fault : ReadFault)
  | yaml (source : Text) (fault : Yaml.Fault)
  | merge (fault : MergeFault)
  | settings (fault : SettingsFault)
  deriving Repr

namespace ConfigFault

/-- What the wording of a fault in YAML begins with. -/
def yamlStart : Text := "Invalid config.yaml: ".toList

/-- The wording of a fault. One of YAML that belongs to no stage of reading speaks for itself. -/
def message : ConfigFault → Text
  | unreadable fault => fault.message
  | yaml source fault => (if fault.stage?.isSome then yamlStart else []) ++ fault.message source
  | merge fault => fault.message
  | settings fault => fault.message

/-- Whether the fault says that what the user wrote is wrong. -/
def isForeseen : ConfigFault → Bool
  | unreadable (.encoding _) => true
  | unreadable (.file fault) => fault.cause == .zeroCharacter
  | yaml _ fault => fault.isForeseen
  | merge _ => false
  | settings (.invalid _) => true
  | settings (.optionsTooDeep ..) => false

end ConfigFault

namespace Settings

/-- The file with settings. -/
def file : Path := ⟨0, ["config.yaml".toList]⟩

/-- The value of the file, with entries put into it one by one. -/
def assign (v : Value) (entries : Entries) : Except MergeFault Value :=
  match v, entries with
  | v, [] => .ok v
  | .map es, entries => .ok (.map (entries.foldl (fun es (k, v) => Entries.insert es k v) es))
  | v, _ => .error (.takesNoEntry v)

/-- The value of the file, with entries put into it all at once. A set takes the keys, and stays a set. -/
def update (v : Value) (entries : Entries) : Except MergeFault Value :=
  match v with
  | .map es => .ok (.map (entries.foldl (fun es (k, v) => Entries.insert es k v) es))
  | .set vs => .ok (.set vs)
  | v => .error (.takesNoEntries v)

/-- Whether a value is text. -/
def isText : Value → Bool
  | .str _ | .codes _ => true
  | _ => false

/-- The entries of a value, which must have text for keys. -/
def entriesOf : Value → Except MergeFault Entries
  | .map es => if es.all fun (k, _) => isText k then .ok es else .error .keyNotText
  | v => .error (.notMapping v)

/-- The entries that are given for a run. -/
def given (overrides : Entries) : Entries := overrides.filter fun (_, v) => !(v matches .null)

/-- The sources put together: the value of the file, where one that does not count is an empty mapping, the
environment, and what is given for the run, if it has any entries at all. -/
def merge (v : Value) (env : Environment) (overrides : Entries) : Except MergeFault Entries := do
  let v ← assign (if v.isTruthy then v else .map []) env.fields
  let v ← if overrides.isEmpty then pure v else update v (given overrides)
  entriesOf v

/-- The value of the file with settings; null if there is no file. -/
def readFile (load : Text → Except Yaml.Fault Value) (t : FileTree) : Except ConfigFault Value :=
  if t.contains file then
    match t.readText file with
    | .error fault => .error (.unreadable fault)
    | .ok text => (load text).mapError (.yaml text)
  else .ok .null

/-- The settings that hold in the directory in use; `load` reads YAML, and options in JSON may be nested to a depth. -/
def load (load : Text → Except Yaml.Fault Value) (depth : Nat) (t : FileTree) (env : Environment) (overrides : Entries) :
    Except ConfigFault Settings := do
  let v ← readFile load t
  let entries ← (merge v env overrides).mapError .merge
  (ofEntries depth entries).mapError .settings

end Settings

end TagDoc
