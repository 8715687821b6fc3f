import TagDoc.Compiler
import TagDoc.Json.Reader

/-!
# Settings

What can be set, the values that hold unless others are given, and how plain data is checked to be settings.
Two of the fields also take text that stands for something else: names between commas, and options in JSON. Options may be
nested to a depth only.

## Main definitions

* `Settings`, `Settings.default`
* `Settings.cleanNames`: the names in a value, each without white space and signs before it
* `Settings.ofEntries`: the settings in the entries of a mapping
* `Settings.compiler?`: the compiler that settings ask for
-/

namespace TagDoc

/-- How notices are shown: as lines for people, or as lines of JSON. -/
inductive LogFormat where
  | console
  | json
  deriving DecidableEq, Repr

/-- All that can be set. -/
structure Settings where
  appName : RawText
  markdownPreset : RawText
  markdownOptions : Entries
  reservedTags : List RawText
  outputDir : RawText
  logLevel : RawText
  logFormat : LogFormat
  deriving Repr

/-- Why data is not accepted as settings: there are issues with it, or options in JSON are nested so deep that
they cannot be read. -/
inductive SettingsFault where
  | invalid (report : Report)
  | optionsTooDeep (source : Text) (fault : Json.Fault)
  deriving Repr

/-- The wording of a fault. -/
def SettingsFault.message : SettingsFault → Text
  | invalid report => report.text
  | optionsTooDeep source fault => fault.message source

namespace Settings

/-- What holds where nothing is set. -/
def default : Settings where
  appName := .text "docblock".toList
  markdownPreset := .text "gfm-like".toList
  markdownOptions := Compiler.defaultOptions
  reservedTags := []
  outputDir := .text "dist".toList
  logLevel := .text "WARNING".toList
  logFormat := .console

/-- The names of the fields, in order. -/
def fieldNames : List String :=
  ["app_name", "markdown_preset", "markdown_options", "reserved_tags", "output_dir", "log_level", "log_format"]

/-! ### Names of tags -/

/-- A name without the white space around it and the signs before it. -/
def cleanName (t : Text) : Text := Text.stripStart (· == '@') t.strip

/-- Whether a code point is white space. Half of a surrogate pair is none. -/
def isSpacePoint (n : Nat) : Bool := Text.isSpace (Char.ofNat n)

/-- The same for a name that is given by its code points. -/
def cleanCodes (points : List Nat) : List Nat :=
  Text.stripStart (· == '@'.toNat) (Text.trim isSpacePoint points)

/-- The clean form of a text that is more than white space; other values are left out. -/
def cleanItem? : Value → Option Value
  | .str t => if t.strip.isEmpty then none else some (.str (cleanName t))
  | .codes points =>
    if (Text.trim isSpacePoint points).isEmpty then none else some (.codes (cleanCodes points))
  | _ => none

/-- What may be names: the items of a list, or the pieces of a text between its commas. -/
def nameItems? : Value → Option (List Value)
  | .str t => some ((Text.splitOn ',' t).map .str)
  | .codes points => some ((Text.splitOn ','.toNat points).map Value.ofCodes)
  | .list vs | .tuple vs => some vs
  | _ => none

/-- The clean names in a list, or in a text that has commas between them. A value of another type stays. -/
def cleanNames (v : Value) : Value :=
  match nameItems? v with
  | some items => .list (items.filterMap cleanItem?)
  | none => v

/-- A list of names. -/
def checkNames : Check (List RawText) := fun v => Check.sequence .notList Check.rawText (cleanNames v)

/-! ### Options of Markdown -/

/-- What a text in JSON stands for, with the text in which a fault has its place; other values are no such text. -/
def readOptions? (depth : Nat) : Value → Option (Text × Except Json.Fault Value)
  | .str t => some (t, Json.read depth true t)
  | .codes points => some (Text.ofPoints points, Json.readCodes depth true points)
  | _ => none

/-- Options, which may be written in JSON. -/
def checkOptions (depth : Nat) : Check Entries := fun v =>
  match readOptions? depth v with
  | none => Check.mapping v
  | some (_, .ok w) => Check.mapping w
  | some (t, .error fault) =>
    let lead := if fault.cause.hasPlace then "markdown_options must be a JSON object: ".toList else []
    Checked.refuse (.refused (lead ++ fault.message t)) v

/-- Whether the fault is that values are nested too deep. -/
def isTooDeep (fault : Json.Fault) : Bool := fault.cause == .arrayTooDeep || fault.cause == .objectTooDeep

/-- The fault of options that are nested too deep to be checked at all. -/
def depthFault? (depth : Nat) (v : Option Value) : Option SettingsFault :=
  match v.bind (readOptions? depth) with
  | some (t, .error fault) => if isTooDeep fault then some (.optionsTooDeep t fault) else none
  | _ => none

/-! ### All fields -/

/-- One of the two formats, by its name. -/
def checkFormat : Check LogFormat := fun v =>
  match Check.text v with
  | .ok (t, _) =>
    if t = "console".toList then Checked.accept .console
    else if t = "json".toList then Checked.accept .json
    else Checked.refuse (.pattern "^(console|json)$".toList) v
  | .error issues => .error issues

/-- The fields of settings; `depth` is how deep options in JSON may be nested. -/
def fields (depth : Nat) : Fields Settings :=
  Settings.mk <$> Fields.optional "app_name" default.appName Check.rawText
    <*> Fields.optional "markdown_preset" default.markdownPreset Check.rawText
    <*> Fields.optional "markdown_options" default.markdownOptions (checkOptions depth)
    <*> Fields.optional "reserved_tags" default.reservedTags checkNames
    <*> Fields.optional "output_dir" default.outputDir Check.rawText
    <*> Fields.optional "log_level" default.logLevel Check.rawText
    <*> Fields.optional "log_format" default.logFormat checkFormat

/-- The settings in the entries of a mapping; entries that are no fields are ignored. -/
def ofEntries (depth : Nat) (entries : Entries) : Except SettingsFault Settings :=
  match depthFault? depth (Entries.getText? entries "markdown_options".toList) with
  | some fault => .error fault
  | none =>
    match (fields depth).read (.map entries) entries with
    | .ok (settings, _) => .ok settings
    | .error issues => .error (.invalid ⟨"Settings", issues⟩)

/-- The compiler of a host that settings ask for; `traces` is whether it tells what it tries. No tag has a name with half of
a surrogate pair in it, so such a name reserves none. -/
def compiler? (s : Settings) (host : Host) (traces : Bool := false) : Except UnknownDialect Compiler :=
  Compiler.ofDialect? host (s.reservedTags.filterMap RawText.text?) s.markdownPreset s.markdownOptions traces

end Settings

end TagDoc
