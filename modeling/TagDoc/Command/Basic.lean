import TagDoc.Text.Basic

/-!
# The command line

There are two commands. One compiles all sources below a path and writes them to files; the other compiles one
source and shows its document. Options stand before or behind the path, and what comes after two hyphens is no
option.

## Main definitions

* `Command`
* `Command.ofArguments?`: the command that arguments make, if they make one
-/

namespace TagDoc

/-- What can be asked for on the command line. -/
inductive Command where
  | compile (path : Text) (outDir : Option Text) (reserved : List Text) (preset : Option Text)
  | show (path : Text) (reserved : List Text)
  deriving DecidableEq, Repr

/-- The options there are. Each of them takes a value. -/
inductive CommandOption where
  | outDir
  | reserved
  | preset
  deriving DecidableEq, Repr

/-- Arguments read so far: what is no option, and the values of options. The last value counts, but names that
are reserved add up. -/
structure Arguments where
  paths : List Text
  outDir : Option Text
  reserved : List Text
  preset : Option Text
  deriving DecidableEq, Repr

namespace Arguments

/-- No arguments. -/
def none : Arguments := ⟨[], .none, [], .none⟩

/-- Arguments with one more that is no option. -/
def addPath (a : Arguments) (t : Text) : Arguments := { a with paths := a.paths ++ [t] }

/-- Arguments with the value of an option. -/
def set (a : Arguments) (o : CommandOption) (v : Text) : Arguments :=
  match o with
  | .outDir => { a with outDir := some v }
  | .reserved => { a with reserved := a.reserved ++ [v] }
  | .preset => { a with preset := some v }

end Arguments

/-- The option of a long name. -/
def CommandOption.ofLongName? (name : Text) : Option CommandOption :=
  match String.ofList name with
  | "--out-dir" => some .outDir
  | "--reserved-tag" => some .reserved
  | "--preset" => some .preset
  | _ => none

/-- Whether an argument has the form of an option. -/
def isOptionLike (t : Text) : Bool := t.head? == some '-' && 1 < t.length

/-- The option in an argument, with its value if that is in the same argument: behind an equals sign for a long
name, right behind the letter for a short one. -/
def CommandOption.find? (known : List CommandOption) (t : Text) : Option (CommandOption × Option Text) :=
  let name := t.takeWhile (· != '=')
  let value := match t.dropWhile (· != '=') with
    | [] => none
    | _ :: v => some v
  match ofLongName? name, t with
  | some o, _ => if known.contains o then some (o, value) else none
  | none, ['-', 'r'] => some (.reserved, none)
  | none, '-' :: 'r' :: v => some (.reserved, some v)
  | none, _ => none

/-- Arguments read after others; none if they cannot be understood. -/
def readArguments (known : List CommandOption) (a : Arguments) : List Text → Option Arguments
  | [] => some a
  | t :: rest =>
    if t = ['-', '-'] then some (rest.foldl Arguments.addPath a)
    else if isOptionLike t then
      match CommandOption.find? known t, rest with
      | some (o, some v), rest => readArguments known (a.set o v) rest
      | some (o, none), v :: rest => readArguments known (a.set o v) rest
      | some (_, none), [] => none
      | none, _ => none
    else readArguments known (a.addPath t) rest

namespace Command

/-- The command of a name, with its arguments. -/
def ofNamed? (name : Text) (arguments : List Text) : Option Command :=
  match String.ofList name with
  | "compile" =>
    match readArguments [.outDir, .reserved, .preset] .none arguments with
    | some ⟨[path], outDir, reserved, preset⟩ => some (.compile path outDir reserved preset)
    | _ => none
  | "show" =>
    match readArguments [.reserved] .none arguments with
    | some ⟨[path], _, reserved, _⟩ => some (.show path reserved)
    | _ => none
  | _ => none

/-- The command that arguments make, if they make one. The name of the command comes first; two hyphens can stand
before it. -/
def ofArguments? : List Text → Option Command
  | ['-', '-'] :: name :: arguments => ofNamed? name arguments
  | name :: arguments => ofNamed? name arguments
  | [] => none

end Command

end TagDoc
