import TagDoc.Value.Literal

/-!
# What can be wrong with a text in YAML

A text in YAML goes through five stages: its characters are checked, it is cut into tokens, the tokens are
read as a tree, names of shared nodes are looked up, and values are made of the nodes. A fault belongs to the
stage that finds it. Beside these, the content of a single node can be refused when it is read as a number, a
date or a character; such a fault belongs to no stage. Neither does the one that collections stand too deep in each other
to be read at all.

## Main definitions

* `Yaml.Mark`: a place in a text
* `Yaml.Fault`, `Yaml.Fault.message`
-/

namespace TagDoc.Yaml

/-- A place in a text: how many characters, how many lines and how many columns come before it. -/
structure Mark where
  index : Nat
  line : Nat
  column : Nat
  deriving DecidableEq, Repr, Inhabited

/-- The stages that find faults. -/
inductive Stage where
  | characters
  | tokens
  | tree
  | names
  | values
  deriving DecidableEq, Repr

/-- Why a text is refused. -/
inductive Fault where
  /-- A fault of a stage, with the reason. -/
  | stage (s : Stage) (reason : String)
  /-- A node that is to be a mapping and is of another kind. -/
  | notMapping (found : String) (mark : Mark)
  | badInteger (base : Nat) (content : Text)
  | tooManyDigits (count : Nat)
  | badNumber (content : Text)
  | tooManyParts
  | emptyNumber
  | noTruthValue (content : Text)
  | noTimestamp
  | time (fault : TimeFault)
  | noCharacter
  | codeTooLarge
  /-- Collections that stand deeper in each other than calls can be nested. -/
  | tooDeep
  deriving DecidableEq, Repr

/-- Whether a character ends a line. -/
def isBreak (c : Char) : Bool := c == '\r' || c == '\n' || c == '\x85' || c == '\u2028' || c == '\u2029'

/-- The longest stretch of a line that is shown before or after a place in it. -/
def maxContext : Nat := 36

/-- The mark for text left out. -/
def ellipsis : Text := " ... ".toList

/-- The part of a line before a place, cut at its start if it is long. -/
def contextBefore (t : Text) (m : Mark) : Text :=
  let line := (t.take m.index).reverse.takeWhile (!isBreak ·)
  if line.length ≤ maxContext then line.reverse
  else ellipsis ++ (line.take (maxContext + 1 - ellipsis.length)).reverse

/-- The part of a line from a place on, cut at its end if it is long. -/
def contextAfter (t : Text) (m : Mark) : Text :=
  let line := (t.drop m.index).takeWhile (!isBreak ·)
  if line.length ≤ maxContext then line else line.take (maxContext + 1 - ellipsis.length) ++ ellipsis

/-- A place in a text, shown with its line and an arrow under it. -/
def Mark.display (t : Text) (m : Mark) : Text :=
  let before := contextBefore t m
  "  in \"<unicode string>\", line ".toList ++ Text.ofNat (m.line + 1) ++
    ", column ".toList ++ Text.ofNat (m.column + 1) ++
    ":\n    ".toList ++ before ++ contextAfter t m ++
    '\n' :: List.replicate (4 + before.length) ' ' ++ ['^']

/-- The wording of a time that is out of range. -/
def timeMessage : TimeFault → Text
  | .year value => "year ".toList ++ Text.ofNat value ++ " is out of range".toList
  | .month => "month must be in 1..12".toList
  | .day => "day is out of range for month".toList
  | .hour => "hour must be in 0..23".toList
  | .minute => "minute must be in 0..59".toList
  | .second => "second must be in 0..59".toList
  | .offset minutes =>
    let days := minutes / 1440
    let seconds := minutes % 1440 * 60
    let fields := ("days=".toList ++ Text.ofInt days) ::
      (if seconds = 0 then [] else ["seconds=".toList ++ Text.ofInt seconds])
    "offset must be a timedelta strictly between -timedelta(hours=24) and timedelta(hours=24), not ".toList ++
      Value.call "datetime.timedelta" fields ++ ['.']

/-- The longest literal of a text that is shown when it is no whole number. -/
def maxQuoted : Nat := 200

/-- The wording of a fault in the text `t`. -/
def Fault.message (t : Text) : Fault → Text
  | stage _ reason => reason.toList
  | notMapping found mark =>
    "expected a mapping node, but found ".toList ++ found.toList ++ '\n' :: mark.display t
  | badInteger base content =>
    "invalid literal for int() with base ".toList ++ Text.ofNat base ++ ": ".toList ++ content.quoted.take maxQuoted
  | tooManyDigits count =>
    "Exceeds the limit (4300 digits) for integer string conversion: value has ".toList ++ Text.ofNat count ++
      " digits; use sys.set_int_max_str_digits() to increase the limit".toList
  | badNumber content => "could not convert string to float: ".toList ++ content.quoted
  | tooManyParts => "int too large to convert to float".toList
  | emptyNumber => "string index out of range".toList
  | noTruthValue content => content.quoted
  | noTimestamp => "'NoneType' object has no attribute 'groupdict'".toList
  | time fault => timeMessage fault
  | noCharacter => "chr() arg not in range(0x110000)".toList
  | codeTooLarge => "Python int too large to convert to C int".toList
  | tooDeep => "maximum recursion depth exceeded".toList

/-- The stage that a fault belongs to. -/
def Fault.stage? : Fault → Option Stage
  | stage s _ => some s
  | notMapping .. => some .values
  | _ => none

/-- Whether a fault says that the text is wrong. The others come from content that looks like a number, a truth
value, a time or a character, and that no rule covers, or from a text that goes too deep. -/
def Fault.isForeseen : Fault → Bool
  | tooManyParts | emptyNumber | noTruthValue _ | noTimestamp | codeTooLarge | tooDeep => false
  | _ => true

end TagDoc.Yaml
