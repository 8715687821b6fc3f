import TagDoc.Text.Basic

/-!
# What a plain scalar stands for

A scalar without a tag has the type that its form shows: the words for truth and null, whole numbers in four
notations and in parts of sixty, fractions, dates and times. All else is text. A line break at the end does not count.

## Main definitions

* `Yaml.NodeTag`: the types of nodes
* `Yaml.plainTag`: the type of a plain scalar
* `Yaml.TimeText`: the parts of a date or a time
-/

namespace TagDoc.Yaml

/-- The type of a node. -/
inductive NodeTag where
  | null
  | bool
  | int
  | float
  | binary
  | timestamp
  | omap
  | pairs
  | set
  | str
  | seq
  | map
  | merge
  | value
  | other (name : Text)
  deriving DecidableEq, Repr, Inhabited

/-- What the names of the standard types begin with. -/
def standardStart : Text := "tag:yaml.org,2002:".toList

/-- The standard types by name. -/
def standardTags : List (Text × NodeTag) :=
  [("null", NodeTag.null), ("bool", .bool), ("int", .int), ("float", .float), ("binary", .binary),
    ("timestamp", .timestamp), ("omap", .omap), ("pairs", .pairs), ("set", .set), ("str", .str), ("seq", .seq),
    ("map", .map), ("merge", .merge), ("value", .value)].map fun (name, tag) =>
      (standardStart ++ name.toList, tag)

/-- The type of a name. -/
def NodeTag.ofName (name : Text) : NodeTag := (standardTags.lookup name).getD (.other name)

/-- The words for truth. -/
def trueWords : List Text :=
  ["yes", "Yes", "YES", "true", "True", "TRUE", "on", "On", "ON"].map String.toList

/-- The words for falsehood. -/
def falseWords : List Text :=
  ["no", "No", "NO", "false", "False", "FALSE", "off", "Off", "OFF"].map String.toList

/-- The words for null, with the empty one. -/
def nullWords : List Text := ["~", "null", "Null", "NULL", ""].map String.toList

/-- The text after its sign. -/
def dropSign : Text → Text
  | '+' :: t | '-' :: t => t
  | t => t

/-- Digits and underscores. -/
def isDigitOr_ (c : Char) : Bool := c.isDigit || c == '_'

/-- Digits, at least one, and underscores after the first of them. -/
def isDigits : Text → Bool
  | c :: t => c.isDigit && t.all isDigitOr_
  | [] => false

/-- One or two digits below sixty. -/
def isSixtieth : Text → Bool
  | [c] => c.isDigit
  | [c, d] => '0' ≤ c && c ≤ '5' && d.isDigit
  | _ => false

/-- Whether all characters of a text, of which there is one at least, are of `p`. -/
def isRun (p : Char → Bool) (t : Text) : Bool := !t.isEmpty && t.all p

/-- A whole number, in the notations with base 2, 8, 10, 16 and 60. -/
def isInteger (t : Text) : Bool :=
  match dropSign t with
  | ['0'] => true
  | '0' :: 'b' :: t => isRun (fun c => c == '0' || c == '1' || c == '_') t
  | '0' :: 'x' :: t => isRun (fun c => (Text.hexDigit? c).isSome || c == '_') t
  | '0' :: t => isRun (fun c => ('0' ≤ c && c ≤ '7') || c == '_') t
  | t =>
    match Text.splitOn ':' t with
    | first :: rest => isDigits first && rest.all isSixtieth
    | [] => false

/-- An exponent, or nothing. -/
def isExponent : Text → Bool
  | [] => true
  | e :: sign :: digits => (e == 'e' || e == 'E') && (sign == '+' || sign == '-') && isRun Char.isDigit digits
  | _ => false

/-- What follows the point of a fraction. -/
def isFractionTail (t : Text) : Bool := isExponent (t.dropWhile isDigitOr_)

/-- The words for infinity, after their point. -/
def infinityWords : List Text := ["inf", "Inf", "INF"].map String.toList

/-- The words for what is not a number, after their point. -/
def notNumberWords : List Text := ["nan", "NaN", "NAN"].map String.toList

/-- A fraction with a point, the word for infinity, or the word for what is not a number. -/
def isFraction (t : Text) : Bool :=
  let whole := t.takeWhile (· != '.')
  match t.dropWhile (· != '.') with
  | [] => false
  | _ :: tail =>
    if whole.isEmpty then
      tail ∈ infinityWords || tail ∈ notNumberWords || (tail.head?.any Char.isDigit && isFractionTail tail)
    else if whole = ['+'] ∨ whole = ['-'] then tail ∈ infinityWords
    else
      match Text.splitOn ':' (dropSign whole) with
      | [digits] => isDigits digits && isFractionTail tail
      | digits :: sixtieths => isDigits digits && sixtieths.all isSixtieth && tail.all isDigitOr_
      | [] => false

/-- The parts of a date, and of the time of day if there is one, as they are written. -/
structure TimeText where
  year : Text
  month : Text
  day : Text
  clock : Option (Text × Text × Text)
  fraction : Text
  zone : Option (Int × Text × Text)
  deriving Repr

/-- Between `least` and `most` digits at the start of a text, and what follows them. -/
def takeDigits? (least most : Nat) (t : Text) : Option (Text × Text) :=
  let digits := (t.take most).takeWhile Char.isDigit
  if least ≤ digits.length then some (digits, t.drop digits.length) else none

/-- The text after the character `c`, if it begins with it. -/
def after? (c : Char) : Text → Option Text
  | d :: t => if c = d then some t else none
  | [] => none

/-- The distance from universal time at the end of a text: the sign, the hours and the minutes. -/
def readZone? (t : Text) : Option (Option (Int × Text × Text)) :=
  match t.dropWhile Text.isBlank with
  | [] => if t.isEmpty then some none else none
  | ['Z'] => some (some (1, ['0'], ['0']))
  | sign :: t => do
    let sign : Int ← if sign = '+' then some 1 else if sign = '-' then some (-1) else none
    let (hours, t) ← takeDigits? 1 2 t
    if t.isEmpty then some (some (sign, hours, ['0']))
    else
      let (minutes, t) ← takeDigits? 2 2 (← after? ':' t)
      if t.isEmpty then some (some (sign, hours, minutes)) else none

/-- The text after what parts a date from a time of day: a letter T, or blanks. -/
def afterDate? : Text → Option Text
  | c :: t =>
    if c = 'T' ∨ c = 't' then some t
    else if Text.isBlank c then some (t.dropWhile Text.isBlank)
    else none
  | [] => none

/-- A text without one line break at its end. -/
def dropLastBreak (t : Text) : Text := if t.getLast? = some '\n' then t.dropLast else t

/-- Reads a date or a time; a line break may follow it. -/
def TimeText.read? (t : Text) : Option TimeText := do
  let (year, t) ← takeDigits? 4 4 (dropLastBreak t)
  let (month, t) ← takeDigits? 1 2 (← after? '-' t)
  let (day, t) ← takeDigits? 1 2 (← after? '-' t)
  if t.isEmpty then some ⟨year, month, day, none, [], none⟩
  else
    let (hour, t) ← takeDigits? 1 2 (← afterDate? t)
    let (minute, t) ← takeDigits? 2 2 (← after? ':' t)
    let (second, t) ← takeDigits? 2 2 (← after? ':' t)
    let (fraction, t) := match t with
      | '.' :: t => (t.takeWhile Char.isDigit, t.dropWhile Char.isDigit)
      | t => ([], t)
    some ⟨year, month, day, some (hour, minute, second), fraction, ← readZone? t⟩

/-- Whether a plain scalar is a date or a time; a date alone has two digits for the month and the day. -/
def isTimestamp (t : Text) : Bool :=
  match TimeText.read? t with
  | some ⟨_, month, day, none, _, _⟩ => month.length == 2 && day.length == 2
  | some _ => true
  | none => false

/-- The signs that are kept for a type of their own. -/
def isReserved (t : Text) : Bool := t == ['!'] || t == ['&'] || t == ['*']

/-- The type of a plain scalar. -/
def plainTag (t : Text) : NodeTag :=
  let t := if t = ['\n'] then t else dropLastBreak t
  if t ∈ trueWords ∨ t ∈ falseWords then .bool
  else if isFraction t then .float
  else if isInteger t then .int
  else if t = ['<', '<'] then .merge
  else if t ∈ nullWords then .null
  else if isTimestamp t then .timestamp
  else if t = ['='] then .value
  else if isReserved t then .other (standardStart ++ "yaml".toList)
  else .str

end TagDoc.Yaml
