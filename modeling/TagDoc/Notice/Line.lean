import TagDoc.Json.Writer
import TagDoc.Notice
import TagDoc.Settings.Basic

/-!
# Notices as lines

A notice is shown in one line, in one of two formats, with the time at which it was given and its level. Of what
was tried only the event is shown. A threshold tells which notices are shown at all.

## Main definitions

* `Notice.line`: a notice in a format
* `Threshold`, `Threshold.ofName`: what is shown
* `logText`: the lines for notices
-/

namespace TagDoc

/-- A text with blanks behind it up to a width. -/
def padTo (width : Nat) (t : Text) : Text := t ++ List.replicate (width - t.length) ' '

/-- Whether a text has to stand between quotes in a line for people. -/
def needsQuotes (t : Text) : Bool := t.any (" \t=\r\n\"'".toList.contains ·)

/-- A field in a line for people. -/
def Field.plain : Field → Text
  | text t => if needsQuotes t then t.quoted else t
  | number n => Text.ofNat n

/-- A code unit of UTF-16 as an escape. -/
def escapeUnit (n : Nat) : Text := '\\' :: 'u' :: Text.writeHex 4 n

/-- A character of a string in JSON that has ASCII characters only; one past the first plane is a pair of
surrogates. -/
def escapeToAscii (c : Char) : Text :=
  let n := c.toNat
  if n < 0x7F then Json.escape c
  else if n < 0x10000 then escapeUnit n
  else escapeUnit (0xD800 + (n - 0x10000) / 0x400) ++ escapeUnit (0xDC00 + (n - 0x10000) % 0x400)

/-- A text as a string in JSON that has ASCII characters only. -/
def asciiString (t : Text) : Text := '\x22' :: t.flatMap escapeToAscii ++ ['\x22']

/-- A field as JSON. -/
def Field.json : Field → Text
  | text t => asciiString t
  | number n => Text.ofNat n

namespace Notice

/-- How wide the level is in a line for people. -/
def levelWidth : Nat := 9

/-- How wide the event is in a line for people. -/
def eventWidth : Nat := 30

/-- A notice in a line for people, its fields in the order of their names. -/
def consoleLine (stamp : Text) (n : Notice) : Text :=
  let fields := n.fields.mergeSort fun a b => decide (a.1 ≤ b.1)
  if n.level = .debug then n.event
  else
    stamp ++ " [".toList ++ padTo levelWidth n.level.name.toList ++ "] ".toList ++ padTo eventWidth n.event ++
      ' ' :: Text.join [' '] (fields.map fun (k, f) => k.toList ++ '=' :: f.plain)

/-- A notice in a line of JSON. -/
def jsonLine (stamp : Text) (n : Notice) : Text :=
  let event := [("event", Field.text n.event)]
  let fields := if n.level = .debug then event
    else n.fields ++ event ++ [("level", .text n.level.name.toList), ("timestamp", .text stamp)]
  '\x7b' :: Text.join ", ".toList (fields.map fun (k, f) => asciiString k.toList ++ ": ".toList ++ f.json) ++ ['\x7d']

/-- A notice in a format. -/
def line (format : LogFormat) (stamp : Text) (n : Notice) : Text :=
  match format with
  | .console => n.consoleLine stamp
  | .json => n.jsonLine stamp

end Notice

/-! ### What is shown -/

/-- The number of a level. -/
def Level.number : Level → Nat
  | debug => 10
  | info => 20
  | warning => 30

/-- The least level that is shown, as a number. -/
abbrev Threshold := Nat

/-- A name that stands for no level: for the usual form of a line, or for all the styles in which a form can be told. -/
inductive NotALevel where
  | form
  | styles
  deriving DecidableEq, Repr

namespace NotALevel

/-- The styles in which the form of a line can be told: the sign of each, its name, and the usual form in it. -/
def styleForms : List (Text × Text × Text) :=
  [("%", "PercentStyle", "%(levelname)s:%(name)s:%(message)s"),
    ("\x7b", "StrFormatStyle", "\x7blevelname\x7d:\x7bname\x7d:\x7bmessage\x7d"),
    ("$", "StringTemplateStyle", "$\x7blevelname\x7d:$\x7bname\x7d:$\x7bmessage\x7d")].map
      fun (sign, name, usual) => (sign.toList, name.toList, usual.toList)

/-- A style with its usual form. -/
def styleText (sign name usual : Text) : Text :=
  sign.quoted ++ ": (<class 'logging.".toList ++ name ++ "'>, ".toList ++ usual.quoted ++ [')']

/-- The wording for a name that stands for no level. -/
def message : NotALevel → Text
  | form => "Unknown level: ".toList ++ Text.quoted ((styleForms.headD ([], [], [])).2.2)
  | styles =>
    "Level not an integer or a valid string: \x7b".toList ++
      Text.join ", ".toList (styleForms.map fun (sign, name, usual) => styleText sign name usual) ++ ['\x7d']

end NotALevel

/-- A character as a capital, as far as names of levels have it. -/
def levelCapital (c : Char) : Char :=
  if c = 'ı' then 'I' else if c = 'ſ' then 'S' else c.toUpper

/-- The threshold of a name, in capitals or not; a name that is not known is that of a warning. -/
def Threshold.ofName (name : Text) : Except NotALevel Threshold :=
  match String.ofList (name.map levelCapital) with
  | "NOTSET" => .ok 0
  | "DEBUG" => .ok 10
  | "INFO" => .ok 20
  | "ERROR" => .ok 40
  | "CRITICAL" | "FATAL" => .ok 50
  | "BASIC_FORMAT" => .error .form
  | "_STYLES" => .error .styles
  | _ => .ok 30

/-- The lines for notices that reach a threshold. -/
def logText (threshold : Threshold) (format : LogFormat) (stamp : Text) (ns : List Notice) : Text :=
  (ns.filter fun n => threshold ≤ n.level.number).flatMap fun n => n.line format stamp ++ ['\n']

end TagDoc
