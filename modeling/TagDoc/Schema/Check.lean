import TagDoc.Schema.Issue
import TagDoc.Text.Utf8

/-!
# Checks

A check takes a value for a field of a certain kind and gives back what it stands for, or all issues with it.
Some values stand for others: a number written as text is a number, octets are the text they spell.

A check also counts the fields that the value sets. Where a value may be of several kinds and fits more than
one of them, it is taken for the kind of which it sets most fields.

## Main definitions

* `Check`: the type of checks; `Check.text`, `Check.integer`, `Check.mapping` and others
* `Fields`: the fields of a model, read one after the other; issues of all fields are collected
* `Check.oneOf`: a value of one of several kinds
-/

namespace TagDoc

/-- What a check gives: what the value stands for and how many fields it sets, or all its issues. -/
abbrev Checked (α : Type) := Except (List Issue) (α × Nat)

/-- A check of values for a field. -/
abbrev Check (α : Type) := Value → Checked α

namespace Checked

/-- A single issue with a value. -/
def refuse {α : Type} (problem : Problem) (v : Value) : Checked α := .error [⟨[], problem, v⟩]

/-- A value that sets no fields. -/
def accept {α : Type} (a : α) : Checked α := .ok (a, 0)

/-- Applies `f` to what was found. -/
def map {α β : Type} (f : α → β) : Checked α → Checked β
  | .ok (a, n) => .ok (f a, n)
  | .error is => .error is

/-- Puts two results together; the issues of both are kept, those of the first before those of the second. -/
def both {α β γ : Type} (f : α → β → γ) : Checked α → Checked β → Checked γ
  | .ok (a, m), .ok (b, n) => .ok (f a b, m + n)
  | .error is, .ok _ => .error is
  | .ok _, .error is => .error is
  | .error is, .error js => .error (is ++ js)

/-- The issues as seen from outside. -/
def under {α : Type} (step : Step) : Checked α → Checked α
  | .ok r => .ok r
  | .error is => .error (is.map (Issue.under step))

end Checked

namespace Check

open Checked

/-- Any value at all. -/
def any : Check Value := accept

/-- Text, or the octets of a text. What is matched against a pattern must have no half of a surrogate pair in it, and nodes
and documents hold no such text either. -/
def text : Check Text
  | .str t => accept t
  | .bytes octets =>
    match Text.ofUtf8 octets with
    | .ok t => accept t
    | .error _ => refuse .notUnicode (.bytes octets)
  | .codes points => refuse .notUnicode (.codes points)
  | v => refuse .notText v

/-- Any text, or the octets of a text. -/
def rawText : Check RawText
  | .codes points => accept (.codes points)
  | v => (text v).map .text

/-- One certain text. -/
def literal (expected : Text) : Check Unit
  | .str t => if t = expected then accept () else refuse (.notLiteral expected) (.str t)
  | .codes points => refuse .notUnicode (.codes points)
  | v => refuse (.notLiteral expected) v

/-- Null, or what `check` allows. -/
def optional {α : Type} (check : Check α) : Check (Option α)
  | .null => accept none
  | v => (check v).map some

/-- The most characters of a whole number written as text. -/
def maxDigits : Nat := 4300

/-- The number that digits stand for, which have no zeros in front and perhaps a minus sign. Whether there are too many
digits is seen before anything behind them. -/
def readDigits (t : Text) : Except Problem Int :=
  let (negative, t) := match t with
    | '-' :: rest => (true, rest)
    | _ => (false, t)
  let digits := t.takeWhile Char.isDigit
  let rest := t.dropWhile Char.isDigit
  if digits.isEmpty ∨ (digits.head? = some '0' ∧ digits ≠ ['0']) then .error .unreadableInteger
  else if maxDigits < digits.length + negative.toNat then .error .integerTooLong
  else if rest.isEmpty then
    let n : Int := Text.readNat digits
    .ok (if negative then -n else n)
  else .error .unreadableInteger

/-- A text that begins with a digit or a minus sign, without the zeros in front and the underscores among them; the last
of these stays if no digit follows. -/
def dropZeros? (t : Text) : Option Text :=
  match t with
  | [] => none
  | '0' :: rest =>
    let isFiller (c : Char) : Bool := c == '0' || c == '_'
    let last := (('0' :: rest.takeWhile isFiller).getLast?).toList
    match rest.dropWhile isFiller with
    | [] => some last
    | '.' :: rest => some (last ++ '.' :: rest)
    | c :: rest => if c.isDigit then some (c :: rest) else none
  | c :: _ => if c.isDigit || c == '-' then some t else none

/-- A text without a point that only zeros follow. -/
def dropFraction (t : Text) : Text :=
  match t.dropWhile (· != '.') with
  | _ :: zeros => if !zeros.isEmpty && zeros.all (· == '0') then t.takeWhile (· != '.') else t
  | [] => t

/-- A text without underscores, if each of them stands alone between other characters. -/
def dropUnderscores (t : Text) : Text :=
  if (Text.splitOn '_' t).any List.isEmpty then t else t.filter (· != '_')

/-- Digits without what else may stand in a whole number: white space around it, a plus sign, zeros in front, a point with
zeros behind it, and underscores. -/
def cleanDigits? (t : Text) : Option Text := do
  let t := Text.trim Text.isUnicodeSpace t
  let t ← match t with
    | '+' :: '-' :: _ => none
    | '+' :: rest => some rest
    | _ => some t
  return dropUnderscores (dropFraction (← dropZeros? t))

/-- A whole number written as text. -/
def readInteger (t : Text) : Except Problem Int :=
  match readDigits t with
  | .ok n => .ok n
  | .error .integerTooLong => .error .integerTooLong
  | .error problem => ((cleanDigits? t).map readDigits).getD (.error problem)

/-- The whole number that a finite double stands for. -/
def floatInteger? (x : Float) : Option Int :=
  let (num, den) := (Binary.ofFloat x).quotient
  if num % den = 0 then some (if signBit x then -(num / den) else num / den) else none

/-- The least whole number that is too large for one read from a double. -/
def doubleBound : Nat := 0x8000000000000000

/-- A whole number, a truth value, a double without a fraction, or a number written as text. -/
def integer : Check Int
  | .int n => accept n
  | .nan object => refuse .notFinite (.nan object)
  | .codes points => refuse .notUnicode (.codes points)
  | .bool b => accept b.toInt
  | .float x =>
    if x.isNaN || x.isInf then refuse .notFinite (.float x)
    else
      match floatInteger? x with
      | some n => if n.natAbs < doubleBound then accept n else refuse .integerTooLong (.float x)
      | none => refuse .fraction (.float x)
  | .str t =>
    match readInteger t with
    | .ok n => accept n
    | .error problem => refuse problem (.str t)
  | v => refuse .notInteger v

/-- A whole number that is not less than `least`. -/
def integerFrom (least : Int) : Check Int := fun v =>
  match integer v with
  | .ok (n, _) => if least ≤ n then accept n else refuse (.tooSmall least) v
  | .error is => .error is

/-- The step to an entry of a mapping: its key, or for a key that is neither text nor number its literal. -/
def keyStep : Value → Step
  | .str t => .name t
  | .int n => if n < -doubleBound ∨ doubleBound ≤ n then .name (Value.int n).shown else .index n
  | .bool b => .index b.toInt
  | v => .name v.shown

/-- One entry of a mapping: its key must be text. -/
def entry (e : Value × Value) : Checked (Value × Value) :=
  ((rawText e.1).map fun k => (k.toValue, e.2)).under (.name "[key]".toList) |>.under (keyStep e.1)

/-- Results in order, or all issues. -/
def collect {α : Type} : List (Checked α) → Checked (List α)
  | [] => accept []
  | c :: cs => both List.cons c (collect cs)

/-- A mapping with text for keys and any values. Nothing is known of one that holds itself. -/
def mapping : Check Entries
  | .map es =>
    (collect (es.map entry)).map Entries.ofList
  | .again .map => accept []
  | v => refuse .notMapping v

/-- Items in order, each with its position in the path of its issues. -/
def items {α : Type} (check : Check α) (vs : List Value) : Checked (List α) :=
  collect (vs.zipIdx.map fun (v, i) => (check v).under (.index i))

/-- A list of what `check` allows, given as any kind of sequence but text; `problem` tells that it is none. -/
def sequence {α : Type} (problem : Problem) (check : Check α) : Check (List α)
  | .list vs | .tuple vs | .set vs => items check vs
  | .again .list => accept []
  | v => refuse problem v

/-- The result of the alternative that sets most fields, the first of those that set equally many; a result
that sets none is taken at once. Without a result, the issues of all alternatives, under their names. -/
def best {α : Type} : List (String × Checked α) → Checked α
  | [] => .error []
  | (name, c) :: rest =>
    match c, best rest with
    | .ok (a, 0), _ => .ok (a, 0)
    | .ok (a, m), .ok (b, n) => if m < n then .ok (b, n) else .ok (a, m)
    | .ok r, .error _ => .ok r
    | .error _, .ok r => .ok r
    | .error is, .error js => .error (is.map (Issue.under (.name name.toList)) ++ js)

/-- A value of one of several kinds. -/
def oneOf {α : Type} (kinds : List (String × Check α)) : Check α := fun v =>
  best (kinds.map fun (name, check) => (name, check v))

end Check

/-- A way to read fields from the entries of a mapping; the mapping itself is what a missing field is reported
with. -/
structure Fields (α : Type) where
  read : (whole : Value) → Entries → Checked α

namespace Fields

open Checked

/-- The check of a field that is there, under the name of the field. -/
def present {α : Type} (name : String) (check : Check α) (v : Value) : Checked α :=
  match (check v).under (.name name.toList) with
  | .ok (a, n) => .ok (a, n + 1)
  | .error is => .error is

/-- A field that may be left out; `default` stands in for it. -/
def optional {α : Type} (name : String) (default : α) (check : Check α) : Fields α where
  read _ es :=
    match Entries.getText? es name.toList with
    | some v => present name check v
    | none => accept default

/-- A field that must be there. -/
def required {α : Type} (name : String) (check : Check α) : Fields α where
  read whole es :=
    match Entries.getText? es name.toList with
    | some v => present name check v
    | none => (refuse .missing whole).under (.name name.toList)

instance : Applicative Fields where
  pure a := ⟨fun _ _ => accept a⟩
  seq f a := ⟨fun whole es => both (fun f a => f a) (f.read whole es) ((a ()).read whole es)⟩

/-- The check for a model with these fields, whose name is `name`. Entries that belong to no field are
ignored. -/
def check {α : Type} (name : String) (fields : Fields α) : Check α
  | .map es => fields.read (.map es) es
  | v => refuse (.notModel name) v

end Fields

end TagDoc
