import TagDoc.Decimal.Binary
import TagDoc.Text.Raw
import TagDoc.Value.Time

/-!
# Values

What the front matter of a document, the options of a tag and the settings hold: data of no fixed form. A
mapping keeps its entries in the order in which their keys came, and its keys may be values of any simple
kind.

## Main definitions

* `Value`
* `Value.isTruthy`: whether a value counts as given
* `Value.sameKey`: whether two values are one key of a mapping
* `Entries.insert`: the entries of a mapping after one more
-/

namespace TagDoc

/-- The kinds of collections that can hold themselves. -/
inductive Collection where
  | list
  | map
  deriving DecidableEq, Repr, Inhabited

/-- Data of no fixed form. Text that cannot stand as characters, since half of a surrogate pair is missing in
it, is kept as its code points. What is not a number is one `float`, or it is a `nan`: an object of its own, which only
its number tells from others of them. A pair is a list of fixed length that some formats tell from lists. The items of a set
stand in the order in which one goes over it. Where a list or a mapping holds itself, that place tells only of which kind
it is. -/
inductive Value where
  | null
  | bool (b : Bool)
  | int (n : Int)
  | float (x : Float)
  | nan (object : Nat)
  | str (t : Text)
  | codes (points : List Nat)
  | bytes (octets : List UInt8)
  | date (d : Date)
  | moment (m : Moment)
  | list (items : List Value)
  | tuple (items : List Value)
  | set (items : List Value)
  | map (entries : List (Value × Value))
  | again (kind : Collection)
  deriving Repr, Inhabited

/-- The entries of a mapping, in order. -/
abbrev Entries := List (Value × Value)

namespace Value

/-- Whether a value counts as given: not null, false, zero or empty. -/
def isTruthy : Value → Bool
  | null => false
  | bool b => b
  | int n => n != 0
  | float x => x != 0.0
  | nan _ => true
  | str t => !t.isEmpty
  | codes _ => true
  | bytes b => !b.isEmpty
  | date _ => true
  | moment _ => true
  | list vs => !vs.isEmpty
  | tuple vs => !vs.isEmpty
  | set vs => !vs.isEmpty
  | map es => !es.isEmpty
  | again _ => true

/-- The name of a value's type. -/
def typeName : Value → String
  | null => "NoneType"
  | bool _ => "bool"
  | int _ => "int"
  | float _ | nan _ => "float"
  | str _ | codes _ => "str"
  | bytes _ => "bytes"
  | date _ => "date"
  | moment _ => "datetime"
  | list _ | again .list => "list"
  | tuple _ => "tuple"
  | set _ => "set"
  | map _ | again .map => "dict"

/-- The name of a value's type, with that of the module for the types of times. -/
def fullTypeName (v : Value) : String :=
  match v with
  | date _ | moment _ => "datetime." ++ v.typeName
  | _ => v.typeName

mutual

/-- Whether a value can be a key: lists, sets and mappings cannot. -/
def isHashable : Value → Bool
  | list _ | set _ | map _ | again _ => false
  | tuple vs => areHashable vs
  | _ => true

/-- Whether all of some values can be keys. -/
def areHashable : List Value → Bool
  | [] => true
  | v :: vs => v.isHashable && areHashable vs

end

/-- Whether a finite double is exactly a whole number. -/
def floatIsInt (x : Float) (n : Int) : Bool :=
  let (num, den) := (Binary.ofFloat x).quotient
  let signed : Int := if signBit x then -num else num
  !x.isNaN && !x.isInf && signed == n * den

mutual

/-- Whether two values are one key. Numbers compare by what they are worth, and truth values count as one and
zero; what is not a number is the same key as the very same object only. -/
def sameKey : Value → Value → Bool
  | null, null => true
  | bool a, bool b => a == b
  | bool a, int n | int n, bool a => n == a.toInt
  | bool a, float x | float x, bool a => floatIsInt x a.toInt
  | int m, int n => m == n
  | int n, float x | float x, int n => floatIsInt x n
  | float x, float y => x == y || (x.isNaN && y.isNaN)
  | nan i, nan j => i == j
  | str s, str t => s == t
  | codes s, codes t => s == t
  | bytes a, bytes b => a == b
  | date a, date b => a == b
  | moment a, moment b => a.same b
  | tuple as, tuple bs => sameKeys as bs
  | _, _ => false

/-- Whether two lists of values are as long as each other and hold the same keys one by one. -/
def sameKeys : List Value → List Value → Bool
  | [], [] => true
  | a :: as, b :: bs => a.sameKey b && sameKeys as bs
  | _, _ => false

end

/-- The text that code points stand for, if each of them is a character. -/
def ofCodes (points : List Nat) : Value :=
  if points.all Nat.isValidChar then str (points.map Char.ofNat) else codes points

/-- A double, which is the object of a number if it is not a number. -/
def ofFloat (object : Nat) (x : Float) : Value := if x.isNaN then nan object else float x

end Value

/-- A text, with or without halves of surrogate pairs, as a value. -/
def RawText.toValue : RawText → Value
  | text t => .str t
  | codes points => .codes points

/-- The entries of a mapping after `value` was put under `key`: a key that is there already keeps its place
and its form, and a new one comes last. -/
def Entries.insert (entries : Entries) (key value : Value) : Entries :=
  match entries with
  | [] => [(key, value)]
  | (k, v) :: rest => if k.sameKey key then (k, value) :: rest else (k, v) :: Entries.insert rest key value

/-- The value under a key. -/
def Entries.get? (entries : Entries) (key : Value) : Option Value :=
  (entries.find? fun (k, _) => k.sameKey key).map (·.2)

/-- The value under a key that is a text. -/
def Entries.getText? (entries : Entries) (key : Text) : Option Value := entries.get? (.str key)

/-- The mapping with the given entries put in from first to last. -/
def Entries.ofList (pairs : List (Value × Value)) : Entries :=
  pairs.foldl (fun es (k, v) => es.insert k v) []

end TagDoc
