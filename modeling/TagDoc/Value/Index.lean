import TagDoc.Value.Literal

/-!
# Indexing items by key

Items can be looked up by a key that is taken from each of them. Of the items with one key the last counts,
while the key keeps the place, and the form, in which it came first.

## Main definitions

* `Value.item`: the part of a value under a key
* `UnhashableFault`: faults among which there is one for what cannot be a key
* `indexBy`: items under their keys
-/

namespace TagDoc

/-- Why a key cannot be taken from an item, or cannot be a key. -/
inductive KeyFault where
  | noSuchKey (key : Value)
  | listOutOfRange
  | textOutOfRange
  | octetsOutOfRange
  | tooLargeIndex
  | notIndexable (type : String)
  | listIndexNotInteger (type : String)
  | textIndexNotInteger (type : String)
  | octetIndexNotInteger (type : String)
  | notHashable (type : String)
  deriving Repr

/-- The wording. -/
def KeyFault.message : KeyFault → Text
  | noSuchKey key => key.literal
  | listOutOfRange => "list index out of range".toList
  | textOutOfRange => "string index out of range".toList
  | octetsOutOfRange => "index out of range".toList
  | tooLargeIndex => "cannot fit 'int' into an index-sized integer".toList
  | notIndexable type => '\x27' :: type.toList ++ "' object is not subscriptable".toList
  | listIndexNotInteger type => "list indices must be integers or slices, not ".toList ++ type.toList
  | octetIndexNotInteger type => "byte indices must be integers or slices, not ".toList ++ type.toList
  | textIndexNotInteger type => "string indices must be integers, not '".toList ++ type.toList ++ ['\x27']
  | notHashable type => "unhashable type: '".toList ++ type.toList ++ ['\x27']

/-- The least number that is too large for a position, whatever the list. -/
def positionBound : Int := 0x8000000000000000

/-- The item of a list at a position; negative positions count from the end. -/
def itemAt {α : Type} (items : List α) (position : Int) (outOfRange : KeyFault) : Except KeyFault α :=
  if position < -positionBound ∨ positionBound ≤ position then .error .tooLargeIndex
  else
    let position := if position < 0 then position + items.length else position
    if position < 0 then .error outOfRange
    else
      match items[position.toNat]? with
      | some a => .ok a
      | none => .error outOfRange

namespace Value

mutual

/-- The name of the type for which a value cannot be a key. -/
def unhashableType : Value → String
  | tuple vs => firstUnhashableType vs
  | v => v.typeName

/-- The name of the type of the first of some values that cannot be a key. -/
def firstUnhashableType : List Value → String
  | [] => "tuple"
  | v :: vs => if v.isHashable then firstUnhashableType vs else v.unhashableType

end

/-- A whole number that can be a position. -/
def position? : Value → Option Int
  | int n => some n
  | bool b => some b.toInt
  | _ => none

/-- The part of a value under a key: an entry of a mapping, or an item of a list, a text or octets. -/
def item (key : Value) : Value → Except KeyFault Value
  | map es =>
    if !key.isHashable then .error (.notHashable key.unhashableType)
    else
      match Entries.get? es key with
      | some v => .ok v
      | none => .error (.noSuchKey key)
  | list vs =>
    match key.position? with
    | some n => itemAt vs n .listOutOfRange
    | none => .error (.listIndexNotInteger key.typeName)
  | str t =>
    match key.position? with
    | some n => (itemAt t n .textOutOfRange).map fun c => str [c]
    | none => .error (.textIndexNotInteger key.typeName)
  | codes points =>
    match key.position? with
    | some n => (itemAt points n .textOutOfRange).map fun c => ofCodes [c]
    | none => .error (.textIndexNotInteger key.typeName)
  | bytes octets =>
    match key.position? with
    | some n => (itemAt octets n .octetsOutOfRange).map fun b => int b.toNat
    | none => .error (.octetIndexNotInteger key.typeName)
  | v => .error (.notIndexable v.fullTypeName)

end Value

/-- Items under their keys, in the order in which the keys first came. -/
abbrev Index (α : Type) := List (Value × α)

/-- The index after an item was put under a key. -/
def Index.insert {α : Type} (index : Index α) (key : Value) (item : α) : Index α :=
  match index with
  | [] => [(key, item)]
  | (k, a) :: rest => if k.sameKey key then (k, item) :: rest else (k, a) :: Index.insert rest key item

/-- Faults among which there is one for a value of a type that cannot be a key. -/
class UnhashableFault (ε : Type) where
  notHashable : (type : String) → ε

instance : UnhashableFault KeyFault := ⟨.notHashable⟩

section Keys

variable {α ε : Type} [UnhashableFault ε]

/-- Adds items to an index, each under its key, from first to last; the first item whose key cannot be taken,
or cannot be a key, ends it. -/
def Index.addAll (key : α → Except ε Value) (index : Index α) : List α → Except ε (Index α)
  | [] => .ok index
  | a :: rest => do
    let k ← key a
    if !k.isHashable then .error (UnhashableFault.notHashable k.unhashableType)
    else Index.addAll key (Index.insert index k a) rest

/-- Items under their keys. -/
def indexBy (key : α → Except ε Value) (items : List α) : Except ε (Index α) := Index.addAll key [] items

end Keys

end TagDoc
