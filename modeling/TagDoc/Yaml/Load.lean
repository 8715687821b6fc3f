import TagDoc.Yaml.Node
import TagDoc.Yaml.Number

/-!
# The value of a text in YAML

The nodes of a text are made into values in rounds. In each round the collections that the round before has
found get their entries, so a fault close to the root comes before one deeper down, and of two faults in one
round the first in the text is told. So the making of values does not go as deep as the nodes do; it is the reading of nodes
that is bounded.

The items of a set are in no order of the text. One goes over them as the process has it that keeps the set.

In a mapping, an entry with the sign `<<` for a key stands for all entries of the mapping, or the mappings, that
it has for a value; they come before the mapping's own entries, which replace them. A mapping gains nothing from itself.

The sign `=` has a type of its own. As a key it is text, and then the same node is text wherever else it is used in the
values of the mapping.

## Main definitions

* `Yaml.Node.toValue`
* `Yaml.load`: the value of a text
-/

namespace TagDoc.Yaml

/-- A value, or a fault with the round in which it is met. -/
abbrev Built (α : Type) := Except (Nat × Fault) α

namespace Built

/-- A fault in a round. -/
def fail {α : Type} (round : Nat) (fault : Fault) : Built α := .error (round, fault)

/-- A fault that belongs to the making of values. -/
def refuse {α : Type} (round : Nat) (reason : String) : Built α := fail round (.stage .values reason)

/-- Puts two results together; of two faults the one in the earlier round counts, or else the first. -/
def both {α β γ : Type} (f : α → β → γ) : Built α → Built β → Built γ
  | .ok a, .ok b => .ok (f a b)
  | .error e, .ok _ => .error e
  | .ok _, .error e => .error e
  | .error d, .error e => .error (if d.1 ≤ e.1 then d else e)

end Built

open Built

/-- The code points of a scalar. A mapping stands for the scalar under its key `=`. -/
def Node.content (round : Nat) : Node → Built (List Nat)
  | .scalar _ content _ => .ok content
  | .sequence .. | .again _ .list _ => refuse round "expected a scalar node, but found sequence"
  | .again _ .map _ => refuse round "expected a scalar node, but found mapping"
  | .mapping _ entries _ => contentOfValue round entries
where
  /-- The content under the first key `=`. -/
  contentOfValue (round : Nat) : List (Node × Node) → Built (List Nat)
    | [] => refuse round "expected a scalar node, but found mapping"
    | (key, value) :: entries =>
      if key.tag = .value then value.content round else contentOfValue round entries

/-- The parts of a time as numbers. -/
def momentOf (t : TimeText) (clock : Text × Text × Text) : Moment where
  date := ⟨Text.readNat t.year, Text.readNat t.month, Text.readNat t.day⟩
  hour := Text.readNat clock.1
  minute := Text.readNat clock.2.1
  second := Text.readNat clock.2.2
  microsecond := Text.readNat ((t.fraction ++ List.replicate 6 '0').take 6)
  offset := t.zone.map fun (sign, hours, minutes) => sign * (60 * Text.readNat hours + Text.readNat minutes)

/-- Reads a date or a time. -/
def readTime (content : Text) : Except Fault Value :=
  match TimeText.read? content with
  | none => .error .noTimestamp
  | some t =>
    match t.clock with
    | none =>
      let d : Date := ⟨Text.readNat t.year, Text.readNat t.month, Text.readNat t.day⟩
      match d.fault? with
      | some fault => .error (.time fault)
      | none => .ok (.date d)
    | some clock =>
      let m := momentOf t clock
      match m.fault? with
      | some fault => .error (.time fault)
      | none => .ok (.moment m)

/-- Reads a truth value; here capitals do not matter. -/
def readTruth (content : Text) : Except Fault Value :=
  let t := Text.lower content
  if t ∈ trueWords then .ok (.bool true)
  else if t ∈ falseWords then .ok (.bool false)
  else .error (.noTruthValue t)

/-- Reads the content of a scalar of some type that starts at a place; `none` if the type is not one of scalars. -/
def readScalar (tag : NodeTag) (content : List Nat) (start : Mark) : Option (Except Fault Value) :=
  let t := Text.ofPoints content
  match tag with
  | .null => some (.ok .null)
  | .bool => some (readTruth t)
  | .int => some ((readInteger t).map .int)
  | .float => some (readFraction (start.index + 1) t)
  | .binary =>
    some <|
      if t.all (·.toNat < 128) then
        match readOctets? t with
        | some octets => .ok (.bytes octets)
        | none => .error (.stage .values "failed to decode base64 data")
      else .error (.stage .values "failed to convert base64 data into ascii")
  | .timestamp => some (readTime t)
  | .str => some (.ok (Value.ofCodes content))
  | _ => none

/-- Types whose nodes have entries or items. -/
def isCollectionTag (tag : NodeTag) : Bool := [.omap, .pairs, .set, .seq, .map].contains tag

mutual

/-- The entries of a mapping with those that it merges in front of them. Every merged mapping is one step
deeper in the tree. -/
def mergedEntries (round : Nat) : (fuel : Nat) → List (Node × Node) → Built (List (Node × Node))
  | 0, entries => .ok entries
  | fuel + 1, entries => do
    let merged ← mergeSources round fuel (entries.filter (·.1.tag = .merge) |>.map (·.2))
    let own := entries.filter (·.1.tag ≠ .merge)
    pure (merged ++ own)

/-- The entries that the values of merge keys stand for, in order. -/
def mergeSources (round : Nat) : (fuel : Nat) → List Node → Built (List (Node × Node))
  | 0, _ => .ok []
  | _, [] => .ok []
  | fuel + 1, .mapping _ entries _ :: rest => do
    let entries ← mergedEntries round fuel entries
    pure (entries ++ (← mergeSources round fuel rest))
  | fuel + 1, .sequence _ items _ :: rest => do
    let groups ← mergeItems round fuel items
    pure (groups.reverse.flatten ++ (← mergeSources round fuel rest))
  | fuel + 1, .again .. :: rest => mergeSources round fuel rest
  | _, _ => refuse round "while constructing a mapping: expected mappings to merge, but found a scalar"

/-- The entries of the mappings in a list, group by group. -/
def mergeItems (round : Nat) : (fuel : Nat) → List Node → Built (List (List (Node × Node)))
  | 0, _ => .ok []
  | _, [] => .ok []
  | fuel + 1, .mapping _ entries _ :: rest => do
    let entries ← mergedEntries round fuel entries
    return entries :: (← mergeItems round fuel rest)
  | fuel + 1, .again _ .map _ :: rest => mergeItems round fuel rest
  | _, _ => refuse round "while constructing a mapping: expected a mapping to merge"

end

/-- An upper bound of the steps that merging in a node takes: its number of nodes, doubled. -/
def Node.size : Node → Nat
  | .scalar .. | .again .. => 1
  | .sequence _ items _ => 1 + sizes items
  | .mapping _ entries _ => 1 + entrySizes entries
where
  /-- The size of nodes. -/
  sizes : List Node → Nat
    | [] => 1
    | n :: ns => 1 + n.size + sizes ns
  /-- The size of entries. -/
  entrySizes : List (Node × Node) → Nat
    | [] => 1
    | (k, v) :: es => 2 + k.size + v.size + entrySizes es

mutual

/-- A node in which the signs `=` that start at some places are text. -/
def Node.withText (starts : List Mark) : Node → Node
  | .scalar tag content start => .scalar (if tag = .value ∧ starts.contains start then .str else tag) content start
  | .sequence tag items start => .sequence tag (withTexts starts items) start
  | .mapping tag entries start => .mapping tag (withTextEntries starts entries) start
  | .again tag kind start => .again tag kind start

/-- Nodes in which the signs `=` that start at some places are text. -/
def withTexts (starts : List Mark) : List Node → List Node
  | [] => []
  | n :: ns => n.withText starts :: withTexts starts ns

/-- Entries in which the signs `=` that start at some places are text. -/
def withTextEntries (starts : List Mark) : List (Node × Node) → List (Node × Node)
  | [] => []
  | (k, v) :: es => (k.withText starts, v.withText starts) :: withTextEntries starts es

end

/-- Entries in which the signs `=` that are keys are text. -/
def withTextKeys (entries : List (Node × Node)) : List (Node × Node) :=
  let starts := (entries.filter (·.1.tag = .value)).map (·.1.start)
  if starts.isEmpty then entries else withTextEntries starts entries

/-- The value of a key. A collection cannot be one, and is refused before its items are looked at. -/
def buildKey (round : Nat) (key : Node) (value : Built Value) : Built Value :=
  if isCollectionTag key.tag then refuse round "found unhashable key" else value

section Values

variable (arrange : List Value → List Value)

mutual

/-- The value of a node that is met in a round. The fuel bounds the depth of the tree. -/
def build : (fuel round : Nat) → Node → Built Value
  | 0, round, _ => refuse round "the nodes are too deep"
  | fuel + 1, round, n =>
    match n.tag with
    | .seq =>
      match n with
      | .sequence _ items _ => (buildItems fuel (round + 1) items).map .list
      | .again _ .list _ => pure (.again .list)
      | _ => refuse (round + 1) "expected a sequence node"
    | .map =>
      if n matches .again _ .map _ then pure (.again .map) else (buildMapping fuel (round + 1) n).map .map
    | .set =>
      if n matches .again _ .map _ then pure (.again .map)
      else (buildMapping fuel (round + 1) n).map fun es => .set (arrange (es.map (·.1)))
    | .omap | .pairs =>
      match n with
      | .sequence _ items _ => (buildPairs fuel (round + 1) items).map .list
      | .again _ .list _ => pure (.again .list)
      | _ => refuse (round + 1) "expected a sequence of pairs"
    | tag => do
      match tag with
      | .merge | .value | .other _ =>
        refuse round "could not determine a constructor for the tag"
      | _ =>
        let content ← n.content round
        match readScalar tag content n.start with
        | some (.ok v) => pure v
        | some (.error fault) => fail round fault
        | none => refuse round "could not determine a constructor for the tag"

/-- The values of nodes that are met in a round. -/
def buildItems : (fuel round : Nat) → List Node → Built (List Value)
  | 0, round, _ => refuse round "the nodes are too deep"
  | _, _, [] => .ok []
  | fuel + 1, round, n :: ns => both List.cons (build fuel round n) (buildItems fuel round ns)

/-- The entries of a mapping that is filled in a round. -/
def buildMapping : (fuel round : Nat) → Node → Built Entries
  | 0, round, _ => refuse round "the nodes are too deep"
  | fuel + 1, round, n =>
    match n with
    | .mapping _ entries _ => do
      let entries ← mergedEntries round n.size entries
      return Entries.ofList (← buildEntries fuel round (withTextKeys entries))
    | _ => fail round (.notMapping n.kindName n.start)

/-- The entries with their keys and values that are met in a round. -/
def buildEntries : (fuel round : Nat) → List (Node × Node) → Built (List (Value × Value))
  | 0, round, _ => refuse round "the nodes are too deep"
  | _, _, [] => .ok []
  | fuel + 1, round, (k, v) :: es =>
    let key := buildKey round k (build fuel round k)
    both (fun kv rest => kv :: rest) (both Prod.mk key (build fuel round v)) (buildEntries fuel round es)

/-- Pairs, each of which is written as a mapping of one entry. -/
def buildPairs : (fuel round : Nat) → List Node → Built (List Value)
  | 0, round, _ => refuse round "the nodes are too deep"
  | _, _, [] => .ok []
  | fuel + 1, round, n :: ns =>
    let pair := match n with
      | .mapping _ [(k, v)] _ => both (fun k v => Value.tuple [k, v]) (build fuel round k) (build fuel round v)
      | _ => refuse round "while constructing pairs: expected a mapping of length 1"
    both List.cons pair (buildPairs fuel round ns)

end

/-- The value of a node; `arrange` tells how one goes over the items of a set, which come as they stand in the text. -/
def Node.toValue (n : Node) : Except Fault Value :=
  (build arrange (2 * n.size + 2) 0 n).mapError (·.2)

end Values

/-- Whether a character may stand in a text in YAML. -/
def isAllowed (c : Char) : Bool :=
  let n := c.toNat
  n == 0x09 || n == 0x0A || n == 0x0D || (0x20 ≤ n && n ≤ 0x7E) || n == 0x85 || (0xA0 ≤ n && n ≤ 0xFFFD) ||
    0x10000 ≤ n

/-- The value of a text, which is null if the text holds no document. Collections may stand in each other to a depth, and
`arrange` tells how one goes over the items of a set. -/
def load (arrange : List Value → List Value) (depth : Nat) (t : Text) : Except Fault Value := do
  if !t.all isAllowed then throw (.stage .characters "special characters are not allowed")
  match ← Node.ofTokens? depth (.ofText t) with
  | some node => node.toValue arrange
  | none => pure .null

end TagDoc.Yaml
