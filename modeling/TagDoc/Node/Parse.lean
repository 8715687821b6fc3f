import TagDoc.Node.Basic
import TagDoc.Notice
import TagDoc.Tag.Scan

/-!
# The nodes of a document

Each tag of a document becomes a node, except that a tag with a reserved name stays part of the text around
it, just as it is written. Neighbouring text is one node.

## Main definitions

* `joinText`: neighbouring text nodes become one
* `parseNodes`: the nodes of a document
* `optionNotices`: the notices for its malformed options
-/

namespace TagDoc

/-- Whether a name is that of a heading. -/
def isHeadingName (name : Text) : Bool := !name.isEmpty && name.all (· == '#')

/-- The node of a tag. -/
def Tag.toNode (decode : Decoder) (tag : Tag) (source : Text) : Node :=
  if isHeadingName tag.name then
    .heading { value := tag.body.value, level := tag.name.length, route := [], raw := source }
  else
    .tag { name := tag.name, value := tag.body.value
           options := tag.options.map (Options.ofBlock decode), raw := source }

/-- The node of a span, where tags with names in `reserved` are text. -/
def Span.toNode (decode : Decoder) (reserved : List Text) : Span → Node
  | .plain t => .text t
  | .tag g source => if g.name ∈ reserved then .text source else g.toNode decode source

/-- Neighbouring text nodes become one. -/
def joinText : List Node → List Node
  | [] => []
  | .text t :: nodes =>
    match joinText nodes with
    | .text u :: rest => .text (t ++ u) :: rest
    | rest => .text t :: rest
  | n :: nodes => n :: joinText nodes

/-- The nodes of a document. -/
def parseNodes (decode : Decoder) (reserved : List Text) (t : Text) : List Node :=
  joinText ((scan t).map fun c => c.span.toNode decode reserved)

/-- The notice for a tag: there is one if it is no heading and its options are malformed. -/
def Tag.notice? (decode : Decoder) (tag : Tag) : Option Notice := do
  if isHeadingName tag.name then none
  let block ← tag.options
  let error ← (Options.ofBlock decode block).error?
  return .optionsInvalid tag.name block error

/-- The notice for a span; a reserved tag has none. -/
def Span.notice? (decode : Decoder) (reserved : List Text) : Span → Option Notice
  | .plain _ => none
  | .tag g _ => if g.name ∈ reserved then none else g.notice? decode

/-- The notices for the malformed options of a document, in order. -/
def optionNotices (decode : Decoder) (reserved : List Text) (t : Text) : List Notice :=
  (scan t).filterMap fun c => c.span.notice? decode reserved

end TagDoc
