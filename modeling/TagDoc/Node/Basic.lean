import TagDoc.Tag.Options

/-!
# Nodes

A document is a sequence of nodes: text, tags and headings. A tag whose name is made of number signs only is a
heading, and its level is the length of that name.

## Main definitions

* `TagNode`, `Heading`, `Node`
* `Node.source`: the source that a node was read from
* `sourceText`: the source of a sequence of nodes
-/

namespace TagDoc

/-- A tag in a document, with its source. Its options are absent if it was written without a block of them. -/
structure TagNode where
  name : Text
  value : Option Text
  options : Option Options
  raw : Text
  deriving Repr, Inhabited

/-- A heading in a document, with its source. Its route is empty until routes are assigned. -/
structure Heading where
  value : Option Text
  level : Nat
  route : Text
  raw : Text
  deriving DecidableEq, Repr, Inhabited

/-- A part of a document. Text is Markdown before rendering, and HTML after it. -/
inductive Node where
  | text (t : Text)
  | tag (n : TagNode)
  | heading (h : Heading)
  deriving Repr, Inhabited

namespace Node

/-- The source that a node was read from. -/
def source : Node → Text
  | text t => t
  | tag n => n.raw
  | heading h => h.raw

/-- Whether a node is a tag or a heading. -/
def isStructured : Node → Bool
  | text _ => false
  | _ => true

/-- The name of a structured node. -/
def tagName? : Node → Option Text
  | text _ => none
  | tag n => some n.name
  | heading _ => some "heading".toList

end Node

/-- The source that nodes were read from. -/
def sourceText (nodes : List Node) : Text := nodes.flatMap Node.source

end TagDoc
