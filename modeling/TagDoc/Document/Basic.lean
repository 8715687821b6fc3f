import TagDoc.Json.Writer
import TagDoc.Node.Basic

/-!
# Compiled documents

A block is what a text compiles to: its nodes with the text rendered, the text itself without its front
matter, and the metadata from the front matter. A document is a block with the slug it is stored under and
the path it was read from.

## Main definitions

* `Block`, `Document`
* `Block.tags`: the structured nodes of a block
* `Block.dump`, `Document.dump`: what is written out, as a value
* `Block.toJson`, `Document.toJson`: what is written out, as JSON
-/

namespace TagDoc

/-- A compiled text. -/
structure Block where
  contents : List Node
  contentsRaw : Text
  metadata : Entries
  deriving Repr, Inhabited

/-- A compiled file. -/
structure Document where
  slug : Text
  path : Text
  block : Block
  deriving Repr, Inhabited

/-- A mapping with literal keys. -/
def record (fields : List (String × Value)) : Value := .map (fields.map fun (k, v) => (.str k.toList, v))

/-- A text as a value, null if it is absent. -/
def textOrNull : Option Text → Value
  | some t => .str t
  | none => .null

/-- The value that options are written as. -/
def Options.dump : Options → Value
  | parsed values => record [("kind", .str "parsed".toList), ("values", .map values)]
  | malformed error => record [("kind", .str "malformed".toList), ("error", .str error)]

/-- The value that a tag is written as; its source is left out. -/
def TagNode.dump (n : TagNode) : Value :=
  record [("kind", .str "tag".toList), ("tag", .str n.name), ("value", textOrNull n.value),
    ("options", (n.options.map Options.dump).getD .null)]

/-- The value that a heading is written as; its source is left out. -/
def Heading.dump (h : Heading) : Value :=
  record [("kind", .str "heading".toList), ("tag", .str "heading".toList), ("value", textOrNull h.value),
    ("level", .int h.level), ("route", .str h.route)]

/-- The value that a node of a rendered block is written as; text is written as HTML. -/
def Node.dump : Node → Value
  | text t => .str t
  | tag n => n.dump
  | heading h => h.dump

namespace Block

/-- The structured nodes of a block, in order. -/
def tags (b : Block) : List Node := b.contents.filter Node.isStructured

/-- The value that a block is written as. -/
def dump (b : Block) : Value :=
  record [("contents", .list (b.contents.map Node.dump)), ("contents_raw", .str b.contentsRaw),
    ("metadata", .map b.metadata)]

end Block

/-- The slug of a document as a value. Where the metadata ask for a slug with half of a surrogate pair, the document has
that one, of which `slug` is what is shown. -/
def Document.slugValue (d : Document) : Value :=
  match Entries.getText? d.block.metadata "slug".toList with
  | some (.codes points) => .codes points
  | _ => .str d.slug

/-- The value that a document is written as. -/
def Document.dump (d : Document) : Value :=
  record [("slug", d.slugValue), ("path", .str d.path), ("block", d.block.dump)]

/-! ### Written as JSON -/

/-- The data of no fixed form in options. -/
def Options.data : Options → List Value
  | parsed values => values.map (·.2)
  | malformed _ => []

/-- The data of no fixed form in a node. -/
def Node.data : Node → List Value
  | tag n => (n.options.map Options.data).getD []
  | _ => []

/-- The data of no fixed form in a block. -/
def Block.data (b : Block) : List Value := b.contents.flatMap Node.data ++ b.metadata.map (·.2)

/-- The JSON of a block. -/
def Block.toJson (layout : Json.Layout) (b : Block) : Except Json.WriteFault Text :=
  Json.writeHolding layout b.data b.dump

/-- The JSON of a document. -/
def Document.toJson (layout : Json.Layout) (d : Document) : Except Json.WriteFault Text :=
  Json.writeHolding layout d.block.data d.dump

end TagDoc
