import TagDoc.Document.Model
import TagDoc.FrontMatter
import TagDoc.Host
import TagDoc.Markdown.Trace
import TagDoc.Node.Parse

/-!
# Compiling a text

A text is compiled into a block: the white space around it and its front matter are taken off, what is left is
cut into nodes, and the text between the tags is rendered. Text of which nothing is left when it is rendered
is dropped. A text that cannot be rendered has no block.

A compiler knows which names are reserved. They can be replaced for a single text.

## Main definitions

* `Compiler`, `Compiler.ofDialect?`
* `Compiler.contents`: the rendered nodes of a text without front matter
* `Compiler.block`: the block of a text
* `Compiler.contentNotices`, `Compiler.notices`: what there is to be told about the two
-/

namespace TagDoc

/-- A way to compile texts: the names of tags that stay text, how text is rendered and what there is to be told about
that, if anything is, and how options are decoded and front matter is loaded. -/
structure Compiler where
  reserved : List Text
  toHtml : Text → Except Markdown.OptionFault Text
  attempts : Option (Text → List Markdown.Attempt)
  decode : Decoder
  load : Text → Except Yaml.Fault Value

/-- A name that no dialect of Markdown has. -/
structure UnknownDialect where
  name : RawText
  deriving DecidableEq, Repr

/-- The wording for a name that no dialect has. -/
def UnknownDialect.message (f : UnknownDialect) : Text := "Unknown markdown preset: ".toList ++ f.name.quoted

/-- Why a text has no block: its front matter cannot be read, its text cannot be rendered, or its front matter holds what
a block cannot. -/
inductive BlockFault where
  | frontMatter (fault : FrontMatter.Fault)
  | unrendered (fault : Markdown.OptionFault)
  | invalid (report : Report)
  deriving Repr

/-- The wording of a fault. -/
def BlockFault.message : BlockFault → Text
  | frontMatter fault => fault.message
  | unrendered fault => fault.message
  | invalid report => report.text

/-- The block with given contents; the keys of its metadata must be text. -/
def Block.make (contents : List Node) (contentsRaw : Text) (metadata : Entries) : Except Report Block :=
  match (Check.mapping (.map metadata)).under (.name "metadata".toList) with
  | .ok (metadata, _) => .ok { contents, contentsRaw, metadata }
  | .error issues => .error ⟨"Block", issues⟩

namespace Compiler

/-- The options that hold unless others are given. -/
def defaultOptions : Entries := [(.str "linkify".toList, .bool false)]

/-- The compiler of a host for a dialect of Markdown with options applied; `traces` is whether it tells what it tries. -/
def ofDialect? (host : Host) (reserved : List Text) (name : RawText) (options : Entries) (traces : Bool := false) :
    Except UnknownDialect Compiler :=
  match name.text?.bind Markdown.Dialect.named? with
  | none => .error ⟨name⟩
  | some d =>
    let d := (d.adjust defaultOptions).adjust options
    .ok { reserved, toHtml := host.render d, attempts := if traces then some (Markdown.trace d) else none
          decode := host.decode, load := host.loadMetadata }

/-- The reserved names in order, each of them once. -/
def reservedNames (c : Compiler) : List Text :=
  (c.reserved.mergeSort Text.le).eraseDups

/-- The names that are reserved in a text: those given with it, if any are, even if they are none at all. -/
def reservedFor (c : Compiler) (given : Option (List Text)) : List Text := given.getD c.reserved

/-- A node with its text rendered. -/
def renderNode (c : Compiler) : Node → Except Markdown.OptionFault Node
  | .text t => (c.toHtml t).map .text
  | n => .ok n

/-- Whether a node is text with nothing in it. -/
def isEmptyText : Node → Bool
  | .text t => t.isEmpty
  | _ => false

/-- The rendered nodes of a text without front matter. -/
def contents (c : Compiler) (given : Option (List Text)) (t : Text) : Except Markdown.OptionFault (List Node) :=
  ((parseNodes c.decode (c.reservedFor given) t).mapM c.renderNode).map (·.filter (!isEmptyText ·))

/-- The nodes that are rendered one after the other: the first that cannot be is the last of them. -/
def tried (c : Compiler) : List Node → List Node
  | [] => []
  | n :: ns =>
    match c.renderNode n with
    | .ok _ => n :: c.tried ns
    | .error _ => [n]

/-- What there is to be told about rendering nodes. -/
def renderNotices (c : Compiler) (ns : List Node) : List Notice :=
  match c.attempts with
  | none => []
  | some attempts => (c.tried ns).flatMap fun
    | .text t => (attempts t).map .tried
    | _ => []

/-- What there is to be told about a text without front matter: first about its options, then about its text. -/
def contentNotices (c : Compiler) (given : Option (List Text)) (t : Text) : List Notice :=
  let reserved := c.reservedFor given
  optionNotices c.decode reserved t ++ c.renderNotices (parseNodes c.decode reserved t)

/-- The front matter of a text and what comes after it; the white space around the text is taken off. -/
def cutFrontMatter (c : Compiler) (t : Text) : Except FrontMatter.Fault FrontMatter :=
  FrontMatter.extract c.load t.strip

/-- The block of a text. -/
def block (c : Compiler) (given : Option (List Text)) (t : Text) : Except BlockFault Block := do
  let fm ← (c.cutFrontMatter t).mapError .frontMatter
  let contents ← (c.contents given fm.body).mapError .unrendered
  (Block.make contents fm.body fm.metadata).mapError .invalid

/-- What there is to be told about a text, whether it has a block or not. -/
def notices (c : Compiler) (given : Option (List Text)) (t : Text) : List Notice :=
  match c.cutFrontMatter t with
  | .error _ => []
  | .ok fm => c.contentNotices given fm.body

end Compiler

end TagDoc
