import TagDoc.Markdown.BlockReader
import TagDoc.Markdown.Html
import TagDoc.Markdown.InlineReader
import TagDoc.Markdown.Typography

/-!
# Rendering Markdown

A document is read into blocks first, since the text of a paragraph can refer to definitions anywhere in the document.
Then the text of each block is read into pieces, and everything is written as HTML.

A document is not written if it needs an option whose value is of no use. The first such need counts: blocks are read
before texts, and these before code is written.

Blocks in blocks and brackets in brackets are read by calls in calls, for which there is room to a limit only.

## Main definitions

* `Markdown.fault?`: why a document is not written
* `Markdown.render`
* `Markdown.renderWithin`: the same where calls have a limit
-/

namespace TagDoc.Markdown

/-- The text of a block as HTML. -/
def renderText (d : Dialect) (references : References) (t : Text) : Except OptionFault Text :=
  (typeset d t (readPieces d references t)).map (writePieces d)

/-- The fault of a choice, if it is one. -/
def faultOf? {α : Type} : Except OptionFault α → Option OptionFault
  | .error fault => some fault
  | .ok _ => none

/-- Why texts cannot be rendered. Only quotation marks can be of no use for them. -/
def textFault? (d : Dialect) (references : References) (ts : List Text) : Option OptionFault :=
  if (faultOf? d.doubleQuotes <|> faultOf? d.singleQuotes).isNone then none
  else ts.findSome? fun t => faultOf? (renderText d references t)

/-- Why the document `t`, which has been read into blocks, is not written. -/
def fault? (d : Dialect) (t : Text) (blocks : List Block) : Option OptionFault :=
  let nesting := if (normalize t).all Definition.isFiller then none else faultOf? d.maxNesting
  nesting <|> textFault? d (definitionsIn blocks) (textsIn blocks) <|> (leavesIn blocks).findSome? (Block.fault? d)

/-- A document as HTML. -/
def render (d : Dialect) (t : Text) : Except OptionFault Text :=
  let blocks := parse d t
  match fault? d t blocks with
  | some fault => .error fault
  | none =>
    let inline (t : Text) : Text := (renderText d (definitionsIn blocks) t).toOption.getD []
    .ok (writeBlocks d inline false false blocks)

/-! ### Calls -/

mutual

/-- How many blocks stand in each other in a block. -/
def Block.depth : Block → Nat
  | .quote blocks | .alert _ blocks => depthIn blocks + 1
  | .list _ _ items => depthOf items + 1
  | _ => 0

/-- How many blocks stand in each other in blocks. -/
def depthIn : List Block → Nat
  | [] => 0
  | b :: blocks => max b.depth (depthIn blocks)

/-- How many blocks stand in each other in the items of a list. -/
def depthOf : List (Option Bool × List Block) → Nat
  | [] => 0
  | (_, item) :: items => max (depthIn item) (depthOf items)

end

/-- How many brackets stand in each other in a text; one that is not closed goes on to the end. -/
def bracketDepth (t : Text) : Nat :=
  let step (depths : Nat × Nat) (c : Char) : Nat × Nat :=
    if c = '[' then (depths.1 + 1, max depths.2 (depths.1 + 1))
    else if c = ']' then (depths.1 - 1, depths.2)
    else depths
  (t.foldl step (0, 0)).2

/-- How many calls stand in each other where blocks are read, and then their texts: two for a block in another, and three
for a bracket in another. -/
def nestedCalls (d : Dialect) (blocks : List Block) : Nat :=
  max (2 * depthIn blocks) ((textsIn blocks).foldl (fun n t => max n (3 * min d.textLimit (bracketDepth t))) 0)

/-- A document as HTML, where there is room for some calls in calls only. -/
def renderWithin (room : Nat) (d : Dialect) (t : Text) : Except OptionFault Text :=
  if room < nestedCalls d (parse d t) then .error .tooDeep else render d t

end TagDoc.Markdown
