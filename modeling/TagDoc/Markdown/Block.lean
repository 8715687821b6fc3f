import TagDoc.Markdown.LinkSyntax

/-!
# Blocks

What a document is made of. The text of paragraphs, headings and cells is kept as it stands, since links in it can
lead to definitions that come later.

## Main definitions

* `Markdown.Block`
* `Markdown.leavesIn`: the blocks that hold text, in order
* `Markdown.definitionsIn`, `Markdown.textsIn`: the definitions and the texts of blocks
-/

namespace TagDoc.Markdown

/-- How the cells of a column are aligned. -/
inductive Align where
  | none
  | left
  | center
  | right
  deriving DecidableEq, Repr, Inhabited

/-- A table: how its columns are aligned, its header, and its other rows. -/
structure Table where
  aligns : List Align
  header : List Text
  rows : List (List Text)
  deriving Repr, Inhabited

/-- The kinds of lists: with bullets, or numbered from some number on. -/
inductive ListStyle where
  | bullets
  | numbers (first : Nat)
  deriving DecidableEq, Repr, Inhabited

/-- The kinds of alerts: quotations that stand out by a title. -/
inductive Alert where
  | note
  | tip
  | important
  | warning
  | caution
  deriving DecidableEq, Repr, Inhabited

/-- The name of a kind of alert. -/
def Alert.name : Alert → String
  | note => "note"
  | tip => "tip"
  | important => "important"
  | warning => "warning"
  | caution => "caution"

/-- The kind of alert that a line stands for; capitals are as good as small letters. -/
def Alert.ofLine? (line : Text) : Option Alert :=
  [note, tip, important, warning, caution].find? fun kind =>
    Text.toLower line == "[!".toList ++ kind.name.toList ++ [']']

/-- A block of a document. The items of a tight list have their paragraphs without the elements for these; an item that
is a task is done or not. -/
inductive Block where
  | paragraph (text : Text)
  | heading (level : Nat) (text : Text)
  | rule
  | code (text : Text)
  | fence (info text : Text)
  | html (text : Text)
  | table (table : Table)
  | definition (definition : Definition)
  | quote (blocks : List Block)
  | alert (kind : Alert) (blocks : List Block)
  | list (style : ListStyle) (tight : Bool) (items : List (Option Bool × List Block))
  deriving Repr, Inhabited

mutual

/-- The blocks without blocks of their own in a block, in order. -/
def Block.leaves : Block → List Block
  | .quote blocks => leavesIn blocks
  | .alert _ blocks => leavesIn blocks
  | .list _ _ items => leavesOf items
  | b => [b]

/-- The blocks without blocks of their own in blocks. -/
def leavesIn : List Block → List Block
  | [] => []
  | b :: blocks => b.leaves ++ leavesIn blocks

/-- The blocks without blocks of their own in the items of a list. -/
def leavesOf : List (Option Bool × List Block) → List Block
  | [] => []
  | (_, item) :: items => leavesIn item ++ leavesOf items

end

/-- The definition that a block is. -/
def Block.definition? : Block → Option Definition
  | .definition d => some d
  | _ => none

/-- The definitions in blocks, in order. -/
def definitionsIn (blocks : List Block) : References := (leavesIn blocks).filterMap Block.definition?

/-- The texts of a block without blocks of its own. -/
def Block.texts : Block → List Text
  | .paragraph t | .heading _ t => [t]
  | .table t => t.header ++ t.rows.flatten
  | _ => []

/-- The texts of blocks, in order. -/
def textsIn (blocks : List Block) : List Text := (leavesIn blocks).flatMap Block.texts

end TagDoc.Markdown
