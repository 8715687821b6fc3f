import TagDoc.Text.Basic

/-!
# Attempts

At each line where a block can start, the kinds of blocks are tried one after the other. What is tried can be told
line by line, to find out why a document is read as it is.

## Main definitions

* `Markdown.BlockKind`: the kinds that are tried
* `Markdown.Attempt`, `Markdown.Attempt.message`
-/

namespace TagDoc.Markdown

/-- The kinds of blocks that are tried. Tables are tried too, but are not told about. -/
inductive BlockKind where
  | code
  | fence
  | quote
  | rule
  | list
  | definition
  | html
  | heading
  | underlined
  | paragraph
  deriving DecidableEq, Repr

/-- The name of a kind. -/
def BlockKind.name : BlockKind → String
  | code => "code"
  | fence => "fence"
  | quote => "blockquote"
  | rule => "hr"
  | list => "list"
  | definition => "reference"
  | html => "html_block"
  | heading => "heading"
  | underlined => "lheading"
  | paragraph => "paragraph"

/-- A kind that is tried at a line.

* `line`: the first line of the block that is being read
* `level`: how many blocks are around
* `tokens`: how many signs for the start, the end and the contents of blocks were found before
* `start`: the line that is looked at
* `stop`: the line after the last one that can be looked at
* `probing`: whether it is only asked if the line ends the block before it -/
structure Attempt where
  kind : BlockKind
  line : Nat
  level : Nat
  tokens : Nat
  start : Nat
  stop : Nat
  probing : Bool
  deriving DecidableEq, Repr

/-- The wording of an attempt. -/
def Attempt.message (a : Attempt) : Text :=
  "entering ".toList ++ a.kind.name.toList ++ ": StateBlock(line=".toList ++ Text.ofNat a.line ++
    ",level=".toList ++ Text.ofNat a.level ++ ",tokens=".toList ++ Text.ofNat a.tokens ++ "), ".toList ++
    Text.ofNat a.start ++ ", ".toList ++ Text.ofNat a.stop ++ ", ".toList ++
    (if a.probing then "True" else "False").toList

end TagDoc.Markdown
