import TagDoc.Markdown.Block
import TagDoc.Markdown.Dialect
import TagDoc.Markdown.Inline

/-!
# Writing HTML

Blocks and pieces of text as HTML. Every element of a block is on lines of its own, save where it holds only text.

In the items of a tight list, paragraphs are bare: their text stands in the item without an element, and whatever comes
next begins on a new line, unless it is code or HTML.

## Main definitions

* `writePieces`: the pieces of a text
* `writeBlocks`: blocks, of which the text is written by some function
* `Block.fault?`: why a block cannot be written
-/

namespace TagDoc.Markdown

open Text

/-- An element without contents. -/
def voidElement (d : Dialect) (name : String) (attributes : Text) : Text :=
  '<' :: name.toList ++ attributes ++ (if d.closesVoids then " />".toList else ['>'])

/-- An attribute with its value. -/
def attributeText (name : String) (value : Text) : Text := ' ' :: name.toList ++ "=\"".toList ++ escapeHtml value ++ ['\x22']

/-- The title of a target, if there is one. -/
def titleAttribute (target : Target) : Text :=
  if target.title.isEmpty then [] else attributeText "title" target.title

/-- The start of an extent. -/
def openExtent : Extent → Text
  | .emphasis => "<em>".toList
  | .strong => "<strong>".toList
  | .strikethrough => "<s>".toList
  | .link target _ => "<a".toList ++ attributeText "href" target.address ++ titleAttribute target ++ ['>']

/-- The end of an extent. -/
def closeExtent : Extent → Text
  | .emphasis => "</em>".toList
  | .strong => "</strong>".toList
  | .strikethrough => "</s>".toList
  | .link _ _ => "</a>".toList

mutual

/-- The plain text of a piece of an image's label. -/
def alternative : Piece → Text
  | .text t | .code t | .html t => t
  | .softBreak | .hardBreak => ['\n']
  | .image _ _ pieces => alternatives pieces
  | .literal _ | .opens _ | .closes _ => []

/-- The plain text of an image's label. -/
def alternatives : List Piece → Text
  | [] => []
  | p :: ps => alternative p ++ alternatives ps

end

/-- A piece of text. -/
def writePiece (d : Dialect) : Piece → Text
  | .text t | .literal t => escapeHtml t
  | .softBreak => if d.breaks then voidElement d "br" [] ++ ['\n'] else ['\n']
  | .hardBreak => voidElement d "br" [] ++ ['\n']
  | .code t => "<code>".toList ++ escapeHtml t ++ "</code>".toList
  | .html t => t
  | .image target _ pieces =>
    voidElement d "img"
      (attributeText "src" target.address ++ attributeText "alt" (alternatives pieces) ++ titleAttribute target)
  | .opens e => openExtent e
  | .closes e => closeExtent e

/-- The pieces of a text. -/
def writePieces (d : Dialect) (ps : List Piece) : Text := ps.flatMap (writePiece d)

/-- An element around some text. -/
def element (name : String) (attributes contents : Text) : Text :=
  '<' :: name.toList ++ attributes ++ ['>'] ++ contents ++ "</".toList ++ name.toList ++ ['>']

/-- The language that code is in: the first word behind its fence. -/
def languageOf (info : Text) : Text := (trim (unescape info)).takeWhile fun c => !isMargin c

/-- The class of code that is in a language. -/
def classOf (d : Dialect) (language : Text) : Except OptionFault Text :=
  if language.isEmpty then .ok [] else d.classLead.map (· ++ language)

/-- Code in an element with attributes. -/
def writeCode (attributes t : Text) : Text :=
  element "pre" [] (element "code" attributes (escapeHtml t)) ++ ['\n']

/-- Fenced code, with the language that it is in as a class. -/
def writeFence (d : Dialect) (info t : Text) : Text :=
  let name := (classOf d (languageOf info)).toOption.getD []
  writeCode (if name.isEmpty then [] else attributeText "class" name) t

/-- How the cells of a column are aligned. -/
def alignAttribute : Align → Text
  | .none => []
  | .left => attributeText "style" "text-align:left".toList
  | .center => attributeText "style" "text-align:center".toList
  | .right => attributeText "style" "text-align:right".toList

/-- A row of cells on lines of their own. -/
def writeRow (inline : Text → Text) (cell : String) (aligns : List Align) (row : List Text) : Text :=
  "<tr>\n".toList ++
    ((row.zip aligns).flatMap fun (t, align) => element cell (alignAttribute align) (inline t) ++ ['\n']) ++
    "</tr>\n".toList

/-- A table. -/
def writeTable (inline : Text → Text) (t : Table) : Text :=
  let body := t.rows.flatMap (writeRow inline "td" t.aligns)
  "<table>\n<thead>\n".toList ++ writeRow inline "th" t.aligns t.header ++ "</thead>\n".toList ++
    (if t.rows.isEmpty then [] else "<tbody>\n".toList ++ body ++ "</tbody>\n".toList) ++ "</table>\n".toList

/-- The box in front of a task. -/
def taskBox (d : Dialect) (done : Bool) : Text :=
  "<input class=\"task-list-item-checkbox\"".toList ++ (if d.editableTasks then [] else attributeText "disabled" []) ++
    attributeText "type" "checkbox".toList ++ (if done then attributeText "checked" [] else []) ++ "> ".toList

/-- The start of an alert, with its title. -/
def openAlert (kind : Alert) : Text :=
  let name := kind.name.toList
  "<div".toList ++ attributeText "class" ("markdown-alert markdown-alert-".toList ++ name) ++ ">\n".toList ++
    element "p" (attributeText "class" "markdown-alert-title".toList) ((name.take 1).map Char.toUpper ++ name.drop 1) ++
    ['\n']

/-- Whether a block is written at all. -/
def Block.isWritten (d : Dialect) : Block → Bool
  | .definition _ => d.showsDefinitions
  | _ => true

/-- Whether a block is a paragraph. -/
def Block.isParagraph : Block → Bool
  | .paragraph _ => true
  | _ => false

/-- Whether a block begins on a new line after a bare paragraph. -/
def Block.breaksLine (d : Dialect) : Block → Bool
  | .rule | .heading .. | .table _ | .quote _ | .alert .. | .list .. => true
  | .definition _ => d.showsDefinitions
  | _ => false

/-- The start of an element that holds blocks: these begin on a new line, save for a bare paragraph. -/
def openContainer (d : Dialect) (tag : Text) (bare : Bool) (blocks : List Block) : Text :=
  match blocks.find? (Block.isWritten d) with
  | none => tag
  | some b => if bare && b.isParagraph then tag else tag ++ ['\n']

/-- The end of an element that holds blocks. -/
def closeContainer (name : String) : Text := "</".toList ++ name.toList ++ ">\n".toList

/-- The attributes of a list. -/
def listAttributes (style : ListStyle) (items : List (Option Bool × List Block)) : Text :=
  (match style with
    | .numbers n => if n = 1 then [] else attributeText "start" (ofNat n)
    | .bullets => []) ++
    if items.any fun (task, _) => task.isSome then attributeText "class" "contains-task-list".toList else []

/-- The start of an item of a list, with the box in front of it if it is a task. -/
def openItem (d : Dialect) (tight : Bool) (task : Option Bool) (blocks : List Block) : Text :=
  match task with
  | none => openContainer d "<li>".toList tight blocks
  | some done => openContainer d "<li class=\"task-list-item\">".toList tight blocks ++ taskBox d done

/-- The name of the element of a list. -/
def ListStyle.name : ListStyle → String
  | .bullets => "ul"
  | .numbers _ => "ol"

/-- A paragraph whose text is written. -/
def writeParagraph (bare : Bool) (html : Text) : Text := if bare then html else element "p" [] html ++ ['\n']

mutual

/-- A block; `bare` tells that its paragraphs stand without an element. -/
def writeBlock (d : Dialect) (inline : Text → Text) (bare : Bool) : Block → Text
  | .paragraph t => writeParagraph bare (inline t)
  | .heading level t => element ("h" ++ toString level) [] (inline t) ++ ['\n']
  | .rule => voidElement d "hr" [] ++ ['\n']
  | .code t => writeCode [] t
  | .fence info t => writeFence d info t
  | .html t => t
  | .table t => writeTable inline t
  | .definition _ => if d.showsDefinitions then voidElement d "" [] ++ ['\n'] else []
  | .quote blocks =>
    openContainer d "<blockquote>".toList false blocks ++ writeBlocks d inline false false blocks ++
      closeContainer "blockquote"
  | .alert kind blocks => openAlert kind ++ writeBlocks d inline false false blocks ++ closeContainer "div"
  | .list style tight items =>
    '<' :: style.name.toList ++ listAttributes style items ++ ">\n".toList ++ writeItems d inline tight items ++
      closeContainer style.name

/-- Blocks one after another; `after` tells that a bare paragraph stands before them. -/
def writeBlocks (d : Dialect) (inline : Text → Text) (bare after : Bool) : List Block → Text
  | [] => []
  | b :: blocks =>
    (if after && b.breaksLine d then ['\n'] else []) ++ writeBlock d inline bare b ++
      writeBlocks d inline bare (if b.isWritten d then bare && b.isParagraph else after) blocks

/-- The items of a list. -/
def writeItems (d : Dialect) (inline : Text → Text) (tight : Bool) : List (Option Bool × List Block) → Text
  | [] => []
  | (task, item) :: items =>
    openItem d tight task item ++ writeBlocks d inline tight false item ++ "</li>\n".toList ++
      writeItems d inline tight items

end

/-- The fault of a block that is code which cannot be written. -/
def Block.fault? (d : Dialect) : Block → Option OptionFault
  | .fence info _ =>
    d.highlighter <|> match classOf d (languageOf info) with
      | .ok _ => none
      | .error fault => some fault
  | _ => none

end TagDoc.Markdown
