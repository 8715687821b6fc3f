import TagDoc.Value.Index

/-!
# Dialects of Markdown

A dialect is a set of constructs that are understood, and of choices on how they are written as HTML. There are
a few named dialects, each of which options can change.

An option can have any value. One that is of no use is a fault only once it is needed, so the choices that
depend on such an option may be faults.

## Main definitions

* `Markdown.Dialect`
* `Markdown.Dialect.named?`: the dialects that have names
* `Markdown.Dialect.adjust`: a dialect with options applied
* `Markdown.OptionFault`: why the value of an option is of no use
-/

namespace TagDoc.Markdown

/-- Why the value of an option is of no use where it is needed: it holds no quotation mark at some place, it is no
text where text is put together, it is nothing that code can be given to, it has no text behind it, or no number is
compared with it. Or it allows more nesting than calls have, and a text makes use of that. -/
inductive OptionFault where
  | noQuote (fault : KeyFault)
  | notText (type : String)
  | notCallable (type : String)
  | notExtended (value : Value)
  | notCompared (type : String)
  | tooDeep
  deriving Repr

/-- The wording of a fault. -/
def OptionFault.message : OptionFault → Text
  | noQuote fault => fault.message
  | notText type => "can only concatenate str (not \"".toList ++ type.toList ++ "\") to str".toList
  | notCallable type => '\x27' :: type.toList ++ "' object is not callable".toList
  | notExtended (.list _) => "can only concatenate list (not \"str\") to list".toList
  | notExtended (.bytes _) => "can't concat str to bytes".toList
  | notExtended value =>
    "unsupported operand type(s) for +: '".toList ++ value.fullTypeName.toList ++ "' and 'str'".toList
  | notCompared type => "'>=' not supported between instances of 'int' and '".toList ++ type.toList ++ ['\x27']
  | tooDeep => "maximum recursion depth exceeded".toList

/-- Two quotation marks, which open and close. -/
structure Quotes where
  opener : Text
  closer : Text
  deriving DecidableEq, Repr, Inhabited

/-- How deep blocks may stand in each other, and how deep links and images in the text of one. -/
structure Nesting where
  blocks : Nat
  texts : Nat
  deriving DecidableEq, Repr, Inhabited

/-- What is understood, and how it is written.

* `structured`: whether there is more than paragraphs of plain text
* `tables`, `strikethrough`, `tasks`, `alerts`: constructs that not all dialects have
* `singleTildes`: whether text is struck through by one tilde as well as by two
* `editableTasks`: whether the boxes of tasks can be used
* `showsDefinitions`: whether definitions leave a mark where they stand
* `findsLinks`: whether addresses in plain text can become links; they do if `linkify` is set
* `setsType`: whether typography can be improved; it is if `typographer` is set
* `html`: whether HTML passes through
* `closesVoids`: whether elements without contents end in a slash
* `breaks`: whether every line break in a paragraph is kept
* `classLead`: what the class of a code block has before the name of the language
* `highlighter`: the fault of what should highlight code, if there is anything that should
* `doubleQuotes`, `singleQuotes`: the quotation marks that take the place of straight ones
* `maxNesting`: how deep constructs may stand in each other -/
structure Dialect where
  structured : Bool
  tables : Bool
  strikethrough : Bool
  singleTildes : Bool
  tasks : Bool
  editableTasks : Bool
  alerts : Bool
  showsDefinitions : Bool
  findsLinks : Bool
  setsType : Bool
  html : Bool
  closesVoids : Bool
  breaks : Bool
  linkify : Bool
  typographer : Bool
  classLead : Except OptionFault Text
  highlighter : Option OptionFault
  doubleQuotes : Except OptionFault Quotes
  singleQuotes : Except OptionFault Quotes
  maxNesting : Except OptionFault Nesting

namespace Dialect

/-- Plain text in paragraphs, and nothing else. -/
def zero : Dialect where
  structured := false
  tables := false
  strikethrough := false
  singleTildes := false
  tasks := false
  editableTasks := false
  alerts := false
  showsDefinitions := false
  findsLinks := false
  setsType := false
  html := false
  closesVoids := false
  breaks := false
  linkify := false
  typographer := false
  classLead := .ok "language-".toList
  highlighter := none
  doubleQuotes := .ok ⟨['“'], ['”']⟩
  singleQuotes := .ok ⟨['‘'], ['’']⟩
  maxNesting := .ok ⟨20, 20⟩

/-- CommonMark and no more. -/
def commonmark : Dialect := { zero with structured := true, html := true, closesVoids := true }

/-- All that is common to most dialects, without HTML. -/
def standard : Dialect :=
  { zero with
    structured := true, tables := true, strikethrough := true, findsLinks := true, setsType := true,
    maxNesting := .ok ⟨100, 100⟩ }

/-- CommonMark with tables, strikethrough and bare links. -/
def gfmLike : Dialect :=
  { commonmark with tables := true, strikethrough := true, findsLinks := true, linkify := true }

/-- The former with tasks, alerts and strikethrough by one tilde. -/
def gfmLike2 : Dialect := { gfmLike with tasks := true, alerts := true, singleTildes := true }

/-- The dialect of a name. -/
def named? (name : Text) : Option Dialect :=
  match String.ofList name with
  | "zero" => some zero
  | "commonmark" => some commonmark
  | "default" | "js-default" => some standard
  | "gfm-like" => some gfmLike
  | "gfm-like2" => some gfmLike2
  | _ => none

/-- A depth that nothing reaches. -/
def unlimited : Nat := 0xFFFFFFFFFFFFFFFF

/-- The depths that a number allows. For what is not a number no block is too deep, and all text is. -/
def nestingOf : Value → Except OptionFault Nesting
  | .bool b => .ok ⟨b.toNat, b.toNat⟩
  | .int n => .ok ⟨n.toNat, n.toNat⟩
  | .nan _ => .ok ⟨unlimited, 0⟩
  | .float x =>
    let n := x.ceil.toUInt64.toNat
    .ok (if x.isNaN then ⟨unlimited, 0⟩ else ⟨n, n⟩)
  | v => .error (.notCompared v.fullTypeName)

/-- A value that should be text. -/
def textOf : Value → Except OptionFault Text
  | .str t => .ok t
  | .codes points => .ok (Text.ofPoints points)
  | v => .error (.notText v.fullTypeName)

/-- The quotation marks at two places of a value. Both are looked up before they are used, the closing one first. -/
def quotesAt (opener closer : Int) (v : Value) : Except OptionFault Quotes := do
  let opener ← (Value.item (.int opener) v).mapError .noQuote
  let closer ← (Value.item (.int closer) v).mapError .noQuote
  let closer ← textOf closer
  return ⟨← textOf opener, closer⟩

/-- What stands before the name of a language. -/
def classLeadOf : Value → Except OptionFault Text
  | .str t => .ok t
  | .codes points => .ok (Text.ofPoints points)
  | v => .error (.notExtended v)

/-- A dialect with one option applied; an option of another name changes nothing. -/
def applyOption (d : Dialect) (name : Text) (value : Value) : Dialect :=
  match String.ofList name with
  | "html" => { d with html := value.isTruthy }
  | "xhtmlOut" => { d with closesVoids := value.isTruthy }
  | "breaks" => { d with breaks := value.isTruthy }
  | "linkify" => { d with linkify := value.isTruthy }
  | "typographer" => { d with typographer := value.isTruthy }
  | "tasklists" => { d with tasks := value.isTruthy }
  | "tasklists_editable" => { d with editableTasks := value.isTruthy }
  | "alerts" => { d with alerts := value.isTruthy }
  | "strikethrough_single_tilde" => { d with singleTildes := value.isTruthy }
  | "inline_definitions" => { d with showsDefinitions := value.isTruthy }
  | "langPrefix" => { d with classLead := classLeadOf value }
  | "highlight" => { d with highlighter := if value.isTruthy then some (.notCallable value.fullTypeName) else none }
  | "quotes" => { d with doubleQuotes := quotesAt 0 1 value, singleQuotes := quotesAt 2 3 value }
  | "maxNesting" => { d with maxNesting := nestingOf value }
  | _ => d

/-- A dialect with options applied. -/
def adjust (d : Dialect) (options : Entries) : Dialect :=
  options.foldl (fun d (k, v) => match k with
    | .str name => d.applyOption name v
    | _ => d) d

/-- How deep blocks may stand in each other. -/
def blockLimit (d : Dialect) : Nat := (d.maxNesting.toOption.map Nesting.blocks).getD 0

/-- How deep links and images may stand in each other. -/
def textLimit (d : Dialect) : Nat := (d.maxNesting.toOption.map Nesting.texts).getD 0

/-- The quotation marks that take the place of straight ones. -/
def quotes (d : Dialect) (single : Bool) : Except OptionFault Quotes :=
  if single then d.singleQuotes else d.doubleQuotes

end Dialect

end TagDoc.Markdown
