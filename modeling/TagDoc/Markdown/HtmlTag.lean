import TagDoc.Markdown.Source
import TagDoc.Text.Lower

/-!
# Tags of HTML

HTML within Markdown: tags, comments, processing instructions, declarations and sections of character data.
Only their outer form is looked at. Blocks of HTML come in seven kinds, by how they start; the kind tells where
they end.

## Main definitions

* `HtmlTag.end?`: the position after an item of HTML
* `HtmlBlock.ofLine?`: the kind of block that a line starts
* `HtmlBlock.isLastLine`: the line after which a block ends
-/

namespace TagDoc.Markdown

open Text

namespace HtmlTag

/-- A position after at least one character of `p`. -/
def some? (p : Char → Bool) (s : Source) (pos : Nat) : Option Nat :=
  let stop := s.skip p s.size pos
  if pos < stop then some stop else none

/-- Letters, digits and hyphens. -/
def isNameLetter (c : Char) : Bool := c.isAlphanum || c == '-'

/-- The position after the name of a tag. -/
def name? (s : Source) (pos : Nat) : Option Nat :=
  if s.has Char.isAlpha pos then some (s.skip isNameLetter s.size pos) else none

/-- The position after a quoted text that `quote` opens and closes. -/
def quoted? (quote : Char) (s : Source) (pos : Nat) : Option Nat :=
  if s[pos]? == some quote then s.find? [quote] (pos + 1) else none

/-- A character of a value without quotes. -/
def isBare (c : Char) : Bool := !(c ∈ "\x22\x27=<>\x60".toList) && 0x20 < c.toNat

/-- The position after the value of an attribute. -/
def value? (s : Source) (pos : Nat) : Option Nat :=
  some? isBare s pos <|> quoted? '\x27' s pos <|> quoted? '\x22' s pos

/-- The position after the value of an attribute and its equals sign, with white space around the sign. -/
def assigned? (s : Source) (pos : Nat) : Option Nat :=
  let pos := s.skip isSpace s.size pos
  if s[pos]? == some '=' then value? s (s.skip isSpace s.size (pos + 1)) else none

/-- The position after an attribute and the white space before it. -/
def attribute? (s : Source) (pos : Nat) : Option Nat := do
  let pos ← some? isSpace s pos
  let first := fun c : Char => c.isAlpha || c == '_' || c == ':'
  let later := fun c : Char => c.isAlphanum || c == '_' || c == ':' || c == '.' || c == '-'
  if s.has first pos then
    let pos := s.skip later s.size pos
    return (assigned? s pos).getD pos
  else none

/-- The position after a run of attributes. -/
def attributes (s : Source) : (fuel pos : Nat) → Nat
  | 0, pos => pos
  | fuel + 1, pos =>
    match attribute? s pos with
    | some next => attributes s fuel next
    | none => pos

/-- The position after an opening tag. -/
def opening? (s : Source) (pos : Nat) : Option Nat := do
  if s[pos]? != some '<' then none
  let pos ← name? s (pos + 1)
  let pos := s.skip isSpace s.size (attributes s s.size pos)
  let pos := if s[pos]? == some '/' then pos + 1 else pos
  if s[pos]? == some '>' then return pos + 1 else none

/-- The position after a closing tag. -/
def closing? (s : Source) (pos : Nat) : Option Nat := do
  if !s.holds pos "</".toList then none
  let pos ← name? s (pos + 2)
  let pos := s.skip isSpace s.size pos
  if s[pos]? == some '>' then return pos + 1 else none

/-- The position after the end of a comment. A hyphen goes with the character after it, and two hyphens with the
character after these. -/
def commentEnd? (s : Source) : (fuel pos : Nat) → Option Nat
  | 0, _ => none
  | fuel + 1, pos =>
    match s[pos]?, s[pos + 1]?, s[pos + 2]? with
    | none, _, _ => none
    | some '-', none, _ => none
    | some '-', some '-', none => none
    | some '-', some '-', some '>' => some (pos + 3)
    | some '-', some '-', some _ => commentEnd? s fuel (pos + 3)
    | some '-', some _, _ => commentEnd? s fuel (pos + 2)
    | some _, _, _ => commentEnd? s fuel (pos + 1)

/-- The position after a comment. -/
def comment? (s : Source) (pos : Nat) : Option Nat :=
  if s.holds pos "<!-->".toList then some (pos + 5)
  else if s.holds pos "<!--->".toList then some (pos + 6)
  else if s.holds pos "<!--".toList then commentEnd? s s.size (pos + 4)
  else none

/-- The position after an item between two marks. -/
def between? (opener closer : String) (s : Source) (pos : Nat) : Option Nat :=
  if s.holds pos opener.toList then s.find? closer.toList (pos + opener.length) else none

/-- The position after a declaration. -/
def declaration? (s : Source) (pos : Nat) : Option Nat :=
  if s.holds pos "<!".toList && s.has Char.isAlpha (pos + 2) then s.find? ['>'] (pos + 3) else none

/-- The position after an item of HTML. -/
def end? (s : Source) (pos : Nat) : Option Nat :=
  opening? s pos <|> closing? s pos <|> comment? s pos <|> between? "<?" "?>" s pos <|> declaration? s pos <|>
    between? "<![CDATA[" "]]>" s pos

/-- Whether an item of HTML opens a link. -/
def opensLink (t : Text) : Bool :=
  match t with
  | '<' :: a :: c :: _ => (a == 'a' || a == 'A') && (c == '>' || isSpace c)
  | _ => false

/-- Whether an item of HTML closes a link. -/
def closesLink (t : Text) : Bool :=
  match t with
  | '<' :: '/' :: a :: t => (a == 'a' || a == 'A') && (t.dropWhile isSpace).head? == some '>'
  | _ => false

end HtmlTag

/-- The kinds of blocks of HTML: verbatim text, a comment, a processing instruction, a declaration, character
data, a block element, and any other tag. -/
inductive HtmlBlock where
  | verbatim
  | comment
  | instruction
  | declaration
  | data
  | element
  | tag
  deriving DecidableEq, Repr

namespace HtmlBlock

/-- Elements whose text is verbatim. -/
def verbatimNames : List String := ["script", "pre", "style", "textarea"]

/-- Block elements. -/
def elementNames : List String :=
  ["address", "article", "aside", "base", "basefont", "blockquote", "body", "caption", "center", "col", "colgroup",
    "dd", "details", "dialog", "dir", "div", "dl", "dt", "fieldset", "figcaption", "figure", "footer", "form",
    "frame", "frameset", "h1", "h2", "h3", "h4", "h5", "h6", "head", "header", "hr", "html", "iframe", "legend",
    "li", "link", "main", "menu", "menuitem", "nav", "noframes", "ol", "optgroup", "option", "p", "param", "search",
    "section", "summary", "table", "tbody", "td", "tfoot", "th", "thead", "title", "tr", "track", "ul"]

/-- What follows a name at the start of a text, capitals being as good as small letters. -/
def afterName (names : List String) (t : Text) : Option Text :=
  let name := t.takeWhile isPlainAlphanum
  if String.ofList (plainLetters name) ∈ names then some (t.drop name.length) else none

/-- Whether a name ends here: at white space, at the end of a tag or at the end of the line. -/
def endsName (t : Text) : Bool :=
  match t with
  | [] => true
  | c :: _ => isSpace c || c == '>'

/-- The kind of block that a line starts, which is given without the white space before it. -/
def ofLine? (line : Text) : Option HtmlBlock :=
  match line with
  | '<' :: t =>
    let source := line.toArray
    let name := if t.head? == some '/' then t.drop 1 else t
    if (afterName verbatimNames t).any endsName then some verbatim
    else if startsWith "!--".toList t then some comment
    else if t.head? == some '?' then some instruction
    else if t.head? == some '!' && (t.drop 1).head?.any Char.isAlpha then some declaration
    else if startsWith "![CDATA[".toList t then some data
    else if (afterName elementNames name).any fun t => endsName t || startsWith "/>".toList t then some element
    else if (HtmlTag.opening? source 0 <|> HtmlTag.closing? source 0).any fun stop =>
        (source.toList.drop stop).all isSpace then some tag
    else none
  | _ => none

/-- Whether a block of this kind can start within a paragraph. -/
def interrupts (kind : HtmlBlock) : Bool := kind != tag

/-- Whether a text stands somewhere in a line. -/
def occurs (mark : String) : Text → Bool
  | [] => false
  | c :: line => startsWith mark.toList (c :: line) || occurs mark line

/-- Whether a block ends with a line. -/
def isLastLine (kind : HtmlBlock) (line : Text) : Bool :=
  match kind with
  | verbatim => verbatimNames.any fun name => occurs ("</" ++ name ++ ">") (plainLetters line)
  | comment => occurs "-->" line
  | instruction => occurs "?>" line
  | declaration => occurs ">" line
  | data => occurs "]]>" line
  | element | tag => line.isEmpty

end HtmlBlock

end TagDoc.Markdown
