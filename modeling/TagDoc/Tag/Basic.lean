import TagDoc.Text.Basic

/-!
# Tags

A tag is an annotation that opens at the start of a line:

    @name {options} value

or, with a body of several lines between two lines of dots:

    @name {options} ...
    value
    ...

This module holds what a tag is. How it is read from a text is the matter of `TagDoc.Tag.Reading`.
-/

namespace TagDoc

/-- The body of a tag: none at all, the rest of the tag's line, or the lines between two lines of dots. -/
inductive Body where
  | absent
  | line (text : Text)
  | fenced (text : Text)
  deriving DecidableEq, Repr, Inhabited

namespace Body

/-- What the body says, however it was written. -/
def value : Body → Option Text
  | absent => none
  | line t => some t
  | fenced t => some t

/-- Whether the body was written between two lines of dots. -/
def isFenced : Body → Bool
  | fenced _ => true
  | _ => false

end Body

/-- A tag as written: its name, its block of options with the braces around it, and its body. -/
structure Tag where
  name : Text
  options : Option Text
  body : Body
  deriving DecidableEq, Repr, Inhabited

/-- What reading the start of a text gives: a value, the source it was read from, and the text left over. -/
structure Reading (α : Type) where
  value : α
  source : Text
  rest : Text
  deriving DecidableEq, Repr

/-- A reading covers a text if its source and the text left over make up that text. -/
def Reading.Covers {α : Type} (r : Reading α) (t : Text) : Prop := r.source ++ r.rest = t

end TagDoc
