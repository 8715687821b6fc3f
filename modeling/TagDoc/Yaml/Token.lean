import TagDoc.Yaml.Cursor

/-!
# Tokens

The signs that a text in YAML is made of. Some of them are not written: indentation opens and closes
sequences and mappings, and the sign before a key is known only from the colon behind it.

## Main definitions

* `Yaml.Token`, `Yaml.TokenKind`
* `Yaml.TokenStream`: tokens, and the fault that ends them
-/

namespace TagDoc.Yaml

/-- How a tag is written: with a handle that stands for the start of it, or in full. -/
structure TagText where
  handle : Option Text
  suffix : Text
  deriving DecidableEq, Repr

/-- A directive at the head of a document. -/
inductive Directive where
  | version (major minor : Nat)
  | handle (name start : Text)
  | other
  deriving DecidableEq, Repr

/-- The kinds of tokens. The content of a scalar is kept as code points, since an escape can give one that is
no character. -/
inductive TokenKind where
  | streamEnd
  | directive (d : Directive)
  | documentStart
  | documentEnd
  | blockSequenceStart
  | blockMappingStart
  | blockEnd
  | flowSequenceStart
  | flowMappingStart
  | flowSequenceEnd
  | flowMappingEnd
  | flowEntry
  | blockEntry
  | key
  | value
  | alias (name : Text)
  | anchor (name : Text)
  | tag (text : TagText)
  | scalar (plain : Bool) (content : List Nat)
  deriving DecidableEq, Repr, Inhabited

/-- A token with the place where it starts. -/
structure Token where
  kind : TokenKind
  start : Mark
  deriving DecidableEq, Repr, Inhabited

/-- The tokens of a text, and the fault behind the last of them if the text could not be read to its end. -/
structure TokenStream where
  tokens : List Token
  fault : Option Fault
  deriving Repr

end TagDoc.Yaml
