import TagDoc.Markdown.LinkSyntax

/-!
# Text with marks

The text of a paragraph is a row of pieces: plain text, breaks, code, images and HTML. Spans of emphasis and links
open and close between pieces; they are nested.

## Main definitions

* `Markdown.Piece`
* `Markdown.joinPlainPieces`: neighbouring pieces of plain text become one
-/

namespace TagDoc.Markdown

/-- What can extend over pieces. A link that was found in plain text is `found`. -/
inductive Extent where
  | emphasis
  | strong
  | strikethrough
  | link (target : Target) (found : Bool)
  deriving DecidableEq, Repr, Inhabited

/-- A piece of text. What was escaped or given by reference is `literal`, and typography leaves it alone. An image
has its label as it was written, and in pieces. -/
inductive Piece where
  | text (t : Text)
  | literal (t : Text)
  | softBreak
  | hardBreak
  | code (t : Text)
  | html (t : Text)
  | image (target : Target) (label : Text) (pieces : List Piece)
  | opens (extent : Extent)
  | closes (extent : Extent)
  deriving Repr, Inhabited

namespace Piece

/-- The text that a piece has of its own. -/
def contents : Piece → Text
  | text t | literal t | code t | html t => t
  | image _ label _ => label
  | softBreak | hardBreak | opens _ | closes _ => []

/-- Whether a piece is a break. -/
def isBreak : Piece → Bool
  | softBreak | hardBreak => true
  | _ => false

end Piece

/-- Neighbouring pieces of plain text become one. -/
def joinPlainPieces : List Piece → List Piece
  | [] => []
  | .text t :: ps =>
    match joinPlainPieces ps with
    | .text u :: rest => .text (t ++ u) :: rest
    | rest => .text t :: rest
  | p :: ps => p :: joinPlainPieces ps

end TagDoc.Markdown
