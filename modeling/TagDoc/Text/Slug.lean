import TagDoc.Text.Fold

/-!
# Slugs

A slug names a document or a heading in an address: small ASCII letters and digits in words, with single
hyphens between the words.

## Main definitions

* `Text.replaceRuns`: every run of certain characters becomes one character
* `Text.slug`: the slug of a text, or a given text where nothing of it is left
-/

namespace TagDoc.Text

/-- Every run of characters of `p` becomes one `d`. -/
def replaceRuns (p : Char → Bool) (d : Char) : Text → Text
  | [] => []
  | c :: t =>
    if !p c then c :: replaceRuns p d t
    else if t.head?.any p then replaceRuns p d t
    else d :: replaceRuns p d t

/-- The characters that a slug keeps or turns into hyphens. -/
def isSlugMaterial (c : Char) : Bool := isWord c || isSpace c || c == '-'

/-- White space and underscores, which a slug writes as hyphens. -/
def isSlugGap (c : Char) : Bool := isSpace c || c == '_'

/-- The words of a text, folded to small ASCII letters and digits, with single hyphens between them. What is
neither of a word nor between words is left out. -/
def slugWords (t : Text) : Text :=
  let kept := (toLower (fold t)).filter isSlugMaterial
  trim (· == '-') (replaceRuns (· == '-') '-' (replaceRuns isSlugGap '-' kept))

/-- The slug of a text; `fallback` stands in where no word is left. -/
def slug (t : Text) (fallback : Text) : Text :=
  let words := slugWords t
  if words.isEmpty then fallback else words

theorem slug_of_slugWords_eq_nil {t : Text} (h : slugWords t = []) (fallback : Text) :
    slug t fallback = fallback := by simp [slug, h]

theorem slug_of_slugWords_ne_nil {t : Text} (h : slugWords t ≠ []) (fallback : Text) :
    slug t fallback = slugWords t := by simp [slug, h]

end TagDoc.Text
