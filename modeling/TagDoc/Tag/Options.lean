import TagDoc.Json.Reader
import TagDoc.Schema.Check
import TagDoc.Tag.Basic

/-!
# The options of a tag

A block of options is an object in strict JSON, which is checked like every other mapping of values. A block that is not is
kept as malformed, with a message that says why, and the tag stays a tag.

## Main definitions

* `Options`
* `Decoder`: how a block is decoded; `strictJson` is the decoder in use
* `Options.ofBlock`
-/

namespace TagDoc

/-- The options of a tag: named values, or the message that says why there are none. -/
inductive Options where
  | parsed (values : Entries)
  | malformed (error : Text)
  deriving Repr, Inhabited

/-- A way to decode a block of options, which may fail with a message. -/
abbrev Decoder := Text → Except Text Value

/-- Strict JSON, nested to a depth, in which the numbers that JSON does not have are refused. -/
def strictJson (maxDepth : Nat) : Decoder := fun block => (Json.read maxDepth false block).mapError (·.message block)

/-- The options that a value gives. -/
def Options.ofValue (v : Value) : Options :=
  match (Check.mapping v).under (.name "values".toList) with
  | .ok (values, _) => parsed values
  | .error issues => malformed (Report.text ⟨"ParsedOptions", issues⟩)

/-- The options in a block, which comes with its braces. -/
def Options.ofBlock (decode : Decoder) (block : Text) : Options :=
  match decode block with
  | .ok v => ofValue v
  | .error message => malformed message

/-- The message of malformed options. -/
def Options.error? : Options → Option Text
  | parsed _ => none
  | malformed e => some e

end TagDoc
