import TagDoc.Document.Basic
import TagDoc.Schema.Check

/-!
# Models

The parts of a compiled document can be built from plain data, which is checked on the way. Each kind of part
is a model with its own fields. All models but documents are frozen: none of their fields can be given
another value afterwards. A document takes any value for its fields, and has no others; two names are taken by what every
model tells of itself, and cannot be given a value. A name with an underscore in front is no field, and what is kept under
it shows nowhere.

## Main definitions

* `ModelKind`, `Model`
* `ModelKind.build`: the model made from the entries of a mapping
* `Model.assign`: a model after a field was given a value
-/

namespace TagDoc

open Fields

/-- The field that tells the kind of a model; it may be left out. -/
def kindField (kind : String) : Fields Unit := optional "kind" () (Check.literal kind.toList)

/-- The fields of parsed options. -/
def parsedFields : Fields Options :=
  (fun _ values => .parsed values) <$> kindField "parsed" <*> required "values" Check.mapping

/-- The fields of malformed options. -/
def malformedFields : Fields Options :=
  (fun _ error => .malformed error) <$> kindField "malformed" <*> required "error" Check.text

/-- Options of either kind. -/
def checkOptions : Check Options :=
  Check.oneOf [("ParsedOptions", parsedFields.check "ParsedOptions"),
    ("MalformedOptions", malformedFields.check "MalformedOptions")]

/-- The fields of a text node. -/
def textFields : Fields Node := (fun _ t => .text t) <$> kindField "text" <*> required "text" Check.text

/-- The fields of a tag. -/
def tagFields : Fields TagNode :=
  (fun _ name value options raw => { name, value, options, raw }) <$> kindField "tag"
    <*> required "tag" Check.text
    <*> optional "value" none (Check.optional Check.text)
    <*> optional "options" none (Check.optional checkOptions)
    <*> optional "raw" [] Check.text

/-- The fields of a heading. -/
def headingFields : Fields Heading :=
  (fun _ _ value level route raw => { value, level := Int.toNat level, route, raw }) <$> kindField "heading"
    <*> optional "tag" () (Check.literal "heading".toList)
    <*> optional "value" none (Check.optional Check.text)
    <*> required "level" (Check.integerFrom 1)
    <*> optional "route" [] Check.text
    <*> optional "raw" [] Check.text

/-- An item of a block's contents: rendered text, a tag or a heading. -/
def checkContent : Check Node :=
  Check.oneOf [("str", fun v => (Check.text v).map Node.text),
    ("TagNode", fun v => (tagFields.check "TagNode" v).map Node.tag),
    ("HeadingTag", fun v => (headingFields.check "HeadingTag" v).map Node.heading)]

/-- The fields of a block. -/
def blockFields : Fields Block :=
  (fun contents contentsRaw metadata => { contents, contentsRaw, metadata }) <$>
    optional "contents" [] (Check.sequence .notTuple checkContent)
    <*> required "contents_raw" Check.text
    <*> optional "metadata" [] Check.mapping

/-- The fields of a document. -/
def documentFields : Fields Document :=
  (fun slug path block => { slug, path, block }) <$> required "slug" Check.text
    <*> required "path" Check.text
    <*> required "block" (blockFields.check "Block")

/-- The kinds of models. -/
inductive ModelKind where
  | text
  | tag
  | heading
  | parsedOptions
  | malformedOptions
  | block
  | document
  deriving DecidableEq, Repr

/-- The name of a kind in reports. -/
def ModelKind.name : ModelKind → String
  | text => "TextNode"
  | tag => "TagNode"
  | heading => "HeadingTag"
  | parsedOptions => "ParsedOptions"
  | malformedOptions => "MalformedOptions"
  | block => "Block"
  | document => "CompiledDoc"

/-- A model of any kind. -/
inductive Model where
  | node (n : Node)
  | options (o : Options)
  | block (b : Block)
  | document (d : Document)
  deriving Repr

/-- The model of a kind made from entries, or a report of all issues with them. -/
def ModelKind.build (kind : ModelKind) (entries : Entries) : Except Report Model :=
  let whole := Value.map entries
  let made : Checked Model := match kind with
    | text => (textFields.read whole entries).map .node
    | tag => (tagFields.read whole entries).map fun n => .node (.tag n)
    | heading => (headingFields.read whole entries).map fun h => .node (.heading h)
    | parsedOptions => (parsedFields.read whole entries).map .options
    | malformedOptions => (malformedFields.read whole entries).map .options
    | block => (blockFields.read whole entries).map .block
    | document => (documentFields.read whole entries).map .document
  match made with
  | .ok (m, _) => .ok m
  | .error issues => .error ⟨kind.name, issues⟩

/-- The value that a model is written as. -/
def Model.dump : Model → Value
  | node (.text t) => record [("kind", .str "text".toList), ("text", .str t)]
  | node n => n.dump
  | options o => o.dump
  | block b => b.dump
  | document d => d.dump

/-- The JSON of a model. -/
def Model.toJson (layout : Json.Layout) : Model → Except Json.WriteFault Text
  | block b => b.toJson layout
  | document d => d.toJson layout
  | options o => Json.writeHolding layout o.data (options o).dump
  | node n => Json.writeHolding layout n.data (node n).dump

/-- Why a field cannot be given a value. -/
inductive AssignFault where
  | frozen (report : Report)
  | unknownField (kind : ModelKind) (field : Text)
  | readOnly (kind : ModelKind) (field : Text)

/-- The wording of a fault. -/
def AssignFault.message : AssignFault → Text
  | frozen report => report.text
  | unknownField kind field =>
    '\x22' :: kind.name.toList ++ "\" object has no field \"".toList ++ field ++ ['\x22']
  | readOnly kind field =>
    "property ".toList ++ field.quoted ++ " of ".toList ++ Text.quoted kind.name.toList ++ " object has no setter".toList

/-- What every model tells of itself: the fields that were set, and what else it was given. -/
def selfDescriptions : List Text := ["model_extra", "model_fields_set"].map String.toList

/-- The fields of a model of some kind, shown as a value each, after `field` was given `value`. Only documents
have fields that change, and they take any value. -/
def ModelKind.assign (kind : ModelKind) (fields : Entries) (field : Text) (value : Value) :
    Except AssignFault Entries :=
  if field.head? = some '_' then .ok fields
  else match kind with
  | document =>
    if field ∈ selfDescriptions then .error (.readOnly kind field)
    else if (Entries.getText? fields field).isSome then .ok (Entries.insert fields (.str field) value)
    else .error (.unknownField kind field)
  | _ => .error (.frozen ⟨kind.name, [⟨[.name field], .frozen, value⟩]⟩)

end TagDoc
