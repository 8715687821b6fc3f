import Mathlib.Data.List.Forall2
import TagDoc.Proofs.Json.Constant
import TagDoc.Proofs.Json.Object
import TagDoc.Proofs.Node.JoinText

/-!
# Options that fail

A block of options that cannot be decoded costs its tag the options, and nothing else. Whatever the decoder does, each
tag that is not reserved has its node, and each node with malformed options has its notice, in the order of the
document. In strict JSON a block fails if it fails as JSON with constants, if it is no object, or if it has one of the
constants in it; every object is a mapping from texts, and so passes the check of options as it is.

## Main definitions

* `freeTags`: the tags of a document that are not reserved
* `Options.Account`: how the options of a node follow from the block
* `Tag.Becomes`: a tag and its node
* `Notice.TellsOf`: a notice and the tag and node that it is about

## Main results

* `parseNodes_accounts_for_options`: the tags, the nodes and the notices of a document go together
-/

namespace TagDoc

open Text

variable {decode : Decoder} {reserved : List Text} {block source : Text} {g : Tag}

/-- The tag of a span with its source, if there is one and its name is not reserved. -/
def Span.freeTag? (reserved : List Text) : Span → Option (Tag × Text)
  | plain _ => none
  | tag g source => if g.name ∈ reserved then none else some (g, source)

/-- The tags of a document that are not reserved, with their sources, in order. -/
def freeTags (reserved : List Text) (t : Text) : List (Tag × Text) :=
  (scan t).filterMap fun c => c.span.freeTag? reserved

/-- How the options of a node follow from the block of its tag. -/
structure Options.Account (decode : Decoder) (block? : Option Text) (options : Option Options) : Prop where
  /-- There are none where there is no block. -/
  absent_iff : options = none ↔ block? = none
  /-- They have values where the block is decoded to a mapping that has these. -/
  parsed_iff : ∀ values, options = some (.parsed values) ↔
    ∃ block v, block? = some block ∧ decode block = .ok v ∧ (Check.mapping v).Gives values
  /-- They are malformed where there is a block that is not decoded to a mapping. -/
  malformed_iff : (∃ error, options = some (.malformed error)) ↔
    ∃ block, block? = some block ∧ ∀ v values, decode block = .ok v → ¬ (Check.mapping v).Gives values
  /-- The error of a decoder that fails is kept. -/
  failed : ∀ block error, block? = some block → decode block = .error error → options = some (.malformed error)

/-- A tag, its source and the node that they become. -/
inductive Tag.Becomes (decode : Decoder) : Tag × Text → Node → Prop
  | heading {g : Tag} {source : Text} (hname : isHeadingName g.name = true) :
    Becomes decode (g, source) (.heading ⟨g.body.value, g.name.length, [], source⟩)
  | tag {g : Tag} {source : Text} {options : Option Options} (hname : isHeadingName g.name = false)
    (haccount : Options.Account decode g.options options) :
    Becomes decode (g, source) (.tag ⟨g.name, g.body.value, options, source⟩)

/-- Whether a node is a tag with malformed options. -/
def Node.isMalformed : Node → Bool
  | tag { options := some (.malformed _), .. } => true
  | _ => false

/-- A notice about a tag and its node: it has the name and the error from the node, and the block as it is written. -/
inductive Notice.TellsOf : (Tag × Text) × Node → Notice → Prop
  | intro {g : Tag} {source block error : Text} {n : TagNode} (hblock : g.options = some block)
    (herror : n.options = some (.malformed error)) :
    TellsOf ((g, source), .tag n) (.optionsInvalid n.name block error)

/-! ### One tag -/

theorem Options.ofValue_eq_parsed_iff {v : Value} {values : Entries} :
    ofValue v = parsed values ↔ (Check.mapping v).Gives values := by
  rw [ofValue, ← Checked.gives_under_iff]
  cases (Check.mapping v).under (.name "values".toList) with
  | ok r => exact (parsed.injEq r.1 values).to_iff.trans Checked.gives_ok_iff.symm
  | error issues => exact iff_of_false nofun Checked.not_gives_error

theorem Options.ofBlock_eq_parsed_iff {values : Entries} :
    ofBlock decode block = parsed values ↔ ∃ v, decode block = .ok v ∧ (Check.mapping v).Gives values := by
  rw [ofBlock]
  cases decode block with
  | ok v => simp only [ofValue_eq_parsed_iff, Except.ok.injEq, exists_eq_left']
  | error message => simp

theorem Options.exists_malformed_iff :
    (∃ error, ofBlock decode block = malformed error) ↔
      ∀ v values, decode block = .ok v → ¬ (Check.mapping v).Gives values := by
  constructor
  · rintro ⟨error, herror⟩ v values hdecode hgives
    rw [ofBlock_eq_parsed_iff.2 ⟨v, hdecode, hgives⟩] at herror
    cases herror
  · intro hnot
    cases hoptions : ofBlock decode block with
    | parsed values =>
      obtain ⟨v, hdecode, hgives⟩ := ofBlock_eq_parsed_iff.1 hoptions
      exact absurd hgives (hnot v values hdecode)
    | malformed error => exact ⟨error, rfl⟩

theorem Options.account_ofBlock (decode : Decoder) (block? : Option Text) :
    Account decode block? (block?.map (ofBlock decode)) := by
  cases block? with
  | none => exact ⟨by simp, by simp, by simp, nofun⟩
  | some block =>
    refine ⟨by simp, by simp [ofBlock_eq_parsed_iff], by simp [exists_malformed_iff], ?_⟩
    intro written error hblock hdecode
    cases hblock
    rw [Option.map_some, ofBlock, hdecode]

theorem Tag.becomes_toNode (decode : Decoder) (g : Tag) (source : Text) :
    Becomes decode (g, source) (g.toNode decode source) := by
  rw [Tag.toNode]
  split
  · rename_i hname
    exact .heading hname
  · rename_i hname
    exact .tag (by simpa using hname) (Options.account_ofBlock decode g.options)

/-- A tag has a notice about it where its node is malformed, and only there. -/
theorem Tag.notice?_cases (decode : Decoder) (g : Tag) (source : Text) :
    ((g.toNode decode source).isMalformed = false ∧ g.notice? decode = none) ∨
      (g.toNode decode source).isMalformed = true ∧
        ∃ notice, g.notice? decode = some notice ∧ Notice.TellsOf ((g, source), g.toNode decode source) notice := by
  rw [Tag.notice?, Tag.toNode]
  by_cases hname : isHeadingName g.name = true
  · -- the options of a heading are not even decoded
    rw [if_pos hname, if_pos hname]
    exact .inl ⟨rfl, rfl⟩
  · rw [if_neg hname, if_neg hname]
    cases hblock : g.options with
    | none => exact .inl ⟨rfl, rfl⟩
    | some block =>
      cases hoptions : Options.ofBlock decode block with
      | parsed values => exact .inl (by simp [Node.isMalformed, Options.error?, hoptions])
      | malformed error =>
        refine .inr ⟨by simp [Node.isMalformed, hoptions], .optionsInvalid g.name block error, ?_, ?_⟩
        · simp [Options.error?, hoptions]
        · exact .intro hblock (by simp [hoptions])

/-! ### All tags of a document -/

theorem filter_isStructured_joinText (nodes : List Node) :
    (joinText nodes).filter Node.isStructured = nodes.filter Node.isStructured := by
  induction nodes using joinText_induction with
  | nil => rfl
  | structured n nodes hn hjoin ih => rw [hjoin, List.filter_cons, List.filter_cons, ih]
  | merged t u rest nodes hu hjoin ih =>
    -- a text that is put together is passed over like its parts
    rw [hu] at ih
    rw [hjoin]
    exact ih
  | single t nodes hhead hjoin ih =>
    rw [hjoin]
    exact ih

theorem filter_isStructured_parseNodes (decode : Decoder) (reserved : List Text) (t : Text) :
    (parseNodes decode reserved t).filter Node.isStructured =
      (freeTags reserved t).map fun tag => tag.1.toNode decode tag.2 := by
  rw [parseNodes, filter_isStructured_joinText, freeTags]
  induction scan t with
  | nil => rfl
  | cons c chunks ih =>
    obtain ⟨start, t | ⟨g, source⟩⟩ := c
    · exact ih
    · -- a reserved tag is a text on the left, and left out on the right
      by_cases hname : g.name ∈ reserved
      · simpa [Span.toNode, Span.freeTag?, hname, Node.isStructured] using ih
      · simpa [Span.toNode, Span.freeTag?, hname, Tag.isStructured_toNode] using ih

theorem optionNotices_eq_filterMap (decode : Decoder) (reserved : List Text) (t : Text) :
    optionNotices decode reserved t = (freeTags reserved t).filterMap fun tag => tag.1.notice? decode := by
  rw [optionNotices, freeTags, List.filterMap_filterMap]
  refine List.filterMap_congr fun c _ => ?_
  obtain ⟨start, t | ⟨g, source⟩⟩ := c
  · rfl
  · by_cases hname : g.name ∈ reserved <;> simp [Span.notice?, Span.freeTag?, hname]

/-- The malformed nodes of tags and their notices are the same in number, and in the same order. -/
theorem forall₂_tellsOf (decode : Decoder) (tags : List (Tag × Text)) :
    List.Forall₂ Notice.TellsOf
      ((tags.zip (tags.map fun tag => tag.1.toNode decode tag.2)).filter fun row => row.2.isMalformed)
      (tags.filterMap fun tag => tag.1.notice? decode) := by
  induction tags with
  | nil => exact .nil
  | cons tag tags ih =>
    obtain ⟨g, source⟩ := tag
    rcases g.notice?_cases decode source with ⟨hwell, hnone⟩ | ⟨hmalformed, notice, hsome, htells⟩
    · simp only [List.map_cons, List.zip_cons_cons, List.filter_cons, List.filterMap_cons, hwell, hnone]
      exact ih
    · simp only [List.map_cons, List.zip_cons_cons, List.filter_cons, List.filterMap_cons, hmalformed, hsome]
      exact .cons htells ih

theorem strictJson_eq_ok_iff {depth : Nat} {v : Value} :
    strictJson depth block = .ok v ↔ Json.read depth true block = .ok v ∧ ¬ Json.HasConstant block := by
  rw [strictJson, mapError_eq_ok_iff, Json.read_false_eq_ok_iff]

/-- What the decoder in use decodes to a mapping are objects. -/
theorem gives_mapping_of_strictJson_iff {depth : Nat} {values : Entries} :
    (∃ v, strictJson depth block = .ok v ∧ (Check.mapping v).Gives values) ↔
      strictJson depth block = .ok (.map values) := by
  constructor
  · rintro ⟨v, hdecode, hgives⟩
    rwa [(Json.gives_mapping_iff_of_read (mapError_eq_ok_iff.1 hdecode)).1 hgives] at hdecode
  · intro hdecode
    exact ⟨_, hdecode, (Json.gives_mapping_iff_of_read (mapError_eq_ok_iff.1 hdecode)).2 rfl⟩

/-- Whatever the decoder is and however it fails, every tag that is not reserved becomes one node, and every node with
malformed options has one notice, both in the order of the document; other nodes have none. What the decoder in use decodes
to mappings are the objects in JSON that have no constant in them. -/
theorem parseNodes_accounts_for_options (decode : Decoder) (reserved : List Text) (t : Text) :
    let tags := freeTags reserved t
    let nodes := (parseNodes decode reserved t).filter Node.isStructured
    List.Forall₂ (Tag.Becomes decode) tags nodes ∧
      List.Forall₂ Notice.TellsOf ((tags.zip nodes).filter fun row => row.2.isMalformed)
        (optionNotices decode reserved t) ∧
      ∀ depth block values,
        ((∃ v, strictJson depth block = .ok v ∧ (Check.mapping v).Gives values) ↔
          strictJson depth block = .ok (.map values)) ∧
        (strictJson depth block = .ok (.map values) ↔
          Json.read depth true block = .ok (.map values) ∧ ¬ Json.HasConstant block) := by
  intro tags nodes
  have hnodes : nodes = tags.map fun tag => tag.1.toNode decode tag.2 :=
    filter_isStructured_parseNodes decode reserved t
  refine ⟨?_, ?_, fun depth block values => ⟨gives_mapping_of_strictJson_iff, strictJson_eq_ok_iff⟩⟩
  · rw [hnodes, List.forall₂_map_right_iff, List.forall₂_same]
    exact fun tag _ => tag.1.becomes_toNode decode tag.2
  · rw [hnodes, optionNotices_eq_filterMap]
    exact forall₂_tellsOf decode tags

/-- A constant outside of strings fails, and one in a string does not. Neither the heading nor the reserved tag is told
of. -/
example :
    let t := "@a \x7b\"k\": -Infinity\x7d\n@b \x7b\"k\": \"NaN\"\x7d\n@# \x7b\x7b\x7d\n@r \x7b\x7b\x7d\n@c \x7b[]\x7d".toList
    (freeTags ["r".toList] t).map (·.1.name) = ["a".toList, "b".toList, "#".toList, "c".toList] ∧
      ((parseNodes (strictJson 100) ["r".toList] t).filter Node.isMalformed).map Node.tagName? =
        [some "a".toList, some "c".toList] ∧
      (optionNotices (strictJson 100) ["r".toList] t).length = 2 := by
  decide +kernel

end TagDoc
