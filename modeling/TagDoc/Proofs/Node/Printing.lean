import TagDoc.Proofs.Node.JoinText
import TagDoc.Proofs.Tag.Spans

/-!
# Printing tags

A draft is a tag to be written in the usual layout: the name, the options if there are some, and the body, with a
space between them. Drafts written one below the other are read back, each as one node, whatever their options and
their fenced lines hold.

## Main definitions

* `Draft`: what may be written as a tag
* `Draft.write`, `writeDocument`: the written form of a draft and of a list of drafts
* `Draft.node`: the node of a draft

## Main results

* `Draft.written`: the written form is in the grammar, if its last line ends there
* `parseNodes_writeDocument`: what is written is read back
-/

namespace TagDoc

open Text

/-- The body of a tag to be written, with the lines of a fenced body one by one. -/
inductive DraftBody where
  | line (text : Text)
  | fenced (lines : List Text)
  | absent

namespace DraftBody

/-- A line begins with a word character, and no fenced line is taken for the closing fence. -/
def WellFormed : DraftBody → Prop
  | line text => '\n' ∉ text ∧ ∃ c ∈ text.head?, isWord c = true
  | fenced lines => ∀ line ∈ lines, '\n' ∉ line ∧ ¬ OpensFence line
  | absent => True

/-- The written form: a line as it is, and fenced lines between two lines of three dots. -/
def write : DraftBody → Text
  | line text => text
  | fenced lines => ['.', '.', '.'] ++ '\n' :: (lines.flatMap (· ++ ['\n']) ++ ['.', '.', '.'])
  | absent => []

/-- What the body says. -/
def value : DraftBody → Option Text
  | line text => some text
  | fenced lines => some (join ['\n'] lines)
  | absent => none

/-- The body that the written form has in the grammar. -/
def toBody : DraftBody → Body
  | line text => .line text
  | fenced lines => .fenced (join ['\n'] lines)
  | absent => .absent

end DraftBody

/-- A tag to be written. Its options are a block without braces that close it early, and a tag without options has
a body. -/
structure Draft where
  name : Text
  options : Option Text
  body : DraftBody
  name_ne_nil : name ≠ []
  named : ∀ c ∈ name, isSpace c = false ∧ c ≠ '{'
  block : ∀ o ∈ options, ∃ inner, o = '{' :: (inner ++ ['}']) ∧ '}' ∉ inner
  body_wellFormed : body.WellFormed
  present : options = none → body ≠ .absent

namespace Draft

/-- The written form of a draft. -/
def write (d : Draft) : Text :=
  '@' :: d.name ++ ' ' ::
    match d.options, d.body with
    | none, body => body.write
    | some o, .absent => o
    | some o, body => o ++ ' ' :: body.write

/-- The tag of a draft. -/
def toTag (d : Draft) : Tag := ⟨d.name, d.options, d.body.toBody⟩

/-- The node of a draft: a heading if its name is made of number signs, and a tag otherwise. -/
def node (decode : Decoder) (d : Draft) : Node :=
  if d.name.all (· == '#') then
    .heading { value := d.body.value, level := d.name.length, route := [], raw := d.write }
  else
    .tag { name := d.name, value := d.body.value
           options := d.options.map (Options.ofBlock decode), raw := d.write }

end Draft

/-- Drafts written one below the other. -/
def writeDocument (drafts : List Draft) : Text := join ['\n'] (drafts.map Draft.write)

/-! ### Written forms in the grammar -/

theorem isFence_three_dots : IsFence ['.', '.', '.'] := by
  simp [IsFence]

theorem fencedLines_of_forall {lines : List Text} {rest : Text}
    (h : ∀ line ∈ lines, '\n' ∉ line ∧ ¬ OpensFence line) (hrest : AtLineEnd rest) :
    FencedLines lines (lines.flatMap (· ++ ['\n']) ++ ['.', '.', '.']) rest := by
  induction lines with
  | nil =>
    refine .close isFence_three_dots fun c hc => ?_
    rw [hrest c hc]
    decide
  | cons line lines ih =>
    obtain ⟨⟨hline, hinside⟩, hlater⟩ := List.forall_mem_cons.1 h
    simpa using FencedLines.line hline hinside (ih hlater)

/-- A body is written after blanks as it is written at once. -/
theorem DraftBody.written {body : DraftBody} {blanks rest : Text} (h : body.WellFormed)
    (hblanks : ∀ c ∈ blanks, isBlank c = true) (hrest : AtLineEnd rest) :
    body.toBody.Written (blanks ++ body.write) rest := by
  cases body with
  | line text => exact .line hblanks h.2 h.1 hrest
  | fenced lines =>
    have hlines := fencedLines_of_forall h hrest
    simpa [write, toBody] using Body.Written.fenced hblanks isFence_three_dots hlines
  | absent =>
    rw [DraftBody.write, List.append_nil]
    exact .absent hblanks hrest

theorem Draft.isNameChar_of_mem (d : Draft) : ∀ c ∈ d.name, isNameChar c = true := by
  intro c hc
  simpa [isNameChar] using d.named c hc

theorem Draft.lead (d : Draft) {v : Text} (hv : ∀ c ∈ v.head?, isBlank c = false) :
    Tag.Lead d.name [' '] v where
  name_ne_nil := d.name_ne_nil
  named := ⟨d.isNameChar_of_mem, by simp [isNameChar, isSpace]⟩
  spaced := ⟨by simp [isBlank], hv⟩

theorem DraftBody.toBody_value (body : DraftBody) : body.toBody.value = body.value := by
  cases body <;> rfl

theorem DraftBody.toBody_ne_absent {body : DraftBody} (h : body ≠ .absent) : body.toBody ≠ .absent := by
  cases body with
  | line text => nofun
  | fenced lines => nofun
  | absent => contradiction

/-- A body begins with a word character or a dot. -/
theorem DraftBody.head?_write {body : DraftBody} (h : body.WellFormed) (hpresent : body ≠ .absent)
    (rest : Text) : ∃ c, (body.write ++ rest).head? = some c ∧ isBlank c = false ∧ c ≠ '{' := by
  cases body with
  | line text =>
    obtain ⟨c, hc, hword⟩ := h.2
    obtain ⟨text, rfl⟩ := List.head?_eq_some_iff.1 hc
    refine ⟨c, rfl, isBlank_eq_false_of_isWord hword, ?_⟩
    rintro rfl
    cases hword
  | fenced lines => exact ⟨'.', rfl, rfl, by decide⟩
  | absent => contradiction

theorem Draft.write_of_none {d : Draft} (h : d.options = none) :
    d.write = '@' :: d.name ++ [' '] ++ d.body.write := by
  simp [Draft.write, h]

/-- Behind the options come a space and the body, or nothing, which may be taken for an absent body. -/
theorem Draft.exists_write_of_some {d : Draft} {o : Text} (h : d.options = some o) :
    ∃ blanks, (∀ c ∈ blanks, isBlank c = true) ∧
      d.write = '@' :: d.name ++ [' '] ++ (o ++ (blanks ++ d.body.write)) := by
  cases hbody : d.body with
  | line text => exact ⟨[' '], by simp [isBlank], by simp [Draft.write, h, hbody]⟩
  | fenced lines => exact ⟨[' '], by simp [isBlank], by simp [Draft.write, h, hbody]⟩
  | absent => exact ⟨[], by simp, by simp [Draft.write, h, hbody, DraftBody.write]⟩

/-- The written form of a draft is a tag in the grammar wherever its last line ends. -/
theorem Draft.written (d : Draft) {rest : Text} (hrest : AtLineEnd rest) :
    d.toTag.Written d.write rest := by
  cases ho : d.options with
  | none =>
    have hpresent := d.present ho
    obtain ⟨c, hc, hblank, hbrace⟩ := DraftBody.head?_write d.body_wellFormed hpresent rest
    have hlead : Tag.Lead d.name [' '] (d.body.write ++ rest) :=
      d.lead fun c' hc' => by
        rwa [← Option.some_inj.1 (hc.symm.trans hc')]
    have hunbraced : (d.body.write ++ rest).head? ≠ some '{' := by
      rw [hc]
      exact fun heq => hbrace (Option.some_inj.1 heq)
    have hbody : d.body.toBody.Written d.body.write rest :=
      @DraftBody.written _ [] _ d.body_wellFormed nofun hrest
    rw [Draft.toTag, ho, Draft.write_of_none ho]
    exact .bare hlead hunbraced hbody (DraftBody.toBody_ne_absent hpresent)
  | some o =>
    obtain ⟨inner, rfl, hinner⟩ := d.block o ho
    obtain ⟨blanks, hblanks, hwrite⟩ := Draft.exists_write_of_some ho
    have hbody := DraftBody.written d.body_wellFormed hblanks hrest
    have hlead := d.lead (v := '{' :: (inner ++ '}' :: (blanks ++ d.body.write ++ rest))) (by simp [isBlank])
    -- There is no brace in the options that could close them before their last one does.
    have hfirst : ∀ i j, inner = i ++ '}' :: j →
        ¬ ClosesOptions (j ++ '}' :: (blanks ++ d.body.write ++ rest)) := by
      rintro i j rfl
      simp at hinner
    rw [Draft.toTag, ho, hwrite]
    simpa using Tag.Written.withOptions hlead hbody hfirst

/-! ### Reading drafts back -/

theorem writeDocument_cons_cons (d e : Draft) (drafts : List Draft) :
    writeDocument (d :: e :: drafts) = d.write ++ '\n' :: writeDocument (e :: drafts) := by
  simp [writeDocument, join]

theorem Draft.node_eq (decode : Decoder) (d : Draft) :
    (Span.tag d.toTag d.write).toNode decode [] = d.node decode := by
  have hname : isHeadingName d.name = d.name.all (· == '#') := by
    simp [isHeadingName, d.name_ne_nil]
  simp [Span.toNode, Tag.toNode, Draft.node, Draft.toTag, hname, DraftBody.toBody_value]

/-- The scanner reads the drafts and the line breaks between them. -/
theorem map_readSpans_writeDocument (decode : Decoder) (drafts : List Draft) :
    (readSpans (writeDocument drafts)).map (Span.toNode decode []) =
      (drafts.map (Draft.node decode)).intersperse (.text ['\n']) := by
  induction drafts with
  | nil =>
    rw [writeDocument, List.map_nil, join, readSpans_nil]
    rfl
  | cons d drafts ih =>
    cases drafts with
    | nil =>
      have hspans : readSpans (writeDocument [d]) = [.tag d.toTag d.write] :=
        readSpans_of_written_nil (d.written atLineEnd_nil)
      rw [hspans, List.map_singleton, Draft.node_eq]
      rfl
    | cons e drafts =>
      have hspans := readSpans_of_written (d.written atLineEnd_cons)
        (List.cons_ne_nil '\n' (writeDocument (e :: drafts)))
      -- The rest of the tag's last line is its break alone, and the next draft begins the later lines.
      rw [← List.nil_append ('\n' :: _), firstLine_append_newline List.not_mem_nil,
        laterLines_append_newline List.not_mem_nil] at hspans
      rw [writeDocument_cons_cons, ← List.nil_append ('\n' :: _), hspans, List.map_cons, List.map_cons, ih,
        Draft.node_eq]
      rfl

theorem Draft.isStructured_node (decode : Decoder) (d : Draft) : (d.node decode).isStructured = true := by
  rw [Draft.node]
  split <;> rfl

/-- Between every two structured nodes there may be a text. -/
theorem isChain_intersperse_text {nodes : List Node} (h : ∀ n ∈ nodes, n.isStructured = true) (t : Text) :
    (nodes.intersperse (.text t)).IsChain fun m n => m.isStructured = true ∨ n.isStructured = true := by
  induction nodes with
  | nil => exact List.isChain_nil
  | cons n nodes ih =>
    cases nodes with
    | nil => exact List.isChain_singleton _
    | cons m nodes =>
      obtain ⟨hn, hlater⟩ := List.forall_mem_cons.1 h
      have hm := hlater m List.mem_cons_self
      rw [List.intersperse_cons_cons]
      refine List.isChain_cons_cons.2 ⟨.inl hn, List.isChain_cons.2 ⟨fun y hy => .inr ?_, ih hlater⟩⟩
      cases nodes with
      | nil => exact Option.some_inj.1 hy ▸ hm
      | cons k nodes => exact Option.some_inj.1 hy ▸ hm

/-- Drafts written one below the other are read back as their nodes, with a line break between every two. -/
theorem parseNodes_writeDocument (decode : Decoder) (drafts : List Draft) :
    parseNodes decode [] (writeDocument drafts) =
      (drafts.map (Draft.node decode)).intersperse (.text ['\n']) := by
  have hstructured : ∀ n ∈ drafts.map (Draft.node decode), n.isStructured = true := by
    intro n hn
    obtain ⟨d, -, rfl⟩ := List.mem_map.1 hn
    exact d.isStructured_node decode
  rw [parseNodes_eq_joinText, map_readSpans_writeDocument]
  exact joinText_eq_self (isChain_intersperse_text hstructured ['\n'])

/-- Options that hold lines like a tag and a fence, fenced lines like tags with options, and a heading without any are read
back as they were written. -/
theorem parseNodes_writeDocument_of_lookalikes :
    ∃ d e : Draft, writeDocument [d, e] = "@a \x7b\n@b c\n...\n\x7d ...\n@d \x7be\x7d f\n...\n@## g".toList ∧
      parseNodes (strictJson 100) [] (writeDocument [d, e]) =
        [.tag { name := "a".toList, value := some "@d \x7be\x7d f".toList
                options := some (.ofBlock (strictJson 100) "\x7b\n@b c\n...\n\x7d".toList), raw := d.write },
          .text ['\n'], .heading { value := some "g".toList, level := 2, route := [], raw := e.write }] := by
  let d : Draft :=
    { name := "a".toList
      options := some "\x7b\n@b c\n...\n\x7d".toList
      body := .fenced ["@d \x7be\x7d f".toList]
      name_ne_nil := by decide
      named := by
        intro c hc
        obtain rfl := List.mem_singleton.1 hc
        exact ⟨by decide, by decide⟩
      block := fun o ho => ⟨"\n@b c\n...\n".toList, (Option.some_inj.1 ho).symm, by decide⟩
      body_wellFormed := by
        intro line hline
        obtain rfl := List.mem_singleton.1 hline
        exact ⟨by decide, by decide⟩
      present := nofun }
  let e : Draft :=
    { name := "##".toList
      options := none
      body := .line "g".toList
      name_ne_nil := by decide
      named := by
        intro c hc
        obtain rfl : c = '#' := by simpa using hc
        exact ⟨by decide, by decide⟩
      block := nofun
      body_wellFormed := ⟨by decide, 'g', rfl, by decide⟩
      present := nofun }
  exact ⟨d, e, rfl, parseNodes_writeDocument (strictJson 100) [d, e]⟩

end TagDoc
