import TagDoc.Proofs.Document.Parts
import TagDoc.Proofs.Json.Room
import TagDoc.Proofs.Yaml.Room

/-!
# Room for what is read of a document

The more calls stand around the work on a document, the less room is left for what is nested in it. A process that has room
for all that is read of a document reads it the same where fewer calls stand around.

## Main definitions

* `Compiler.ReadsAs`: a compiler that reads as a host does
* `Runtime.HasRoom`: a process has room for what it reads of a text

## Main results

* `Runtime.HasRoom.agreeOn`: what there is room for is read alike with fewer calls around
-/

namespace TagDoc

variable {r : Runtime} {calls calls' : Nat} {c c' : Compiler} {d : Markdown.Dialect} {t source block : Text}

theorem Markdown.renderWithin_add (room extra : Nat) (d : Dialect) (t : Text) :
    renderWithin room d t = .error .tooDeep ∨ renderWithin (room + extra) d t = renderWithin room d t := by
  rw [renderWithin, renderWithin]
  by_cases hdeep : room < nestedCalls d (parse d t)
  · exact .inl (if_pos hdeep)
  · rw [if_neg hdeep, if_neg fun h => hdeep (Nat.lt_of_le_of_lt (Nat.le_add_right _ _) h)]
    exact .inr rfl

/-! ### Calls around -/

/-- Fewer calls around leave as much room or more for the front matter. -/
theorem Runtime.loadMetadata_eq (hle : calls ≤ calls') (hroom : (r.host calls').loadMetadata source ≠ .error .tooDeep) :
    (r.host calls).loadMetadata source = (r.host calls').loadMetadata source := by
  have hdepth : r.yamlDepth (calls' + 2) ≤ r.yamlDepth (calls + 2) := by
    rw [yamlDepth, yamlDepth]
    omega
  obtain ⟨extra, hextra⟩ := Nat.exists_eq_add_of_le hdepth
  have hload (calls : Nat) : (r.host calls).loadMetadata source =
      Yaml.load r.arrange (r.yamlDepth (calls + 2)) source := by
    rw [host]
  rw [hload] at hroom
  rw [hload, hload, hextra]
  exact (Yaml.load_add r.arrange _ extra source).resolve_left hroom

/-- They do so for the options of tags. -/
theorem Runtime.decode_eq (hle : calls ≤ calls')
    (hroom : ∀ fault, Json.read (r.jsonDepth (calls' + 5)) false block = .error fault → Settings.isTooDeep fault = false) :
    (r.host calls).decode block = (r.host calls').decode block := by
  have hdepth : r.jsonDepth (calls' + 5) ≤ r.jsonDepth (calls + 5) := by
    rw [jsonDepth, jsonDepth]
    omega
  obtain ⟨extra, hextra⟩ := Nat.exists_eq_add_of_le hdepth
  have hdecode (calls : Nat) : (r.host calls).decode block =
      (Json.read (r.jsonDepth (calls + 5)) false block).mapError (·.message block) := rfl
  rw [hdecode, hdecode, hextra]
  rcases Json.read_add false (r.jsonDepth (calls' + 5)) extra block with ⟨fault, hfault, hdeep⟩ | hsame
  · rw [hroom fault hfault] at hdeep
    cases hdeep
  · rw [hsame]

/-- And for text in Markdown. -/
theorem Runtime.render_eq (hle : calls ≤ calls') (hroom : (r.host calls').render d t ≠ .error .tooDeep) :
    (r.host calls).render d t = (r.host calls').render d t := by
  have hcalls : r.room - calls' - 11 ≤ r.room - calls - 11 := by omega
  obtain ⟨extra, hextra⟩ := Nat.exists_eq_add_of_le hcalls
  have hrender (calls : Nat) : (r.host calls).render d t = Markdown.renderWithin (r.room - calls - 11) d t := by
    rw [host]
  rw [hrender] at hroom
  rw [hrender, hrender, hextra]
  exact (Markdown.renderWithin_add _ extra d t).resolve_left hroom

/-! ### Parts of a text -/

/-- A compiler reads as a host does, and renders text in a dialect. -/
structure Compiler.ReadsAs (c : Compiler) (h : Host) (d : Markdown.Dialect) : Prop where
  load : c.load = h.loadMetadata
  decode : c.decode = h.decode
  toHtml : c.toHtml = h.render d

/-- With some calls around, a process has room for what a compiler reads of a text: its front matter, the options of tags
that are not reserved, and the text between the tags. -/
structure Runtime.HasRoom (r : Runtime) (calls : Nat) (c : Compiler) (t : Text) : Prop where
  load : ∀ source body, FrontMatter.cut? t.strip = some (source, body) → c.load source ≠ .error .tooDeep
  decode : ∀ fm, c.cutFrontMatter t = .ok fm → ∀ g ∈ freeTags c.reserved fm.body, ∀ block, g.1.options = some block →
    ∀ fault, Json.read (r.jsonDepth (calls + 5)) false block = .error fault → Settings.isTooDeep fault = false
  toHtml : ∀ fm, c.cutFrontMatter t = .ok fm → ∀ u, .text u ∈ parseNodes c.decode c.reserved fm.body →
    c.toHtml u ≠ .error .tooDeep

namespace Runtime

/-- Of a text without tags there has to be room for the front matter and for all that comes after it. -/
theorem HasRoom.of_plain {body : Text} (hcut : FrontMatter.cut? t.strip = some (source, body))
    (hscan : scan body = [⟨0, .plain body⟩]) (hload : c.load source ≠ .error .tooDeep)
    (hhtml : c.toHtml body ≠ .error .tooDeep) : r.HasRoom calls c t where
  load source' body' hcut' := by
    obtain ⟨rfl, rfl⟩ := Prod.mk.inj (Option.some.inj (hcut.symm.trans hcut'))
    exact hload
  decode fm hfm g hg := by
    rw [FrontMatter.body_of_extract hcut hfm, freeTags, hscan] at hg
    cases hg
  toHtml fm hfm u hu := by
    rw [FrontMatter.body_of_extract hcut hfm, parseNodes, hscan] at hu
    cases List.mem_singleton.1 hu
    exact hhtml

/-- What there is room for is read alike where fewer calls stand around. -/
theorem HasRoom.agreeOn (hroom : r.HasRoom calls' c' t) (hle : calls ≤ calls') (hc : c.ReadsAs (r.host calls) d)
    (hc' : c'.ReadsAs (r.host calls') d) : c'.AgreeOn c t where
  load source body hcut := by
    rw [hc.load, hc'.load]
    exact (loadMetadata_eq hle (hc'.load ▸ hroom.load source body hcut)).symm
  decode fm hfm g hg block hblock := by
    rw [hc.decode, hc'.decode]
    exact (decode_eq hle (hroom.decode fm hfm g hg block hblock)).symm
  toHtml fm hfm u hu := by
    rw [hc.toHtml, hc'.toHtml]
    exact (render_eq hle (hc'.toHtml ▸ hroom.toHtml fm hfm u hu)).symm

end Runtime

end TagDoc
