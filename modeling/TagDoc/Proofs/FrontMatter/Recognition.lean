import TagDoc.Proofs.Command.FaultKind
import TagDoc.Proofs.FrontMatter.Cutting
import TagDoc.Proofs.Text.Words

/-!
# Which texts have front matter

A text has front matter if its first line is a delimiter and a later line is one too. It is cut at the first delimiter
from its third line on, or at its second line if there is no other. What is loaded are the lines between the two
delimiters, and what comes of loading them decides what comes of the text.

## Main definitions

* `FrontMatter.HasFrontMatter`: a text with two delimiters, the first of which is its first line
* `FrontMatter.Cut`: the content of front matter, and the text after it
* `FrontMatter.IsRefused`: what is loaded is no metadata
* `FrontMatter.Extracted`: what comes of what is loaded

## Main results

* `FrontMatter.exists_cut`, `FrontMatter.cut?_eq_none`: front matter is found just where it is, and cut as it is
* `FrontMatter.Extracted.told_invalid_iff`, `FrontMatter.Extracted.eq_ok_iff`: faults and metadata that come of it
* `FrontMatter.extract_recognised`: both together, for any text
-/

namespace TagDoc

open Text

/-! ### The wording of faults -/

theorem quoteFor_ne (points : List Nat) : quoteFor points ≠ 'I' := by
  rw [quoteFor]
  split <;> decide

/-- The wording of a fault that belongs to no stage begins with a small letter, a quote or an `E`. -/
theorem Yaml.Fault.exists_head?_message {f : Yaml.Fault} (hf : f.stage? = none) (t : Text) :
    ∃ c, (f.message t).head? = some c ∧ c ≠ 'I' := by
  cases f with
  | stage s reason => cases hf
  | notMapping found mark => cases hf
  | noTruthValue content => exact ⟨quoteFor _, rfl, quoteFor_ne _⟩
  | time fault => cases fault <;> exact ⟨_, rfl, by decide⟩
  | _ => exact ⟨_, rfl, by decide⟩

theorem Yaml.Fault.kind_of_stage (f : Yaml.Fault) (hf : f.stage?.isSome = true) : f.kind = .value := by
  cases f with
  | stage s reason => rfl
  | notMapping found mark => rfl
  | _ => cases hf

namespace FrontMatter

variable {opening closing body source rest t : Text} {lines : List Text} {load : Text → Except Yaml.Fault Value}
  {v : Value} {metadata : Entries} {fm : FrontMatter}

/-- A fault that belongs to no stage is not told as invalid front matter. -/
theorem message_not_faultStart {f : Yaml.Fault} (hf : f.stage? = none) (t : Text) : ¬ faultStart <+: f.message t := by
  rintro ⟨reason, heq⟩
  obtain ⟨c, hc, hne⟩ := Yaml.Fault.exists_head?_message hf t
  have hstart : (faultStart ++ reason).head? = some 'I' := rfl
  rw [heq, hc] at hstart
  exact hne (Option.some.inj hstart)

/-! ### Texts with front matter -/

/-- A text has front matter if its first line is a delimiter, with a line break behind it, and a later line is one. -/
def HasFrontMatter (t : Text) : Prop :=
  ∃ opening later, t = opening ++ '\n' :: later ∧ IsDelimiter opening ∧ ∃ line ∈ splitOn '\n' later, IsDelimiter line

/-- `t` is a delimiter, whole lines that make up `content`, another delimiter, and `body` after it. No line of the
content but its first is a delimiter. If there is no content, no line of the body is one. -/
structure Cut (t content body : Text) : Prop where
  delimiters : ∃ opening closing ending, IsDelimiter opening ∧ IsDelimiter closing ∧
    (ending = ['\n'] ∨ ending = [] ∧ body = []) ∧ t = opening ++ '\n' :: (content ++ closing ++ ending ++ body)
  whole : AtLineStart content
  inside : ∀ line ∈ (splitOn '\n' content.dropLast).tail, ¬ IsDelimiter line
  alone : content = [] → ∀ line ∈ splitOn '\n' body, ¬ IsDelimiter line

/-- The lines before a first delimiter, and the delimiter. -/
theorem Closing.exists_delimiter (h : Closing lines source rest) :
    AtLineEnd rest ∧ (∀ line ∈ lines, '\n' ∉ line ∧ ¬ IsDelimiter line) ∧
      ∃ closing, IsDelimiter closing ∧ source = lines.flatMap (· ++ ['\n']) ++ closing := by
  induction h with
  | close delimiter ends => exact ⟨ends, nofun, _, delimiter, rfl⟩
  | @line line lines source rest oneLine inside later ih =>
    obtain ⟨ends, hlines, closing, hclosing, rfl⟩ := ih
    exact ⟨ends, List.forall_mem_cons.2 ⟨⟨oneLine, inside⟩, hlines⟩, closing, hclosing, by simp⟩

theorem flatMap_append_newline (hlines : lines ≠ []) : lines.flatMap (· ++ ['\n']) = join ['\n'] lines ++ ['\n'] := by
  obtain ⟨before, last, rfl⟩ := List.eq_nil_or_concat lines |>.resolve_left hlines
  rw [List.concat_eq_append, join_append_singleton, List.flatMap_append]
  simp

/-- Behind a line there is its break, or the text is over. -/
theorem exists_ending (hrest : AtLineEnd rest) :
    ∃ ending, (ending = ['\n'] ∨ ending = [] ∧ rest.drop 1 = []) ∧ rest = ending ++ rest.drop 1 := by
  cases rest with
  | nil => exact ⟨[], .inr ⟨rfl, rfl⟩, rfl⟩
  | cons c rest =>
    obtain rfl : c = '\n' := hrest c rfl
    exact ⟨['\n'], .inl rfl, rfl⟩

/-- Behind the first line of the content, whatever it is, the first delimiter closes it. -/
theorem cut_of_closing {first : Text} (hopening : IsDelimiter opening) (hfirst : '\n' ∉ first)
    (h : Closing lines source rest) :
    Cut (opening ++ '\n' :: (first ++ '\n' :: (source ++ rest))) ((first :: lines).flatMap (· ++ ['\n']))
      (rest.drop 1) := by
  obtain ⟨hrest, hlines, closing, hclosing, rfl⟩ := h.exists_delimiter
  obtain ⟨ending, hending, hsplit⟩ := exists_ending hrest
  have hcontent := flatMap_append_newline (List.cons_ne_nil first lines)
  -- no line has a break inside, so that the content falls into just these lines
  have hpieces : splitOn '\n' (join ['\n'] (first :: lines)) = first :: lines :=
    splitOn_join (List.cons_ne_nil _ _) (List.forall_mem_cons.2 ⟨hfirst, fun line hmem => (hlines line hmem).1⟩)
  refine ⟨⟨opening, closing, ending, hopening, hclosing, hending, ?_⟩, ?_, ?_, ?_⟩
  · conv_lhs => rw [hsplit]
    simp
  · rw [hcontent]
    intro c hc
    simpa using hc.symm
  · rw [hcontent, List.dropLast_concat, hpieces]
    exact fun line hmem => (hlines line hmem).2
  · rw [hcontent]
    intro hnil
    simp at hnil

/-- Where no other delimiter comes after it, the second line closes a block without content. -/
theorem cut_nil (ending : Text) (hopening : IsDelimiter opening) (hclosing : IsDelimiter closing)
    (hending : ending = ['\n'] ∨ ending = [] ∧ body = []) (hbody : ∀ line ∈ splitOn '\n' body, ¬ IsDelimiter line) :
    Cut (opening ++ '\n' :: (closing ++ ending ++ body)) [] body :=
  ⟨⟨opening, closing, ending, hopening, hclosing, hending, rfl⟩, atLineStart_nil, by simp [splitOn], fun _ => hbody⟩

/-- The last line of a text can close a block without content. -/
theorem cut?_of_last_line (hopening : IsDelimiter opening) (hclosing : IsDelimiter closing) :
    cut? (opening ++ '\n' :: closing) = some ([], []) := by
  rw [cut?_append_newline hopening, findClosing?_of_not_mem hclosing.not_mem_newline,
    takeLine_of_not_mem hclosing.not_mem_newline, if_pos (isDelimiter_iff.2 hclosing),
    laterLines_eq_nil hclosing.not_mem_newline]
  rfl

/-- A text that has front matter is cut as it is. -/
theorem exists_cut (h : HasFrontMatter t) :
    ∃ content body, Cut t content body ∧ cut? t = some (content.dropLast, body) := by
  obtain ⟨opening, later, rfl, hopening, delimiter, hmem, hdelimiter⟩ := h
  rcases exists_line later with hline | ⟨first, after, hfirst, rfl⟩
  · -- the text has two lines, and both are delimiters
    rw [splitOn_of_not_mem hline] at hmem
    obtain rfl := List.mem_singleton.1 hmem
    have hempty : ∀ line ∈ splitOn '\n' [], ¬ IsDelimiter line := by decide
    have hcut := cut_nil [] hopening hdelimiter (.inr ⟨rfl, rfl⟩) hempty
    rw [List.append_nil, List.append_nil] at hcut
    exact ⟨[], [], hcut, cut?_of_last_line hopening hdelimiter⟩
  · by_cases hlater : ∃ line ∈ splitOn '\n' after, IsDelimiter line
    · -- a delimiter from the third line on closes the block, even if the second line is one as well
      obtain ⟨lines, source, rest, rfl, hclosing⟩ := exists_closing hlater
      refine ⟨_, _, cut_of_closing hopening hfirst hclosing, ?_⟩
      rw [cut?_append_newline hopening, findClosing?_of_closing hfirst hclosing,
        flatMap_append_newline (List.cons_ne_nil _ _), List.dropLast_concat]
      rfl
    · push Not at hlater
      rw [splitOn_append_cons hfirst] at hmem
      rcases List.mem_cons.1 hmem with rfl | hafter
      · have hcut := cut_nil ['\n'] hopening hdelimiter (.inl rfl) hlater
        rw [List.append_assoc, List.singleton_append] at hcut
        exact ⟨[], after, hcut, cut?_write_nil hopening hdelimiter hlater⟩
      · exact absurd hdelimiter (hlater delimiter hafter)

theorem findClosing?_of_forall (h : ∀ line ∈ splitOn '\n' t, ¬ IsDelimiter line) : findClosing? t = none := by
  rcases exists_line t with hline | ⟨first, after, hfirst, rfl⟩
  · exact findClosing?_of_not_mem hline
  · rw [splitOn_append_cons hfirst] at h
    exact findClosing?_eq_none hfirst fun line hmem => h line (List.mem_cons_of_mem _ hmem)

theorem takeLine_mem_splitOn (t : Text) : takeLine t ∈ splitOn '\n' t := by
  rcases exists_line t with hline | ⟨first, after, hfirst, rfl⟩
  · simp [takeLine_of_not_mem hline, splitOn_of_not_mem hline]
  · simp [takeLine_append hfirst atLineEnd_cons, splitOn_append_cons hfirst]

/-- A text that has no front matter is not cut. -/
theorem cut?_eq_none (h : ¬ HasFrontMatter t) : cut? t = none := by
  rcases exists_line t with hline | ⟨opening, later, hfirst, rfl⟩
  · rw [cut?, dropLine_of_not_mem hline]
  · by_cases hopening : IsDelimiter opening
    · -- a block can be closed by a later line or by the second one, and neither is a delimiter
      have hlater : ∀ line ∈ splitOn '\n' later, ¬ IsDelimiter line :=
        fun line hmem hline => h ⟨opening, later, rfl, hopening, line, hmem, hline⟩
      have hsecond : ¬ isDelimiter (takeLine later) = true := by
        rw [isDelimiter_iff]
        exact hlater _ (takeLine_mem_splitOn later)
      rw [cut?_append_newline hopening, findClosing?_of_forall hlater, if_neg hsecond]
      rfl
    · have hnot : ¬ isDelimiter opening = true := fun hd => hopening (isDelimiter_iff.1 hd)
      rw [cut?, dropLine_append hfirst atLineEnd_cons, takeLine_append hfirst atLineEnd_cons]
      simp only [if_neg hnot]

/-! ### What comes of what is loaded -/

/-- What is loaded is no metadata: loading it finds a fault of YAML, or it counts as given and is no mapping. -/
def IsRefused (loaded : Except Yaml.Fault Value) : Prop :=
  (∃ fault, loaded = .error fault ∧ fault.stage?.isSome = true) ∨
    ∃ v, loaded = .ok v ∧ v.isTruthy = true ∧ ∀ entries, v ≠ .map entries

theorem Gives.unique {metadata' : Entries} (h : Gives v metadata) (h' : Gives v metadata') : metadata = metadata' :=
  Except.ok.inj ((metadataOf_of_gives h).symm.trans (metadataOf_of_gives h'))

/-- A value stands for metadata, or it counts as given and is no mapping. -/
theorem metadataOf_cases (v : Value) :
    (∃ metadata, Gives v metadata ∧ metadataOf v = .ok metadata) ∨
      v.isTruthy = true ∧ (∀ entries, v ≠ .map entries) ∧ metadataOf v = .error (.notMapping v.typeName) := by
  by_cases hv : v.isTruthy = true
  · by_cases hmap : ∃ entries, v = .map entries
    · obtain ⟨entries, rfl⟩ := hmap
      exact .inl ⟨entries, .inl rfl, metadataOf_of_gives (.inl rfl)⟩
    · push Not at hmap
      refine .inr ⟨hv, hmap, ?_⟩
      unfold metadataOf
      rw [if_neg (by simp [hv])]
      split
      · exact absurd rfl (hmap _)
      · rfl
  · have hv : v.isTruthy = false := by simpa using hv
    exact .inl ⟨[], .inr ⟨hv, rfl⟩, metadataOf_of_gives (.inr ⟨hv, rfl⟩)⟩

/-- What can come of a text that is cut: a fault of what is loaded, metadata, or a value that is none. -/
inductive Extracted (source body : Text) : Except Yaml.Fault Value → Except Fault FrontMatter → Prop
  | unread (fault : Yaml.Fault) : Extracted source body (.error fault) (.error (.yaml source fault))
  | given {v : Value} {metadata : Entries} (gives : Gives v metadata) :
      Extracted source body (.ok v) (.ok ⟨metadata, body⟩)
  | notMapping {v : Value} (truthy : v.isTruthy = true) (noMap : ∀ entries, v ≠ .map entries) :
      Extracted source body (.ok v) (.error (.notMapping v.typeName))

theorem extracted_extract (load : Text → Except Yaml.Fault Value) (hcut : cut? t = some (source, body)) :
    Extracted source body (load source) (extract load t) := by
  cases hload : load source with
  | error fault =>
    have hextract : extract load t = .error (.yaml source fault) := by
      rw [extract, hcut]
      simp only [hload]
    rw [hextract]
    exact .unread fault
  | ok v =>
    rw [extract_of_cut? hcut hload]
    rcases metadataOf_cases v with ⟨metadata, hgives, hv⟩ | ⟨htruthy, hmap, hv⟩
    · rw [hv]
      exact .given hgives
    · rw [hv]
      exact .notMapping htruthy hmap

variable {loaded : Except Yaml.Fault Value} {result : Except Fault FrontMatter}

/-- Metadata are given just if a mapping is loaded, or what does not count as given. -/
theorem Extracted.eq_ok_iff (h : Extracted source body loaded result) :
    result = .ok fm ↔ ∃ v, loaded = .ok v ∧ Gives v fm.metadata ∧ fm.body = body := by
  cases h with
  | unread fault => simp
  | @given v metadata gives =>
    constructor
    · rintro ⟨⟩
      exact ⟨v, rfl, gives, rfl⟩
    · rintro ⟨_, ⟨⟩, hgives, rfl⟩
      rw [gives.unique hgives]
  | @notMapping v truthy noMap =>
    constructor
    · rintro ⟨⟩
    · rintro ⟨_, ⟨⟩, hgives, -⟩
      rcases hgives with hmap | ⟨hv, -⟩
      · exact absurd hmap (noMap _)
      · simp [hv] at truthy

/-- A fault of the reader of YAML is passed on with what was read. -/
theorem Extracted.eq_yaml_iff {fault : Yaml.Fault} (h : Extracted source body loaded result) :
    result = .error (.yaml source fault) ↔ loaded = .error fault := by
  cases h with
  | unread fault => simp
  | given gives => simp
  | notMapping truthy noMap => simp

/-- Front matter is told as invalid just if what is loaded is refused. -/
theorem Extracted.told_invalid_iff (h : Extracted source body loaded result) :
    (∃ fault, result = .error fault ∧ fault.kind = .value ∧ faultStart <+: fault.message) ↔ IsRefused loaded := by
  cases h with
  | unread fault =>
    constructor
    · rintro ⟨_, ⟨⟩, -, hstart⟩
      refine .inl ⟨fault, rfl, ?_⟩
      cases hstage : fault.stage? with
      | some stage => rfl
      | none =>
        -- a fault of no stage speaks for itself
        rw [Fault.message, hstage] at hstart
        exact absurd hstart (message_not_faultStart hstage source)
    · rintro (⟨_, ⟨⟩, hstage⟩ | ⟨_, ⟨⟩, -⟩)
      refine ⟨_, rfl, fault.kind_of_stage hstage, fault.message source, ?_⟩
      rw [Fault.message, if_pos hstage]
  | @given v metadata gives =>
    constructor
    · rintro ⟨_, ⟨⟩, -⟩
    · rintro (⟨_, ⟨⟩, -⟩ | ⟨_, ⟨⟩, htruthy, hmap⟩)
      rcases gives with rfl | ⟨hv, -⟩
      · exact absurd rfl (hmap _)
      · simp [hv] at htruthy
  | @notMapping v truthy noMap =>
    refine ⟨fun _ => .inr ⟨v, rfl, truthy, noMap⟩, fun _ => ⟨_, rfl, rfl, ?_⟩⟩
    rw [Fault.message, List.append_assoc]
    exact List.prefix_append _ _

/-- A text has front matter or is left as it is. If it has, it is cut as it is, and the content is loaded without the
line break at its end. The front matter is told as invalid just if what is loaded is refused, and the metadata are those
of a mapping, or none, just if that is loaded. A fault that is no fault of YAML is passed on. -/
theorem extract_recognised (load : Text → Except Yaml.Fault Value) (t : Text) :
    (¬ HasFrontMatter t ∧ cut? t = none ∧ extract load t = .ok ⟨[], t⟩) ∨
      HasFrontMatter t ∧ ∃ content body, Cut t content body ∧ cut? t = some (content.dropLast, body) ∧
        ((∃ fault, extract load t = .error fault ∧ fault.kind = .value ∧ faultStart <+: fault.message) ↔
          IsRefused (load content.dropLast)) ∧
        (∀ fm, extract load t = .ok fm ↔
          ∃ v, load content.dropLast = .ok v ∧ Gives v fm.metadata ∧ fm.body = body) ∧
        ∀ fault, extract load t = .error (.yaml content.dropLast fault) ↔ load content.dropLast = .error fault := by
  by_cases h : HasFrontMatter t
  · obtain ⟨content, body, hcontent, hcut⟩ := exists_cut h
    have hextracted := extracted_extract load hcut
    exact .inr ⟨h, content, body, hcontent, hcut, hextracted.told_invalid_iff, fun _ => hextracted.eq_ok_iff,
      fun _ => hextracted.eq_yaml_iff⟩
  · have hcut := cut?_eq_none h
    refine .inl ⟨h, hcut, ?_⟩
    rw [extract, hcut]

end FrontMatter

end TagDoc
