import TagDoc.FrontMatter
import TagDoc.Proofs.Tag.Spans

/-!
# Cutting off front matter

The first line of a block of metadata is taken for content as long as a delimiter comes later, even if it is a
delimiter itself. From its second line on, the block is closed by the first delimiter. So a block of one line or more
is read back as it was written, whatever the text after it holds. A block without lines is read back just if no
delimiter comes after it: the text up to that delimiter would be its content.

## Main definitions

* `FrontMatter.IsDelimiter`: a line of three hyphens and blanks
* `FrontMatter.Closing`: lines up to the first delimiter
* `FrontMatter.write`: a text with a block of metadata in front
* `FrontMatter.Gives`: what metadata a value stands for

## Main results

* `findClosing?_of_closing`, `findClosing?_eq_none`: the search for the closing delimiter
* `cut?_write`, `cut?_write_nil`: how a written block is cut off
* `body_suffix`: what is left when a block is cut off
* `extract_write_iff`: when it is read back
* `not_forall_extract_write`: it is not always read back
-/

namespace TagDoc.FrontMatter

open Text

variable {opening closing body first line source rest : Text} {lines : List Text}

/-- A delimiter is a line of three hyphens with nothing but blanks behind them. -/
def IsDelimiter (line : Text) : Prop :=
  ∃ blanks, line = ['-', '-', '-'] ++ blanks ∧ ∀ c ∈ blanks, isBlank c = true

/-- `source` holds lines that are no delimiters, and the first one that is, at the end of which `rest` follows. -/
inductive Closing : List Text → Text → Text → Prop
  | close {line rest : Text} (delimiter : IsDelimiter line) (ends : AtLineEnd rest) : Closing [] line rest
  | line {line : Text} {lines : List Text} {source rest : Text} (oneLine : '\n' ∉ line)
      (inside : ¬ IsDelimiter line) (later : Closing lines source rest) :
      Closing (line :: lines) (line ++ '\n' :: source) rest

/-- A text with a block of metadata in front: the lines of the block between two delimiters. -/
def write (opening : Text) (lines : List Text) (closing body : Text) : Text :=
  opening ++ '\n' :: (lines.flatMap (· ++ ['\n']) ++ closing ++ '\n' :: body)

/-- The metadata that a value stands for: those of a mapping, or none if it does not count as given. -/
def Gives (v : Value) (metadata : Entries) : Prop :=
  v = .map metadata ∨ v.isTruthy = false ∧ metadata = []

/-! ### Delimiters -/

theorem isDelimiter_iff : isDelimiter line = true ↔ IsDelimiter line := by
  rw [isDelimiter, Bool.and_eq_true, startsWith, List.isPrefixOf_iff_prefix, List.all_eq_true]
  constructor
  · rintro ⟨⟨blanks, rfl⟩, hblanks⟩
    exact ⟨blanks, rfl, hblanks⟩
  · rintro ⟨blanks, rfl, hblanks⟩
    exact ⟨⟨blanks, rfl⟩, hblanks⟩

instance (line : Text) : Decidable (IsDelimiter line) := decidable_of_iff _ isDelimiter_iff

theorem IsDelimiter.not_mem_newline (h : IsDelimiter line) : '\n' ∉ line := by
  obtain ⟨blanks, rfl, hblanks⟩ := h
  intro hmem
  rcases List.mem_append.1 hmem with hmem | hmem
  · simp at hmem
  · cases hblanks _ hmem

theorem IsDelimiter.ne_nil (h : IsDelimiter line) : line ≠ [] := by
  obtain ⟨blanks, rfl, -⟩ := h
  simp

/-! ### The closing delimiter -/

theorem closing_of_forall (hlines : ∀ line ∈ lines, '\n' ∉ line ∧ ¬ IsDelimiter line)
    (hclosing : IsDelimiter closing) (hrest : AtLineEnd rest) :
    Closing lines (lines.flatMap (· ++ ['\n']) ++ closing) rest := by
  induction lines with
  | nil => exact .close hclosing hrest
  | cons line lines ih =>
    obtain ⟨⟨hline, hinside⟩, hlater⟩ := List.forall_mem_cons.1 hlines
    simpa using Closing.line hline hinside (ih hlater)

/-- A text that has a delimiter among its lines has a first one. -/
theorem exists_closing {t : Text} (h : ∃ line ∈ splitOn '\n' t, IsDelimiter line) :
    ∃ lines source rest, t = source ++ rest ∧ Closing lines source rest := by
  induction t using lines_induction with
  | last line hline =>
    rw [splitOn_of_not_mem hline] at h
    obtain ⟨delimiter, hmem, hdelimiter⟩ := h
    obtain rfl := List.mem_singleton.1 hmem
    exact ⟨[], delimiter, [], by simp, .close hdelimiter atLineEnd_nil⟩
  | line line after hline ih =>
    by_cases hinside : IsDelimiter line
    · exact ⟨[], line, '\n' :: after, rfl, .close hinside atLineEnd_cons⟩
    · rw [splitOn_append_cons hline] at h
      obtain ⟨lines, source, rest, rfl, hclosing⟩ := ih (by simpa [hinside] using h)
      exact ⟨line :: lines, line ++ '\n' :: source, rest, by simp, .line hline hinside hclosing⟩

theorem findClosing?_append_newline (hfirst : '\n' ∉ first) (after : Text) :
    findClosing? (first ++ '\n' :: after) =
      if isDelimiter (takeLine after) then some (first, laterLines after)
      else (findClosing? after).map fun (content, body) => (first ++ '\n' :: content, body) := by
  have hdrop : dropLine (first ++ '\n' :: after) = '\n' :: after := dropLine_append hfirst atLineEnd_cons
  have htake : takeLine (first ++ '\n' :: after) = first := takeLine_append hfirst atLineEnd_cons
  rw [findClosing?]
  split
  · simp_all
  · simp_all

theorem findClosing?_of_not_mem (hline : '\n' ∉ line) : findClosing? line = none := by
  have hdrop := dropLine_of_not_mem hline
  rw [findClosing?]
  split
  · rfl
  · simp_all

/-- Behind the first line of a block, whatever it is, the first delimiter closes the block. -/
theorem findClosing?_of_closing (hfirst : '\n' ∉ first) (h : Closing lines source rest) :
    findClosing? (first ++ '\n' :: (source ++ rest)) = some (join ['\n'] (first :: lines), rest.drop 1) := by
  induction h generalizing first with
  | @close delimiter rest hdelimiter ends =>
    rw [findClosing?_append_newline hfirst, takeLine_append hdelimiter.not_mem_newline ends,
      if_pos (isDelimiter_iff.2 hdelimiter), laterLines, dropLine_append hdelimiter.not_mem_newline ends]
    rfl
  | @line line lines source rest oneLine inside later ih =>
    have hinside : ¬ isDelimiter line = true := fun h => inside (isDelimiter_iff.1 h)
    rw [findClosing?_append_newline hfirst, List.append_assoc, List.cons_append,
      takeLine_append oneLine atLineEnd_cons, if_neg hinside, ih oneLine]
    simp [join]

theorem findClosing?_eq_none {after : Text} (hfirst : '\n' ∉ first)
    (h : ∀ line ∈ splitOn '\n' after, ¬ IsDelimiter line) : findClosing? (first ++ '\n' :: after) = none := by
  induction after using lines_induction generalizing first with
  | last line hline =>
    have hmem : line ∈ splitOn '\n' line := by simp [splitOn_of_not_mem hline]
    have hinside : ¬ isDelimiter line = true := fun hd => h line hmem (isDelimiter_iff.1 hd)
    rw [findClosing?_append_newline hfirst, takeLine_of_not_mem hline, if_neg hinside, findClosing?_of_not_mem hline]
    rfl
  | line line after hline ih =>
    rw [splitOn_append_cons hline] at h
    obtain ⟨hline', hlater⟩ := List.forall_mem_cons.1 h
    have hinside : ¬ isDelimiter line = true := fun hd => hline' (isDelimiter_iff.1 hd)
    rw [findClosing?_append_newline hfirst, takeLine_append hline atLineEnd_cons, if_neg hinside, ih hline hlater]
    rfl

/-! ### Written blocks -/

theorem cut?_append_newline (hopening : IsDelimiter opening) (inner : Text) :
    cut? (opening ++ '\n' :: inner) =
      (findClosing? inner <|> if isDelimiter (takeLine inner) then some ([], laterLines inner) else none) := by
  rw [cut?, dropLine_append hopening.not_mem_newline atLineEnd_cons,
    takeLine_append hopening.not_mem_newline atLineEnd_cons]
  simp only [isDelimiter_iff.2 hopening, if_true]

/-- A block with lines is cut off at its closing delimiter. -/
theorem cut?_write_cons (hopening : IsDelimiter opening) (hclosing : IsDelimiter closing)
    (hlines : ∀ line ∈ first :: lines, '\n' ∉ line ∧ ¬ IsDelimiter line) (body : Text) :
    cut? (write opening (first :: lines) closing body) = some (join ['\n'] (first :: lines), body) := by
  obtain ⟨hfirst, hlater⟩ := List.forall_mem_cons.1 hlines
  have hblock : Closing lines (lines.flatMap (· ++ ['\n']) ++ closing) ('\n' :: body) :=
    closing_of_forall hlater hclosing atLineEnd_cons
  have hwrite : write opening (first :: lines) closing body =
      opening ++ '\n' :: (first ++ '\n' :: (lines.flatMap (· ++ ['\n']) ++ closing ++ '\n' :: body)) := by
    simp [write]
  rw [hwrite, cut?_append_newline hopening, findClosing?_of_closing hfirst.1 hblock]
  rfl

/-- A block without lines is cut off at its closing delimiter if no other delimiter follows. -/
theorem cut?_write_nil (hopening : IsDelimiter opening) (hclosing : IsDelimiter closing)
    (hbody : ∀ line ∈ splitOn '\n' body, ¬ IsDelimiter line) :
    cut? (write opening [] closing body) = some ([], body) := by
  have hfind := findClosing?_eq_none hclosing.not_mem_newline hbody
  have hwrite : write opening [] closing body = opening ++ '\n' :: (closing ++ '\n' :: body) := rfl
  rw [hwrite, cut?_append_newline hopening, hfind, takeLine_append hclosing.not_mem_newline atLineEnd_cons,
    if_pos (isDelimiter_iff.2 hclosing), laterLines_append_newline hclosing.not_mem_newline]
  rfl

/-- If another delimiter follows, a block without lines goes on to the first such, and the delimiter that was to close
it is part of its content. -/
theorem cut?_write_nil_of_closing (hopening : IsDelimiter opening) (hclosing : IsDelimiter closing)
    (h : Closing lines source rest) :
    cut? (write opening [] closing (source ++ rest)) = some (join ['\n'] (closing :: lines), rest.drop 1) := by
  have hwrite : write opening [] closing (source ++ rest) =
      opening ++ '\n' :: (closing ++ '\n' :: (source ++ rest)) := rfl
  rw [hwrite, cut?_append_newline hopening, findClosing?_of_closing hclosing.not_mem_newline h]
  rfl

/-! ### Reading a written block -/

variable {load : Text → Except Yaml.Fault Value} {t : Text} {v : Value} {metadata : Entries} {fm : FrontMatter}

theorem metadataOf_of_gives (h : Gives v metadata) : metadataOf v = .ok metadata := by
  rcases h with rfl | ⟨hv, rfl⟩
  · cases metadata <;> rfl
  · simp [metadataOf, hv]

theorem extract_of_cut? (hcut : cut? t = some (source, body)) (hload : load source = .ok v) :
    extract load t = (metadataOf v).map fun metadata => ⟨metadata, body⟩ := by
  rw [extract, hcut]
  simp only [hload]

/-- Whatever is loaded from a block, the text after it is what the block was cut off from. -/
theorem body_of_extract (hcut : cut? t = some (source, body)) (h : extract load t = .ok fm) : fm.body = body := by
  cases hload : load source with
  | error fault => simp [extract, hcut, hload] at h
  | ok v =>
    rw [extract_of_cut? hcut hload] at h
    cases hv : metadataOf v with
    | error fault => simp [hv, Except.map] at h
    | ok metadata =>
      rw [hv] at h
      cases h
      rfl

theorem laterLines_suffix (t : Text) : laterLines t <:+ t := ⟨firstLine t, firstLine_append_laterLines t⟩

theorem findClosing?_suffix {t : Text} (h : findClosing? t = some (source, body)) : body <:+ t := by
  induction t using lines_induction generalizing source with
  | last line hline =>
    rw [findClosing?_of_not_mem hline] at h
    cases h
  | line line after hline ih =>
    rw [findClosing?_append_newline hline] at h
    have hafter : after <:+ line ++ '\n' :: after := ⟨line ++ ['\n'], by simp⟩
    split at h
    · cases h
      exact (laterLines_suffix after).trans hafter
    · obtain ⟨⟨content, body'⟩, hfind, heq⟩ := Option.map_eq_some_iff.1 h
      cases heq
      exact (ih hfind).trans hafter

theorem cut?_suffix (h : cut? t = some (source, body)) : body <:+ t := by
  rw [cut?] at h
  split at h
  · cases h
  · rename_i c inner hdrop
    have hinner : inner <:+ t := (List.suffix_cons c inner).trans (hdrop ▸ List.dropWhile_suffix _)
    split at h
    · cases hfind : findClosing? inner with
      | some cut =>
        rw [hfind] at h
        cases h
        exact (findClosing?_suffix hfind).trans hinner
      | none =>
        rw [hfind] at h
        split at h
        · cases h
          exact (laterLines_suffix inner).trans hinner
        · cases h
    · cases h

/-- What is left of a text without its front matter is its end. -/
theorem body_suffix (h : extract load t = .ok fm) : fm.body <:+ t := by
  cases hcut : cut? t with
  | none =>
    rw [extract, hcut] at h
    cases h
    exact List.suffix_refl t
  | some cut =>
    rw [body_of_extract hcut h]
    exact cut?_suffix hcut

/-! ### Blocks that are read back -/

theorem Closing.source_ne_nil (h : Closing lines source rest) : source ≠ [] := by
  cases h with
  | close delimiter ends => exact delimiter.ne_nil
  | line oneLine inside later => simp

/-- A block of metadata between two delimiters is read back, with the text after it, just if it has a line or no line
of that text is a delimiter. -/
theorem extract_write_iff (load : Text → Except Yaml.Fault Value) (opening closing body : Text) (lines : List Text)
    (v : Value) (metadata : Entries) (hopening : IsDelimiter opening) (hclosing : IsDelimiter closing)
    (hlines : ∀ line ∈ lines, '\n' ∉ line ∧ ¬ IsDelimiter line) (hload : load (join ['\n'] lines) = .ok v)
    (hgives : Gives v metadata) :
    extract load (write opening lines closing body) = .ok ⟨metadata, body⟩ ↔
      (lines = [] → ∀ line ∈ splitOn '\n' body, ¬ IsDelimiter line) := by
  constructor
  · rintro hread rfl line hmem hline
    -- The text after the block would begin behind its own first delimiter.
    obtain ⟨lines, source, rest, rfl, hlater⟩ := exists_closing ⟨line, hmem, hline⟩
    have hbody := body_of_extract (cut?_write_nil_of_closing hopening hclosing hlater) hread
    have hlen := congrArg List.length hbody
    have hpos := List.length_pos_iff.2 hlater.source_ne_nil
    simp only [List.length_append, List.length_drop] at hlen
    omega
  · intro hbody
    have hcut : cut? (write opening lines closing body) = some (join ['\n'] lines, body) := by
      cases lines with
      | nil => exact cut?_write_nil hopening hclosing (hbody rfl)
      | cons first lines => exact cut?_write_cons hopening hclosing hlines body
    rw [extract_of_cut? hcut hload, metadataOf_of_gives hgives]
    rfl

/-- The type of null has a name that no other type has. -/
theorem eq_null_of_typeName {v : Value} (h : v.typeName = "NoneType") : v = .null := by
  cases v with
  | null => rfl
  | again kind => cases kind <;> simp [Value.typeName] at h
  | _ => simp [Value.typeName] at h

/-- A block of comments, which are lines without metadata, before a text with a delimiter. -/
theorem extract_write_before_delimiter :
    let lines := ["# a: 1".toList, "# ---".toList]
    let body := "x\n---\ny".toList
    IsDelimiter "--- ".toList ∧ IsDelimiter "---\t".toList ∧ (∀ line ∈ lines, '\n' ∉ line ∧ ¬ IsDelimiter line) ∧
      Yaml.load id 100 (join ['\n'] lines) = .ok .null ∧ Gives .null [] ∧
      (extract (Yaml.load id 100) (write "--- ".toList lines "---\t".toList body) = .ok ⟨[], body⟩ ↔
        (lines = [] → ∀ line ∈ splitOn '\n' body, ¬ IsDelimiter line)) := by
  intro lines body
  have hlines : ∀ line ∈ lines, '\n' ∉ line ∧ ¬ IsDelimiter line := by decide
  have hkind : (Yaml.load id 100 (join ['\n'] lines)).toOption.any (·.typeName == "NoneType") = true := by
    decide +kernel
  have hload : Yaml.load id 100 (join ['\n'] lines) = .ok .null := by
    cases hread : Yaml.load id 100 (join ['\n'] lines) with
    | error fault => simp [hread, Except.toOption] at hkind
    | ok v => exact congrArg Except.ok (eq_null_of_typeName (by simpa [hread, Except.toOption] using hkind))
  have hgives : Gives .null [] := .inr ⟨rfl, rfl⟩
  exact ⟨by decide, by decide, hlines, hload, hgives,
    extract_write_iff (Yaml.load id 100) _ _ body lines .null [] (by decide) (by decide) hlines hload hgives⟩

/-- A block of metadata is not always read back with the text after it: one without lines, before a text with a
delimiter, is not. -/
theorem not_forall_extract_write :
    ¬ ∀ (load : Text → Except Yaml.Fault Value) (opening closing body : Text) (lines : List Text) (v : Value)
      (metadata : Entries), IsDelimiter opening → IsDelimiter closing →
      (∀ line ∈ lines, '\n' ∉ line ∧ ¬ IsDelimiter line) → load (join ['\n'] lines) = .ok v → Gives v metadata →
      extract load (write opening lines closing body) = .ok ⟨metadata, body⟩ := by
  intro h
  have hread := h (Yaml.load id 100) "---".toList "---".toList "Text\n---\nmore".toList [] .null [] (by decide) (by decide)
    nofun rfl (.inr ⟨rfl, rfl⟩)
  have hcut : cut? (write "---".toList [] "---".toList "Text\n---\nmore".toList) =
      some ("---\nText".toList, "more".toList) := by
    decide +kernel
  have hbody := body_of_extract hcut hread
  simp at hbody

end TagDoc.FrontMatter
