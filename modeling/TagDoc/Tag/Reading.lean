import TagDoc.Tag.Basic

/-!
# Reading a tag

`Tag.read?` reads a tag at the start of a text. A tag that is not complete there is no tag: the answer is
then `none`, and nothing is remembered of the attempt.

Options are closed by the first brace that leaves a body, or nothing but blanks, on its line; braces are
not counted. A body of several lines ends at the first later line that opens with three dots, and takes
those dots along.

## Main definitions

* `Body.read?`: a body at the start of a text
* `Tag.readOptions?`: the rest of a block of options, and the body after it
* `Tag.read?`: a whole tag

## Main results

* `Tag.read?_covers`: what a tag is read from and what is left over make up the text
-/

namespace TagDoc

open Text

/-- Whether a line consists of three dots or more and nothing else. -/
def isDots (line : Text) : Bool := decide (3 ≤ line.length) && line.all (· == '.')

/-- Whether a text begins with a word character. -/
def startsWithWord : Text → Bool
  | [] => false
  | c :: _ => isWord c

/-- The lines before the first one that opens with three dots, and then the run of dots that opens it. -/
def readFence? (t : Text) : Option (Reading (List Text)) :=
  let dots := t.takeWhile (· == '.')
  if 3 ≤ dots.length then some ⟨[], dots, t.dropWhile (· == '.')⟩
  else
    match _h : dropLine t with
    | [] => none
    | _ :: after =>
      (readFence? after).map fun r => ⟨takeLine t :: r.value, takeLine t ++ '\n' :: r.source, r.rest⟩
termination_by t.length
decreasing_by
  have bound := dropLine_length_le t
  rw [_h, List.length_cons] at bound
  omega

/-- Reads a body after its blanks: the lines between two lines of dots, or the rest of a line that begins
with a word character. With `orAbsent`, a line that holds nothing more is the absent body. -/
def Body.read? (orAbsent : Bool) (t : Text) : Option (Reading Body) :=
  let blanks := t.takeWhile isBlank
  let line := takeLine (t.dropWhile isBlank)
  let after := dropLine (t.dropWhile isBlank)
  if isDots line then
    match after with
    | [] => none
    | _ :: inner =>
      (readFence? inner).map fun r =>
        ⟨.fenced (join ['\n'] r.value), blanks ++ line ++ '\n' :: r.source, r.rest⟩
  else if startsWithWord line then some ⟨.line line, blanks ++ line, after⟩
  else if line.isEmpty && orAbsent then some ⟨.absent, blanks, after⟩
  else none

/-- Reads on to the first closing brace that leaves a body, or only blanks, behind it: the text up to and
with that brace, and the reading of the body. -/
def Tag.readOptions? : Text → Option (Text × Reading Body)
  | [] => none
  | c :: t =>
    match if c = '}' then Body.read? true t else none with
    | some body => some (['}'], body)
    | none => (Tag.readOptions? t).map fun (seen, body) => (c :: seen, body)

/-- The characters of a tag's name: all but white space and the opening brace. -/
def isNameChar (c : Char) : Bool := !isSpace c && c != '{'

/-- Reads a tag that opens with the first character of a text. -/
def Tag.read? : Text → Option (Reading Tag)
  | '@' :: t =>
    let name := t.takeWhile isNameChar
    let afterName := t.dropWhile isNameChar
    let blanks := afterName.takeWhile isBlank
    let lead := '@' :: name ++ blanks
    if name.isEmpty then none
    else
      match afterName.dropWhile isBlank with
      | '{' :: inner =>
        (Tag.readOptions? inner).map fun (seen, body) =>
          ⟨⟨name, some ('{' :: seen), body.value⟩, lead ++ '{' :: seen ++ body.source, body.rest⟩
      | after =>
        (Body.read? false after).map fun body =>
          ⟨⟨name, none, body.value⟩, lead ++ body.source, body.rest⟩
  | _ => none

theorem head_of_dropLine {t after : Text} {c : Char} (h : dropLine t = c :: after) : c = '\n' := by
  induction t with
  | nil => cases h
  | cons d t ih =>
    by_cases hd : d = '\n'
    · subst hd
      simp [dropLine] at h
      exact h.1.symm
    · exact ih (by simpa [dropLine, hd] using h)

theorem readFence?_covers {t : Text} {r : Reading (List Text)} (h : readFence? t = some r) : r.Covers t := by
  fun_induction readFence? t generalizing r with
  | case1 t _ =>
    cases h
    exact List.takeWhile_append_dropWhile
  | case2 => cases h
  | case3 t _ _ c after hd =>
    rename_i ih
    obtain ⟨s, hs, rfl⟩ := Option.map_eq_some_iff.1 h
    have hc := head_of_dropLine hd
    have := takeLine_append_dropLine t
    simp_all [Reading.Covers]

theorem Body.read?_covers {orAbsent : Bool} {t : Text} {r : Reading Body}
    (h : Body.read? orAbsent t = some r) : r.Covers t := by
  have hline := takeLine_append_dropLine (t.dropWhile isBlank)
  have hblank : t.takeWhile isBlank ++ t.dropWhile isBlank = t := List.takeWhile_append_dropWhile
  simp only [Body.read?] at h
  split at h
  · split at h
    · cases h
    · rename_i c inner hd
      obtain ⟨s, hs, rfl⟩ := Option.map_eq_some_iff.1 h
      have hc := head_of_dropLine hd
      have := readFence?_covers hs
      simp_all [Reading.Covers]
  · split at h
    · cases h
      simp_all [Reading.Covers]
    · split at h
      · rename_i hempty
        cases h
        simp_all [Reading.Covers]
      · cases h

theorem Tag.readOptions?_covers {t seen : Text} {r : Reading Body}
    (h : Tag.readOptions? t = some (seen, r)) : seen ++ r.source ++ r.rest = t := by
  induction t generalizing seen r with
  | nil => cases h
  | cons c t ih =>
    simp only [Tag.readOptions?] at h
    split at h
    · rename_i body hbody
      cases h
      split at hbody
      · have := Body.read?_covers hbody
        simp_all [Reading.Covers]
      · cases hbody
    · obtain ⟨⟨s, b⟩, hs, heq⟩ := Option.map_eq_some_iff.1 h
      cases heq
      simpa using ih hs

/-- What a tag is read from and what is left over make up the text. -/
theorem Tag.read?_covers {t : Text} {r : Reading Tag} (h : Tag.read? t = some r) : r.Covers t := by
  unfold Tag.read? at h
  split at h
  · rename_i u
    have hname : u.takeWhile isNameChar ++ u.dropWhile isNameChar = u := List.takeWhile_append_dropWhile
    have hblank : (u.dropWhile isNameChar).takeWhile isBlank ++ (u.dropWhile isNameChar).dropWhile isBlank =
        u.dropWhile isNameChar := List.takeWhile_append_dropWhile
    simp only at h
    split at h
    · cases h
    · split at h
      · rename_i inner heq
        obtain ⟨⟨s, b⟩, hs, rfl⟩ := Option.map_eq_some_iff.1 h
        have := Tag.readOptions?_covers hs
        simp_all [Reading.Covers]
      · obtain ⟨b, hb, rfl⟩ := Option.map_eq_some_iff.1 h
        have := Body.read?_covers hb
        simp_all [Reading.Covers]
  · cases h

/-- A tag is never read from nothing, so what is left over is shorter. -/
theorem Tag.rest_length_lt {t : Text} {r : Reading Tag} (h : Tag.read? t = some r) :
    r.rest.length < t.length := by
  have hc := congrArg List.length (Tag.read?_covers h)
  have hs : 0 < r.source.length := by
    unfold Tag.read? at h
    split at h
    · simp only at h
      split at h
      · cases h
      · split at h
        · obtain ⟨⟨s, b⟩, hs, rfl⟩ := Option.map_eq_some_iff.1 h
          simp
        · obtain ⟨b, hb, rfl⟩ := Option.map_eq_some_iff.1 h
          simp
    · cases h
  simp at hc
  omega

end TagDoc
