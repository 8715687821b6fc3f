import TagDoc.Proofs.Text.Run
import TagDoc.Tag.Scan

/-!
# The grammar of tags

What a tag looks like is said here without a reader: each relation holds of a value, the source in which it is
written, and the text that follows. The text that follows matters, since a name, a line and a closing fence go on
as far as they can.

The readers are then shown to accept what the grammar writes and nothing else. In particular the captures of a tag
are unique, and a tag with options closes them at the first brace that may close them.

## Main definitions

* `FencedLines`: the lines after an opening fence, and the fence that closes them
* `Body.Written`, `Tag.Written`: bodies and tags in the text that they are written in
* `Tag.Accepted`: the texts that open with a tag

## Main results

* `readFence?_eq_some_iff`, `Body.read?_eq_some_iff`, `Tag.read?_eq_some_iff`: the readers follow the grammar
* `tagAt_follows_grammar`: a tag is found at a position just if the grammar has one there
-/

namespace TagDoc

open Text

/-- A fence is a line of three dots or more. -/
def IsFence (line : Text) : Prop := 3 ≤ line.length ∧ ∀ c ∈ line, c = '.'

/-- A text that begins with three dots. -/
def OpensFence (t : Text) : Prop := ['.', '.', '.'] <+: t

instance (t : Text) : Decidable (OpensFence t) := inferInstanceAs (Decidable (['.', '.', '.'] <+: t))

/-- `source` holds the lines between two fences and the dots that close them. The first line that opens with
three dots closes them, with all its dots; what else it holds is part of `rest`. -/
inductive FencedLines : List Text → Text → Text → Prop
  | close {dots rest : Text} (fence : IsFence dots) (stops : ∀ c ∈ rest.head?, c ≠ '.') :
      FencedLines [] dots rest
  | line {line : Text} {lines : List Text} {source rest : Text} (oneLine : '\n' ∉ line)
      (inside : ¬ OpensFence line) (later : FencedLines lines source rest) :
      FencedLines (line :: lines) (line ++ '\n' :: source) rest

/-- A body written as `source`, blanks before it included, where `rest` follows. -/
inductive Body.Written : Body → Text → Text → Prop
  | line {blanks line rest : Text} (blank : ∀ c ∈ blanks, isBlank c = true)
      (word : ∃ c ∈ line.head?, isWord c = true) (oneLine : '\n' ∉ line) (ends : AtLineEnd rest) :
      Written (.line line) (blanks ++ line) rest
  | fenced {blanks opening : Text} {lines : List Text} {source rest : Text}
      (blank : ∀ c ∈ blanks, isBlank c = true) (fence : IsFence opening)
      (later : FencedLines lines source rest) :
      Written (.fenced (join ['\n'] lines)) (blanks ++ opening ++ '\n' :: source) rest
  | absent {blanks rest : Text} (blank : ∀ c ∈ blanks, isBlank c = true) (ends : AtLineEnd rest) :
      Written .absent blanks rest

/-- A body that says something is written at the start of a text. -/
def OpensBody (t : Text) : Prop :=
  ∃ (body : Body) (source rest : Text), t = source ++ rest ∧ body.Written source rest ∧ body ≠ .absent

/-- The first line of a text holds blanks only. -/
def OpensBlankLine (t : Text) : Prop :=
  ∃ blanks rest, t = blanks ++ rest ∧ (∀ c ∈ blanks, isBlank c = true) ∧ AtLineEnd rest

/-- A brace closes a block of options if a body, or a blank rest of its line, comes after it. -/
def ClosesOptions (after : Text) : Prop := OpensBody after ∨ OpensBlankLine after

/-- The name of a tag and the blanks behind it, both as long as they can be before `v`. -/
structure Tag.Lead (name blanks v : Text) : Prop where
  name_ne_nil : name ≠ []
  named : Run isNameChar name (blanks ++ v)
  spaced : Run isBlank blanks v

/-- A tag written as `source`, where `rest` follows. The options run from their opening brace to the first
brace that closes them. -/
inductive Tag.Written : Tag → Text → Text → Prop
  | bare {name blanks : Text} {body : Body} {source rest : Text}
      (lead : Tag.Lead name blanks (source ++ rest)) (unbraced : (source ++ rest).head? ≠ some '{')
      (writes : body.Written source rest) (present : body ≠ .absent) :
      Written ⟨name, none, body⟩ ('@' :: name ++ blanks ++ source) rest
  | withOptions {name blanks inner : Text} {body : Body} {source rest : Text}
      (lead : Tag.Lead name blanks ('{' :: (inner ++ '}' :: (source ++ rest))))
      (writes : body.Written source rest)
      (first : ∀ i j, inner = i ++ '}' :: j → ¬ ClosesOptions (j ++ '}' :: (source ++ rest))) :
      Written ⟨name, some ('{' :: (inner ++ ['}'])), body⟩
        ('@' :: name ++ blanks ++ '{' :: (inner ++ '}' :: source)) rest

/-- A text that opens with a tag: its name and blanks are followed by a body, or by an opening brace after
which some brace closes the options. -/
def Tag.Accepted (u : Text) : Prop :=
  ∃ name blanks v, u = '@' :: name ++ blanks ++ v ∧ Tag.Lead name blanks v ∧
    ((v.head? ≠ some '{' ∧ OpensBody v) ∨
      ∃ inner after, v = '{' :: (inner ++ '}' :: after) ∧ ClosesOptions after)

/-! ### Fences -/

theorem isDots_iff {line : Text} : isDots line = true ↔ IsFence line := by
  simp [isDots, IsFence]

theorem startsWithWord_iff {line : Text} :
    startsWithWord line = true ↔ ∃ c ∈ line.head?, isWord c = true := by
  cases line <;> simp [startsWithWord]

theorem three_le_dots_iff {t : Text} : 3 ≤ (t.takeWhile (· == '.')).length ↔ OpensFence t := by
  constructor
  · intro hlen
    have hdots : (t.takeWhile (· == '.')).take 3 = List.replicate 3 '.' := by
      refine List.eq_replicate_iff.2 ⟨List.length_take_of_le hlen, fun c hc => ?_⟩
      simpa using List.mem_takeWhile_imp (List.mem_of_mem_take hc)
    have hprefix : (t.takeWhile (· == '.')).take 3 <+: t :=
      (List.take_prefix _ _).trans (List.takeWhile_prefix _)
    rwa [hdots] at hprefix
  · rintro ⟨u, rfl⟩
    simp

theorem opensFence_append_newline {line u : Text} : OpensFence (line ++ '\n' :: u) ↔ OpensFence line := by
  constructor
  · intro h
    -- The line break is no dot, so it cannot be one of the first three characters.
    rcases line with _ | ⟨a, _ | ⟨b, _ | ⟨c, line⟩⟩⟩
    · simp [OpensFence] at h
    · simp [OpensFence] at h
    · simp [OpensFence] at h
    · simpa [OpensFence] using h
  · exact fun h => h.trans (List.prefix_append _ _)

theorem readFence?_written {t : Text} {r : Reading (List Text)} (h : readFence? t = some r) :
    FencedLines r.value r.source r.rest := by
  fun_induction readFence? t generalizing r with
  | case1 t dots =>
    rename_i hdots
    cases h
    have hrun := run_takeWhile (· == '.') t
    exact .close ⟨hdots, fun c hc => by simpa using hrun.all c hc⟩
      fun c hc => by simpa using hrun.stops c hc
  | case2 => cases h
  | case3 t dots hdots c after hd =>
    rename_i ih
    obtain ⟨s, hs, rfl⟩ := Option.map_eq_some_iff.1 h
    have hinside : ¬ OpensFence (takeLine t) := fun hopen =>
      hdots (three_le_dots_iff.2 (hopen.trans (List.takeWhile_prefix _)))
    exact .line (not_mem_takeLine t) hinside (ih hs)

theorem FencedLines.readFence? {lines : List Text} {source rest : Text} (h : FencedLines lines source rest) :
    readFence? (source ++ rest) = some ⟨lines, source, rest⟩ := by
  induction h with
  | @close dots rest fence stops =>
    have hrun : Run (· == '.') dots rest :=
      ⟨fun c hc => by simpa using fence.2 c hc, fun c hc => by simpa using stops c hc⟩
    rw [TagDoc.readFence?]
    simp only [hrun.takeWhile_append, hrun.dropWhile_append, if_pos fence.1]
  | @line line lines source rest oneLine inside later ih =>
    -- The reader counts dots in all that is left, but the line break keeps the count on this line.
    have hopen : ¬ 3 ≤ ((line ++ '\n' :: (source ++ rest)).takeWhile (· == '.')).length := by
      rwa [three_le_dots_iff, opensFence_append_newline]
    have hdrop : dropLine (line ++ '\n' :: (source ++ rest)) = '\n' :: (source ++ rest) :=
      dropLine_append oneLine atLineEnd_cons
    have htake : takeLine (line ++ '\n' :: (source ++ rest)) = line :=
      takeLine_append oneLine atLineEnd_cons
    rw [List.append_assoc, List.cons_append, TagDoc.readFence?]
    simp only [if_neg hopen]
    split
    · simp_all
    · simp_all

theorem readFence?_eq_some_iff {t : Text} {r : Reading (List Text)} :
    readFence? t = some r ↔ r.Covers t ∧ FencedLines r.value r.source r.rest := by
  constructor
  · exact fun h => ⟨readFence?_covers h, readFence?_written h⟩
  · rintro ⟨rfl, hlines⟩
    exact hlines.readFence?

/-! ### Bodies -/

theorem isBlank_eq_false_of_isWord {c : Char} (h : isWord c = true) : isBlank c = false := by
  simp only [isBlank, Bool.or_eq_false_iff, beq_eq_false_iff_ne]
  constructor
  · rintro rfl
    cases h
  · rintro rfl
    cases h

theorem IsFence.exists_cons {line : Text} (h : IsFence line) : ∃ dots, line = '.' :: dots := by
  obtain ⟨hlen, hdots⟩ := h
  cases line with
  | nil => simp at hlen
  | cons c dots => exact ⟨dots, by rw [hdots c List.mem_cons_self]⟩

theorem IsFence.not_mem_newline {line : Text} (h : IsFence line) : '\n' ∉ line := by
  intro hmem
  have := h.2 _ hmem
  simp at this

theorem Body.read?_written {orAbsent : Bool} {t : Text} {r : Reading Body}
    (h : Body.read? orAbsent t = some r) :
    r.value.Written r.source r.rest ∧ (r.value = .absent → orAbsent = true) := by
  have hblanks := run_takeWhile isBlank t
  have hends := atLineEnd_dropLine (t.dropWhile isBlank)
  simp only [Body.read?] at h
  split at h
  · rename_i hdots
    split at h
    · cases h
    · rename_i c inner hd
      obtain ⟨s, hs, rfl⟩ := Option.map_eq_some_iff.1 h
      have hlines := (readFence?_eq_some_iff.1 hs).2
      exact ⟨.fenced hblanks.all (isDots_iff.1 hdots) hlines, by simp⟩
  · split at h
    · rename_i hword
      cases h
      exact ⟨.line hblanks.all (startsWithWord_iff.1 hword) (not_mem_takeLine _) hends, by simp⟩
    · split at h
      · rename_i hempty
        cases h
        simp only [Bool.and_eq_true] at hempty
        exact ⟨.absent hblanks.all hends, fun _ => hempty.2⟩
      · cases h

theorem Body.Written.read? {orAbsent : Bool} {body : Body} {source rest : Text}
    (h : body.Written source rest) (habsent : body = .absent → orAbsent = true) :
    Body.read? orAbsent (source ++ rest) = some ⟨body, source, rest⟩ := by
  cases h with
  | @line blanks line rest blank word oneLine ends =>
    -- Fences are tried first, and a word character is no dot.
    have hdots : isDots line = false := by
      by_contra hfence
      obtain ⟨c, hc, hword⟩ := word
      obtain ⟨dots, rfl⟩ := (isDots_iff.1 (by simpa using hfence)).exists_cons
      cases hc
      cases hword
    have hblanks : Run isBlank blanks (line ++ rest) := by
      obtain ⟨c, hc, hword⟩ := word
      obtain ⟨l, rfl⟩ := List.head?_eq_some_iff.1 hc
      refine ⟨blank, fun d hd => ?_⟩
      cases hd
      exact isBlank_eq_false_of_isWord hword
    rw [List.append_assoc]
    simp [Body.read?, hblanks.takeWhile_append, hblanks.dropWhile_append, takeLine_append oneLine ends,
      dropLine_append oneLine ends, hdots, startsWithWord_iff.2 word]
  | @fenced blanks opening lines source rest blank fence later =>
    have hblanks : Run isBlank blanks (opening ++ '\n' :: (source ++ rest)) := by
      obtain ⟨dots, rfl⟩ := fence.exists_cons
      refine ⟨blank, fun d hd => ?_⟩
      cases hd
      rfl
    have hread : readFence? (source ++ rest) = some ⟨lines, source, rest⟩ :=
      readFence?_eq_some_iff.2 ⟨rfl, later⟩
    rw [List.append_assoc, List.append_assoc, List.cons_append]
    simp [Body.read?, hblanks.takeWhile_append, hblanks.dropWhile_append,
      takeLine_append fence.not_mem_newline atLineEnd_cons,
      dropLine_append fence.not_mem_newline atLineEnd_cons, isDots_iff.2 fence, hread]
  | absent blank ends =>
    have hblanks : Run isBlank source rest := by
      refine ⟨blank, fun d hd => ?_⟩
      rw [ends d hd]
      rfl
    have htake := takeLine_append List.not_mem_nil ends
    have hdrop := dropLine_append List.not_mem_nil ends
    rw [List.nil_append] at htake hdrop
    simp [Body.read?, hblanks.takeWhile_append, hblanks.dropWhile_append, htake, hdrop, isDots, startsWithWord,
      habsent rfl]

theorem Body.read?_eq_some_iff {orAbsent : Bool} {t : Text} {r : Reading Body} :
    Body.read? orAbsent t = some r ↔
      r.Covers t ∧ r.value.Written r.source r.rest ∧ (r.value = .absent → orAbsent = true) := by
  constructor
  · exact fun h => ⟨Body.read?_covers h, Body.read?_written h⟩
  · rintro ⟨rfl, hwritten, habsent⟩
    exact hwritten.read? habsent

/-- Reading a body that may be absent succeeds just where options may be closed. -/
theorem Body.read?_isSome_iff {t : Text} : (Body.read? true t).isSome ↔ ClosesOptions t := by
  constructor
  · intro h
    obtain ⟨⟨body, source, rest⟩, hr⟩ := Option.isSome_iff_exists.1 h
    obtain ⟨hcovers, hwritten, -⟩ := Body.read?_eq_some_iff.1 hr
    by_cases hbody : body = .absent
    · subst hbody
      cases hwritten with
      | absent blank ends => exact .inr ⟨source, rest, hcovers.symm, blank, ends⟩
    · exact .inl ⟨body, source, rest, hcovers.symm, hwritten, hbody⟩
  · rintro (⟨body, source, rest, rfl, hwritten, -⟩ | ⟨blanks, rest, rfl, hblank, hends⟩)
    · simp [hwritten.read? fun _ => rfl]
    · simp [(Body.Written.absent hblank hends).read? fun _ => rfl]

theorem closesOptions_iff_exists {t : Text} : ClosesOptions t ↔ ∃ r, Body.read? true t = some r := by
  rw [← Body.read?_isSome_iff, Option.isSome_iff_exists]

theorem not_closesOptions_iff {t : Text} : ¬ ClosesOptions t ↔ Body.read? true t = none := by
  rw [← Body.read?_isSome_iff, Option.not_isSome_iff_eq_none]

/-! ### Options -/

theorem Tag.readOptions?_brace {t : Text} {r : Reading Body} (h : Body.read? true t = some r) :
    Tag.readOptions? ('}' :: t) = some (['}'], r) := by
  simp [Tag.readOptions?, h]

theorem Tag.readOptions?_cons {c : Char} {t : Text} (h : c = '}' → ¬ ClosesOptions t) :
    Tag.readOptions? (c :: t) = (Tag.readOptions? t).map fun (seen, r) => (c :: seen, r) := by
  by_cases hc : c = '}'
  · simp [Tag.readOptions?, hc, not_closesOptions_iff.1 (h hc)]
  · simp [Tag.readOptions?, hc]

theorem Tag.readOptions?_closed {t seen : Text} {r : Reading Body} (h : Tag.readOptions? t = some (seen, r)) :
    ∃ inner after, seen = inner ++ ['}'] ∧ t = inner ++ '}' :: after ∧ Body.read? true after = some r ∧
      ∀ i j, inner = i ++ '}' :: j → ¬ ClosesOptions (j ++ '}' :: after) := by
  induction t generalizing seen with
  | nil => cases h
  | cons c t ih =>
    by_cases hclose : c = '}' ∧ ClosesOptions t
    · obtain ⟨rfl, hclose⟩ := hclose
      obtain ⟨body, hbody⟩ := closesOptions_iff_exists.1 hclose
      rw [Tag.readOptions?_brace hbody] at h
      cases h
      exact ⟨[], t, rfl, rfl, hbody, by simp⟩
    · have hskip : c = '}' → ¬ ClosesOptions t := fun hc ht => hclose ⟨hc, ht⟩
      rw [Tag.readOptions?_cons hskip] at h
      obtain ⟨⟨seen', r'⟩, hread, heq⟩ := Option.map_eq_some_iff.1 h
      cases heq
      obtain ⟨inner, after, rfl, rfl, hbody, hfirst⟩ := ih hread
      refine ⟨c :: inner, after, rfl, rfl, hbody, fun i j hij => ?_⟩
      -- An earlier brace is `c` itself or one that the rest of the text holds.
      cases i with
      | nil =>
        obtain ⟨rfl, rfl⟩ := List.cons.inj hij
        exact hskip rfl
      | cons d i => exact hfirst i j (List.cons.inj hij).2

theorem Tag.readOptions?_append {inner after : Text} {r : Reading Body} (hbody : Body.read? true after = some r)
    (hfirst : ∀ i j, inner = i ++ '}' :: j → ¬ ClosesOptions (j ++ '}' :: after)) :
    Tag.readOptions? (inner ++ '}' :: after) = some (inner ++ ['}'], r) := by
  induction inner with
  | nil => exact Tag.readOptions?_brace hbody
  | cons c inner ih =>
    have hskip : c = '}' → ¬ ClosesOptions (inner ++ '}' :: after) := by
      rintro rfl
      exact hfirst [] inner rfl
    have hlater := ih fun i j hij => hfirst (c :: i) j (by rw [hij, List.cons_append])
    rw [List.cons_append, Tag.readOptions?_cons hskip, hlater]
    rfl

/-- If some brace closes the options, the reader finds one. -/
theorem Tag.readOptions?_isSome (inner : Text) {after : Text} (h : ClosesOptions after) :
    (Tag.readOptions? (inner ++ '}' :: after)).isSome := by
  induction inner with
  | nil =>
    obtain ⟨body, hbody⟩ := closesOptions_iff_exists.1 h
    simp [Tag.readOptions?_brace hbody]
  | cons c inner ih =>
    by_cases hclose : c = '}' ∧ ClosesOptions (inner ++ '}' :: after)
    · obtain ⟨rfl, hclose⟩ := hclose
      obtain ⟨body, hbody⟩ := closesOptions_iff_exists.1 hclose
      simp [Tag.readOptions?_brace hbody]
    · rw [List.cons_append, Tag.readOptions?_cons fun hc ht => hclose ⟨hc, ht⟩]
      simpa using ih

/-! ### Tags -/

/-- Every text that opens with an at sign and a name has one lead. -/
theorem Tag.lead_of_cons (t : Text) (h : t.takeWhile isNameChar ≠ []) :
    Tag.Lead (t.takeWhile isNameChar) ((t.dropWhile isNameChar).takeWhile isBlank)
      ((t.dropWhile isNameChar).dropWhile isBlank) where
  name_ne_nil := h
  named := by
    rw [List.takeWhile_append_dropWhile]
    exact run_takeWhile isNameChar t
  spaced := run_takeWhile isBlank _

/-- Behind an opening brace, a tag goes on with its options. -/
theorem Tag.Lead.read?_options {name blanks inner : Text} (h : Tag.Lead name blanks ('{' :: inner)) :
    Tag.read? ('@' :: name ++ blanks ++ '{' :: inner) =
      (Tag.readOptions? inner).map fun (seen, r) =>
        ⟨⟨name, some ('{' :: seen), r.value⟩, '@' :: name ++ blanks ++ '{' :: seen ++ r.source, r.rest⟩ := by
  rw [List.append_assoc, List.cons_append]
  simp [Tag.read?, h.named.takeWhile_append, h.named.dropWhile_append, h.spaced.takeWhile_append,
    h.spaced.dropWhile_append, h.name_ne_nil]

/-- Without an opening brace, a tag goes on with its body. -/
theorem Tag.Lead.read?_body {name blanks v : Text} (h : Tag.Lead name blanks v) (hv : v.head? ≠ some '{') :
    Tag.read? ('@' :: name ++ blanks ++ v) =
      (Body.read? false v).map fun r =>
        ⟨⟨name, none, r.value⟩, '@' :: name ++ blanks ++ r.source, r.rest⟩ := by
  rw [List.append_assoc, List.cons_append]
  simp only [Tag.read?, h.named.takeWhile_append, h.named.dropWhile_append, h.spaced.takeWhile_append,
    h.spaced.dropWhile_append, List.isEmpty_iff, h.name_ne_nil, if_false]
  split
  · simp at hv
  · rfl

/-- A text of which a tag is read has a lead. -/
theorem Tag.exists_lead {t : Text} {r : Reading Tag} (h : Tag.read? t = some r) :
    ∃ name blanks v, t = '@' :: name ++ blanks ++ v ∧ Tag.Lead name blanks v := by
  unfold Tag.read? at h
  split at h
  · rename_i u
    simp only at h
    split at h
    · cases h
    · rename_i hname
      refine ⟨_, _, _, ?_, Tag.lead_of_cons u (by simpa using hname)⟩
      simp
  · cases h

theorem Tag.read?_written {t : Text} {r : Reading Tag} (h : Tag.read? t = some r) :
    r.value.Written r.source r.rest := by
  obtain ⟨name, blanks, v, rfl, hlead⟩ := Tag.exists_lead h
  by_cases hv : v.head? = some '{'
  · obtain ⟨inner, rfl⟩ := List.head?_eq_some_iff.1 hv
    rw [hlead.read?_options] at h
    obtain ⟨⟨seen, b⟩, hread, rfl⟩ := Option.map_eq_some_iff.1 h
    obtain ⟨inner, after, rfl, rfl, hbody, hfirst⟩ := Tag.readOptions?_closed hread
    obtain ⟨rfl, hwritten, -⟩ := Body.read?_eq_some_iff.1 hbody
    simpa using Tag.Written.withOptions hlead hwritten hfirst
  · rw [hlead.read?_body hv] at h
    obtain ⟨b, hbody, rfl⟩ := Option.map_eq_some_iff.1 h
    obtain ⟨rfl, hwritten, hpresent⟩ := Body.read?_eq_some_iff.1 hbody
    exact .bare hlead hv hwritten fun habsent => nomatch hpresent habsent

theorem Tag.Written.read? {tag : Tag} {source rest : Text} (h : tag.Written source rest) :
    Tag.read? (source ++ rest) = some ⟨tag, source, rest⟩ := by
  cases h with
  | @bare name blanks body source rest lead unbraced writes present =>
    have hbody : Body.read? false (source ++ rest) = some ⟨body, source, rest⟩ :=
      writes.read? fun habsent => absurd habsent present
    rw [List.append_assoc, lead.read?_body unbraced, hbody]
    rfl
  | @withOptions name blanks inner body source rest lead writes first =>
    have hbody : Body.read? true (source ++ rest) = some ⟨body, source, rest⟩ := writes.read? fun _ => rfl
    have hread := Tag.readOptions?_append hbody first
    have hlead := lead.read?_options
    rw [hread] at hlead
    simpa using hlead

/-- The tag reader follows the grammar. -/
theorem Tag.read?_eq_some_iff {t : Text} {r : Reading Tag} :
    Tag.read? t = some r ↔ r.Covers t ∧ r.value.Written r.source r.rest := by
  constructor
  · exact fun h => ⟨Tag.read?_covers h, Tag.read?_written h⟩
  · rintro ⟨rfl, hwritten⟩
    exact hwritten.read?

/-- The tag reader accepts a text just if the grammar does. -/
theorem Tag.read?_isSome_iff {t : Text} : (Tag.read? t).isSome ↔ Tag.Accepted t := by
  constructor
  · intro h
    obtain ⟨⟨tag, source, rest⟩, hr⟩ := Option.isSome_iff_exists.1 h
    obtain ⟨rfl, hwritten⟩ := Tag.read?_eq_some_iff.1 hr
    cases hwritten with
    | @bare name blanks body source rest lead unbraced writes present =>
      exact ⟨name, blanks, source ++ rest, by simp, lead,
        .inl ⟨unbraced, body, source, rest, rfl, writes, present⟩⟩
    | @withOptions name blanks inner body source rest lead writes first =>
      have hcloses : ClosesOptions (source ++ rest) :=
        closesOptions_iff_exists.2 ⟨_, writes.read? fun _ => rfl⟩
      exact ⟨name, blanks, _, by simp, lead, .inr ⟨inner, source ++ rest, rfl, hcloses⟩⟩
  · rintro ⟨name, blanks, v, rfl, hlead, ⟨hv, body, source, rest, rfl, hwritten, hpresent⟩ | hbraced⟩
    · rw [hlead.read?_body hv, hwritten.read? fun habsent => absurd habsent hpresent]
      rfl
    · obtain ⟨inner, after, rfl, hcloses⟩ := hbraced
      obtain ⟨⟨seen, r⟩, hread⟩ := Option.isSome_iff_exists.1 (Tag.readOptions?_isSome inner hcloses)
      rw [hlead.read?_options, hread]
      rfl

instance (t : Text) : Decidable (Tag.Accepted t) := decidable_of_iff _ Tag.read?_isSome_iff

/-! ### The ends of what is written -/

theorem FencedLines.getLast?_source {lines : List Text} {source rest : Text}
    (h : FencedLines lines source rest) : source.getLast? = some '.' := by
  induction h with
  | @close dots rest fence stops =>
    obtain ⟨l, rfl⟩ := fence.exists_cons
    have hlast := fence.2 _ (List.getLast_mem (List.cons_ne_nil '.' l))
    rw [List.getLast?_eq_some_getLast (List.cons_ne_nil '.' l), hlast]
  | line oneLine inside later ih => simp [List.getLast?_cons, ih]

theorem Body.Written.source_ne_nil {body : Body} {source rest : Text} (h : body.Written source rest)
    (present : body ≠ .absent) : source ≠ [] := by
  cases h with
  | line blank word oneLine ends =>
    obtain ⟨c, hc, -⟩ := word
    rintro hnil
    simp [List.append_eq_nil_iff.1 hnil] at hc
  | fenced blank fence later => simp
  | absent => contradiction

theorem Body.Written.getLast?_source {body : Body} {source rest : Text} (h : body.Written source rest) :
    source.getLast? ≠ some '\n' := by
  intro hlast
  cases h with
  | line blank word oneLine ends =>
    rcases List.mem_append.1 (List.mem_of_getLast? hlast) with hmem | hmem
    · cases blank _ hmem
    · exact oneLine hmem
  | fenced blank fence later =>
    rw [List.getLast?_append, List.getLast?_cons, later.getLast?_source] at hlast
    cases hlast
  | absent blank ends => cases blank _ (List.mem_of_getLast? hlast)

theorem Tag.Written.head?_source {tag : Tag} {source rest : Text} (h : tag.Written source rest) :
    source.head? = some '@' := by
  cases h <;> rfl

theorem Tag.Written.source_ne_nil {tag : Tag} {source rest : Text} (h : tag.Written source rest) :
    source ≠ [] := by
  rintro rfl
  cases h.head?_source

/-- A tag ends on a line, never with the line break behind it. -/
theorem Tag.Written.getLast?_source {tag : Tag} {source rest : Text} (h : tag.Written source rest) :
    source.getLast? ≠ some '\n' := by
  cases h with
  | bare lead unbraced writes present =>
    rw [List.getLast?_append_of_ne_nil _ (writes.source_ne_nil present)]
    exact writes.getLast?_source
  | @withOptions _ _ inner _ source _ lead writes first =>
    rw [← List.cons_append, ← List.append_assoc, List.getLast?_append_cons]
    -- What follows the closing brace is a body, or nothing and the brace itself comes last.
    cases hsource : source.getLast? with
    | none => simp [List.getLast?_cons, hsource]
    | some c => simpa [List.getLast?_cons, hsource] using writes.getLast?_source

/-! ### Tags in a document -/

/-- A tag is found at a position just if the grammar accepts the text from there on, and what is found is the tag
that the grammar writes there, with the source in which it is written. -/
theorem tagAt_follows_grammar (t : Text) (start : Nat) :
    ((tagAt? t start).isSome ↔ Tag.Accepted (t.drop start)) ∧
    ∀ chunk, tagAt? t start = some chunk ↔
      ∃ tag source rest, t.drop start = source ++ rest ∧ Tag.Written tag source rest ∧
        chunk = ⟨start, .tag tag source⟩ := by
  refine ⟨?_, fun chunk => ?_⟩
  · rw [tagAt?, Option.isSome_map, Tag.read?_isSome_iff]
  · rw [tagAt?, Option.map_eq_some_iff]
    constructor
    · rintro ⟨⟨tag, source, rest⟩, hread, rfl⟩
      obtain ⟨hcovers, hwritten⟩ := Tag.read?_eq_some_iff.1 hread
      exact ⟨tag, source, rest, hcovers.symm, hwritten, rfl⟩
    · rintro ⟨tag, source, rest, hdrop, hwritten, rfl⟩
      exact ⟨⟨tag, source, rest⟩, by rw [hdrop, hwritten.read?], rfl⟩

/-- The first brace is followed by no body on its line, so the options go on to the second. -/
example :
    tagAt? "@opt \x7ba: \x7bb\x7d\x7d body\n...".toList 0 =
      some ⟨0, .tag ⟨"opt".toList, some "\x7ba: \x7bb\x7d\x7d".toList, .line "body".toList⟩ "@opt \x7ba: \x7bb\x7d\x7d body".toList⟩ := by
  decide

/-- A fence that is never closed makes no tag. -/
example : ¬ Tag.Accepted "@opt ...\nbody".toList := by
  decide +kernel

end TagDoc
