import TagDoc.Files.Path
import TagDoc.Proofs.Text.Words

/-!
# Characters of paths

Slashes part the names of a path, and a single dot stands for no name. All other characters of a text are in the names of
the path that it stands for, and in the text of that path.

A name that has an ending is made of a stem, a dot and what comes after it; the dot is the last in the name.

## Main results

* `Path.mem_toText_iff`: the characters of a path are those of its names
* `Path.mem_toText_ofText_iff`: a path has the characters of its text
* `Path.stemLength_append`, `Path.exists_ending`: where a name is cut in two
-/

namespace TagDoc.Path

variable {c : Char} {p q : Path} {t stem ending name : Text}

theorem mem_toText_iff (hslash : c ≠ '/') (hdot : c ≠ '.') : c ∈ p.toText ↔ ∃ name ∈ p.names, c ∈ name := by
  rw [toText]
  split
  · rename_i hhere
    simp [hdot, List.isEmpty_iff.1 hhere.2]
  · rw [List.mem_append]
    constructor
    · rintro (hlead | hnames)
      · exact absurd (List.eq_of_mem_replicate hlead) hslash
      · exact (Text.mem_of_mem_join hnames).resolve_left (by simpa using hslash)
    · rintro ⟨name, hname, hc⟩
      exact .inr (Text.mem_join_of_mem hname hc)

/-- The names of a path have the characters of the text that it stands for. -/
theorem exists_mem_names_ofText_iff (hslash : c ≠ '/') (hdot : c ≠ '.') :
    (∃ name ∈ (ofText t).names, c ∈ name) ↔ c ∈ t := by
  have hname : ∀ name : Text, c ∈ name → isName name = true := by
    rintro name hc
    have hempty : name ≠ [] := List.ne_nil_of_mem hc
    have hhere : name ≠ ['.'] := by
      rintro rfl
      exact hdot (List.mem_singleton.1 hc)
    simp [isName, hempty, hhere]
  have hjoin := Text.join_splitOn '/' t
  constructor
  · rintro ⟨name, hmem, hc⟩
    rw [← hjoin]
    exact Text.mem_join_of_mem (List.mem_filter.1 hmem).1 hc
  · intro hc
    rw [← hjoin] at hc
    obtain ⟨name, hmem, hc⟩ := (Text.mem_of_mem_join hc).resolve_left (by simpa using hslash)
    exact ⟨name, List.mem_filter.2 ⟨hmem, hname name hc⟩, hc⟩

theorem mem_toText_ofText_iff (hslash : c ≠ '/') (hdot : c ≠ '.') : c ∈ (ofText t).toText ↔ c ∈ t := by
  rw [mem_toText_iff hslash hdot, exists_mem_names_ofText_iff hslash hdot]

/-- The ending of a name goes from its last dot on, if that is neither the first nor the last character. -/
theorem stemLength_append (hstem : stem ≠ []) (hending : ending ≠ []) (hdot : '.' ∉ ending) :
    stemLength (stem ++ '.' :: ending) = stem.length := by
  have hrun : (stem ++ '.' :: ending).reverse.takeWhile (· != '.') = ending.reverse := by
    have hends : Text.Run (· != '.') ending.reverse ('.' :: stem.reverse) := by
      refine ⟨fun c hc => ?_, by simp⟩
      have hne : c ≠ '.' := fun heq => hdot (heq ▸ List.mem_reverse.1 hc)
      simpa using hne
    rw [List.reverse_append, List.reverse_cons, List.append_assoc, List.singleton_append, hends.takeWhile_append]
  have hlength := List.length_pos_iff.2 hstem
  simp only [stemLength, hrun, List.length_append, List.length_cons, List.length_reverse, List.isEmpty_reverse,
    List.isEmpty_iff, hending, false_or]
  rw [if_neg (by omega)]
  omega

/-- A name without an ending is all stem; any other is a stem, a dot and an ending without one. -/
theorem exists_ending (name : Text) :
    stemLength name = name.length ∨
      ∃ stem ending, stem ≠ [] ∧ ending ≠ [] ∧ '.' ∉ ending ∧ name = stem ++ '.' :: ending := by
  have hrun := Text.run_takeWhile (· != '.') name.reverse
  have hcut := List.takeWhile_append_dropWhile (p := (· != '.')) (l := name.reverse)
  rw [stemLength]
  generalize name.reverse.takeWhile (· != '.') = ending at hrun hcut ⊢
  cases hrest : name.reverse.dropWhile (· != '.') with
  | nil =>
    -- there is no dot, so that the whole name is taken for the ending
    have hlength : ending.length = name.length := by
      rw [hrest, List.append_nil] at hcut
      rw [hcut, List.length_reverse]
    exact .inl (if_pos (.inr (.inr hlength)))
  | cons c rest =>
    rw [hrest] at hrun hcut
    obtain rfl : c = '.' := by simpa using hrun.stops c rfl
    have hname : name = rest.reverse ++ '.' :: ending.reverse := by
      rw [← List.reverse_reverse name, ← hcut, List.reverse_append, List.reverse_cons, List.append_assoc,
        List.singleton_append]
    by_cases hedge : ending = [] ∨ rest = []
    · refine .inl (if_pos ?_)
      rcases hedge with rfl | rfl
      · exact .inl rfl
      · exact .inr (.inl (by simp [hname]))
    · obtain ⟨hending, hrest⟩ := not_or.1 hedge
      refine .inr ⟨rest.reverse, ending.reverse, by simpa using hrest, by simpa using hending, fun hdot => ?_, hname⟩
      simpa using hrun.all '.' (List.mem_reverse.1 hdot)

theorem stemLength_of_not_mem (hdot : '.' ∉ name) : stemLength name = name.length := by
  rcases exists_ending name with hstem | ⟨stem, ending, -, -, -, rfl⟩
  · exact hstem
  · simp at hdot

end TagDoc.Path
