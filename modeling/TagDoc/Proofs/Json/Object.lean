import TagDoc.Json.Reader
import TagDoc.Proofs.Schema.Check
import TagDoc.Proofs.Step

/-!
# Objects in JSON

All that is read from JSON is a value as it is, without a part that stands for the whole. The members of an object have
texts for names, and of members with the same name the last one counts. So what a check takes for a mapping is an object,
with all of its members.

## Main results

* `Json.text_of_readMembers`: the names of members are texts
* `Json.gives_mapping_iff_of_read`: what is taken for a mapping is an object
-/

namespace TagDoc

open Settings

/-- Not a part that stands for the whole; and if it is a mapping, one from texts. -/
def Value.IsFromJson : Value → Prop
  | .map es => Entries.OfTexts es
  | .again _ => False
  | _ => True

namespace Json

variable {acceptConstants : Bool} {fuel depth : Nat} {t rest : Text} {v : Value} {es values : Entries}

theorem isText_ofCodes (points : List Nat) : isText (Value.ofCodes points) = true := by
  rw [Value.ofCodes]
  split <;> rfl

theorem isFromJson_ofCodes (points : List Nat) : (Value.ofCodes points).IsFromJson := by
  rw [Value.ofCodes]
  split <;> trivial

/-- The names of members are texts. -/
theorem text_of_readMembers (h : readMembers acceptConstants fuel depth t = .ok (es, rest)) :
    ∀ e ∈ es, isText e.1 = true := by
  induction fuel generalizing t es rest with
  | zero =>
    rw [readMembers] at h
    cases h
  | succ fuel ih =>
    unfold readMembers at h
    split at h
    · obtain ⟨⟨points, later⟩, -, h⟩ := bind_eq_ok_iff.1 h
      dsimp only at h
      split at h
      · obtain ⟨⟨v, later⟩, -, h⟩ := bind_eq_ok_iff.1 h
        dsimp only at h
        split at h
        · cases h
          exact List.forall_mem_singleton.2 (isText_ofCodes points)
        · obtain ⟨⟨more, last⟩, hmore, h⟩ := bind_eq_ok_iff.1 h
          cases h
          exact List.forall_mem_cons.2 ⟨isText_ofCodes points, ih hmore⟩
        · cases h
      · cases h
    · cases h

theorem isFromJson_of_readNumber (h : readNumber t = .ok (v, rest)) : v.IsFromJson := by
  unfold readNumber at h
  dsimp only at h
  split at h
  · cases h
  · split at h
    · split at h
      · cases h
      · cases h
        trivial
    · cases h
      trivial

theorem isFromJson_of_readScalar (h : readScalar acceptConstants t = .ok (v, rest)) : v.IsFromJson := by
  unfold readScalar at h
  split at h
  · rename_i w u hfind
    cases h
    have hmem := List.mem_of_find?_eq_some hfind
    simp only [words, List.mem_cons, List.not_mem_nil, or_false, Prod.mk.injEq] at hmem
    rcases hmem with ⟨-, rfl⟩ | ⟨-, rfl⟩ | ⟨-, rfl⟩ <;> trivial
  · split at h
    · split at h
      · cases h
        trivial
      · cases h
    · exact isFromJson_of_readNumber h

theorem isFromJson_of_readValue (h : readValue acceptConstants fuel depth t = .ok (v, rest)) : v.IsFromJson := by
  -- What is nested in a list or an object does not matter, so no induction is needed.
  cases fuel with
  | zero =>
    rw [readValue] at h
    cases h
  | succ fuel =>
    unfold readValue at h
    split at h
    · obtain ⟨⟨points, later⟩, -, h⟩ := bind_eq_ok_iff.1 h
      cases h
      exact isFromJson_ofCodes points
    · split at h
      · cases h
      · split at h
        · cases h
          trivial
        · obtain ⟨⟨vs, later⟩, -, h⟩ := bind_eq_ok_iff.1 h
          cases h
          trivial
    · split at h
      · cases h
      · split at h
        · cases h
          exact Entries.OfTexts.nil
        · obtain ⟨⟨es, later⟩, hes, h⟩ := bind_eq_ok_iff.1 h
          cases h
          exact Entries.ofTexts_ofList (text_of_readMembers hes)
    · exact isFromJson_of_readScalar h

theorem isFromJson_of_read (h : read depth acceptConstants t = .ok v) : v.IsFromJson := by
  rw [read] at h
  split at h
  · cases h
  · obtain ⟨⟨u, later⟩, hread, h⟩ := bind_eq_ok_iff.1 h
    dsimp only at h
    split at h
    · cases h
      exact isFromJson_of_readValue hread
    · cases h

/-- Of what is read from JSON objects are taken for mappings, with all of their members, and nothing else is. -/
theorem gives_mapping_iff_of_read (h : read depth acceptConstants t = .ok v) :
    (Check.mapping v).Gives values ↔ v = .map values := by
  have hv := isFromJson_of_read h
  cases v with
  | map es => exact (Check.gives_mapping_iff hv).trans ⟨congrArg Value.map, Value.map.inj⟩
  | again kind => exact hv.elim
  | _ => exact iff_of_false Checked.not_gives_error nofun

end Json

end TagDoc
