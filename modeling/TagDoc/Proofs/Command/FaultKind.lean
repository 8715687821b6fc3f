import TagDoc.Command.Run

/-!
# Kinds of faults

A fault is of one of a few kinds: a value is of no use where it stands, some work came to grief, or something else is
wrong, with a type, with a lookup, with the size of a number or with a file. Commands are to report faults of the first
two kinds. They do not tell kinds apart, though, but places: a fault is reported if it comes from where it was foreseen.

## Main definitions

* `FaultKind`, `FaultKind.isToReport`
* `CommandFault.kind`: the kind of a fault that ends a command

## Main results

* `DocumentFault.isForeseen_of_isToReport`, `ConfigFault.isForeseen_of_isToReport`: what is to be reported of a document or
  of settings was foreseen, but for what is nested too deep
-/

namespace TagDoc

/-- Kinds of faults. -/
inductive FaultKind where
  | value
  | work
  | type
  | lookup
  | attribute
  | size
  | file
  deriving DecidableEq, Repr

/-- Whether a command is to report faults of a kind. -/
def FaultKind.isToReport : FaultKind → Bool
  | value | work => true
  | _ => false

/-! ### Kinds of the faults of each part -/

/-- A character that no path can have makes a value of no use; all other faults are faults of files. -/
def FileFault.kind (f : FileFault) : FaultKind := if f.cause = .zeroCharacter then .value else .file

def ReadFault.kind : ReadFault → FaultKind
  | file fault => fault.kind
  | encoding _ => .value

def Yaml.Fault.kind : Yaml.Fault → FaultKind
  | noTruthValue _ | emptyNumber => .lookup
  | noTimestamp => .attribute
  | tooManyParts | codeTooLarge => .size
  | tooDeep => .work
  | _ => .value

def FrontMatter.Fault.kind : FrontMatter.Fault → FaultKind
  | yaml _ fault => fault.kind
  | notMapping _ => .value

def KeyFault.kind : KeyFault → FaultKind
  | noSuchKey _ | listOutOfRange | textOutOfRange | octetsOutOfRange | tooLargeIndex => .lookup
  | _ => .type

def Markdown.OptionFault.kind : Markdown.OptionFault → FaultKind
  | noQuote fault => fault.kind
  | tooDeep => .work
  | _ => .type

def BlockFault.kind : BlockFault → FaultKind
  | frontMatter fault => fault.kind
  | unrendered fault => fault.kind
  | invalid _ => .value

def DocumentFault.kind : DocumentFault → FaultKind
  | unreadable fault => fault.kind
  | block fault => fault.kind
  | slugTooLong => .value

/-- That a source has no document is work that came to grief, whatever the reason. -/
def RunFault.kind : RunFault → FaultKind
  | file fault => fault.kind
  | document .. => .work
  | unwritable _ => .value

def MergeFault.kind : MergeFault → FaultKind
  | takesNoEntries _ => .attribute
  | _ => .type

def SettingsFault.kind : SettingsFault → FaultKind
  | invalid _ => .value
  | optionsTooDeep .. => .work

def ConfigFault.kind : ConfigFault → FaultKind
  | unreadable fault => fault.kind
  | yaml _ fault => fault.kind
  | merge fault => fault.kind
  | settings fault => fault.kind

def NotALevel.kind : NotALevel → FaultKind
  | form => .value
  | styles => .type

/-- The kind of a fault that ends a command. -/
def CommandFault.kind : CommandFault → FaultKind
  | path fault => fault.kind
  | config fault => fault.kind
  | level fault => fault.kind
  | dialect _ => .value
  | run fault => fault.kind
  | document _ fault => fault.kind
  | unwritable _ | unencodable _ | unprintable _ => .value

/-! ### Faults that are to be reported -/

theorem FileFault.cause_of_isToReport {f : FileFault} (h : f.kind.isToReport = true) : f.cause = .zeroCharacter := by
  by_cases hcause : f.cause = .zeroCharacter
  · exact hcause
  · rw [kind, if_neg hcause] at h
    cases h

/-- A fault of YAML that is to be reported was foreseen, but for the one that a text goes too deep. -/
theorem Yaml.Fault.isForeseen_of_isToReport {f : Yaml.Fault} (h : f.kind.isToReport = true) :
    f.isForeseen = true ∨ f = .tooDeep := by
  cases f with
  | tooDeep => exact .inr rfl
  | noTruthValue content => cases h
  | emptyNumber => cases h
  | noTimestamp => cases h
  | tooManyParts => cases h
  | codeTooLarge => cases h
  | _ => exact .inl rfl

theorem KeyFault.isToReport_eq_false (f : KeyFault) : f.kind.isToReport = false := by
  cases f <;> rfl

/-- Of the faults of options only one is to be reported where text is rendered. -/
theorem Markdown.OptionFault.eq_tooDeep_of_isToReport {f : Markdown.OptionFault} (h : f.kind.isToReport = true) :
    f = .tooDeep := by
  cases f with
  | noQuote fault => exact absurd h (by rw [kind, fault.isToReport_eq_false]; decide)
  | tooDeep => rfl
  | _ => cases h

/-- All that is to be reported of a document was foreseen, but for front matter and text that are nested too deep. -/
theorem DocumentFault.isForeseen_of_isToReport {f : DocumentFault} (h : f.kind.isToReport = true) :
    f.isForeseen = true ∨ (∃ source, f = .block (.frontMatter (.yaml source .tooDeep))) ∨
      f = .block (.unrendered .tooDeep) := by
  cases f with
  | block fault =>
    cases fault with
    | frontMatter fault =>
      cases fault with
      | yaml source fault =>
        rcases Yaml.Fault.isForeseen_of_isToReport h with hforeseen | rfl
        · exact .inl hforeseen
        · exact .inr (.inl ⟨source, rfl⟩)
      | notMapping type => exact .inl rfl
    | unrendered fault => exact .inr (.inr (by rw [Markdown.OptionFault.eq_tooDeep_of_isToReport h]))
    | invalid report => exact .inl rfl
  | _ => exact .inl rfl

/-- All that is to be reported of settings was foreseen, but for a file and for options that are nested too deep. -/
theorem ConfigFault.isForeseen_of_isToReport {f : ConfigFault} (h : f.kind.isToReport = true) :
    f.isForeseen = true ∨ (∃ source, f = .yaml source .tooDeep) ∨
      ∃ source fault, f = .settings (.optionsTooDeep source fault) := by
  cases f with
  | unreadable fault =>
    cases fault with
    | file fault => exact .inl (beq_iff_eq.2 (fault.cause_of_isToReport h))
    | encoding fault => exact .inl rfl
  | yaml source fault =>
    rcases Yaml.Fault.isForeseen_of_isToReport h with hforeseen | rfl
    · exact .inl hforeseen
    · exact .inr (.inl ⟨source, rfl⟩)
  | merge fault => cases fault <;> cases h
  | settings fault =>
    cases fault with
    | invalid report => exact .inl rfl
    | optionsTooDeep source fault => exact .inr (.inr ⟨source, fault, rfl⟩)

end TagDoc
