import TagDoc.Markdown.Attempt

/-!
# Notices

What happens on the way without stopping the work is told in notices.

## Main definitions

* `Notice`: the events there are
* `Notice.event`, `Notice.level`, `Notice.fields`: how an event is shown
-/

namespace TagDoc

/-- Something worth telling: what is tried to read a text, a block of options that cannot be used, a document that
takes the place of another, or a document that was compiled. -/
inductive Notice where
  | tried (attempt : Markdown.Attempt)
  | optionsInvalid (tag options error : Text)
  | slugCollision (slug source overwrites : Text)
  | compiled (source output : Text) (tags : Nat)
  deriving DecidableEq, Repr

/-- How much a notice matters. -/
inductive Level where
  | debug
  | info
  | warning
  deriving DecidableEq, Repr

/-- A field of a notice is a text or a number. -/
inductive Field where
  | text (t : Text)
  | number (n : Nat)
  deriving DecidableEq, Repr

namespace Notice

/-- The name of the event. -/
def event : Notice → Text
  | tried attempt => attempt.message
  | optionsInvalid .. => "tag_options_invalid".toList
  | slugCollision .. => "slug_collision".toList
  | compiled .. => "block_compiled".toList

/-- What is tried matters only to find faults, a compiled document is for information, and all else is a warning. -/
def level : Notice → Level
  | tried _ => .debug
  | compiled .. => .info
  | _ => .warning

/-- What the notice says, in the order in which it is said. -/
def fields : Notice → List (String × Field)
  | tried _ => []
  | optionsInvalid tag options error => [("tag", .text tag), ("options", .text options), ("error", .text error)]
  | slugCollision slug source overwrites =>
    [("slug", .text slug), ("source", .text source), ("overwrites", .text overwrites)]
  | compiled source output tags => [("source", .text source), ("output", .text output), ("tags", .number tags)]

end Notice

/-- The name of a level. -/
def Level.name : Level → String
  | debug => "debug"
  | info => "info"
  | warning => "warning"

end TagDoc
