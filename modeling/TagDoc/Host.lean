import TagDoc.Markdown.Render
import TagDoc.Tag.Options
import TagDoc.Yaml.Load

/-!
# Hosts

What texts are read as depends on the process that reads them in two ways. One goes over the items of a set in an order that
is the process's own, and another process can have another order. And what stands in each other is read by calls in
calls, for which a process has room to a limit; how much of it is left depends on the calls that stand around the reading.

A host is a way to read all that is read for a command. Nothing else depends on it.

## Main definitions

* `Host`: how settings and documents are read
* `Runtime`: the order of sets, and the room for calls
* `Runtime.host`: how a process reads, given the calls around its work on a document
-/

namespace TagDoc

/-- How settings and documents are read.

* `loadConfig`: the value of a file with settings
* `optionsDepth`: how deep options may be nested that settings have in JSON
* `loadMetadata`: the value of the front matter of a document
* `decode`: the options of a tag
* `render`: text in a dialect of Markdown as HTML -/
structure Host where
  loadConfig : Text → Except Yaml.Fault Value
  optionsDepth : Nat
  loadMetadata : Text → Except Yaml.Fault Value
  decode : Decoder
  render : Markdown.Dialect → Text → Except Markdown.OptionFault Text

/-- A process: how it goes over the items of a set, which were put in one after the other, and how many calls may stand in
each other. -/
structure Runtime where
  arrange : List Value → List Value
  room : Nat

namespace Runtime

/-- A process that goes over sets as they were filled, with the usual room. -/
def usual : Runtime := ⟨id, 1000⟩

/-- How many calls stand around the loading of settings. -/
def callsAroundSettings : Nat := 12

/-- How deep collections may be nested in YAML below some calls, two calls for each: those that begin the reading and those
that cut tokens take part of the room. -/
def yamlDepth (r : Runtime) (calls : Nat) : Nat := (r.room - calls - 14) / 2

/-- How deep values may be nested in JSON below some calls. -/
def jsonDepth (r : Runtime) (calls : Nat) : Nat := r.room - calls - 3

/-- How a process reads, where some calls stand around its work on a document. -/
def host (r : Runtime) (calls : Nat) : Host where
  loadConfig := Yaml.load r.arrange (r.yamlDepth callsAroundSettings)
  optionsDepth := r.jsonDepth (callsAroundSettings + 2)
  loadMetadata := Yaml.load r.arrange (r.yamlDepth (calls + 2))
  decode := strictJson (r.jsonDepth (calls + 5))
  render := Markdown.renderWithin (r.room - calls - 11)

end Runtime

/-- The usual host, where a run over all sources stands around the work on a document. -/
def Host.usual : Host := Runtime.usual.host 12

end TagDoc
