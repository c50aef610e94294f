import TreeWire.Command.Run

/-!
# Paths of a run

The paths that a run can look at, so that an outer layer can take in what stands there before the
run and write back what has changed after it.

* `TreeWire.Command.Request.paths` – the paths of a request;
* `TreeWire.Command.paths` – the paths of a command line.
-/

namespace TreeWire.Command

/-- **The paths of a request**, with their references expanded. -/
def Request.paths (h : Host) : Request → List String
  | .generate o =>
    let file := expand h.environment (o.file.getD "")
    let schema := expand h.environment o.output
    [file, schema, descriptorPath schema, dataPath h o.dataOutput schema file,
      h.temporaryDirectory]
  | .inspect o => [expand h.environment (o.file.getD "")]
  | .convert o =>
    let file := expand h.environment (o.file.getD "")
    let descriptor := expand h.environment o.descriptor
    [file, descriptor, dataPath h o.output descriptor file]
  | .nothing | .manual => []

/-- **The paths of a command line.** One that is refused has none. -/
def paths (h : Host) (words : List String) : List String :=
  match parse words with
  | .ok request => (request.paths h).filter (· ≠ "")
  | .error _ => []

end TreeWire.Command
