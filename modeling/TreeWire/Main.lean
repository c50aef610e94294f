import TreeWire.Command.Paths

/-!
# The program

The outer layer of a run: it takes in what stands at the paths of the command line, lets the run
change that store, and writes back what has changed. Programs other than itself cannot be started.

* `main` – the program.
-/

namespace TreeWire.Program

/-- The variables of a list of settings that are separated by zero bytes. -/
def variablesOf (bs : List UInt8) : List (String × String) :=
  let settings := (splitAtChar '\x00' ((ofUtf8? bs).getD "").toList).map fun cs =>
    (String.ofList (cs.takeWhile (· ≠ '=')), String.ofList ((cs.dropWhile (· ≠ '=')).drop 1))
  settings.filter (·.1 ≠ "")

/-- The path of a location. -/
def pathOf (l : Location) : String := "/" ++ "/".intercalate l

/-- The store with what stands at a location. Reading a directory fails with the system's error
21. -/
def takeIn (s : Store) (l : Location) : IO Store := do
  let path := pathOf l
  if l = [] ∨ (s.get? l).isSome then return s
  try
    let contents ← IO.FS.readBinFile path
    return s.put l (.file contents.data.toList)
  catch e =>
    match e with
    | .inappropriateType _ 21 _ => return s.put l .directory
    | _ => return s

/-- The store with what stands at a location and above it. -/
def takeInAbove (s : Store) (l : Location) : IO Store :=
  (List.range (l.length + 1)).foldlM (fun s n => takeIn s (l.take n)) s

/-- Writing back what has changed. -/
def writeBack (before after : Store) : IO Unit :=
  after.nodes.forM fun (l, n) => do
    match n with
    | .file contents =>
      if before.get? l ≠ some n then IO.FS.writeBinFile (pathOf l) ⟨contents.toArray⟩
    | .directory => if (before.get? l).isNone then IO.FS.createDirAll (pathOf l)

end TreeWire.Program

open TreeWire Program in
/-- **The program.** -/
def main (words : List String) : IO UInt32 := do
  let settings := variablesOf (← IO.FS.readBinFile "/proc/self/environ").data.toList
  let lookup : Lookup := fun name => settings.lookup name
  let host : Host :=
    { workingDirectory := toString (← IO.currentDir)
      temporaryDirectory := (lookup "TMPDIR").getD "/tmp"
      executable := toString (← IO.appPath)
      environment := lookup
      programs := [] }
  let here := Store.locationOf host.workingDirectory
  let store ← (List.range (here.length + 1)).foldlM
    (fun s n => takeInAbove s (here.take n ++ [Definitions.fileName])) Store.empty
  let known := { host with
    environment := Definitions.environment lookup store host.workingDirectory }
  let paths := (Command.paths known words).map (Path.absolute host.workingDirectory)
  let store ← paths.foldlM (fun s p => takeInAbove s (Store.locationOf p)) store
  let (code, session) := Command.run host words ⟨store, "", ""⟩
  writeBack store session.store
  (← IO.getStdout).putStr session.output
  (← IO.getStderr).putStr session.errors
  return code.toUInt32
