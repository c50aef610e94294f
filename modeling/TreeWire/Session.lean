import TreeWire.Environment.Reference
import TreeWire.Store

/-!
# Sessions

A run sees a store of files and prints to two streams; a session holds all three. What a run has
done before a fault stays done. Other programs are part of the host: each one maps its arguments
and its working directory to a change of the session and an ending.

* `TreeWire.Session`, `TreeWire.Task` – sessions, and runs that can fail;
* `TreeWire.Ending` – how a program ends;
* `TreeWire.Host` – what a run finds around itself;
* `TreeWire.Host.start` – starting a program.
-/

namespace TreeWire

/-! ### Sessions -/

/-- **A session**: the files, and what has been printed. -/
structure Session where
  /-- The files. -/
  store : Store
  /-- What has been printed to standard output. -/
  output : String := ""
  /-- What has been printed to standard error. -/
  errors : String := ""

/-- **A run that can fail.** The session survives the fault. -/
abbrev Task (ε α : Type) := ExceptT ε (StateM Session) α

namespace Task

/-- A line on standard output. -/
def print {ε : Type} (line : String) : Task ε Unit :=
  modify fun s => { s with output := s.output ++ line ++ "\n" }

/-- A run on the files. -/
def onStore {ε α : Type} (f : Store → Except ε α × Store) : Task ε α := fun s =>
  let (result, store) := f s.store
  (result, { s with store })

/-- A look at the files. -/
def look {ε α : Type} (f : Store → Except ε α) : Task ε α := fun s => (f s.store, s)

/-- A run whose faults are taken for others. -/
def mapFault {ε δ α : Type} (f : ε → δ) (t : Task ε α) : Task δ α := fun s =>
  let (result, s) := t s
  (result.mapError f, s)

end Task

/-! ### Programs -/

/-- **How a program ends.** -/
inductive Ending where
  /-- By itself, with a code. -/
  | exited (code : Nat)
  /-- By a signal. -/
  | signalled (signal : Nat)
  deriving DecidableEq

/-- The names of the signals, the first one first. -/
def signalNames : List String :=
  ["SIGHUP", "SIGINT", "SIGQUIT", "SIGILL", "SIGTRAP", "SIGABRT", "SIGBUS", "SIGFPE", "SIGKILL",
    "SIGUSR1", "SIGSEGV", "SIGUSR2", "SIGPIPE", "SIGALRM", "SIGTERM", "SIGSTKFLT", "SIGCHLD",
    "SIGCONT", "SIGSTOP", "SIGTSTP", "SIGTTIN", "SIGTTOU", "SIGURG", "SIGXCPU", "SIGXFSZ",
    "SIGVTALRM", "SIGPROF", "SIGWINCH", "SIGIO", "SIGPWR", "SIGSYS"]

/-- The wording of an ending. -/
def Ending.text : Ending → String
  | exited code => "exit status: " ++ toString code
  | signalled signal =>
    "signal: " ++ toString signal ++
      match signal with
      | 0 => ""
      | n + 1 =>
        match signalNames[n]? with
        | some name => " (" ++ name ++ ")"
        | none => ""

/-- **A program**: what it does with its arguments in a working directory. -/
abbrev Program := List String → String → Session → Ending × Session

/-- **What a run finds around itself.** -/
structure Host where
  /-- The working directory, from the root. -/
  workingDirectory : String
  /-- The directory of temporary files, from the root. -/
  temporaryDirectory : String
  /-- The path of the running program itself. -/
  executable : String
  /-- The variables of the environment. -/
  environment : Lookup
  /-- The programs that can be started, by the names under which they are found. -/
  programs : List (String × Program)

namespace Host

/-- Why a program cannot be started: a name with a slash is a path, and only a file that is a
program can be started. -/
def launchError (store : Store) (directory program : String) : SystemError :=
  if program.toList.contains '/' then
    match store.node directory program with
    | .ok _ => .accessDenied
    | .error e => e
  else .noEntry

/-- **Starting a program** in a directory and waiting for its end. The directory has to exist, and
no word may hold a zero character. -/
def start (h : Host) (program : String) (arguments : List String) (directory : String) :
    Task SystemError Ending := fun s =>
  let directory := Path.join h.workingDirectory directory
  if (program :: directory :: arguments).any (·.toList.contains '\x00') then (.error .zeroInWord, s)
  else match s.store.node h.workingDirectory directory with
  | .error e => (.error e, s)
  | .ok (.file _) => (.error .notDirectory, s)
  | .ok .directory =>
    match h.programs.find? (·.1 == program) with
    | none => (.error (launchError s.store directory program), s)
    | some (_, run) =>
      let (ending, s) := run arguments directory s
      (.ok ending, s)

end Host

/-- **Running a program** to a successful end. -/
def Host.runProgram (h : Host) (program : String) (arguments : List String) (directory : String) :
    Task Fault Unit := do
  let ending ← (h.start program arguments directory).mapFault (Fault.toolLaunch program)
  if ending = .exited 0 then pure () else throw (.toolFailed program ending.text)

end TreeWire
