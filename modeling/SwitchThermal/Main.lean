import SwitchThermal.AttributeTree
import SwitchThermal.Daemon
import SwitchThermal.Register.Memory

/-!
# The program

Runs the daemon on the attribute files of the machine. The reports go to standard output, the log to
standard error. Registers are kept in memory; every access to another kind of register fails.

* `Host.reply` — the answer of the machine to an access.
* `Host.execute` — a program with the machine as its board.
* `main` — a single period, or periods without end.
-/

set_option autoImplicit false

namespace SwitchThermal.Host

/-! ## Files -/

/-- What the machine says about a file. -/
def streamFault (e : IO.Error) : StreamFault :=
  match e with
  | .noFileOrDirectory .. => .system .notFound
  | .permissionDenied .. => .system .permissionDenied
  | e => .other (toString e)

def readText (path : TreePath) : IO (Except Fault String) := do
  match ← (IO.FS.readBinFile path.text).toBaseIO with
  | .error e => return .error (.unreadableFile path.text (streamFault e))
  | .ok content =>
    match Text.decode? content.data.toList with
    | some text => return .ok text
    | none => return .error (.unreadableFile path.text .notText)

/-- Replaces the content of a file. -/
def writeText (path : TreePath) (value : String) : IO (Except Fault Unit) := do
  match ← (IO.FS.writeFile path.text value).toBaseIO with
  | .ok () => return .ok ()
  | .error e => return .error (.unwritableFile path.text (streamFault e))

/-- The files of a list that can be read, as a tree. -/
def snapshot (paths : List TreePath) : IO FileTree :=
  paths.foldlM (fun t path => do
    match ← (IO.FS.readBinFile path.text).toBaseIO with
    | .ok content => return t.put path (Runs.ofBytes content.data.toList)
    | .error _ => return t) FileTree.empty

/-! ## The machine as a board -/

/-- Reads a device from its attribute files. -/
def reading (root : TreePath) (q : DeviceQuery) (m : MemoryRegisters) :
    IO (Reply MemoryRegisters q.Payload) := do
  let t ← snapshot ((AttributeTree.attributes q).map root.child)
  let r := AttributeTree.devices root q t
  return ⟨r.answer, r.notices, m⟩

/-- The answer of the machine's devices. -/
def device (root : TreePath) (q : DeviceQuery) (m : MemoryRegisters) :
    IO (Reply MemoryRegisters q.Payload) :=
  match q with
  | .setFan f percentage =>
    match AttributeTree.checkSpeed f percentage with
    | .error e => return .quiet (.error e) m
    | .ok () => do
      let r ← writeText (AttributeTree.speedPath root) (AttributeTree.speedText percentage)
      return .quiet r m
  | .setLed led mode => do
    return .quiet (← writeText (AttributeTree.ledPath root led) mode.name) m
  | .fan f => reading root (.fan f) m
  | .sensor s => reading root (.sensor s) m
  | .supply p => reading root (.supply p) m
  | .rail r => reading root (.rail r) m

/-- The answer to an access to registers that are out of reach. -/
def outOfReach : RegisterBus MemoryRegisters
  | .read base offset _, m => .quiet (.error (.unreadableRegister base offset (.other reason))) m
  | .write base offset _ value, m =>
    .quiet (.error (.unwritableRegister base offset value (.other reason))) m
where
  /-- Why the access fails. -/
  reason : String := "registers out of reach"

def registers : RegisterAccess → RegisterBus MemoryRegisters
  | .memory => MemoryRegisters.bus
  | .port | .helper => outOfReach

/-- The answer of the machine to an access. -/
def reply (o : Options) (q : Query) (m : MemoryRegisters) :
    IO (Reply MemoryRegisters q.Payload) :=
  match q with
  | .controlFile path => do return .quiet (← readText (.ofText path)) m
  | .register q => return registers o.registers q m
  | .device q => device (.ofText o.root) q m

/-! ## Running -/

/-- Logs a notice under a threshold. -/
def log (threshold : LogLevel) (n : Notice) : IO Unit := do
  if threshold.admits n.level then
    let fields := n.fields.map fun f => " " ++ f.1 ++ "=" ++ f.2
    IO.eprintln (n.level.label ++ " " ++ n.message ++ String.join fields)

/-- Runs a program with the machine as its board. -/
def execute {α : Type} (o : Options) (threshold : LogLevel) :
    Program α → MemoryRegisters → IO (α × MemoryRegisters)
  | .done a, m => return (a, m)
  | .note n rest, m => do
    log threshold n
    execute o threshold rest m
  | .ask q k, m => do
    let r ← reply o q m
    r.notices.forM (log threshold)
    execute o threshold (k r.answer) r.next

/-- The threshold of the log: from the environment, else from the control file. -/
def logThreshold (o : Options) : IO LogLevel := do
  match (← IO.getEnv "IDG_LOG").bind LogLevel.ofName? with
  | some l => return l
  | none =>
    match ← readText (.ofText o.controlFile) with
    | .ok text => return (Settings.parse text).level.threshold
    | .error _ => return .warn

/-- Runs one period and prints its report. -/
def period (o : Options) (threshold : LogLevel) (s : PeriodState) (m : MemoryRegisters) :
    IO (Except Overflow PeriodReport × PeriodState × MemoryRegisters) := do
  let ((result, s), m) ← execute o threshold (Period.run (Daemon.controller o) s) m
  if let .ok report := result then
    (Daemon.reportLines o report).forM IO.println
    (← IO.getStdout).flush
  return (result, s, m)

/-- Runs a single period; the exit status follows its control pass. -/
def single (o : Options) (threshold : LogLevel) : IO Nat := do
  match (← period o threshold {} .fresh).1 with
  | .ok report => return report.status.natAbs
  | .error _ => return Daemon.overflowExit

/-- Runs periods until one overflows. -/
partial def forever (o : Options) (threshold : LogLevel) (s : PeriodState) (m : MemoryRegisters) :
    IO Nat := do
  match ← period o threshold s m with
  | (.error _, _) => return Daemon.overflowExit
  | (.ok _, s, m) =>
    IO.sleep (UInt32.ofNat (min (o.interval * 1000) 4294967295))
    forever o threshold s m

end SwitchThermal.Host

open SwitchThermal in
/-- Runs the daemon as the command line says. -/
def main (arguments : List String) : IO UInt32 := do
  match CommandLine.parse arguments with
  | .error e =>
    (Daemon.refusal e).2.forM IO.println
    return UInt32.ofNat (Daemon.refusal e).1
  | .ok o =>
    let threshold ← Host.logThreshold o
    let exit ← if o.once then Host.single o threshold else Host.forever o threshold {} .fresh
    return UInt32.ofNat exit
