import SwitchThermal.Bench.Step

/-!
# Bench sessions

A session is a list of steps on a bench. Every step starts with empty records and without the
watched attribute files, so a record shows what its own step did.

* `Session` — the bench with the states of the control loop.
* `Session.perform` — one step: its value, the notices and what it leaves behind.
* `Session.step` — one step with its record.
* `Session.run` — the records of a list of steps.
-/

set_option autoImplicit false

namespace SwitchThermal.Bench

open Text (Bytes)

/-- The bench with the states of the control loop. -/
structure Session where
  world : World
  control : ControlState := .fresh
  rails : RailMonitor := .fresh
  period : PeriodState := {}

namespace Session

/-! ## Running a step -/

/-- The attribute files that are watched: the LEDs, then the fan speed. -/
def watched : List (List String) :=
  Led.all.map (fun led => ["led", led.fileName]) ++ [["fan", "fan_speed_set"]]

/-- The bench without what the steps before left in the watched files and the records of writes. -/
def clear (s : Setup) (w : World) : World :=
  { w with
    tree := watched.foldl (fun t names => t.removeFile (s.rootPath.child names)) w.tree
    records := { w.records with settings := [] }
    registers := { w.registers with writes := [] }
    calls := [] }

/-- The watched files that hold text, with it. -/
def wrote (s : Setup) (t : FileTree) : List (String × String) :=
  watched.filterMap fun names =>
    match t.readText (s.rootPath.child names) with
    | .ok content => some ("/".intercalate names, content)
    | .error _ => none

/-- A step without notices. -/
def quiet (v : StepValue) (s : Session) : StepValue × List Notice × Session :=
  (v, [], s)

/-- A step that only changes the bench. -/
def change (s : Session) (f : World → World) : StepValue × List Notice × Session :=
  quiet .nothing { s with world := f s.world }

/-- A step that runs a program. -/
def program {α : Type} (b : Board World) (p : Program α) (encode : α → StepValue) (s : Session) :
    StepValue × List Notice × Session :=
  let o := p.run b s.world
  (encode o.value, Program.notices o.trace, { s with world := o.world })

/-- A step that changes the control state. -/
def controlStep {α : Type} (b : Board World) (p : Pass α) (encode : α → StepValue) (s : Session) :
    StepValue × List Notice × Session :=
  let o := p.runOn b s.control s.world
  (.ofHalt encode o.value.1, Program.notices o.trace,
    { s with world := o.world, control := o.value.2 })

/-- Several control passes in a row. A pass that fails is followed by the next one; an overflow ends
them all. -/
def passes (setup : Setup) :
    Nat → Session → Except Overflow (List StepValue) × List Notice × Session
  | 0, s => (.ok [], [], s)
  | n + 1, s =>
    match controlStep setup.board setup.controller.pass .pass s with
    | (.overflow e, notices, s) => (.error e, notices, s)
    | (v, notices, s) =>
      let (vs, more, s) := passes setup n s
      (vs.map (v :: ·), notices ++ more, s)

/-- One or several control passes: the value of the one, or the list of the values. -/
def passStep (setup : Setup) (times : Nat) (s : Session) : StepValue × List Notice × Session :=
  if times = 1 then controlStep setup.board setup.controller.pass .pass s
  else
    match passes setup times s with
    | (.ok vs, notices, s) => (.many vs, notices, s)
    | (.error e, notices, s) => (.overflow e, notices, s)

def scanStep (setup : Setup) (s : Session) : StepValue × List Notice × Session :=
  let o := s.rails.scan.run setup.board s.world
  let monitor := o.value.2
  (.rails o.value.1 (Rail.all.filter monitor.isAlarmed), Program.notices o.trace,
    { s with world := o.world, rails := monitor })

def periodStep (setup : Setup) (s : Session) : StepValue × List Notice × Session :=
  let o := (Period.run setup.periodController s.period).run setup.periodBoard s.world
  let v := match o.value.1 with
    | .ok r => .period r
    | .error e => .overflow e
  (v, Program.notices o.trace, { s with world := o.world, period := o.value.2 })

/-- The bytes of the port file from an address. -/
def portValue (setup : Setup) (t : FileTree) (address count : Nat) : StepValue :=
  match t.look setup.portPath with
  | .ok (.file content _) => .bytes content.size ((content.drop address).take count).toBytes
  | _ => .nothing

/-- The lenient text of a file. -/
def fileValue (t : FileTree) (path : TreePath) : StepValue :=
  match t.readBytes path with
  | .ok content => .text (Text.decodeLossy content)
  | .error _ => .nothing

/-- Writes a text to a file. -/
def writeStep (path : TreePath) (value : String) (s : Session) :
    StepValue × List Notice × Session :=
  match Attribute.writeText s.world.tree path value with
  | .ok t => quiet .nothing { s with world := { s.world with tree := t } }
  | .error e => quiet (.fault e) s

def perform (setup : Setup) (step : Step) (s : Session) : StepValue × List Notice × Session :=
  let b := setup.board
  let t := s.world.tree
  let path (p : String) : TreePath := setup.rootPath.join p
  let onTree (f : FileTree → FileTree) (w : World) : World := { w with tree := f w.tree }
  let onRegisters (f : MemoryRegisters → MemoryRegisters) (w : World) : World :=
    { w with registers := f w.registers }
  match step with
  | .passes times => passStep setup times s
  | .updatePanel => program b Panel.update.run (.ofExcept .leds) s
  | .ledMode led =>
    program b Panel.update.run (.ofExcept fun r => .ledMode (r.mode? led)) s
  | .scanRails => scanStep setup s
  | .setFans percentage view samples =>
    controlStep b (Actuator.setFans setup.params percentage view samples) (fun _ => .nothing) s
  | .period => periodStep setup s
  | .arm => program b Watchdog.arm.run (.ofExcept fun _ => .nothing) s
  | .refresh => program b Watchdog.refresh.run (.ofExcept fun _ => .nothing) s
  | .latch => program b Watchdog.latch.run (.ofExcept fun _ => .nothing) s
  | .isLatched => program b Watchdog.latched.run (.ofExcept .flag) s
  | .access q => program b (Program.register q) (.ofRegister q) s
  | .setRegister base offset value =>
    change s (onRegisters fun m => m.set base offset value)
  | .getRegister base offset => quiet (.number (s.world.registers.get base offset)) s
  | .failRegister offset => change s (onRegisters fun m => m.failAt offset)
  | .portBytes address count => quiet (portValue setup t address count) s
  | .device (.ok q) => program b (Program.device q) (.ofDevice q) s
  | .device (.error e) => quiet (.fault e) s
  | .versions => quiet (.ofExcept .versions (CpldVersions.read t setup.rootPath)) s
  | .readInt p => quiet (.ofExcept .number (Attribute.readInt t (path p))) s
  | .writeText p value => writeStep (path p) value s
  | .readSettings p => quiet (.ofExcept .settings (Attribute.readSettings t (path p))) s
  | .settingsOrStandard p => program b (SwitchThermal.readSettings (path p).text) .settings s
  | .put p content => change s (onTree fun t => putContent t (path p) content)
  | .remove p => change s (onTree fun t => t.remove (path p))
  | .fanSpeeds percentage => change s (onTree fun t => layFanSpeeds t setup.rootPath percentage)
  | .edit (.ok e) => change s fun w => { w with records := w.records.edit e }
  | .edit (.error e) => quiet (.fault e) s
  | .patchState p => quiet .nothing { s with control := p.apply s.control }
  | .freshState => quiet .nothing { s with control := .fresh }
  | .showFile p => quiet (fileValue t (path p)) s
  | .showState => quiet (.state s.control) s

/-- Is the control state part of the record of a step? -/
def showsState : Step → Bool
  | .passes _ | .setFans .. | .patchState _ => true
  | _ => false

/-- The log of notices under a threshold. -/
def logOf (threshold : Option LogLevel) (notices : List Notice) : List LogEntry :=
  match threshold with
  | none => []
  | some t => (notices.filter fun n => t.admits n.level).map Notice.entry

/-- Performs one step and records what it did. -/
def step (setup : Setup) (st : Step) (s : Session) : StepRecord × Session :=
  let (value, notices, s) := perform setup st { s with world := clear setup s.world }
  let w := s.world
  (⟨value, w.registers.writes, w.records.settings, wrote setup w.tree, w.calls,
    logOf setup.threshold notices, if showsState st then some s.control else none⟩, s)

/-- Performs steps in order. -/
def steps (setup : Setup) : List Step → Session → List StepRecord
  | [], _ => []
  | st :: rest, s =>
    let (r, s) := step setup st s
    r :: steps setup rest s

def run (setup : Setup) (todo : List Step) : List StepRecord :=
  steps setup todo { world := setup.world }

end Session

end SwitchThermal.Bench
