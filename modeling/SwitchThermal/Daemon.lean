import SwitchThermal.CommandLine
import SwitchThermal.Period
import SwitchThermal.ReportJson

/-!
# The daemon

Runs periods one after another. A single period ends with the status of its control pass; a run of
periods ends with success, unless a period overflows.

* `Daemon.controller` — the controller that the options ask for.
* `Daemon.runPeriods` — several periods in a row on a board.
* `Daemon.runOnce` — a single period.
* `Daemon.refusal` — exit status and output of a command line that asks for no run.
-/

set_option autoImplicit false

namespace SwitchThermal.Daemon

/-- The end of a run: exit status, output lines, notices and the board's last state. -/
structure Ending (σ : Type) where
  exit : Nat
  output : List String
  notices : List Notice
  world : σ

/-- The controller that the options ask for: the bands and parameters of the board. -/
def controller (o : Options) : Controller :=
  ⟨.board, .standard, o.controlFile⟩

/-- The output of a period. -/
def reportLines (o : Options) (r : PeriodReport) : List String :=
  if o.json then [r.json.render] else []

/-- The exit status after an overflow. -/
def overflowExit : Nat := 1

/-- Runs several periods in a row. -/
def runPeriods {σ : Type} (o : Options) (b : Board σ) : Nat → PeriodState → σ → Ending σ
  | 0, _, w => ⟨0, [], [], w⟩
  | n + 1, s, w =>
    let p := (Period.run (controller o) s).run b w
    match p.value.1 with
    | .error _ => ⟨overflowExit, [], Program.notices p.trace, p.world⟩
    | .ok r =>
      let rest := runPeriods o b n p.value.2 p.world
      { rest with
        output := reportLines o r ++ rest.output
        notices := Program.notices p.trace ++ rest.notices }

/-- Runs a single period; the exit status is the size of the status of its control pass. -/
def runOnce {σ : Type} (o : Options) (b : Board σ) (w : σ) : Ending σ :=
  let p := (Period.run (controller o) {}).run b w
  match p.value.1 with
  | .error _ => ⟨overflowExit, [], Program.notices p.trace, p.world⟩
  | .ok r => ⟨r.status.natAbs, reportLines o r, Program.notices p.trace, p.world⟩

/-- How the program is used. -/
def usageLines : List String :=
  ["Usage: " ++ CommandLine.programName ++ " [OPTIONS]",
   "  --bsp-root <PATH>           root of the attribute tree [default: /bsp]",
   "  --config <PATH>             thermal algorithm control file",
   "  --interval-secs <SECONDS>   seconds between control passes [default: 10]",
   "  --register-access <ACCESS>  devport, iorw or memory [default: devport]",
   "  --once                      run a single pass and exit with its status",
   "  --json                      print every report as a JSON line",
   "  -h, --help                  print this help",
   "  -V, --version               print the version"]

/-- The exit status and the output of a command line that asks for no run. -/
def refusal : UsageError → Nat × List String
  | .displayVersion => (0, [CommandLine.versionText])
  | .displayHelp => (0, usageLines)
  | .unknownArgument | .invalidValue | .valueValidation | .argumentConflict | .tooManyValues =>
    (2, [])

end SwitchThermal.Daemon
