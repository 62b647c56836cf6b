import SwitchThermal.Board.Query
import SwitchThermal.FileTree
import SwitchThermal.Text.Blank
import SwitchThermal.Text.Hexadecimal

/-!
# Registers through a helper program

Each access starts a program with the access as arguments; a read finds its value in the program's
output.

* `HelperBus.arguments` — the arguments of an access.
* `valueDigits?`, `parseOutput?` — the value in an output: the hexadecimal digits after the first `=
  0x` that has any, below 2³².
* `HelperRun` — how a start of the program ends.
* `HelperBus.bus` — the accesses as a handler, over anything that can run the program.
-/

set_option autoImplicit false

namespace SwitchThermal

open Text (Bytes)

/-! ## The value in an output -/

/-- The digits after the first `= 0x` that is followed by a digit. -/
def valueDigits? : List Char → Option (List Char)
  | [] => none
  | c :: rest =>
    match c, rest with
    | '=', ' ' :: '0' :: 'x' :: d :: r =>
      if Text.isHexDigit d then some ((d :: r).takeWhile Text.isHexDigit) else valueDigits? rest
    | _, _ => valueDigits? rest

/-- The value in an output of the helper. -/
def parseOutput? (output : String) : Option Nat :=
  (valueDigits? output.toList).bind fun ds =>
    if Text.hexValue ds < 4294967296 then some (Text.hexValue ds) else none

/-! ## Runs of the program -/

/-- How a start of the program ends. -/
inductive HelperRun where
  | notStarted (e : StreamFault)
  | ended (status : ExitStatus) (stdout stderr : Bytes)
  deriving DecidableEq, Repr

namespace HelperBus

/-- The name of the helper program, unless another one is set. -/
def standardProgram : String := "iorw"

/-- The variable that sets another helper program. -/
def programVariable : String := "IDG_IORW"

/-- The helper program, given the value of the variable. -/
def program (setting? : Option String) : String :=
  setting?.getD standardProgram

/-- The width of an access. -/
def accessWidth : RegisterQuery → Nat
  | .read _ _ width | .write _ _ width _ => width

/-- The arguments of an access. -/
def arguments : RegisterQuery → List String
  | .read base offset width =>
    ["-b", toString base, "-l" ++ toString width, "-o", toString offset, "-r"]
  | .write base offset width value =>
    ["-b", toString base, "-l" ++ toString width, "-o", toString offset, "-w", "-v",
     toString value]

/-- The output of a run that ended well. -/
def output (program : String) : HelperRun → Except AccessFault Bytes
  | .notStarted e => .error (.startHelper program e)
  | .ended status stdout stderr =>
    if status = .exited 0 then .ok stdout
    else .error (.helperFailed program status (Text.trimText (Text.decodeLossy stderr)))

/-- The value of a read. -/
def readValue (program : String) (r : HelperRun) : Except AccessFault Nat := do
  let stdout ← output program r
  let text := Text.decodeLossy stdout
  match parseOutput? text with
  | some value => .ok value
  | none => .error (.unexpectedOutput (Text.trimText text))

/-- The answer to an access, from the run of the program. -/
def answer (program : String) (r : HelperRun) : (q : RegisterQuery) → Except Fault q.Payload
  | .read base offset _ =>
    match readValue program r with
    | .ok value => .ok value
    | .error e => .error (.unreadableRegister base offset e)
  | .write base offset _ value =>
    match output program r with
    | .ok _ => .ok ()
    | .error e => .error (.unwritableRegister base offset value e)

/-- The registers behind a helper program; `start` runs it with arguments. -/
def bus {σ : Type} (program : String) (start : List String → σ → HelperRun × σ) :
    RegisterBus σ := fun q s =>
  match checkWidth (accessWidth q) with
  | .error e => .quiet (.error e) s
  | .ok () =>
    let (r, next) := start (arguments q) s
    ⟨answer program r q, [.helperStarted program (arguments q)], next⟩

end HelperBus

end SwitchThermal
