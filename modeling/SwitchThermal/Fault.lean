import SwitchThermal.SystemError
import SwitchThermal.Text.Hexadecimal

/-!
# Faults

Why an access to the board fails, and how a fault is reported.

* `StreamFault` — why a file or a stream fails.
* `AccessFault` — why a register access fails.
* `Fault` — every failure of an accessor; `Fault.kind` sorts it into one of four status classes,
  `FaultKind.status` is the code of a class, `Fault.message` the text.
* `bind_eq_ok`, `bind_eq_error` — where a sequence of two accesses ends well, and where it fails.
-/

set_option autoImplicit false

namespace SwitchThermal

/-! ## Files and streams -/

/-- Why reading or writing a stream fails. -/
inductive StreamFault where
  | system (e : SystemError)
  /-- The path holds a character that no file name can hold. -/
  | nulInPath
  /-- The bytes are no well-formed text. -/
  | notText
  /-- The stream ends before the buffer is full. -/
  | short
  | other (text : String)
  deriving DecidableEq, Repr

def StreamFault.message : StreamFault → String
  | system e => e.message
  | nulInPath => "file name contained an unexpected NUL byte"
  | notText => "stream did not contain valid UTF-8"
  | short => "failed to fill whole buffer"
  | other text => text

/-! ## Registers -/

/-- How a process ended. -/
inductive ExitStatus where
  | exited (code : Nat)
  | killed
  deriving DecidableEq, Repr

def ExitStatus.message : ExitStatus → String
  | exited code => "exit status: " ++ toString code
  | killed => "signal: 9 (SIGKILL)"

/-- Why a register access fails. -/
inductive AccessFault where
  /-- The device file cannot be opened. -/
  | openDevice (path : String) (e : StreamFault)
  /-- The device file cannot be read. -/
  | readDevice (e : StreamFault)
  /-- The helper program cannot be started. -/
  | startHelper (program : String) (e : StreamFault)
  /-- The helper program reports failure. -/
  | helperFailed (program : String) (status : ExitStatus) (stderr : String)
  /-- The helper program's output holds no value. -/
  | unexpectedOutput (stdout : String)
  /-- A failure set up on purpose. -/
  | injected
  | other (text : String)
  deriving DecidableEq, Repr

def AccessFault.message : AccessFault → String
  | openDevice path e => "open " ++ path ++ ": " ++ e.message
  | readDevice e => "read: " ++ e.message
  | startHelper program e => "failed to execute " ++ program ++ ": " ++ e.message
  | helperFailed program status stderr =>
    program ++ " exited with " ++ status.message ++ ": " ++ stderr
  | unexpectedOutput stdout => "unexpected output '" ++ stdout ++ "'"
  | injected => "injected failure"
  | other text => text

/-! ## Faults -/

/-- The four status classes. -/
inductive FaultKind where
  /-- A bad entity number or a rejected value. -/
  | invalid
  /-- A capability that the entity lacks. -/
  | unsupported
  /-- A failure of a file, a text or a register. -/
  | internal
  /-- An actuator value out of range. -/
  | parameter
  deriving DecidableEq, Repr

namespace FaultKind

def status : FaultKind → Int
  | invalid => -3
  | unsupported => -10
  | internal => -20
  | parameter => -30

def name : FaultKind → String
  | invalid => "INVALID"
  | unsupported => "UNSUPPORTED"
  | internal => "INTERNAL"
  | parameter => "PARAM"

end FaultKind

/-- Why an access to the board fails. -/
inductive Fault where
  | stream (e : StreamFault)
  | unreadableFile (path : String) (e : StreamFault)
  | unwritableFile (path : String) (e : StreamFault)
  /-- The trimmed content of a file is not what the file should hold. -/
  | malformed (path : String) (content : String)
  | unreadableRegister (base offset : Nat) (e : AccessFault)
  | unwritableRegister (base offset value : Nat) (e : AccessFault)
  /-- Registers are one to four bytes wide. -/
  | registerWidth (width : Nat)
  | invalidEntity (what : String)
  | unsupported (what : String)
  | zeroPercentage (value : Nat)
  | percentageOutOfRange (value least greatest : Nat)
  | configuration (what : String)
  | internal (what : String)
  deriving DecidableEq, Repr

namespace Fault

def kind : Fault → FaultKind
  | invalidEntity _ | zeroPercentage _ => .invalid
  | unsupported _ => .unsupported
  | percentageOutOfRange .. => .parameter
  | stream _ | unreadableFile .. | unwritableFile .. | malformed .. | unreadableRegister ..
  | unwritableRegister .. | registerWidth _ | configuration _ | internal _ => .internal

def status (e : Fault) : Int :=
  e.kind.status

def message : Fault → String
  | stream e => "I/O error: " ++ e.message
  | unreadableFile path e => "Failed to read file " ++ path ++ ": " ++ e.message
  | unwritableFile path e => "Failed to write file " ++ path ++ ": " ++ e.message
  | malformed path content => "Failed to parse " ++ path ++ ": '" ++ content ++ "'"
  | unreadableRegister base offset e =>
    "Failed to read register " ++ Text.hexText base ++ "+" ++ Text.hexText offset ++ ": " ++
      e.message
  | unwritableRegister base offset value e =>
    "Failed to write register " ++ Text.hexText base ++ "+" ++ Text.hexText offset ++ " <- " ++
      Text.hexText value ++ ": " ++ e.message
  | registerWidth width => "unsupported register width " ++ toString width
  | invalidEntity what => "Invalid entity: " ++ what
  | unsupported what => "Unsupported operation: " ++ what
  | zeroPercentage value => "Invalid fan percentage: " ++ toString value
  | percentageOutOfRange value least greatest =>
    "Fan percentage " ++ toString value ++ " outside " ++ toString least ++ "..=" ++
      toString greatest
  | configuration what => "Configuration error: " ++ what
  | internal what => what

end Fault

/-! ## Sequences of two parts -/

section Sequences

variable {ε α β : Type} {x : Except ε α} {f : α → Except ε β}

/-- Both parts have come to an end. -/
theorem bind_eq_ok {y : β} (h : x >>= f = .ok y) : ∃ a, x = .ok a ∧ f a = .ok y := by
  cases x with
  | error e => cases h
  | ok a => exact ⟨a, rfl, h⟩

/-- One of them has failed. -/
theorem bind_eq_error {e : ε} (h : x >>= f = .error e) :
    x = .error e ∨ ∃ a, x = .ok a ∧ f a = .error e := by
  cases x with
  | error e' =>
    cases h
    exact .inl rfl
  | ok a => exact .inr ⟨a, rfl, h⟩

end Sequences

end SwitchThermal
