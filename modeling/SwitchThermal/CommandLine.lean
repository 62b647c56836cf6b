import SwitchThermal.Text.Numeral

/-!
# The command line

Options take a value, attached by an equals sign or as the next argument; flags take none; each may
be given once. The value of an option is judged when the next known option or flag comes, or at the
end, so an unknown argument wins over a bad value before it.

* `Options` — what the command line asks for.
* `UsageError` — why a command line is refused, or what it asks for instead of a run.
* `CommandLine.parse` — the options of a list of arguments.
-/

set_option autoImplicit false

namespace SwitchThermal

/-- How the registers are reached. -/
inductive RegisterAccess where
  | port
  | helper
  | memory
  deriving DecidableEq, Repr

namespace RegisterAccess

def all : List RegisterAccess := [port, helper, memory]

/-- The word for a way on the command line. -/
def keyword : RegisterAccess → String
  | port => "devport"
  | helper => "iorw"
  | memory => "memory"

def ofKeyword? (s : String) : Option RegisterAccess :=
  all.find? fun a => a.keyword = s

end RegisterAccess

/-- What the command line asks for. -/
structure Options where
  /-- The root of the attribute tree. -/
  root : String := "/bsp"
  controlFile : String := "/usr/src/local/mlnx/idg4400/.thermal_algorithm_control"
  /-- Seconds from one period to the next. -/
  interval : Nat := 10
  registers : RegisterAccess := .port
  /-- Run one period only. -/
  once : Bool := false
  /-- Print the report of each period. -/
  json : Bool := false
  deriving DecidableEq, Repr

def Options.standard : Options := {}

/-- Why a command line is refused, or what it asks for instead of a run. -/
inductive UsageError where
  | unknownArgument
  /-- A value is missing, empty, or none of the words that are allowed. -/
  | invalidValue
  /-- A number is malformed or out of range. -/
  | valueValidation
  /-- An option or flag is repeated. -/
  | argumentConflict
  /-- A flag has a value attached. -/
  | tooManyValues
  | displayHelp
  | displayVersion
  deriving DecidableEq, Repr

namespace CommandLine

/-- The options that take a value. -/
inductive ValueOption where
  | root
  | controlFile
  | interval
  | registers
  deriving DecidableEq, Repr

/-- The flags. -/
inductive Flag where
  | once
  | json
  | help
  | version
  deriving DecidableEq, Repr

/-- What a long name stands for. -/
inductive Known where
  | option (o : ValueOption)
  | flag (f : Flag)
  deriving DecidableEq, Repr

/-- The long names. -/
def known? (name : String) : Option Known :=
  if name = "bsp-root" then some (.option .root)
  else if name = "config" then some (.option .controlFile)
  else if name = "interval-secs" then some (.option .interval)
  else if name = "register-access" then some (.option .registers)
  else if name = "once" then some (.flag .once)
  else if name = "json" then some (.flag .json)
  else if name = "help" then some (.flag .help)
  else if name = "version" then some (.flag .version)
  else none

/-- The flags with a short name. -/
def shortFlag? (c : Char) : Option Flag :=
  if c = 'h' then some .help else if c = 'V' then some .version else none

/-- An argument by its form. -/
inductive Argument where
  /-- Two dashes: no options follow. -/
  | separator
  | long (name : String) (value : Option String)
  | short (letters : List Char)
  | word (text : String)
  deriving DecidableEq, Repr

/-- The form of an argument. -/
def Argument.ofText (s : String) : Argument :=
  match s.toList with
  | ['-', '-'] => separator
  | '-' :: '-' :: r =>
    match r.dropWhile (· ≠ '=') with
    | [] => long (String.ofList r) none
    | _ :: v => long (String.ofList (r.takeWhile (· ≠ '='))) (some (String.ofList v))
  | '-' :: c :: r => short (c :: r)
  | _ => word s

structure State where
  options : Options := {}
  /-- The options that have been judged. -/
  seen : List ValueOption := []
  /-- The flags that have been given. -/
  flags : List Flag := []
  /-- An option whose value is still to come, or has come and is still to be judged. -/
  pending : Option (ValueOption × Option String) := none
  /-- Has the separator been passed? -/
  closed : Bool := false
  deriving DecidableEq, Repr

/-- The options with the value of one of them. -/
def assign (o : ValueOption) (value : String) (options : Options) : Except UsageError Options :=
  match o with
  | .root => if value = "" then .error .invalidValue else .ok { options with root := value }
  | .controlFile =>
    if value = "" then .error .invalidValue else .ok { options with controlFile := value }
  | .interval =>
    match Text.readNat 18446744073709551616 value.toList with
    | some n => if 1 ≤ n then .ok { options with interval := n } else .error .valueValidation
    | none => .error .valueValidation
  | .registers =>
    match RegisterAccess.ofKeyword? value with
    | some a => .ok { options with registers := a }
    | none => .error .invalidValue

/-- Judges an option: its value must have come, it must be the first use, and the value must be
valid. -/
def judge (s : State) (o : ValueOption) (value : Option String) : Except UsageError State :=
  match value with
  | none => .error .invalidValue
  | some v =>
    if o ∈ s.seen then .error .argumentConflict
    else (assign o v s.options).map fun options => { s with options, seen := o :: s.seen }

/-- Judges the pending option, if there is one. -/
def settle (s : State) : Except UsageError State :=
  match s.pending with
  | none => .ok s
  | some (o, value) => judge { s with pending := none } o value

def takeFlag (s : State) (f : Flag) : Except UsageError State := do
  let s ← settle s
  if f ∈ s.flags then .error .argumentConflict
  let s := { s with flags := f :: s.flags }
  match f with
  | .once => return { s with options := { s.options with once := true } }
  | .json => return { s with options := { s.options with json := true } }
  | .help => .error .displayHelp
  | .version => .error .displayVersion

/-- Takes the letters of a short argument in turn. -/
def takeLetters (s : State) : List Char → Except UsageError State
  | [] => .ok s
  | c :: rest =>
    match shortFlag? c with
    | none => .error .unknownArgument
    | some f =>
      match takeFlag s f with
      | .error e => .error e
      | .ok s => takeLetters s rest

/-- Takes a word: the value of an option that waits for one. -/
def takeWord (s : State) (text : String) : Except UsageError State :=
  match s.pending with
  | some (o, none) => .ok { s with pending := some (o, some text) }
  | _ => .error .unknownArgument

def take (s : State) (argument : String) : Except UsageError State :=
  if s.closed then .error .unknownArgument
  else
    match Argument.ofText argument with
    | .separator => .ok { s with closed := true }
    | .long name value =>
      match known? name, value with
      | none, _ => .error .unknownArgument
      | some (.flag _), some _ => .error .tooManyValues
      | some (.flag f), none => takeFlag s f
      | some (.option o), some v => do judge (← settle s) o (some v)
      | some (.option o), none => do return { ← settle s with pending := some (o, none) }
    | .short letters => takeLetters s letters
    | .word text => takeWord s text

/-- The options of a list of arguments. -/
def parse (arguments : List String) : Except UsageError Options := do
  let s ← arguments.foldlM take {}
  return (← settle s).options

def programName : String := "idg-thermald"

def versionText : String := programName ++ " 0.1.0"

end CommandLine

end SwitchThermal
