import SwitchThermal.Bench.Machine

/-!
# Starting programs

How the operating system finds a program of a file tree, and what keeps it from starting. The only
program that does anything is the helper; every other file fails one way or another.

* `Launch.interpreter?` — the interpreter that the first line of a text program names.
* `Launch.file` — the start of the file at a path.
* `Launch.first` — the start of the first of several files that can be started.
* `Launch.program` — the start of a program by its name: a path, or a name that is looked for in the
  directories of a search path.
-/

set_option autoImplicit false

namespace SwitchThermal.Bench.Launch

open Text (Bytes)

/-! ## Text programs -/

/-- The number of bytes at the start of a file that tell how to run it. -/
def headLength : Nat := 256

/-- Blanks around the name of an interpreter: spaces and tabs. -/
def isBlank (b : UInt8) : Bool :=
  b = 32 || b = 9

/-- The interpreter that a program names after `#!`. The name ends at a blank, at a zero byte or at
the end of the line. A line that ends must have a name. In a line that does not, the name must be
whole and must start before the last byte; there it may be empty. Past the end of a short file there
are zero bytes. -/
def interpreter? (content : Bytes) : Option Bytes :=
  match (content ++ List.replicate headLength 0).take headLength with
  | 35 :: 33 :: rest =>
    let line := rest.takeWhile fun b => b ≠ 0 && b ≠ 10
    let words := rest.dropWhile isBlank
    let name := words.takeWhile fun b => !isBlank b && b ≠ 0 && b ≠ 10
    let found :=
      if rest[line.length]? = some 10 then !name.isEmpty
      else 1 < words.length && name.length < words.length
    if found then some name else none
  | _ => none

/-- What keeps an interpreter from starting. The machine has none: a path leads nowhere, to a
directory or to a file that is no program. A name without a slash in front is relative to a
directory with nothing in it, which the empty name stands for. -/
def interpreterFault (name : Bytes) : StreamFault :=
  match Text.decode? name with
  | none => .system .notFound
  | some name =>
    let t := if name.toList.head? = some '/' then machine else .empty
    match t.look (.ofText (if name = "" then "." else name)) with
    | .error e => e
    | .ok _ => .system .permissionDenied

/-! ## Files -/

/-- Starts the file at a path, which must be the helper program. -/
def file (t : FileTree) (path : TreePath) : Except StreamFault Unit :=
  match t.look path with
  | .error e => .error e
  | .ok .directory | .ok (.file _ false) => .error (.system .permissionDenied)
  | .ok (.file content true) =>
    match interpreter? (content.take headLength).toBytes with
    | none => .error (.system .notExecutable)
    | some name => .error (interpreterFault name)
  | .ok .program => .ok ()

/-! ## The search path -/

/-- The errors after which a search goes on in the next directory. -/
def passedOver : List SystemError := [.permissionDenied, .notFound, .notADirectory]

/-- Starts the first file that can be started, given the error of those before. A file without
permission is remembered as the reason why nothing was started. -/
def first (t : FileTree) : SystemError → List TreePath → Except StreamFault Unit
  | reason, [] => .error (.system reason)
  | reason, path :: rest =>
    match file t path with
    | .error (.system e) =>
      if e ∈ passedOver then first t (if reason = .permissionDenied then reason else e) rest
      else .error (.system e)
    | r => r

/-- The directories of a search path, which are divided by colons. A directory that is too long for
any path is left out. -/
def directories (searchPath : String) : List String :=
  ((Text.split ':' searchPath.toList).map String.ofList).filter fun d =>
    d.utf8ByteSize < FileTree.pathBound

/-- A program in a directory. The empty directory is the one where one is. -/
def candidate (program directory : String) : TreePath :=
  .ofText (if directory = "" then program else directory ++ "/" ++ program)

/-- Starts a program. A name with a slash is a path; any other one is looked for in the directories
of the search path, if there is one. -/
def program (t : FileTree) (searchPath? : Option String) (program : String) :
    Except StreamFault Unit :=
  if '/' ∈ program.toList then file t (.ofText program)
  else
    match searchPath? with
    | none => .error (.system .notFound)
    | some searchPath =>
      if program = "" then .error (.system .notFound)
      else first t .notFound ((directories searchPath).map (candidate program))

end SwitchThermal.Bench.Launch
