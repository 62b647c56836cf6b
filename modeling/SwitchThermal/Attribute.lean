import SwitchThermal.Control.Settings
import SwitchThermal.FileTree
import SwitchThermal.Notice
import SwitchThermal.Text.Blank
import SwitchThermal.Text.Numeral

/-!
# Attribute files

The board shows itself as small files, each with one integer or one word.

* `Attribute.readText`, `Attribute.readInt` — the text of a file, and the integer in it: blanks at
  both ends, an optional sign, decimal digits, in the signed 32-bit range.
* `Attribute.writeText` — replaces the content of a file.
* `Attribute.readSettings` — the control file as settings.
* `CpldVersions` — the revisions of the three CPLDs.
-/

set_option autoImplicit false

namespace SwitchThermal

namespace Attribute

def readText (t : FileTree) (path : TreePath) : Except Fault String :=
  match t.readText path with
  | .ok s => .ok s
  | .error e => .error (.unreadableFile path.text e)

/-- The integer that the text of an attribute holds. -/
def parseInt (path content : String) : Except Fault Int :=
  match Text.readInt32 (Text.trim content.toList) with
  | some n => .ok n
  | none => .error (.malformed path (Text.trimText content))

def readInt (t : FileTree) (path : TreePath) : Except Fault Int :=
  match readText t path with
  | .ok content => parseInt path.text content
  | .error e => .error e

/-- The tree with the content of a file replaced. -/
def writeText (t : FileTree) (path : TreePath) (value : String) : Except Fault FileTree :=
  match t.write path (Runs.ofBytes (Text.encode value)) with
  | .ok t => .ok t
  | .error e => .error (.unwritableFile path.text e)

/-- The settings of a control file. -/
def readSettings (t : FileTree) (path : TreePath) : Except Fault Settings :=
  (readText t path).map Settings.parse

end Attribute

/-- The revisions of the three CPLDs. -/
structure CpldVersions where
  board : Int
  management : Int
  port : Int
  deriving DecidableEq, Repr

namespace CpldVersions

/-- The revisions that a tree shows below a root. -/
def read (t : FileTree) (root : TreePath) : Except Fault CpldVersions := do
  let board ← Attribute.readInt t (root.child ["cpld", "cpld_brd_version"])
  let management ← Attribute.readInt t (root.child ["cpld", "cpld_mgmt_version"])
  let port ← Attribute.readInt t (root.child ["cpld", "cpld_port_version"])
  return ⟨board, management, port⟩

/-- The revisions as text. -/
def text (v : CpldVersions) : String :=
  "brd=" ++ toString v.board ++ ", mgmt=" ++ toString v.management ++ ", port=" ++ toString v.port

end CpldVersions

/-! ## Names of the board -/

/-- The name of the board in the network operating system. -/
def boardName : String := "x86-64-mlnx-idg4400-r0"

/-- The name of the board in the installer. -/
def installerName : String := "x86_64-mlnx_idg4400-r0"

/-- The operating system's name for an installer's name. -/
def boardName? (installer : String) : Option String :=
  if installer = installerName then some boardName else none

end SwitchThermal
