import SwitchThermal.Fault
import SwitchThermal.Runs
import SwitchThermal.Text.Split

/-!
# File trees

Files and directories by path, with the faults that the operating system reports.

* `TreePath` — a path as text and as the names in it; `TreePath.child` goes down from a path.
* `FileTree` — a directory tree; the place without names is its root.
* `FileTree.follow`, `FileTree.walk` — where names lead; a name must lead on from a directory and
  must not be too long.
* `FileTree.locate`, `FileTree.locateNew` — where a path leads, and where a file can be made.
* `FileTree.readBytes`, `FileTree.readText`, `FileTree.write` — whole files.
* `FileTree.put`, `FileTree.makeDirectory`, `FileTree.remove` — changes without faults, for setting
  a tree up.
-/

set_option autoImplicit false

namespace SwitchThermal

open Text (Bytes)

/-! ## Paths -/

/-- A path as written, and the names in it. -/
structure TreePath where
  text : String
  names : List String
  deriving DecidableEq, Repr

namespace TreePath

/-- The path that a text writes. The empty text has no names and leads nowhere. -/
def ofText (text : String) : TreePath :=
  ⟨text, if text = "" then [] else (Text.split '/' text.toList).map String.ofList⟩

/-- Two texts with one slash between them. -/
def joinText (root tail : String) : String :=
  if root = "" ∨ root.toList.getLast? = some '/' then root ++ tail else root ++ "/" ++ tail

/-- The path down from a path by the given names. -/
def child (p : TreePath) (names : List String) : TreePath :=
  ⟨joinText p.text ("/".intercalate names), p.names ++ names⟩

/-- A path written relative to another one; one that starts with a slash stands for itself. -/
def join (root : TreePath) (text : String) : TreePath :=
  if text.toList.head? = some '/' then ofText text
  else ⟨joinText root.text text, root.names ++ (ofText text).names⟩

end TreePath

/-! ## Trees -/

/-- What stands at a place. -/
inductive Node where
  | directory
  /-- A file; is it marked as a program? -/
  | file (content : Runs) (executable : Bool)
  /-- The helper program. What it does is not in the tree. -/
  | program
  deriving DecidableEq, Repr

/-- The names from the root down. -/
abbrev Place := List String

/-- A directory tree. Of two nodes at one place the first counts. -/
structure FileTree where
  nodes : List (Place × Node)
  deriving DecidableEq, Repr

namespace FileTree

/-- The tree with an empty root directory. -/
def empty : FileTree := ⟨[]⟩

/-- The node at a place. -/
def node? (t : FileTree) (p : Place) : Option Node :=
  if p = [] then some .directory else t.nodes.lookup p

/-- The tree with the node at a place replaced. -/
def setNode (t : FileTree) (p : Place) (n : Node) : FileTree :=
  ⟨(p, n) :: t.nodes.filter fun e => e.1 ≠ p⟩

/-! ## Following paths -/

/-- The greatest length of a name, in bytes. -/
def nameBound : Nat := 255

/-- The length in bytes that a path must stay below. -/
def pathBound : Nat := 4096

/-- The place that one name leads to. It must lead on from a directory; the empty name and one dot
stay there, two dots go up. -/
def follow (t : FileTree) (here : Place) (name : String) : Except SystemError Place :=
  match t.node? here with
  | none => .error .notFound
  | some .directory =>
    if name = "" ∨ name = "." then .ok here
    else if name = ".." then .ok here.dropLast
    else if nameBound < name.utf8ByteSize then .error .nameTooLong
    else .ok (here ++ [name])
  | some _ => .error .notADirectory

/-- The place that names lead to. -/
def walk (t : FileTree) : Place → List String → Except SystemError Place
  | here, [] => .ok here
  | here, name :: rest =>
    match t.follow here name with
    | .error e => .error e
    | .ok p => walk t p rest

/-- The names of a path that can be looked up at all. -/
def usableNames (path : TreePath) : Except StreamFault (List String) :=
  if '\x00' ∈ path.text.toList then .error .nulInPath
  else if path.names = [] then .error (.system .notFound)
  else if pathBound ≤ path.text.utf8ByteSize then .error (.system .nameTooLong)
  else .ok path.names

/-- The place that a path leads to. -/
def locate (t : FileTree) (path : TreePath) : Except StreamFault Place :=
  match usableNames path with
  | .error e => .error e
  | .ok names =>
    match t.walk [] names with
    | .error e => .error (.system e)
    | .ok p => .ok p

/-- The node that a path leads to. -/
def look (t : FileTree) (path : TreePath) : Except StreamFault Node :=
  match t.locate path with
  | .error e => .error e
  | .ok p =>
    match t.node? p with
    | none => .error (.system .notFound)
    | some n => .ok n

/-! ## Whole files -/

/-- The bytes of a file. -/
def readBytes (t : FileTree) (path : TreePath) : Except StreamFault Bytes :=
  match t.look path with
  | .error e => .error e
  | .ok .directory => .error (.system .isADirectory)
  | .ok (.file content _) => .ok content.toBytes
  | .ok .program => .ok []

def readText (t : FileTree) (path : TreePath) : Except StreamFault String :=
  match t.readBytes path with
  | .error e => .error e
  | .ok bytes =>
    match Text.decode? bytes with
    | some s => .ok s
    | none => .error .notText

/-- Names without the empty ones at their end. -/
def withoutSlashes (names : List String) : List String :=
  (names.reverse.dropWhile (· = "")).reverse

/-- Is the last name one that goes to a place of its own, not a dot, two dots or nothing? -/
def endsInName (names : List String) : Bool :=
  match names.getLast? with
  | none => false
  | some name => name ≠ "" && name ≠ "." && name ≠ ".."

/-- Does a slash follow the last name? A file that is to be made cannot be named like that. -/
def namesDirectory (names : List String) : Bool :=
  names.getLast? = some "" && endsInName (withoutSlashes names)

/-- The place of a file that may have to be made. With a slash after its name there is no such place
once the way to it has been found. -/
def locateNew (t : FileTree) (path : TreePath) : Except StreamFault Place :=
  match usableNames path with
  | .error e => .error e
  | .ok names =>
    if namesDirectory names then
      match t.walk [] ((withoutSlashes names).dropLast ++ [""]) with
      | .error e => .error (.system e)
      | .ok _ => .error (.system .isADirectory)
    else t.locate path

/-- The tree with a file replaced, or made if its directory exists. -/
def write (t : FileTree) (path : TreePath) (content : Runs) : Except StreamFault FileTree :=
  match t.locateNew path with
  | .error e => .error e
  | .ok p =>
    match t.node? p with
    | some .directory => .error (.system .isADirectory)
    | some (.file _ executable) => .ok (t.setNode p (.file content executable))
    | some .program => .ok (t.setNode p (.file content true))
    | none => .ok (t.setNode p (.file content false))

/-! ## Setting up -/

/-- The tree with a directory made at a place, unless something is there. -/
def makeNode (t : FileTree) (p : Place) : FileTree :=
  match t.node? p with
  | none => t.setNode p .directory
  | some _ => t

/-- The tree with directories made wherever names lead, as far as they lead. -/
def makeWay (t : FileTree) : Place → List String → FileTree
  | _, [] => t
  | here, name :: rest =>
    match t.follow here name with
    | .error _ => t
    | .ok p => makeWay (t.makeNode p) p rest

/-- The tree with a directory made, and those above it. -/
def makeDirectory (t : FileTree) (path : TreePath) : FileTree :=
  t.makeWay [] path.names

/-- The tree with a file written, and the directories above it made. -/
def put (t : FileTree) (path : TreePath) (content : Runs) : FileTree :=
  let t := t.makeWay [] path.names.dropLast
  match t.write path content with
  | .ok t => t
  | .error _ => t

/-- The tree with the helper program made. -/
def putProgram (t : FileTree) (path : TreePath) : FileTree :=
  let t := t.makeWay [] path.names.dropLast
  match t.locate path with
  | .ok p => t.setNode p .program
  | .error _ => t

/-- The tree without what a path leads to and all below it. A directory that is named by dots stays,
but empty. -/
def remove (t : FileTree) (path : TreePath) : FileTree :=
  match t.locate path with
  | .error _ => t
  | .ok p =>
    if endsInName (withoutSlashes path.names) then
      ⟨t.nodes.filter fun e => !p.isPrefixOf e.1⟩
    else ⟨t.nodes.filter fun e => e.1 = p || !p.isPrefixOf e.1⟩

/-- The tree without a path, if it names a file. -/
def removeFile (t : FileTree) (path : TreePath) : FileTree :=
  match t.look path with
  | .ok .directory | .error _ => t
  | .ok _ => t.remove path

/-! ## One node at a time -/

theorem lookup_filter_ne {κ α : Type} [BEq κ] [LawfulBEq κ] [DecidableEq κ] {p q : κ}
    (entries : List (κ × α)) (h : q ≠ p) :
    (entries.filter fun e => e.1 ≠ p).lookup q = entries.lookup q := by
  induction entries with
  | nil => rfl
  | cons e rest ih =>
    obtain ⟨r, n⟩ := e
    by_cases hr : r = p
    · subst hr
      have hq : (q == r) = false := by simp [h]
      simpa [List.lookup_cons, hq] using ih
    · simp only [ne_eq, decide_not] at ih ⊢
      simp [hr, List.lookup_cons, ih]

theorem node?_setNode {t : FileTree} {p q : Place} (n : Node) (hp : p ≠ []) :
    (t.setNode p n).node? q = if q = p then some n else t.node? q := by
  by_cases hq : q = p
  · subst hq
    simp [node?, setNode, hp]
  · by_cases he : q = []
    · simp [node?, he, Ne.symm hp]
    · have hb : (q == p) = false := by simp [hq]
      simp only [node?, he, if_false, setNode, List.lookup_cons, hb, hq]
      exact lookup_filter_ne t.nodes hq

end FileTree

end SwitchThermal
