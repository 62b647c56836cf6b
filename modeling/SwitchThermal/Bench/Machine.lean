import SwitchThermal.FileTree

/-!
# The machine around a bench

* `machine` — the file tree that a bench is set up in: the directories that every machine has, and
  the null device as an empty file.
-/

set_option autoImplicit false

namespace SwitchThermal.Bench

/-- The directories that every machine has. -/
def standardDirectories : List String :=
  ["/bin", "/boot", "/dev", "/etc", "/home", "/lib", "/media", "/mnt", "/opt", "/proc", "/root",
   "/run", "/sbin", "/srv", "/sys", "/tmp", "/usr", "/var", "/dev/shm", "/usr/bin", "/usr/lib",
   "/usr/local", "/usr/sbin", "/usr/share", "/var/lib", "/var/log", "/var/tmp"]

/-- The file tree of a machine before a bench is set up in it. -/
def machine : FileTree :=
  let t := standardDirectories.foldl
    (fun (t : FileTree) d => t.makeDirectory (.ofText d)) FileTree.empty
  t.put (.ofText "/dev/null") []

end SwitchThermal.Bench
