import Buildfile.Workspace.Programs
/-!
# The layout of a workspace

A workspace starts out with the directories that every system has, with its programs, and with the devices
that hold nothing or stand for what a process has open already.
-/

namespace Buildfile.Tree

/-- The directory that holds the programs. -/
def programDirectory : Text := lit "/usr/bin"

/-- The directories of a workspace. -/
def directories : List Text :=
  [lit "/usr/bin", lit "/usr/local/bin", lit "/usr/lib", lit "/usr/sbin", lit "/usr/share", lit "/boot", lit "/dev/pts",
   lit "/dev/shm", lit "/etc", lit "/home", lit "/media", lit "/mnt", lit "/opt", lit "/proc", lit "/root", lit "/run",
   lit "/srv", lit "/sys", lit "/tmp", lit "/var/tmp"]

/-- The links to other directories. -/
def links : List (Text × Text) :=
  [(lit "/bin", lit "usr/bin"), (lit "/lib", lit "usr/lib"), (lit "/sbin", lit "usr/sbin")]

/-- The devices of a workspace. -/
def devices : List (Text × Device) :=
  [(lit "/dev/null", .null), (lit "/dev/zero", .zero), (lit "/dev/full", .full), (lit "/dev/stdin", .descriptor 0),
   (lit "/dev/stdout", .descriptor 1), (lit "/dev/stderr", .descriptor 2)] ++
  (List.range 10).map fun n => (lit "/dev/fd/" ++ Text.ofNat n, .descriptor n)

/-- The files of a workspace. -/
def files : List (Text × Text) :=
  [(lit "/etc/passwd", lit "root:x:0:0:root:/root:/bin/bash\n"), (lit "/etc/group", lit "root:x:0:\n")]

/-- The tree with all nodes changed long ago. -/
def aged (t : Tree) : Tree := { t with nodes := t.nodes.map fun n => { n with modified := 0 } }

/-- The tree that a workspace starts out with. -/
def standard : Tree :=
  let t : Tree := directories.foldl (fun t d => (t.installDirectory root d).1) {}
  let t := links.foldl (fun t l => t.install root l.1 { content := .link l.2, mode := 0o777 }) t
  let t := devices.foldl (fun t d => t.install root d.1 { content := .device d.2, mode := 0o666 }) t
  let t := files.foldl (fun t f => t.installFile root f.1 f.2) t
  let t := Programs.names.foldl
    (fun t p => t.install root (Path.join programDirectory p) { content := .program p, mode := 0o755 }) t
  let t := (t.setMode root (lit "/root") 0o700).toOption.getD t
  aged ([lit "/tmp", lit "/var/tmp"].foldl (fun t d => (t.setMode root d 0o1777).toOption.getD t) t)

end Buildfile.Tree
