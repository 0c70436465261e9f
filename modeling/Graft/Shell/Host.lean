import Graft.Shell.Account

/-!
# Hosts

A process sees the disk together with the directories and programs of the system, which are always
the same. They are no part of the disk that a run leaves behind.
-/
namespace Graft.Shell.Host

private def location (path : String) : Location := (Bytes.split '/' path.toList).filter (!·.isEmpty)

private def directories : List String :=
  ["/usr", "/usr/bin", "/usr/sbin", "/usr/lib", "/usr/share", "/usr/include", "/usr/local",
    "/usr/local/bin", "/usr/local/sbin", "/usr/local/lib", "/etc", "/tmp", "/var", "/var/tmp",
    "/var/log", "/var/lib", "/home", "/root", "/dev", "/proc", "/sys", "/opt", "/mnt", "/media",
    "/run", "/srv", "/boot"]

private def links : List (String × String) :=
  [("/bin", "usr/bin"), ("/sbin", "usr/sbin"), ("/lib", "usr/lib"), ("/lib64", "usr/lib64"),
    ("/usr/bin/sh", "dash")]

private def files : List (String × String) :=
  [("/etc/passwd", Account.listing), ("/etc/group", Account.groupListing),
    ("/etc/hostname", "localhost\n"),
    ("/etc/hosts", "127.0.0.1\tlocalhost\n")]

/-- The directories, links and files of a system with the given programs. -/
def system (programs : List Text) : List (Location × Disk.Item) :=
  directories.map (fun p => (location p, .directory)) ++
    links.map (fun (p, target) => (location p, .link target.toList)) ++
    files.map (fun (p, t) => (location p, .file (.text t.toList) false)) ++
    programs.map fun p => (location "/usr/bin" ++ [p], .file (.raw []) true)

/-- The disk with what the system has in addition. -/
def attach (programs : List Text) (d : Disk) : Disk :=
  ⟨d.entries ++ (system programs).filter fun e => !d.entries.any (·.1 == e.1)⟩

/-- The disk without what the system had in addition to the disk before. -/
def detach (programs : List Text) (before after : Disk) : Disk :=
  let added := (system programs).filter fun e => !before.entries.any (·.1 == e.1)
  ⟨after.entries.filter fun e => !added.contains e⟩

/-- The program of the system at a location. -/
def program? (programs : List Text) (l : Location) : Option Bytes :=
  match l with
  | [_, _, name] =>
    if l.dropLast == location "/usr/bin" && programs.contains name then some (.ofText name)
    else none
  | _ => none

end Graft.Shell.Host
