import Graft.Shell.State

/-!
# Accounts

The users and groups that every system knows.
-/
namespace Graft.Shell

structure Account where
  name : String
  id : Nat
  group : Nat
  note : String
  home : String
  program : String

namespace Account

private def closed : String := "/usr/sbin/nologin"

/-- The users of a system. -/
def all : List Account :=
  [⟨"root", 0, 0, "root", "/root", "/bin/bash"⟩,
    ⟨"daemon", 1, 1, "daemon", "/usr/sbin", closed⟩,
    ⟨"bin", 2, 2, "bin", "/bin", closed⟩,
    ⟨"sys", 3, 3, "sys", "/dev", closed⟩,
    ⟨"sync", 4, 65534, "sync", "/bin", "/bin/sync"⟩,
    ⟨"games", 5, 60, "games", "/usr/games", closed⟩,
    ⟨"man", 6, 12, "man", "/var/cache/man", closed⟩,
    ⟨"lp", 7, 7, "lp", "/var/spool/lpd", closed⟩,
    ⟨"mail", 8, 8, "mail", "/var/mail", closed⟩,
    ⟨"news", 9, 9, "news", "/var/spool/news", closed⟩,
    ⟨"uucp", 10, 10, "uucp", "/var/spool/uucp", closed⟩,
    ⟨"proxy", 13, 13, "proxy", "/bin", closed⟩,
    ⟨"www-data", 33, 33, "www-data", "/var/www", closed⟩,
    ⟨"backup", 34, 34, "backup", "/var/backups", closed⟩,
    ⟨"list", 38, 38, "Mailing List Manager", "/var/list", closed⟩,
    ⟨"irc", 39, 39, "ircd", "/run/ircd", closed⟩,
    ⟨"_apt", 42, 65534, "", "/nonexistent", closed⟩,
    ⟨"nobody", 65534, 65534, "nobody", "/nonexistent", closed⟩]

/-- The groups of a system, with their numbers. -/
def groups : List (String × Nat) :=
  [("root", 0), ("daemon", 1), ("bin", 2), ("sys", 3), ("adm", 4), ("tty", 5), ("disk", 6),
    ("lp", 7), ("mail", 8), ("news", 9), ("uucp", 10), ("man", 12), ("proxy", 13),
    ("kmem", 15), ("dialout", 20), ("fax", 21), ("voice", 22), ("cdrom", 24), ("floppy", 25),
    ("tape", 26), ("sudo", 27), ("audio", 29), ("dip", 30), ("www-data", 33), ("backup", 34),
    ("operator", 37), ("list", 38), ("irc", 39), ("src", 40), ("shadow", 42), ("utmp", 43),
    ("video", 44), ("sasl", 45), ("plugdev", 46), ("staff", 50), ("games", 60), ("users", 100),
    ("nogroup", 65534)]

def byName? (name : Bytes) : Option Account := all.find? (·.name == String.ofList name)

/-- The name of a user, if there is one. -/
def nameOf? (id : Nat) : Option String := (all.find? (·.id == id)).map (·.name)

/-- The name of a group, if there is one. -/
def groupNameOf? (id : Nat) : Option String := (groups.find? (·.2 == id)).map (·.1)

/-- The line of a user in the list of all users. -/
def line (a : Account) : String :=
  ":".intercalate [a.name, "x", toString a.id, toString a.group, a.note, a.home, a.program] ++ "\n"

/-- The list of all users, one on each line. -/
def listing : String := String.join (all.map line)

/-- The list of all groups, one on each line. -/
def groupListing : String :=
  String.join (groups.map fun (name, n) => name ++ ":x:" ++ toString n ++ ":\n")

end Account

end Graft.Shell
