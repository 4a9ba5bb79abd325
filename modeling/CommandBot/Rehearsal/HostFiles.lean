/-
**The files of a host.**

A host that a rehearsal plays on has the files that every host has: the directories below the root,
the devices, the list of users and the usual programs.

* `CommandBot.Rehearsal.HostFiles.entries` — the entries with their paths;
* `CommandBot.Rehearsal.HostFiles.standard` — **the files of a host**, as a program finds them that
  works in a directory of its own.
-/

import CommandBot.FileTree

set_option relaxedAutoImplicit false
set_option autoImplicit false

namespace CommandBot.Rehearsal.HostFiles

/-! ### Directories and links -/

/-- The directories. -/
def directories : List String := [
  "/boot", "/dev", "/dev/fd", "/dev/mqueue", "/dev/pts", "/dev/shm", "/etc", "/home", "/media", "/mnt",
  "/opt", "/proc", "/root", "/run", "/srv", "/sys", "/tmp", "/usr", "/usr/bin", "/usr/games",
  "/usr/include", "/usr/lib", "/usr/lib64", "/usr/libexec", "/usr/local", "/usr/local/bin",
  "/usr/local/lib", "/usr/local/sbin", "/usr/sbin", "/usr/share", "/usr/src", "/var", "/var/cache",
  "/var/lib", "/var/log", "/var/spool", "/var/tmp"]

/-- The links with their targets. -/
def links : List (String × String) := [
  ("/bin", "usr/bin"),
  ("/lib", "usr/lib"),
  ("/lib64", "usr/lib64"),
  ("/sbin", "usr/sbin"),
  ("/var/run", "/run"),
  ("/usr/bin/sh", "dash")]

/-! ### Devices -/

/-- The devices. -/
def devices : List (String × FileTree.Device) := [
  ("/dev/null", .null),
  ("/dev/zero", .zero),
  ("/dev/full", .full),
  ("/dev/random", .zero),
  ("/dev/urandom", .zero),
  ("/dev/tty", .terminal),
  ("/dev/ptmx", .terminal),
  ("/dev/stdin", .descriptor 0),
  ("/dev/stdout", .descriptor 1),
  ("/dev/stderr", .descriptor 2)]

/-- The descriptors of a program as devices. -/
def descriptors : List (String × FileTree.Device) :=
  (List.range 10).map fun n => ("/dev/fd/" ++ n.repr, .descriptor n)

/-! ### Users -/

/-- The users with their numbers and homes; all but the first cannot work at the host. -/
def users : List (String × Nat × String) := [
  ("daemon", 1, "/usr/sbin"),
  ("bin", 2, "/bin"),
  ("sys", 3, "/dev"),
  ("games", 5, "/usr/games"),
  ("man", 6, "/var/cache/man"),
  ("lp", 7, "/var/spool/lpd"),
  ("mail", 8, "/var/mail"),
  ("news", 9, "/var/spool/news"),
  ("uucp", 10, "/var/spool/uucp"),
  ("proxy", 13, "/bin"),
  ("www-data", 33, "/var/www"),
  ("backup", 34, "/var/backups"),
  ("list", 38, "/var/list"),
  ("irc", 39, "/run/ircd"),
  ("_apt", 42, "/nonexistent"),
  ("nobody", 65534, "/nonexistent")]

/-- The line of a user in the list of users. -/
def userLine (name : String) (number : Nat) (home : String) : String :=
  name ++ ":x:" ++ number.repr ++ ":" ++ number.repr ++ ":" ++ name ++ ":" ++ home ++
    ":/usr/sbin/nologin\n"

/-- The list of users. -/
def userList : String :=
  "root:x:0:0:root:/root:/bin/bash\n" ++
    String.join (users.map fun (name, number, home) => userLine name number home)

/-! ### Programs -/

/-- The usual programs. -/
def programs : List String := [
  "[", "apt", "arch", "awk", "base32", "base64", "basename", "bash", "cat", "chgrp", "chmod", "chown",
  "cksum", "clear", "cmp", "comm", "cp", "csplit", "cut", "dash", "date", "dd", "df", "diff", "dir",
  "dirname", "du", "echo", "egrep", "env", "expand", "expr", "factor", "false", "fgrep", "find", "fmt",
  "fold", "free", "getconf", "grep", "groups", "gunzip", "gzip", "head", "hostname", "id", "install",
  "join", "kill", "ldd", "link", "ln", "ls", "lsblk", "md5sum", "mkdir", "mkfifo", "mknod", "mktemp",
  "more", "mount", "mv", "nice", "nl", "nohup", "nproc", "numfmt", "od", "passwd", "paste", "perl",
  "pgrep", "pinky", "pkill", "pr", "printenv", "printf", "ps", "pwd", "readlink", "realpath", "rev",
  "rm", "rmdir", "sed", "seq", "sha1sum", "sha256sum", "sha512sum", "shred", "shuf", "sleep", "sort",
  "split", "stat", "stdbuf", "stty", "su", "sum", "sync", "tac", "tail", "tar", "tee", "test",
  "timeout", "touch", "tr", "true", "truncate", "tsort", "tty", "umount", "uname", "unexpand", "uniq",
  "unlink", "uptime", "users", "vdir", "wc", "which", "who", "whoami", "xargs", "yes", "zcat"]

/-! ### All files -/

/-- The bytes of a text. -/
def file (text : String) : FileTree.Entry := .file (Text.Utf8.bytes text.toList)

/-- **The entries with their paths.** -/
def entries : List (String × FileTree.Entry) :=
  (directories.map fun path => (path, .directory)) ++
  (links.map fun (path, target) => (path, .link (.ofText target.toList))) ++
  ((devices ++ descriptors).map fun (path, device) => (path, .device device)) ++
  [("/etc/passwd", file userList), ("/etc/hostname", file "localhost\n")] ++
  (programs.map fun name => ("/usr/bin/" ++ name, .program))

/-- The place of a path from the root on. -/
def place (path : String) : FileTree.Place :=
  (FileTree.parts (Octets.ofText path.toList)).foldl FileTree.stepTo []

/-- **The files of a host**, as a program finds them that works in a directory of its own. -/
def standard : FileTree :=
  { FileTree.empty with entries := entries.map fun (path, entry) => (place path, ⟨entry, 0⟩) }

end CommandBot.Rehearsal.HostFiles
