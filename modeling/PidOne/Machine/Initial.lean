import PidOne.Machine.Supervising

/-!
# The machine before a run

The tree of files and the processes that there are from the start.
-/

namespace PidOne.Machine

open Text (Bytes)

namespace Files

def bare : Files :=
  { files := #[
      { content := .directory [("proc", processes)] root, mode := 0o755, links := 3 },
      { content := .directory [] root, mode := 0o555, links := 2 }] }

def nodeAt (f : Files) (n : Node) : List Bytes → Node
  | [] => n
  | c :: rest => f.nodeAt ((f.child? n c).getD n) rest

def put (f : Files) (path : Bytes) (content : Content) (mode : Nat) : Files :=
  let names := components path
  (f.create (f.nodeAt root names.dropLast) (names.getLastD "") content mode 0).2

def putDirectory (f : Files) (path : Bytes) (mode : Nat := 0o755) : Files :=
  f.put path (.directory [] root) mode

def putText (f : Files) (path text : Bytes) : Files :=
  f.put path (.regular text text.length) 0o644

def directories : List Bytes :=
  ["/boot", "/dev", "/etc", "/home", "/media", "/mnt", "/opt", "/root", "/run", "/srv", "/sys",
    "/tmp", "/usr", "/var", "/dev/pts", "/dev/shm", "/usr/bin", "/usr/games", "/usr/include",
    "/usr/lib", "/usr/local", "/usr/sbin", "/usr/share", "/usr/src", "/usr/local/bin",
    "/usr/local/lib", "/usr/local/sbin", "/var/cache", "/var/lib", "/var/log", "/var/mail",
    "/var/tmp", "/run/lock", "/proc/sys", "/proc/sys/kernel"]

def links : List (Bytes × Bytes) :=
  [("/bin", "usr/bin"), ("/sbin", "usr/sbin"), ("/lib", "usr/lib"), ("/var/run", "/run"),
    ("/dev/fd", "/proc/self/fd"), ("/dev/stdin", "/proc/self/fd/0"),
    ("/dev/stdout", "/proc/self/fd/1"), ("/dev/stderr", "/proc/self/fd/2")]

def devices : List (Bytes × Device) :=
  [("/dev/null", .null), ("/dev/zero", .zero), ("/dev/full", .full), ("/dev/random", .random),
    ("/dev/urandom", .random), ("/dev/tty", .terminal), ("/proc/sys/kernel/ns_last_pid", .lastPid)]

def texts : List (Bytes × Bytes) :=
  [("/etc/passwd", "root:x:0:0:root:/root:/bin/bash\n" ++
      "daemon:x:1:1:daemon:/usr/sbin:/usr/sbin/nologin\n" ++
      "nobody:x:65534:65534:nobody:/nonexistent:/usr/sbin/nologin\n"),
    ("/etc/group", "root:x:0:\ndaemon:x:1:\nnogroup:x:65534:\n"),
    ("/etc/hostname", "localhost\n"), ("/etc/hosts", "127.0.0.1\tlocalhost\n"),
    ("/etc/shells", "# /etc/shells: valid login shells\n/bin/sh\n/usr/bin/sh\n"),
    ("/proc/uptime", "1000.00 1000.00\n"), ("/proc/loadavg", "0.00 0.00 0.00 1/100 1001\n"),
    ("/proc/version", "Linux version 6.1.0\n"), ("/proc/cpuinfo", "processor\t: 0\n"),
    ("/proc/meminfo", "MemTotal:       32768000 kB\n"), ("/proc/filesystems", "nodev\tproc\n"),
    ("/proc/mounts", "overlay / overlay rw 0 0\n")]

def system : Files :=
  let f := directories.foldl (fun f path =>
    let isShared := ["/tmp", "/var/tmp", "/dev/shm"].contains path
    f.putDirectory path (if isShared then 0o1777 else 0o755)) bare
  let f := links.foldl (fun f (path, target) => f.put path (.link target) 0o777) f
  let f := devices.foldl (fun f (path, device) => f.put path (.device device) 0o666) f
  let f := texts.foldl (fun f (path, text) => f.putText path text) f
  programs.foldl (fun f (name, _) => f.put ("/usr/bin/" ++ name) (.compiled name) 0o755) f

end Files

def scratchPath : Bytes := "/tmp/scratch"

/-- Microseconds from the beginning of 1970. -/
def startTime : Nat := 1700000000000000

def firstPid : Pid := 1
def outerPid : Pid := 999
def selfPid : Pid := 1000

/-- A machine with the given files in the directory in which commands run, whose supervising process
has been started by `outer` into a group of the same session. Files whose names begin with `x` can
be executed. The texts that commands write are kept in files without a name. -/
def initial (given : List (String × String)) (name : Bytes) (outer group : Pid)
    (environment : List Bytes) (subreaper : Bool) : Machine :=
  let (scratch, files) :=
    Files.system.create (Files.system.nodeAt Files.root ["tmp"]) "scratch"
      (.directory [] Files.root) 0o755 startTime
  let files := given.foldl (fun f (name, text) =>
    let text := Text.encode text
    (f.create scratch (Text.encode name) (.regular text text.length)
      (if name.startsWith "x" then 0o755 else 0o644) startTime).2) files
  let empty : File := { content := .regular "" 0, mode := 0o600, links := 0 }
  let (stdout, files) := files.add empty
  let (stderr, files) := files.add empty
  let null := files.nodeAt Files.root ["dev", "null"]
  let stranger (pid parent : Pid) (name : Bytes) : Process :=
    { pid, parent, group := pid, session := pid, name, arguments := [name], environment
      directory := scratch }
  let self : Process :=
    { stranger selfPid outer name with
      group, session := group
      holdings := [⟨0, 0, false⟩, ⟨1, 1, false⟩, ⟨2, 2, false⟩] }
  { clock := startTime, files
    opened := [
      { number := 0, channel := .file null, reads := true, writes := false },
      { number := 1, channel := .file stdout, reads := false, writes := true, appends := true },
      { number := 2, channel := .file stderr, reads := false, writes := true, appends := true }]
    nextNumber := 3
    processes := [stranger firstPid 0 "init"] ++
      (if outer = firstPid then [] else [stranger outer firstPid "outer"]) ++ [self]
    nextPid := selfPid + 1, self := selfPid, outer, subreaper, scratch, stdout, stderr }

def searchVariable : Bytes := "PATH=/usr/local/sbin:/usr/local/bin:/usr/sbin:/usr/bin:/sbin:/bin"

/-- A machine whose supervising process is already the adopter of its orphaned descendants. -/
def adopting (given : List (String × String)) : Machine :=
  initial given "supervisor" firstPid selfPid [searchVariable] true

/-- A machine whose supervising process adopts orphans only once it has asked to; till then the
process that has started it does. -/
def nested (given environment : List (String × String)) : Machine :=
  let entries := environment.map fun (name, value) =>
    Text.encode name ++ "=" ++ Text.encode value
  initial given "agent-init" outerPid outerPid (searchVariable :: entries) false

/-- What a file of the directory in which commands run holds, if it counts: directories count as
empty, and links as what they lead to. -/
def keptText? (m : Machine) (name : Bytes) : Option Bytes :=
  match m.get? m.self with
  | none => none
  | some self =>
    match find m { self with directory := m.scratch } name with
    | .ok (.node n) =>
      match (m.files.get n).content with
      | .regular .. => some (m.files.text n)
      | .directory .. => some ""
      | _ => none
    | _ => none

def changes (before after : Machine) : List (String × String) :=
  (after.files.entries after.scratch).filterMap fun (name, _) =>
    match keptText? after name with
    | none => none
    | some text =>
      let isOld := (before.files.child? before.scratch name).isSome
      if isOld && keptText? before name == some text then none
      else some (Text.decode name, Text.decode text)

def hasFile (m : Machine) (path : String) : Bool :=
  match m.get? m.self with
  | some self => (find m self (Text.encode path)).toOption.isSome
  | none => false

end PidOne.Machine
