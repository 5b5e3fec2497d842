import SecureForward.CommandLine.Program
import SecureForward.Ssh.Session
import Std.Time.Format

/-!
# Entry point

Reads the environment and the files that the command line names, runs the program on them, and
writes back what it printed and changed. There is no network here: a host cannot be reached, so that
`open` fails as it does on a machine that is offline.
-/

namespace SecureForward.Main

/-- The environment variables that the settings are read from. -/
def variableNames : List String :=
  ["GRAPHTUNNEL_CONNECT_TIMEOUT_MS", "GRAPHTUNNEL_LOCAL_HOST", "GRAPHTUNNEL_LOCAL_BIND_PORT",
    "GRAPHTUNNEL_KNOWN_HOSTS_FILE", "GRAPHTUNNEL_ACCEPT_NEW_HOSTS", "LOG_LEVEL", "LOG_FILE"]

/-- The environment variables that are set. -/
def environment : IO (List (String × String)) :=
  variableNames.filterMapM fun name => do
    return (← IO.getEnv name).map fun value => (name, value)

/-- What stands at a path on this machine, and the rights to it that the user lacks. -/
def nodeAt? (path : Path) : IO (Option (Node × List Right)) := do
  let place := (← IO.currentDir) / toString path
  if ← place.isDir then return some (.directory, [])
  if !(← place.pathExists) then return none
  let content? ← try some <$> IO.FS.readBinFile place catch _ => pure none
  let isWritable ← try discard <| IO.FS.Handle.mk place .readWrite; pure true catch _ => pure false
  let unread := if content?.isSome then [] else [.read]
  let unwritten := if isWritable then [] else [.write]
  return some (.file ((content?.map (·.toList)).getD []), unread ++ unwritten)

/-- The tree with what stands at a path and above it. -/
def load (tree : FileTree) (path : Path) : IO FileTree := do
  let mut tree := tree
  for depth in List.range (path.names.length + 1) do
    let above : Path := { path with names := path.names.take depth }
    if depth ≠ 0 then
      if let some (node, lacking) ← nodeAt? above then
        let withheld := lacking.map fun right => (above.names, right)
        tree := { tree.insert above node with withheld := withheld ++ tree.withheld }
  return tree

/-- The texts that may name files: those of the settings, the arguments, and the values attached to
them. -/
def fileNames (settings : Settings) (arguments : List String) : List String :=
  let attached := arguments.filterMap fun text => (CommandLine.cutValue text).2
  settings.knownHostsFile :: settings.logFile :: (arguments ++ attached)

/-- The paths that a text may lead to: it may be taken from the home directory or not, and it may
name a log, of which there are copies. -/
def pathsOf (place : Place) (text : String) : List Path :=
  let path := Path.resolve place.current.toList [] text.toList
  (place.resolve? text).toList ++ (List.range (Log.keptFiles + 1)).map (Log.copyPath path)

/-- The network of a machine that is offline. -/
def offline : Network :=
  { fault? := fun
      | .dial => some (.outside .system "[Errno 101] Network is unreachable")
      | _ => none
    keyTypes := []
    hostKey := .ed25519 (List.replicate 32 0) rfl
    isAuthenticated := false
    isActive := false
    localPort := 0 }

/-- How the program is used. -/
def usage : String :=
  "usage: graphtunnel [-h] open|check --ssh-host HOST[:PORT] --ssh-user USER " ++
    "--private-key FILE [--passphrase TEXT] [--known-hosts FILE] " ++
    "[--no-strict-host-key-checking] --target-host HOST --target-port PORT [--accept-new-hosts]"

/-- Takes away the files that are gone and writes back those that changed. -/
def store (before after : FileTree) : IO Unit := do
  for (names, _) in before.entries do
    if (after.node? names).isNone then
      IO.FS.removeFile (toString { Path.root with names })
  for (names, node) in after.entries do
    if before.node? names ≠ some node then
      if let .file content := node then
        IO.FS.writeBinFile (toString { Path.root with names }) ⟨content.toArray⟩

/-- Runs the program on this machine. -/
def run (settings : Settings) (machine : Machine) (arguments : List String) : IO UInt32 := do
  let watch : Watch := { installFault := none, printFault := none, waits := [] }
  let start : Desk Ssh :=
    { site := { machine, peer := Ssh.idle offline }, output := [] }
  let (outcome, after) := Desk.run Transport.ssh settings watch arguments start
  store machine.files after.site.machine.files
  for line in after.output do IO.println line
  for line in after.site.machine.consoleLines do IO.eprintln line
  match outcome with
  | .ok (.usage code) =>
    IO.println usage
    return .ofNat code.toNat
  | .ok (.refused program e) =>
    IO.eprintln usage
    IO.eprintln s!"{program}: error: {e.message}"
    return 2
  | .ok (.exit code) => return .ofNat code.toNat
  | .error fault =>
    IO.eprintln s!"{CommandLine.programName}: {fault.message}"
    return 1

end SecureForward.Main

open SecureForward in
/-- Runs the program with the arguments of the command line. -/
def main (arguments : List String) : IO UInt32 := do
  match Settings.ofEnvironment (← Main.environment) with
  | .error fault =>
    IO.eprintln s!"{CommandLine.programName}: {fault.message}"
    return 1
  | .ok settings =>
    let current := toString (← IO.currentDir)
    let place : Place := { home := (← IO.getEnv "HOME").getD "/", current }
    let mut files := FileTree.empty
    for name in Main.fileNames settings arguments do
      for path in Main.pathsOf place name do
        files ← Main.load files path
    let salts := [(← IO.getRandomBytes (.ofNat Digest.sha1Size)).toList]
    let now ← Std.Time.PlainDateTime.now
    let machine : Machine :=
      { place, files, salts, clock := now.format "uuuu-MM-dd HH:mm:ss", log := [], console := none,
        consoleLines := [], logFile := none }
    Main.run settings machine arguments
