import SecureForward.CommandLine.Help
import SecureForward.Log.Setup
import SecureForward.Tunnel.Basic

/-!
# The program

What the commands do. `open` opens a tunnel, prints its local address, waits for a signal and takes
the tunnel down on every way out. `check` goes through everything that can be checked without the
network. Both end with an exit code.
-/

namespace SecureForward

/-- What happens while the program waits. -/
inductive Wait where
  /-- Nothing. -/
  | quiet
  /-- A signal with this number arrives. -/
  | signal (number : Int)
  /-- The waiting itself fails. -/
  | fault (fault : Fault)
deriving DecidableEq

/-- What the program meets once its tunnel stands. -/
structure Watch where
  /-- The fault of asking for signals. -/
  installFault : Option Fault
  /-- The fault of printing. -/
  printFault : Option Fault
  /-- What happens while it waits; when nothing more does, it is asked to end. -/
  waits : List Wait
deriving DecidableEq

/-- The program at work. -/
structure Desk (ν : Type) where
  /-- The machine and the transport. -/
  site : Site ν
  /-- The lines on standard output, the first line first. -/
  output : List String

/-- The program at work with its tunnel. -/
structure Serving (ν : Type) where
  /-- The tunnel and where it is. -/
  session : Session ν
  /-- The lines on standard output, the first line first. -/
  output : List String

/-- How the program ends. -/
inductive Ending where
  /-- It shows how it is used and ends with this exit code. -/
  | usage (code : Int)
  /-- It refuses the command line. -/
  | refused (program : String) (e : CommandLine.UsageError)
  /-- It ends with this exit code. -/
  | exit (code : Int)

/-- The number of the signal that asks a program to end. -/
def terminationSignal : Int := 15

namespace Serving

variable {ν : Type}

/-- The session as a part. -/
def sessionPart : Part (Serving ν) (Session ν) where
  get s := s.session
  set session s := { s with session }

/-- Works on the session. -/
def onSession {α : Type} (act : Act (Session ν) α) : Act (Serving ν) α :=
  Act.within sessionPart act

/-- Ends with a fault if there is one. -/
def fail? : Option Fault → Act (Serving ν) Unit
  | some fault => throw fault
  | none => pure ()

/-- Prints the local address of the tunnel. -/
def announce (watch : Watch) : Act (Serving ν) Unit := do
  fail? watch.printFault
  modify fun s =>
    let tunnel := s.session.tunnel
    { s with output := s.output ++ [s!"{tunnel.localHost}:{tunnel.localPort}"] }

/-- Waits for a signal. -/
def await : List Wait → Act (Serving ν) Unit
  | [] => onSession (Session.report (.signalled terminationSignal))
  | .quiet :: waits => await waits
  | .signal number :: _ => onSession (Session.report (.signalled number))
  | .fault fault :: _ => throw fault

/-- Takes the tunnel down. -/
def shutDown (transport : Transport ν) : Act (Serving ν) Unit :=
  onSession do
    Session.report .closing
    Session.disconnect transport

/-- Keeps the tunnel up until the program is asked to end. -/
def keepUp (transport : Transport ν) (watch : Watch) : Act (Serving ν) Unit :=
  Act.ensuring
    (do
      fail? watch.installFault
      announce watch
      await watch.waits)
    (shutDown transport)

/-- Opens a tunnel and keeps it up. -/
def openTunnel (transport : Transport ν) (settings : Settings) (watch : Watch) :
    Act (Serving ν) Int := do
  let opening : Act (Serving ν) Unit := do
    Act.ofExcept settings.validate
    onSession (Session.start transport)
  match ← opening.attempt with
  | .error fault =>
    if !fault.isRefusal then throw fault
    onSession (Session.report (.openFailed fault.message))
    return 1
  | .ok () =>
    keepUp transport watch
    return 0

end Serving

namespace Desk

variable {ν : Type}

/-- The machine as a part. -/
def machinePart : Part (Desk ν) Machine where
  get s := s.site.machine
  set machine s := { s with site := { s.site with machine } }

/-- Works on the machine. -/
def onMachine {α : Type} (act : Act Machine α) : Act (Desk ν) α :=
  Act.within machinePart act

/-- Works with a tunnel. -/
def withTunnel {α : Type} (tunnel : Tunnel) (act : Act (Serving ν) α) : Act (Desk ν) α := fun s =>
  let (outcome, t) := act { session := { tunnel, site := s.site }, output := s.output }
  (outcome, { site := t.session.site, output := t.output })

/-- Checks everything that can be checked without the network. -/
def examine (settings : Settings) (config : Config) : Act Machine Int := do
  Act.ofExcept settings.validate
  Machine.report .settingsChecked
  let keyFile ← Machine.resolvePath config.keyFile
  if !(← Machine.isFile keyFile) then
    Machine.report (.keyFileMissing (toString keyFile))
    return 1
  Machine.report (.keyFileFound (toString keyFile))
  match ← (TrustPolicy.ofSettings settings none none).resolve config with
  | .disabled => pure ()
  | .enforced pinning => Machine.report (.storeLoaded (toString pinning.storePath))
  Machine.report .checkPassed
  return 0

/-- Checks a configuration and answers with an exit code. -/
def checkConfig (settings : Settings) (config : Config) : Act Machine Int := do
  match ← (examine settings config).attempt with
  | .ok code => return code
  | .error fault =>
    if !fault.isRefusal then throw fault
    Machine.report (.checkFailed fault.message)
    return 1

/-- Opens a tunnel for a configuration and keeps it up. -/
def openConfig (transport : Transport ν) (settings : Settings) (watch : Watch) (config : Config)
    (acceptsNewHosts : Bool) : Act (Desk ν) Int :=
  let policy := TrustPolicy.ofSettings settings none (some acceptsNewHosts)
  let tunnel := Tunnel.new settings { Tunnel.Choices.none with policy := some policy } config
  withTunnel tunnel (Serving.openTunnel transport settings watch)

/-- Carries out a command. -/
def execute (transport : Transport ν) (settings : Settings) (watch : Watch) (command : Command)
    (arguments : Arguments) : Act (Desk ν) Int := do
  discard <| onMachine (Log.setUp settings Log.programName none)
  match Config.ofArguments arguments with
  | .error fault =>
    if !fault.isRefusal then throw fault
    onMachine (Machine.report (.invalidArguments fault.message))
    return 2
  | .ok config =>
    match command with
    | .openTunnel => openConfig transport settings watch config arguments.acceptsNewHosts
    | .check => onMachine (checkConfig settings config)

/-- Runs the program. -/
def run (transport : Transport ν) (settings : Settings) (watch : Watch) (texts : List String) :
    Act (Desk ν) Ending := do
  match CommandLine.parse settings.acceptsNewHosts texts with
  | .error (.help command) =>
    Act.ofExcept (CommandLine.checkHelp settings command)
    return .usage 0
  | .error (.refused program e) => return .refused program e
  | .ok none => return .usage 1
  | .ok (some (command, arguments)) =>
    return .exit (← execute transport settings watch command arguments)

end Desk

end SecureForward
