import SecureForward.CommandLine.Option
import SecureForward.Config.Basic

/-!
# Arguments

The commands and their arguments. `CommandLine.parse` reads a command line; a request for help ends
the reading where it stands, and so does the first error. `Config.ofArguments` makes a configuration
of the arguments.
-/

namespace SecureForward

/-- The commands. -/
inductive Command where
  /-- Opens a tunnel and keeps it up. -/
  | openTunnel
  /-- Checks the configuration without connecting. -/
  | check
deriving DecidableEq, Repr

/-- The word for a command. -/
def Command.word : Command → String
  | .openTunnel => "open"
  | .check => "check"

/-- The arguments of a command. An option whose value is written as `=--` has an empty list in place
of a text. -/
structure Arguments where
  /-- The host that the tunnel goes through, and its port. -/
  host : Value
  /-- The user to log in as. -/
  user : Value
  /-- The file with the private key. -/
  keyFile : Value
  /-- What the private key is decrypted with. -/
  passphrase : Value
  /-- The file with the known host keys. -/
  knownHosts : Value
  /-- Whether the host is verified. -/
  verifiesHost : Bool
  /-- The host behind the tunnel. -/
  targetHost : Value
  /-- The port of that host. -/
  targetPort : Value
  /-- Whether new hosts are accepted. -/
  acceptsNewHosts : Bool

namespace CommandLine

/-- The options of a command. -/
def flags : Command → List Flag
  | .openTunnel =>
    [.help, .host, .user, .keyFile, .passphrase, .knownHosts, .unverified, .targetHost, .targetPort,
      .acceptNew]
  | .check =>
    [.help, .host, .user, .keyFile, .passphrase, .knownHosts, .unverified, .targetHost, .targetPort]

/-- What has been read of the arguments of a command. -/
structure Reading where
  /-- The arguments so far. -/
  arguments : Arguments
  /-- The options that were given. -/
  given : List Flag
  /-- The arguments that no option takes. -/
  extras : List String

/-- Why reading ends early. -/
inductive Stop where
  /-- Help is asked for, on a command or on the program. -/
  | help (command : Option Command)
  /-- The command line is refused; the program is named with the command that found the error. -/
  | refused (program : String) (e : UsageError)

/-- The value of an option that is written as `text`. -/
def valueOf (flag : Flag) (text : String) : Except UsageError Value :=
  if text = "--" then .ok (.list [])
  else if flag = .targetPort then
    match Decimal.readInteger text with
    | .ok n => .ok (.int n)
    | .error _ => .error (.valueNotWhole flag text)
  else .ok (.text text)

/-- The arguments with an option set to a value. -/
def assign (arguments : Arguments) (flag : Flag) (value : Value) : Arguments :=
  match flag with
  | .help => arguments
  | .host => { arguments with host := value }
  | .user => { arguments with user := value }
  | .keyFile => { arguments with keyFile := value }
  | .passphrase => { arguments with passphrase := value }
  | .knownHosts => { arguments with knownHosts := value }
  | .unverified => { arguments with verifiesHost := false }
  | .targetHost => { arguments with targetHost := value }
  | .targetPort => { arguments with targetPort := value }
  | .acceptNew => { arguments with acceptsNewHosts := true }

/-- The reading after an option was given. -/
def Reading.give (reading : Reading) (flag : Flag) (value : Value) : Reading :=
  { reading with arguments := assign reading.arguments flag value, given := flag :: reading.given }

/-- The reading after an argument that no option takes. -/
def Reading.leave (reading : Reading) (text : String) : Reading :=
  { reading with extras := reading.extras ++ [text] }

/-- The name of the program. -/
def programName : String := "graphtunnel"

/-- The name of the program with a command. -/
def nameWith (command : Command) : String :=
  s!"{programName} {command.word}"

/-- Reads the arguments of a command. -/
def readArguments (command : Command) (reading : Reading) : List Token → Except Stop Reading
  | [] => .ok reading
  | .argument text :: rest => readArguments command (reading.leave text) rest
  | .separator :: rest => readArguments command (reading.leave "--") rest
  | .unknown text :: rest => readArguments command (reading.leave text) rest
  | .option flag spelling value :: rest =>
    if flag.takesValue then
      match value, rest with
      | some text, rest =>
        match valueOf flag text with
        | .error e => .error (.refused (nameWith command) e)
        | .ok v => readArguments command (reading.give flag v) rest
      | none, .argument text :: rest =>
        match valueOf flag text with
        | .error e => .error (.refused (nameWith command) e)
        | .ok v => readArguments command (reading.give flag v) rest
      | none, _ => .error (.refused (nameWith command) (.valueMissing flag))
    else
      match checkFlag flag spelling value with
      | .error e => .error (.refused (nameWith command) e)
      | .ok () =>
        if flag = .help then .error (.help (some command))
        else readArguments command (reading.give flag .null) rest

/-- The arguments before any option was given. -/
def noArguments (acceptsNewHosts : Bool) : Arguments :=
  { host := .null, user := .null, keyFile := .null, passphrase := .null, knownHosts := .null,
    verifiesHost := true, targetHost := .null, targetPort := .null, acceptsNewHosts }

/-- Reads the texts after a command, and gives the arguments and what no option takes. -/
def parseCommand (acceptsNewHosts : Bool) (command : Command) (texts : List String) :
    Except Stop (Arguments × List String) := do
  let tokens ←
    match tokens (flags command) texts with
    | .ok tokens => pure tokens
    | .error e => throw (.refused (nameWith command) e)
  let start : Reading := { arguments := noArguments acceptsNewHosts, given := [], extras := [] }
  let reading ← readArguments command start tokens
  let missing := (flags command).filter fun flag =>
    flag.isRequired && !reading.given.contains flag
  if !missing.isEmpty then throw (.refused (nameWith command) (.optionsMissing missing))
  return (reading.arguments, reading.extras)

/-- The command of a word. -/
def command? (word : String) : Option Command :=
  [Command.openTunnel, .check].find? fun command => command.word == word

/-- Reads the texts before the command, and gives the command, its arguments and what is left over.
The texts are given beside what they are. -/
def parseFrom (acceptsNewHosts : Bool) (extras : List String) :
    List (Token × String) → Except Stop (Option (Command × Arguments) × List String)
  | [] => .ok (none, extras)
  | [(.separator, text)] => .ok (none, extras ++ [text])
  | (.option flag spelling value, _) :: _ =>
    match checkFlag flag spelling value with
    | .error e => .error (.refused programName e)
    | .ok () => .error (.help none)
  | (.unknown _, text) :: rest => parseFrom acceptsNewHosts (extras ++ [text]) rest
  | (_, word) :: rest =>
    match command? word with
    | none => .error (.refused programName (.unknownCommand word))
    | some command => do
      let (arguments, left) ← parseCommand acceptsNewHosts command (rest.map (·.2))
      return (some (command, arguments), extras ++ left)

/-- Reads a command line. Without a command there is nothing to do. -/
def parse (acceptsNewHosts : Bool) (texts : List String) :
    Except Stop (Option (Command × Arguments)) := do
  let tokens ←
    match tokens [.help] texts with
    | .ok tokens => pure tokens
    | .error e => throw (.refused programName e)
  let (result, extras) ← parseFrom acceptsNewHosts [] (tokens.zip texts)
  if extras.isEmpty then return result
  else throw (.refused programName (.unrecognised extras))

end CommandLine

namespace Config

/-- The text of an argument; one that has none counts as empty. -/
def argumentText : Value → String
  | .text s => s
  | _ => ""

/-- The configuration that the arguments describe. -/
def ofArguments (arguments : Arguments) : Except Fault Config := do
  let address ←
    match arguments.host with
    | .text text =>
      match Address.parse Address.defaultPort text with
      | .ok address => pure address
      | .error e => throw e.toFault
    | value => throw (.notTrimmable value.sort)
  let config : Config :=
    { host := address.host
      port := address.port
      user := argumentText arguments.user
      keyFile := argumentText arguments.keyFile
      knownHostsFile :=
        if arguments.knownHosts.isGiven then some (argumentText arguments.knownHosts) else none
      verifiesHost := arguments.verifiesHost
      targetHost := argumentText arguments.targetHost
      targetPort := 1
      passphrase := arguments.passphrase
      enabled := true }
  match arguments.targetPort with
  | .int targetPort => checked { config with targetPort }
  | value => do
    discard (checked config)
    throw (.notComparable value.sort)

end Config

end SecureForward
