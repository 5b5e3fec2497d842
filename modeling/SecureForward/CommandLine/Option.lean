import SecureForward.Text.Cut
import SecureForward.Text.Digit
import SecureForward.Text.Quoted

/-!
# Options on the command line

An option may be written with any beginning of its name that no other option shares, and its value
either follows or is attached with an equals sign. Text that begins with a hyphen is an option
unless it is a negative number or holds a space.
-/

namespace SecureForward.CommandLine

open SecureForward.Text (cut digitValue? isAsciiDigit)

/-- The options. -/
inductive Flag where
  /-- Shows how the program is used. -/
  | help
  /-- The host that the tunnel goes through. -/
  | host
  /-- The user to log in as. -/
  | user
  /-- The file with the private key. -/
  | keyFile
  /-- What the private key is decrypted with. -/
  | passphrase
  /-- The file with the known host keys. -/
  | knownHosts
  /-- The host is not verified. -/
  | unverified
  /-- The host behind the tunnel. -/
  | targetHost
  /-- The port of that host. -/
  | targetPort
  /-- New hosts are accepted. -/
  | acceptNew
deriving DecidableEq, Repr

namespace Flag

/-- How an option can be written. -/
def spellings : Flag → List String
  | .help => ["-h", "--help"]
  | .host => ["--ssh-host"]
  | .user => ["--ssh-user"]
  | .keyFile => ["--private-key"]
  | .passphrase => ["--passphrase"]
  | .knownHosts => ["--known-hosts"]
  | .unverified => ["--no-strict-host-key-checking"]
  | .targetHost => ["--target-host"]
  | .targetPort => ["--target-port"]
  | .acceptNew => ["--accept-new-hosts"]

/-- What an option is called in messages. -/
def label (flag : Flag) : String :=
  "/".intercalate flag.spellings

/-- Whether an option has a value. -/
def takesValue : Flag → Bool
  | .help | .unverified | .acceptNew => false
  | _ => true

/-- Whether an option has to be given. -/
def isRequired : Flag → Bool
  | .host | .user | .keyFile | .targetHost | .targetPort => true
  | _ => false

/-- The spellings of options, each with its option. -/
def spelled (flags : List Flag) : List (Flag × String) :=
  flags.flatMap fun flag => flag.spellings.map fun spelling => (flag, spelling)

end Flag

/-- Why a command line is refused. -/
inductive UsageError where
  /-- The beginning of an option is shared by several. -/
  | ambiguous (text : String) (spellings : List String)
  /-- A value is attached to an option that has none. -/
  | valueIgnored (flag : Flag) (value : String)
  /-- The value of an option is missing. -/
  | valueMissing (flag : Flag)
  /-- The value of an option is no whole number. -/
  | valueNotWhole (flag : Flag) (value : String)
  /-- There is no such command. -/
  | unknownCommand (text : String)
  /-- Options are missing. -/
  | optionsMissing (flags : List Flag)
  /-- Arguments are left over. -/
  | unrecognised (texts : List String)
deriving DecidableEq, Repr

/-- The error in words. -/
def UsageError.message : UsageError → String
  | .ambiguous text spellings =>
    let shown := ", ".intercalate spellings
    s!"ambiguous option: {text} could match {shown}"
  | .valueIgnored flag value =>
    let shown := Text.quoted value
    s!"argument {flag.label}: ignored explicit argument {shown}"
  | .valueMissing flag => s!"argument {flag.label}: expected one argument"
  | .valueNotWhole flag value =>
    let shown := Text.quoted value
    s!"argument {flag.label}: invalid int value: {shown}"
  | .unknownCommand text =>
    let shown := Text.quoted text
    s!"argument command: invalid choice: {shown} (choose from 'open', 'check')"
  | .optionsMissing flags =>
    let shown := ", ".intercalate (flags.map Flag.label)
    s!"the following arguments are required: {shown}"
  | .unrecognised texts =>
    let shown := " ".intercalate texts
    s!"unrecognized arguments: {shown}"

/-- What a text on the command line is. -/
inductive Token where
  /-- A plain argument. -/
  | argument (text : String)
  /-- The two hyphens after which there are only plain arguments. -/
  | separator
  /-- An option as it is spelled, with the value attached to it. -/
  | option (flag : Flag) (spelling : String) (value : Option String)
  /-- An option that does not exist. -/
  | unknown (text : String)
deriving DecidableEq, Repr

/-- Whether a text is a hyphen and a decimal number. -/
def isNegativeNumber (l : List Char) : Bool :=
  let isDigit (c : Char) : Bool := (digitValue? c).isSome
  match l with
  | '-' :: l =>
    let l := if l.getLast? = some '\n' then l.dropLast else l
    match cut '.' l with
    | (whole, none) => !whole.isEmpty && whole.all isDigit
    | (whole, some places) => whole.all isDigit && !places.isEmpty && places.all isDigit
  | _ => false

/-- The text before the first equals sign and the text after it, if there is one. -/
def cutValue (text : String) : String × Option String :=
  let (name, value) := cut '=' text.toList
  (.ofList name, value.map String.ofList)

/-- The options that a text may stand for by its beginning, as tokens. Behind a single hyphen the
second character is an option by itself, and what follows is attached to it. -/
def candidates (flags : List Flag) (text : String) : List (Flag × String × Option String) :=
  match text.toList with
  | '-' :: '-' :: _ =>
    let (name, value) := cutValue text
    (Flag.spelled flags).filterMap fun (flag, spelling) =>
      if name.toList.isPrefixOf spelling.toList then some (flag, spelling, value) else none
  | l =>
    (Flag.spelled flags).filterMap fun (flag, spelling) =>
      if spelling.toList = l.take 2 then some (flag, spelling, some (.ofList (l.drop 2)))
      else if l.isPrefixOf spelling.toList then some (flag, spelling, none)
      else none

/-- The option that is spelled exactly so. -/
def flagOf? (flags : List Flag) (text : String) : Option Flag :=
  ((Flag.spelled flags).find? fun entry => entry.2 == text).map (·.1)

/-- The option that is spelled exactly so before the equals sign. -/
def flagWithValue? (flags : List Flag) (text : String) : Option Token :=
  match cutValue text with
  | (name, some value) => (flagOf? flags name).map fun flag => .option flag name (some value)
  | (_, none) => none

/-- What a text is where the options `flags` exist. -/
def Token.ofText (flags : List Flag) (text : String) : Except UsageError Token :=
  let l := text.toList
  if l.head? != some '-' then .ok (.argument text)
  else
    match flagOf? flags text with
    | some flag => .ok (.option flag text none)
    | none =>
      if l.length = 1 then .ok (.argument text)
      else
        match flagWithValue? flags text with
        | some token => .ok token
        | none =>
          match candidates flags text with
          | [] =>
            if isNegativeNumber l || l.contains ' ' then .ok (.argument text)
            else .ok (.unknown text)
          | [(flag, spelling, value)] => .ok (.option flag spelling value)
          | several => .error (.ambiguous text (several.map (·.2.1)))

/-- What the texts on the command line are. -/
def tokens (flags : List Flag) : List String → Except UsageError (List Token)
  | [] => .ok []
  | text :: texts =>
    if text = "--" then .ok (.separator :: texts.map .argument)
    else do
      let token ← Token.ofText flags text
      return token :: (← tokens flags texts)

/-- What an option without a value means when a value is attached to it. Behind a single hyphen the
value is read as further options of one character, of which only the same one exists. -/
def checkUnvalued (flag : Flag) (short : Bool) : List Char → Except UsageError Unit
  | [] => .error (.valueIgnored flag "")
  | c :: l =>
    if short && flag.spellings.contains (.ofList ['-', c]) then
      if l.isEmpty then .ok () else checkUnvalued flag short l
    else .error (.valueIgnored flag (.ofList (c :: l)))

/-- Checks that no value is attached to an option that has none. -/
def checkFlag (flag : Flag) (spelling : String) (value : Option String) :
    Except UsageError Unit :=
  match value with
  | none => .ok ()
  | some value => checkUnvalued flag (spelling.length = 2) value.toList

end SecureForward.CommandLine
