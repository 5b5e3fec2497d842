import SecureForward.Endpoint.Address
import SecureForward.Endpoint.Uri
import SecureForward.Files.Tree
import SecureForward.HostKey.Parser
import SecureForward.Text.Template

/-!
# Faults

Everything that can go wrong, as causes. A `Reason` is a refusal that this program words itself; it
belongs to a family and carries a short kind that programs can test. A `Fault` is a refusal, with or
without the fault that led to it, or a fault of one of the parts, or one that was met outside: in
the network, in the key files, or in the caller's own code.
-/

namespace SecureForward

open SecureForward.Text (quoted)

/-- The families of refusals. -/
inductive Family where
  /-- No family in particular. -/
  | general
  /-- Something is configured wrongly. -/
  | configuration
  /-- The host is not trusted. -/
  | trust
  /-- The session or the forward cannot be established. -/
  | connection
  /-- An operation comes at the wrong time. -/
  | state
deriving DecidableEq, Repr

/-- The kind that a refusal of this family has if it names none. -/
def Family.defaultKind : Family → String
  | .general => "tunnel-error"
  | .configuration => "invalid-configuration"
  | .trust => "host-key-rejected"
  | .connection => "connect-failed"
  | .state => "invalid-state"

/-- Why something is refused. -/
inductive Reason where
  /-- An address is not of the form `host[:port]`. -/
  | invalidAddress (e : Address.Error)
  /-- A URI has no scheme or no host. -/
  | invalidUri (uri : String)
  /-- The connect timeout is not positive. -/
  | invalidTimeout
  /-- The local port is not between 0 and 65535. -/
  | invalidBindPort
  /-- There is no local host. -/
  | localHostRequired
  /-- There is no host to connect to. -/
  | hostRequired
  /-- There is no user. -/
  | userRequired
  /-- There is no key file. -/
  | keyFileRequired
  /-- There is no host to forward to. -/
  | targetHostRequired
  /-- The port to connect to is not between 1 and 65535. -/
  | invalidHostPort
  /-- The port to forward to is not between 1 and 65535. -/
  | invalidTargetPort
  /-- The port to forward to is no number. -/
  | unreadableTargetPort (shown : String)
  /-- There is no key file at the path. -/
  | keyFileNotFound (path : String)
  /-- The private key is encrypted and nothing was given to decrypt it with. -/
  | keyEncrypted (path : String)
  /-- The private key cannot be loaded. -/
  | keyUnloadable (path : String)
  /-- There is no trust store at the path. -/
  | trustStoreNotFound (path : String)
  /-- The trust store cannot be loaded. -/
  | trustStoreUnloadable (path : String)
  /-- A line of the trust store has too few fields. -/
  | malformedRecord (line : Nat) (path : String)
  /-- A line of the trust store has a key type that is not supported. -/
  | unsupportedKeyType (keyType : String) (line : Nat) (path : String)
  /-- The host has another key than the one recorded. -/
  | hostKeyMismatch (hostId path keyType fingerprint : String)
  /-- The host has no record. -/
  | unknownHost (hostId path keyType fingerprint : String)
  /-- The tunnel cannot be established. -/
  | tunnelFailed (host : String)
  /-- The attempt to connect was interrupted. -/
  | interrupted (host : String)
  /-- The user is not let in. -/
  | authenticationRejected (user endpoint : String)
  /-- The host did not complete the authentication. -/
  | authenticationIncomplete (user endpoint : String)
  /-- The protocol with the host failed. -/
  | handshakeFailed (endpoint : String)
  /-- The host did not answer in time. -/
  | timedOut (endpoint seconds : String)
  /-- The host cannot be reached. -/
  | unreachable (endpoint : String)
  /-- The local port cannot be bound. -/
  | bindFailed (host : String) (port : Int)
  /-- There is a session already. -/
  | alreadyConnected
  /-- There is no session. -/
  | notConnected
  /-- There is a forward already. -/
  | alreadyForwarding
  /-- A refusal that was worded elsewhere. -/
  | stated (family : Family) (kind text : String)
deriving DecidableEq, Repr

namespace Reason

/-- The family of a reason. -/
def family : Reason → Family
  | .invalidAddress _ | .invalidUri _ | .invalidTimeout | .invalidBindPort | .localHostRequired
  | .hostRequired | .userRequired | .keyFileRequired | .targetHostRequired | .invalidHostPort
  | .invalidTargetPort | .unreadableTargetPort _ | .keyFileNotFound _ | .keyEncrypted _
  | .keyUnloadable _ | .trustStoreNotFound _ | .trustStoreUnloadable _ | .malformedRecord ..
  | .unsupportedKeyType .. => .configuration
  | .hostKeyMismatch .. | .unknownHost .. => .trust
  | .tunnelFailed _ | .interrupted _ | .authenticationRejected .. | .authenticationIncomplete ..
  | .handshakeFailed _ | .timedOut .. | .unreachable _ | .bindFailed .. => .connection
  | .alreadyConnected | .notConnected | .alreadyForwarding => .state
  | .stated family .. => family

/-- The kind of a reason. -/
def kind : Reason → String
  | .invalidAddress _ | .invalidUri _ => "invalid-endpoint"
  | .invalidTimeout | .invalidBindPort | .localHostRequired | .hostRequired | .userRequired
  | .keyFileRequired | .targetHostRequired | .invalidHostPort | .invalidTargetPort
  | .unreadableTargetPort _ => "invalid-property"
  | .keyFileNotFound _ => "private-key-not-found"
  | .keyEncrypted _ | .keyUnloadable _ => "private-key-invalid"
  | .trustStoreNotFound _ => "trust-store-not-found"
  | .trustStoreUnloadable _ | .malformedRecord .. | .unsupportedKeyType .. => "trust-store-invalid"
  | .hostKeyMismatch .. => "host-key-mismatch"
  | .unknownHost .. => "unknown-host"
  | .tunnelFailed _ | .interrupted _ => "connect-failed"
  | .authenticationRejected .. | .authenticationIncomplete .. => "authentication"
  | .handshakeFailed _ => "handshake"
  | .timedOut .. => "timeout"
  | .unreachable _ => "network"
  | .bindFailed .. => "forward-bind"
  | .alreadyConnected | .notConnected | .alreadyForwarding => Family.defaultKind .state
  | .stated family kind _ => if kind.isEmpty then family.defaultKind else kind

/-- The reason in words; `detail` are the words of the fault that led to it. -/
def text (detail : String) : Reason → String
  | .invalidAddress (.missingHost text) => s!"Missing host in endpoint '{text}'"
  | .invalidAddress (.invalidPort port text) => s!"Invalid port '{port}' in endpoint '{text}'"
  | .invalidAddress (.portOutOfRange port text) => s!"Port {port} out of range in endpoint '{text}'"
  | .invalidAddress (.portTooLong digits) => (Decimal.IntegerError.tooManyDigits digits).message
  | .invalidUri uri => s!"Invalid endpoint URI '{uri}'"
  | .invalidTimeout => "Invalid connect timeout"
  | .invalidBindPort => "Invalid local bind port"
  | .localHostRequired => "Local host is required"
  | .hostRequired => "SSH host is required"
  | .userRequired => "SSH user is required"
  | .keyFileRequired => "SSH private key file is required"
  | .targetHostRequired => "Target host is required"
  | .invalidHostPort => "Invalid SSH port"
  | .invalidTargetPort => "Invalid target port"
  | .unreadableTargetPort shown => s!"Invalid target port: {shown}"
  | .keyFileNotFound path => s!"Private key file '{path}' not found"
  | .keyEncrypted path => s!"Private key '{path}' is encrypted and no passphrase was given"
  | .keyUnloadable path => s!"Could not load private key '{path}': {detail}"
  | .trustStoreNotFound path => s!"Known hosts file '{path}' not found"
  | .trustStoreUnloadable path => s!"Could not load known hosts file '{path}': {detail}"
  | .malformedRecord line path => s!"Malformed entry at line {line} of known hosts file '{path}'"
  | .unsupportedKeyType keyType line path =>
    s!"Unsupported key type '{keyType}' at line {line} of known hosts file '{path}'"
  | .hostKeyMismatch hostId path keyType fingerprint =>
    s!"Host key for {hostId} does not match the record in {path} ({keyType} {fingerprint})"
  | .unknownHost hostId path keyType fingerprint =>
    s!"Host {hostId} is not present in {path} ({keyType} {fingerprint})"
  | .tunnelFailed host => s!"Could not establish SSH tunnel via {host}: {detail}"
  | .interrupted host => s!"Interrupted while connecting via {host}"
  | .authenticationRejected user endpoint =>
    s!"Authentication rejected for {user}@{endpoint}: {detail}"
  | .authenticationIncomplete user endpoint => s!"Authentication incomplete for {user}@{endpoint}"
  | .handshakeFailed endpoint => s!"SSH handshake with {endpoint} failed: {detail}"
  | .timedOut endpoint seconds => s!"Timed out connecting to {endpoint} after {seconds}s"
  | .unreachable endpoint => s!"Could not reach SSH host {endpoint}: {detail}"
  | .bindFailed host port => s!"Could not bind local forward on {host}:{port}: {detail}"
  | .alreadyConnected => "SSH transport is already connected"
  | .notConnected => "SSH transport is not connected"
  | .alreadyForwarding => "A local forward is already bound for this session"
  | .stated _ _ text => text

/-- The reason as a caller sees it: the kind in brackets and the words. -/
def message (detail : String) (reason : Reason) : String :=
  s!"[{reason.kind}] {reason.text detail}"

end Reason

/-- What a fault that was met outside is about. -/
inductive Outside where
  /-- The operating system refused something. -/
  | system
  /-- The operating system gave up waiting. -/
  | timeout
  /-- The secure shell protocol failed. -/
  | ssh
  /-- The server does not let the user in. -/
  | authentication
  /-- The server does not take this way of proving who one is. -/
  | authenticationType
  /-- The private key needs a passphrase. -/
  | passphraseRequired
  /-- The server does not open the channel. -/
  | channel
  /-- The private key is of an unknown type. -/
  | unknownKeyType
  /-- A value is not acceptable. -/
  | value
  /-- A value is of the wrong sort. -/
  | sort
  /-- A name is not found. -/
  | key
  /-- A condition that should hold does not. -/
  | assertion
  /-- The input ended too early. -/
  | endOfInput
  /-- Something else failed while running. -/
  | runtime
  /-- Something else failed; the name says what. -/
  | other (name : String)
  /-- The user interrupted the program. -/
  | interrupt
deriving DecidableEq, Repr

/-- What can go wrong. -/
inductive Fault where
  /-- A refusal. -/
  | refusal (reason : Reason)
  /-- A refusal that another fault led to. -/
  | refusalBy (reason : Reason) (cause : Fault)
  /-- A file cannot be accessed. -/
  | access (e : AccessError) (path : String)
  /-- A path holds a character that no path may hold. -/
  | nullInPath
  /-- The home directory is not known. -/
  | homeUnknown
  /-- A text is not a whole number. -/
  | integer (e : Decimal.IntegerError)
  /-- A double that is no number has no whole part. -/
  | wholePartOfNaN
  /-- An infinite double has no whole part. -/
  | wholePartOfInfinity
  /-- A whole number is beyond all doubles. -/
  | beyondDoubles
  /-- A value of this sort denotes no whole number. -/
  | notNumeric (sort : String)
  /-- A value of this sort is no text that could be encoded. -/
  | notEncodable (sort : String)
  /-- A value of this sort is no text that could be trimmed. -/
  | notTrimmable (sort : String)
  /-- A value of this sort cannot be compared with a whole number. -/
  | notComparable (sort : String)
  /-- A text is not a URI, or has no port. -/
  | uri (e : Uri.Error)
  /-- Bytes are not UTF-8. -/
  | decoding (e : Text.Utf8.DecodeError)
  /-- A text is not base64. -/
  | base64 (e : Base64.Error)
  /-- The key of a record is not base64. -/
  | recordKey (line : String) (e : Base64.Error)
  /-- Bytes are not a host key. -/
  | hostKey (e : HostKey.Error)
  /-- The salt of a hashed name has the wrong length. -/
  | saltLength
  /-- The name of the log level denotes no level but a text. -/
  | levelIsText (text : String)
  /-- The name of the log level denotes no level but a table. -/
  | levelIsTable
  /-- A template cannot be filled. -/
  | template (e : Text.Template.Error)
  /-- A fault that was met outside. -/
  | outside (about : Outside) (text : String)
deriving DecidableEq

namespace Fault

/-- The table of line styles as it is shown when a log level is called after it. -/
def styleTable : String :=
  "\x7b'%': (<class 'logging.PercentStyle'>, '%(levelname)s:%(name)s:%(message)s'), " ++
    "'\x7b': (<class 'logging.StrFormatStyle'>, '\x7blevelname\x7d:\x7bname\x7d:" ++
    "\x7bmessage\x7d'), '$': (<class 'logging.StringTemplateStyle'>, " ++
    "'$\x7blevelname\x7d:$\x7bname\x7d:$\x7bmessage\x7d')\x7d"

/-- The fault in words. -/
def message : Fault → String
  | .refusal reason => reason.message ""
  | .refusalBy reason cause => reason.message cause.message
  | .access e path => e.message path
  | .nullInPath => "embedded null byte"
  | .homeUnknown => "Could not determine home directory."
  | .integer e => e.message
  | .wholePartOfNaN => "cannot convert float NaN to integer"
  | .wholePartOfInfinity => "cannot convert float infinity to integer"
  | .beyondDoubles => "int too large to convert to float"
  | .notNumeric sort =>
    s!"int() argument must be a string, a bytes-like object or a real number, not '{sort}'"
  | .notEncodable sort => s!"'{sort}' object has no attribute 'encode'"
  | .notTrimmable sort => s!"'{sort}' object has no attribute 'strip'"
  | .notComparable sort => s!"'<' not supported between instances of '{sort}' and 'int'"
  | .uri e => e.message
  | .decoding e => e.message
  | .base64 e => e.message
  | .recordKey line e => s!"({quoted line}, Error({quoted e.message}))"
  | .hostKey e => e.message
  | .saltLength => ""
  | .levelIsText text => s!"Unknown level: {quoted text}"
  | .levelIsTable => "Level not an integer or a valid string: " ++ styleTable
  | .template e => e.message
  | .outside _ text => text

/-- The reason of a refusal. -/
def reason? : Fault → Option Reason
  | .refusal reason | .refusalBy reason _ => some reason
  | _ => none

/-- What a program tells a refusal by: its family and its kind. -/
def label? (fault : Fault) : Option (Family × String) :=
  fault.reason?.map fun reason => (reason.family, reason.kind)

/-- The fault that led to a refusal. -/
def cause? : Fault → Option Fault
  | .refusalBy _ cause => some cause
  | _ => none

/-- Whether the fault is a refusal. -/
def isRefusal (fault : Fault) : Bool :=
  fault.reason?.isSome

/-- Whether the fault is an interruption, which nothing but a clean-up may follow. -/
def isInterrupt : Fault → Bool
  | .outside .interrupt _ => true
  | _ => false

/-- Whether the operating system gave up waiting. -/
def isTimeout : Fault → Bool
  | .outside .timeout _ => true
  | _ => false

/-- Whether the operating system refused something. -/
def isSystem : Fault → Bool
  | .access .. | .outside .system _ | .outside .timeout _ => true
  | _ => false

/-- Whether a server did not let the user in, or a key needs a passphrase. -/
def isAuthentication : Fault → Bool
  | .outside .authentication _ | .outside .authenticationType _
  | .outside .passphraseRequired _ => true
  | _ => false

/-- Whether a private key needs a passphrase. -/
def isPassphraseRequired : Fault → Bool
  | .outside .passphraseRequired _ => true
  | _ => false

/-- Whether the secure shell protocol failed. -/
def isSsh : Fault → Bool
  | .hostKey (.wrongType ..) | .hostKey (.wrongCurve _) | .hostKey .invalidPoint => true
  | .outside .ssh _ | .outside .channel _ => true
  | fault => fault.isAuthentication

/-- Whether a private key is of an unknown type. -/
def isUnknownKeyType : Fault → Bool
  | .outside .unknownKeyType _ => true
  | _ => false

/-- Whether bytes are not UTF-8. -/
def isDecoding : Fault → Bool
  | .decoding _ | .hostKey (.unreadableName _) => true
  | _ => false

/-- Whether the key of a record is not base64. -/
def isRecordKey : Fault → Bool
  | .recordKey .. => true
  | _ => false

/-- Whether the input ended too early. -/
def isEndOfInput : Fault → Bool
  | .outside .endOfInput _ => true
  | _ => false

/-- Whether a value is not acceptable. Wrong configuration counts as such. -/
def isValue : Fault → Bool
  | .refusal reason | .refusalBy reason _ => reason.family = .configuration
  | .nullInPath | .integer _ | .wholePartOfNaN | .uri _ | .decoding _ | .base64 _
  | .levelIsText _ | .outside .value _ => true
  | .hostKey (.unreadableName _) | .hostKey .modulusTooSmall | .hostKey .exponentOutOfRange
  | .hostKey .evenExponent | .hostKey .wrongSize => true
  | .template e => e.isValue
  | _ => false

end Fault

/-- A failed reading of an address as a fault. A port with too many digits is not worded as a
refusal. -/
def Address.Error.toFault : Address.Error → Fault
  | .portTooLong digits => .integer (.tooManyDigits digits)
  | e => .refusal (.invalidAddress e)

end SecureForward
