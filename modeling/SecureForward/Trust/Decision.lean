import SecureForward.Machine
import SecureForward.Trust.Reader

/-!
# Trust decisions

How the identity of a host is checked in one session. With an enforced decision the host's key has
to be the one that the trust store records. A host without a record is refused, or, if the decision
says so, accepted and recorded, in memory first and then at the end of the store's file.
-/

namespace SecureForward

open SecureForward.Text.Utf8 (Bytes)

/-- What an enforced decision rests on. -/
structure Pinning where
  /-- The file of the trust store. -/
  storePath : Path
  /-- The records. -/
  store : TrustStore
  /-- The key type to ask the host for first. -/
  preferredType : Option String
  /-- Whether new hosts are recorded under hashed names. -/
  hashesNames : Bool
  /-- Whether new hosts are accepted and recorded. -/
  acceptsNewHosts : Bool
deriving DecidableEq

/-- How the identity of a host is checked. -/
inductive Decision where
  /-- Not at all. -/
  | disabled
  /-- By the records of a trust store. -/
  | enforced (pinning : Pinning)
deriving DecidableEq

/-- A decision and the machine it works on. -/
structure Verifying where
  /-- The decision. -/
  decision : Decision
  /-- The machine. -/
  machine : Machine
deriving DecidableEq

/-- The signature algorithms for keys of type `ssh-rsa`, the best one first. -/
def rsaAlgorithms : List String := ["rsa-sha2-512", "rsa-sha2-256", "ssh-rsa"]

namespace Pinning

/-- The algorithms that come first. -/
def wantedTypes (keyType : String) : List String :=
  if keyType = "ssh-rsa" then rsaAlgorithms else [keyType]

/-- The available algorithms with the wanted ones in front. -/
def orderTypes (pinning : Pinning) (available : List String) : List String :=
  match pinning.preferredType with
  | none => available
  | some keyType =>
    if keyType.isEmpty then available
    else
      let first := (wantedTypes keyType).filter available.contains
      first ++ available.filter fun name => !first.contains name

end Pinning

namespace Decision

/-- The algorithms to offer to the host, of those available, in order of preference. -/
def orderTypes (decision : Decision) (available : List String) : List String :=
  match decision with
  | .disabled => available
  | .enforced pinning => pinning.orderTypes available

end Decision

namespace Verifying

/-- The machine as a part. -/
def machinePart : Part Verifying Machine where
  get s := s.machine
  set machine s := { s with machine }

/-- Works on the machine. -/
def onMachine {α : Type} (act : Act Machine α) : Act Verifying α :=
  Act.within machinePart act

/-- The text that a record adds to a file: it starts a line of its own. -/
def addition (content line : List Char) : List Char :=
  let content := Text.unifyBreaks content
  if content.isEmpty || content.getLast? = some '\n' then line else '\n' :: line

/-- Appends the record of an entry to the file of the store. -/
def appendRecord (path : Path) (entry : TrustStore.Entry) : Act Machine Unit := do
  let old ← Machine.openToUpdate path
  match Text.Utf8.decode old with
  | .error e => throw (.decoding e)
  | .ok content => Machine.appendToFile path old (addition content (entry.toLine ++ ['\n']))

/-- Puts the record of a new host into the file of the store. A file that cannot be accessed or
written is only reported. -/
def recordInFile (pinning : Pinning) (hostId : String) (key : HostKey) (name : String) :
    Act Verifying Unit := do
  let path := toString pinning.storePath
  match ← (onMachine (appendRecord pinning.storePath { names := [name], key })).attempt with
  | .ok () => onMachine (Machine.report (.keyAdded hostId key.typeName key.fingerprint path))
  | .error fault =>
    if fault.isSystem then onMachine (Machine.report (.keyNotAdded path fault.message))
    else throw fault

/-- Records the key of a new host, in memory first. -/
def remember (pinning : Pinning) (hostId : String) (key : HostKey) : Act Verifying Unit := do
  let name ←
    if pinning.hashesNames then do
      let salt ← onMachine Machine.drawSalt
      Act.ofExcept (RecordName.hash salt hostId)
    else pure hostId
  let store := pinning.store.insert name key
  modify fun s => { s with decision := .enforced { pinning with store } }
  recordInFile pinning hostId key name

/-- Verifies a host by the records of a trust store. -/
def verifyBy (pinning : Pinning) (hostId : String) (key : HostKey) : Act Verifying Unit := do
  let path := toString pinning.storePath
  if ← Act.ofExcept (pinning.store.check hostId key) then
    onMachine (Machine.report (.keyMatches hostId path))
  else if !(← Act.ofExcept (pinning.store.lookup hostId)).isEmpty then
    throw (.refusal (.hostKeyMismatch hostId path key.typeName key.fingerprint))
  else if !pinning.acceptsNewHosts then
    throw (.refusal (.unknownHost hostId path key.typeName key.fingerprint))
  else remember pinning hostId key

/-- Accepts the key of a host or refuses it. -/
def verify (hostId : String) (key : HostKey) : Act Verifying Unit := do
  match (← get).decision with
  | .disabled => onMachine (Machine.report (.verificationSkipped hostId key.typeName))
  | .enforced pinning => verifyBy pinning hostId key

end Verifying

end SecureForward
