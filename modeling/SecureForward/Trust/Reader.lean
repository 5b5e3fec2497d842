import SecureForward.Text.Blank
import SecureForward.Text.Lines
import SecureForward.Trust.Store

/-!
# Reading trust stores

A trust store is a text file with one record a line: names, key type and key, and anything after
them. Blank lines and comments are passed over, and so are records of key types that other programs
use. Every other record has to be read: a line that cannot be makes the whole file unusable.
-/

namespace SecureForward.TrustStore

open SecureForward.Text (lines split trim unifyBreaks words)
open SecureForward.Text.Utf8 (Bytes)

/-- The key types that are known but not used here. -/
def foreignTypes : List String :=
  ["ssh-dss", "sk-ssh-ed25519@openssh.com", "sk-ecdsa-sha2-nistp256@openssh.com"]

/-- Whether records of a key type are passed over: foreign types and certificates. -/
def isTolerated (keyType : String) : Bool :=
  foreignTypes.contains keyType || HostKey.certificateSuffix.toList.isSuffixOf keyType.toList

/-- Whether a trimmed line holds no record. -/
def isPassedOver (line : List Char) : Bool :=
  line.isEmpty || line.head? == some '#'

/-- The entry of a record, fields being separated by single blanks or tabs; `none` if there are too
few fields or the key type is not supported. The key has to be base64 whatever its type. -/
def Entry.ofLine (line : List Char) : Except Fault (Option Entry) :=
  match split (fun c => c = ' ' || c = '\t') line with
  | names :: keyType :: body :: _ =>
    match Base64.decode body with
    | .error e => .error (.recordKey (.ofList line) e)
    | .ok bytes =>
      match HostKey.Kind.ofTypeName? (.ofList keyType) with
      | none => .ok none
      | some kind =>
        match HostKey.ofBytes kind bytes with
        | .error e => .error (.hostKey e)
        | .ok key => .ok (some { names := (split (· = ',') names).map String.ofList, key })
  | _ => .ok none

/-- The record of an entry. -/
def Entry.toLine (entry : Entry) : List Char :=
  (",".intercalate entry.names).toList
    ++ ' ' :: (entry.key.typeName.toList ++ ' ' :: entry.key.base64.toList)

/-- Checks that a line holds a record that can be used, or none that is needed. -/
def checkLine (path : String) (number : Nat) (line : List Char) : Except Fault Unit :=
  let line := trim line
  if isPassedOver line then .ok ()
  else
    match words line with
    | _ :: keyType :: _ :: _ =>
      let keyType := String.ofList keyType
      if isTolerated keyType then .ok ()
      else
        match Entry.ofLine line with
        | .error e => .error e
        | .ok none => .error (.refusal (.unsupportedKeyType keyType number path))
        | .ok (some _) => .ok ()
    | _ => .error (.refusal (.malformedRecord number path))

/-- Checks lines of which the first has this number. -/
def checkLines (path : String) (number : Nat) : List (List Char) → Except Fault Unit
  | [] => .ok ()
  | line :: rest => do
    checkLine path number line
    checkLines path (number + 1) rest

/-- Drops names for which `known` holds. `done` are the names before the place reached; once a name
is dropped there, the next one moves into its place and is not examined. -/
def dropKnown (known : String → Except Fault Bool) (done : List String) :
    List String → Except Fault (List String)
  | [] => .ok done
  | name :: rest => do
    if ← known name then
      let left := (done ++ name :: rest).erase name
      dropKnown known (left.take (done.length + 1)) (left.drop (done.length + 1))
    else dropKnown known (done ++ [name]) rest
termination_by names => names.length
decreasing_by
  · have hmem : name ∈ done ++ name :: rest := by simp
    have hlen := List.length_erase_of_mem hmem
    simp only [List.length_append, List.length_cons] at hlen
    simp only [List.length_drop, List.length_cons]
    omega
  · simp

/-- The store with the record of a line. Names under which the key is known already are dropped, and
a record that is not understood is passed over. -/
def addLine (store : TrustStore) (line : List Char) : Except Fault TrustStore :=
  let line := trim line
  if isPassedOver line then .ok store
  else
    match Entry.ofLine line with
    | .error e => if e.isSsh then .ok store else .error e
    | .ok none => .ok store
    | .ok (some entry) => do
      let names ← dropKnown (fun name => store.check name entry.key) [] entry.names
      return if names.isEmpty then store
        else { entries := store.entries ++ [{ entry with names }] }

/-- The store with the records of lines. -/
def addLines (store : TrustStore) : List (List Char) → Except Fault TrustStore
  | [] => .ok store
  | line :: rest => do (← store.addLine line).addLines rest

/-- The store that the bytes of a file hold; `path` is used in messages. Lines are checked as they
arrive, and only a file of which all lines are in order is read. -/
def ofBytes (path : String) (bytes : Bytes) : Except Fault TrustStore :=
  let arrived := Text.Utf8.decodeStream bytes
  match arrived.error with
  | some e => do
    checkLines path 1 (Text.completeLines arrived.text)
    throw (.decoding e)
  | none => do
    let content := lines (unifyBreaks arrived.text)
    checkLines path 1 content
    empty.addLines content

/-- Whether a fault means that a trust store cannot be loaded. -/
def isLoadFault (fault : Fault) : Bool :=
  fault.isSystem || fault.isDecoding || fault.isRecordKey || fault.isSsh

end SecureForward.TrustStore
