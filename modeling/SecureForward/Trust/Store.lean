import SecureForward.Trust.RecordName

/-!
# Trust stores

A trust store is a list of entries, each a key under one or more recorded names. A host has the
entries of which a name denotes it; of the entries of one key type the first counts. A record name
that cannot be examined is a fault of the whole search.
-/

namespace SecureForward

/-- A key and the names it is recorded under. -/
structure TrustStore.Entry where
  /-- The recorded names. -/
  names : List String
  /-- The key. -/
  key : HostKey
deriving DecidableEq

/-- Entries in the order of their records. -/
structure TrustStore where
  /-- The entries. -/
  entries : List TrustStore.Entry
deriving DecidableEq

namespace TrustStore

/-- Whether one of the names denotes a host; names after the first that does are not examined. -/
def anyDenotes (host : String) : List String → Except Fault Bool
  | [] => .ok false
  | name :: names => do
    if ← RecordName.denotes name host then return true
    anyDenotes host names

/-- The entries, among these, of a host. -/
def matching (host : String) : List Entry → Except Fault (List Entry)
  | [] => .ok []
  | entry :: entries => do
    let found ← anyDenotes host entry.names
    let rest ← matching host entries
    return if found then entry :: rest else rest

/-- The store without entries. -/
def empty : TrustStore := { entries := [] }

/-- The entries of a host. -/
def lookup (store : TrustStore) (host : String) : Except Fault (List Entry) :=
  matching host store.entries

/-- The key of a type among entries; the first one counts. -/
def keyOfType? (entries : List Entry) (typeName : String) : Option HostKey :=
  (entries.find? fun entry => entry.key.typeName == typeName).map (·.key)

/-- Whether a host has this key. -/
def check (store : TrustStore) (host : String) (key : HostKey) : Except Fault Bool := do
  let found ← store.lookup host
  return keyOfType? found key.typeName == some key

/-- Replaces the key of the first entry, among these, with this name and the key's type. -/
def replaceIn (name : String) (key : HostKey) : List Entry → Option (List Entry)
  | [] => none
  | entry :: entries =>
    if entry.names.contains name && entry.key.typeName == key.typeName then
      some ({ entry with key } :: entries)
    else (replaceIn name key entries).map (entry :: ·)

/-- Records a key under a name. It takes the place of a key of the same type under that name. -/
def insert (store : TrustStore) (name : String) (key : HostKey) : TrustStore :=
  match replaceIn name key store.entries with
  | some entries => { entries }
  | none => { entries := store.entries ++ [{ names := [name], key }] }

/-- All recorded names, each once. -/
def names (store : TrustStore) : List String :=
  (store.entries.flatMap (·.names)).eraseDups

/-- The key type of the first entry of the first of these hosts that has one. -/
def firstType? (store : TrustStore) : List String → Except Fault (Option String)
  | [] => .ok none
  | host :: hosts => do
    match ← store.lookup host with
    | entry :: _ => return some entry.key.typeName
    | [] => store.firstType? hosts

/-- The key type to prefer for a host: that of its first entry, or, if it has none, that of the
first entry of all. -/
def preferredType? (store : TrustStore) (host : String) : Except Fault (Option String) := do
  match ← store.lookup host with
  | entry :: _ => return some entry.key.typeName
  | [] => store.firstType? store.names

end TrustStore

end SecureForward
