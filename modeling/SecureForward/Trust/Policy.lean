import SecureForward.Config.Basic
import SecureForward.Config.Settings
import SecureForward.Trust.Decision

/-!
# Trust policy

Makes the trust decision for a configuration before anything is sent over the network. Without
verification nothing is read; otherwise the trust store has to be there and in order.
-/

namespace SecureForward

/-- How decisions are made. -/
structure TrustPolicy where
  /-- The trust store of configurations that name none. -/
  defaultStore : String
  /-- Whether new hosts are accepted and recorded. -/
  acceptsNewHosts : Bool
deriving DecidableEq, Repr

/-- The path of a configuration that names one, or else the default. -/
def chooseStore (named : Option String) (default : String) : String :=
  match named with
  | some path => if path.isEmpty then default else path
  | none => default

namespace TrustPolicy

/-- The policy of the settings, with other choices in place of theirs where there are any. -/
def ofSettings (settings : Settings) (defaultStore : Option String)
    (acceptsNewHosts : Option Bool) : TrustPolicy :=
  { defaultStore := chooseStore defaultStore settings.knownHostsFile
    acceptsNewHosts := acceptsNewHosts.getD settings.acceptsNewHosts }

/-- Reads the trust store at a path. -/
def loadStore (path : Path) : Act Machine TrustStore := do
  let loading : Act Machine TrustStore := do
    let bytes ← Machine.readFile path
    Act.ofExcept (TrustStore.ofBytes (toString path) bytes)
  match ← loading.attempt with
  | .ok store => return store
  | .error fault =>
    if TrustStore.isLoadFault fault then
      throw (.refusalBy (.trustStoreUnloadable (toString path)) fault)
    else throw fault

/-- Decides how the host of a configuration is verified. -/
def resolve (policy : TrustPolicy) (config : Config) : Act Machine Decision := do
  if !config.verifiesHost then
    Machine.report (.trustDisabled config.host)
    return .disabled
  let path ← Machine.resolvePath (chooseStore config.knownHostsFile policy.defaultStore)
  if !(← Machine.isFile path) then throw (.refusal (.trustStoreNotFound (toString path)))
  let store ← loadStore path
  let hostId := RecordName.ofHost config.host config.port
  let preferredType ← Act.ofExcept (store.preferredType? hostId)
  Machine.report (.trustEnforced config.host (toString path) preferredType)
  return .enforced
    { storePath := path, store, preferredType, hashesNames := true,
      acceptsNewHosts := policy.acceptsNewHosts }

end TrustPolicy

end SecureForward
