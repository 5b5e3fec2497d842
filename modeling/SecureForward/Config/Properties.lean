import SecureForward.Config.Basic

/-!
# Configuration from properties

A client hands over its connection properties, named values of any sort. `Config.ofProperties` makes
a configuration of them and `Config.toProperties` gives the properties of a configuration. A value
is checked before it is written: a whole number that takes too many digits ends the reading.
-/

namespace SecureForward.Config

/-- The whole number of the property for the target port; a value that is not given counts as zero,
and one that denotes no number is refused, in words that show it. An infinite one is not. -/
def readTargetPort (value : Value) : Except Fault Int :=
  if !value.isGiven then .ok 0
  else
    match value.toInteger with
    | .ok n => .ok n
    | .error .wholePartOfInfinity => .error .wholePartOfInfinity
    | .error e => do
      value.checkWritable
      throw (.refusalBy (.unreadableTargetPort value.shown) e)

/-- The names of the properties that are read as texts once the address and the port are known. -/
def textNames : List String :=
  ["ssh_user", "ssh_private_key_file", "ssh_known_hosts_file", "target_host"]

/-- Refuses to read properties as texts of which one cannot be written. -/
def checkTexts (properties : Properties) : Except Fault Unit :=
  forM textNames fun name => (properties.value name).checkWritable

/-- The configuration that the properties describe; `disabled` unless they ask for a tunnel. -/
def ofProperties (properties : Properties) : Except Fault Config := do
  if !(properties.value "ssh_tunnel_enabled").toSwitch false then return disabled
  let hostValue := properties.value "ssh_host"
  hostValue.checkWritable
  let hostText := if hostValue.isGiven then hostValue.toText else ""
  let address ←
    match Address.parse Address.defaultPort hostText with
    | .ok address => pure address
    | .error e => throw e.toFault
  let targetPort ← readTargetPort (properties.value "target_port")
  checkTexts properties
  let passphrase := properties.value "ssh_private_key_passphrase"
  checked
    { host := address.host
      port := address.port
      user := (properties.value "ssh_user").toTrimmed
      keyFile := (properties.value "ssh_private_key_file").toTrimmed
      knownHostsFile := (properties.value "ssh_known_hosts_file").toOptional
      verifiesHost := (properties.value "ssh_strict_host_key_checking").toSwitch true
      targetHost := (properties.value "target_host").toTrimmed
      targetPort
      passphrase := if passphrase.isGiven then passphrase else .null
      enabled := true }

/-- The properties that describe a configuration. -/
def toProperties (config : Config) : Properties :=
  [("ssh_tunnel_enabled", .bool config.enabled),
    ("ssh_host", .text (toString (Address.mk config.host config.port))),
    ("ssh_user", .text config.user),
    ("ssh_private_key_file", .text config.keyFile),
    ("ssh_private_key_passphrase", config.passphrase),
    ("ssh_known_hosts_file", config.knownHostsFile.elim .null .text),
    ("ssh_strict_host_key_checking", .bool config.verifiesHost),
    ("target_host", .text config.targetHost),
    ("target_port", .int config.targetPort)]

end SecureForward.Config
