import SecureForward.Decimal.Integer

/-!
# Host and port

An address is written as `host` or `host:port`. The host is not empty and holds no colon, and a port
is a number from 1 to 65535 in the digits `0` to `9`.
-/

namespace SecureForward

open SecureForward.Text (cut isAsciiDigit trim)

/-- A host and a port. -/
structure Address where
  /-- The host. -/
  host : String
  /-- The port. -/
  port : Int
deriving DecidableEq, Repr

/-- Why a text is not an address. -/
inductive Address.Error where
  /-- There is no host in the text. -/
  | missingHost (text : String)
  /-- What stands after the colon is no number. -/
  | invalidPort (port text : String)
  /-- The number after the colon has too many digits. -/
  | portTooLong (digits : Nat)
  /-- The port is not between 1 and 65535. -/
  | portOutOfRange (port : Nat) (text : String)
deriving DecidableEq, Repr

namespace Address

/-- The port of a secure shell server that names no other. -/
def defaultPort : Int := 22

/-- The text of an address. -/
protected def toString (a : Address) : String :=
  s!"{a.host}:{a.port}"

instance : ToString Address := ⟨Address.toString⟩

/-- Reads an address; without a colon the port is `port`. -/
def parse (port : Int) (text : String) : Except Error Address :=
  let (host, digits?) := cut ':' (trim text.toList)
  if host.isEmpty then .error (.missingHost text)
  else
    match digits? with
    | none => .ok { host := .ofList host, port }
    | some digits =>
      if digits.isEmpty || !digits.all isAsciiDigit then
        .error (.invalidPort (.ofList digits) text)
      else if Decimal.digitLimit < digits.length then .error (.portTooLong digits.length)
      else
        let n := Nat.ofDigitChars 10 digits 0
        if n < 1 || 65535 < n then .error (.portOutOfRange n text)
        else .ok { host := .ofList host, port := n }

end Address

end SecureForward
