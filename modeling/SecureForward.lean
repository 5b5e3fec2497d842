import SecureForward.Text.Lines
import SecureForward.Text.Lower
import SecureForward.Text.Utf8
import SecureForward.Decimal.Integer
import SecureForward.Decimal.Shortest
import SecureForward.HostKey.Parser
import SecureForward.Files.Tree
import SecureForward.Fault
import SecureForward.Machine
import SecureForward.Endpoint.Target
import SecureForward.Config.Properties
import SecureForward.Config.Settings
import SecureForward.Tunnel.Basic
import SecureForward.Log.Setup
import SecureForward.Ssh.Accept
import SecureForward.Ssh.Session
import SecureForward.CommandLine.Program
import SecureForward.Main
import SecureForward.Proofs.Ssh.Trust
import SecureForward.Proofs.Trust.Remember
import SecureForward.Proofs.Tunnel.Calls
import SecureForward.Proofs.Tunnel.Phases
import SecureForward.Proofs.Trust.Records
import SecureForward.Proofs.Trust.FirstRecord
import SecureForward.Proofs.Trust.Pinned
import SecureForward.Proofs.Tunnel.Survey
import SecureForward.Proofs.CommandLine.Check
import SecureForward.Proofs.Ssh.Teardown
import SecureForward.Proofs.Tunnel.Failure
import SecureForward.Proofs.Ssh.Reports
import SecureForward.Proofs.Tunnel.Scope
import SecureForward.Proofs.Ssh.Ledger
import SecureForward.Proofs.Ssh.Steady
import SecureForward.Proofs.Ssh.Admission
import SecureForward.Proofs.Ssh.Lifecycle
import SecureForward.Proofs.Config.Properties
import SecureForward.Proofs.Trust.Refusal
import SecureForward.Proofs.CommandLine.Answer
import SecureForward.Proofs.Tunnel.Secret
import SecureForward.Proofs.Config.Faults
import SecureForward.Proofs.Config.Strictness
import SecureForward.Proofs.Ssh.Mishaps
import SecureForward.Proofs.Ssh.Listener
import SecureForward.Proofs.Ssh.Relay
import SecureForward.Proofs.Ssh.Serving
import SecureForward.Proofs.CommandLine.Open
import SecureForward.Proofs.Endpoint.Redirect
import SecureForward.Proofs.CommandLine.KeyFile
import SecureForward.Proofs.CommandLine.Agreement
import SecureForward.Proofs.Trust.KeyTypes
import SecureForward.Proofs.Trust.Tolerance
import SecureForward.Proofs.Endpoint.Reuse
import SecureForward.Proofs.Endpoint.Refusal
import SecureForward.Proofs.Ssh.Identity
