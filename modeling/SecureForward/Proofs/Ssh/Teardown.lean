import Mathlib.Data.List.Nodup
import SecureForward.Proofs.Ssh.Disconnect

/-!
# Giving back to the end

What a session holds is closed when the session is given back: `disconnect_completes_iff` says that
every resource is closed exactly once and nothing is left, however many resources fail to close,
exactly if they fail in the expected ways. These are the faults of the operating system, and for the
protocol session those of the protocol as well.

A channel may also fail as the protocol does, and this is not expected:
`channel_fault_leaves_session` is a session that is left half closed for that reason.
-/

namespace SecureForward

open Act (run)

namespace NetworkCall

/-- The resource that a call closes. -/
def closed? : NetworkCall → Option Resource
  | .close resource => some resource
  | _ => none

/-- The resource that was opened. -/
def opened? : NetworkCall → Option Resource
  | .opened resource => some resource
  | _ => none

end NetworkCall

/-- The resources that are closed by some calls, in their order. -/
def closings (calls : List NetworkCall) : List Resource :=
  calls.filterMap NetworkCall.closed?

/-- The resources that were opened by some calls, in their order. -/
def openings (calls : List NetworkCall) : List Resource :=
  calls.filterMap NetworkCall.opened?

@[simp]
theorem closings_append (calls calls' : List NetworkCall) :
    closings (calls ++ calls') = closings calls ++ closings calls' :=
  List.filterMap_append

@[simp]
theorem openings_append (calls calls' : List NetworkCall) :
    openings (calls ++ calls') = openings calls ++ openings calls' :=
  List.filterMap_append

/-- Calls that close some resources close just these. -/
@[simp]
theorem closings_map_close (resources : List Resource) :
    closings (resources.map .close) = resources := by
  unfold closings
  rw [List.filterMap_map]
  exact List.filterMap_some

/-- Calls that close resources open none. -/
@[simp]
theorem openings_map_close (resources : List Resource) : openings (resources.map .close) = [] := by
  unfold openings
  rw [List.filterMap_map, List.filterMap_eq_nil_iff]
  exact fun _ _ => rfl

/-- What a forward holds, in the order in which it is closed. -/
def Forward.resources (forward : Forward) : List Resource :=
  forward.listener.toList ++ forward.connections.flatMap (·.2.ends)

/-- Stopping a forward closes what it holds. -/
theorem Forward.closings_stopCalls (forward : Forward) :
    closings forward.stopCalls = forward.resources := by
  have hends (connections : List (String × Connection)) :
      closings (connections.flatMap fun entry => entry.2.ends.map .close) =
        connections.flatMap (·.2.ends) := by
    induction connections with
    | nil => rfl
    | cons entry rest ih => simp only [List.flatMap_cons, closings_append, closings_map_close, ih]
  have hjoin : closings (forward.thread.toList.map (.joinThread · Ssh.joinSeconds)) = [] := by
    cases forward.thread <;> rfl
  unfold stopCalls resources
  rw [closings_append, closings_append, closings_map_close, hends, hjoin, List.append_nil]

/-- Stopping a forward opens nothing. -/
theorem Forward.openings_stopCalls (forward : Forward) : openings forward.stopCalls = [] := by
  have hends (connections : List (String × Connection)) :
      openings (connections.flatMap fun entry => entry.2.ends.map .close) = [] := by
    induction connections with
    | nil => rfl
    | cons entry rest ih =>
      simp only [List.flatMap_cons, openings_append, openings_map_close, ih, List.append_nil]
  have hjoin : openings (forward.thread.toList.map (.joinThread · Ssh.joinSeconds)) = [] := by
    cases forward.thread <;> rfl
  unfold stopCalls
  rw [openings_append, openings_append, openings_map_close, hends, hjoin]
  rfl

namespace Ssh

/-- What a session holds, in the order in which it is closed. -/
def resources (s : Ssh) : List Resource :=
  s.forward.toList.flatMap Forward.resources ++ (s.transport.toList ++ s.socket.toList)

/-- Giving a session back closes what it holds. -/
theorem closings_teardown (s : Ssh) : closings s.teardown = s.resources := by
  have hforward : closings (s.forward.toList.flatMap Forward.stopCalls) =
      s.forward.toList.flatMap Forward.resources := by
    cases s.forward with
    | none => rfl
    | some forward => simpa using forward.closings_stopCalls
  unfold teardown resources
  rw [closings_append, closings_append, closings_map_close, closings_map_close, hforward]

/-- Giving a session back opens nothing. -/
theorem openings_teardown (s : Ssh) : openings s.teardown = [] := by
  have hforward : openings (s.forward.toList.flatMap Forward.stopCalls) = [] := by
    cases s.forward with
    | none => rfl
    | some forward => simpa using forward.openings_stopCalls
  unfold teardown
  rw [openings_append, openings_append, openings_map_close, openings_map_close, hforward]
  rfl

/-- A session is given back to the end, whatever it holds, exactly if closing fails in the expected
ways only: as the operating system makes it fail, or the protocol where the protocol session is
closed. Then everything that it held was closed, each resource once, its table of connections was
emptied, and nothing is left of it. -/
theorem disconnect_completes_iff (site : Site Ssh) (hnames : site.peer.HasDistinctNames) :
    ((run disconnect site).1 = .ok () ↔ site.peer.ClosesInOrder) ∧
      (site.peer.ClosesInOrder →
        (∃ machine calls,
          (run disconnect site).2 =
            { machine, peer :=
              { site.peer with
                calls := site.peer.calls ++ calls
                socket := none
                transport := none
                forward := none } } ∧
          closings calls = site.peer.resources ∧
          (site.peer.resources.Nodup →
            ∀ resource ∈ site.peer.resources, (closings calls).count resource = 1)) ∧
        ∀ forward, site.peer.forward = some forward →
          (run stopForward site).2.peer.forward =
            some { forward with
              isRunning := false, listener := none, thread := none, connections := [] }) := by
  refine ⟨⟨fun h => ?_, fun h => ?_⟩, fun h => ⟨?_, fun forward hforward => ?_⟩⟩
  · exact closesInOrder_of_run_disconnect hnames (Prod.ext h rfl)
  · obtain ⟨machine, hrun⟩ := run_disconnect hnames h
    rw [hrun]
  · obtain ⟨machine, hrun⟩ := run_disconnect hnames h
    refine ⟨machine, site.peer.teardown, by rw [hrun], closings_teardown _, ?_⟩
    intro hdistinct resource hresource
    rw [closings_teardown]
    exact List.count_eq_one_of_mem hdistinct hresource
  · obtain ⟨machine, hrun⟩ :=
      run_stopForward_of_some hforward (hnames forward hforward) (h.forward forward hforward)
    rw [hrun]
    rfl

/-- A network on which nothing closes without a fault. -/
def trialNetwork : Network :=
  { fault? := fun
      | .close .transport => some (.outside .ssh "protocol")
      | .close _ => some (.outside .system "system")
      | _ => none
    keyTypes := [], hostKey := .ed25519 (List.replicate 32 (.ofNat 0)) rfl, isAuthenticated := true,
    isActive := true, localPort := 4000 }

/-- A forward from a local port to a database. -/
def trialForward (listener : Option Resource) (thread : Option String)
    (connections : List (String × Connection)) : Forward where
  request := { localHost := "localhost", localPort := 0, targetHost := "db", targetPort := 5432 }
  localPort := 4000
  listener := listener
  thread := thread
  isRunning := true
  connections := connections
  localPort_isWritable := rfl
  targetPort_isWritable := rfl

/-- A session with two relayed connections; the channel of the first one closes with this fault. -/
def trialSession (channelFault : Fault) : Ssh :=
  let connection (number : Nat) (channelFault : Fault) : Connection :=
    { client := ⟨.client, number⟩, channel := ⟨.channel, number + 1⟩,
      clientFault := some (.outside .system "system"), channelFault := some channelFault }
  { idle trialNetwork with
    opened := 7
    socket := some ⟨.socket, 0⟩
    transport := some ⟨.transport, 1⟩
    forward := some (trialForward (some ⟨.listener, 2⟩) (some (threadName 4000))
      [("a:1", connection 3 channelFault), ("b:2", connection 5 (.outside .system "system"))]) }

/-- The session of the trial on an empty machine. -/
def trialSite (channelFault : Fault) : Site Ssh :=
  { machine :=
      { place := { home := "/", current := "/" }, files := { entries := [] }, salts := [],
        clock := "",
        log := [], console := none, consoleLines := [], logFile := none }
    peer := trialSession channelFault }

/-- The names in the table of the trial are different. -/
theorem hasDistinctNames_trial (channelFault : Fault) :
    (trialSite channelFault).peer.HasDistinctNames := by
  intro forward hforward
  cases hforward
  change ["a:1", "b:2"].Nodup
  decide

/-- Although nothing of the trial closes without a fault, everything is given back. -/
theorem disconnect_completes_trial :
    let site := trialSite (.outside .system "system")
    site.peer.HasDistinctNames ∧ site.peer.ClosesInOrder ∧ (run disconnect site).1 = .ok () ∧
      ∃ machine calls,
        (run disconnect site).2 =
          { machine, peer :=
            { site.peer with calls, socket := none, transport := none, forward := none } } ∧
        ∀ resource ∈ site.peer.resources, (closings calls).count resource = 1 := by
  intro site
  have hnames := hasDistinctNames_trial (.outside .system "system")
  have hclose : site.peer.ClosesInOrder := by
    refine ⟨fun forward hforward => ⟨?_, ?_⟩, ?_, ?_⟩
    · cases hforward
      rintro resource ⟨⟩ fault ⟨⟩
      rfl
    · cases hforward
      intro entry hentry
      have hends : entry.2.channelFault = some (.outside .system "system") ∧
          entry.2.clientFault = some (.outside .system "system") := by
        rcases List.mem_cons.1 hentry with rfl | hentry
        · exact ⟨rfl, rfl⟩
        · obtain rfl := List.mem_singleton.1 hentry
          exact ⟨rfl, rfl⟩
      refine ⟨fun fault hfault => ?_, fun fault hfault => ?_⟩
      · obtain rfl := Option.some.inj (hends.1.symm.trans hfault)
        rfl
      · obtain rfl := Option.some.inj (hends.2.symm.trans hfault)
        rfl
    · rintro resource ⟨⟩ fault ⟨⟩
      rfl
    · rintro resource ⟨⟩ fault ⟨⟩
      rfl
  obtain ⟨hiff, hall⟩ := disconnect_completes_iff site hnames
  obtain ⟨⟨machine, calls, hafter, -, honce⟩, -⟩ := hall hclose
  exact ⟨hnames, hclose, hiff.2 hclose, machine, calls, hafter, honce (by decide)⟩

/-- A channel that fails to close as the protocol does ends the work: the client of its connection,
the other connection, the protocol session and the socket are not closed, and the session still
holds them, although every fault is one of the system or of the protocol. -/
theorem channel_fault_leaves_session :
    let site := trialSite (.outside .ssh "protocol")
    let after := (run disconnect site).2.peer
    site.peer.HasDistinctNames ∧
      (∀ operation fault, site.peer.network.fault? operation = some fault →
        fault.isSystem = true ∨ fault.isSsh = true) ∧
      (∀ forward, site.peer.forward = some forward → ∀ entry ∈ forward.connections, ∀ fault,
        entry.2.channelFault = some fault ∨ entry.2.clientFault = some fault →
          fault.isSystem = true ∨ fault.isSsh = true) ∧
      disconnect.fault? site = some (.outside .ssh "protocol") ∧
      closings after.calls = [⟨.listener, 2⟩, ⟨.channel, 4⟩] ∧
      after.forward.isSome ∧ after.transport.isSome ∧ after.socket.isSome := by
  refine ⟨hasDistinctNames_trial _, ?_, ?_, by decide +kernel⟩
  · intro operation fault hfault
    cases operation with
    | close kind =>
      cases kind with
      | transport =>
        cases hfault
        exact .inr rfl
      | _ =>
        cases hfault
        exact .inl rfl
    | _ => cases hfault
  · intro forward hforward entry hentry fault hfault
    cases hforward
    rcases List.mem_cons.1 hentry with rfl | hentry
    · rcases hfault with ⟨⟨⟩⟩ | ⟨⟨⟩⟩
      · exact .inr rfl
      · exact .inl rfl
    · obtain rfl := List.mem_singleton.1 hentry
      rcases hfault with ⟨⟨⟩⟩ | ⟨⟨⟩⟩
      · exact .inl rfl
      · exact .inl rfl

end Ssh

end SecureForward
