import SecureForward.Proofs.Ssh.Account

/-!
# Giving a session back

A session that is given back closes its listener, both ends of every relayed connection, the
protocol session and the socket, in this order. `run_disconnect` gives the calls and says that
nothing is left of the session, however many of them fail to close, as long as they fail in the
expected ways; `closesInOrder_of_run_disconnect` says that there is no other way to get to the end.

Each part of giving back has a lemma for the run that is completed and one that says what it was
completed on. The table of connections is emptied from its first entry on, which is the induction of
`run_dropConnections`.
-/

namespace SecureForward

open Act (run)

namespace Connection

/-- The ends of a connection, in the order in which they are closed. -/
def ends (connection : Connection) : List Resource :=
  [connection.channel, connection.client]

/-- Closing the ends of a connection fails, if it does, as the operating system makes it fail. -/
structure ClosesInOrder (connection : Connection) : Prop where
  /-- The channel is closed, or the system refuses it. -/
  channel : ∀ fault, connection.channelFault = some fault → fault.isSystem = true
  /-- The local connection is closed, or the system refuses it. -/
  client : ∀ fault, connection.clientFault = some fault → fault.isSystem = true

end Connection

namespace Forward

/-- The calls that stop a forward. -/
def stopCalls (forward : Forward) : List NetworkCall :=
  forward.listener.toList.map .close ++
    forward.connections.flatMap (fun entry => entry.2.ends.map .close) ++
    forward.thread.toList.map (.joinThread · Ssh.joinSeconds)

/-- The forward once it was stopped. -/
def stopped (forward : Forward) : Forward :=
  { forward with isRunning := false, listener := none, thread := none, connections := [] }

/-- Closing what a forward holds fails, if it does, as the operating system makes it fail. -/
structure ClosesInOrder (forward : Forward) (network : Network) : Prop where
  /-- The listener is closed, or the system refuses it. -/
  listener : ∀ resource, forward.listener = some resource →
    ∀ fault, network.fault? (.close resource.kind) = some fault → fault.isSystem = true
  /-- The ends of the connections are closed, or the system refuses it. -/
  connections : ∀ entry ∈ forward.connections, entry.2.ClosesInOrder

end Forward

/-- Closing fails, if it does, as the operating system or the protocol makes it fail. -/
structure Network.ClosesInOrder (network : Network) : Prop where
  /-- The protocol session is closed, or the system or the protocol refuses it. -/
  transport : ∀ fault, network.fault? (.close .transport) = some fault →
    fault.isSystem = true ∨ fault.isSsh = true
  /-- The socket is closed, or the system refuses it. -/
  socket : ∀ fault, network.fault? (.close .socket) = some fault → fault.isSystem = true

namespace Ssh

/-- The calls that give a session back. -/
def teardown (s : Ssh) : List NetworkCall :=
  s.forward.toList.flatMap Forward.stopCalls ++
    (s.transport.toList.map .close ++ s.socket.toList.map .close)

/-- Closing what a session holds fails, if it does, as the operating system makes it fail, or the
protocol where the protocol session is closed. -/
structure ClosesInOrder (s : Ssh) : Prop where
  /-- What the forward holds is closed, or the system refuses it. -/
  forward : ∀ forward, s.forward = some forward → forward.ClosesInOrder s.network
  /-- The protocol session is closed, or the system or the protocol refuses it. -/
  transport : ∀ resource, s.transport = some resource →
    ∀ fault, s.network.fault? (.close resource.kind) = some fault → isCloseFault fault = true
  /-- The socket is closed, or the system refuses it. -/
  socket : ∀ resource, s.socket = some resource →
    ∀ fault, s.network.fault? (.close resource.kind) = some fault → fault.isSystem = true

variable {site after : Site Ssh} {handled : Fault → Bool} {event : String → Event}

/-! ## Tolerated faults -/

/-- Work whose fault is tolerated, or that has none, is done, with a report at most. -/
theorem run_tolerate (event : String → Event) (hevent : ∀ text, (event text).isWritable = true)
    (task : Task Unit) (site : Site Ssh)
    (h : ∀ fault, task.fault? site = some fault → handled fault = true) :
    ∃ machine, run (tolerate handled event task) site =
      (.ok (), { machine, peer := (run task site).2.peer }) := by
  unfold tolerate
  rw [Act.run_bind_of_ok (Act.run_attempt _ _)]
  cases hfault : task.fault? site with
  | none =>
    obtain ⟨_, hrun⟩ := Act.exists_of_fault?_eq_none hfault
    rw [hrun]
    exact ⟨(run task site).2.machine, rfl⟩
  | some fault =>
    rw [Act.run_of_fault?_eq_some hfault]
    simp only [h fault hfault, if_true]
    exact ⟨_, run_report (hevent _) _⟩

/-- Work that is tolerated to its end had a fault that is tolerated, or none. -/
theorem handled_of_run_tolerate {task : Task Unit}
    (h : run (tolerate handled event task) site = (.ok (), after)) :
    ∀ fault, task.fault? site = some fault → handled fault = true := by
  intro fault hfault
  unfold tolerate at h
  rw [Act.run_bind_of_ok (Act.run_attempt _ _), Act.run_of_fault?_eq_some hfault] at h
  cases hhandled : handled fault with
  | true => rfl
  | false =>
    simp only [hhandled] at h
    cases h

/-- Closing a resource fails as the network says. -/
theorem fault?_close (resource : Resource) (site : Site Ssh) :
    (close resource).fault? site = site.peer.network.fault? (.close resource.kind) :=
  fault?_ask _ _ site

/-- Closing an end of a connection puts the call on the account, whatever it ends with. -/
theorem run_closeEnd_snd (resource : Resource) (fault : Option Fault) (site : Site Ssh) :
    (run (closeEnd resource fault) site).2 =
      { site with peer := { site.peer with calls := site.peer.calls ++ [.close resource] } } := by
  cases fault <;> rfl

/-- Closing an end of a connection ends with its fault. -/
theorem fault?_closeEnd (resource : Resource) (fault : Option Fault) (site : Site Ssh) :
    (closeEnd resource fault).fault? site = fault := by
  cases fault <;> rfl

/-- Closing a resource with a fault that is tolerated, or with none, only adds to the account. -/
theorem run_tolerate_close {resource : Resource} (event : String → Event)
    (hevent : ∀ text, (event text).isWritable = true)
    (h : ∀ fault, site.peer.network.fault? (.close resource.kind) = some fault →
      handled fault = true) :
    ∃ machine, run (tolerate handled event (close resource)) site =
      (.ok (), { machine,
                 peer := { site.peer with calls := site.peer.calls ++ [.close resource] } }) := by
  obtain ⟨machine, hrun⟩ := run_tolerate event hevent (close resource) site
    (by rw [fault?_close]; exact h)
  refine ⟨machine, ?_⟩
  rw [hrun, close, run_ask_snd]

/-! ## Stopping the forward -/

/-- Changes the forward and nothing else. -/
theorem run_changeForward (f : Forward → Forward) (site : Site Ssh) :
    run (changeForward f) site =
      (.ok (), { site with peer := { site.peer with forward := site.peer.forward.map f } }) := rfl

/-- Both ends of a connection are closed, whether the system refuses it or not. -/
theorem run_closeConnection {connection : Connection} (h : connection.ClosesInOrder) (name : String)
    (site : Site Ssh) :
    ∃ machine, run (closeConnection name connection) site =
      (.ok (), { machine, peer :=
        { site.peer with calls := site.peer.calls ++ connection.ends.map .close } }) := by
  obtain ⟨machine, hchannel⟩ := run_tolerate (.endCloseFailed name) (fun _ => rfl)
    (closeEnd connection.channel connection.channelFault) site
    (by rw [fault?_closeEnd]; exact h.channel)
  rw [run_closeEnd_snd] at hchannel
  obtain ⟨machine', hclient⟩ := run_tolerate (.endCloseFailed name) (fun _ => rfl)
    (closeEnd connection.client connection.clientFault)
    { machine, peer :=
      { site.peer with calls := site.peer.calls ++ [.close connection.channel] } }
    (by rw [fault?_closeEnd]; exact h.client)
  rw [run_closeEnd_snd] at hclient
  refine ⟨machine', ?_⟩
  unfold closeConnection
  rw [Act.run_bind_of_ok hchannel, hclient]
  simp [Connection.ends]

/-- A connection that is closed to the end failed to close in the expected way only. -/
theorem closesInOrder_of_run_closeConnection {name : String} {connection : Connection}
    (h : run (closeConnection name connection) site = (.ok (), after)) :
    connection.ClosesInOrder := by
  unfold closeConnection at h
  obtain ⟨_, site₁, hchannel, hclient⟩ := Act.run_bind_eq_ok_iff.1 h
  have hchannel := handled_of_run_tolerate hchannel
  have hclient := handled_of_run_tolerate hclient
  rw [fault?_closeEnd] at hchannel hclient
  exact ⟨hchannel, hclient⟩

/-- Dropping the first connection of the table takes it out and closes it. -/
theorem run_dropConnection {forward : Forward} {name : String} {connection : Connection}
    {rest : List (String × Connection)} (hforward : site.peer.forward = some forward)
    (hconnections : forward.connections = (name, connection) :: rest)
    (hname : name ∉ rest.map Prod.fst) :
    run (dropConnection name) site =
      run (closeConnection name connection) { site with peer :=
        { site.peer with forward := some { forward with connections := rest } } } := by
  have hlookup : site.peer.forward.bind (·.connections.lookup name) = some connection := by
    rw [hforward]
    simp [hconnections]
  have hrest : forward.connections.filter (·.1 != name) = rest := by
    rw [hconnections, List.filter_cons_of_neg (by simp), List.filter_eq_self]
    intro entry hentry
    have hother : entry.1 ≠ name := fun heq => hname (heq ▸ List.mem_map_of_mem hentry)
    simpa using hother
  unfold dropConnection
  rw [Act.run_bind_of_ok (run_session site), hlookup]
  dsimp only
  rw [Act.run_bind_of_ok (run_changeForward _ _), hforward, Option.map_some, hrest]

/-- Dropping all connections closes both ends of each and empties the table. -/
theorem run_dropConnections {forward : Forward} (hforward : site.peer.forward = some forward)
    (hnames : (forward.connections.map Prod.fst).Nodup)
    (hclose : ∀ entry ∈ forward.connections, entry.2.ClosesInOrder) :
    ∃ machine, run (dropConnections (forward.connections.map Prod.fst)) site =
      (.ok (), { machine, peer :=
        { site.peer with
          calls := site.peer.calls ++
            forward.connections.flatMap fun entry => entry.2.ends.map .close
          forward := some { forward with connections := [] } } }) := by
  -- The table shrinks from its head, and the names are those of what is left.
  generalize hconnections : forward.connections = connections at hnames hclose
  induction connections generalizing site forward with
  | nil =>
    refine ⟨site.machine, ?_⟩
    rw [List.flatMap_nil, List.append_nil, ← hconnections, ← hforward, hconnections]
    rfl
  | cons entry rest ih =>
    obtain ⟨name, connection⟩ := entry
    obtain ⟨hname, hrest⟩ := List.nodup_cons.1 hnames
    obtain ⟨machine, hhead⟩ := run_closeConnection (hclose _ List.mem_cons_self) name
      { site with peer := { site.peer with forward := some { forward with connections := rest } } }
    rw [← run_dropConnection hforward hconnections hname] at hhead
    obtain ⟨machine', htail⟩ := @ih
      { machine, peer :=
        { site.peer with
          calls := site.peer.calls ++ connection.ends.map .close
          forward := some { forward with connections := rest } } }
      { forward with connections := rest } rfl rfl hrest
      fun entry hentry => hclose entry (List.mem_cons_of_mem _ hentry)
    refine ⟨machine', ?_⟩
    change run (dropConnection name >>= fun _ => dropConnections (rest.map Prod.fst)) site = _
    rw [Act.run_bind_of_ok hhead, htail]
    simp [List.append_assoc]

/-- Connections that are all dropped failed to close in the expected way only. -/
theorem closesInOrder_of_run_dropConnections {forward : Forward}
    (hforward : site.peer.forward = some forward)
    (hnames : (forward.connections.map Prod.fst).Nodup)
    (h : run (dropConnections (forward.connections.map Prod.fst)) site = (.ok (), after)) :
    ∀ entry ∈ forward.connections, entry.2.ClosesInOrder := by
  generalize hconnections : forward.connections = connections at hnames h
  induction connections generalizing site forward with
  | nil => exact fun _ hentry => by cases hentry
  | cons entry rest ih =>
    obtain ⟨name, connection⟩ := entry
    obtain ⟨hname, hrest⟩ := List.nodup_cons.1 hnames
    obtain ⟨_, site₁, hhead, htail⟩ := Act.run_bind_eq_ok_iff.1 h
    rw [run_dropConnection hforward hconnections hname] at hhead
    have hconnection := closesInOrder_of_run_closeConnection hhead
    -- The connection was closed in order, so what it was closed on is known.
    obtain ⟨machine, hrun⟩ := run_closeConnection hconnection name
      { site with peer := { site.peer with forward := some { forward with connections := rest } } }
    obtain rfl := (Prod.mk.inj (hhead.symm.trans hrun)).2
    have hothers := @ih _ { forward with connections := rest } rfl rfl hrest htail
    intro entry hentry
    rcases List.mem_cons.1 hentry with rfl | hentry
    · exact hconnection
    · exact hothers entry hentry

/-- A listener that is closed in order, or with a fault that is tolerated, is gone. -/
theorem run_closeListener (forward : Forward) (site : Site Ssh)
    (hclose : ∀ resource, forward.listener = some resource →
      ∀ fault, site.peer.network.fault? (.close resource.kind) = some fault →
        fault.isSystem = true)
    {present : Forward} (hpresent : site.peer.forward = some present)
    (hlistener : present.listener = forward.listener) :
    ∃ machine, run (closeListener forward) site =
      (.ok (), { machine, peer :=
        { site.peer with
          calls := site.peer.calls ++ forward.listener.toList.map .close
          forward := some { present with listener := none } } }) := by
  unfold closeListener
  cases hresource : forward.listener with
  | none =>
    have hsame : { present with listener := none } = present := by rw [← hresource, ← hlistener]
    refine ⟨site.machine, ?_⟩
    rw [hsame, ← hpresent]
    simp
  | some resource =>
    obtain ⟨machine, hrun⟩ := run_tolerate_close .listenerCloseFailed (fun _ => rfl)
      (hclose resource hresource)
    refine ⟨machine, ?_⟩
    dsimp only
    rw [Act.run_bind_of_ok hrun, run_changeForward, hpresent]
    rfl

/-- A thread that is waited for is gone. -/
theorem run_joinThread (forward : Forward) (site : Site Ssh) {present : Forward}
    (hpresent : site.peer.forward = some present)
    (hthread : present.thread = forward.thread) :
    run (joinThread forward) site =
      (.ok (), { site with peer :=
        { site.peer with
          calls := site.peer.calls ++ forward.thread.toList.map (.joinThread · joinSeconds)
          forward := some { present with thread := none } } }) := by
  unfold joinThread
  cases hname : forward.thread with
  | none =>
    have hsame : { present with thread := none } = present := by rw [← hname, ← hthread]
    rw [hsame, ← hpresent]
    simp
  | some name =>
    dsimp only
    rw [note, Act.run_bind_of_ok (run_change _ _), run_changeForward]
    simp [hpresent]

/-- A forward that there is is stopped: all that it holds is closed, and its table is empty. -/
theorem run_stopForward_of_some {forward : Forward} (hforward : site.peer.forward = some forward)
    (hnames : (forward.connections.map Prod.fst).Nodup)
    (hclose : forward.ClosesInOrder site.peer.network) :
    ∃ machine, run stopForward site =
      (.ok (), { machine, peer :=
        { site.peer with
          calls := site.peer.calls ++ forward.stopCalls
          forward := some forward.stopped } }) := by
  obtain ⟨machine₁, hlistener⟩ := run_closeListener forward
    { site with peer := { site.peer with forward := some { forward with isRunning := false } } }
    hclose.listener rfl rfl
  obtain ⟨machine₂, hdrop⟩ := @run_dropConnections
    { machine := machine₁, peer :=
      { site.peer with
        calls := site.peer.calls ++ forward.listener.toList.map .close
        forward := some { forward with isRunning := false, listener := none } } }
    { forward with isRunning := false, listener := none } rfl hnames hclose.connections
  have hjoin := run_joinThread forward
    { machine := machine₂, peer :=
      { site.peer with
        calls := site.peer.calls ++ forward.listener.toList.map .close ++
          forward.connections.flatMap fun entry => entry.2.ends.map .close
        forward := some
          { forward with isRunning := false, listener := none, connections := [] } } }
    rfl rfl
  unfold stopForward
  rw [Act.run_bind_of_ok (run_session site), hforward]
  dsimp only
  rw [Act.run_bind_of_ok (run_changeForward _ _), hforward, Option.map_some,
    Act.run_bind_of_ok hlistener, Act.run_bind_of_ok hdrop, Act.run_bind_of_ok hjoin]
  have hwritten : (Event.forwardStopped forward.localPort).isWritable = true := by
    change ([forward.localPort].all Decimal.isWritable) = true
    rw [List.all_cons, forward.localPort_isWritable]
    rfl
  rw [run_report hwritten]
  unfold Forward.stopCalls
  rw [← List.append_assoc, ← List.append_assoc]
  exact ⟨_, rfl⟩

/-- The names in the table of the forward, if there is one, are all different. -/
def HasDistinctNames (s : Ssh) : Prop :=
  ∀ forward, s.forward = some forward → (forward.connections.map Prod.fst).Nodup

/-- Stopping the forward closes all that it holds and empties its table; without one nothing
happens. -/
theorem run_stopForward (hnames : site.peer.HasDistinctNames)
    (hclose : ∀ forward, site.peer.forward = some forward →
      forward.ClosesInOrder site.peer.network) :
    ∃ machine, run stopForward site =
      (.ok (), { machine, peer :=
        { site.peer with
          calls := site.peer.calls ++ site.peer.forward.toList.flatMap Forward.stopCalls
          forward := site.peer.forward.map Forward.stopped } }) := by
  cases hforward : site.peer.forward with
  | none =>
    have hsame : { site.peer with forward := none } = site.peer := by rw [← hforward]
    refine ⟨site.machine, ?_⟩
    unfold stopForward
    rw [Act.run_bind_of_ok (run_session site), hforward, Option.toList_none, List.flatMap_nil,
      List.append_nil, Option.map_none, hsame]
    rfl
  | some forward =>
    obtain ⟨machine, hrun⟩ :=
      run_stopForward_of_some hforward (hnames _ hforward) (hclose _ hforward)
    exact ⟨machine, by simpa using hrun⟩

/-- A forward that is stopped to the end failed to close in the expected way only. -/
theorem closesInOrder_of_run_stopForward {forward : Forward}
    (hforward : site.peer.forward = some forward)
    (hnames : (forward.connections.map Prod.fst).Nodup)
    (h : run stopForward site = (.ok (), after)) : forward.ClosesInOrder site.peer.network := by
  unfold stopForward at h
  rw [Act.run_bind_of_ok (run_session site), hforward] at h
  dsimp only at h
  rw [Act.run_bind_of_ok (run_changeForward _ _), hforward, Option.map_some] at h
  obtain ⟨_, site₁, hlistener, h⟩ := Act.run_bind_eq_ok_iff.1 h
  obtain ⟨_, site₂, hdrop, -⟩ := Act.run_bind_eq_ok_iff.1 h
  have hclose : ∀ resource, forward.listener = some resource →
      ∀ fault, site.peer.network.fault? (.close resource.kind) = some fault →
        fault.isSystem = true := by
    intro resource hresource
    unfold closeListener at hlistener
    rw [hresource] at hlistener
    obtain ⟨_, _, htolerate, -⟩ := Act.run_bind_eq_ok_iff.1 hlistener
    have hhandled := handled_of_run_tolerate htolerate
    rw [fault?_close] at hhandled
    exact hhandled
  -- The listener was closed in order, so the connections are still those of the forward.
  obtain ⟨machine, hrun⟩ := run_closeListener forward
    { site with peer := { site.peer with forward := some { forward with isRunning := false } } }
    hclose rfl rfl
  obtain rfl := (Prod.mk.inj (hlistener.symm.trans hrun)).2
  exact ⟨hclose, @closesInOrder_of_run_dropConnections _ _
    { forward with isRunning := false, listener := none } rfl hnames hdrop⟩

/-! ## Closing the session -/

/-- A protocol session that is closed in order, or with a fault that is tolerated, is gone. -/
theorem run_closeTransport (site : Site Ssh)
    (hclose : ∀ resource, site.peer.transport = some resource →
      ∀ fault, site.peer.network.fault? (.close resource.kind) = some fault →
        isCloseFault fault = true) :
    ∃ machine, run closeTransport site =
      (.ok (), { machine, peer :=
        { site.peer with
          calls := site.peer.calls ++ site.peer.transport.toList.map .close
          transport := none } }) := by
  unfold closeTransport
  rw [Act.run_bind_of_ok (run_session site)]
  cases htransport : site.peer.transport with
  | none =>
    have hsame : { site.peer with transport := none } = site.peer := by rw [← htransport]
    refine ⟨site.machine, ?_⟩
    rw [Option.toList_none, List.map_nil, List.append_nil, hsame]
    rfl
  | some resource =>
    obtain ⟨machine, hrun⟩ := run_tolerate_close .sessionCloseFailed (fun _ => rfl)
      (hclose resource htransport)
    refine ⟨machine, ?_⟩
    dsimp only
    rw [Act.run_bind_of_ok hrun]
    rfl

/-- A socket that is closed in order, or with a fault that is tolerated, is gone. -/
theorem run_closeSocket (site : Site Ssh)
    (hclose : ∀ resource, site.peer.socket = some resource →
      ∀ fault, site.peer.network.fault? (.close resource.kind) = some fault →
        fault.isSystem = true) :
    ∃ machine, run closeSocket site =
      (.ok (), { machine, peer :=
        { site.peer with
          calls := site.peer.calls ++ site.peer.socket.toList.map .close
          socket := none } }) := by
  unfold closeSocket
  rw [Act.run_bind_of_ok (run_session site)]
  cases hsocket : site.peer.socket with
  | none =>
    have hsame : { site.peer with socket := none } = site.peer := by rw [← hsocket]
    refine ⟨site.machine, ?_⟩
    rw [Option.toList_none, List.map_nil, List.append_nil, hsame]
    rfl
  | some resource =>
    obtain ⟨machine, hrun⟩ := run_tolerate_close .socketCloseFailed (fun _ => rfl)
      (hclose resource hsocket)
    refine ⟨machine, ?_⟩
    dsimp only
    rw [Act.run_bind_of_ok hrun]
    rfl

/-- Giving a session back closes all that it holds and leaves nothing of it, and no fault comes
out. -/
theorem run_disconnect (hnames : site.peer.HasDistinctNames) (hclose : site.peer.ClosesInOrder) :
    ∃ machine, run disconnect site =
      (.ok (), { machine, peer :=
        { site.peer with
          calls := site.peer.calls ++ site.peer.teardown
          socket := none
          transport := none
          forward := none } }) := by
  obtain ⟨machine₁, hstop⟩ := run_stopForward hnames hclose.forward
  obtain ⟨machine₂, htransport⟩ := run_closeTransport
    { machine := machine₁, peer :=
      { site.peer with
        calls := site.peer.calls ++ site.peer.forward.toList.flatMap Forward.stopCalls
        forward := none } } hclose.transport
  obtain ⟨machine₃, hsocket⟩ := run_closeSocket
    { machine := machine₂, peer :=
      { site.peer with
        calls := site.peer.calls ++ site.peer.forward.toList.flatMap Forward.stopCalls ++
          site.peer.transport.toList.map .close
        forward := none
        transport := none } } hclose.socket
  refine ⟨machine₃, ?_⟩
  rw [disconnect_eq, Act.run_bind_of_ok hstop, Act.run_bind_of_ok (run_change _ _),
    Act.run_bind_of_ok htransport, hsocket]
  unfold teardown
  rw [← List.append_assoc, ← List.append_assoc]

/-- A session that is given back to the end failed to close in the expected ways only. -/
theorem closesInOrder_of_run_disconnect (hnames : site.peer.HasDistinctNames)
    (h : run disconnect site = (.ok (), after)) : site.peer.ClosesInOrder := by
  rw [disconnect_eq] at h
  obtain ⟨_, site₁, hstop, h⟩ := Act.run_bind_eq_ok_iff.1 h
  have hforward : ∀ forward, site.peer.forward = some forward →
      forward.ClosesInOrder site.peer.network := fun forward hforward =>
    closesInOrder_of_run_stopForward hforward (hnames forward hforward) hstop
  -- From here on it is known which state each part was completed on.
  obtain ⟨machine₁, hrun⟩ := run_stopForward hnames hforward
  obtain rfl := (Prod.mk.inj (hstop.symm.trans hrun)).2
  rw [Act.run_bind_of_ok (run_change _ _)] at h
  obtain ⟨_, site₂, htransport, hsocket⟩ := Act.run_bind_eq_ok_iff.1 h
  have hclose : ∀ resource, site.peer.transport = some resource →
      ∀ fault, site.peer.network.fault? (.close resource.kind) = some fault →
        isCloseFault fault = true := by
    intro resource hresource
    unfold closeTransport at htransport
    rw [Act.run_bind_of_ok (run_session _)] at htransport
    dsimp only at htransport
    rw [hresource] at htransport
    obtain ⟨_, _, htolerate, -⟩ := Act.run_bind_eq_ok_iff.1 htransport
    have hhandled := handled_of_run_tolerate htolerate
    rw [fault?_close] at hhandled
    exact hhandled
  refine ⟨hforward, hclose, fun resource hresource => ?_⟩
  obtain ⟨machine₂, hrun⟩ := run_closeTransport
    { machine := machine₁, peer :=
      { site.peer with
        calls := site.peer.calls ++ site.peer.forward.toList.flatMap Forward.stopCalls
        forward := none } } hclose
  obtain rfl := (Prod.mk.inj (htransport.symm.trans hrun)).2
  unfold closeSocket at hsocket
  rw [Act.run_bind_of_ok (run_session _)] at hsocket
  dsimp only at hsocket
  rw [hresource] at hsocket
  obtain ⟨_, _, htolerate, -⟩ := Act.run_bind_eq_ok_iff.1 hsocket
  have hhandled := handled_of_run_tolerate htolerate
  rw [fault?_close] at hhandled
  exact hhandled

/-- Where the network and the forward close in order, so does a session whose protocol session and
socket are what they should be. -/
theorem closesInOrder_of_kinds {s : Ssh}
    (hforward : ∀ forward, s.forward = some forward → forward.ClosesInOrder s.network)
    (htransport : ∀ resource, s.transport = some resource → resource.kind = .transport)
    (hsocket : ∀ resource, s.socket = some resource → resource.kind = .socket)
    (hclose : s.network.ClosesInOrder) : s.ClosesInOrder where
  forward := hforward
  transport resource hresource fault hfault := by
    rw [htransport resource hresource] at hfault
    simpa [isCloseFault] using hclose.transport fault hfault
  socket resource hresource fault hfault := by
    rw [hsocket resource hresource] at hfault
    exact hclose.socket fault hfault

/-! ## A session without a forward -/

/-- A session without a forward, whose protocol session and socket are what they should be, and with
the decision that it was to be opened with. -/
structure Fitted (decision : Decision) (site : Site Ssh) : Prop where
  /-- The decision is the one that was given. -/
  decision_eq : site.peer.decision = decision
  /-- There is no forward. -/
  forward_eq : site.peer.forward = none
  /-- The protocol session is one. -/
  transport_kind : ∀ resource, site.peer.transport = some resource → resource.kind = .transport
  /-- The socket is one. -/
  socket_kind : ∀ resource, site.peer.socket = some resource → resource.kind = .socket

/-- A session that holds nothing is fitted. -/
theorem Fitted.of_none {decision : Decision} {site : Site Ssh}
    (hdecision : site.peer.decision = decision) (hforward : site.peer.forward = none)
    (htransport : site.peer.transport = none) (hsocket : site.peer.socket = none) :
    Fitted decision site where
  decision_eq := hdecision
  forward_eq := hforward
  transport_kind := by simp [htransport]
  socket_kind := by simp [hsocket]

/-- Asking the network for something leaves a session fitted. -/
theorem keeps_ask_fitted {decision : Decision} (call : NetworkCall) (operation : Operation) :
    (ask call operation).Keeps (Fitted decision) := by
  intro site h
  rw [run_ask_snd]
  exact ⟨h.decision_eq, h.forward_eq, h.transport_kind, h.socket_kind⟩

/-- A new resource leaves a session fitted. -/
theorem keeps_openResource_fitted {decision : Decision} (kind : ResourceKind) :
    (openResource kind).Keeps (Fitted decision) :=
  fun _ h => ⟨h.decision_eq, h.forward_eq, h.transport_kind, h.socket_kind⟩

/-- A new resource is of the kind that was asked for. -/
theorem kind_of_openResource {kind : ResourceKind} {site site' : Site Ssh} {resource : Resource}
    (h : run (openResource kind) site = (.ok resource, site')) : resource.kind = kind := by
  obtain rfl := Except.ok.inj (congrArg Prod.fst h)
  rfl

/-- Making a protocol session leaves a session fitted. -/
theorem keeps_openTransport_fitted {decision : Decision} (login : Login) (seconds : Float) :
    (openTransport login seconds).Keeps (Fitted decision) := by
  refine (keeps_ask_fitted _ _).bind fun _ => ?_
  refine (keeps_openResource_fitted _).bind_of_run fun socket _ _ hsocket => ?_
  refine .bind ?_ fun _ => (keeps_ask_fitted _ _).bind fun _ => ?_
  · intro site h
    refine ⟨h.decision_eq, h.forward_eq, h.transport_kind, fun resource hresource => ?_⟩
    cases hresource
    exact kind_of_openResource hsocket
  · refine (keeps_openResource_fitted _).bind_of_run fun transport _ _ htransport => ?_
    intro site h
    refine ⟨h.decision_eq, h.forward_eq, fun resource hresource => ?_, h.socket_kind⟩
    cases hresource
    exact kind_of_openResource htransport

/-- Where the network closes in order, so does a session without a forward that is fitted. -/
theorem Fitted.closesInOrder {decision : Decision} (h : Fitted decision site)
    (hclose : site.peer.network.ClosesInOrder) : site.peer.ClosesInOrder := by
  refine closesInOrder_of_kinds (fun forward hforward => ?_) h.transport_kind h.socket_kind hclose
  rw [h.forward_eq] at hforward
  cases hforward

/-- Giving back a session without a forward leaves nothing of it, and no fault comes out. -/
theorem run_disconnect_of_fitted {decision : Decision} {site : Site Ssh} (h : Fitted decision site)
    (hclose : site.peer.network.ClosesInOrder) :
    ∃ machine calls, run disconnect site =
      (.ok (),
        { machine, peer := { site.peer with calls, socket := none, transport := none } }) := by
  have hnames : site.peer.HasDistinctNames := by
    intro forward hforward
    rw [h.forward_eq] at hforward
    cases hforward
  obtain ⟨machine, hrun⟩ := run_disconnect hnames (h.closesInOrder hclose)
  refine ⟨machine, site.peer.calls ++ site.peer.teardown, ?_⟩
  rw [hrun, ← h.forward_eq]

end Ssh

end SecureForward
