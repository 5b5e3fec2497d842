import SecureForward.Proofs.Ssh.Ledger
import SecureForward.Ssh.Accept

/-!
# Work over a session

A forward comes and goes, and clients are served on it, without any effect on the links of the
session. `Steady s` says of a site that since the session was `s` the links, the network and the
presence of a forward are the same, that the forward holds what it should, and that the ledger is in
order.

Every step keeps this, whatever it ends with. A close has to be looked at: it is neutral because the
forward is fitted, so what is closed there is a listener or an end of a connection. The runs are the
induction on what happens on a connection (`Steady.relayLoop`) and the one on the clients that
arrive (`Steady.serveLoop`).
-/

namespace SecureForward

open Act (run)

namespace NetworkCall

/-- A call that opens and closes nothing is neutral. -/
theorem isNeutral_of_none {call : NetworkCall} (hopened : call.opened? = none)
    (hclosed : call.closed? = none) : call.IsNeutral := by
  refine ⟨hopened, fun resource hresource => ?_⟩
  rw [hclosed] at hresource
  cases hresource

/-- Closing what is no link is neutral. -/
theorem isNeutral_close {resource : Resource} (h : resource.kind.isLink = false) :
    (close resource).IsNeutral := by
  refine ⟨rfl, fun other hother => ?_⟩
  obtain rfl := Option.some.inj hother
  exact h

end NetworkCall

open NetworkCall (isNeutral_of_none isNeutral_close)

/-- Closing what a client brings fails, if it does, as the operating system makes it fail. -/
structure Visit.ClosesInOrder (visit : Visit) : Prop where
  /-- The client is closed, or the system refuses it. -/
  client : ∀ fault, visit.closeClientFault = some fault → fault.isSystem = true
  /-- The channel is closed, or the system refuses it. -/
  channel : ∀ fault, visit.closeChannelFault = some fault → fault.isSystem = true

namespace Forward.Fitted

variable {forward : Forward}

/-- A forward without a connection that it had is fitted. -/
theorem drop (h : forward.Fitted) (name : String) :
    Fitted { forward with connections := forward.connections.filter (·.1 != name) } where
  listener := h.listener
  names := h.names.sublist (List.filter_sublist.map _)
  connections entry hentry := h.connections entry (List.mem_of_mem_filter hentry)

/-- Another connection of the same name leaves the names in a table as they are. -/
theorem names_replaced (connections : List (String × Connection)) (name : String)
    (connection : Connection) :
    (connections.map fun entry => if entry.1 == name then (name, connection) else entry).map
      Prod.fst =
      connections.map Prod.fst := by
  rw [List.map_map]
  refine List.map_congr_left fun entry _ => ?_
  by_cases h : entry.1 = name
  · simp [h]
  · simp [h]

/-- A forward with one more connection, or another one of the same name, is fitted. -/
theorem put (h : forward.Fitted) {connection : Connection} (hconnection : connection.Fitted)
    (name : String) :
    Fitted { forward with connections :=
        if forward.connections.any (·.1 == name) then
          forward.connections.map fun entry => if entry.1 == name then (name, connection) else entry
        else forward.connections ++ [(name, connection)] } := by
  by_cases hknown : forward.connections.any (·.1 == name) = true
  · simp only [hknown, if_true]
    refine ⟨h.listener, ?_, fun entry hentry => ?_⟩
    · rw [names_replaced]
      exact h.names
    · obtain ⟨old, hold, rfl⟩ := List.mem_map.1 hentry
      split
      · exact hconnection
      · exact h.connections old hold
  · have hnew : name ∉ forward.connections.map Prod.fst := by
      simpa [List.any_eq_true] using hknown
    simp only [hknown]
    refine ⟨h.listener, ?_, fun entry hentry => ?_⟩
    · simp only [Bool.false_eq_true, if_false, List.map_append, List.map_singleton]
      exact h.names.append (List.nodup_singleton _) (List.disjoint_singleton.2 hnew)
    · rcases List.mem_append.1 hentry with hentry | hentry
      · exact h.connections entry hentry
      · rw [List.mem_singleton.1 hentry]
        exact hconnection

end Forward.Fitted

namespace Ssh

variable {s : Ssh} {request : ForwardRequest}

/-- Since the session was `s` its links and the presence of a forward stayed the same, and what was
done is in order. -/
structure Steady (s : Ssh) (site : Site Ssh) : Prop where
  /-- The network is the same. -/
  network_eq : site.peer.network = s.network
  /-- The socket is the same. -/
  socket_eq : site.peer.socket = s.socket
  /-- The protocol session is the same. -/
  transport_eq : site.peer.transport = s.transport
  /-- There is a forward if there was one. -/
  isSome_eq : site.peer.forward.isSome = s.forward.isSome
  /-- The forward is fitted. -/
  fitted : ∀ forward, site.peer.forward = some forward → forward.Fitted
  /-- The ledger is in order. -/
  ledger : site.peer.Ledger

namespace Steady

/-- Where there was no forward there is none. -/
theorem forward_eq_none {site : Site Ssh} (h : Steady s site) (hforward : s.forward = none) :
    site.peer.forward = none := by
  have hisSome := h.isSome_eq
  rw [hforward] at hisSome
  simpa using hisSome

/-! ## Single steps -/

/-- A report leaves the session alone. -/
theorem report (event : Event) : (report event).Keeps (Steady s) :=
  fun _ h => ⟨h.network_eq, h.socket_eq, h.transport_eq, h.isSome_eq, h.fitted, h.ledger⟩

/-- A neutral call is entered. -/
theorem note {call : NetworkCall} (hcall : call.IsNeutral) : (note call).Keeps (Steady s) :=
  fun _ h => ⟨h.network_eq, h.socket_eq, h.transport_eq, h.isSome_eq, h.fitted,
    h.ledger.note hcall rfl rfl rfl⟩

/-- Asking for an operation is a call, whatever is answered. -/
theorem ask {call : NetworkCall} (hcall : call.IsNeutral) (operation : Operation) :
    (ask call operation).Keeps (Steady s) :=
  (note hcall).bind fun _ => keeps_meet operation

/-- A resource that is no link is opened. -/
theorem openResource {kind : ResourceKind} (hkind : kind.isLink = false) :
    (openResource kind).Keeps (Steady s) := by
  intro site h
  refine ⟨h.network_eq, h.socket_eq, h.transport_eq, h.isSome_eq, h.fitted,
    h.ledger.openResource rfl rfl fun resource hlink => ?_⟩
  have hother : resource ∉ [({ kind, number := site.peer.opened } : Resource)] := by
    intro hmem
    rw [List.mem_singleton.1 hmem, hkind] at hlink
    cases hlink
  rw [List.count_eq_zero.2 hother]
  rfl

/-- The forward is changed to one that is fitted. -/
theorem changeForward {f : Forward → Forward}
    (hf : ∀ forward, forward.Fitted → (f forward).Fitted) :
    (changeForward f).Keeps (Steady s) := by
  intro site h
  refine ⟨h.network_eq, h.socket_eq, h.transport_eq, ?_, fun forward hforward => ?_,
    h.ledger.of_eq rfl rfl rfl⟩
  · exact Option.isSome_map.trans h.isSome_eq
  · obtain ⟨old, hold, rfl⟩ := Option.map_eq_some_iff.1 hforward
    exact hf old (h.fitted old hold)

/-- Closing an end of a connection is a neutral call, whatever it ends with. -/
theorem closeEnd {resource : Resource} (hresource : resource.kind.isLink = false)
    (fault : Option Fault) : (closeEnd resource fault).Keeps (Steady s) :=
  (note (isNeutral_close hresource)).bind fun _ => keeps_fail? fault

/-- A fault that is tolerated is reported. -/
theorem tolerate {handled : Fault → Bool} {event : String → Event} {task : Task Unit}
    (htask : task.Keeps (Steady s)) : (tolerate handled event task).Keeps (Steady s) :=
  keeps_tolerate (fun text => report (event text)) htask

/-! ## Stopping the forward -/

/-- The listener of a forward is closed. -/
theorem closeListener {forward : Forward} (h : forward.Fitted) :
    (closeListener forward).Keeps (Steady s) := by
  unfold Ssh.closeListener
  cases hlistener : forward.listener with
  | none => exact .pure ()
  | some listener =>
    have hkind : listener.kind.isLink = false := by
      rw [h.listener listener hlistener]
      rfl
    refine .bind (tolerate (ask (isNeutral_close hkind) _)) fun _ => changeForward fun _ hold => ?_
    exact ⟨(fun _ hnone => by cases hnone), hold.names, hold.connections⟩

/-- A connection is dropped. -/
theorem dropConnection (name : String) : (dropConnection name).Keeps (Steady s) := by
  refine keeps_of_session fun site h => ?_
  cases hlookup : site.peer.forward.bind (·.connections.lookup name) with
  | none => exact h
  | some connection =>
    obtain ⟨forward, hforward, hlookup⟩ := Option.bind_eq_some_iff.1 hlookup
    obtain ⟨before, after, hconnections, -⟩ := List.lookup_eq_some_iff.1 hlookup
    have hfitted := (h.fitted forward hforward).connections (name, connection)
      (by rw [hconnections]; exact List.mem_append_right _ List.mem_cons_self)
    have hclose (resource : Resource) (hend : resource ∈ connection.ends) (fault : Option Fault) :
        (Ssh.tolerate Fault.isSystem (.endCloseFailed name) (Ssh.closeEnd resource fault)).Keeps
          (Steady s) := tolerate (closeEnd (hfitted.ends resource hend) fault)
    refine Act.Keeps.bind (changeForward fun _ hold => hold.drop name) (fun _ => ?_) site h
    exact (hclose _ (by simp [Connection.ends]) _).bind fun _ =>
      hclose _ (by simp [Connection.ends]) _

/-- Connections are dropped. -/
theorem dropConnections (names : List String) : (dropConnections names).Keeps (Steady s) := by
  induction names with
  | nil => exact .pure ()
  | cons name names ih => exact (dropConnection name).bind fun _ => ih

/-- The accepting thread is waited for. -/
theorem joinThread (forward : Forward) : (joinThread forward).Keeps (Steady s) := by
  unfold Ssh.joinThread
  cases forward.thread with
  | none => exact .pure ()
  | some name =>
    refine .bind (note (isNeutral_of_none rfl rfl)) fun _ => changeForward fun _ hold => ?_
    exact ⟨hold.listener, hold.names, hold.connections⟩

/-- The forward is stopped. -/
theorem stopForward : stopForward.Keeps (Steady s) := by
  refine keeps_of_session fun site h => ?_
  cases hforward : site.peer.forward with
  | none => exact h
  | some forward =>
    refine Act.Keeps.bind (changeForward fun _ hold => ?_) (fun _ => ?_) site h
    · exact ⟨hold.listener, hold.names, hold.connections⟩
    · exact (closeListener (h.fitted forward hforward)).bind fun _ =>
        (dropConnections _).bind fun _ =>
        (joinThread forward).bind fun _ => report _

/-! ## Starting a forward -/

/-- A listener listens. -/
theorem bindListener (request : ForwardRequest) : (bindListener request).Keeps (Steady s) := by
  refine .bind (ask (isNeutral_of_none rfl rfl) _) fun _ => ?_
  refine .bind (ask (isNeutral_of_none rfl rfl) _) fun _ => ?_
  exact .bind (ask (isNeutral_of_none rfl rfl) _) fun _ => ask (isNeutral_of_none rfl rfl) _

/-- A listener is announced. -/
theorem announce (request : ForwardRequest) (listener : Resource) :
    (announce request listener).Keeps (Steady s) := by
  refine .bind (ask (isNeutral_of_none rfl rfl) _) fun _ => keeps_session.bind fun t => ?_
  refine .bind (.ofExcept _) fun ⟨_⟩ => .bind (ask (isNeutral_of_none rfl rfl) _) fun _ => ?_
  exact .bind (.ofExcept _) fun ⟨_⟩ => (report _).bind fun _ => .pure _

/-- A forward is started. -/
theorem startForward (request : ForwardRequest) : (startForward request).Keeps (Steady s) := by
  refine .bind (note (isNeutral_of_none rfl rfl)) fun _ => ?_
  refine (openResource rfl).bind_of_run fun listener _ _ hlistener => ?_
  have hkind : listener.kind.isLink = false := by
    rw [kind_of_openResource hlistener]
    rfl
  refine .bind (.onFault (bindListener request) fun fault => ?_) fun _ => announce request listener
  exact .ite (ask (isNeutral_close hkind) _) (.pure ())

end Steady

/-- A forward that was announced has the listener, is running, and has no connections. -/
theorem of_announce {listener : Resource} {site after : Site Ssh} {forward : Forward}
    (h : run (announce request listener) site = (.ok forward, after)) :
    forward.listener = some listener ∧ forward.isRunning = true ∧ forward.connections = [] := by
  obtain ⟨_, _, -, h⟩ := Act.run_bind_eq_ok_iff.1 h
  rw [Act.run_bind_of_ok (run_session _)] at h
  obtain ⟨_, h⟩ := run_writable_bind_eq_ok_iff.1 h
  obtain ⟨_, _, -, h⟩ := Act.run_bind_eq_ok_iff.1 h
  obtain ⟨_, h⟩ := run_writable_bind_eq_ok_iff.1 h
  obtain ⟨_, _, -, h⟩ := Act.run_bind_eq_ok_iff.1 h
  obtain rfl := Except.ok.inj (congrArg Prod.fst h)
  exact ⟨rfl, rfl, rfl⟩

/-- A forward that was started is fitted and running, and has no connections. -/
theorem of_startForward {site after : Site Ssh} {forward : Forward}
    (h : run (startForward request) site = (.ok forward, after)) :
    forward.Fitted ∧ forward.isRunning = true ∧ forward.connections = [] := by
  obtain ⟨_, _, -, h⟩ := Act.run_bind_eq_ok_iff.1 h
  obtain ⟨listener, _, hlistener, h⟩ := Act.run_bind_eq_ok_iff.1 h
  obtain ⟨_, _, -, h⟩ := Act.run_bind_eq_ok_iff.1 h
  obtain ⟨hresource, hrunning, hempty⟩ := of_announce h
  refine ⟨⟨fun resource hheld => ?_, ?_, ?_⟩, hrunning, hempty⟩
  · obtain rfl := Option.some.inj (hresource.symm.trans hheld)
    exact kind_of_openResource hlistener
  · rw [hempty]
    exact List.nodup_nil
  · rw [hempty]
    exact fun _ hentry => by cases hentry

namespace Steady

/-! ## Relaying a connection -/

/-- One chunk is copied. -/
theorem copyChunk (source destination : Resource) (outcome : Option (Except Fault Text.Utf8.Bytes))
    (fault : Option Fault) : (copyChunk source destination outcome fault).Keeps (Steady s) := by
  unfold Ssh.copyChunk
  cases outcome with
  | none => exact .pure true
  | some outcome =>
    refine .bind (note (isNeutral_of_none rfl rfl)) fun _ => .bind (.ofExcept _) fun data => ?_
    refine .ite (.pure false) ?_
    exact .bind (note (isNeutral_of_none rfl rfl)) fun _ => (keeps_fail? _).bind fun _ => .pure true

/-- Data is waited for and copied. -/
theorem exchange (connection : Connection) (event : RelayEvent) :
    (exchange connection event).Keeps (Steady s) := by
  refine .bind (note (isNeutral_of_none rfl rfl)) fun _ => .ite (keeps_session.bind fun t =>
    .bind (note (isNeutral_of_none rfl rfl)) fun _ => ?counted) ?uncounted
  case counted | uncounted =>
    refine .when stopForward ((keeps_fail? _).bind fun _ => ?_)
    exact (copyChunk _ _ _ _).bind fun _ => .ite (.pure false) (copyChunk _ _ _ _)

/-- Looking whether the forward is running changes nothing. -/
theorem isRunning : isRunning.Keeps (Steady s) := keeps_session.bind fun _ => .pure _

/-- A connection is relayed. -/
theorem relayLoop (connection : Connection) :
    (events : List RelayEvent) → (relayLoop connection events).Keeps (Steady s)
  | [] => .pure ()
  | event :: events => by
    unfold Ssh.relayLoop
    refine isRunning.bind fun _ => .ite (.pure ()) ?_
    cases event.closed with
    | none =>
      exact (exchange connection event).bind fun _ => .ite (relayLoop connection events) (.pure ())
    | some closed =>
      cases closed with
      | true => exact .pure ()
      | false =>
        cases events with
        | nil => exact (exchange connection .quiet).bind fun _ => .pure ()
        | cons event events =>
          exact (exchange connection event).bind fun _ =>
            .ite (relayLoop connection events) (.pure ())

/-! ## Serving clients -/

/-- A client is served. -/
theorem handleClient {client : Resource} (hclient : client.kind.isLink = false) {visit : Visit}
    (hvisit : visit.ClosesInOrder) : (handleClient request client visit).Keeps (Steady s) := by
  have hchannel : (openChannel request visit).Keeps (Steady s) :=
    .bind (note (isNeutral_of_none rfl rfl)) fun _ => (keeps_fail? _).bind fun _ => openResource rfl
  refine hchannel.attempt.bind_of_run fun outcome site _ hrun => ?_
  cases outcome with
  | error fault =>
    refine .ite (.throw fault) ?_
    exact (report _).bind fun _ => closeEnd hclient _
  | ok channel =>
    have hkind : channel.kind.isLink = false := by
      have hopened : run (openChannel request visit) site =
          (.ok channel, (run (openChannel request visit) site).2) :=
        Prod.ext (Except.ok.inj (congrArg Prod.fst hrun)) rfl
      obtain ⟨_, _, -, hopened⟩ := Act.run_bind_eq_ok_iff.1 hopened
      obtain ⟨_, _, -, hopened⟩ := Act.run_bind_eq_ok_iff.1 hopened
      rw [kind_of_openResource hopened]
      rfl
    have hconnection : Connection.Fitted
        { client, channel, clientFault := visit.closeClientFault,
          channelFault := visit.closeChannelFault } :=
      ⟨by simp [Connection.ends, hkind, hclient], hvisit.channel, hvisit.client⟩
    refine .bind (changeForward fun _ hold => hold.put hconnection visit.name) fun _ => ?_
    refine (report _).bind fun _ => .ensuring ?_ (dropConnection visit.name)
    exact .ensuring (tolerate (relayLoop _ _)) (report _)

/-- The thread of a connection is run. -/
theorem runThread {task : Task Unit} (htask : task.Keeps (Steady s)) :
    (runThread task).Keeps (Steady s) := by
  refine .bind (note (isNeutral_of_none rfl rfl)) fun _ => htask.attempt.bind fun outcome => ?_
  cases outcome with
  | ok => exact .pure ()
  | error fault => exact keeps_session.bind fun t => .ite (.throw fault) (.pure ())

/-- A client is accepted and served. -/
theorem welcome {visit : Visit} (hvisit : visit.ClosesInOrder) :
    (welcome request visit).Keeps (Steady s) := by
  refine (openResource rfl).bind_of_run fun client _ _ hclient => ?_
  refine .bind (note (isNeutral_of_none rfl rfl)) fun _ => runThread (handleClient ?_ hvisit)
  rw [kind_of_openResource hclient]
  rfl

/-- Clients are accepted and served one after the other. -/
theorem serveLoop {arrivals : List Arrival}
    (h : ∀ arrival ∈ arrivals, ∀ visit, arrival.outcome = .ok visit → visit.ClosesInOrder) :
    (serveLoop request arrivals).Keeps (Steady s) := by
  have hmark : markStopped.Keeps (Steady s) :=
    changeForward fun _ hold => ⟨hold.listener, hold.names, hold.connections⟩
  induction arrivals with
  | nil =>
    refine isRunning.bind fun _ => .ite ?_ (.pure ())
    exact .bind (note (isNeutral_of_none rfl rfl)) fun _ => hmark
  | cons arrival arrivals ih =>
    have hrest := ih fun other hother => h other (List.mem_cons_of_mem _ hother)
    unfold Ssh.serveLoop
    refine isRunning.bind fun _ => .ite (.pure ()) ?_
    refine .bind (note (isNeutral_of_none rfl rfl)) fun _ => ?_
    refine .when hmark ?_
    cases houtcome : arrival.outcome with
    | ok visit =>
      exact (welcome (h arrival List.mem_cons_self visit houtcome)).bind fun _ => hrest
    | error fault =>
      exact .ite hrest (.ite (.throw fault) (isRunning.bind fun _ => .ite (report _) (.pure ())))

/-- Clients are served on the forward if there is one. -/
theorem serve {arrivals : List Arrival}
    (h : ∀ arrival ∈ arrivals, ∀ visit, arrival.outcome = .ok visit → visit.ClosesInOrder) :
    (serve arrivals).Keeps (Steady s) := by
  refine keeps_session.bind fun t => ?_
  cases t.forward with
  | none => exact .pure ()
  | some forward => exact serveLoop h

end Steady

end Ssh

end SecureForward
