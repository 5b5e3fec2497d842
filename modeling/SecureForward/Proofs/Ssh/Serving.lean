import SecureForward.Proofs.Ssh.Listener
import SecureForward.Proofs.Ssh.Relay

/-!
# Clients that are served

Clients arrive one after the other, and each is served to its end: it is turned away, or it is given
a channel and relayed, and then what was opened for it is closed, whatever the relay ended with.
`Entered` says what some calls have done for clients and which resources they opened and closed;
`Tended` says it of a session.

`tended_handleClient` is one client with its three ways out, `tended_welcome` the step, and
`served_serveLoop` the induction on the arrivals. The accepting goes on over the arrivals in
`metBy`, which ends with the first one that stops the forward or is a fault other than running out
of time.
-/

namespace SecureForward

open Act (run)

/-- The call waits for a client, or hands it to its handler, or opens its channel. -/
def NetworkCall.isReception : NetworkCall → Bool
  | .accept | .startThread none | .openChannel _ _ _ _ => true
  | _ => false

namespace Visit

/-- What goes wrong with a client is what may: its channel is refused, or the system refuses to
close something. -/
structure IsOrderly (visit : Visit) : Prop extends visit.ClosesInOrder where
  /-- A channel that is not opened turns the client away. -/
  refused : ∀ fault, visit.channelFault = some fault → Ssh.turnsAway fault = true

/-- The calls that hand a client to its handler and open its channel. -/
def reception (request : ForwardRequest) (visit : Visit) : List NetworkCall :=
  [.startThread none, .openChannel request.targetHost request.targetPort visit.host visit.port]

/-- The channel that is opened for a client, if it is not turned away. -/
def channels (visit : Visit) (number : Nat) : List Resource :=
  if visit.channelFault.isSome then [] else [⟨.channel, number⟩]

/-- The resources that are opened for a client, the first of which has this number. -/
def opens (visit : Visit) (number : Nat) : List Resource :=
  ⟨.client, number⟩ :: visit.channels (number + 1)

/-- The connection of a client over this channel. -/
def connection (visit : Visit) (client channel : Resource) : Connection :=
  { client, channel, clientFault := visit.closeClientFault,
    channelFault := visit.closeChannelFault }

/-- The steps of the relay of a client that is not turned away. -/
def steps (visit : Visit) (isRunning : Bool) : List RelayStep :=
  if visit.channelFault.isSome then []
  else Ssh.transcript none (if isRunning then Ssh.waits visit.events else [])

/-- The forward is stopped while the client is served. -/
def stops (visit : Visit) (isRunning : Bool) : Bool :=
  (visit.steps isRunning).any (·.stops)

/-- The fault that leaves the handler of a client. -/
def fault? (visit : Visit) (isRunning : Bool) : Option Fault :=
  if visit.channelFault.isSome then visit.closeClientFault
  else ((visit.steps isRunning).findSome? (·.fault?)).filter (!Ssh.endsRelay ·)

end Visit

/-- The resources that are opened for some clients, the first of which has this number. -/
def opensFrom : List Visit → Nat → List Resource
  | [], _ => []
  | visit :: visits, number =>
    visit.opens number ++ opensFrom visits (number + (visit.opens number).length)

namespace Arrival

/-- The calls that receive what arrives. -/
def reception (request : ForwardRequest) (arrival : Arrival) : List NetworkCall :=
  .accept ::
    match arrival.outcome with
    | .ok visit => visit.reception request
    | .error _ => []

/-- The client that arrives. -/
def visit? (arrival : Arrival) : Option Visit :=
  arrival.outcome.toOption

/-- The accepting ends with this arrival: the forward is stopped, or waiting has a fault other than
running out of time. Where clients are handled on the accepting thread, a fault that leaves a
handler ends it as well. -/
def isLast (sharesThread : Bool) (arrival : Arrival) : Bool :=
  arrival.stops ||
    match arrival.outcome with
    | .ok visit => visit.stops true || (sharesThread && (visit.fault? true).isSome)
    | .error fault => !fault.isTimeout

/-- The arrivals up to the one with which the accepting ends. -/
def upToLast (sharesThread : Bool) : List Arrival → List Arrival
  | [] => []
  | arrival :: arrivals =>
    if arrival.isLast sharesThread then [arrival] else arrival :: upToLast sharesThread arrivals

end Arrival

/-- The forward after a client was served. -/
def Forward.afterVisit (forward : Forward) (visit : Visit) : Forward :=
  if visit.stops forward.isRunning then forward.stopped else forward

/-- The forward after an arrival was waited for. -/
def Forward.meeting (forward : Forward) (arrival : Arrival) : Forward :=
  { forward with isRunning := forward.isRunning && !arrival.stops }

/-- The forward with one connection. -/
def Forward.holding (forward : Forward) (name : String) (connection : Connection) : Forward :=
  { forward with connections := [(name, connection)] }

namespace Ssh

variable {site : Site Ssh} {forward : Forward} {request : ForwardRequest}

/-! ## What is entered for clients -/

/-- Some calls receive clients in this way, open these resources, and close those and perhaps the
listener. -/
structure Entered (reception : List NetworkCall) (opened closed : List Resource)
    (added : List NetworkCall) :
    Prop where
  /-- Clients are received. -/
  reception : added.filter (·.isReception) = reception
  /-- Resources are opened. -/
  opened : openings added = opened
  /-- Resources are closed. -/
  closed : ∀ resource : Resource, resource.kind ≠ .listener →
    (closings added).count resource = closed.count resource

/-- Nothing is entered. -/
theorem Entered.nil : Entered [] [] [] [] := ⟨rfl, rfl, fun _ _ => rfl⟩

/-- What is entered by some calls and by others is entered by all of them. -/
theorem Entered.append {reception reception' added added' : List NetworkCall}
    {opened opened' closed closed' : List Resource} (h : Entered reception opened closed added)
    (h' : Entered reception' opened' closed' added') :
    Entered (reception ++ reception') (opened ++ opened') (closed ++ closed')
      (added ++ added') where
  reception := by rw [List.filter_append, h.reception, h'.reception]
  opened := by rw [openings_append, h.opened, h'.opened]
  closed resource hkind := by
    rw [closings_append, List.count_append, List.count_append, h.closed resource hkind,
      h'.closed resource hkind]

/-- Calls that are entered nowhere. -/
theorem entered_of_quiet {calls : List NetworkCall}
    (h : ∀ call ∈ calls, call.IsQuiet ∧ call.isReception = false) : Entered [] [] [] calls where
  reception := List.filter_eq_nil_iff.2 fun call hcall => by simp [(h call hcall).2]
  opened := openings_of_quiet fun call hcall => (h call hcall).1
  closed _ _ := by rw [closings_of_quiet fun call hcall => (h call hcall).1]

/-- The calls of a relay open and close nothing, and receive nobody. -/
theorem quiet_of_records {connection : Connection} {calls : List NetworkCall}
    {steps : List RelayStep}
    (h : Records connection calls steps) :
    ∀ call ∈ calls, call.IsQuiet ∧ call.isReception = false := by
  intro call hcall
  rcases h.mem hcall with hcount | ⟨step, -, rfl⟩
  · cases call with
    | countConnections => exact ⟨⟨rfl, rfl⟩, rfl⟩
    | _ => cases hcount
  · cases step <;> exact ⟨⟨rfl, rfl⟩, rfl⟩

/-- Closing some resources is entered as that. -/
theorem entered_close (resources : List Resource) :
    Entered [] [] resources (resources.map .close) where
  reception := by
    rw [List.filter_eq_nil_iff]
    intro call hcall
    obtain ⟨_, -, rfl⟩ := List.mem_map.1 hcall
    exact Bool.false_ne_true
  opened := openings_map_close resources
  closed _ _ := by rw [closings_map_close]

/-- Stopping the forward closes its connections. -/
theorem entered_stopCalls (forward : Forward)
    (h : ∀ resource, forward.listener = some resource → resource.kind = .listener) :
    Entered [] [] (forward.connections.flatMap (·.2.ends)) forward.stopCalls where
  reception := by
    rw [List.filter_eq_nil_iff]
    intro call hcall
    rcases List.mem_append.1 hcall with hcall | hcall
    · rcases List.mem_append.1 hcall with hcall | hcall
      · obtain ⟨_, -, rfl⟩ := List.mem_map.1 hcall
        exact Bool.false_ne_true
      · obtain ⟨_, -, hcall⟩ := List.mem_flatMap.1 hcall
        obtain ⟨_, -, rfl⟩ := List.mem_map.1 hcall
        exact Bool.false_ne_true
    · obtain ⟨_, -, rfl⟩ := List.mem_map.1 hcall
      exact Bool.false_ne_true
  opened := forward.openings_stopCalls
  closed resource hkind := by
    have hlistener : resource ∉ forward.listener.toList := fun hmem =>
      hkind (h resource (Option.mem_toList.1 hmem))
    rw [forward.closings_stopCalls, Forward.resources, List.count_append,
      List.count_eq_zero.2 hlistener, Nat.zero_add]

/-- Since the session was `s`, clients were received in this way, the resources were opened and
closed, and the forward is this one; nothing else changed. -/
def Tended (s : Ssh) (reception : List NetworkCall) (opened closed : List Resource)
    (forward : Forward) (s' : Ssh) : Prop :=
  ∃ added,
    s' = { s with
      calls := s.calls ++ added, opened := s.opened + opened.length, forward := some forward } ∧
    Entered reception opened closed added

/-- Serving clients leaves the network as it is. -/
theorem Tended.network_eq {s s' : Ssh} {reception : List NetworkCall}
    {opened closed : List Resource}
    (h : Tended s reception opened closed forward s') : s'.network = s.network := by
  obtain ⟨added, rfl, -⟩ := h
  rfl

/-- Each resource that is opened takes a number. -/
theorem Tended.opened_eq {s s' : Ssh} {reception : List NetworkCall} {opened closed : List Resource}
    (h : Tended s reception opened closed forward s') : s'.opened = s.opened + opened.length := by
  obtain ⟨added, rfl, -⟩ := h
  rfl

/-- The forward is the one that is left. -/
theorem Tended.forward_eq {s s' : Ssh} {reception : List NetworkCall}
    {opened closed : List Resource}
    (h : Tended s reception opened closed forward s') : s'.forward = some forward := by
  obtain ⟨added, rfl, -⟩ := h
  rfl

/-- What was done for clients one after the other. -/
theorem Tended.trans {s s' s'' : Ssh} {reception reception' : List NetworkCall}
    {opened opened' closed closed' : List Resource} {forward' : Forward}
    (h : Tended s reception opened closed forward s')
    (h' : Tended s' reception' opened' closed' forward' s'') :
    Tended s (reception ++ reception') (opened ++ opened') (closed ++ closed') forward' s'' := by
  obtain ⟨added, rfl, hadded⟩ := h
  obtain ⟨added', rfl, hadded'⟩ := h'
  refine ⟨added ++ added', ?_, hadded.append hadded'⟩
  simp only [List.append_assoc, List.length_append, Nat.add_assoc]

/-- The forward has no connections, and its listener is one that is closed in order. -/
structure Ready (site : Site Ssh) (forward : Forward) : Prop where
  /-- There is a forward. -/
  forward_eq : site.peer.forward = some forward
  /-- Nobody is connected. -/
  empty : forward.connections = []
  /-- The listener is one. -/
  listener : ∀ resource, forward.listener = some resource → resource.kind = .listener
  /-- The listener is closed, or the system refuses it. -/
  closes : ∀ fault, site.peer.network.fault? (.close .listener) = some fault → fault.isSystem = true

/-- A forward that was just opened is ready, and it is running. -/
theorem ready_of_openForward {after : Site Ssh} {localPort : Int}
    (h : run (openForward request) site = (.ok localPort, after))
    (hcloses : ∀ fault, after.peer.network.fault? (.close .listener) = some fault →
      fault.isSystem = true) :
    ∃ forward, Ready after forward ∧ forward.isRunning = true := by
  by_cases hup : site.peer.IsActive
  case neg =>
    rw [run_openForward_of_not_active hup] at h
    cases h
  by_cases hforward : site.peer.forward.isSome = true
  case pos =>
    rw [run_openForward_of_forward hup hforward] at h
    cases h
  unfold openForward at h
  rw [Act.run_bind_of_ok (run_session _),
    if_neg (by simp [hup.up, Option.isSome_iff_ne_none.1 hup.held]), if_neg hforward,
    Act.run_bind_of_ok (Act.run_attempt _ _)] at h
  rcases hstart : run (startForward request) site with ⟨fault | forward, started⟩
  · rw [hstart] at h
    dsimp only at h
    split at h
    · obtain ⟨_, _, -, hrefused⟩ := Act.run_bind_eq_ok_iff.1 h
      cases hrefused
    · cases h
  · obtain ⟨hfitted, hrunning, hempty⟩ := of_startForward hstart
    rw [hstart] at h
    cases h
    exact ⟨_, ⟨rfl, hempty, hfitted.listener, hcloses⟩, hrunning⟩

/-! ## One client -/

/-- What is left of a relay's outcome is the fault that does not just end it. -/
theorem settled_verdict (steps : List RelayStep) :
    settled ((verdict steps).map (fun _ => ())) =
      resultUnless () ((steps.findSome? (·.fault?)).filter (!endsRelay ·)) := by
  unfold verdict
  cases steps.findSome? (·.fault?) with
  | none => rfl
  | some fault =>
    change (if endsRelay fault then Except.ok () else .error fault) = _
    rw [Option.filter_some]
    cases endsRelay fault <;> rfl

/-- A forward with one connection is stopped to the end. -/
theorem run_stopForward_of_holding {name : String} {connection : Connection}
    (h : Ready site forward)
    (hclose : connection.ClosesInOrder) (site' : Site Ssh)
    (hnetwork : site'.peer.network = site.peer.network)
    (hforward : site'.peer.forward = some (forward.holding name connection)) :
    ∃ machine, run stopForward site' =
      (.ok (), { machine, peer :=
        { site'.peer with
          calls := site'.peer.calls ++ (forward.holding name connection).stopCalls
          forward := some forward.stopped } }) := by
  refine run_stopForward_of_some hforward (List.nodup_singleton _) ⟨?_, ?_⟩
  · intro resource hresource fault hfault
    rw [h.listener resource hresource, hnetwork] at hfault
    exact h.closes fault hfault
  · intro entry hentry
    rw [List.mem_singleton.1 hentry]
    exact hclose

/-- A connection that is held is closed, and then nobody is connected. -/
theorem run_dropConnection_of_holding {name : String} {connection : Connection}
    (hempty : forward.connections = []) (hclose : connection.ClosesInOrder)
    (hforward : site.peer.forward = some (forward.holding name connection)) :
    ∃ machine, run (dropConnection name) site =
      (.ok (), { machine, peer :=
        { site.peer with
          calls := site.peer.calls ++ connection.ends.map .close
          forward := some forward } }) := by
  obtain ⟨machine, hrun⟩ := run_closeConnection hclose name
    { site with peer := { site.peer with forward := some { forward with connections := [] } } }
  have hsame : { forward with connections := [] } = forward := by rw [← hempty]
  refine ⟨machine, ?_⟩
  rw [run_dropConnection hforward rfl List.not_mem_nil]
  change run (closeConnection name connection)
    { site with peer := { site.peer with forward := some { forward with connections := [] } } } = _
  rw [hrun, hsame]

/-- Where nobody is connected there is nothing to close. -/
theorem run_dropConnection_of_empty (hforward : site.peer.forward = some forward)
    (hempty : forward.connections = []) (name : String) :
    run (dropConnection name) site = (.ok (), site) := by
  have hnone : site.peer.forward.bind (·.connections.lookup name) = none := by
    rw [hforward, Option.bind_some, hempty, List.lookup_nil]
  unfold dropConnection
  rw [Act.run_bind_of_ok (run_session site), hnone]
  rfl

/-- A connection is relayed and closed, and its relay may have stopped the forward. -/
theorem tended_relay {name : String} {connection : Connection} {before : Site Ssh}
    (h : Ready before forward)
    (hclose : connection.ClosesInOrder) (hnetwork : site.peer.network = before.peer.network)
    (hforward : site.peer.forward = some (forward.holding name connection))
    (events : List RelayEvent) :
    let steps := transcript none (if forward.isRunning then waits events else [])
    let ended := run (Act.ensuring (relay name connection events) (dropConnection name)) site
    ended.1 = resultUnless () ((steps.findSome? (·.fault?)).filter (!endsRelay ·)) ∧
      Tended site.peer [] [] connection.ends
        (if steps.any (·.stops) then forward.stopped else forward) ended.2.peer := by
  intro steps ended
  obtain ⟨stopFault, hverdict, hpassage⟩ := run_relayLoop connection events site
  obtain ⟨machine, hrelay⟩ := run_relay name connection events site
  have hwaits : waitsOn site events = if forward.isRunning then waits events else [] := by
    unfold waitsOn
    rw [hforward]
    rfl
  rw [hwaits] at hverdict hpassage
  rw [hverdict, settled_verdict] at hrelay
  generalize hafter : (run (relayLoop connection events) site).2 = after at hpassage hrelay
  generalize htaken : transcript stopFault (if forward.isRunning then waits events else []) = taken
    at hpassage hrelay
  cases hpassage with
  | @running added _ hadded hnot =>
    obtain ⟨machine', hdrop⟩ := @run_dropConnection_of_holding
      { machine, peer := (site.noted added).peer } _ name _ h.empty hclose hforward
    have hended : ended = _ := Act.run_ensuring_of_ok (by rw [hrelay]; exact hdrop)
    rw [hended, hrelay]
    have hsteps : steps = taken := htaken
    rw [hsteps, hnot]
    refine ⟨rfl, added ++ connection.ends.map .close, ?_, ?_⟩
    · simp only [Site.noted, List.append_assoc, List.length_nil, Nat.add_zero, Bool.false_eq_true,
        if_false]
    · exact (entered_of_quiet (quiet_of_records hadded)).append (entered_close _)
  | @halted start rest _ hcalls hstops =>
    -- The connection was closed when the forward was stopped, so the handler finds nothing to
    -- close.
    obtain ⟨machine', hstop⟩ :=
      run_stopForward_of_holding h hclose (site.noted start) hnetwork hforward
    have hnone : stopForward.fault? (site.noted start) = none := by
      unfold Act.fault?
      rw [hstop]
    have hsteps : steps = taken := by rw [← htaken, hnone]
    rw [hstop] at hrelay
    have hended : ended = _ := Act.run_ensuring_of_ok (by
      rw [hrelay]
      exact @run_dropConnection_of_empty _ forward.stopped rfl rfl name)
    rw [hended, hrelay, hsteps, hstops]
    have hquiet := quiet_of_records hcalls
    have hstopped := entered_stopCalls (forward.holding name connection) h.listener
    refine ⟨rfl, start ++ (forward.holding name connection).stopCalls ++ rest, ?_, ?_⟩
    · simp only [Site.noted, List.append_assoc, List.length_nil, Nat.add_zero, if_true]
    · have hstart :=
        entered_of_quiet fun call hcall => hquiet call (List.mem_append_left rest hcall)
      have hrest :=
        entered_of_quiet fun call hcall => hquiet call (List.mem_append_right start hcall)
      have hall := (hstart.append hstopped).append hrest
      simpa [Forward.holding] using hall

/-- A client for which no channel is opened is turned away and closed. -/
theorem run_handleClient_of_refused {visit : Visit} {fault : Fault} {request : ForwardRequest}
    (hfault : visit.channelFault = some fault) (haway : turnsAway fault = true)
    (hport : Decimal.isWritable request.targetPort = true) (client : Resource) (site : Site Ssh) :
    ∃ machine, run (handleClient request client visit) site =
      (resultUnless () visit.closeClientFault, { machine, peer :=
        (site.noted [.openChannel request.targetHost request.targetPort visit.host visit.port,
          .close client]).peer }) := by
  let called :=
    site.noted [.openChannel request.targetHost request.targetPort visit.host visit.port]
  have hopen : run (openChannel request visit) site = (.error fault, called) := by
    unfold openChannel
    rw [Act.run_bind_of_ok (run_note _ _), hfault]
    rfl
  let refused := Event.channelRefused request.targetHost request.targetPort visit.name fault.message
  have hwords : refused.isWritable = true := by
    simp [refused, Event.isWritable, Event.numbers, hport]
  refine ⟨Machine.reporting refused site.machine, ?_⟩
  unfold handleClient
  rw [Act.run_bind_of_ok (Act.run_attempt _ _), hopen]
  dsimp only
  rw [haway, Bool.not_true, if_neg Bool.false_ne_true,
    Act.run_bind_of_ok (Ssh.run_report hwords called)]
  have hcalls :
      site.peer.calls ++ [.openChannel request.targetHost request.targetPort visit.host visit.port,
      .close client] = called.peer.calls ++ [.close client] := by
    change _ = site.peer.calls ++ [_] ++ [_]
    rw [List.append_assoc]
    rfl
  unfold Site.noted
  rw [hcalls]
  cases visit.closeClientFault <;> rfl

/-- A client for which a channel is opened is relayed over it. -/
theorem run_handleClient_of_opened {visit : Visit} (hfault : visit.channelFault = none)
    (hforward : site.peer.forward = some forward) (hempty : forward.connections = [])
    (request : ForwardRequest) (client : Resource) :
    let connection := visit.connection client ⟨.channel, site.peer.opened⟩
    ∃ held, run (handleClient request client visit) site =
        run (Act.ensuring (relay visit.name connection visit.events)
          (dropConnection visit.name)) held ∧
      Tended site.peer [.openChannel request.targetHost request.targetPort visit.host visit.port]
        [⟨.channel, site.peer.opened⟩] [] (forward.holding visit.name connection) held.peer := by
  intro connection
  let calls : List NetworkCall :=
    [.openChannel request.targetHost request.targetPort visit.host visit.port,
    .opened ⟨.channel, site.peer.opened⟩]
  have hopen : run (openChannel request visit) site =
      (.ok ⟨.channel, site.peer.opened⟩, { site with peer :=
        { site.peer with
          calls := site.peer.calls ++ calls
          opened := site.peer.opened + 1 } }) := by
    unfold openChannel
    rw [Act.run_bind_of_ok (run_note _ _), hfault]
    change run (openResource .channel) _ = _
    rw [run_openResource]
    simp [Site.noted, calls]
  refine ⟨{ machine := (run (Machine.report (.relayStarted visit.name)) site.machine).2, peer :=
    { site.peer with
      calls := site.peer.calls ++ calls
      opened := site.peer.opened + 1
      forward := some (forward.holding visit.name connection) } }, ?_, calls, rfl, rfl, rfl,
        fun _ _ => rfl⟩
  unfold handleClient
  rw [Act.run_bind_of_ok (Act.run_attempt _ _), hopen]
  dsimp only
  unfold putConnection
  rw [Act.run_bind_of_ok (run_changeForward _ _), hforward, Option.map_some, hempty]
  rfl

/-- A client is handled: it is turned away, or it is relayed over a channel. -/
theorem tended_handleClient {visit : Visit} {request : ForwardRequest}
    (hport : Decimal.isWritable request.targetPort = true) (client : Resource)
    (h : Ready site forward) (hvisit : visit.IsOrderly) :
    let ended := run (handleClient request client visit) site
    ended.1 = resultUnless () (visit.fault? forward.isRunning) ∧
      Tended site.peer [.openChannel request.targetHost request.targetPort visit.host visit.port]
        (visit.channels site.peer.opened) (visit.channels site.peer.opened ++ [client])
        (forward.afterVisit visit) ended.2.peer := by
  intro ended
  cases hchannel : visit.channelFault with
  | some fault =>
    have hrefused := hvisit.refused fault hchannel
    obtain ⟨machine, hrun⟩ := run_handleClient_of_refused hchannel hrefused hport client site
    have hended : ended = _ := hrun
    have hfault : visit.fault? forward.isRunning = visit.closeClientFault := by
      simp [Visit.fault?, hchannel]
    have hafter : forward.afterVisit visit = forward := by
      simp [Forward.afterVisit, Visit.stops, Visit.steps, hchannel]
    have hnone : visit.channels site.peer.opened = [] := by simp [Visit.channels, hchannel]
    rw [hended, hfault, hafter, hnone]
    refine ⟨rfl, [.openChannel request.targetHost request.targetPort visit.host visit.port,
      .close client], ?_, ⟨rfl, rfl, fun resource _ => rfl⟩⟩
    simp only [Site.noted, ← h.forward_eq, List.length_nil, Nat.add_zero]
  | none =>
    obtain ⟨held, hrun, hopened⟩ :=
      run_handleClient_of_opened hchannel h.forward_eq h.empty request client
    obtain ⟨houtcome, htended⟩ := tended_relay h ⟨hvisit.channel, hvisit.client⟩ hopened.network_eq
      hopened.forward_eq visit.events
    rw [← hrun] at houtcome htended
    have hsteps : visit.steps forward.isRunning =
        transcript none (if forward.isRunning then waits visit.events else []) := by
      simp [Visit.steps, hchannel]
    have hchannels : visit.channels site.peer.opened = [⟨.channel, site.peer.opened⟩] := by
      simp [Visit.channels, hchannel]
    have hfault : visit.fault? forward.isRunning =
        ((visit.steps forward.isRunning).findSome? (·.fault?)).filter (!endsRelay ·) := by
      simp [Visit.fault?, hchannel]
    rw [hfault, hchannels, Forward.afterVisit, Visit.stops, hsteps]
    exact ⟨houtcome, hopened.trans htended⟩

/-- What is closed counts, and not in which order. -/
theorem Tended.perm {s s' : Ssh} {reception : List NetworkCall}
    {opened closed closed' : List Resource}
    (h : Tended s reception opened closed forward s') (hperm : closed.Perm closed') :
    Tended s reception opened closed' forward s' := by
  obtain ⟨added, hs', hadded⟩ := h
  exact ⟨added, hs', hadded.reception, hadded.opened, fun resource hkind =>
    (hadded.closed resource hkind).trans (hperm.count_eq resource)⟩

/-- A forward stays ready where its connections are gone and its listener is the same or is gone. -/
theorem Ready.of_tended {site' : Site Ssh} {forward' : Forward} {reception : List NetworkCall}
    {opened closed : List Resource} (h : Ready site forward)
    (htended : Tended site.peer reception opened closed forward' site'.peer)
    (hempty : forward'.connections = [])
    (hlistener : forward'.listener = forward.listener ∨ forward'.listener = none) :
    Ready site' forward' where
  forward_eq := htended.forward_eq
  empty := hempty
  listener resource hresource := by
    rcases hlistener with hsame | hnone
    · rw [hsame] at hresource
      exact h.listener resource hresource
    · rw [hnone] at hresource
      cases hresource
  closes fault hfault := by
    rw [htended.network_eq] at hfault
    exact h.closes fault hfault

/-- A thread of its own keeps the faults of its work to itself. -/
theorem run_runThread {task : Task Unit} {fault? : Option Fault} {site' : Site Ssh}
    (h : run task (site.noted [.startThread none]) = (resultUnless () fault?, site')) :
    run (runThread task) site =
      (resultUnless () (fault?.filter fun _ => site'.peer.network.sharesThread), site') := by
  unfold runThread
  rw [Act.run_bind_of_ok (run_note _ _), Act.run_bind_of_ok (Act.run_attempt _ _), h]
  cases fault? with
  | none => rfl
  | some fault =>
    dsimp only [resultUnless]
    rw [Act.run_bind_of_ok (run_session _), Option.filter_some]
    cases site'.peer.network.sharesThread <;> rfl

/-- A client is accepted and served: it is closed once, and so is the channel that is opened for
it. -/
theorem tended_welcome {visit : Visit} {request : ForwardRequest}
    (hport : Decimal.isWritable request.targetPort = true) (h : Ready site forward)
    (hvisit : visit.IsOrderly) :
    let ended := run (welcome request visit) site
    ended.1 = resultUnless () ((visit.fault? forward.isRunning).filter fun _ =>
      site.peer.network.sharesThread) ∧
      Tended site.peer (visit.reception request) (visit.opens site.peer.opened)
        (visit.opens site.peer.opened) (forward.afterVisit visit) ended.2.peer := by
  intro ended
  let client : Resource := ⟨.client, site.peer.opened⟩
  let accepted : Site Ssh := { site with peer :=
    { site.peer with
      calls := site.peer.calls ++ [.opened client] ++ [.unboundClient]
      opened := site.peer.opened + 1 } }
  have hended : ended = run (runThread (handleClient request client visit)) accepted := rfl
  have hstarted : Tended site.peer [.startThread none] [client] [] forward
      (accepted.noted [.startThread none]).peer := by
    refine ⟨[.opened client, .unboundClient, .startThread none], ?_, rfl, rfl, fun _ _ => rfl⟩
    simp [accepted, Site.noted, h.forward_eq]
  obtain ⟨houtcome, htended⟩ := tended_handleClient hport client
    (h.of_tended hstarted h.empty (.inl rfl)) hvisit
  have hnetwork := htended.network_eq.trans hstarted.network_eq
  rw [hended, run_runThread (Prod.ext houtcome rfl), hnetwork]
  exact ⟨rfl, (hstarted.trans htended).perm (List.perm_append_singleton _ _)⟩

/-! ## All clients -/

/-- Serves what has arrived, and then the others. -/
def attend (request : ForwardRequest) (outcome : Except Fault Visit) (arrivals : List Arrival) :
    Task Unit := do
  match outcome with
  | .ok visit => do
    welcome request visit
    serveLoop request arrivals
  | .error fault =>
    if fault.isTimeout then serveLoop request arrivals
    else if !fault.isSystem then throw fault
    else if ← isRunning then report (.acceptFailed fault.message)

/-- While a forward is running the next arrival is waited for and served. -/
theorem run_serveLoop_cons (h : site.peer.forward = some forward)
    (hrunning : forward.isRunning = true)
    (request : ForwardRequest) (arrival : Arrival) (arrivals : List Arrival) :
    ∃ met, Tended site.peer [.accept] [] [] (forward.meeting arrival) met.peer ∧
      run (serveLoop request (arrival :: arrivals)) site =
        run (attend request arrival.outcome arrivals) met := by
  have hup : site.peer.forward.any (·.isRunning) = true := by rw [h]; exact hrunning
  refine ⟨{ site with peer :=
    { site.peer with
      calls := site.peer.calls ++ [.accept]
      forward := some (forward.meeting arrival) } }, ⟨[.accept], rfl, rfl, rfl, fun _ _ => rfl⟩, ?_⟩
  rw [serveLoop, Act.run_bind_of_ok (run_isRunning site), hup, if_neg (by simp),
    Act.run_bind_of_ok (run_note _ _)]
  cases hstops : arrival.stops with
  | true =>
    rw [if_pos rfl, markStopped, Act.run_bind_of_ok (run_changeForward _ _)]
    simp only [Site.noted, h, Option.map_some, Forward.meeting, hstops, Bool.not_true,
      Bool.and_false]
    rfl
  | false =>
    have hsame : forward.meeting arrival = forward := by simp [Forward.meeting, hstops]
    rw [hsame, if_neg Bool.false_ne_true]
    unfold Site.noted
    rw [← h]
    rfl

/-- A forward that is stopped accepts nobody. -/
theorem run_serveLoop_of_stopped (h : site.peer.forward = some forward)
    (hstopped : forward.isRunning = false) (request : ForwardRequest) (arrivals : List Arrival) :
    run (serveLoop request arrivals) site = (.ok (), site) := by
  have hup : site.peer.forward.any (·.isRunning) = false := by rw [h]; exact hstopped
  cases arrivals with
  | nil =>
    rw [serveLoop, Act.run_bind_of_ok (run_isRunning site), hup]
    rfl
  | cons arrival arrivals =>
    rw [serveLoop, Act.run_bind_of_ok (run_isRunning site), hup]
    rfl

/-- A client leaves the forward running unless it was stopped. -/
theorem isRunning_afterVisit (forward : Forward) (visit : Visit) :
    (forward.afterVisit visit).isRunning =
    (forward.isRunning && !visit.stops forward.isRunning) := by
  unfold Forward.afterVisit
  cases visit.stops forward.isRunning with
  | true => rw [Bool.not_true, Bool.and_false]; rfl
  | false => rw [Bool.not_false, Bool.and_true]; rfl

/-- A ready forward is ready for the next client after one was served. -/
theorem Ready.afterVisit {site' : Site Ssh} {visit : Visit} {reception : List NetworkCall}
    {opened closed : List Resource} (h : Ready site forward)
    (htended : Tended site.peer reception opened closed (forward.afterVisit visit) site'.peer) :
    Ready site' (forward.afterVisit visit) := by
  refine h.of_tended htended ?_ ?_
  · unfold Forward.afterVisit
    split
    · rfl
    · exact h.empty
  · unfold Forward.afterVisit
    split
    · exact .inr rfl
    · exact .inl rfl

/-- What attending to an arrival leads to: either the accepting ends with it, and nothing else is
done, or the others arrive on a forward that is running. -/
def Attended (request : ForwardRequest) (arrival : Arrival) (arrivals : List Arrival)
    (site : Site Ssh) (ended : Except Fault Unit × Site Ssh) : Prop :=
  let resources := opensFrom arrival.visit?.toList site.peer.opened
  ∃ site' forward',
    Tended site.peer (arrival.reception request).tail resources resources forward' site'.peer ∧
    Ready site' forward' ∧
    ((arrival.isLast site.peer.network.sharesThread = true ∧ ended.2.peer = site'.peer) ∨
      (arrival.isLast site.peer.network.sharesThread = false ∧ forward'.isRunning = true ∧
        ended = run (serveLoop request arrivals) site'))

/-- A fault of waiting ends the accepting unless it is running out of time. -/
theorem attended_fault {arrival : Arrival} {fault : Fault}
    (houtcome : arrival.outcome = .error fault)
    (request : ForwardRequest) (arrivals : List Arrival) (h : Ready site forward)
    (hrunning : forward.isRunning = !arrival.stops) :
    Attended request arrival arrivals site
      (run (attend request arrival.outcome arrivals) site) := by
  have hnone : arrival.visit? = none := by rw [Arrival.visit?, houtcome]; rfl
  have hsame : Tended site.peer (arrival.reception request).tail
      (opensFrom arrival.visit?.toList site.peer.opened)
      (opensFrom arrival.visit?.toList site.peer.opened) forward site.peer := by
    rw [hnone, Arrival.reception, houtcome]
    refine ⟨[], ?_, .nil⟩
    simp [opensFrom, ← h.forward_eq]
  refine ⟨site, forward, hsame, h, ?_⟩
  rw [houtcome]
  cases htimeout : fault.isTimeout with
  | true =>
    rw [attend, if_pos htimeout]
    cases hstops : arrival.stops with
    | true =>
      refine .inl ⟨by simp [Arrival.isLast, hstops], ?_⟩
      rw [run_serveLoop_of_stopped h.forward_eq (by rw [hrunning, hstops]; rfl)]
    | false =>
      exact .inr ⟨by simp [Arrival.isLast, hstops, houtcome, htimeout], by
        rw [hrunning, hstops]; rfl, rfl⟩
  | false =>
    refine .inl ⟨by simp [Arrival.isLast, houtcome, htimeout], ?_⟩
    rw [attend, if_neg (by rw [htimeout]; exact Bool.false_ne_true)]
    cases fault.isSystem with
    | false => rfl
    | true =>
      rw [if_neg (by simp), Act.run_bind_of_ok (run_isRunning site)]
      cases site.peer.forward.any (·.isRunning) <;> rfl

/-- A client is served, and the accepting goes on if the forward was not stopped meanwhile and no
fault left the handler on the accepting thread. -/
theorem attended_visit {arrival : Arrival} {visit : Visit} {request : ForwardRequest}
    (houtcome : arrival.outcome = .ok visit)
    (hport : Decimal.isWritable request.targetPort = true) (arrivals : List Arrival)
    (h : Ready site forward) (hrunning : forward.isRunning = !arrival.stops)
    (hvisit : visit.IsOrderly) :
    Attended request arrival arrivals site
      (run (attend request arrival.outcome arrivals) site) := by
  have hsome : arrival.visit? = some visit := by rw [Arrival.visit?, houtcome]; rfl
  obtain ⟨hverdict, htended⟩ := tended_welcome hport h hvisit
  have hready := h.afterVisit htended
  have hlast : arrival.isLast site.peer.network.sharesThread = (arrival.stops ||
      (visit.stops true || (site.peer.network.sharesThread && (visit.fault? true).isSome))) := by
    rw [Arrival.isLast, houtcome]
  refine ⟨(run (welcome request visit) site).2, forward.afterVisit visit, ?_, hready, ?_⟩
  · rw [hsome, Arrival.reception, houtcome]
    simpa [opensFrom] using htended
  have hended : run (attend request arrival.outcome arrivals) site =
      run (welcome request visit >>= fun _ => serveLoop request arrivals) site := by
    rw [houtcome]
    rfl
  rw [hended, hlast]
  cases hfault : (visit.fault? forward.isRunning).filter fun _ =>
    site.peer.network.sharesThread with
  | some fault =>
    -- A fault that leaves the client's thread ends the accepting where both are one thread.
    obtain ⟨hfault', hshares⟩ := Option.filter_eq_some_iff.1 hfault
    rw [hfault] at hverdict
    refine .inl ⟨?_, by rw [Act.run_bind_of_error (Prod.ext hverdict rfl)]⟩
    cases hstops : arrival.stops with
    | true => rfl
    | false =>
      rw [hrunning, hstops, Bool.not_false] at hfault'
      simp [hfault', hshares]
  | none =>
    rw [hfault] at hverdict
    rw [Act.run_bind_of_ok (Prod.ext hverdict rfl)]
    have hafter := isRunning_afterVisit forward visit
    cases hstops : arrival.stops with
    | true =>
      -- The forward was stopped before the client came, who is the last one served.
      have hstopped : (forward.afterVisit visit).isRunning = false := by
        rw [hafter, hrunning, hstops]
        rfl
      exact .inl ⟨rfl, by rw [run_serveLoop_of_stopped hready.forward_eq hstopped]⟩
    | false =>
      rw [hrunning, hstops, Bool.not_false] at hafter hfault
      have hstays : (site.peer.network.sharesThread && (visit.fault? true).isSome) = false := by
        rw [Option.filter_eq_none_iff] at hfault
        cases hvisitFault : visit.fault? true with
        | none => rw [Option.isSome_none, Bool.and_false]
        | some fault => simpa using hfault fault hvisitFault
      rw [hstays]
      cases hvisitStops : visit.stops true with
      | true =>
        have hstopped : (forward.afterVisit visit).isRunning = false := by
          rw [hafter, hvisitStops]
          rfl
        exact .inl ⟨rfl, by rw [run_serveLoop_of_stopped hready.forward_eq hstopped]⟩
      | false => exact .inr ⟨rfl, by rw [hafter, hvisitStops]; rfl, rfl⟩

/-- The resources that are opened for some clients and then for others. -/
theorem opensFrom_append (visits visits' : List Visit) (number : Nat) :
    opensFrom (visits ++ visits') number =
      opensFrom visits number ++ opensFrom visits' (number + (opensFrom visits number).length) := by
  induction visits generalizing number with
  | nil => rfl
  | cons visit visits ih =>
    rw [List.cons_append, opensFrom, opensFrom, ih, List.append_assoc, List.length_append,
      Nat.add_assoc]

/-- The arrivals that are met, if the forward is running. -/
def metBy (isRunning sharesThread : Bool) (arrivals : List Arrival) : List Arrival :=
  if isRunning then Arrival.upToLast sharesThread arrivals else []

/-- The wait for an arrival that does not come, if the accepting goes on that long. -/
def lastWait (isRunning sharesThread : Bool) (arrivals : List Arrival) : List NetworkCall :=
  if isRunning && !arrivals.any (·.isLast sharesThread) then [.accept] else []

/-- The resources that are opened for the clients among some arrivals. -/
def opensFor (met : List Arrival) (number : Nat) : List Resource :=
  opensFrom (met.filterMap (·.visit?)) number

/-- The resources for one arrival and for others after it. -/
theorem opensFor_cons (arrival : Arrival) (met : List Arrival) (number : Nat) :
    opensFor (arrival :: met) number =
      opensFrom arrival.visit?.toList number ++
        opensFor met (number + (opensFrom arrival.visit?.toList number).length) := by
  have hvisits : (arrival :: met).filterMap (·.visit?) =
      arrival.visit?.toList ++ met.filterMap (·.visit?) := by
    cases hvisit : arrival.visit? with
    | none => rw [List.filterMap_cons_none hvisit]; rfl
    | some visit => rw [List.filterMap_cons_some hvisit]; rfl
  rw [opensFor, hvisits, opensFrom_append]
  rfl

/-- Clients were served on a forward: those among the arrivals that are met. -/
def Served (request : ForwardRequest) (arrivals : List Arrival) (forward : Forward) (s s' : Ssh) :
    Prop :=
  let met := metBy forward.isRunning s.network.sharesThread arrivals
  ∃ forward', forward'.connections = [] ∧
    Tended s
      (met.flatMap (·.reception request) ++
        lastWait forward.isRunning s.network.sharesThread arrivals)
      (opensFor met s.opened) (opensFor met s.opened) forward' s'

/-- A forward that is stopped serves nobody. -/
theorem served_of_stopped (h : Ready site forward) (hstopped : forward.isRunning = false)
    (request : ForwardRequest) (arrivals : List Arrival) :
    Served request arrivals forward site.peer (run (serveLoop request arrivals) site).2.peer := by
  rw [run_serveLoop_of_stopped h.forward_eq hstopped]
  unfold Served
  rw [hstopped]
  refine ⟨forward, h.empty, [], ?_, .nil⟩
  simp [opensFor, metBy, opensFrom, ← h.forward_eq]

/-- An arrival that is the last one is all that is met. -/
theorem served_of_last {s s' : Ssh} {forward' : Forward} {arrival : Arrival}
    (hrunning : forward.isRunning = true)
    (hlast : arrival.isLast s.network.sharesThread = true) (hempty : forward'.connections = [])
    (h : Tended s (arrival.reception request) (opensFrom arrival.visit?.toList s.opened)
      (opensFrom arrival.visit?.toList s.opened) forward' s') (arrivals : List Arrival) :
    Served request (arrival :: arrivals) forward s s' := by
  have hmet : metBy true s.network.sharesThread (arrival :: arrivals) = [arrival] := by
    simp [metBy, Arrival.upToLast, hlast]
  have hwait : lastWait true s.network.sharesThread (arrival :: arrivals) = [] := by
    simp [lastWait, hlast]
  refine ⟨forward', hempty, ?_⟩
  rw [hrunning, hmet, hwait, opensFor_cons]
  simpa [opensFor, opensFrom] using h

/-- An arrival that is not the last one is met, and then the others are. -/
theorem Served.cons {s s' s'' : Ssh} {forward' : Forward} {arrival : Arrival}
    {arrivals : List Arrival}
    (h' : Served request arrivals forward' s' s'')
    (hrunning : forward.isRunning = true) (hrunning' : forward'.isRunning = true)
    (hlast : arrival.isLast s.network.sharesThread = false)
    (h : Tended s (arrival.reception request) (opensFrom arrival.visit?.toList s.opened)
      (opensFrom arrival.visit?.toList s.opened) forward' s') :
    Served request (arrival :: arrivals) forward s s'' := by
  have hmet : metBy true s.network.sharesThread (arrival :: arrivals) =
      arrival :: metBy true s.network.sharesThread arrivals := by
    simp [metBy, Arrival.upToLast, hlast]
  have hwait : lastWait true s.network.sharesThread (arrival :: arrivals) =
      lastWait true s.network.sharesThread arrivals := by
    simp [lastWait, hlast]
  obtain ⟨forward'', hempty, htended⟩ := h'
  rw [h.network_eq, h.opened_eq, hrunning'] at htended
  refine ⟨forward'', hempty, ?_⟩
  rw [hrunning, hmet, hwait, opensFor_cons, List.flatMap_cons, List.append_assoc]
  exact h.trans htended

/-- Clients are served one after the other. The induction is on the arrivals: each leaves a forward
without connections, on which the others arrive. -/
theorem served_serveLoop {request : ForwardRequest}
    (hport : Decimal.isWritable request.targetPort = true) (arrivals : List Arrival)
    (harrivals : ∀ arrival ∈ arrivals, ∀ visit, arrival.outcome = .ok visit → visit.IsOrderly)
    (h : Ready site forward) :
    Served request arrivals forward site.peer (run (serveLoop request arrivals) site).2.peer := by
  induction arrivals generalizing site forward with
  | nil =>
    cases hrunning : forward.isRunning with
    | false => exact served_of_stopped h hrunning request []
    | true =>
      have hup : site.peer.forward.any (·.isRunning) = true := by rw [h.forward_eq]; exact hrunning
      unfold Served
      rw [hrunning]
      refine ⟨{ forward with isRunning := false }, h.empty, [.accept], ?_, rfl, rfl, fun _ _ => rfl⟩
      rw [serveLoop, Act.run_bind_of_ok (run_isRunning site), hup, if_pos rfl,
        Act.run_bind_of_ok (run_note _ _), markStopped, run_changeForward]
      simp [opensFor, metBy, Arrival.upToLast, opensFrom, Site.noted, h.forward_eq]
  | cons arrival arrivals ih =>
    cases hrunning : forward.isRunning with
    | false => exact served_of_stopped h hrunning request _
    | true =>
      obtain ⟨met, hmet, hrun⟩ := run_serveLoop_cons h.forward_eq hrunning request arrival arrivals
      have hready := h.of_tended hmet h.empty (.inl rfl)
      have hmeeting : (forward.meeting arrival).isRunning = !arrival.stops := by
        simp [Forward.meeting, hrunning]
      obtain ⟨site', forward', htended, hready', hcases⟩ : Attended request arrival arrivals met
          (run (attend request arrival.outcome arrivals) met) := by
        cases houtcome : arrival.outcome with
        | error fault =>
          rw [← houtcome]
          exact attended_fault houtcome request arrivals hready hmeeting
        | ok visit =>
          have hvisit := harrivals arrival List.mem_cons_self visit houtcome
          rw [← houtcome]
          exact attended_visit houtcome hport arrivals hready hmeeting hvisit
      have hall := hmet.trans htended
      rw [hmet.opened_eq] at hall
      rw [hmet.network_eq] at hcases
      rw [hrun]
      rcases hcases with ⟨hlast, hended⟩ | ⟨hlast, hgoes, hended⟩
      · rw [hended]
        exact served_of_last hrunning hlast hready'.empty hall arrivals
      · rw [hended]
        exact (ih (fun other hother => harrivals other (List.mem_cons_of_mem _ hother))
          hready').cons hrunning hgoes hlast hall

/-! ## Once each -/

/-- What is opened for clients is numbered in order. -/
theorem numbers_opensFrom (visits : List Visit) (number : Nat) :
    (opensFrom visits number).map (·.number) =
      List.range' number (opensFrom visits number).length := by
  induction visits generalizing number with
  | nil => rfl
  | cons visit visits ih =>
    have hvisit :
        (visit.opens number).map (·.number) = List.range' number (visit.opens number).length := by
      unfold Visit.opens Visit.channels
      split <;> rfl
    rw [opensFrom, List.map_append, ih, hvisit, List.length_append, List.range'_append_1]

/-- What is opened for clients is a client or a channel. -/
theorem kind_of_mem_opensFrom {visits : List Visit} {number : Nat} {resource : Resource}
    (h : resource ∈ opensFrom visits number) :
    resource.kind = .client ∨ resource.kind = .channel := by
  induction visits generalizing number with
  | nil => cases h
  | cons visit visits ih =>
    rcases List.mem_append.1 h with h | h
    · unfold Visit.opens Visit.channels at h
      split at h
      · rw [List.mem_singleton.1 h]
        exact .inl rfl
      · rcases List.mem_cons.1 h with rfl | h
        · exact .inl rfl
        · rw [List.mem_singleton.1 h]
          exact .inr rfl
    · exact ih h

/-- Nothing is opened twice for clients. -/
theorem nodup_opensFrom (visits : List Visit) (number : Nat) : (opensFrom visits number).Nodup := by
  refine List.Nodup.of_map (·.number) ?_
  rw [numbers_opensFrom]
  exact List.nodup_range'

/-- Every client is served once and closed once. The arrivals that are met are those up to the one
with which the accepting ends; each is waited for, and each client among them gets one handler, in
order. Each client that was accepted and each channel that was opened for one is closed exactly
once, and nothing else is but the listener of a forward that was stopped. In the end nobody is
connected, as at the start. -/
theorem serve_closes_once (arrivals : List Arrival) (site : Site Ssh) (forward : Forward)
    (h : Ready site forward)
    (harrivals : ∀ arrival ∈ arrivals, ∀ visit, arrival.outcome = .ok visit → visit.IsOrderly) :
    let shares := site.peer.network.sharesThread
    let met := metBy forward.isRunning shares arrivals
    let ended := (run (serve arrivals) site).2.peer
    ∃ added,
      ended.calls = site.peer.calls ++ added ∧
      added.filter (·.isReception) =
        met.flatMap (·.reception forward.request) ++ lastWait forward.isRunning shares arrivals ∧
      openings added = opensFor met site.peer.opened ∧
      (∀ resource ∈ openings added, (closings added).count resource = 1) ∧
      (∀ resource ∈ closings added, resource ∈ openings added ∨ resource.kind = .listener) ∧
      ended.forward.map (·.connections) = site.peer.forward.map (·.connections) := by
  intro shares met ended
  have hserve : run (serve arrivals) site = run (serveLoop forward.request arrivals) site := by
    unfold serve
    rw [Act.run_bind_of_ok (run_session site), h.forward_eq]
  obtain ⟨forward', hempty, added, hended, hadded⟩ :=
    served_serveLoop forward.targetPort_isWritable arrivals harrivals h
  rw [← hserve] at hended
  have hcount (resource : Resource) (hkind : resource.kind ≠ .listener) :
      (closings added).count resource = (openings added).count resource := by
    rw [hadded.closed resource hkind, hadded.opened]
  refine ⟨added, congrArg Ssh.calls hended, hadded.reception, hadded.opened, ?_, ?_, ?_⟩
  · -- What is opened has a number of its own, so that it occurs once among what is closed.
    intro resource hmem
    have hopened := hmem
    rw [hadded.opened] at hopened
    have hkind : resource.kind ≠ .listener := by
      rcases kind_of_mem_opensFrom hopened with hkind | hkind <;> rw [hkind] <;> decide
    rw [hcount resource hkind]
    refine List.count_eq_one_of_mem ?_ hmem
    rw [hadded.opened]
    exact nodup_opensFrom _ _
  · intro resource hmem
    by_cases hkind : resource.kind = .listener
    · exact .inr hkind
    · rw [← List.count_pos_iff, hcount resource hkind, List.count_pos_iff] at hmem
      exact .inl hmem
  · rw [show ended.forward = some forward' from congrArg Ssh.forward hended, h.forward_eq,
      Option.map_some, Option.map_some, hempty, h.empty]

/-- A client that is given these events, on a connection that the system does not close without a
fault. -/
def trialVisit (host : String) (channelFault : Option Fault) (events : List RelayEvent) : Visit :=
  { host, port := 1, channelFault, events
    closeClientFault := some (.outside .system "system")
    closeChannelFault := some (.outside .system "system") }

/-- A client whose relay is broken off by an unexpected fault, a wait in vain, a client without a
channel, and the first client again. -/
def trialArrivals : List Arrival :=
  let broken := { RelayEvent.quiet with client := some (.error (.outside .runtime "broken")) }
  [⟨false, .ok (trialVisit "a" none [broken])⟩, ⟨false, .error (.outside .timeout "timed out")⟩,
    ⟨false, .ok (trialVisit "b" (some (.outside .channel "refused")) [])⟩,
    ⟨false, .ok (trialVisit "a" none [])⟩]

/-- A forward on which nobody is connected yet. -/
def servingForward : Forward :=
  trialForward (some ⟨.listener, 0⟩) (some (threadName 4000)) []

/-- A session with this forward, on which every connection has a thread of its own. -/
def servingSite : Site Ssh :=
  { machine := Session.trialMachine
    peer :=
      { idle { trialNetwork with sharesThread := false } with
        opened := 1
        forward := some servingForward } }

/-- All clients of the trial are served, although a relay is broken off and nothing closes without a
fault. -/
theorem serve_closes_once_trial :
    Ready servingSite servingForward ∧
      (∀ arrival ∈ trialArrivals, ∀ visit, arrival.outcome = .ok visit → visit.IsOrderly) ∧
      ∃ added, (run (serve trialArrivals) servingSite).2.peer.calls = added ∧
        openings added =
          [⟨.client, 1⟩, ⟨.channel, 2⟩, ⟨.client, 3⟩, ⟨.client, 4⟩, ⟨.channel, 5⟩] ∧
        (∀ resource ∈ openings added, (closings added).count resource = 1) ∧
        added.filter (·.isReception) =
          [.accept, .startThread none, .openChannel "db" 5432 "a" 1, .accept,
            .accept, .startThread none, .openChannel "db" 5432 "b" 1,
            .accept, .startThread none, .openChannel "db" 5432 "a" 1, .accept] := by
  have hready : Ready servingSite servingForward := by
    refine ⟨rfl, rfl, ?_, ?_⟩
    · rintro resource ⟨⟩
      rfl
    · rintro fault ⟨⟩
      rfl
  have hvisit (host : String) (channelFault : Option Fault) (events : List RelayEvent)
      (haway : ∀ fault, channelFault = some fault → turnsAway fault = true) :
      (trialVisit host channelFault events).IsOrderly := by
    refine ⟨⟨?_, ?_⟩, haway⟩ <;> rintro fault ⟨⟩ <;> rfl
  have harrivals :
      ∀ arrival ∈ trialArrivals, ∀ visit, arrival.outcome = .ok visit → visit.IsOrderly := by
    intro arrival harrival visit houtcome
    simp only [trialArrivals, List.mem_cons, List.not_mem_nil, or_false] at harrival
    rcases harrival with rfl | rfl | rfl | rfl <;> cases houtcome
    · exact hvisit _ _ _ fun _ hnone => by cases hnone
    · exact hvisit _ _ _ fun _ hsome => by cases hsome; rfl
    · exact hvisit _ _ _ fun _ hnone => by cases hnone
  obtain ⟨added, hcalls, hreception, hopenings, honce, -⟩ :=
    serve_closes_once trialArrivals servingSite servingForward hready harrivals
  exact ⟨hready, harrivals, added, hcalls, hopenings, honce, hreception⟩

end Ssh

end SecureForward
