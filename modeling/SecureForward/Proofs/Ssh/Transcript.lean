import Mathlib.Data.List.Basic
import SecureForward.Ssh.Relay

/-!
# The transcript of a relay

What a relay does with a connection is a list of steps: it waits for data, receives from an end that
is ready, and sends what it received to the other end. `transcript` gives the steps for the waits
that a list of events comes to, and `relayed_transcript` says what is true of them: every chunk is
sent to the other end before anything else is received, and nothing is done after the first step
that ends the relay.

A transcript is put together by `andThen`, which leaves out what follows an end. Each part of
`Relayed` is shown for one copy, for one round, and then by induction on the waits.
-/

namespace SecureForward

open Text.Utf8 (Bytes)

/-- The ends of a connection that bytes are copied between. -/
inductive RelayEnd where
  /-- The local connection. -/
  | client
  /-- The channel to the target. -/
  | channel
deriving DecidableEq, Repr

/-- The end that bytes from this end go to. -/
def RelayEnd.other : RelayEnd → RelayEnd
  | client => channel
  | channel => client

@[simp]
theorem RelayEnd.other_other (relayEnd : RelayEnd) : relayEnd.other.other = relayEnd := by
  cases relayEnd <;> rfl

namespace RelayEvent

/-- What receiving from an end gives, if it is ready. -/
def answer? (event : RelayEvent) : RelayEnd → Option (Except Fault Bytes)
  | .client => event.client
  | .channel => event.channel

/-- The fault of sending to an end. -/
def sendFault? (event : RelayEvent) : RelayEnd → Option Fault
  | .client => event.clientFault
  | .channel => event.channelFault

end RelayEvent

/-- A step of a relay. -/
inductive RelayStep where
  /-- Data is waited for. -/
  | wait (event : RelayEvent) (fault : Option Fault)
  /-- This is received from an end. -/
  | receive (source : RelayEnd) (answer : Except Fault Bytes)
  /-- Bytes are sent to an end. -/
  | send (destination : RelayEnd) (data : Bytes) (fault : Option Fault)

namespace RelayStep

/-- The fault of a step. -/
def fault? : RelayStep → Option Fault
  | wait _ fault => fault
  | receive _ (.ok _) => none
  | receive _ (.error fault) => some fault
  | send _ _ fault => fault

/-- The step finds the end of the data of one side. -/
def atEnd : RelayStep → Bool
  | receive _ (.ok data) => data.isEmpty
  | _ => false

/-- The relay ends with this step. -/
def ends (step : RelayStep) : Bool :=
  step.atEnd || step.fault?.isSome

/-- What happens while data is waited for. -/
def event? : RelayStep → Option RelayEvent
  | wait event _ => some event
  | _ => none

/-- The forward is stopped in this step. -/
def stops (step : RelayStep) : Bool :=
  step.event?.any (·.stops)

/-- What is received from an end. -/
def answer? (source : RelayEnd) : RelayStep → Option (Except Fault Bytes)
  | receive relayEnd answer => if relayEnd = source then some answer else none
  | _ => none

/-- The chunk, which is not empty, that is received from an end. -/
def chunk? (source : RelayEnd) : RelayStep → Option Bytes
  | receive relayEnd (.ok data) => if relayEnd = source ∧ data ≠ [] then some data else none
  | _ => none

/-- The bytes that are sent to an end. -/
def sent? (destination : RelayEnd) : RelayStep → Option Bytes
  | send relayEnd data _ => if relayEnd = destination then some data else none
  | _ => none

section Views

variable (event : RelayEvent) (fault : Option Fault) (relayEnd other : RelayEnd)
  (answer : Except Fault Bytes) (data : Bytes) (e : Fault)

@[simp] theorem event?_wait : (wait event fault).event? = some event := rfl
@[simp] theorem event?_receive : (receive relayEnd answer).event? = none := rfl
@[simp] theorem event?_send : (send relayEnd data fault).event? = none := rfl

@[simp] theorem answer?_wait : (wait event fault).answer? other = none := rfl
@[simp] theorem answer?_send : (send relayEnd data fault).answer? other = none := rfl
@[simp] theorem answer?_receive :
    (receive relayEnd answer).answer? other = if relayEnd = other then some answer else none := rfl

@[simp] theorem chunk?_wait : (wait event fault).chunk? other = none := rfl
@[simp] theorem chunk?_send : (send relayEnd data fault).chunk? other = none := rfl
@[simp] theorem chunk?_receive_error : (receive relayEnd (.error e)).chunk? other = none := rfl
@[simp] theorem chunk?_receive_ok :
    (receive relayEnd (.ok data)).chunk? other =
      if relayEnd = other ∧ data ≠ [] then some data else none := rfl

@[simp] theorem sent?_wait : (wait event fault).sent? other = none := rfl
@[simp] theorem sent?_receive : (receive relayEnd answer).sent? other = none := rfl
@[simp] theorem sent?_send :
    (send relayEnd data fault).sent? other = if relayEnd = other then some data else none := rfl

@[simp] theorem ends_wait : (wait event fault).ends = fault.isSome := rfl
@[simp] theorem ends_send : (send relayEnd data fault).ends = fault.isSome := rfl
@[simp] theorem ends_receive_error : (receive relayEnd (.error e)).ends = true := rfl
@[simp] theorem ends_receive_ok : (receive relayEnd (.ok data)).ends = data.isEmpty := by
  simp [ends, atEnd, fault?]

@[simp] theorem stops_wait : (wait event fault).stops = event.stops := rfl
@[simp] theorem stops_receive : (receive relayEnd answer).stops = false := rfl
@[simp] theorem stops_send : (send relayEnd data fault).stops = false := rfl

end Views

end RelayStep

namespace Ssh

/-- The waits for data that the events on a connection come to, until the channel is found
closed. -/
def waits : List RelayEvent → List RelayEvent
  | [] => []
  | event :: events =>
    match event.closed with
    | some true => []
    | some false =>
      match events with
      | [] => [.quiet]
      | event :: events => event :: waits events
    | none => event :: waits events

/-- The steps that follow the first ones unless those end the relay. -/
def andThen (first next : List RelayStep) : List RelayStep :=
  if first.any (·.ends) then first else first ++ next

/-- The steps that copy what an end has. -/
def copying (event : RelayEvent) (source : RelayEnd) : List RelayStep :=
  match event.answer? source with
  | none => []
  | some (.error fault) => [.receive source (.error fault)]
  | some (.ok []) => [.receive source (.ok [])]
  | some (.ok data) =>
    [.receive source (.ok data), .send source.other data (event.sendFault? source.other)]

/-- The steps that copy what both ends have, the client first. -/
def exchanging (event : RelayEvent) : List RelayStep :=
  andThen (copying event .client) (copying event .channel)

/-- The fault of waiting. Where the forward is stopped meanwhile, that may have a fault of its
own. -/
def waitFault? (stopFault : Option Fault) (event : RelayEvent) : Option Fault :=
  (if event.stops then stopFault else none).or event.waitFault

/-- The steps of one round. -/
def round (stopFault : Option Fault) (event : RelayEvent) : List RelayStep :=
  andThen [.wait event (waitFault? stopFault event)] (exchanging event)

/-- The steps of a relay: one round for each wait until a step ends it or the forward is stopped. -/
def transcript (stopFault : Option Fault) : List RelayEvent → List RelayStep
  | [] => []
  | event :: waits =>
    if event.stops then round stopFault event
    else andThen (round stopFault event) (transcript stopFault waits)

/-- The chunks, none of them empty, that are received from an end. -/
def chunks (source : RelayEnd) (steps : List RelayStep) : List Bytes :=
  steps.filterMap (·.chunk? source)

/-- What is sent to an end, one chunk after the other. -/
def sent (destination : RelayEnd) (steps : List RelayStep) : List Bytes :=
  steps.filterMap (·.sent? destination)

/-- Every chunk that is received is sent to the other end at once, and nothing else is sent. -/
inductive Copied : List RelayStep → Prop
  /-- Nothing was done. -/
  | nil : Copied []
  /-- A wait. -/
  | wait {event fault steps} : Copied steps → Copied (.wait event fault :: steps)
  /-- A fault of receiving. -/
  | broken {source fault steps} : Copied steps → Copied (.receive source (.error fault) :: steps)
  /-- The end of the data. -/
  | done {source steps} : Copied steps → Copied (.receive source (.ok []) :: steps)
  /-- A chunk, and the same chunk at the other end. -/
  | chunk {source data fault steps} : data ≠ [] → Copied steps →
      Copied (.receive source (.ok data) :: .send source.other data fault :: steps)

/-- What is true of the steps of a relay over some waits. -/
structure Relayed (waits : List RelayEvent) (steps : List RelayStep) : Prop where
  /-- The waits are taken in order. -/
  waited : steps.filterMap (·.event?) <+: waits
  /-- What an end has in these waits is received from it in order. -/
  received : ∀ source, steps.filterMap (·.answer? source) <+:
    (steps.filterMap (·.event?)).filterMap (·.answer? source)
  /-- Chunks are passed on as they come. -/
  copied : Copied steps
  /-- After a step that ends the relay there is none. -/
  ended : ∀ step ∈ steps.dropLast, step.ends = false
  /-- After a wait in which the forward is stopped there is no other wait. -/
  stopped : ∀ event ∈ (steps.filterMap (·.event?)).dropLast, event.stops = false
  /-- A relay that is neither ended nor stopped goes on to the last wait and receives all there
  is. -/
  complete : (∀ step ∈ steps, step.ends = false ∧ step.stops = false) →
    steps.filterMap (·.event?) = waits ∧
      ∀ source, steps.filterMap (·.answer? source) = waits.filterMap (·.answer? source)

variable {first next : List RelayStep} {event : RelayEvent} {stopFault : Option Fault}

/-! ## One after the other -/

/-- Steps that end a relay are followed by none. -/
theorem andThen_of_ends (h : first.any (·.ends) = true) (next : List RelayStep) :
    andThen first next = first := by
  unfold andThen
  rw [if_pos h]

/-- Steps that do not end a relay are followed by the next ones. -/
theorem andThen_of_not_ends (h : first.any (·.ends) = false) (next : List RelayStep) :
    andThen first next = first ++ next := by
  unfold andThen
  rw [if_neg (by simp [h])]

/-- Every step belongs to one of the parts. -/
theorem mem_andThen {step : RelayStep} (h : step ∈ andThen first next) :
    step ∈ first ∨ step ∈ next := by
  unfold andThen at h
  split at h
  · exact .inl h
  · exact List.mem_append.1 h

/-- Where both parts pass on what they receive, the whole does. -/
theorem Copied.andThen (h : Copied first) (hnext : Copied next) : Copied (andThen first next) := by
  cases hends : first.any (·.ends) with
  | true => rwa [andThen_of_ends hends]
  | false =>
    rw [andThen_of_not_ends hends]
    clear hends
    induction h with
    | nil => exact hnext
    | wait _ ih => exact .wait ih
    | broken _ ih => exact .broken ih
    | done _ ih => exact .done ih
    | chunk hdata _ ih => exact .chunk hdata ih

/-- What was passed on is what was received at the other end. -/
theorem Copied.sent_eq {steps : List RelayStep} (h : Copied steps) (destination : RelayEnd) :
    sent destination steps = chunks destination.other steps := by
  unfold sent chunks
  induction h with
  | nil => rfl
  | wait _ ih => exact ih
  | broken _ ih => exact ih
  | done _ ih => simpa [List.filterMap_cons] using ih
  | @chunk source _ _ _ hdata _ ih =>
    have hends : source.other = destination ↔ source = destination.other := by
      cases source <;> cases destination <;> decide
    by_cases hsource :
      source = destination.other <;> simp [List.filterMap_cons, hends, hdata, hsource, ih]

/-- Only the last step ends a relay. -/
def EndsLast (steps : List RelayStep) : Prop :=
  ∀ step ∈ steps.dropLast, step.ends = false

/-- Where only the last step of each part ends the relay, only the last step of the whole does. -/
theorem EndsLast.andThen (h : EndsLast first) (hnext : EndsLast next) :
    EndsLast (andThen first next) := by
  cases hends : first.any (·.ends) with
  | true => rwa [andThen_of_ends hends]
  | false =>
    rw [andThen_of_not_ends hends]
    cases next with
    | nil => rwa [List.append_nil]
    | cons step next =>
      intro other hother
      rw [List.dropLast_append_of_ne_nil (List.cons_ne_nil _ _)] at hother
      rcases List.mem_append.1 hother with hother | hother
      · simpa using List.any_eq_false.1 hends other hother
      · exact hnext other hother

/-- What is taken from each part is taken from the whole, the second part only where the first one
is not ended. -/
theorem prefix_andThen {β : Type} {f : RelayStep → Option β} {a b : List β}
    (h : first.filterMap f <+: a) (hall : first.any (·.ends) = false → first.filterMap f = a)
    (hnext : next.filterMap f <+: b) : (andThen first next).filterMap f <+: a ++ b := by
  cases hends : first.any (·.ends) with
  | true =>
    rw [andThen_of_ends hends]
    exact h.trans (List.prefix_append a b)
  | false =>
    rw [andThen_of_not_ends hends, List.filterMap_append, hall hends]
    exact (List.prefix_append_right_inj a).2 hnext

/-- Where neither part ends the relay, all is taken. -/
theorem filterMap_andThen {β : Type} {f : RelayStep → Option β}
    (h : (andThen first next).any (·.ends) = false) :
    first.any (·.ends) = false ∧ next.any (·.ends) = false ∧
      (andThen first next).filterMap f = first.filterMap f ++ next.filterMap f := by
  cases hends : first.any (·.ends) with
  | true =>
    rw [andThen_of_ends hends, hends] at h
    cases h
  | false =>
    rw [andThen_of_not_ends hends] at h ⊢
    rw [List.any_append, Bool.or_eq_false_iff] at h
    exact ⟨rfl, h.2, List.filterMap_append⟩

/-! ## One copy -/

/-- What one copy does: nothing, a fault, the end of the data, or a chunk that is passed on. -/
theorem copying_cases (event : RelayEvent) (source : RelayEnd) :
    (event.answer? source = none ∧ copying event source = []) ∨
      (∃ fault, event.answer? source = some (.error fault) ∧
        copying event source = [.receive source (.error fault)]) ∨
      (event.answer? source = some (.ok []) ∧ copying event source = [.receive source (.ok [])]) ∨
      ∃ data, data ≠ [] ∧ event.answer? source = some (.ok data) ∧
        copying event source =
          [.receive source (.ok data), .send source.other data
            (event.sendFault? source.other)] := by
  unfold copying
  rcases event.answer? source with _ | ⟨fault | (_ | ⟨byte, data⟩)⟩
  · exact .inl ⟨rfl, rfl⟩
  · exact .inr (.inl ⟨fault, rfl, rfl⟩)
  · exact .inr (.inr (.inl ⟨rfl, rfl⟩))
  · exact .inr (.inr (.inr ⟨byte :: data, List.cons_ne_nil _ _, rfl, rfl⟩))

/-- One copy passes on what it receives. -/
theorem copied_copying (event : RelayEvent) (source : RelayEnd) :
    Copied (copying event source) := by
  obtain ⟨-, h⟩ | ⟨_, -, h⟩ | ⟨-, h⟩ | ⟨_, hdata, -, h⟩ := copying_cases event source <;> rw [h]
  · exact .nil
  · exact .broken .nil
  · exact .done .nil
  · exact .chunk hdata .nil

/-- Only the last step of a copy ends a relay. -/
theorem endsLast_copying (event : RelayEvent) (source : RelayEnd) :
    EndsLast (copying event source) := by
  obtain ⟨-, h⟩ | ⟨_, -, h⟩ | ⟨-, h⟩ | ⟨_, hdata, -, h⟩ := copying_cases event source <;> rw [h] <;>
    simp [EndsLast]
  exact hdata

/-- What an end has is received by the copy of that end. -/
theorem received_copying (event : RelayEvent) (source end' : RelayEnd) :
    (copying event source).filterMap (·.answer? end') =
      if source = end' then (event.answer? source).toList else [] := by
  obtain ⟨h', h⟩ | ⟨_, h', h⟩ | ⟨h', h⟩ | ⟨_, -, h', h⟩ :=
    copying_cases event source <;> rw [h, h'] <;>
    by_cases hend : source = end' <;> simp [hend]

/-- A copy is no wait. -/
theorem event?_of_mem_copying {event : RelayEvent} {source : RelayEnd} {step : RelayStep}
    (h : step ∈ copying event source) : step.event? = none := by
  obtain ⟨-, heq⟩ | ⟨_, -, heq⟩ | ⟨-, heq⟩ | ⟨_, -, -, heq⟩ := copying_cases event source <;>
    rw [heq] at h
  · cases h
  · rw [List.mem_singleton.1 h, RelayStep.event?_receive]
  · rw [List.mem_singleton.1 h, RelayStep.event?_receive]
  · rcases List.mem_cons.1 h with rfl | h
    · rw [RelayStep.event?_receive]
    · rw [List.mem_singleton.1 h, RelayStep.event?_send]

/-! ## One round -/

/-- A round waits once. -/
theorem event?_round (stopFault : Option Fault) (event : RelayEvent) :
    (round stopFault event).filterMap (·.event?) = [event] := by
  have hcopies : (exchanging event).filterMap (·.event?) = [] := by
    rw [List.filterMap_eq_nil_iff]
    intro step hstep
    exact (mem_andThen hstep).elim event?_of_mem_copying event?_of_mem_copying
  unfold round andThen
  split
  · rfl
  · rw [List.filterMap_append, hcopies]
    rfl

/-- The forward is stopped in some steps if it is stopped in one of their waits. -/
theorem any_stops (steps : List RelayStep) :
    steps.any (·.stops) = (steps.filterMap (·.event?)).any (·.stops) := by
  rw [List.any_filterMap]
  refine congrArg (steps.any ·) (funext fun step => ?_)
  unfold RelayStep.stops
  cases step.event? <;> rfl

/-- The forward is stopped in a round if that happens in its wait. -/
theorem any_stops_round (stopFault : Option Fault) (event : RelayEvent) :
    (round stopFault event).any (·.stops) = event.stops := by
  rw [any_stops, event?_round, List.any_cons, List.any_nil, Bool.or_false]

/-- A fault of stopping the forward matters only where it is stopped. -/
theorem round_of_not_stops (h : event.stops = false) (stopFault stopFault' : Option Fault) :
    round stopFault event = round stopFault' event := by
  unfold round waitFault?
  rw [h, if_neg Bool.false_ne_true, if_neg Bool.false_ne_true]

/-- A round passes on what it receives. -/
theorem copied_round (stopFault : Option Fault) (event : RelayEvent) :
    Copied (round stopFault event) :=
  .andThen (.wait .nil) ((copied_copying event .client).andThen (copied_copying event .channel))

/-- Only the last step of a round ends a relay. -/
theorem endsLast_round (stopFault : Option Fault) (event : RelayEvent) :
    EndsLast (round stopFault event) := by
  have hwait : EndsLast [.wait event (waitFault? stopFault event)] := fun _ hstep => by cases hstep
  exact hwait.andThen ((endsLast_copying event .client).andThen (endsLast_copying event .channel))

/-- What an end has is received from the client or from the channel. -/
theorem answer?_toList (event : RelayEvent) (source : RelayEnd) :
    (copying event .client).filterMap (·.answer? source) ++
      (copying event .channel).filterMap (·.answer? source) = (event.answer? source).toList := by
  rw [received_copying, received_copying]
  cases source <;> simp

/-- A round receives no more than what an end has. -/
theorem received_round (stopFault : Option Fault) (event : RelayEvent) (source : RelayEnd) :
    (round stopFault event).filterMap (·.answer? source) <+: (event.answer? source).toList := by
  have hexchange :
      (exchanging event).filterMap (·.answer? source) <+: (event.answer? source).toList := by
    rw [← answer?_toList]
    exact prefix_andThen List.prefix_rfl (fun _ => rfl) List.prefix_rfl
  exact prefix_andThen (a := []) List.prefix_rfl (fun _ => rfl) hexchange

/-- A round that does not end the relay receives all that an end has. -/
theorem received_round_eq (h : (round stopFault event).any (·.ends) = false) (source : RelayEnd) :
    (round stopFault event).filterMap (·.answer? source) = (event.answer? source).toList := by
  obtain ⟨-, hexchange, hround⟩ := filterMap_andThen (f := (·.answer? source)) h
  obtain ⟨-, -, hcopies⟩ := filterMap_andThen (f := (·.answer? source)) hexchange
  unfold round
  rw [hround]
  unfold exchanging
  rw [hcopies, answer?_toList]
  rfl

/-! ## The whole relay -/

/-- A relay is its first round where the forward is stopped in it. -/
theorem transcript_of_stops (h : event.stops = true) (stopFault : Option Fault)
    (waits : List RelayEvent) :
    transcript stopFault (event :: waits) = round stopFault event := by
  rw [transcript, if_pos h]

/-- A relay is its first round where this ends it. -/
theorem transcript_of_ends (h : (round stopFault event).any (·.ends) = true)
    (waits : List RelayEvent) :
    transcript stopFault (event :: waits) = round stopFault event := by
  rw [transcript, andThen_of_ends h, ite_self]

/-- A relay that goes on is its first round and the relay over the other waits. -/
theorem transcript_of_goes_on (hstops : event.stops = false)
    (h : (round stopFault event).any (·.ends) = false) (waits : List RelayEvent) :
    transcript stopFault (event :: waits) =
      round stopFault event ++ transcript stopFault waits := by
  rw [transcript, andThen_of_not_ends h, hstops, if_neg Bool.false_ne_true]

/-- A relay whose first round ends it, or is one in which the forward is stopped, is that round. -/
theorem relayed_round (waits : List RelayEvent)
    (h : event.stops = true ∨ (round stopFault event).any (·.ends) = true) :
    Relayed (event :: waits) (round stopFault event) where
  waited := by
    rw [event?_round]
    exact (List.prefix_cons_inj event).2 (List.nil_prefix)
  received source := by
    rw [event?_round, List.filterMap_cons]
    have hreceived := received_round stopFault event source
    cases hanswer : event.answer? source <;> simpa [hanswer] using hreceived
  copied := copied_round stopFault event
  ended := endsLast_round stopFault event
  stopped _ hmem := by
    rw [event?_round] at hmem
    cases hmem
  complete hgoes := by
    exfalso
    rcases h with hstops | hends
    · rw [← any_stops_round stopFault event] at hstops
      obtain ⟨step, hstep, hstop⟩ := List.any_eq_true.1 hstops
      rw [(hgoes step hstep).2] at hstop
      cases hstop
    · obtain ⟨step, hstep, hend⟩ := List.any_eq_true.1 hends
      rw [(hgoes step hstep).1] at hend
      cases hend

/-- A relay that goes on after its first round is that round and a relay over the other waits. -/
theorem Relayed.append {waits : List RelayEvent} {steps : List RelayStep} (h : Relayed waits steps)
    (hstops : event.stops = false) (hends : (round stopFault event).any (·.ends) = false) :
    Relayed (event :: waits) (round stopFault event ++ steps) where
  waited := by
    rw [List.filterMap_append, event?_round]
    exact (List.prefix_cons_inj event).2 h.waited
  received source := by
    have hall : [event].filterMap (·.answer? source) = (event.answer? source).toList := by
      cases hanswer : event.answer? source <;> simp [hanswer]
    rw [List.filterMap_append, List.filterMap_append, event?_round, List.filterMap_append,
      received_round_eq hends, hall]
    exact (List.prefix_append_right_inj _).2 (h.received source)
  copied := by
    rw [← andThen_of_not_ends hends]
    exact (copied_round stopFault event).andThen h.copied
  ended := by
    have hlast := (endsLast_round stopFault event).andThen h.ended
    rwa [andThen_of_not_ends hends] at hlast
  stopped other hmem := by
    rw [List.filterMap_append, event?_round, List.singleton_append] at hmem
    rcases hevents : steps.filterMap (·.event?) with _ | ⟨next, events⟩
    · rw [hevents] at hmem
      cases hmem
    · rw [hevents, List.dropLast_cons_of_ne_nil (List.cons_ne_nil _ _), ← hevents] at hmem
      rcases List.mem_cons.1 hmem with rfl | hmem
      · exact hstops
      · exact h.stopped other hmem
  complete hgoes := by
    obtain ⟨hwaits, hreceived⟩ :=
      h.complete fun step hstep => hgoes step (List.mem_append_right _ hstep)
    refine ⟨?_, fun source => ?_⟩
    · rw [List.filterMap_append, event?_round, hwaits, List.singleton_append]
    · rw [List.filterMap_append, received_round_eq hends, hreceived, List.filterMap_cons]
      cases event.answer? source <;> rfl

/-- A relay does what it should over any waits: the induction is on these, and a round either is the
last one or is followed by the relay over the other waits. -/
theorem relayed_transcript (stopFault : Option Fault) (waits : List RelayEvent) :
    Relayed waits (transcript stopFault waits) := by
  induction waits with
  | nil =>
    refine ⟨List.prefix_rfl, fun _ => List.prefix_rfl, .nil, ?_, ?_, fun _ => ⟨rfl, fun _ => rfl⟩⟩
    · exact fun _ hstep => by cases hstep
    · exact fun _ hevent => by cases hevent
  | cons event waits ih =>
    cases hends : (round stopFault event).any (·.ends) with
    | true =>
      rw [transcript_of_ends hends]
      exact relayed_round waits (.inr hends)
    | false =>
      cases hstops : event.stops with
      | true =>
        rw [transcript_of_stops hstops]
        exact relayed_round waits (.inl hstops)
      | false =>
        rw [transcript_of_goes_on hstops hends]
        exact ih.append hstops hends

end Ssh

end SecureForward
