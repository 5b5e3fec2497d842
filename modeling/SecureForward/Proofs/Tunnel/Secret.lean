import SecureForward.Proofs.Config.Properties
import SecureForward.Proofs.Coupling
import SecureForward.Proofs.Tunnel.Uses

/-!
# The passphrase stays secret

What the private key is decrypted with goes to the transport and nowhere else. Configurations,
tunnels, logins and calls that differ in the passphrase alone are equal once it is veiled. Every
step of a session is coupled with the same step of a session whose tunnel is equal to the first
one's when veiled, if the transport is blind to the passphrase. `interview` lets a client open a
tunnel and then do with it whatever it decides on by what it saw so far; `passphrase_unseen` says
that it sees the same with every passphrase.
-/

namespace SecureForward

open Act (run Coupled Matched)

/-! ## What is equal but for the passphrase -/

namespace Config

/-- The configuration without the passphrase. -/
def veiled (config : Config) : Config :=
  { config with passphrase := .null }

/-- The check of a configuration does not look at the passphrase. -/
theorem checked_veiled (config : Config) : checked config.veiled = (checked config).map veiled := by
  have hflaw : config.veiled.flaw? = config.flaw? := rfl
  have henabled : config.veiled.enabled = config.enabled := rfl
  unfold checked
  rw [hflaw, henabled]
  by_cases hasked : config.enabled = true
  · rw [if_pos hasked, if_pos hasked]
    cases config.flaw? with
    | none => rfl
    | some reason => rfl
  · rw [if_neg hasked, if_neg hasked]
    rfl

/-- Properties that have the same values but for the passphrase. -/
def AgreeButPassphrase (properties properties' : Properties) : Prop :=
  ∀ name, name ≠ "ssh_private_key_passphrase" → properties.value name = properties'.value name

variable {properties properties' : Properties}

/-- Properties that differ in the passphrase they begin with agree but for it. -/
theorem agreeButPassphrase_cons (passphrase passphrase' : Value) (others : Properties) :
    AgreeButPassphrase (("ssh_private_key_passphrase", passphrase) :: others)
      (("ssh_private_key_passphrase", passphrase') :: others) := by
  intro name hname
  unfold Properties.value
  rw [List.lookup_cons, List.lookup_cons, beq_false_of_ne hname]

/-- Properties that agree but for the passphrase describe configurations that do. -/
theorem veiled_described (h : AgreeButPassphrase properties properties') (address : Address)
    (targetPort : Int) :
    (described properties address targetPort).veiled =
      (described properties' address targetPort).veiled := by
  unfold described veiled
  simp only [h "ssh_user" (by decide), h "ssh_private_key_file" (by decide),
    h "ssh_known_hosts_file" (by decide), h "ssh_strict_host_key_checking" (by decide),
    h "target_host" (by decide)]

/-- Properties that agree but for the passphrase are refused with the same fault or are read as
configurations that agree but for the passphrase. -/
theorem map_veiled_ofProperties (h : AgreeButPassphrase properties properties') :
    (ofProperties properties).map veiled = (ofProperties properties').map veiled := by
  have hswitch := h "ssh_tunnel_enabled" (by decide)
  cases hon : (properties.value "ssh_tunnel_enabled").toSwitch false with
  | false => rw [ofProperties_of_off hon, ofProperties_of_off (hswitch ▸ hon)]
  | true =>
    -- The address, the port and the texts are read from the same values, and the check comes last.
    have haddress : readAddress properties = readAddress properties' := by
      unfold readAddress hostText
      rw [h "ssh_host" (by decide)]
    have htexts : checkTexts properties = checkTexts properties' := by
      unfold checkTexts
      simp only [textNames, List.forM_cons, List.forM_nil, h "ssh_user" (by decide),
        h "ssh_private_key_file" (by decide), h "ssh_known_hosts_file" (by decide),
        h "target_host" (by decide)]
    have hchecked (address : Address) (targetPort : Int) :
        (checked (described properties address targetPort)).map veiled =
          (checked (described properties' address targetPort)).map veiled := by
      rw [← checked_veiled, ← checked_veiled, veiled_described h]
    rw [ofProperties_of_on hon, ofProperties_of_on (hswitch ▸ hon), haddress, htexts,
      h "ssh_host" (by decide), h "target_port" (by decide)]
    simp only [map_bind_eq, hchecked]

end Config

/-- The login without the passphrase. -/
def Login.veiled (login : Login) : Login :=
  { login with passphrase := .null }

/-- The call without the passphrase. -/
def TransportCall.veiled : TransportCall → TransportCall
  | .connect login decision seconds => .connect login.veiled decision seconds
  | call => call

namespace Tunnel

/-- The tunnel with another passphrase. -/
def withPassphrase (tunnel : Tunnel) (passphrase : Value) : Tunnel :=
  { tunnel with config := { tunnel.config with passphrase } }

/-- The tunnel without the passphrase. -/
def veiled (tunnel : Tunnel) : Tunnel :=
  { tunnel with config := tunnel.config.veiled }

/-- Of two tunnels that are equal but for the passphrase, one is the other with another
passphrase. -/
theorem exists_of_veiled_eq {tunnel tunnel' : Tunnel} (h : tunnel.veiled = tunnel'.veiled) :
    ∃ passphrase, tunnel' = tunnel.withPassphrase passphrase := by
  refine ⟨tunnel'.config.passphrase, ?_⟩
  calc tunnel' = tunnel'.veiled.withPassphrase tunnel'.config.passphrase := rfl
    _ = tunnel.veiled.withPassphrase tunnel'.config.passphrase := by rw [h]
    _ = tunnel.withPassphrase tunnel'.config.passphrase := rfl

end Tunnel

/-! ## Transports that are blind to the passphrase -/

section

variable {ν : Type} {Same : ν → ν → Prop}

/-- Sites with the same machine and states of the transport that correspond. -/
structure Site.Alike (Same : ν → ν → Prop) (site site' : Site ν) : Prop where
  /-- The machines are equal. -/
  machine : site.machine = site'.machine
  /-- The states of the transport correspond. -/
  peer : Same site.peer site'.peer

/-- What a transport answers does not depend on the passphrase, nor does what it does to the
machine. It may keep the passphrase, in states that correspond. -/
structure Transport.IsBlind (transport : Transport ν) (Same : ν → ν → Prop) : Prop where
  /-- Making a transport depends on nothing else. -/
  create : Coupled (Site.Alike Same) Eq transport.create transport.create
  /-- Opening a session depends on nothing else that it is told. -/
  connect : ∀ (login login' : Login) (decision : Decision) (seconds : Float),
    login.veiled = login'.veiled →
      Coupled (Site.Alike Same) Eq (transport.connect login decision seconds)
        (transport.connect login' decision seconds)
  /-- Forwarding depends on nothing else. -/
  openForward : ∀ request : ForwardRequest,
    Coupled (Site.Alike Same) Eq (transport.openForward request) (transport.openForward request)
  /-- Giving everything back depends on nothing else. -/
  disconnect : Coupled (Site.Alike Same) Eq transport.disconnect transport.disconnect

namespace Recorded

/-- The calls without the passphrase. -/
def veiledCalls (recorded : Recorded ν) : List (List TransportCall) :=
  recorded.calls.map (·.map TransportCall.veiled)

/-- Accounts that are equal but for the passphrase, on states that correspond. -/
structure Alike (Same : ν → ν → Prop) (recorded recorded' : Recorded ν) : Prop where
  /-- The calls are equal but for the passphrase. -/
  calls : recorded.veiledCalls = recorded'.veiledCalls
  /-- The states of the transport correspond. -/
  inner : Same recorded.inner recorded'.inner

/-- A call is veiled before or after it is put on the account. -/
theorem map_veiled_addCall (call : TransportCall) (calls : List (List TransportCall)) :
    (addCall call calls).map (·.map TransportCall.veiled) =
      addCall call.veiled (calls.map (·.map TransportCall.veiled)) := by
  induction calls with
  | nil => rfl
  | cons first rest ih =>
    cases rest with
    | nil => exact congrArg ([·]) List.map_append
    | cons second rest => exact congrArg (first.map TransportCall.veiled :: ·) ih

/-- Calls that are equal but for the passphrase are put on accounts that are. -/
theorem coupled_note {call call' : TransportCall} (h : call.veiled = call'.veiled) :
    Coupled (Site.Alike (Alike Same)) Eq (note call) (note call') := by
  intro s s' hs
  refine ⟨.ok rfl, hs.machine, ?_, hs.peer.inner⟩
  change (addCall call s.peer.calls).map _ = (addCall call' s'.peer.calls).map _
  rw [map_veiled_addCall, map_veiled_addCall, h]
  exact congrArg _ hs.peer.calls

/-- Accounts for a transport that was created are opened alike. -/
theorem coupled_noteCreated :
    Coupled (Site.Alike (Alike Same)) Eq noteCreated noteCreated := by
  refine .modify fun s s' hs => ⟨hs.machine, ?_, hs.peer.inner⟩
  change (s.peer.calls ++ [[]]).map _ = (s'.peer.calls ++ [[]]).map _
  rw [List.map_append, List.map_append]
  exact congrArg (· ++ _) hs.peer.calls

/-- Acts on a transport that correspond do so beside the account of its calls. -/
theorem coupled_within {α : Type} {act act' : Act (Site ν) α}
    (h : Coupled (Site.Alike Same) Eq act act') :
    Coupled (Site.Alike (Alike Same)) Eq (Act.within sitePart act) (Act.within sitePart act') :=
  .within (fun _ _ hs => ⟨hs.machine, hs.peer.inner⟩)
    (fun _ _ _ _ hs hr => ⟨hr.machine, hs.peer.calls, hr.peer⟩) h

end Recorded

/-- With an account of its calls a transport stays blind to the passphrase. -/
theorem Transport.IsBlind.recorded {transport : Transport ν} (h : transport.IsBlind Same) :
    transport.recorded.IsBlind (Recorded.Alike Same) where
  create := (Recorded.coupled_within h.create).bind fun _ _ _ => Recorded.coupled_noteCreated
  connect login login' decision seconds hlogin :=
    (Recorded.coupled_note (by simp only [TransportCall.veiled, hlogin])).bind fun _ _ _ =>
      Recorded.coupled_within (h.connect login login' decision seconds hlogin)
  openForward request :=
    (Recorded.coupled_note rfl).bind fun _ _ _ => Recorded.coupled_within (h.openForward request)
  disconnect := (Recorded.coupled_note rfl).bind fun _ _ _ => Recorded.coupled_within h.disconnect

/-- An act is coupled with itself on sites that are equal. -/
theorem Site.coupled_self {α : Type} (act : Act (Site ν) α) :
    Coupled (Site.Alike Eq) Eq act act := by
  rintro ⟨machine, peer⟩ ⟨machine', peer'⟩ ⟨hmachine, hpeer⟩
  obtain rfl : machine = machine' := hmachine
  obtain rfl : peer = peer' := hpeer
  exact ⟨.refl _, rfl, rfl⟩

/-- A rehearsed transport is blind to the passphrase. -/
theorem Transport.isBlind_rehearsed : Transport.rehearsed.IsBlind Eq where
  create := Site.coupled_self _
  connect _ _ _ _ _ := Site.coupled_self _
  openForward _ := Site.coupled_self _
  disconnect := Site.coupled_self _

end

/-! ## Sessions that are alike but for the passphrase -/

namespace Session

variable {ν α β : Type} {Same : ν → ν → Prop} {transport : Transport ν}

/-- Sessions with tunnels that are equal but for the passphrase, on sites that correspond. -/
structure Alike (Same : ν → ν → Prop) (s s' : Session ν) : Prop where
  /-- The tunnels are equal but for the passphrase. -/
  tunnel : s.tunnel.veiled = s'.tunnel.veiled
  /-- The sites correspond. -/
  site : s.site.Alike Same s'.site

/-- Acts that read the session correspond if they do when the second one finds the tunnel of the
first with another passphrase. -/
theorem coupled_get {Q : α → β → Prop} {next : Session ν → Act (Session ν) α}
    {next' : Session ν → Act (Session ν) β}
    (h : ∀ tunnel site site' passphrase, Coupled (Alike Same) Q (next ⟨tunnel, site⟩)
      (next' ⟨tunnel.withPassphrase passphrase, site'⟩)) :
    Coupled (Alike Same) Q (get >>= next) (get >>= next') := by
  refine .bind .get ?_
  rintro ⟨tunnel, site⟩ ⟨tunnel', site'⟩ ⟨htunnel, -⟩
  obtain ⟨passphrase, rfl⟩ := Tunnel.exists_of_veiled_eq htunnel
  exact h tunnel site site' passphrase

/-- The tunnels move to another phase alike. -/
theorem coupled_enter (phase : Phase) : Coupled (Alike Same) Eq (enter phase) (enter phase) :=
  .modify fun _ _ hs => ⟨congrArg (fun tunnel => { tunnel with phase }) hs.tunnel, hs.site⟩

/-- The forward that is held is noted alike. -/
theorem coupled_hold (heldPort : Option Int) :
    Coupled (Alike Same) Eq (hold heldPort) (hold heldPort) :=
  .modify fun _ _ hs => ⟨congrArg (fun tunnel => { tunnel with heldPort }) hs.tunnel, hs.site⟩

/-- Acts on the sites that correspond do so in the sessions. -/
theorem coupled_onSite {Q : α → β → Prop} {act : Act (Site ν) α} {act' : Act (Site ν) β}
    (h : Coupled (Site.Alike Same) Q act act') :
    Coupled (Alike Same) Q (onSite act) (onSite act') :=
  .within (fun _ _ hs => hs.site) (fun _ _ _ _ hs hr => ⟨hs.tunnel, hr⟩) h

/-- Acts on the machine that correspond do so in the sessions. -/
theorem coupled_onMachine {Q : α → β → Prop} {act : Act Machine α} {act' : Act Machine β}
    (h : Coupled Eq Q act act') : Coupled (Alike Same) Q (onMachine act) (onMachine act') :=
  coupled_onSite (.within (fun _ _ hs => hs.machine) (fun _ _ _ _ hs hr => ⟨hr, hs.peer⟩) h)

/-- The same event is reported alike. -/
theorem coupled_report (event : Event) :
    Coupled (Alike Same) Eq (report event) (report event) :=
  coupled_onMachine (.refl _)

/-- What has to be known before a transport is made is the same but for the passphrase. -/
theorem coupled_prepare (tunnel : Tunnel) (passphrase : Value) :
    Coupled Eq (fun known known' => known.1.veiled = known'.1.veiled ∧ known.2 = known'.2)
      (prepare tunnel) (prepare (tunnel.withPassphrase passphrase)) := by
  unfold prepare
  refine .bind (.refl _) fun keyFile _ hkey => ?_
  subst hkey
  refine .bind (.refl _) fun isFile _ hfile => ?_
  subst hfile
  refine .ite (.throw _) ?_
  -- How the host is verified, the configuration decides without the passphrase.
  refine .bind (.refl (tunnel.policy.resolve tunnel.config)) fun decision _ hdecision => ?_
  exact .pure ⟨rfl, hdecision⟩

/-- The session and the forward are opened alike. -/
theorem coupled_bringUp (hblind : transport.IsBlind Same) (tunnel : Tunnel) (passphrase : Value)
    {login login' : Login} (hlogin : login.veiled = login'.veiled) (decision : Decision) :
    Coupled (Site.Alike Same) Eq (bringUp transport tunnel login decision)
      (bringUp transport (tunnel.withPassphrase passphrase) login' decision) := by
  unfold bringUp
  refine .bind (.ofExcept _) fun seconds _ hseconds => ?_
  subst hseconds
  exact (hblind.connect login login' decision seconds hlogin).bind fun _ _ _ => hblind.openForward _

/-- The transport is given back alike. -/
theorem coupled_release (hblind : transport.IsBlind Same) :
    Coupled (Alike Same) Eq (release transport) (release transport) := by
  unfold release
  refine .bind (coupled_onSite hblind.disconnect).attempt fun outcome _ houtcome => ?_
  cases houtcome with
  | ok => exact .pure rfl
  | error fault => exact .ite (.throw fault) (coupled_report _)

/-- Attempts are given up alike after the same fault. -/
theorem coupled_giveUp {Q : α → β → Prop} {undo : Act (Session ν) Unit}
    (hundo : Coupled (Alike Same) Eq undo undo) (fault : Fault) :
    Coupled (Alike Same) Q (giveUp undo fault) (giveUp undo fault) := by
  unfold giveUp
  refine coupled_get fun tunnel _ _ passphrase => ?_
  refine (coupled_hold none).bind fun _ _ _ => (coupled_enter .failed).bind fun _ _ _ => ?_
  exact hundo.bind fun _ _ _ => (coupled_report _).bind fun _ _ _ => .throw _

/-- Tunnels that are asked for are opened alike. -/
theorem coupled_establish (hblind : transport.IsBlind Same) :
    Coupled (Alike Same) Eq (establish transport) (establish transport) := by
  unfold establish
  refine (coupled_enter .connecting).bind fun _ _ _ => coupled_get fun tunnel _ _ passphrase => ?_
  refine (coupled_report _).bind fun _ _ _ => ?_
  -- Three attempts follow; after a fault of any of them both sessions give up for the same reason.
  refine (coupled_onMachine (coupled_prepare tunnel passphrase)).attempt.bind fun _ _ hknown => ?_
  cases hknown with
  | error fault => exact coupled_giveUp (.pure rfl) fault
  | @ok known known' hknown =>
    obtain ⟨login, decision⟩ := known
    obtain ⟨login', decision'⟩ := known'
    obtain ⟨hlogin, rfl⟩ := hknown
    -- From here on the passphrase is in the two logins only, which nothing but the transport gets.
    refine (coupled_onSite hblind.create).attempt.bind fun _ _ hcreated => ?_
    cases hcreated with
    | error fault => exact coupled_giveUp (.pure rfl) fault
    | ok =>
      have hup := coupled_bringUp hblind tunnel passphrase hlogin decision
      refine (coupled_onSite hup).attempt.bind fun _ _ hport => ?_
      cases hport with
      | error fault => exact coupled_giveUp (coupled_release hblind) fault
      | ok hport =>
        subst hport
        exact (coupled_hold _).bind fun _ _ _ => (coupled_enter .forwarding).bind fun _ _ _ =>
          coupled_report _

/-- Tunnels are opened alike if they are asked for. -/
theorem coupled_start (hblind : transport.IsBlind Same) :
    Coupled (Alike Same) Eq (start transport) (start transport) := by
  unfold start
  exact coupled_get fun _ _ _ _ => .ite (coupled_establish hblind) (.pure rfl)

/-- Tunnels are taken down alike. -/
theorem coupled_disconnect (hblind : transport.IsBlind Same) :
    Coupled (Alike Same) Eq (disconnect transport) (disconnect transport) := by
  unfold disconnect
  refine coupled_get fun tunnel _ _ passphrase => ?_
  have hport : (tunnel.withPassphrase passphrase).heldPort = tunnel.heldPort := rfl
  dsimp only
  rw [hport]
  cases tunnel.heldPort with
  | none => exact .pure rfl
  | some port =>
    exact (coupled_hold none).bind fun _ _ _ => (coupled_enter .closed).bind fun _ _ _ =>
      (coupled_release hblind).bind fun _ _ _ => coupled_report _

/-- Targets are redirected alike. -/
theorem coupled_redirect (target : Target) :
    Coupled (Alike Same) Eq (redirect target) (redirect target) := by
  unfold redirect
  refine coupled_get fun tunnel _ _ passphrase => ?_
  have haddress : (tunnel.withPassphrase passphrase).override? = tunnel.override? := rfl
  dsimp only
  rw [haddress]
  cases tunnel.override? with
  | none => exact .pure rfl
  | some address =>
    refine .bind (.ofExcept _) fun target _ htarget => ?_
    subst htarget
    exact (coupled_report _).bind fun _ _ _ => .pure rfl

/-! ## What a client sees -/

/-- Uses a tunnel, and gives the new target where one is redirected. -/
def ask (transport : Transport ν) : Use → Act (Session ν) (Option Target)
  | .redirect target => redirect target
  | use => do
    perform transport use
    return none

/-- What can be seen after a step, the passphrase apart. -/
structure View where
  /-- What the step ended with. -/
  outcome : Except Fault (Option Target)
  /-- The machine, with everything that was reported. -/
  machine : Machine
  /-- How far the tunnel has come. -/
  phase : Phase
  /-- Whether the tunnel stands. -/
  isValid : Bool
  /-- The local host. -/
  localHost : String
  /-- The local port. -/
  localPort : Int
  /-- The address that takes the place of the target. -/
  override? : Option Address
  /-- The tunnel as it is shown. -/
  shown : String
  /-- The calls made on the transports, without the passphrase. -/
  calls : List (List TransportCall)

/-- What can be seen in a session after a step. -/
def view (s : Session (Recorded ν)) (outcome : Except Fault (Option Target)) : View :=
  { outcome, machine := s.site.machine, phase := s.tunnel.phase, isValid := s.tunnel.isValid,
    localHost := s.tunnel.localHost, localPort := s.tunnel.localPort,
    override? := s.tunnel.override?, shown := toString s.tunnel,
    calls := s.site.peer.veiledCalls }

/-- What a client sees that opens the tunnel of a session and does `n` more things with it, and the
session after that. What it does next, the client decides by what it saw. -/
def interview (transport : Transport ν) (client : List View → Use) (s : Session (Recorded ν)) :
    Nat → List View × Session (Recorded ν)
  | 0 =>
    let (outcome, t) := run (start transport.recorded) s
    ([t.view (outcome.map fun _ => none)], t)
  | n + 1 =>
    let (seen, t) := interview transport client s n
    let (outcome, t') := run (ask transport.recorded (client seen)) t
    (seen ++ [t'.view outcome], t')

/-- Tunnels are used alike. -/
theorem coupled_ask (hblind : transport.IsBlind Same) (use : Use) :
    Coupled (Alike Same) Eq (ask transport use) (ask transport use) := by
  have hnone : ∀ a b : Unit, a = b → Coupled (Alike Same) Eq
      (pure none : Act (Session ν) (Option Target)) (pure none) := fun _ _ _ => .pure rfl
  cases use with
  | disconnect => exact (coupled_disconnect hblind).bind hnone
  | enter => exact (Coupled.pure rfl).bind hnone
  | leave => exact (coupled_disconnect hblind).bind hnone
  | query => exact (Coupled.pure rfl).bind hnone
  | redirect target => exact coupled_redirect target

/-- Sessions that are alike look the same after the same outcome. -/
theorem Alike.view_eq {s s' : Session (Recorded ν)} (h : Alike (Recorded.Alike Same) s s')
    (outcome : Except Fault (Option Target)) : s.view outcome = s'.view outcome := by
  obtain ⟨tunnel, machine, peer⟩ := s
  obtain ⟨tunnel', machine', peer'⟩ := s'
  obtain ⟨htunnel, hmachine, hpeer⟩ := h
  obtain ⟨passphrase, rfl⟩ := Tunnel.exists_of_veiled_eq htunnel
  obtain rfl : machine = machine' := hmachine
  change View.mk _ _ _ _ _ _ _ _ peer.veiledCalls = View.mk _ _ _ _ _ _ _ _ peer'.veiledCalls
  rw [hpeer.calls]
  rfl

/-- In sessions that are alike a client sees the same, and they stay alike. -/
theorem interview_alike (hblind : transport.IsBlind Same) {s s' : Session (Recorded ν)}
    (hs : Alike (Recorded.Alike Same) s s') (client : List View → Use) (n : Nat) :
    (interview transport client s n).1 = (interview transport client s' n).1 ∧
      Alike (Recorded.Alike Same) (interview transport client s n).2
        (interview transport client s' n).2 := by
  induction n with
  | zero =>
    obtain ⟨houtcome, hstates⟩ := coupled_start hblind.recorded s s' hs
    unfold interview
    dsimp only
    refine ⟨?_, hstates⟩
    rw [houtcome.eq, hstates.view_eq]
  | succ n ih =>
    obtain ⟨hseen, halike⟩ := ih
    obtain ⟨houtcome, hstates⟩ := coupled_ask hblind.recorded
      (client (interview transport client s n).1) _ _ halike
    -- Having seen the same, the client does the same.
    unfold interview
    dsimp only
    rw [← hseen]
    refine ⟨?_, hstates⟩
    rw [houtcome.eq, hstates.view_eq]

/-- Sessions with tunnels that are not opened yet are alike if what is asked for is the same but for
the passphrase. -/
theorem alike_fresh (settings : Settings) (choices : Tunnel.Choices) (machine : Machine)
    {config config' : Config} (hconfig : config.veiled = config'.veiled) {peer peer' : ν}
    (hpeer : Same peer peer') :
    Alike (Recorded.Alike Same)
      (fresh settings choices (some config) { machine, peer := { calls := [], inner := peer } })
      (fresh settings choices (some config')
        { machine, peer := { calls := [], inner := peer' } }) where
  tunnel := congrArg (Tunnel.new settings choices) hconfig
  site := { machine := rfl, peer := { calls := rfl, inner := hpeer } }

/-- The passphrase goes nowhere but to the transport. Properties that agree but for the passphrase
are refused with the same fault or are read as configurations that agree but for it, and then
nothing that a client sees or brings about depends on it, from opening the tunnel on and as long as
the transport is blind to it: what each step ends with, what is reported and written, how the tunnel
answers, and what the transport is told. -/
theorem passphrase_unseen {properties properties' : Properties}
    (hproperties : Config.AgreeButPassphrase properties properties')
    (hblind : transport.IsBlind Same) :
    Matched (fun config config' => config.veiled = config'.veiled ∧
      ∀ settings choices machine peer peer' client n, Same peer peer' →
        (interview transport client (fresh settings choices (some config)
          { machine, peer := { calls := [], inner := peer } }) n).1 =
        (interview transport client (fresh settings choices (some config')
          { machine, peer := { calls := [], inner := peer' } }) n).1)
      (Config.ofProperties properties) (Config.ofProperties properties') := by
  have hread := Matched.of_map_eq (Config.map_veiled_ofProperties hproperties)
  refine hread.imp fun config config' hveiled =>
    ⟨hveiled, fun settings choices machine peer peer' client n hpeer => ?_⟩
  exact (interview_alike hblind (alike_fresh settings choices machine hveiled hpeer) client n).1

/-- Properties that ask for a tunnel and give a passphrase. -/
def secretProperties (passphrase : String) : Properties :=
  [("ssh_private_key_passphrase", .text passphrase), ("ssh_tunnel_enabled", .bool true),
    ("ssh_host", .text "gate"), ("ssh_user", .text "deploy"),
    ("ssh_private_key_file", .text "/key"),
    ("ssh_strict_host_key_checking", .bool false), ("target_host", .text "db"),
    ("target_port", .int 5432)]

/-- The configuration that these properties describe. -/
def secretConfig (passphrase : String) : Config :=
  { host := "gate", port := 22, user := "deploy", keyFile := "/key", knownHostsFile := none,
    verifiesHost := false, targetHost := "db", targetPort := 5432, passphrase := .text passphrase,
    enabled := true }

/-- A machine with the key file. -/
def keyMachine : Machine :=
  { place := { home := "/", current := "/" },
    files := { entries := [([['k', 'e', 'y']], .file [])] }, salts := [], clock := "", log := [],
    console := none, consoleLines := [], logFile := none }

/-- A client that takes a tunnel down that stands and asks about any other. -/
def cautious (seen : List View) : Use :=
  if seen.getLast?.any (·.isValid) then .disconnect else .query

/-- Two passphrases are read from properties, and each takes a tunnel through its life; what the
client sees on the way is the same. -/
theorem passphrase_unseen_trial :
    let seen := fun passphrase => interview .rehearsed cautious
      (fresh .default .none (some (secretConfig passphrase))
        { machine := keyMachine
          peer := { calls := [], inner := { create := none, connect := none, openForward := none,
                                            disconnect := none, localPort := 4000 } } })
    Config.ofProperties (secretProperties "correct horse") = .ok (secretConfig "correct horse") ∧
      Config.ofProperties (secretProperties "battery staple") =
        .ok (secretConfig "battery staple") ∧
      (seen "correct horse" 2).1.map View.phase = [.forwarding, .closed, .closed] ∧
      ∀ n, (seen "correct horse" n).1 = (seen "battery staple" n).1 := by
  intro seen
  have hread : Config.ofProperties (secretProperties "correct horse") =
      .ok (secretConfig "correct horse") := by rfl
  have hread' : Config.ofProperties (secretProperties "battery staple") =
      .ok (secretConfig "battery staple") := by rfl
  have hagree : Config.AgreeButPassphrase (secretProperties "correct horse")
      (secretProperties "battery staple") := Config.agreeButPassphrase_cons _ _ _
  have hmatched := passphrase_unseen hagree Transport.isBlind_rehearsed
  rw [hread, hread'] at hmatched
  cases hmatched with
  | ok hviews =>
    exact ⟨hread, hread', by decide +kernel, fun n => hviews.2 _ _ _ _ _ _ n rfl⟩

end Session

end SecureForward
