import SecureForward.CommandLine.Program
import SecureForward.Proofs.Files.Path
import SecureForward.Proofs.Ssh.Trust
import SecureForward.Proofs.Trust.Policy
import SecureForward.Proofs.Tunnel.Calls

/-!
# The key file that is checked is the one that is opened

The path of the key file is made once, from a text and the directories of the moment, and goes on as
a text. `resolve_settles` says that this text means the same path ever after, wherever paths start
by then: it is the text of a path in normal form, which `Path.resolve_toList` leaves alone. So the
file that was found before a transport is made is the file that every login on this transport names
(`prepared_of_life`), the one that the private key is read from (`Ssh.account_loadKey`), and the one
that a check reports.
-/

namespace SecureForward

open Act (run)
open SecureForward.Path (IsNormalText)

/-! ## Texts of resolved paths -/

/-- Where a text denotes a path, it is resolved in the current directory and some home directory. -/
theorem Place.exists_resolve {place : Place} {text : String} {path : Path}
    (h : place.resolve? text = some path) :
    ∃ home, path = Path.resolve place.current.toList home text.toList := by
  unfold resolve? at h
  dsimp only at h
  split at h
  · obtain ⟨home, -, rfl⟩ := Option.map_eq_some_iff.1 h
    exact ⟨home, rfl⟩
  · exact ⟨[], (Option.some.inj h).symm⟩

/-- The text of a path whose names all lead down denotes this path, with or without a home
directory. -/
theorem Place.resolve?_toString {path : Path} (h : ∀ name ∈ path.names, Path.IsName name)
    (place : Place) :
    place.resolve? (toString path) = some path := by
  have htext : (toString path).toList = path.toList := String.toList_ofList
  unfold resolve?
  dsimp only
  rw [htext, Path.startsAtHome_of_absolute path.head?_toList, if_neg (by simp),
    Path.resolve_toList h]

/-- A path that was made of a text is in normal form, and its own text denotes it at every place. -/
theorem Place.resolve?_settles {place : Place} {text : String} {path : Path}
    (h : place.resolve? text = some path) :
    IsNormalText path.toList ∧ ∀ place' : Place, place'.resolve? (toString path) = some path := by
  obtain ⟨home, rfl⟩ := exists_resolve h
  exact ⟨Path.isNormalText_iff.2 ⟨_, Path.isName_of_mem_resolve, rfl⟩,
    resolve?_toString Path.isName_of_mem_resolve⟩

/-- The texts that are left alone wherever paths start are those of paths in normal form. -/
theorem Path.isNormalText_iff_resolve {l : List Char} :
    IsNormalText l ↔ ∀ current home, (resolve current home l).toList = l := by
  constructor
  · intro h current home
    obtain ⟨path, hnames, rfl⟩ := isNormalText_iff.1 h
    rw [resolve_toList hnames]
  · intro h
    have hroot := h ['/'] ['/']
    exact isNormalText_iff.2 ⟨resolve ['/'] ['/'] l, isName_of_mem_resolve, hroot⟩

/-! ## Logins -/

namespace Recorded

variable {ν : Type} {P : TransportCall → Prop}

/-- All calls on the account have a property. -/
def Admits (P : TransportCall → Prop) (peer : Recorded ν) : Prop :=
  ∀ calls ∈ peer.calls, ∀ call ∈ calls, P call

/-- A further call has to have the property as well. -/
theorem forall_addCall {call : TransportCall} (hcall : P call) {account : List (List TransportCall)}
    (h : ∀ calls ∈ account, ∀ call ∈ calls, P call) :
    ∀ calls ∈ addCall call account, ∀ call ∈ calls, P call := by
  fun_induction addCall call account with
  | case1 => exact h
  | case2 calls =>
    have hlast : ∀ c ∈ calls, P c := h calls List.mem_cons_self
    simpa [or_imp, forall_and] using ⟨hlast, hcall⟩
  | case3 calls rest _ ih =>
    obtain ⟨hfirst, hrest⟩ := List.forall_mem_cons.1 h
    exact List.forall_mem_cons.2 ⟨hfirst, ih hrest⟩

variable {transport : Transport ν}

/-- A transport that is made or not made is asked for nothing yet. -/
theorem keeps_create : transport.recorded.create.Keeps fun s => s.peer.Admits P := by
  intro site h
  rcases hcreate : run transport.recorded.create site with ⟨fault | _, site'⟩
  · unfold Admits
    rw [Transport.recorded_create_of_error hcreate]
    exact h
  · unfold Admits
    rw [Transport.recorded_create_of_ok hcreate]
    simpa [Admits, or_imp, forall_and] using h

/-- Giving a transport back is one call. -/
theorem keeps_disconnect (hdisconnect : P .disconnect) :
    transport.recorded.disconnect.Keeps fun s => s.peer.Admits P := by
  intro site h
  unfold Admits
  rw [Transport.recorded_disconnect_calls]
  exact forall_addCall hdisconnect h

/-- Bringing up a tunnel asks for a session with one login, and for a forward. -/
theorem keeps_bringUp {tunnel : Tunnel} {login : Login} {decision : Decision}
    (hconnect : ∀ seconds, P (.connect login decision seconds))
    (hforward : ∀ request, P (.openForward request)) :
    (Session.bringUp transport.recorded tunnel login decision).Keeps fun s => s.peer.Admits P := by
  refine .bind (.ofExcept _) fun seconds => .bind ?_ fun _ => ?_
  · intro site h
    unfold Admits
    rw [Transport.recorded_connect_calls]
    exact forall_addCall (hconnect seconds) h
  · intro site h
    unfold Admits
    rw [Transport.recorded_openForward_calls]
    exact forall_addCall (hforward _) h

end Recorded

namespace Session

variable {ν : Type} {transport : Transport ν}

/-- The call does not ask for a session, or it asks for one with what was prepared on a machine. -/
def Prepared (tunnel : Tunnel) (machine : Machine) : TransportCall → Prop
  | .connect login decision _ =>
    ∃ machine', run (prepare tunnel) machine = (.ok (login, decision), machine')
  | _ => True

/-- However opening a tunnel ends, a session was asked for with what was prepared only. -/
theorem prepared_of_opening {tunnel tunnel' : Tunnel} {site : Site (Recorded ν)}
    {outcome : Except Fault Unit} {peer : Recorded ν}
    (hpeer : site.peer.Admits (Prepared tunnel (tunnel.reportOpening site.machine)))
    (h : Opening transport.recorded tunnel site outcome tunnel' peer) :
    peer.Admits (Prepared tunnel (tunnel.reportOpening site.machine)) := by
  cases h with
  | notAsked => exact hpeer
  | unprepared => exact hpeer
  | notCreated _ _ hcreate => exact Recorded.keeps_create.of_run hcreate hpeer
  | notBroughtUp _ hprepare hcreate hup =>
    have hcreated := Recorded.keeps_create.of_run hcreate hpeer
    have hbroughtUp :=
      (Recorded.keeps_bringUp (fun _ => ⟨_, hprepare⟩) fun _ => trivial).of_run hup hcreated
    exact Recorded.keeps_disconnect trivial _ hbroughtUp
  | forwarding _ hprepare hcreate hup =>
    have hcreated := Recorded.keeps_create.of_run hcreate hpeer
    exact (Recorded.keeps_bringUp (fun _ => ⟨_, hprepare⟩) fun _ => trivial).of_run hup hcreated

/-- In every life of a tunnel a session is asked for with what was prepared only. -/
theorem prepared_of_life (transport : Transport ν) {asked : Session (Recorded ν)}
    (hcalls : asked.site.peer.calls = []) (uses : List Use) :
    (life transport.recorded asked uses).site.peer.Admits
      (Prepared asked.tunnel (asked.tunnel.reportOpening asked.site.machine)) := by
  have hnone (P : TransportCall → Prop) : asked.site.peer.Admits P := by
    intro calls hmem
    rw [hcalls] at hmem
    cases hmem
  refine life_tunnel_induction (I := fun _ (peer : Recorded ν) => peer.Admits
    (Prepared asked.tunnel (asked.tunnel.reportOpening asked.site.machine)))
    (fun _ _ _ h => prepared_of_opening (hnone _) h) (fun s _ _ h => ?_) uses
  exact Recorded.keeps_disconnect trivial s.site h

end Session

/-- Reading the private key asks for the file that the login names, if for any. -/
theorem Ssh.account_loadKey (login : Login) (site : Site Ssh) :
    Account (fun call => ∃ passphrase, call = .loadKey login.keyFile passphrase) site.peer
      (run (loadKey login) site).2 := by
  unfold loadKey
  cases hpassphrase : passphraseBytes login.passphrase with
  | error fault =>
    rw [Act.run_bind_of_error (Act.run_ofExcept _ _)]
    exact .refl _ site
  | ok passphrase =>
    rw [Act.run_bind_of_ok (Act.run_ofExcept _ _), Act.run_bind_of_ok (Act.run_attempt _ _),
      run_ask_snd]
    have hasked :
        Account (fun call => ∃ passphrase, call = .loadKey login.keyFile passphrase) site.peer
        { site with peer :=
          { site.peer with calls := site.peer.calls ++ [.loadKey login.keyFile passphrase] } } :=
      ⟨rfl, [.loadKey login.keyFile passphrase], rfl, by simp⟩
    cases (run (ask (.loadKey login.keyFile passphrase) .loadKey) site).1 with
    | error fault => exact hasked
    | ok => exact hasked

/-! ## Checks -/

/-- What was reported once stays in the log. -/
theorem Machine.keeps_mem_log {event : Event} (event' : Event) :
    (report event').Keeps fun machine => event ∈ machine.log := by
  intro machine h
  rw [run_report]
  split
  · rw [reporting_log]
    exact List.mem_append_left _ h
  · exact h

/-- A check that ends well has reported the path of the key file, at which it found a file. -/
theorem Desk.keyFileFound_of_examine {settings : Settings} {config : Config}
    {machine machine' : Machine}
    (h : Act.run (examine settings config) machine = (.ok 0, machine')) :
    ∃ path, machine.place.resolve? config.keyFile = some path ∧
      Event.keyFileFound (toString path) ∈ machine'.log := by
  unfold examine at h
  obtain ⟨_, machine₁, hvalid, h⟩ := Act.run_bind_eq_ok_iff.1 h
  rw [Act.run_ofExcept] at hvalid
  obtain ⟨-, rfl⟩ := Prod.mk.inj hvalid
  obtain ⟨_, machine₂, hchecked, h⟩ := Act.run_bind_eq_ok_iff.1 h
  have hplace : machine₂.place = machine.place := by
    have hreport := Machine.run_report_place .settingsChecked machine
    rwa [hchecked] at hreport
  obtain ⟨path, machine₃, hpath, h⟩ := Act.run_bind_eq_ok_iff.1 h
  obtain ⟨hresolve, rfl⟩ := Machine.run_resolvePath_eq_ok_iff.1 hpath
  rw [hplace] at hresolve
  refine ⟨path, hresolve, ?_⟩
  obtain ⟨isFile, machine₄, hfile, h⟩ := Act.run_bind_eq_ok_iff.1 h
  obtain ⟨-, rfl⟩ := Machine.run_isFile_eq_ok_iff.1 hfile
  cases isFile with
  | false => cases (Prod.mk.inj h).1
  | true =>
    obtain ⟨_, machine₅, hfound, h⟩ := Act.run_bind_eq_ok_iff.1 h
    have hlog : Event.keyFileFound (toString path) ∈ machine₅.log := by
      have hwords : (Event.keyFileFound (toString path)).isWritable = true := rfl
      have hreport := Machine.run_report_of_writable hwords machine₂
      obtain rfl := (Prod.mk.inj (hfound.symm.trans hreport)).2
      rw [Machine.reporting_log]
      exact List.mem_append_right _ List.mem_cons_self
    -- The rest of the check does nothing to the log but to report more.
    refine @Act.Keeps.of_run _ _ (fun m => Event.keyFileFound (toString path) ∈ m.log) _ ?_ _ _
      _ h hlog
    refine (TrustPolicy.keeps_resolve (fun _ _ => Machine.keeps_mem_log _) _ _).bind fun decision =>
      ?_
    cases decision with
    | disabled => exact (Machine.keeps_mem_log _).bind fun _ => .pure _
    | enforced pinning =>
      exact (Machine.keeps_mem_log _).bind fun _ => (Machine.keeps_mem_log _).bind fun _ => .pure _

/-- A resolved path is in normal form: it is absolute, and none of its names is empty or leads
nowhere or back. Its text denotes the same path in every other directory, which is so for texts in
normal form only. So the key file that was found before a transport is made is the one that each
session on it is opened with, in whichever directory it is read, and the one that a check
reports. -/
theorem resolve_settles :
    (∀ current home l : List Char,
      IsNormalText (Path.resolve current home l).toList ∧
        ∀ current' home', Path.resolve current' home' (Path.resolve current home l).toList =
          Path.resolve current home l) ∧
      (∀ l : List Char, IsNormalText l ↔ ∀ current home, (Path.resolve current home l).toList = l) ∧
      (∀ (place : Place) (text : String) (path : Path), place.resolve? text = some path →
        IsNormalText path.toList ∧ ∀ place' : Place, place'.resolve? (toString path) = some path) ∧
      (∀ (ν : Type) (transport : Transport ν) (settings : Settings) (choices : Tunnel.Choices)
        (config : Config) (machine : Machine) (inner : ν) (uses : List Use),
        let asked := Session.fresh settings choices (some config)
          { machine, peer := { calls := [], inner } }
        ∀ calls ∈ (Session.life transport.recorded asked uses).site.peer.calls,
          ∀ login decision seconds, .connect login decision seconds ∈ calls →
            ∃ path, machine.place.resolve? config.keyFile = some path ∧
              (asked.tunnel.reportOpening machine).files.isFile path = .ok true ∧
              (∀ place : Place, place.resolve? login.keyFile = some path) ∧
              ∀ site : Site Ssh, Ssh.Account
                (fun call => ∃ passphrase, call = .loadKey (toString path) passphrase) site.peer
                (run (Ssh.loadKey login) site).2) ∧
      ∀ (settings : Settings) (config : Config) (machine machine' : Machine),
        run (Desk.examine settings config) machine = (.ok 0, machine') →
          ∃ path, machine.place.resolve? config.keyFile = some path ∧
            Event.keyFileFound (toString path) ∈ machine'.log ∧
            ∀ place : Place, place.resolve? (toString path) = some path := by
  refine ⟨fun current home l => ⟨?_, fun current' home' => ?_⟩,
    fun l => Path.isNormalText_iff_resolve,
    fun place text path h => Place.resolve?_settles h, ?_, ?_⟩
  · exact Path.isNormalText_iff.2 ⟨_, Path.isName_of_mem_resolve, rfl⟩
  · exact Path.resolve_toList Path.isName_of_mem_resolve current' home'
  · intro ν transport settings choices config machine inner uses asked calls hcalls login
      decision seconds hmem
    -- Every login that is asked for was prepared, and its path is the one that was settled then.
    obtain ⟨machine', hprepare⟩ : Session.Prepared asked.tunnel (asked.tunnel.reportOpening machine)
        (.connect login decision seconds) :=
      Session.prepared_of_life transport rfl uses calls hcalls _ hmem
    obtain ⟨path, hresolve, hfile, hlogin, -⟩ := Session.exists_path_of_prepare hprepare
    have hkeyFile : login.keyFile = toString path := congrArg Login.keyFile hlogin
    have hplace : (asked.tunnel.reportOpening machine).place = machine.place :=
      Machine.run_report_place _ machine
    rw [hplace] at hresolve
    obtain ⟨-, hsettled⟩ := Place.resolve?_settles hresolve
    have hloads := Ssh.account_loadKey login
    rw [← hkeyFile] at hsettled
    rw [hkeyFile] at hloads
    exact ⟨path, hresolve, hfile, hsettled, hloads⟩
  · intro settings config machine machine' h
    obtain ⟨path, hresolve, hlog⟩ := Desk.keyFileFound_of_examine h
    obtain ⟨-, hsettled⟩ := Place.resolve?_settles hresolve
    exact ⟨path, hresolve, hlog, hsettled⟩

/-- The key of the trial in the home directory. -/
def Path.homeKey : Path :=
  { doubled := false, names := ["home".toList, "ada".toList, "id".toList] }

/-- The key file of the trial tunnel. -/
def Path.rootKey : Path :=
  { doubled := false, names := ["key".toList] }

/-- The trial tunnel before it is opened, with an account of the calls on its transport. -/
def Session.trialRecorded : Session (Recorded Ssh) :=
  Session.fresh .default (Session.trialChoices true) (some Session.trialConfig)
    { machine := Session.trialMachine
      peer := { calls := [], inner := Ssh.idle Session.trialNetwork } }

/-- A key in the home directory, with a backslash behind the tilde and names that lead nowhere and
back; a tunnel that asks for a session with its key; and a check that finds this key. -/
theorem resolve_settles_trial :
    (({ home := "/home/ada/", current := "/work" } : Place).resolve? "~\\.//keys/../id" =
      some Path.homeKey ∧
      IsNormalText Path.homeKey.toList ∧
      ∀ place : Place, place.resolve? (toString Path.homeKey) = some Path.homeKey) ∧
      (∃ calls ∈ (Session.life Transport.ssh.recorded Session.trialRecorded []).site.peer.calls,
        ∃ login decision seconds, .connect login decision seconds ∈ calls ∧
          ∀ place : Place, place.resolve? login.keyFile = some Path.rootKey) ∧
      ∃ machine, run (Desk.examine .default Session.trialConfig) Session.trialMachine =
        (.ok 0, machine) ∧
        Event.keyFileFound (toString Path.rootKey) ∈ machine.log := by
  obtain ⟨-, -, hresolves, hlife, hcheck⟩ := resolve_settles
  have hkey :
      Session.trialMachine.place.resolve? Session.trialConfig.keyFile = some Path.rootKey := by
    decide +kernel
  refine ⟨?_, ?_, ?_⟩
  · have hresolve :
        ({ home := "/home/ada/", current := "/work" } : Place).resolve? "~\\.//keys/../id" =
        some Path.homeKey := by decide +kernel
    exact ⟨hresolve, hresolves _ _ _ hresolve⟩
  · have hsorts : [CallSort.connect, .openForward] ∈
        (Session.life Transport.ssh.recorded Session.trialRecorded []).site.peer.sorts := by
      decide +kernel
    obtain ⟨calls, hcalls, hsorts⟩ := List.mem_map.1 hsorts
    have hconnect : CallSort.connect ∈ calls.map TransportCall.sort := by
      rw [hsorts]
      exact List.mem_cons_self
    obtain ⟨call, hmem, hsort⟩ := List.mem_map.1 hconnect
    cases call with
    | connect login decision seconds =>
      obtain ⟨path, hresolve, -, hsettled, -⟩ := hlife _ _ _ _ _ _ _ _ calls hcalls _ _ _ hmem
      obtain rfl := Option.some.inj (hkey.symm.trans hresolve)
      exact ⟨calls, hcalls, login, decision, seconds, hmem, hsettled⟩
    | openForward request => cases hsort
    | disconnect => cases hsort
  · have hpassed :
        (run (Desk.examine .default Session.trialConfig) Session.trialMachine).1 = .ok 0 := by
      decide +kernel
    obtain ⟨path, hresolve, hlog, -⟩ := hcheck _ _ _ _ (Prod.ext hpassed rfl)
    obtain rfl := Option.some.inj (hkey.symm.trans hresolve)
    exact ⟨_, Prod.ext hpassed rfl, hlog⟩

end SecureForward
