import SecureForward.Proofs.Ssh.Teardown

/-!
# The links of a session

A session is linked to its host by a socket and by the protocol session on it. `Ledger` balances
what was opened of these two kinds against what was closed and what is held, so that each link is
held or was closed once (`Ledger.settled`). Each step of a session has its entry: a call that has
nothing to do with links, a resource that is opened, and the session that is given back.
-/

namespace SecureForward

namespace ResourceKind

/-- Whether a resource of this kind links a session to its host. -/
def isLink : ResourceKind → Bool
  | .socket | .transport => true
  | .listener | .client | .channel => false

end ResourceKind

/-- The call opens nothing and closes no link. -/
structure NetworkCall.IsNeutral (call : NetworkCall) : Prop where
  /-- Nothing is opened. -/
  opened : call.opened? = none
  /-- What is closed is no link. -/
  closed : ∀ resource, call.closed? = some resource → resource.kind.isLink = false

/-- The ends of a connection are no links, and closing them fails in the expected way. -/
structure Connection.Fitted (connection : Connection) : Prop where
  /-- The ends are no links. -/
  ends : ∀ resource ∈ connection.ends, resource.kind.isLink = false
  /-- They are closed, or the system refuses it. -/
  closes : connection.ClosesInOrder

/-- What a forward holds is what it should be. -/
structure Forward.Fitted (forward : Forward) : Prop where
  /-- The listener is one. -/
  listener : ∀ resource, forward.listener = some resource → resource.kind = .listener
  /-- The names of the connections are different. -/
  names : (forward.connections.map Prod.fst).Nodup
  /-- The connections are fitted. -/
  connections : ∀ entry ∈ forward.connections, entry.2.Fitted

/-- What a forward holds is no link. -/
theorem Forward.Fitted.isLink_of_mem {forward : Forward} (h : forward.Fitted) {resource : Resource}
    (hmem : resource ∈ forward.resources) : resource.kind.isLink = false := by
  rcases List.mem_append.1 hmem with hmem | hmem
  · rw [h.listener resource (Option.mem_toList.1 hmem)]
    rfl
  · obtain ⟨entry, hentry, hend⟩ := List.mem_flatMap.1 hmem
    exact (h.connections entry hentry).ends resource hend

namespace Ssh

variable {s t : Ssh}

/-! ## The ledger -/

/-- The links that a session holds. -/
def links (s : Ssh) : List Resource :=
  s.socket.toList ++ s.transport.toList

/-- What was opened has different numbers, and of each link as many were opened as were closed or
are held. -/
structure Ledger (s : Ssh) : Prop where
  /-- The numbers of what was opened were given out. -/
  numbers : ∀ resource ∈ openings s.calls, resource.number < s.opened
  /-- Nothing was opened twice. -/
  once : (openings s.calls).Nodup
  /-- A link that was opened was closed or is held. -/
  balance : ∀ resource : Resource, resource.kind.isLink = true →
    (openings s.calls).count resource =
      (closings s.calls).count resource + s.links.count resource

namespace Ledger

/-- A session that was never used has an empty ledger. -/
theorem idle (network : Network) : Ledger (idle network) where
  numbers := fun _ hmem => by cases hmem
  once := List.nodup_nil
  balance := fun _ _ => rfl

/-- What the ledger does not speak about may change. -/
theorem of_eq (h : Ledger s) (hcalls : t.calls = s.calls) (hopened : t.opened = s.opened)
    (hlinks : t.links = s.links) : Ledger t := by
  refine ⟨?_, ?_, ?_⟩
  · rw [hcalls, hopened]
    exact h.numbers
  · rw [hcalls]
    exact h.once
  · rw [hcalls, hlinks]
    exact h.balance

/-- A link that was opened is held and was not closed, or it is not held and was closed once. -/
theorem settled (h : Ledger s) {resource : Resource} (hlink : resource.kind.isLink = true)
    (hopened : resource ∈ openings s.calls) :
    (resource ∈ s.links ∧ (closings s.calls).count resource = 0) ∨
      (resource ∉ s.links ∧ (closings s.calls).count resource = 1) := by
  have hone := List.count_eq_one_of_mem h.once hopened
  have hbalance := h.balance resource hlink
  by_cases hheld : resource ∈ s.links
  · have hpositive := List.count_pos_iff.2 hheld
    exact .inl ⟨hheld, by omega⟩
  · have hzero := List.count_eq_zero.2 hheld
    exact .inr ⟨hheld, by omega⟩

/-- A neutral call leaves the ledger in order. -/
theorem note (h : Ledger s) {call : NetworkCall} (hcall : call.IsNeutral)
    (hcalls : t.calls = s.calls ++ [call]) (hopened : t.opened = s.opened)
    (hlinks : t.links = s.links) : Ledger t := by
  have hopenings : openings t.calls = openings s.calls := by
    rw [hcalls, openings_append]
    simp [openings, hcall.opened]
  refine ⟨by rw [hopenings, hopened]; exact h.numbers, by rw [hopenings]; exact h.once, ?_⟩
  intro resource hlink
  have hclosings : (closings t.calls).count resource = (closings s.calls).count resource := by
    rw [hcalls, closings_append, List.count_append]
    have hother : resource ∉ closings [call] := by
      intro hmem
      obtain ⟨call', hcall', hclosed⟩ := List.mem_filterMap.1 hmem
      rw [List.mem_singleton.1 hcall'] at hclosed
      rw [hcall.closed resource hclosed] at hlink
      cases hlink
    rw [List.count_eq_zero.2 hother, Nat.add_zero]
  rw [hopenings, hclosings, hlinks]
  exact h.balance resource hlink

/-- A resource with the next number leaves the ledger in order if it is held, where it is a link. -/
theorem openResource (h : Ledger s) {kind : ResourceKind}
    (hcalls : t.calls = s.calls ++ [.opened { kind, number := s.opened }])
    (hopened : t.opened = s.opened + 1)
    (hlinks : ∀ resource : Resource, resource.kind.isLink = true →
      t.links.count resource =
        s.links.count resource + [{ kind, number := s.opened }].count resource) : Ledger t := by
  have hopenings : openings t.calls = openings s.calls ++ [{ kind, number := s.opened }] := by
    rw [hcalls, openings_append]
    rfl
  have hclosings : closings t.calls = closings s.calls := by
    rw [hcalls, closings_append]
    exact List.append_nil _
  -- The number is higher than all that were given out before.
  have hnew : { kind, number := s.opened } ∉ openings s.calls := by
    intro hmem
    have := h.numbers _ hmem
    exact absurd this (Nat.lt_irrefl _)
  refine ⟨fun resource hmem => ?_, ?_, fun resource hlink => ?_⟩
  · rw [hopenings, List.mem_append, List.mem_singleton] at hmem
    rw [hopened]
    rcases hmem with hmem | rfl
    · exact Nat.lt_succ_of_lt (h.numbers _ hmem)
    · exact Nat.lt_succ_self _
  · rw [hopenings]
    exact h.once.append (List.nodup_singleton _) (List.disjoint_singleton.2 hnew)
  · have hbalance := h.balance resource hlink
    have hcount := hlinks resource hlink
    rw [hopenings, hclosings, List.count_append]
    omega

/-- Giving a session back leaves the ledger in order: each link that was held is closed. -/
theorem teardown (h : Ledger s)
    (hfitted : ∀ forward, s.forward = some forward → forward.Fitted)
    (hcalls : t.calls = s.calls ++ s.teardown) (hopened : t.opened = s.opened)
    (hlinks : t.links = []) : Ledger t := by
  have hopenings : openings t.calls = openings s.calls := by
    rw [hcalls, openings_append, openings_teardown, List.append_nil]
  refine ⟨by rw [hopenings, hopened]; exact h.numbers, by rw [hopenings]; exact h.once, ?_⟩
  intro resource hlink
  have hforward : resource ∉ s.forward.toList.flatMap Forward.resources := by
    intro hmem
    obtain ⟨forward, hforward, hmem⟩ := List.mem_flatMap.1 hmem
    have hother := (hfitted forward (Option.mem_toList.1 hforward)).isLink_of_mem hmem
    rw [hother] at hlink
    cases hlink
  have hclosings : (closings t.calls).count resource =
      (closings s.calls).count resource + s.links.count resource := by
    rw [hcalls, closings_append, closings_teardown]
    unfold resources links
    simp only [List.count_append, List.count_eq_zero.2 hforward]
    omega
  rw [hopenings, hclosings, hlinks, List.count_nil, Nat.add_zero]
  exact h.balance resource hlink

end Ledger

end Ssh

end SecureForward
