import SecureForward.Act

/-!
# Runs of acts

How an act runs follows from the runs of its parts. `run_bind_of_ok` and `run_bind_of_error` take
one step of a run; `run_bind_eq_ok_iff` and `run_bind_eq_error_iff` take a run apart again. `Keeps`
is an invariant: an act keeps a property of the state if the property holds afterwards whatever the
act ends with. It passes from the parts of an act to the whole, whichever part fails.
-/

namespace SecureForward

/-- Two computations in a row have a result exactly when both have. -/
theorem bind_eq_ok_iff {α β : Type} {x : Except Fault α} {next : α → Except Fault β} {b : β} :
    x >>= next = .ok b ↔ ∃ a, x = .ok a ∧ next a = .ok b := by
  rcases x with e | a
  · change Except.error e = Except.ok b ↔ _
    simp
  · change next a = Except.ok b ↔ _
    simp

/-- Two computations in a row fail exactly when the first does, or the second after it. -/
theorem bind_eq_error_iff {α β : Type} {x : Except Fault α} {next : α → Except Fault β}
    {fault : Fault} :
    x >>= next = .error fault ↔ x = .error fault ∨ ∃ a, x = .ok a ∧ next a = .error fault := by
  rcases x with e | a
  · change Except.error e = Except.error fault ↔ _
    simp
  · change next a = Except.error fault ↔ _
    simp

/-- A function of the result of two computations in a row is one of the result of the second. -/
theorem map_bind_eq {α β γ : Type} (x : Except Fault α) (next : α → Except Fault β) (f : β → γ) :
    (x >>= next).map f = x >>= fun a => (next a).map f := by
  cases x <;> rfl

/-- The result, unless there is a fault. -/
def resultUnless {α : Type} (a : α) : Option Fault → Except Fault α
  | none => .ok a
  | some fault => .error fault

namespace Act

variable {σ ρ α β : Type}

/-- After a first part that succeeds, the second part runs. -/
theorem run_bind_of_ok {act : Act σ α} {next : α → Act σ β} {s s' : σ} {a : α}
    (h : run act s = (.ok a, s')) : run (act >>= next) s = run (next a) s' := by
  rw [run_bind, h]

/-- After a first part that fails, nothing runs. -/
theorem run_bind_of_error {act : Act σ α} {next : α → Act σ β} {s s' : σ} {e : Fault}
    (h : run act s = (.error e, s')) : run (act >>= next) s = (.error e, s') := by
  rw [run_bind, h]

/-- A run of two parts succeeds exactly when both runs do. -/
theorem run_bind_eq_ok_iff {act : Act σ α} {next : α → Act σ β} {s t : σ} {b : β} :
    run (act >>= next) s = (.ok b, t) ↔
      ∃ a s', run act s = (.ok a, s') ∧ run (next a) s' = (.ok b, t) := by
  rw [run_bind]
  rcases h : run act s with ⟨_ | a, s'⟩
  · simp
  · constructor
    · intro hnext
      exact ⟨a, s', rfl, hnext⟩
    · rintro ⟨a', t', heq, hnext⟩
      obtain ⟨rfl, rfl⟩ : a = a' ∧ s' = t' := by simpa using heq
      exact hnext

/-- A run of two parts fails exactly when the first run does, or the second after it. -/
theorem run_bind_eq_error_iff {act : Act σ α} {next : α → Act σ β} {s t : σ} {e : Fault} :
    run (act >>= next) s = (.error e, t) ↔
      run act s = (.error e, t) ∨ ∃ a s',
        run act s = (.ok a, s') ∧ run (next a) s' = (.error e, t) := by
  rw [run_bind]
  rcases h : run act s with ⟨_ | a, s'⟩
  · simp
  · constructor
    · intro hnext
      exact .inr ⟨a, s', rfl, hnext⟩
    · rintro (hact | ⟨a', t', heq, hnext⟩)
      · cases hact
      · obtain ⟨rfl, rfl⟩ : a = a' ∧ s' = t' := by simpa using heq
        exact hnext

/-- What holds after the first part of a run, and after the second one where the first succeeds,
holds at the end. -/
theorem of_run_bind {I : σ → Prop} {act : Act σ α} {next : α → Act σ β} {s : σ}
    (hact : I (run act s).2)
    (hnext : ∀ a, (run act s).1 = .ok a → I (run (next a) (run act s).2).2) :
    I (run (act >>= next) s).2 := by
  rw [run_bind]
  rcases h : run act s with ⟨_ | a, s'⟩
  · rw [h] at hact
    exact hact
  · rw [h] at hnext
    exact hnext a rfl

/-- An attempt always succeeds, with the outcome as its result. -/
@[simp]
theorem run_attempt (act : Act σ α) (s : σ) :
    run (attempt act) s = (.ok (run act s).1, (run act s).2) := rfl

/-- An act on a part changes that part only. -/
@[simp]
theorem run_within (part : Part σ ρ) (act : Act ρ α) (s : σ) :
    run (within part act) s = ((run act (part.get s)).1, part.set (run act (part.get s)).2 s) := rfl

/-- A result that was computed elsewhere leaves the state as it is. -/
@[simp]
theorem run_ofExcept (outcome : Except Fault α) (s : σ) :
    run (ofExcept outcome) s = (outcome, s) := by
  cases outcome <;> rfl

/-- Changing and reading the state at once. -/
@[simp]
theorem run_modifyGet (f : σ → α × σ) (s : σ) :
    run (modifyGet f : Act σ α) s = (.ok (f s).1, (f s).2) := rfl

/-- After a clean-up that succeeds the outcome is that of the act. -/
theorem run_ensuring_of_ok {act : Act σ α} {cleanup : Act σ Unit} {s s' : σ}
    (h : run cleanup (run act s).2 = (.ok (), s')) :
    run (ensuring act cleanup) s = ((run act s).1, s') := by
  unfold ensuring
  rw [run_bind_of_ok (run_attempt _ _), run_bind_of_ok h, run_ofExcept]

/-- After an act that succeeds there is nothing to clean up. -/
theorem run_onFault_of_ok {act : Act σ α} {s s' : σ} {a : α} (h : run act s = (.ok a, s'))
    (cleanup : Fault → Act σ Unit) : run (onFault act cleanup) s = (.ok a, s') := by
  unfold onFault
  rw [run_bind_of_ok (run_attempt _ _), h]
  rfl

/-- A fault is followed by the clean-up, and comes out unless the clean-up ends with another. -/
theorem run_onFault_of_error {act : Act σ α} {s s' : σ} {e : Fault} (h : run act s = (.error e, s'))
    (cleanup : Fault → Act σ Unit) :
    ∃ e', run (onFault act cleanup) s = (.error e', (run (cleanup e) s').2) := by
  unfold onFault
  rw [run_bind_of_ok (run_attempt _ _), h]
  change ∃ e', run (cleanup e >>= fun _ => throw e) s' = _
  rw [run_bind]
  rcases run (cleanup e) s' with ⟨other | _, s''⟩
  · exact ⟨other, rfl⟩
  · exact ⟨e, rfl⟩

/-- The fault that an act ends with, if it ends with one. -/
def fault? (act : Act σ α) (s : σ) : Option Fault :=
  match (run act s).1 with
  | .ok _ => none
  | .error e => some e

/-- An act that ends with a fault has it for its outcome. -/
theorem run_of_fault?_eq_some {act : Act σ α} {s : σ} {e : Fault} (h : act.fault? s = some e) :
    run act s = (.error e, (run act s).2) := by
  unfold fault? at h
  rcases hrun : run act s with ⟨fault | a, s'⟩
  · rw [hrun] at h
    rw [Option.some.inj h]
  · rw [hrun] at h
    cases h

/-- An act that ends without a fault has a result. -/
theorem exists_of_fault?_eq_none {act : Act σ α} {s : σ} (h : act.fault? s = none) :
    ∃ a, run act s = (.ok a, (run act s).2) := by
  unfold fault? at h
  rcases hrun : run act s with ⟨fault | a, s'⟩
  · rw [hrun] at h
    cases h
  · exact ⟨a, rfl⟩

/-- Two acts in a row end with the fault of the first, or else with that of the second, if this does
not depend on how the first one succeeds. -/
theorem fault?_bind {act : Act σ α} {next : α → Act σ β} {s : σ} {fault : Option Fault}
    (h : ∀ a s', run act s = (.ok a, s') → (next a).fault? s' = fault) :
    (act >>= next).fault? s = (act.fault? s).or fault := by
  unfold fault? at h ⊢
  rw [run_bind]
  rcases hrun : run act s with ⟨e | a, s'⟩
  · rfl
  · exact h a s' hrun

/-- After a first part that succeeds, the fault is that of the second. -/
theorem fault?_bind_of_ok {act : Act σ α} {next : α → Act σ β} {s s' : σ} {a : α}
    (h : run act s = (.ok a, s')) : (act >>= next).fault? s = (next a).fault? s' := by
  unfold fault?
  rw [run_bind_of_ok h]

/-- Whatever the act ends with, the property holds of the state that it leaves if it held of the one
that it found. -/
def Keeps (I : σ → Prop) (act : Act σ α) : Prop :=
  ∀ s, I s → I (run act s).2

namespace Keeps

variable {I : σ → Prop}

/-- What an act keeps holds of the state in which a run of it ends. -/
theorem of_run {act : Act σ α} (hact : Keeps I act) {s s' : σ} {outcome : Except Fault α}
    (h : run act s = (outcome, s')) (hs : I s) : I s' := by
  have hs' := hact s hs
  rw [h] at hs'
  exact hs'

/-- A result keeps every property. -/
theorem pure (a : α) : Keeps I (pure a : Act σ α) := fun _ h => h

/-- A fault keeps every property. -/
theorem throw (e : Fault) : Keeps I (throw e : Act σ α) := fun _ h => h

/-- An act that leaves every state as it is keeps every property. -/
theorem of_same {act : Act σ α} (h : ∀ s, (run act s).2 = s) : Keeps I act := by
  intro s hs
  rw [h]
  exact hs

/-- A result that was computed elsewhere keeps every property. -/
theorem ofExcept (outcome : Except Fault α) : Keeps I (Act.ofExcept outcome : Act σ α) := by
  intro s h
  rw [run_ofExcept]
  exact h

/-- What the first part keeps, and the second one after every result of it, the whole keeps. -/
theorem bind_of_run {act : Act σ α} {next : α → Act σ β} (hact : Keeps I act)
    (hnext : ∀ a s s', run act s = (.ok a, s') → Keeps I (next a)) : Keeps I (act >>= next) := by
  intro s hs
  have hs' := hact s hs
  rw [run_bind]
  rcases h : run act s with ⟨_ | a, s'⟩
  · rw [h] at hs'
    exact hs'
  · rw [h] at hs'
    exact hnext a s s' h s' hs'

/-- What both parts keep, the whole keeps. -/
theorem bind {act : Act σ α} {next : α → Act σ β} (hact : Keeps I act)
    (hnext : ∀ a, Keeps I (next a)) : Keeps I (act >>= next) :=
  hact.bind_of_run fun a _ _ _ => hnext a

/-- What both acts keep, a choice between them keeps. -/
theorem ite {c : Prop} [Decidable c] {act act' : Act σ α} (h : Keeps I act) (h' : Keeps I act') :
    Keeps I (if c then act else act') := by
  by_cases hc : c
  · rw [if_pos hc]
    exact h
  · rw [if_neg hc]
    exact h'

/-- What an act keeps is kept where a condition stops it with a fault first. -/
theorem refuse {c : Prop} [Decidable c] {e : Fault} {next : Unit → Act σ α}
    (h : Keeps I (next ())) : Keeps I (if c then MonadExcept.throw e >>= next else next ()) :=
  ite (fun _ h => h) h

/-- What an act keeps that is done under a condition, and the rest, the whole keeps. -/
theorem when {c : Prop} [Decidable c] {act : Act σ Unit} {next : Unit → Act σ α}
    (hact : Keeps I act)
    (hnext : Keeps I (next ())) : Keeps I (if c then act >>= next else next ()) :=
  ite (hact.bind fun _ => hnext) hnext

/-- An attempt keeps what the act keeps. -/
theorem attempt {act : Act σ α} (h : Keeps I act) : Keeps I (Act.attempt act) := h

/-- A clean-up on every way out keeps what it keeps together with the act. -/
theorem ensuring {act : Act σ α} {cleanup : Act σ Unit} (hact : Keeps I act)
    (hcleanup : Keeps I cleanup) : Keeps I (Act.ensuring act cleanup) :=
  bind hact.attempt fun outcome => bind hcleanup fun _ => ofExcept outcome

/-- A clean-up after a fault keeps what it keeps together with the act. -/
theorem onFault {act : Act σ α} {cleanup : Fault → Act σ Unit} (hact : Keeps I act)
    (hcleanup : ∀ e, Keeps I (cleanup e)) : Keeps I (Act.onFault act cleanup) := by
  refine bind hact.attempt fun outcome => ?_
  cases outcome with
  | ok a => exact pure a
  | error e => exact bind (hcleanup e) fun _ => throw e

/-- An act on a part keeps a property of the whole that it keeps of the part. -/
theorem within {part : Part σ ρ} {act : Act ρ α}
    (h : ∀ s, I s → I (part.set (run act (part.get s)).2 s)) : Keeps I (Act.within part act) := h

end Keeps

end Act

end SecureForward
