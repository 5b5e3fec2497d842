import SecureForward.Proofs.Act

/-!
# Two runs side by side

Two acts are `Coupled` if they do the same as far as a relation of their states can tell: from
states that correspond they end with the same fault or with results that correspond, and in states
that correspond. As `Keeps` does for a property of one run, coupling passes from the parts of two
acts to the whole, whichever part fails.
-/

namespace SecureForward.Act

variable {σ ρ α β γ δ : Type}

/-- Two outcomes with the same fault, or with results that correspond. -/
inductive Matched (Q : α → β → Prop) : Except Fault α → Except Fault β → Prop where
  /-- Both have a result. -/
  | ok {a : α} {b : β} (results : Q a b) : Matched Q (.ok a) (.ok b)
  /-- Both have the same fault. -/
  | error (fault : Fault) : Matched Q (.error fault) (.error fault)

/-- Outcomes that match by equality are equal. -/
theorem Matched.eq {x y : Except Fault α} (h : Matched Eq x y) : x = y := by
  cases h with
  | ok hresults => rw [hresults]
  | error => rfl

/-- An outcome matches itself. -/
theorem Matched.refl (x : Except Fault α) : Matched Eq x x := by
  cases x with
  | error fault => exact .error fault
  | ok a => exact .ok rfl

/-- Outcomes match in what follows from what they match in. -/
theorem Matched.imp {Q P : α → β → Prop} {x : Except Fault α} {y : Except Fault β}
    (h : Matched Q x y) (himp : ∀ a b, Q a b → P a b) : Matched P x y := by
  cases h with
  | ok hresults => exact .ok (himp _ _ hresults)
  | error fault => exact .error fault

/-- Outcomes that a function makes equal match in what it gives for their results. -/
theorem Matched.of_map_eq {f : α → β} {x y : Except Fault α} (h : x.map f = y.map f) :
    Matched (fun a b => f a = f b) x y := by
  cases x with
  | error fault =>
    cases y with
    | error fault' =>
      cases h
      exact .error fault
    | ok b => cases h
  | ok a =>
    cases y with
    | error fault' => cases h
    | ok b => exact .ok (Except.ok.inj h)

/-- From states that correspond the two acts end with outcomes that match and in states that
correspond. -/
def Coupled (R : σ → σ → Prop) (Q : α → β → Prop) (act : Act σ α) (act' : Act σ β) : Prop :=
  ∀ s s', R s s' → Matched Q (run act s).1 (run act' s').1 ∧ R (run act s).2 (run act' s').2

namespace Coupled

variable {R : σ → σ → Prop} {Q : α → β → Prop} {P : γ → δ → Prop}

/-- Results that correspond. -/
theorem pure {a : α} {b : β} (h : Q a b) : Coupled R Q (pure a) (pure b) :=
  fun _ _ hs => ⟨.ok h, hs⟩

/-- The same fault. -/
theorem throw (fault : Fault) : Coupled R Q (throw fault) (throw fault) :=
  fun _ _ hs => ⟨.error fault, hs⟩

/-- The same result that was computed elsewhere, or its fault. -/
theorem ofExcept (outcome : Except Fault α) :
    Coupled R Eq (Act.ofExcept outcome) (Act.ofExcept outcome) := by
  intro s s' hs
  rw [run_ofExcept, run_ofExcept]
  exact ⟨.refl outcome, hs⟩

/-- The states themselves. -/
theorem get : Coupled R R (get : Act σ σ) get :=
  fun _ _ hs => ⟨.ok hs, hs⟩

/-- A change that is made to both states. -/
theorem modify {f : σ → σ} (h : ∀ s s', R s s' → R (f s) (f s')) :
    Coupled R Eq (modify f : Act σ PUnit) (modify f) :=
  fun s s' hs => ⟨.ok rfl, h s s' hs⟩

/-- One pair of acts after the other. -/
theorem bind {act : Act σ α} {act' : Act σ β} {next : α → Act σ γ} {next' : β → Act σ δ}
    (hact : Coupled R Q act act') (hnext : ∀ a b, Q a b → Coupled R P (next a) (next' b)) :
    Coupled R P (act >>= next) (act' >>= next') := by
  intro s s' hs
  obtain ⟨houtcome, hstates⟩ := hact s s' hs
  rw [run_bind, run_bind]
  rcases hrun : run act s with ⟨outcome, t⟩
  rcases hrun' : run act' s' with ⟨outcome', t'⟩
  rw [hrun, hrun'] at houtcome hstates
  cases houtcome with
  | ok hresults => exact hnext _ _ hresults t t' hstates
  | error fault => exact ⟨.error fault, hstates⟩

/-- A choice between two acts that is made alike on both sides. -/
theorem ite {c : Prop} [Decidable c] {act₁ act₂ : Act σ α} {act₁' act₂' : Act σ β}
    (h₁ : Coupled R Q act₁ act₁') (h₂ : Coupled R Q act₂ act₂') :
    Coupled R Q (if c then act₁ else act₂) (if c then act₁' else act₂') := by
  by_cases hc : c
  · rw [if_pos hc, if_pos hc]
    exact h₁
  · rw [if_neg hc, if_neg hc]
    exact h₂

/-- The outcomes as results. -/
theorem attempt {act : Act σ α} {act' : Act σ β} (h : Coupled R Q act act') :
    Coupled R (Matched Q) (Act.attempt act) (Act.attempt act') := by
  intro s s' hs
  obtain ⟨houtcome, hstates⟩ := h s s' hs
  exact ⟨.ok houtcome, hstates⟩

/-- Acts on a part, where states correspond if their parts do and what is put in place of the parts
corresponds. -/
theorem within {part : Part σ ρ} {S : ρ → ρ → Prop} {act : Act ρ α} {act' : Act ρ β}
    (hget : ∀ s s', R s s' → S (part.get s) (part.get s'))
    (hset : ∀ s s' r r', R s s' → S r r' → R (part.set r s) (part.set r' s'))
    (h : Coupled S Q act act') : Coupled R Q (Act.within part act) (Act.within part act') := by
  intro s s' hs
  obtain ⟨houtcome, hparts⟩ := h _ _ (hget s s' hs)
  rw [run_within, run_within]
  exact ⟨houtcome, hset _ _ _ _ hs hparts⟩

/-- An act on equal states. -/
theorem refl (act : Act σ α) : Coupled Eq Eq act act := by
  rintro s _ rfl
  exact ⟨.refl _, rfl⟩

end Coupled

end SecureForward.Act
