import SecureForward.Fault

/-!
# Acts

An act works on a state and ends with a result or a fault; the state stays as it was left in both
cases. `attempt` turns a fault into a result, `ensuring` adds a clean-up that runs on every way out,
and `within` lets an act on a part work on the whole.
-/

namespace SecureForward

/-- A computation on a state that may end with a fault. -/
def Act (σ α : Type) : Type :=
  σ → Except Fault α × σ

/-- A part of a state that can be read and replaced on its own. -/
structure Part (σ ρ : Type) where
  /-- The part. -/
  get : σ → ρ
  /-- The state with the part replaced. -/
  set : ρ → σ → σ
  /-- What was put in is found. -/
  get_set : ∀ r s, get (set r s) = r := by intros; rfl
  /-- Putting back what is there changes nothing. -/
  set_get : ∀ s, set (get s) s = s := by intros; rfl
  /-- The last replacement counts. -/
  set_set : ∀ r r' s, set r (set r' s) = set r s := by intros; rfl

namespace Act

variable {σ ρ α β : Type}

/-- Runs an act from a state. -/
def run (act : Act σ α) (s : σ) : Except Fault α × σ := act s

instance : Monad (Act σ) where
  pure a := fun s => (.ok a, s)
  bind act next := fun s =>
    match act s with
    | (.ok a, s') => next a s'
    | (.error e, s') => (.error e, s')

instance : MonadExceptOf Fault (Act σ) where
  throw e := fun s => (.error e, s)
  tryCatch act handler := fun s =>
    match act s with
    | (.ok a, s') => (.ok a, s')
    | (.error e, s') => handler e s'

instance : MonadStateOf σ (Act σ) where
  get := fun s => (.ok s, s)
  set s := fun _ => (.ok (), s)
  modifyGet f := fun s => let r := f s; (.ok r.1, r.2)

@[simp] theorem run_pure (a : α) (s : σ) : run (pure a) s = (.ok a, s) := rfl

@[simp] theorem run_throw (e : Fault) (s : σ) : run (throw e : Act σ α) s = (.error e, s) := rfl

@[simp] theorem run_get (s : σ) : run (get : Act σ σ) s = (.ok s, s) := rfl

@[simp] theorem run_set (s t : σ) : run (set t : Act σ PUnit) s = (.ok (), t) := rfl

@[simp] theorem run_modify (f : σ → σ) (s : σ) :
    run (modify f : Act σ PUnit) s = (.ok (), f s) := rfl

theorem run_bind (act : Act σ α) (next : α → Act σ β) (s : σ) :
    run (act >>= next) s =
      match run act s with
      | (.ok a, s') => run (next a) s'
      | (.error e, s') => (.error e, s') := rfl

theorem id_map_eq (act : Act σ α) : id <$> act = act := by
  funext s
  change (match act s with | (.ok a, s') => _ | (.error e, s') => _) = act s
  rcases act s with ⟨_ | _, _⟩ <;> rfl

theorem bind_bind_eq {γ : Type} (act : Act σ α) (f : α → Act σ β) (g : β → Act σ γ) :
    act >>= f >>= g = act >>= fun a => f a >>= g := by
  funext s
  change (match (match act s with | (.ok a, s') => f a s' | (.error e, s') => (.error e, s')) with
    | (.ok b, s') => g b s' | (.error e, s') => (.error e, s')) =
    (match act s with | (.ok a, s') => _ | (.error e, s') => _)
  rcases act s with ⟨_ | _, _⟩ <;> rfl

instance : LawfulMonad (Act σ) :=
  LawfulMonad.mk' _ id_map_eq (fun _ _ => rfl) bind_bind_eq

/-- The result that was computed elsewhere, or its fault. -/
def ofExcept : Except Fault α → Act σ α
  | .ok a => pure a
  | .error e => throw e

/-- The outcome of an act as its result. -/
def attempt (act : Act σ α) : Act σ (Except Fault α) := fun s =>
  let (outcome, s') := act s
  (.ok outcome, s')

/-- Follows an act by a clean-up on every way out. The outcome is that of the act unless the
clean-up ends with a fault. -/
def ensuring (act : Act σ α) (cleanup : Act σ Unit) : Act σ α := do
  let outcome ← attempt act
  cleanup
  ofExcept outcome

/-- Follows a fault of an act by a clean-up. The fault stays unless the clean-up ends with
another. -/
def onFault (act : Act σ α) (cleanup : Fault → Act σ Unit) : Act σ α := do
  match ← attempt act with
  | .ok a => pure a
  | .error fault => do
    cleanup fault
    throw fault

/-- Lets an act on a part work on the whole. -/
def within (part : Part σ ρ) (act : Act ρ α) : Act σ α := fun s =>
  let (outcome, r) := act (part.get s)
  (outcome, part.set r s)

end Act

end SecureForward
