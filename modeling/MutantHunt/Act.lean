/-!
# Acts: fallible steps that change a state

An *act* takes a state to a result and a new state. The result may be an error, but there is a new
state all the same: what was done before a failure stays done. Acts are chained with `do`, and a
failure ends the chain.
-/

namespace MutantHunt

/-- A step from a state to a result, which may be an error, and the state it leaves. -/
def Act (ε σ α : Type) : Type := σ → Except ε α × σ

namespace Act

variable {ε σ α β : Type}

/-- Gives a value and leaves the state alone. -/
def pure (a : α) : Act ε σ α := fun s => (.ok a, s)

/-- Goes on with the value of an act, in the state it left. A failure ends both. -/
def bind (x : Act ε σ α) (f : α → Act ε σ β) : Act ε σ β := fun s =>
  match x s with
  | (.ok a, t) => f a t
  | (.error e, t) => (.error e, t)

instance : Monad (Act ε σ) where
  pure := Act.pure
  bind := Act.bind

/-- Fails, and leaves the state alone. -/
def throw (e : ε) : Act ε σ α := fun s => (.error e, s)

/-- Gives a result that does not depend on the state. -/
def lift (result : Except ε α) : Act ε σ α := fun s => (result, s)

/-- Gives the state. -/
def get : Act ε σ σ := fun s => (.ok s, s)

/-- Changes the state. -/
def modify (f : σ → σ) : Act ε σ Unit := fun s => (.ok (), f s)

/-- Gives the failures of an act another form. -/
def mapError {ε' : Type} (f : ε → ε') (x : Act ε σ α) : Act ε' σ α := fun s =>
  match x s with
  | (result, t) => (result.mapError f, t)

/-- Acts on a part of the state. -/
def zoom {τ : Type} (view : σ → τ) (put : τ → σ → σ) (x : Act ε τ α) : Act ε σ α := fun s =>
  match x (view s) with
  | (result, t) => (result, put t s)

@[simp] theorem pure_apply (a : α) (s : σ) : (Pure.pure a : Act ε σ α) s = (.ok a, s) := rfl

theorem bind_apply (x : Act ε σ α) (f : α → Act ε σ β) (s : σ) :
    (x >>= f) s =
      match x s with
      | (.ok a, t) => f a t
      | (.error e, t) => (.error e, t) := rfl

theorem bind_of_ok {x : Act ε σ α} {s t : σ} {a : α} (h : x s = (.ok a, t))
    (f : α → Act ε σ β) : (x >>= f) s = f a t := by
  rw [bind_apply, h]

theorem bind_of_error {x : Act ε σ α} {s t : σ} {e : ε} (h : x s = (.error e, t))
    (f : α → Act ε σ β) : (x >>= f) s = (.error e, t) := by
  rw [bind_apply, h]

theorem mapError_of_ok {ε' : Type} {x : Act ε σ α} {s t : σ} {a : α} (h : x s = (.ok a, t))
    (f : ε → ε') : x.mapError f s = (.ok a, t) := by
  rw [mapError, h]
  rfl

theorem mapError_of_error {ε' : Type} {x : Act ε σ α} {s t : σ} {e : ε} (h : x s = (.error e, t))
    (f : ε → ε') : x.mapError f s = (.error (f e), t) := by
  rw [mapError, h]
  rfl

@[simp] theorem throw_apply (e : ε) (s : σ) : (throw e : Act ε σ α) s = (.error e, s) := rfl

@[simp] theorem lift_apply (r : Except ε α) (s : σ) : (lift r : Act ε σ α) s = (r, s) := rfl

@[simp] theorem get_apply (s : σ) : (get : Act ε σ σ) s = (.ok s, s) := rfl

@[simp] theorem modify_apply (f : σ → σ) (s : σ) :
    (modify f : Act ε σ Unit) s = (.ok (), f s) := rfl

private theorem map_id (x : Act ε σ α) : id <$> x = x := by
  funext s
  show Act.bind x (fun a => Act.pure (id a)) s = x s
  simp only [Act.bind, Act.pure, id]
  split <;> simp_all

private theorem bind_assoc {γ : Type} (x : Act ε σ α) (f : α → Act ε σ β) (g : β → Act ε σ γ) :
    x >>= f >>= g = x >>= fun a => f a >>= g := by
  funext s
  show Act.bind (Act.bind x f) g s = Act.bind x (fun a => Act.bind (f a) g) s
  simp only [Act.bind]
  rcases x s with ⟨_ | _, t⟩ <;> rfl

instance : LawfulMonad (Act ε σ) :=
  LawfulMonad.mk' (Act ε σ) map_id (fun _ _ => rfl) bind_assoc

end Act

end MutantHunt
