import Mathlib.Order.Defs.Unbundled
set_option autoImplicit false

/-! Work on a state that may fail, and that keeps what it did before it failed: what it gives, and
what holds between its start and its end whichever way it ends. -/

namespace Inkwell

variable {σ ε δ α β : Type}

instance isPreorder_invImage {R : δ → δ → Prop} [IsPreorder δ R] {f : σ → δ} :
    IsPreorder σ (InvImage R f) where
  refl s := Std.Refl.refl (f s)
  trans _ _ _ h h' := IsTrans.trans (r := R) _ _ _ h h'

abbrev Work (σ ε α : Type) := ExceptT ε (StateM σ) α

/-- The result of some work and the state that it leaves. -/
def outcome (m : Work σ ε α) (s : σ) : Except ε α × σ := m.run.run s

/-- From `s` the work gives `a` and leaves `t`. -/
def Gives (m : Work σ ε α) (s : σ) (a : α) (t : σ) : Prop := outcome m s = (.ok a, t)

def Fails (m : Work σ ε α) (s : σ) (e : ε) (t : σ) : Prop := outcome m s = (.error e, t)

/-- Holds between the state at the start and the state at the end, failure or not. -/
def KeepsFrom (R : σ → σ → Prop) (m : Work σ ε α) (s : σ) : Prop := R s (outcome m s).2

def Keeps (R : σ → σ → Prop) (m : Work σ ε α) : Prop := ∀ s, KeepsFrom R m s

def Throws (E : ε → Prop) (m : Work σ ε α) : Prop := ∀ s e t, Fails m s e t → E e

@[simp] theorem outcome_pure (a : α) (s : σ) : outcome (pure a : Work σ ε α) s = (.ok a, s) := rfl

@[simp] theorem outcome_throw (e : ε) (s : σ) :
    outcome (throw e : Work σ ε α) s = (.error e, s) := rfl

@[simp] theorem outcome_get (s : σ) : outcome (get : Work σ ε σ) s = (.ok s, s) := rfl

@[simp] theorem outcome_set (s t : σ) : outcome (set t : Work σ ε PUnit) s = (.ok ⟨⟩, t) := rfl

@[simp] theorem outcome_modify (f : σ → σ) (s : σ) :
    outcome (modify f : Work σ ε PUnit) s = (.ok ⟨⟩, f s) := rfl

@[simp] theorem outcome_modifyGet (f : σ → α × σ) (s : σ) :
    outcome (modifyGet f : Work σ ε α) s = (.ok (f s).1, (f s).2) := rfl

@[simp] theorem outcome_lift (m : StateM σ α) (s : σ) :
    outcome (liftM m : Work σ ε α) s = (.ok (m.run s).1, (m.run s).2) := rfl

@[simp] theorem outcome_ofExcept (r : Except ε α) (s : σ) :
    outcome (MonadExcept.ofExcept r : Work σ ε α) s = (r, s) := by cases r <;> rfl

theorem outcome_bind (m : Work σ ε α) (f : α → Work σ ε β) (s : σ) :
    outcome (m >>= f) s = match outcome m s with
      | (.ok a, t) => outcome (f a) t
      | (.error e, t) => (.error e, t) := by
  change (match (outcome m s).1 with
    | Except.ok a => (f a).run
    | Except.error e => pure (Except.error e)).run (outcome m s).2 = _
  rcases outcome m s with ⟨r, t⟩
  cases r <;> rfl

/-- Work on a part of the state: what becomes of the part is put back, however the work ends. -/
theorem outcome_part (r : σ → Except ε α) (f : σ → σ) (s : σ) : outcome (do
    let s ← get
    set (f s)
    MonadExcept.ofExcept (r s) : Work σ ε α) s = (r s, f s) := by
  rw [outcome_bind, outcome_get]
  dsimp only
  rw [outcome_bind, outcome_set]
  exact outcome_ofExcept _ _

theorem mapError_eq_ok {r : Except ε α} {f : ε → δ} {a : α} :
    r.mapError f = .ok a ↔ r = .ok a := by
  cases r with
  | ok b => exact ⟨fun h => congrArg _ (Except.ok.inj h), fun h => congrArg _ (Except.ok.inj h)⟩
  | error e => exact iff_of_false (fun h => by cases h) fun h => by cases h

theorem outcome_tryCatch (m : Work σ ε α) (f : ε → Work σ ε α) (s : σ) :
    outcome (tryCatch m f) s = match outcome m s with
      | (.ok a, t) => (.ok a, t)
      | (.error e, t) => outcome (f e) t := by
  change (match (outcome m s).1 with
    | Except.ok a => pure (Except.ok a)
    | Except.error e => (f e).run).run (outcome m s).2 = _
  rcases outcome m s with ⟨r, t⟩
  cases r <;> rfl

@[simp] theorem outcome_adapt (f : ε → δ) (m : Work σ ε α) (s : σ) :
    outcome (m.adapt f) s = ((outcome m s).1.mapError f, (outcome m s).2) := rfl

theorem gives_bind {m : Work σ ε α} {f : α → Work σ ε β} {s u : σ} {b : β} :
    Gives (m >>= f) s b u ↔ ∃ a t, Gives m s a t ∧ Gives (f a) t b u := by
  unfold Gives
  rw [outcome_bind]
  rcases outcome m s with ⟨r, t⟩
  cases r <;> simp [and_assoc]

theorem Gives.bind {m : Work σ ε α} {f : α → Work σ ε β} {s t u : σ} {a : α} {b : β}
    (h : Gives m s a t) (h' : Gives (f a) t b u) : Gives (m >>= f) s b u :=
  gives_bind.mpr ⟨a, t, h, h'⟩

theorem Gives.outcome_bind {m : Work σ ε α} {f : α → Work σ ε β} {s t : σ} {a : α}
    (h : Gives m s a t) : outcome (m >>= f) s = outcome (f a) t := by
  unfold Gives at h
  rw [Inkwell.outcome_bind, h]

theorem fails_bind {m : Work σ ε α} {f : α → Work σ ε β} {s u : σ} {e : ε} :
    Fails (m >>= f) s e u ↔ Fails m s e u ∨ ∃ a t, Gives m s a t ∧ Fails (f a) t e u := by
  unfold Fails Gives
  rw [outcome_bind]
  rcases outcome m s with ⟨r, t⟩
  cases r <;> simp [and_assoc]

@[simp] theorem gives_pure {a b : α} {s t : σ} :
    Gives (pure a : Work σ ε α) s b t ↔ a = b ∧ s = t := by simp [Gives]

@[simp] theorem not_gives_throw {e : ε} {a : α} {s t : σ} :
    ¬ Gives (throw e : Work σ ε α) s a t := by simp [Gives]

@[simp] theorem gives_get {a s t : σ} : Gives (get : Work σ ε σ) s a t ↔ s = a ∧ s = t := by
  simp [Gives]

@[simp] theorem gives_set {s t u : σ} {a : PUnit} :
    Gives (set u : Work σ ε PUnit) s a t ↔ u = t := by simp [Gives]

@[simp] theorem gives_modify {f : σ → σ} {s t : σ} {a : PUnit} :
    Gives (modify f : Work σ ε PUnit) s a t ↔ f s = t := by simp [Gives]

@[simp] theorem gives_modifyGet {f : σ → α × σ} {s t : σ} {a : α} :
    Gives (modifyGet f : Work σ ε α) s a t ↔ f s = (a, t) := by simp [Gives, Prod.ext_iff]

@[simp] theorem gives_adapt {f : ε → δ} {m : Work σ ε α} {s t : σ} {a : α} :
    Gives (m.adapt f) s a t ↔ Gives m s a t := by
  unfold Gives
  rw [outcome_adapt]
  rcases outcome m s with ⟨r, u⟩
  cases r with
  | ok b => constructor <;> (intro h; cases h; rfl)
  | error e => constructor <;> (intro h; cases h)

theorem gives_lift {m : Work σ δ α} {r : Except δ α} {s t : σ} :
    Gives (liftM m.run : Work σ ε (Except δ α)) s r t ↔ outcome m s = (r, t) := by
  unfold Gives
  rw [outcome_lift, Prod.mk.injEq, Except.ok.injEq, ← Prod.mk.injEq]
  rfl

theorem gives_rethrow {m : Work σ ε α} {f : ε → ε} {s t : σ} {a : α} :
    Gives (tryCatch m fun e => throw (f e)) s a t ↔ Gives m s a t := by
  unfold Gives
  rw [outcome_tryCatch]
  rcases outcome m s with ⟨r, u⟩
  cases r <;> simp

theorem gives_guard {c : Prop} [Decidable c] {e : ε} {f : PUnit → Work σ ε α} {s t : σ} {a : α} :
    Gives (if c then throw e >>= f else f ⟨⟩) s a t ↔ ¬ c ∧ Gives (f ⟨⟩) s a t := by
  by_cases h : c
  · rw [if_pos h, gives_bind]
    simp [h]
  · simp [h]

section

variable {R : σ → σ → Prop}

theorem KeepsFrom.of_outcome {m : Work σ ε α} {s t : σ} {r : Except ε α} (h : KeepsFrom R m s)
    (hm : outcome m s = (r, t)) : R s t := by
  unfold KeepsFrom at h
  rwa [hm] at h

theorem KeepsFrom.of_gives {m : Work σ ε α} {s t : σ} {a : α} (h : KeepsFrom R m s)
    (hm : Gives m s a t) : R s t := h.of_outcome hm

theorem Keeps.of_gives {m : Work σ ε α} {s t : σ} {a : α} (h : Keeps R m) (hm : Gives m s a t) :
    R s t := (h s).of_gives hm

theorem Keeps.mono {S : σ → σ → Prop} {m : Work σ ε α} (h : Keeps R m)
    (hS : ∀ s t, R s t → S s t) : Keeps S m := fun s => hS _ _ (h s)

theorem keeps_modify {f : σ → σ} (h : ∀ s, R s (f s)) : Keeps R (modify f : Work σ ε PUnit) := h

theorem keeps_lift {m : Work σ δ α} (h : Keeps R m) :
    Keeps R (liftM m.run : Work σ ε (Except δ α)) := h

theorem keepsFrom_ite {c : Prop} [Decidable c] {m n : Work σ ε α} {s : σ}
    (hm : c → KeepsFrom R m s) (hn : ¬ c → KeepsFrom R n s) :
    KeepsFrom R (if c then m else n) s := by
  by_cases h : c
  · rw [if_pos h]
    exact hm h
  · rw [if_neg h]
    exact hn h

theorem keeps_ite {c : Prop} [Decidable c] {m n : Work σ ε α} (hm : c → Keeps R m)
    (hn : ¬ c → Keeps R n) : Keeps R (if c then m else n) :=
  fun s => keepsFrom_ite (fun h => hm h s) fun h => hn h s

theorem Keeps.adapt {m : Work σ ε α} (h : Keeps R m) (f : ε → δ) : Keeps R (m.adapt f) := h

variable [IsPreorder σ R]

theorem keepsFrom_pure (a : α) (s : σ) : KeepsFrom R (pure a : Work σ ε α) s := Std.Refl.refl s

theorem keepsFrom_throw (e : ε) (s : σ) : KeepsFrom R (throw e : Work σ ε α) s := Std.Refl.refl s

theorem keeps_pure (a : α) : Keeps R (pure a : Work σ ε α) := keepsFrom_pure a

theorem keeps_throw (e : ε) : Keeps R (throw e : Work σ ε α) := keepsFrom_throw e

theorem keeps_get : Keeps R (get : Work σ ε σ) := fun s => Std.Refl.refl s

/-- What follows some work need only keep what is kept from where the work may lead. -/
theorem KeepsFrom.bind {m : Work σ ε α} {f : α → Work σ ε β} {s : σ} (hm : KeepsFrom R m s)
    (hf : ∀ a t, Gives m s a t → KeepsFrom R (f a) t) : KeepsFrom R (m >>= f) s := by
  unfold KeepsFrom at hm ⊢
  rw [outcome_bind]
  rcases h : outcome m s with ⟨r, t⟩
  rw [h] at hm
  cases r with
  | error e => exact hm
  | ok a => exact IsTrans.trans _ _ _ hm (hf a t h)

theorem Keeps.bind {m : Work σ ε α} {f : α → Work σ ε β} (hm : Keeps R m)
    (hf : ∀ a, Keeps R (f a)) : Keeps R (m >>= f) :=
  fun s => (hm s).bind fun a t _ => hf a t

theorem keepsFrom_guard {c : Prop} [Decidable c] {e : ε} {f : PUnit → Work σ ε α} {s : σ}
    (hf : ¬ c → KeepsFrom R (f ⟨⟩) s) : KeepsFrom R (if c then throw e >>= f else f ⟨⟩) s := by
  by_cases h : c
  · rw [if_pos h]
    unfold KeepsFrom
    rw [outcome_bind]
    exact Std.Refl.refl s
  · rw [if_neg h]
    exact hf h

theorem keeps_guard {c : Prop} [Decidable c] {e : ε} {f : PUnit → Work σ ε α}
    (hf : Keeps R (f ⟨⟩)) : Keeps R (if c then throw e >>= f else f ⟨⟩) :=
  fun s => keepsFrom_guard fun _ => hf s

theorem Keeps.tryCatch {m : Work σ ε α} {f : ε → Work σ ε α} (hm : Keeps R m)
    (hf : ∀ e, Keeps R (f e)) : Keeps R (tryCatch m f) := by
  intro s
  have hs := hm s
  unfold KeepsFrom at hs ⊢
  rw [outcome_tryCatch]
  rcases h : outcome m s with ⟨r, t⟩
  rw [h] at hs
  cases r with
  | error e => exact IsTrans.trans _ _ _ hs (hf e t)
  | ok a => exact hs

end

section

variable {E : ε → Prop}

theorem throws_pure (a : α) : Throws E (pure a : Work σ ε α) := by
  intro s e t h
  simp [Fails] at h

theorem throws_get : Throws E (get : Work σ ε σ) := by
  intro s e t h
  simp [Fails] at h

theorem throws_throw {e : ε} (h : E e) : Throws E (throw e : Work σ ε α) := by
  intro s e' t hf
  simp only [Fails, outcome_throw, Prod.mk.injEq, Except.error.injEq] at hf
  exact hf.1 ▸ h

theorem throws_lift (m : StateM σ α) : Throws E (liftM m : Work σ ε α) := by
  intro s e t h
  simp [Fails] at h

theorem throws_set (u : σ) : Throws E (set u : Work σ ε PUnit) := by
  intro s e t h
  simp [Fails] at h

theorem Throws.bind {m : Work σ ε α} {f : α → Work σ ε β} (hm : Throws E m)
    (hf : ∀ a, Throws E (f a)) : Throws E (m >>= f) := by
  intro s e u h
  rcases fails_bind.mp h with h | ⟨a, t, -, h⟩
  · exact hm s e u h
  · exact hf a t e u h

theorem throws_guard {c : Prop} [Decidable c] {e : ε} {f : PUnit → Work σ ε α} (he : E e)
    (hf : Throws E (f ⟨⟩)) : Throws E (if c then throw e >>= f else f ⟨⟩) := by
  by_cases h : c
  · rw [if_pos h]
    intro s e' t hf'
    rcases fails_bind.mp hf' with h' | ⟨a, u, h', -⟩
    · exact throws_throw he s e' t h'
    · exact absurd h' not_gives_throw
  · rw [if_neg h]
    exact hf

theorem throws_adapt {D : δ → Prop} {f : ε → δ} (m : Work σ ε α) (h : ∀ e, D (f e)) :
    Throws D (m.adapt f) := by
  intro s e t hf
  unfold Fails at hf
  rw [outcome_adapt] at hf
  generalize outcome m s = o at hf
  rcases o with ⟨r, u⟩
  cases r with
  | ok a => cases hf
  | error e' =>
    cases hf
    exact h e'

end
end Inkwell
