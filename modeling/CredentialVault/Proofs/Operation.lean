/-!
# Operations that may fail

An operation works on a state and ends with a result or a failure; a failure keeps what was done
before it. This module says how the parts of an operation run (`run_bind`, `run_tryCatch`), takes a
run of a sequence apart (`bind_ok`, `bind_error`), and holds the frame rule: an operation stays
`Within` a relation of states when each of its parts does, whatever fails. So it `Preserves` a view
of the state, or `Maintains` an invariant, when each of its parts does. What an operation does is
told by a view of the state if it `SeesOnly` that view.
-/

namespace CredentialVault.Operation

variable {ε σ τ γ δ α β : Type}

/-! ## Runs -/

/-- A result without effect. -/
@[simp]
theorem run_pure (a : α) (s : σ) : (pure a : ExceptT ε (StateM σ) α) s = (.ok a, s) := rfl

/-- A failure keeps the state. -/
@[simp]
theorem run_throw (e : ε) (s : σ) : (throw e : ExceptT ε (StateM σ) α) s = (.error e, s) := rfl

/-- The state as the result. -/
@[simp]
theorem run_get (s : σ) : (get : ExceptT ε (StateM σ) σ) s = (.ok s, s) := rfl

/-- A new state. -/
@[simp]
theorem run_set (s t : σ) : (set t : ExceptT ε (StateM σ) PUnit) s = (.ok ⟨⟩, t) := rfl

/-- A changed state. -/
@[simp]
theorem run_modify (f : σ → σ) (s : σ) :
    (modify f : ExceptT ε (StateM σ) PUnit) s = (.ok ⟨⟩, f s) := rfl

/-- A result that changes the state. -/
@[simp]
theorem run_modifyGet (f : σ → α × σ) (s : σ) :
    (modifyGet f : ExceptT ε (StateM σ) α) s = (.ok (f s).1, (f s).2) := rfl

/-- A sequence goes on from the state of its first part, unless that part fails. -/
theorem run_bind (x : ExceptT ε (StateM σ) α) (f : α → ExceptT ε (StateM σ) β) (s : σ) :
    (x >>= f) s =
      match x s with
      | (.ok a, t) => f a t
      | (.error e, t) => (.error e, t) := by
  rcases h : x s with ⟨_ | _, _⟩
  all_goals
    simp only [bind, ExceptT.bind, ExceptT.mk, StateT.bind, h]
    rfl

/-- A failure is handled from the state that it left. -/
theorem run_tryCatch (x : ExceptT ε (StateM σ) α) (handle : ε → ExceptT ε (StateM σ) α) (s : σ) :
    (tryCatch x handle) s =
      match x s with
      | (.ok a, t) => (.ok a, t)
      | (.error e, t) => handle e t := by
  rcases h : x s with ⟨_ | _, _⟩
  · simp only [tryCatch, tryCatchThe, MonadExceptOf.tryCatch, ExceptT.tryCatch, ExceptT.mk, bind,
      StateT.bind, h]
  · simp only [tryCatch, tryCatchThe, MonadExceptOf.tryCatch, ExceptT.tryCatch, ExceptT.mk, bind,
      StateT.bind, h]
    rfl

/-- A sequence goes on with a result. -/
@[simp]
theorem ok_bind (a : α) (f : α → Except ε β) : (Except.ok a >>= f) = f a := rfl

/-- A sequence ends with a failure. -/
@[simp]
theorem error_bind (e : ε) (f : α → Except ε β) : (Except.error e >>= f) = .error e := rfl

/-- An outcome of which something holds, if it is a result, is a result. -/
theorem ok_of_any {outcome : Except ε α} {p : α → Bool} (h : outcome.toOption.any p = true) :
    ∃ a, outcome = .ok a ∧ p a = true := by
  cases outcome with
  | error e => cases h
  | ok a => exact ⟨a, rfl, h⟩

/-! ## Runs of sequences -/

/-- The first part of a sequence that gives a result does so, and so does the second. -/
theorem bind_ok {x : ExceptT ε (StateM σ) α} {f : α → ExceptT ε (StateM σ) β} {s t : σ} {b : β}
    (h : (x >>= f) s = (.ok b, t)) : ∃ a u, x s = (.ok a, u) ∧ f a u = (.ok b, t) := by
  rw [run_bind] at h
  rcases hx : x s with ⟨e | a, u⟩ <;> rw [hx] at h
  · cases h
  · exact ⟨a, u, rfl, h⟩

/-- A sequence fails in its first part or in its second. -/
theorem bind_error {x : ExceptT ε (StateM σ) α} {f : α → ExceptT ε (StateM σ) β} {s t : σ} {e : ε}
    (h : (x >>= f) s = (.error e, t)) :
    x s = (.error e, t) ∨ ∃ a u, x s = (.ok a, u) ∧ f a u = (.error e, t) := by
  rw [run_bind] at h
  rcases hx : x s with ⟨e' | a, u⟩ <;> rw [hx] at h
  · cases h
    exact .inl rfl
  · exact .inr ⟨a, u, rfl, h⟩

/-- A sequence ends with a failure of its first part, or as its second part does. -/
theorem bind_cases {x : ExceptT ε (StateM σ) α} {f : α → ExceptT ε (StateM σ) β} {s t : σ}
    {r : Except ε β} (h : (x >>= f) s = (r, t)) :
    (∃ e, r = .error e ∧ x s = (.error e, t)) ∨ ∃ a u, x s = (.ok a, u) ∧ f a u = (r, t) := by
  rw [run_bind] at h
  rcases hx : x s with ⟨e | a, u⟩ <;> rw [hx] at h
  · cases h
    exact .inl ⟨e, rfl, rfl⟩
  · exact .inr ⟨a, u, rfl, h⟩

/-- After a first part with a result, a sequence runs as its second part. -/
theorem run_bind_of_ok {x : ExceptT ε (StateM σ) α} {f : α → ExceptT ε (StateM σ) β} {s t : σ}
    {a : α} (h : x s = (.ok a, t)) : (x >>= f) s = f a t := by
  rw [run_bind, h]

/-- After a failure in its first part, a sequence ends. -/
theorem run_bind_of_error {x : ExceptT ε (StateM σ) α} {f : α → ExceptT ε (StateM σ) β} {s t : σ}
    {e : ε} (h : x s = (.error e, t)) : (x >>= f) s = (.error e, t) := by
  rw [run_bind, h]

/-- An operation whose failures are handled gives a result at once or after a failure. -/
theorem tryCatch_cases {x : ExceptT ε (StateM σ) α} {handle : ε → ExceptT ε (StateM σ) α} {s t : σ}
    {r : Except ε α} (h : (tryCatch x handle) s = (r, t)) :
    (∃ a, r = .ok a ∧ x s = (.ok a, t)) ∨ ∃ e u, x s = (.error e, u) ∧ handle e u = (r, t) := by
  rw [run_tryCatch] at h
  rcases hx : x s with ⟨e | a, u⟩ <;> rw [hx] at h
  · exact .inr ⟨e, u, rfl, h⟩
  · cases h
    exact .inl ⟨a, rfl, rfl⟩

/-- An operation gives a result whatever is made of its failures. -/
theorem adapt_ok {x : ExceptT ε (StateM σ) α} {f : ε → τ} {s t : σ} {a : α}
    (h : (ExceptT.adapt f x : ExceptT τ (StateM σ) α) s = (.ok a, t)) : x s = (.ok a, t) := by
  have hrun : (ExceptT.adapt f x : ExceptT τ (StateM σ) α) s = ((x s).1.mapError f, (x s).2) := rfl
  rw [hrun] at h
  rcases hx : x s with ⟨e | b, u⟩ <;> rw [hx] at h
  · cases h
  · cases h
    rfl

/-- A loop that gives a result ends with its last round. -/
theorem forIn_concat_ok {items : List δ} {item : δ} {body : δ → ExceptT ε (StateM σ) PUnit} {s t : σ}
    (h : (forIn (items ++ [item]) PUnit.unit fun item _ => do
      body item
      pure (ForInStep.yield PUnit.unit) : ExceptT ε (StateM σ) PUnit) s = (.ok ⟨⟩, t)) :
    ∃ u, body item u = (.ok ⟨⟩, t) := by
  induction items generalizing s with
  | nil =>
    rw [List.nil_append, List.forIn_cons] at h
    obtain ⟨step, u, hround, h₁⟩ := bind_ok h
    obtain ⟨_, v, hbody, hpure⟩ := bind_ok hround
    cases hpure
    cases h₁
    exact ⟨s, hbody⟩
  | cons first items ih =>
    rw [List.cons_append, List.forIn_cons] at h
    obtain ⟨step, u, hround, h₁⟩ := bind_ok h
    obtain ⟨_, v, -, hpure⟩ := bind_ok hround
    cases hpure
    exact ih h₁

/-- A loop none of whose rounds fails runs them all. -/
theorem run_forIn {items : List δ} {body : δ → ExceptT ε (StateM σ) PUnit}
    (h : ∀ item s, (body item s).1 = .ok ⟨⟩) (s : σ) :
    (forIn items PUnit.unit fun item _ => do
      body item
      pure (ForInStep.yield PUnit.unit) : ExceptT ε (StateM σ) PUnit) s =
        (.ok ⟨⟩, items.foldl (fun s item => (body item s).2) s) := by
  induction items generalizing s with
  | nil => rfl
  | cons item items ih =>
    have hbody : body item s = (.ok ⟨⟩, (body item s).2) := Prod.ext (h item s) rfl
    have hround : (do
        body item
        pure (ForInStep.yield PUnit.unit) : ExceptT ε (StateM σ) (ForInStep PUnit)) s =
          (.ok (.yield ⟨⟩), (body item s).2) := run_bind_of_ok hbody
    rw [List.forIn_cons, run_bind_of_ok hround]
    exact ih _

/-! ## The frame rule -/

/-- A relation of states that holds when nothing is done, and for a sequence when it holds for both
parts. -/
class Sequential (R : σ → σ → Prop) : Prop where
  /-- Nothing is done. -/
  refl : ∀ s, R s s
  /-- One thing is done after another. -/
  trans : ∀ {s t u}, R s t → R t u → R s u

/-- An operation stays within a relation when every run, be it with a result or a failure, leads to
a related state. -/
def Within (R : σ → σ → Prop) (x : ExceptT ε (StateM σ) α) : Prop :=
  ∀ s, R s (x s).2

/-- A view is the same in both states. -/
def Same (view : σ → γ) (s t : σ) : Prop := view t = view s

/-- What holds of the first state holds of the second. -/
def Keeps (P : σ → Prop) (s t : σ) : Prop := P s → P t

instance (view : σ → γ) : Sequential (Same view) where
  refl _ := rfl
  trans h h' := Eq.trans h' h

instance (P : σ → Prop) : Sequential (Keeps P) where
  refl _ := id
  trans h h' := h' ∘ h

/-- An operation preserves a view of the state when the view is the same after every run. -/
abbrev Preserves (view : σ → γ) (x : ExceptT ε (StateM σ) α) : Prop :=
  Within (Same view) x

/-- An operation maintains an invariant when it holds after every run if it did before. -/
abbrev Maintains (P : σ → Prop) (x : ExceptT ε (StateM σ) α) : Prop :=
  Within (Keeps P) x

namespace Within

variable {R : σ → σ → Prop}

/-- A run of an operation that stays within a relation. -/
theorem of_run {x : ExceptT ε (StateM σ) α} (hx : Within R x) {s t : σ} {r : Except ε α}
    (h : x s = (r, t)) : R s t := by
  have := hx s
  rwa [h] at this

/-- The form of the failures does not matter. -/
theorem adapt {x : ExceptT ε (StateM σ) α} (hx : Within R x) (f : ε → δ) :
    Within R (ExceptT.adapt f x : ExceptT δ (StateM σ) α) := fun s => hx s

/-- A change that leads to a related state. -/
theorem modify {f : σ → σ} (hf : ∀ s, R s (f s)) :
    Within R (modify f : ExceptT ε (StateM σ) PUnit) := hf

/-- A change with a result that leads to a related state. -/
theorem modifyGet {f : σ → α × σ} (hf : ∀ s, R s (f s).2) :
    Within R (modifyGet f : ExceptT ε (StateM σ) α) := hf

variable [Sequential R]

/-- A result has no effect. -/
theorem pure (a : α) : Within R (pure a : ExceptT ε (StateM σ) α) := Sequential.refl

/-- A failure has no effect. -/
theorem throw (e : ε) : Within R (throw e : ExceptT ε (StateM σ) α) := Sequential.refl

/-- Nothing comes after a failure. -/
theorem throw_bind (e : ε) (f : α → ExceptT ε (StateM σ) β) :
    Within R (MonadExcept.throw e >>= f : ExceptT ε (StateM σ) β) := Sequential.refl

/-- To look at the state has no effect. -/
theorem get : Within R (get : ExceptT ε (StateM σ) σ) := Sequential.refl

/-- A sequence stays within a relation when its first part does, and after each of its results the
second part. -/
theorem bind_of_ok {x : ExceptT ε (StateM σ) α} {f : α → ExceptT ε (StateM σ) β}
    (hx : Within R x) (hf : ∀ s a t, x s = (.ok a, t) → R t (f a t).2) : Within R (x >>= f) := by
  intro s
  rw [run_bind]
  rcases h : x s with ⟨e | a, t⟩
  · exact hx.of_run h
  · exact Sequential.trans (hx.of_run h) (hf s a t h)

/-- A sequence stays within a relation when both parts do. -/
theorem bind {x : ExceptT ε (StateM σ) α} {f : α → ExceptT ε (StateM σ) β}
    (hx : Within R x) (hf : ∀ a, Within R (f a)) : Within R (x >>= f) :=
  hx.bind_of_ok fun _ a t _ => hf a t

/-- Handling failures stays within a relation when the operation and the handler do. -/
theorem tryCatch {x : ExceptT ε (StateM σ) α} {handle : ε → ExceptT ε (StateM σ) α}
    (hx : Within R x) (hhandle : ∀ e, Within R (handle e)) : Within R (tryCatch x handle) := by
  intro s
  rw [run_tryCatch]
  rcases h : x s with ⟨e | a, t⟩
  · exact Sequential.trans (hx.of_run h) (hhandle e t)
  · exact hx.of_run h

/-- A loop stays within a relation when each round does. -/
theorem forIn {items : List δ} {body : δ → ExceptT ε (StateM σ) PUnit}
    (hbody : ∀ item ∈ items, Within R (body item)) :
    Within R (forIn items PUnit.unit fun item _ => do
      body item
      Pure.pure (ForInStep.yield PUnit.unit) : ExceptT ε (StateM σ) PUnit) := by
  induction items with
  | nil => exact Sequential.refl
  | cons item items ih =>
    rw [List.forIn_cons]
    refine (bind (hbody item (by simp)) fun _ => pure _).bind fun step => ?_
    -- The rounds always go on, but the loop is defined for those that may end it as well.
    cases step with
    | done => exact pure _
    | yield => exact ih fun other h => hbody other (by simp [h])

end Within

/-! ## The failures of an operation -/

/-- An operation fails only with errors of a kind. -/
def FailsWith (P : ε → Prop) (x : ExceptT ε (StateM σ) α) : Prop :=
  ∀ s e t, x s = (.error e, t) → P e

namespace FailsWith

variable {P : ε → Prop}

/-- A result is no failure. -/
theorem pure (a : α) : FailsWith P (pure a : ExceptT ε (StateM σ) α) := by
  intro s e t h
  cases h

/-- A change does not fail. -/
theorem modifyGet (f : σ → α × σ) :
    FailsWith P (modifyGet f : ExceptT ε (StateM σ) α) := by
  intro s e t h
  cases h

/-- To look at the state does not fail. -/
theorem get : FailsWith P (get : ExceptT ε (StateM σ) σ) := by
  intro s e t h
  cases h

/-- To raise an error of the kind is such a failure. -/
theorem throw {e : ε} (he : P e) : FailsWith P (throw e : ExceptT ε (StateM σ) α) := by
  intro s e' t h
  cases h
  exact he

/-- A sequence fails with errors of the kind when both of its parts do. -/
theorem bind {x : ExceptT ε (StateM σ) α} {f : α → ExceptT ε (StateM σ) β} (hx : FailsWith P x)
    (hf : ∀ a, FailsWith P (f a)) : FailsWith P (x >>= f) := by
  intro s e t h
  rcases bind_error h with h | ⟨a, u, -, h⟩
  · exact hx _ _ _ h
  · exact hf a _ _ _ h

/-- What comes after an error was raised does not matter. -/
theorem throw_bind {e : ε} (he : P e) (f : α → ExceptT ε (StateM σ) β) :
    FailsWith P ((MonadExcept.throw e : ExceptT ε (StateM σ) α) >>= f) := by
  intro s e' t h
  cases h
  exact he

end FailsWith

/-! ## Failures without effect -/

/-- An operation is atomic for a view of the state when a failure keeps the view. -/
def Atomic (view : σ → γ) (x : ExceptT ε (StateM σ) α) : Prop :=
  ∀ s e t, x s = (.error e, t) → view t = view s

namespace Atomic

variable {view : σ → γ}

/-- What an operation preserves, its failures keep. -/
theorem of_preserves {x : ExceptT ε (StateM σ) α} (hx : Preserves view x) : Atomic view x :=
  fun _ _ _ h => hx.of_run h

/-- A change does not fail. -/
theorem modify (f : σ → σ) : Atomic view (modify f : ExceptT ε (StateM σ) PUnit) := by
  intro s e t h
  cases h

/-- A sequence is atomic when its first part has no effect and its second is atomic. -/
theorem bind {x : ExceptT ε (StateM σ) α} {f : α → ExceptT ε (StateM σ) β}
    (hx : Preserves view x) (hf : ∀ a, Atomic view (f a)) : Atomic view (x >>= f) := by
  intro s e t h
  rcases bind_error h with h | ⟨a, u, hxu, h⟩
  · exact hx.of_run h
  · exact (hf a _ _ _ h).trans (hx.of_run hxu)

end Atomic

/-! ## What an operation sees -/

/-- An operation sees only a view of the state when from states with the same view it comes to the
same result, and again to states with the same view. -/
def SeesOnly (view : σ → γ) (x : ExceptT ε (StateM σ) α) : Prop :=
  ∀ s t, view s = view t → (x s).1 = (x t).1 ∧ view (x s).2 = view (x t).2

namespace SeesOnly

variable {view : σ → γ}

/-- A given outcome sees nothing. -/
theorem of_outcome (outcome : Except ε α) :
    SeesOnly view (ExceptT.mk (Pure.pure outcome) : ExceptT ε (StateM σ) α) :=
  fun _ _ hview => ⟨rfl, hview⟩

/-- A result sees nothing. -/
theorem pure (a : α) : SeesOnly view (pure a : ExceptT ε (StateM σ) α) := of_outcome (.ok a)

/-- A failure sees nothing. -/
theorem throw (e : ε) : SeesOnly view (throw e : ExceptT ε (StateM σ) α) := of_outcome (.error e)

/-- What comes after a failure sees nothing. -/
theorem throw_bind (e : ε) (f : α → ExceptT ε (StateM σ) β) :
    SeesOnly view (MonadExcept.throw e >>= f : ExceptT ε (StateM σ) β) :=
  fun _ _ hview => ⟨rfl, hview⟩

/-- A change of the view that depends on the view alone. -/
theorem modify {f : σ → σ} (hf : ∀ s t, view s = view t → view (f s) = view (f t)) :
    SeesOnly view (modify f : ExceptT ε (StateM σ) PUnit) :=
  fun s t hview => ⟨rfl, hf s t hview⟩

/-- A sequence sees only a view when both parts do. -/
theorem bind {x : ExceptT ε (StateM σ) α} {f : α → ExceptT ε (StateM σ) β} (hx : SeesOnly view x)
    (hf : ∀ a, SeesOnly view (f a)) : SeesOnly view (x >>= f) := by
  intro s t hview
  obtain ⟨hresult, hafter⟩ := hx s t hview
  rw [run_bind, run_bind]
  rcases hs : x s with ⟨e | a, s'⟩ <;> rcases ht : x t with ⟨e' | a', t'⟩ <;>
    rw [hs, ht] at hresult hafter <;> cases hresult
  · exact ⟨rfl, hafter⟩
  · exact hf a s' t' hafter

/-- To look at the state is to see the view when what follows depends on the view alone. -/
theorem get_bind {f : σ → ExceptT ε (StateM σ) α} (hf : ∀ s, SeesOnly view (f s))
    (hsame : ∀ s t, view s = view t → f s = f t) : SeesOnly view (get >>= f) := by
  intro s t hview
  rw [run_bind, run_bind, run_get, run_get]
  dsimp only
  rw [hsame s t hview]
  exact hf t s t hview

end SeesOnly

end CredentialVault.Operation
