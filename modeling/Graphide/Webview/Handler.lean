import Mathlib.Logic.Basic

/-!
# Handlers: code that updates a state and may throw

Package `Webview`, file 6. The webview's message listeners and the view pane's methods share
one shape: they update a state as they go and may throw, and whatever they updated before a
throw stays updated (React keeps the setter calls a listener queued; a class keeps its fields).

* `Handler` — that shape, `ExceptT ε (StateM σ)`.
* `Handler.run_bind`, `run_modify_bind`, ... — execution, without unfolding the monad.
* `Handler.Triple` — a Hoare triple with one postcondition for a return and one for a throw,
  and its rules: `pure`, `get`, `throw`, `modify`, `lift`, `bind`, `tryCatch`, `forM` (the loop
  rule, with an invariant), `conseq`, and `of_state` for a handler whose end state is all that
  matters.
-/

namespace Graphide.Webview

/-- Code that updates a state of type `σ` and may throw an `ε`; what it updated before a throw
stays updated.
Source: the webview's message listeners (`src/ide/webview-ui/src/App.tsx` l. 91–122, 527–561),
and the methods of the view pane (`graphide.contribution.ts` l. 170–321)
Kind: D -/
abbrev Handler (ε σ : Type) := ExceptT ε (StateM σ)

namespace Handler

variable {ε σ α β : Type}

/-! ## Running a handler -/

/-- Returning leaves the state. Source: none: infrastructure. Kind: L -/
@[simp] theorem run_pure (a : α) (s : σ) : (pure a : Handler ε σ α).run.run s = (.ok a, s) := rfl

/-- A returned value is passed on. Source: none: infrastructure. Kind: L -/
@[simp] theorem run_pure_bind (b : β) (k : β → Handler ε σ α) (s : σ) :
    ((pure b : Handler ε σ β) >>= k).run.run s = (k b).run.run s := rfl

/-- A state update. Source: none: infrastructure. Kind: L -/
@[simp] theorem run_modify (f : σ → σ) (s : σ) :
    (modify f : Handler ε σ Unit).run.run s = (.ok (), f s) := rfl

/-- The rest runs on the updated state. Source: none: infrastructure. Kind: L -/
@[simp] theorem run_modify_bind (f : σ → σ) (k : Unit → Handler ε σ α) (s : σ) :
    ((modify f : Handler ε σ Unit) >>= k).run.run s = (k ()).run.run (f s) := rfl

/-- Reading the state passes it on. Source: none: infrastructure. Kind: L -/
@[simp] theorem run_get_bind (k : σ → Handler ε σ α) (s : σ) :
    ((get : Handler ε σ σ) >>= k).run.run s = (k s).run.run s := rfl

/-- A throw leaves the state. Source: none: infrastructure. Kind: L -/
@[simp] theorem run_throw (e : ε) (s : σ) :
    (throw e : Handler ε σ α).run.run s = (.error e, s) := rfl

/-- A read that succeeds passes its value on. Source: none: infrastructure. Kind: L -/
@[simp] theorem run_lift_ok_bind (b : β) (k : β → Handler ε σ α) (s : σ) :
    ((liftM (Except.ok b : Except ε β) : Handler ε σ β) >>= k).run.run s = (k b).run.run s := rfl

/-- A read that throws skips the rest and leaves the state. Source: none: infrastructure. Kind: L -/
@[simp] theorem run_lift_error_bind (e : ε) (k : β → Handler ε σ α) (s : σ) :
    ((liftM (Except.error e : Except ε β) : Handler ε σ β) >>= k).run.run s = (.error e, s) := rfl

/-- Running one handler after another: the second starts from the state the first left, unless
the first threw. Source: none: infrastructure. Kind: L -/
theorem run_bind (x : Handler ε σ β) (k : β → Handler ε σ α) (s : σ) :
    (x >>= k).run.run s =
      match x.run.run s with
      | (.ok b, s') => (k b).run.run s'
      | (.error e, s') => (.error e, s') := by
  simp only [ExceptT.run_bind, StateT.run_bind]
  rcases x.run.run s with ⟨_ | b, s'⟩ <;> rfl

/-- `try x catch (e) handle(e)`: the handler of a throw starts from the state the throw left.
Source: none: infrastructure. Kind: L -/
theorem run_tryCatch (x : Handler ε σ α) (handle : ε → Handler ε σ α) (s : σ) :
    (tryCatch x handle).run.run s =
      match x.run.run s with
      | (.ok a, s') => (.ok a, s')
      | (.error e, s') => (handle e).run.run s' := by
  show StateT.run (x.run >>= fun res => match res with
    | .ok a => pure (.ok a) | .error e => (handle e).run) s = _
  rw [StateT.run_bind]
  rcases x.run.run s with ⟨_ | a, s'⟩ <;> rfl

/-! ## Triples -/

/-- From a state where `P` holds, `h` ends where `Q` holds of its value, or where `R` holds of
what it threw. Source: none: infrastructure. Kind: D -/
def Triple (P : σ → Prop) (h : Handler ε σ α) (Q : α → σ → Prop) (R : ε → σ → Prop) : Prop :=
  ∀ s, P s → match h.run.run s with
    | (.ok a, s') => Q a s'
    | (.error e, s') => R e s'

namespace Triple

variable {P : σ → Prop} {Q : α → σ → Prop} {R : ε → σ → Prop}

/-- Rule for `return`. Source: none: infrastructure. Kind: L -/
theorem pure {a : α} (h : ∀ s, P s → Q a s) : Triple P (Pure.pure a) Q R := h

/-- Rule for reading the state. Source: none: infrastructure. Kind: L -/
theorem get {Q : σ → σ → Prop} (h : ∀ s, P s → Q s s) : Triple P (MonadState.get) Q R := h

/-- Rule for `throw`. Source: none: infrastructure. Kind: L -/
theorem throw {e : ε} (h : ∀ s, P s → R e s) : Triple P (MonadExcept.throw e) Q R := h

/-- Rule for a state update. Source: none: infrastructure. Kind: L -/
theorem modify {f : σ → σ} {Q : Unit → σ → Prop} (h : ∀ s, P s → Q () (f s)) :
    Triple P (MonadState.modifyGet fun s => ((), f s)) Q R := h

/-- Rule for a read that may throw. Source: none: infrastructure. Kind: L -/
theorem lift {x : Except ε α}
    (h : ∀ s, P s → match x with | .ok a => Q a s | .error e => R e s) :
    Triple P (liftM x) Q R := fun s hs => by
  cases x <;> exact h s hs

/-- Rule for sequencing: the first part's postcondition is the rest's precondition. Source: none:
infrastructure. Kind: L -/
theorem bind {x : Handler ε σ β} {k : β → Handler ε σ α} {M : β → σ → Prop}
    (hx : Triple P x M R) (hk : ∀ b, Triple (M b) (k b) Q R) : Triple P (x >>= k) Q R :=
  fun s hs => by
    have := hx s hs
    rw [run_bind]
    rcases h : x.run.run s with ⟨_ | b, s'⟩ <;> rw [h] at this
    · exact this
    · exact hk b s' this

/-- Rule for `try`/`catch`: what the body throws with is the handler's precondition. Source: none:
infrastructure. Kind: L -/
theorem tryCatch {x : Handler ε σ α} {handle : ε → Handler ε σ α} {M : ε → σ → Prop}
    (hx : Triple P x Q M) (hh : ∀ e, Triple (M e) (handle e) Q R) :
    Triple P (MonadExcept.tryCatch x handle) Q R := fun s hs => by
  have := hx s hs
  rw [run_tryCatch]
  rcases h : x.run.run s with ⟨e | a, s'⟩ <;> rw [h] at this
  · exact hh e s' this
  · exact this

/-- Rule of consequence. Source: none: infrastructure. Kind: L -/
theorem conseq {P' : σ → Prop} {Q' : α → σ → Prop} {R' : ε → σ → Prop} {h : Handler ε σ α}
    (ht : Triple P h Q R) (hp : ∀ s, P' s → P s) (hq : ∀ a s, Q a s → Q' a s)
    (hr : ∀ e s, R e s → R' e s) : Triple P' h Q' R' := fun s hs => by
  have := ht s (hp s hs)
  revert this
  rcases h.run.run s with ⟨e | a, s'⟩
  · exact hr e s'
  · exact hq a s'

/-- A handler that leaves `I` whether it returns or throws. Source: none: infrastructure. Kind: L -/
theorem of_state {I : σ → Prop} {h : Handler ε σ α} (hs : ∀ s, P s → I (h.run.run s).2) :
    Triple P h (fun _ => I) (fun _ => I) := fun s hp => by
  have := hs s hp
  revert this
  rcases h.run.run s with ⟨e | a, s'⟩ <;> exact id

/-- What a handler that ends in `I` whether it returns or throws leaves. Source: none:
infrastructure. Kind: L -/
theorem state_of {I : σ → Prop} {h : Handler ε σ α} (ht : Triple P h (fun _ => I) (fun _ => I))
    {s : σ} (hs : P s) : I (h.run.run s).2 := by
  have := ht s hs
  revert this
  rcases h.run.run s with ⟨e | a, s'⟩ <;> exact id

/-- **The run rule.** An invariant that every handler of a family keeps, whether it returns or
throws, holds after any sequence of them, each run from the state the one before left. Source: none:
infrastructure. Kind: L -/
theorem foldl {ι : Type} {I : σ → Prop} (h : ι → Handler ε σ α)
    (hi : ∀ i, Triple I (h i) (fun _ => I) (fun _ => I)) :
    ∀ (xs : List ι) (s : σ), I s → I (xs.foldl (fun s i => ((h i).run.run s).2) s)
  | [], _, hs => hs
  | i :: xs, _, hs => foldl h hi xs _ ((hi i).state_of hs)

/-- **The loop rule.** A body that keeps `I` (when it returns) keeps it over the whole loop. Source:
none: infrastructure. Kind: L -/
theorem forM {I : σ → Prop} {f : β → Handler ε σ PUnit} :
    ∀ {xs : List β}, (∀ x ∈ xs, Triple I (f x) (fun _ => I) R) →
      Triple I (xs.forM f) (fun _ => I) R
  | [], _ => fun _ hs => hs
  | x :: _, hf =>
    bind (hf x (List.mem_cons_self _ _)) fun _ => forM fun y hy => hf y (List.mem_cons_of_mem _ hy)

end Triple

end Handler

end Graphide.Webview
