import WebTerminal.Lib.Proc

/-!
# Two procedures that run alike

A procedure over `σ` and one over `τ` run alike when, from related states and after
as many questions, they return the same value or stop for the same reason, in related
states and after as many questions again.  What they show is not compared, so that
the second one may be a model that knows less than the first.

The relation before and the relation after are two parameters.  A fact about the
states that is needed on the way, and is lost at the end, is a part of the first.
-/

set_option autoImplicit false

namespace Proc

variable {σ τ ε δ ρ α β : Type} {P Q R : σ → τ → Prop}

/-- The same value or the same reason to stop, in related states. -/
inductive SameEnd (Q : σ → τ → Prop) :
    EStateM.Result ρ (World σ ε) α → EStateM.Result ρ (World τ δ) α → Prop
  | ok {a : α} {v : World σ ε} {v' : World τ δ} (hstate : Q v.state v'.state)
      (hasked : v.asked = v'.asked) : SameEnd Q (.ok a v) (.ok a v')
  | error {r : ρ} {v : World σ ε} {v' : World τ δ} (hstate : Q v.state v'.state)
      (hasked : v.asked = v'.asked) : SameEnd Q (.error r v) (.error r v')

/-- From states related by `P` the two end alike, in states related by `Q`. -/
def Alike (P Q : σ → τ → Prop) (m : Proc σ ε ρ α) (m' : Proc τ δ ρ α) : Prop :=
  ∀ w w', P w.state w'.state → w.asked = w'.asked → SameEnd Q (m w) (m' w')

theorem SameEnd.mono {r : EStateM.Result ρ (World σ ε) α} {r' : EStateM.Result ρ (World τ δ) α}
    (h : SameEnd Q r r') (himp : ∀ s t, Q s t → R s t) : SameEnd R r r' := by
  cases h with
  | ok hstate hasked => exact .ok (himp _ _ hstate) hasked
  | error hstate hasked => exact .error (himp _ _ hstate) hasked

section

variable {m : Proc σ ε ρ α} {m' : Proc τ δ ρ α}

theorem Alike.post (h : Alike P Q m m') (himp : ∀ s t, Q s t → R s t) : Alike P R m m' :=
  fun w w' hstate hasked => (h w w' hstate hasked).mono himp

theorem Alike.pre (h : Alike Q R m m') (himp : ∀ s t, P s t → Q s t) : Alike P R m m' :=
  fun w w' hstate hasked => h w w' (himp _ _ hstate) hasked

theorem alike_pure (h : ∀ s t, P s t → Q s t) (a : α) :
    Alike P Q (pure a : Proc σ ε ρ α) (pure a : Proc τ δ ρ α) :=
  fun _ _ hstate hasked => .ok (h _ _ hstate) hasked

theorem alike_stop (h : ∀ s t, P s t → Q s t) (r : ρ) :
    Alike P Q (stop r : Proc σ ε ρ α) (stop r : Proc τ δ ρ α) :=
  fun _ _ hstate hasked => .error (h _ _ hstate) hasked

/-- The environment answers both alike. -/
theorem alike_ask (answer : ℕ → α) :
    Alike P P (ask answer : Proc σ ε ρ α) (ask answer : Proc τ δ ρ α) := by
  intro w w' hstate hasked
  rw [ask_apply, ask_apply, hasked]
  exact .ok hstate rfl

theorem alike_act {f : σ → α × σ × List ε} {g : τ → α × τ × List δ}
    (hvalue : ∀ s t, P s t → (f s).1 = (g t).1) (hstate : ∀ s t, P s t → Q (f s).2.1 (g t).2.1) :
    Alike P Q (act f : Proc σ ε ρ α) (act g : Proc τ δ ρ α) := by
  intro w w' hP hasked
  rw [act_apply, act_apply, hvalue _ _ hP]
  exact .ok (hstate _ _ hP) hasked

theorem alike_update {f : σ → σ} {g : τ → τ} (h : ∀ s t, P s t → Q (f s) (g t)) :
    Alike P Q (update f : Proc σ ε ρ Unit) (update g : Proc τ δ ρ Unit) :=
  fun _ _ hstate hasked => .ok (h _ _ hstate) hasked

/-- A first part that stops must leave what the whole is to leave. -/
theorem Alike.bind {f : α → Proc σ ε ρ β} {f' : α → Proc τ δ ρ β} (hm : Alike P Q m m')
    (hstop : ∀ s t, Q s t → R s t) (hf : ∀ a, Alike Q R (f a) (f' a)) :
    Alike P R (m >>= f) (m' >>= f') := by
  intro w w' hstate hasked
  have hfirst := hm w w' hstate hasked
  rw [bind_apply, bind_apply]
  generalize m w = r at hfirst ⊢
  generalize m' w' = r' at hfirst ⊢
  cases hfirst with
  | ok hstate hasked => exact hf _ _ _ hstate hasked
  | error hstate hasked => exact .error (hstop _ _ hstate) hasked

/-- Each reads its own state, and both go on alike. -/
theorem alike_read_bind {α' : Type} {f : σ → α} {g : τ → α'} {k : α → Proc σ ε ρ β}
    {k' : α' → Proc τ δ ρ β} (h : ∀ s t, P s t → Alike P Q (k (f s)) (k' (g t))) :
    Alike P Q (read f >>= k) (read g >>= k') := by
  intro w w' hstate hasked
  rw [bind_ok (read_apply w f), bind_ok (read_apply w' g)]
  exact h _ _ hstate w w' hstate hasked

/-- The first one reads, the second has no need to. -/
theorem Alike.read_left {f : σ → α} {k : α → Proc σ ε ρ β} {n : Proc τ δ ρ β}
    (h : ∀ s t, P s t → Alike P Q (k (f s)) n) : Alike P Q (read f >>= k) n := by
  intro w w' hstate hasked
  rw [bind_ok (read_apply w f)]
  exact h _ _ hstate w w' hstate hasked

/-- A first part that the second procedure does without. -/
theorem Alike.bind_pure {a : α} {f : α → Proc σ ε ρ β} {n : Proc τ δ ρ β}
    (hm : Alike P Q m (pure a : Proc τ δ ρ α)) (hf : Alike Q R (f a) n) :
    Alike P R (m >>= f) n := by
  intro w w' hstate hasked
  have hfirst := hm w w' hstate hasked
  rw [pure_apply] at hfirst
  rw [bind_apply]
  generalize m w = r at hfirst ⊢
  cases hfirst with
  | ok hstate hasked => exact hf _ _ hstate hasked

/-- What only the first one does comes before what both do. -/
theorem Alike.act_left {f : σ → α × σ × List ε} {k : α → Proc σ ε ρ β} {n : Proc τ δ ρ β}
    (hstate : ∀ s t, P s t → Q (f s).2.1 t) (h : ∀ s t, P s t → Alike Q R (k (f s).1) n) :
    Alike P R (act f >>= k) n := by
  intro w w' hP hasked
  rw [bind_ok (act_apply w f)]
  exact h _ _ hP _ _ (hstate _ _ hP) hasked

theorem Alike.ite {p : Prop} [Decidable p] {n : Proc σ ε ρ α} {n' : Proc τ δ ρ α}
    (hm : p → Alike P Q m m') (hn : ¬p → Alike P Q n n') :
    Alike P Q (if p then m else n) (if p then m' else n') := by
  split
  next hp => exact hm hp
  next hp => exact hn hp

end

end Proc
