import WebTerminal.Lib.Checked

/-!
# Computations that request memory

A C function asks for memory again and again, and each time it may be refused.  Its requests
are numbered: a run starts at the number of its next request and says, however it ends, which
number comes next.  `Yields` is the property of a run that gives up only at a request that is
refused, or for a reason of its own, and whose requests were all granted before that.
-/

set_option autoImplicit false

/-- A run that makes requests. -/
def Requesting (α : Type) : Type := ℕ → Checked α × ℕ

namespace Requesting

variable {α β : Type}

def bind (m : Requesting α) (next : α → Requesting β) : Requesting β := fun n =>
  match m n with
  | (.done a, n') => next a n'
  | (.failed, n') => (.failed, n')
  | (.outside, n') => (.outside, n')
  | (.running, n') => (.running, n')

instance : Monad Requesting where
  pure a n := (.done a, n)
  bind := bind

/-- What makes no requests. -/
instance : MonadLift Checked Requesting where
  monadLift r n := (r, n)

/-- `return NULL` -/
def failed : Requesting α := fun n => (.failed, n)

/-- A request, and its number if it is granted. -/
def request (gives : ℕ → Bool) : Requesting ℕ := fun n =>
  (if gives n then .done n else .failed, n + 1)

@[simp] theorem done_bind (a : α) (next : α → Requesting β) :
    ((liftM (Checked.done a) : Requesting α) >>= next) = next a := rfl

/-! ## Requests that are granted -/

/-- The requests from `n` on are granted, those up to `n'`. -/
structure Granted (gives : ℕ → Bool) (n n' : ℕ) : Prop where
  le : n ≤ n'
  gives : ∀ k, n ≤ k → k < n' → gives k = true

/-- The request before `n'` is refused, those from `n` up to it are granted. -/
def Refused (gives : ℕ → Bool) (n n' : ℕ) : Prop :=
  ∃ k, n' = k + 1 ∧ Granted gives n k ∧ gives k = false

variable {gives : ℕ → Bool} {n n' n'' : ℕ}

theorem Granted.refl (gives : ℕ → Bool) (n : ℕ) : Granted gives n n :=
  ⟨Nat.le_refl n, fun _ hle hlt => absurd hlt (Nat.not_lt.mpr hle)⟩

theorem Granted.trans (h : Granted gives n n') (h' : Granted gives n' n'') :
    Granted gives n n'' where
  le := Nat.le_trans h.le h'.le
  gives k hle hlt := by
    rcases Nat.lt_or_ge k n' with hbefore | hafter
    · exact h.gives k hle hbefore
    · exact h'.gives k hafter hlt

theorem Granted.refused (h : Granted gives n n') (h' : Refused gives n' n'') :
    Refused gives n n'' := by
  obtain ⟨k, hk, hgranted, hrefused⟩ := h'
  exact ⟨k, hk, h.trans hgranted, hrefused⟩

/-- Where every request is granted none is refused. -/
theorem not_refused (hgives : ∀ k, gives k = true) : ¬Refused gives n n' := by
  rintro ⟨k, -, -, hrefused⟩
  rw [hgives k] at hrefused
  cases hrefused

/-! ## Runs that give up only at a refusal -/

/-- How a run from the `n`-th request ends: with a result that has this property, all its
requests granted, or at a request that was refused, or for a `reason`. -/
def Ends (gives : ℕ → Bool) (reason : Prop) (P : α → Prop) (n : ℕ) : Checked α × ℕ → Prop
  | (.done a, n') => Granted gives n n' ∧ P a
  | (.failed, n') => Refused gives n n' ∨ Granted gives n n' ∧ reason
  | (.outside, _) => False
  | (.running, _) => False

/-- The run ends so, whichever request comes next when it starts. -/
def Yields (gives : ℕ → Bool) (m : Requesting α) (reason : Prop) (P : α → Prop) : Prop :=
  ∀ n, Ends gives reason P n (m n)

variable {m : Requesting α} {next : α → Requesting β} {r : Checked α} {reason : Prop}
  {P Q : α → Prop} {R : β → Prop}

theorem yields_pure {a : α} (h : P a) : Yields gives (pure a) reason P :=
  fun n => ⟨.refl gives n, h⟩

theorem yields_failed (h : reason) : Yields gives (failed : Requesting α) reason P :=
  fun n => .inr ⟨.refl gives n, h⟩

theorem yields_request : Yields gives (request gives) reason fun _ => True := by
  intro n
  unfold request
  cases hgives : gives n with
  | false => exact .inl ⟨n, rfl, .refl gives n, hgives⟩
  | true =>
      refine ⟨⟨Nat.le_succ n, fun k hle hlt => ?_⟩, trivial⟩
      obtain rfl : k = n := by omega
      exact hgives

/-- What makes no request and has a result. -/
theorem yields_of_returns (h : r.Returns P) : Yields gives (liftM r) reason P := by
  obtain ⟨a, rfl, ha⟩ := h
  exact fun n => ⟨.refl gives n, ha⟩

/-- The requests of a first part were granted, so the run ends as its second part does. -/
theorem Granted.ends (h : Granted gives n n') :
    ∀ {result : Checked α × ℕ}, Ends gives reason P n' result → Ends gives reason P n result
  | (.done _, _), hrest => ⟨h.trans hrest.1, hrest.2⟩
  | (.failed, _), hrest => hrest.imp h.refused fun hgave => ⟨h.trans hgave.1, hgave.2⟩

theorem Yields.bind (h : Yields gives m reason P)
    (hnext : ∀ a, P a → Yields gives (next a) reason R) : Yields gives (m >>= next) reason R := by
  intro n
  have hn := h n
  show Ends gives reason R n (Requesting.bind m next n)
  unfold Requesting.bind
  generalize m n = result at hn ⊢
  obtain ⟨checked, n'⟩ := result
  cases checked with
  | done a => exact hn.1.ends (hnext a hn.2 n')
  | failed => exact hn
  | outside => exact hn
  | running => exact hn

theorem Yields.mono (h : Yields gives m reason P) (hsub : ∀ a, P a → Q a) :
    Yields gives m reason Q := by
  intro n
  have hn := h n
  generalize m n = result at hn ⊢
  obtain ⟨checked, n'⟩ := result
  cases checked with
  | done a => exact ⟨hn.1, hsub a hn.2⟩
  | failed => exact hn
  | outside => exact hn
  | running => exact hn

/-- With every request granted and no reason to give up there is a result. -/
theorem Yields.done_of_not (h : Yields gives m reason P) (hgives : ∀ k, gives k = true)
    (hreason : ¬reason) (n : ℕ) : ∃ a n', m n = (.done a, n') ∧ P a := by
  have hn := h n
  generalize m n = result at hn ⊢
  obtain ⟨checked, n'⟩ := result
  cases checked with
  | done a => exact ⟨a, n', rfl, hn.2⟩
  | failed =>
      rcases hn with hrefused | ⟨-, hgave⟩
      · exact absurd hrefused (not_refused hgives)
      · exact absurd hgave hreason
  | outside => exact hn.elim
  | running => exact hn.elim

end Requesting
