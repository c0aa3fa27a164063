import Mathlib.Data.List.Induction

/-!
# Machines with observable steps

A machine takes steps labelled by *actions* and shows *events*.  The scheduler
and the environment are folded into the action: a step is a partial function of
the state and the action, undefined when the action is not enabled.  A run is a
finite sequence of steps together with everything it showed, so a property of
the history of a run is a property of its event list.

`Run` grows at the end, which is the direction invariants are proved in;
`Run.split` and `Run.append` cut a run at a position and glue two runs.
`Visits` and `Takes` speak about the states inside a run, and `viewed` is the
machine of an observer who does not see every event.
-/

set_option autoImplicit false

universe u v w

/-- A labelled transition system whose steps show events. -/
structure Machine (σ : Type u) (α : Type v) (ε : Type w) where
  step : σ → α → Option (σ × List ε)

namespace Machine

variable {σ : Type u} {α : Type v} {ε : Type w} (M : Machine σ α ε)

/-- `M.Run s as es t`: from `s` the actions `as` lead to `t`, showing `es`. -/
inductive Run (s : σ) : List α → List ε → σ → Prop
  | nil : Run s [] [] s
  | snoc {as : List α} {es fs : List ε} {t u : σ} {a : α} :
      Run s as es t → M.step t a = some (u, fs) → Run s (as ++ [a]) (es ++ fs) u

/-- The states some run reaches from an initial state. -/
def Reachable (init : σ → Prop) (t : σ) : Prop :=
  ∃ s as es, init s ∧ M.Run s as es t

/-- The run from `s` along `as` passes through `t`. -/
def Visits (s : σ) (as : List α) (t : σ) : Prop :=
  ∃ bs cs es, as = bs ++ cs ∧ M.Run s bs es t

/-- The run from `s` along `as` takes the step `a` in the state `t`. -/
def Takes (s : σ) (as : List α) (t : σ) (a : α) : Prop :=
  ∃ bs cs es, as = bs ++ a :: cs ∧ M.Run s bs es t

/-- Evaluate a list of actions; `none` when one of them is not enabled. -/
def exec : σ → List α → Option (σ × List ε)
  | s, [] => some (s, [])
  | s, a :: as =>
      match M.step s a with
      | none => none
      | some (t, fs) =>
          match exec t as with
          | none => none
          | some (u, gs) => some (u, fs ++ gs)

/-- Every event of a trace meets `P`, given the events before it. -/
def Throughout (P : List ε → ε → Prop) (es : List ε) : Prop :=
  ∀ pre e post, es = pre ++ e :: post → P pre e

/-- Every step taken along a list of actions passes a test. -/
def checks (p : σ → α → Bool) : σ → List α → Bool
  | _, [] => true
  | s, a :: as =>
      p s a && match M.step s a with
        | none => true
        | some (t, _) => checks p t as

/-- The same machine, whose steps show what `view` makes of their events. -/
def viewed {δ : Type*} (view : α → List ε → List δ) : Machine σ α δ where
  step s a := (M.step s a).map fun r => (r.1, view a r.2)

variable {M}

/-- A step is seen with the view of its events. -/
theorem viewed_step {δ : Type*} {view : α → List ε → List δ} {s t : σ} {a : α} {es : List ε}
    (h : M.step s a = some (t, es)) : (M.viewed view).step s a = some (t, view a es) :=
  congrArg (Option.map _) h

/-! ## Gluing and cutting runs -/

theorem Run.single {s t : σ} {a : α} {fs : List ε} (h : M.step s a = some (t, fs)) :
    M.Run s [a] fs t := by
  simpa using Run.nil.snoc h

theorem Run.append {s t u : σ} {as bs : List α} {es fs : List ε}
    (h₁ : M.Run s as es t) (h₂ : M.Run t bs fs u) : M.Run s (as ++ bs) (es ++ fs) u := by
  induction h₂ with
  | nil => simpa using h₁
  | snoc _ hstep ih =>
      rw [← List.append_assoc, ← List.append_assoc]
      exact ih.snoc hstep

theorem Run.cons {s t u : σ} {a : α} {as : List α} {es fs : List ε}
    (hstep : M.step s a = some (t, es)) (h : M.Run t as fs u) :
    M.Run s (a :: as) (es ++ fs) u :=
  (Run.single hstep).append h

theorem Run.snoc_inv {s u : σ} {as : List α} {a : α} {es : List ε}
    (h : M.Run s (as ++ [a]) es u) :
    ∃ t es₁ fs, M.Run s as es₁ t ∧ M.step t a = some (u, fs) ∧ es = es₁ ++ fs := by
  generalize hbs : as ++ [a] = bs at h
  cases h with
  | nil => simp at hbs
  | snoc hrun hstep =>
      obtain ⟨rfl, ha⟩ := List.append_inj' hbs rfl
      obtain rfl := List.singleton_inj.mp ha
      exact ⟨_, _, _, hrun, hstep, rfl⟩

theorem Run.nil_inv {s t : σ} {es : List ε} (h : M.Run s [] es t) : t = s ∧ es = [] := by
  generalize hbs : ([] : List α) = bs at h
  cases h with
  | nil => exact ⟨rfl, rfl⟩
  | snoc => simp at hbs

theorem Run.single_inv {s t : σ} {a : α} {es : List ε} (h : M.Run s [a] es t) :
    M.step s a = some (t, es) := by
  rw [← List.nil_append [a]] at h
  obtain ⟨u, es₁, fs, hnil, hstep, rfl⟩ := h.snoc_inv
  obtain ⟨rfl, rfl⟩ := hnil.nil_inv
  exact hstep

theorem Run.split {s u : σ} {as bs : List α} {es : List ε} (h : M.Run s (as ++ bs) es u) :
    ∃ t es₁ es₂, M.Run s as es₁ t ∧ M.Run t bs es₂ u ∧ es = es₁ ++ es₂ := by
  induction bs using List.reverseRecOn generalizing u es with
  | nil => exact ⟨u, es, [], by simpa using h, .nil, by simp⟩
  | append_singleton bs b ih =>
      rw [← List.append_assoc] at h
      obtain ⟨t, es₁, fs, hrun, hstep, rfl⟩ := h.snoc_inv
      obtain ⟨t', es₂, es₃, h₁, h₂, rfl⟩ := ih hrun
      exact ⟨t', es₂, es₃ ++ fs, h₁, h₂.snoc hstep, by simp⟩

theorem Run.cons_inv {s u : σ} {a : α} {as : List α} {es : List ε} (h : M.Run s (a :: as) es u) :
    ∃ t es₁ es₂, M.step s a = some (t, es₁) ∧ M.Run t as es₂ u ∧ es = es₁ ++ es₂ := by
  obtain ⟨t, es₁, es₂, h₁, h₂, rfl⟩ := Run.split (show M.Run s ([a] ++ as) es u from h)
  exact ⟨t, es₁, es₂, h₁.single_inv, h₂, rfl⟩

theorem Takes.snoc {s t : σ} {as : List α} {a b : α} (h : M.Takes s as t a) :
    M.Takes s (as ++ [b]) t a := by
  obtain ⟨bs, cs, es, rfl, hrun⟩ := h
  exact ⟨bs, cs ++ [b], es, by simp, hrun⟩

theorem Takes.append {s t : σ} {as : List α} {a : α} (h : M.Takes s as t a) (bs : List α) :
    M.Takes s (as ++ bs) t a := by
  obtain ⟨cs, ds, es, rfl, hrun⟩ := h
  exact ⟨cs, ds ++ bs, es, by simp, hrun⟩

theorem Takes.cons {s t u : σ} {as : List α} {a b : α} {fs : List ε} (h : M.Takes t as u b)
    (hstep : M.step s a = some (t, fs)) : M.Takes s (a :: as) u b := by
  obtain ⟨bs, cs, es, rfl, hrun⟩ := h
  exact ⟨a :: bs, cs, fs ++ es, rfl, .cons hstep hrun⟩

theorem Run.takes_last {s t : σ} {as : List α} {es : List ε} (h : M.Run s as es t) (a : α) :
    M.Takes s (as ++ [a]) t a :=
  ⟨as, [], es, rfl, h⟩

/-- The steps a run takes are among its actions. -/
theorem Takes.mem {s t : σ} {as : List α} {a : α} (h : M.Takes s as t a) : a ∈ as := by
  obtain ⟨bs, cs, es, rfl, -⟩ := h
  simp

/-- A step a run takes leads to a state it visits. -/
theorem Takes.visits {s t u : σ} {as : List α} {a : α} {fs : List ε} (h : M.Takes s as t a)
    (hstep : M.step t a = some (u, fs)) : M.Visits s as u := by
  obtain ⟨bs, cs, es, rfl, hrun⟩ := h
  exact ⟨bs ++ [a], cs, es ++ fs, by simp, hrun.snoc hstep⟩

/-- The only step of a run of one action. -/
theorem Takes.single {s t : σ} {a b : α} (h : M.Takes s [a] t b) : t = s ∧ b = a := by
  obtain ⟨bs, cs, es, heq, hrun⟩ := h
  cases bs with
  | nil =>
      obtain ⟨rfl, -⟩ := List.cons.inj heq
      exact ⟨hrun.nil_inv.1, rfl⟩
  | cons c bs => simp at heq

theorem Run.det {s t u : σ} {as : List α} {es fs : List ε} (h₁ : M.Run s as es t)
    (h₂ : M.Run s as fs u) : es = fs ∧ t = u := by
  induction h₁ generalizing fs u with
  | nil => exact ⟨h₂.nil_inv.2.symm, h₂.nil_inv.1.symm⟩
  | snoc _ hstep ih =>
      obtain ⟨t', es₁, gs, hrun, hstep', rfl⟩ := h₂.snoc_inv
      obtain ⟨rfl, rfl⟩ := ih hrun
      obtain ⟨rfl, rfl⟩ := Prod.mk.inj (Option.some.inj (hstep.symm.trans hstep'))
      exact ⟨rfl, rfl⟩

/-- A step a run takes is enabled. -/
theorem Run.step_of_takes {s t u : σ} {as : List α} {es : List ε} {a : α}
    (h : M.Run s as es u) (ht : M.Takes s as t a) : ∃ t' fs, M.step t a = some (t', fs) := by
  obtain ⟨bs, cs, es', rfl, hrun⟩ := ht
  rw [← List.singleton_append, ← List.append_assoc] at h
  obtain ⟨v, es₁, es₂, h₁, -, -⟩ := h.split
  obtain ⟨t', es₃, fs, h₂, hstep, -⟩ := h₁.snoc_inv
  obtain ⟨-, rfl⟩ := hrun.det h₂
  exact ⟨v, fs, hstep⟩

/-- The steps of a longer run are those of the shorter one and its last. -/
theorem Run.takes_snoc_iff {s t u : σ} {as : List α} {es : List ε} {a b : α}
    (h : M.Run s as es t) : M.Takes s (as ++ [a]) u b ↔ M.Takes s as u b ∨ u = t ∧ b = a := by
  constructor
  · rintro ⟨bs, cs, fs, heq, hrun⟩
    rcases List.eq_nil_or_concat cs with rfl | ⟨cs, c, rfl⟩
    · obtain ⟨rfl, hba⟩ := List.append_inj' heq rfl
      exact .inr ⟨(hrun.det h).2, (List.singleton_inj.mp hba).symm⟩
    · rw [List.concat_eq_append, ← List.cons_append, ← List.append_assoc] at heq
      obtain ⟨rfl, -⟩ := List.append_inj' heq rfl
      exact .inl ⟨bs, cs, fs, rfl, hrun⟩
  · rintro (htakes | ⟨rfl, rfl⟩)
    · exact htakes.snoc
    · exact h.takes_last b

/-! ## Evaluating runs -/

theorem Run.of_exec {s t : σ} {as : List α} {es : List ε} (h : M.exec s as = some (t, es)) :
    M.Run s as es t := by
  induction as generalizing s es with
  | nil =>
      simp only [exec, Option.some.injEq, Prod.mk.injEq] at h
      obtain ⟨rfl, rfl⟩ := h
      exact .nil
  | cons a as ih =>
      simp only [exec] at h
      cases hstep : M.step s a with
      | none => simp [hstep] at h
      | some p =>
          obtain ⟨s', fs⟩ := p
          cases hrest : M.exec s' as with
          | none => simp [hstep, hrest] at h
          | some q =>
              obtain ⟨u, gs⟩ := q
              simp only [hstep, hrest, Option.some.injEq, Prod.mk.injEq] at h
              obtain ⟨rfl, rfl⟩ := h
              exact Run.cons hstep (ih hrest)

/-- A test that evaluation passes is passed by a run. -/
theorem Run.exists_of_exec {s : σ} {as : List α} {p : σ → List ε → Bool}
    (h : (M.exec s as).any (fun q => p q.1 q.2) = true) :
    ∃ t es, M.Run s as es t ∧ p t es = true := by
  cases hexec : M.exec s as with
  | none => simp [hexec] at h
  | some q => exact ⟨q.1, q.2, .of_exec hexec, by simpa [hexec] using h⟩

/-- The same for a run in two parts, each with its own test. -/
theorem Run.exists_of_exec_exec {s : σ} {as bs : List α} {p q : σ → List ε → Bool}
    (h : (M.exec s as).any (fun r => p r.1 r.2 && (M.exec r.1 bs).any fun r' => q r'.1 r'.2) =
      true) :
    ∃ t es u fs, M.Run s as es t ∧ M.Run t bs fs u ∧ p t es = true ∧ q u fs = true := by
  cases hexec : M.exec s as with
  | none => simp [hexec] at h
  | some r =>
      simp only [hexec, Option.any_some, Bool.and_eq_true] at h
      obtain ⟨u, fs, hrun, hq⟩ := Run.exists_of_exec h.2
      exact ⟨r.1, r.2, u, fs, .of_exec hexec, hrun, h.1, hq⟩

/-- A test that all steps pass in evaluation. -/
theorem Takes.of_checks {p : σ → α → Bool} {s t : σ} {as : List α} {a : α}
    (ht : M.Takes s as t a) (h : M.checks p s as = true) : p t a = true := by
  obtain ⟨bs, cs, es, rfl, hrun⟩ := ht
  induction bs generalizing s es with
  | nil =>
      obtain ⟨rfl, -⟩ := hrun.nil_inv
      simp only [List.nil_append, checks, Bool.and_eq_true] at h
      exact h.1
  | cons b bs ih =>
      obtain ⟨u, es₁, es₂, hstep, hrest, -⟩ := hrun.cons_inv
      simp only [List.cons_append, checks, hstep, Bool.and_eq_true] at h
      exact ih es₂ hrest h.2

/-! ## Invariants -/

/-- The history rule: `I` relates what a run has shown so far to the state it
is in.  The side condition `P` on the whole history may be assumed at every
step, provided it is inherited by shorter histories, and so may a condition `Q`
that all steps meet in the states they are taken from. -/
theorem Run.history_taking {I : List ε → σ → Prop} {P : List ε → Prop} {Q : σ → α → Prop}
    (hP : ∀ es fs, P (es ++ fs) → P es) {s t : σ} {as : List α} {es : List ε}
    (h : M.Run s as es t) (hQ : ∀ t a, M.Takes s as t a → Q t a) (h₀ : I [] s)
    (hstep : ∀ es t a u fs, P (es ++ fs) → Q t a → I es t → M.step t a = some (u, fs) →
      I (es ++ fs) u) (hes : P es) : I es t := by
  induction h with
  | nil => exact h₀
  | snoc hrun hs ih =>
      exact hstep _ _ _ _ _ hes (hQ _ _ (hrun.takes_last _))
        (ih (fun t a ha => hQ t a ha.snoc) (hP _ _ hes)) hs

/-- The history rule with a condition on the actions alone. -/
theorem Run.history_of {I : List ε → σ → Prop} {P : List ε → Prop} {Q : α → Prop}
    (hP : ∀ es fs, P (es ++ fs) → P es) {s t : σ} {as : List α} {es : List ε}
    (h : M.Run s as es t) (hQ : ∀ a ∈ as, Q a) (h₀ : I [] s)
    (hstep : ∀ es t a u fs, P (es ++ fs) → Q a → I es t → M.step t a = some (u, fs) →
      I (es ++ fs) u) (hes : P es) : I es t :=
  h.history_taking (Q := fun _ => Q) hP (fun _ a ha => hQ a ha.mem) h₀ hstep hes

/-- The history rule without a condition on the actions. -/
theorem Run.history {I : List ε → σ → Prop} {P : List ε → Prop}
    (hP : ∀ es fs, P (es ++ fs) → P es) {s t : σ} {as : List α} {es : List ε}
    (h : M.Run s as es t) (h₀ : I [] s)
    (hstep : ∀ es t a u fs, P (es ++ fs) → I es t → M.step t a = some (u, fs) →
      I (es ++ fs) u) (hes : P es) : I es t :=
  h.history_of (Q := fun _ => True) hP (fun _ _ => trivial) h₀
    (fun es t a u fs hfs _ => hstep es t a u fs hfs) hes

/-- The invariant rule for runs whose actions all satisfy `P`. -/
theorem Run.invariant_of {I : σ → Prop} {P : α → Prop} {s t : σ} {as : List α} {es : List ε}
    (h : M.Run s as es t) (hP : ∀ a ∈ as, P a) (h₀ : I s)
    (hstep : ∀ t a u fs, P a → I t → M.step t a = some (u, fs) → I u) : I t :=
  h.history_of (I := fun _ => I) (P := fun _ => True) (fun _ _ h => h) hP h₀
    (fun _ t a u fs _ => hstep t a u fs) trivial

/-- The invariant rule for runs each of whose steps meets `P` in the state it is
taken from. -/
theorem Run.invariant_taking {I : σ → Prop} {P : σ → α → Prop} {s t : σ} {as : List α}
    {es : List ε} (h : M.Run s as es t) (hP : ∀ t a, M.Takes s as t a → P t a) (h₀ : I s)
    (hstep : ∀ t a u fs, P t a → I t → M.step t a = some (u, fs) → I u) : I t :=
  h.history_taking (I := fun _ => I) (P := fun _ => True) (fun _ _ h => h) hP h₀
    (fun _ t a u fs _ => hstep t a u fs) trivial

/-- Where a step that meets `P` keeps an invariant `J` that implies `I`, and any other
step from `J` leads out of `I`, a run stays in `I` exactly if all its steps meet `P`. -/
theorem Run.visits_iff_of {I J : σ → Prop} {P Q : σ → α → Prop} {s t : σ} {as : List α}
    {es : List ε} (h : M.Run s as es t) (hQ : ∀ t a, M.Takes s as t a → Q t a) (h₀ : J s)
    (hI : ∀ t, J t → I t)
    (hstep : ∀ t a u fs, Q t a → J t → M.step t a = some (u, fs) →
      (P t a → J u) ∧ (I u → P t a)) :
    (∀ u, M.Visits s as u → I u) ↔ ∀ u a, M.Takes s as u a → P u a := by
  constructor
  · intro hvisits
    suffices hall : J t ∧ ∀ u a, M.Takes s as u a → P u a from hall.2
    induction h with
    | nil =>
        refine ⟨h₀, ?_⟩
        rintro u a ⟨bs, cs, es, heq, -⟩
        simp at heq
    | @snoc as es fs t u a hrun hlast ih =>
        have hbefore : ∀ v, M.Visits s as v → I v := by
          rintro v ⟨bs, cs, gs, rfl, hbs⟩
          exact hvisits v ⟨bs, cs ++ [a], gs, List.append_assoc bs cs [a], hbs⟩
        obtain ⟨hJ, htakes⟩ := ih (fun v b hb => hQ v b hb.snoc) hbefore
        obtain ⟨hkeeps, hleaves⟩ := hstep t a u fs (hQ t a (hrun.takes_last a)) hJ hlast
        have hP := hleaves (hvisits u ⟨as ++ [a], [], es ++ fs, by simp, hrun.snoc hlast⟩)
        refine ⟨hkeeps hP, fun v b hv => ?_⟩
        rcases hrun.takes_snoc_iff.mp hv with hold | ⟨rfl, rfl⟩
        · exact htakes v b hold
        · exact hP
  · rintro hP u ⟨bs, cs, fs, rfl, hrun⟩
    refine hI u (hrun.invariant_taking (P := fun u a => P u a ∧ Q u a)
      (fun v a htakes => ⟨hP v a (htakes.append cs), hQ v a (htakes.append cs)⟩) h₀ ?_)
    exact fun v a v' gs hcond hv hs => (hstep v a v' gs hcond.2 hv hs).1 hcond.1

/-- The rule for an `I` that is its own invariant. -/
theorem Run.visits_iff {I : σ → Prop} {P Q : σ → α → Prop} {s t : σ} {as : List α} {es : List ε}
    (h : M.Run s as es t) (hQ : ∀ t a, M.Takes s as t a → Q t a) (h₀ : I s)
    (hstep : ∀ t a u fs, Q t a → I t → M.step t a = some (u, fs) → (I u ↔ P t a)) :
    (∀ u, M.Visits s as u → I u) ↔ ∀ u a, M.Takes s as u a → P u a :=
  h.visits_iff_of hQ h₀ (fun _ h => h) fun t a u fs hq ht hs =>
    ⟨(hstep t a u fs hq ht hs).mpr, (hstep t a u fs hq ht hs).mp⟩

/-- The invariant rule. -/
theorem Run.invariant {I : σ → Prop} {s t : σ} {as : List α} {es : List ε}
    (h : M.Run s as es t) (h₀ : I s)
    (hstep : ∀ t a u fs, I t → M.step t a = some (u, fs) → I u) : I t :=
  h.invariant_of (P := fun _ => True) (fun _ _ => trivial) h₀
    fun t a u fs _ => hstep t a u fs

/-- The latch rule: where the steps that meet `P` lead into `I` and no step leads out of
it, a run ends in `I` exactly if one of its steps meets `P`.  An invariant `J` may be
assumed at every step. -/
theorem Run.latch_iff {I J : σ → Prop} {P : σ → α → Prop} {s t : σ} {as : List α} {es : List ε}
    (h : M.Run s as es t) (h₀ : J s) (hs : ¬I s)
    (hstep : ∀ t a u fs, J t → M.step t a = some (u, fs) → J u ∧ (I u ↔ I t ∨ P t a)) :
    I t ↔ ∃ u a, M.Takes s as u a ∧ P u a := by
  suffices hall : J t ∧ (I t ↔ ∃ u a, M.Takes s as u a ∧ P u a) from hall.2
  induction h with
  | nil =>
      refine ⟨h₀, iff_of_false hs ?_⟩
      rintro ⟨u, a, ⟨bs, cs, es, heq, -⟩, -⟩
      simp at heq
  | snoc hrun hlast ih =>
      obtain ⟨hJ, hI⟩ := hstep _ _ _ _ ih.1 hlast
      refine ⟨hJ, ?_⟩
      rw [hI, ih.2]
      constructor
      · rintro (⟨u, a, htakes, hP⟩ | hP)
        · exact ⟨u, a, htakes.snoc, hP⟩
        · exact ⟨_, _, hrun.takes_last _, hP⟩
      · rintro ⟨u, a, htakes, hP⟩
        rcases hrun.takes_snoc_iff.mp htakes with hbefore | ⟨rfl, rfl⟩
        · exact .inl ⟨u, a, hbefore, hP⟩
        · exact .inr hP

theorem Reachable.invariant {init I : σ → Prop} {t : σ} (h : M.Reachable init t)
    (h₀ : ∀ s, init s → I s)
    (hstep : ∀ t a u fs, I t → M.step t a = some (u, fs) → I u) : I t := by
  obtain ⟨s, as, es, hs, hrun⟩ := h
  exact hrun.invariant (h₀ s hs) hstep

/-! ## Traces -/

theorem throughout_nil (P : List ε → ε → Prop) : Throughout P [] := by
  intro pre e post h
  simp at h

theorem Throughout.snoc {P : List ε → ε → Prop} {es : List ε} {e : ε} (h : Throughout P es)
    (he : P es e) : Throughout P (es ++ [e]) := by
  intro pre f post heq
  induction post using List.reverseRecOn with
  | nil =>
      obtain ⟨rfl, hf⟩ := List.append_inj' heq rfl
      obtain rfl := List.singleton_inj.mp hf
      exact he
  | append_singleton post g =>
      rw [← List.cons_append, ← List.append_assoc] at heq
      exact h pre f post (List.append_inj' heq rfl).1

theorem Throughout.append {P : List ε → ε → Prop} {es fs : List ε} (h : Throughout P es)
    (hfs : ∀ pre e post, fs = pre ++ e :: post → P (es ++ pre) e) : Throughout P (es ++ fs) := by
  induction fs using List.reverseRecOn with
  | nil => simpa using h
  | append_singleton fs f ih =>
      rw [← List.append_assoc]
      refine (ih fun pre e post heq => ?_).snoc (hfs fs f [] rfl)
      exact hfs pre e (post ++ [f]) (by simp [heq])

end Machine
