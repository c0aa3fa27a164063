import WebTerminal.Lib.Machine
import WebTerminal.Lib.Proc

/-!
# Procedures that drive a machine

A machine may be an abstract account of a part of the state that a procedure edits.
`Drives M A P Q E m` says that whatever `m` does from states related by `P`, the machine
does in steps that `A` allows, and that the two are then related by `Q` if `m` returns and
by `E r` if it stops for the reason `r`.  `DrivesAt` says so of one state of the program and one
of the machine.

The rules follow the program text.  A system whose steps all drive the machine has no run
that is not one of the machine.
-/

set_option autoImplicit false

namespace Proc

variable {σ σ' τ ε ε' δ ρ α β γ : Type}

/-- Where a procedure ends, against a state of the machine. -/
def Lands (Q : σ → τ → Prop) (E : ρ → σ → τ → Prop) :
    EStateM.Result ρ (World σ ε) β → τ → Prop
  | .ok _ v, c => Q v.state c
  | .error r v, c => E r v.state c

/-- What the procedure does from this world, the machine does from this state. -/
abbrev DrivesAt (M : Machine τ α δ) (A : α → Prop) (Q : σ → τ → Prop) (E : ρ → σ → τ → Prop)
    (m : Proc σ ε ρ β) (w : World σ ε) (c : τ) : Prop :=
  ∃ as fs c', M.Run c as fs c' ∧ (∀ a ∈ as, A a) ∧ Lands Q E (m w) c'

/-- What the procedure does, the machine does. -/
def Drives (M : Machine τ α δ) (A : α → Prop) (P Q : σ → τ → Prop) (E : ρ → σ → τ → Prop)
    (m : Proc σ ε ρ β) : Prop :=
  ∀ w c, P w.state c → DrivesAt M A Q E m w c

/-- From related states the machine can go where the procedure stops. -/
def Stops (M : Machine τ α δ) (A : α → Prop) (P : σ → τ → Prop) (E : ρ → σ → τ → Prop) : Prop :=
  ∀ r s c, P s c → ∃ as fs c', M.Run c as fs c' ∧ (∀ a ∈ as, A a) ∧ E r s c'

variable {M : Machine τ α δ} {A : α → Prop} {P Q R : σ → τ → Prop} {E : ρ → σ → τ → Prop}

/-- A procedure that moves neither the state nor the machine. -/
theorem drives_of_still {m : Proc σ ε ρ β} (h : ∀ w, ∃ a v, m w = .ok a v ∧ v.state = w.state) :
    Drives M A P P E m := by
  intro w c hP
  obtain ⟨a, v, hrun, hstate⟩ := h w
  refine ⟨[], [], c, .nil, by simp, ?_⟩
  rw [hrun]
  show P v.state c
  rwa [hstate]

theorem drives_pure (a : β) : Drives M A P P E (pure a : Proc σ ε ρ β) :=
  drives_of_still fun w => ⟨a, w, rfl, rfl⟩

theorem drives_read (f : σ → β) : Drives M A P P E (read f : Proc σ ε ρ β) :=
  drives_of_still fun _ => ⟨_, _, rfl, rfl⟩

theorem drives_ask (answer : ℕ → β) : Drives M A P P E (ask answer : Proc σ ε ρ β) :=
  drives_of_still fun _ => ⟨_, _, rfl, rfl⟩

theorem drives_emit (e : ε) : Drives M A P P E (emit e : Proc σ ε ρ Unit) :=
  drives_of_still fun _ => ⟨_, _, rfl, rfl⟩

theorem drives_update {f : σ → σ} (h : ∀ s c, P s c → Q (f s) c) :
    Drives M A P Q E (update f : Proc σ ε ρ Unit) := fun w c hP =>
  ⟨[], [], c, .nil, by simp, h w.state c hP⟩

theorem drives_stop (h : Stops M A P E) (r : ρ) : Drives M A P Q E (stop r : Proc σ ε ρ β) :=
  fun w c hP => h r w.state c hP

theorem DrivesAt.bind {m : Proc σ ε ρ β} {f : β → Proc σ ε ρ γ} {w : World σ ε} {c : τ}
    (hm : DrivesAt M A Q E m w c)
    (hf : ∀ a v c', m w = .ok a v → Q v.state c' → DrivesAt M A R E (f a) v c') :
    DrivesAt M A R E (m >>= f) w c := by
  obtain ⟨as, fs, c', hrun, has, hlands⟩ := hm
  cases hend : m w with
  | error r v =>
      rw [hend] at hlands
      refine ⟨as, fs, c', hrun, has, ?_⟩
      rw [bind_error hend]
      exact hlands
  | ok a v =>
      rw [hend] at hlands
      obtain ⟨bs, gs, c'', hrun', hbs, hlands'⟩ := hf a v c' hend hlands
      refine ⟨as ++ bs, fs ++ gs, c'', hrun.append hrun', fun b hb => ?_, ?_⟩
      · exact (List.mem_append.mp hb).elim (has b) (hbs b)
      · rw [bind_ok hend]
        exact hlands'

theorem Drives.bind_of {m : Proc σ ε ρ β} {f : β → Proc σ ε ρ γ} (hm : Drives M A P Q E m)
    (hf : ∀ w c a v, P w.state c → m w = .ok a v → Drives M A Q R E (f a)) :
    Drives M A P R E (m >>= f) := fun w c hP =>
  (hm w c hP).bind fun a v c' hend hQ => hf w c a v hP hend v c' hQ

theorem Drives.bind {m : Proc σ ε ρ β} {f : β → Proc σ ε ρ γ} (hm : Drives M A P Q E m)
    (hf : ∀ a, Drives M A Q R E (f a)) : Drives M A P R E (m >>= f) :=
  hm.bind_of fun _ _ a _ _ _ => hf a

theorem Drives.ite {p : Prop} [Decidable p] {m n : Proc σ ε ρ β} (hm : p → Drives M A P Q E m)
    (hn : ¬p → Drives M A P Q E n) : Drives M A P Q E (if p then m else n) := by
  split
  next h => exact hm h
  next h => exact hn h

theorem Drives.onlyIf {p : Prop} [Decidable p] {m : Proc σ ε ρ β} (hm : p → Drives M A P P E m) :
    Drives M A P P E (onlyIf p m) :=
  .ite (fun h => (hm h).bind fun _ => drives_pure _) fun _ => drives_pure _

theorem drives_forM {f : β → Proc σ ε ρ PUnit} : ∀ {bs : List β},
    (∀ b ∈ bs, Drives M A P P E (f b)) → Drives M A P P E (bs.forM f) := by
  intro bs hf
  induction bs with
  | nil => exact drives_pure _
  | cons b bs ih =>
      refine (hf b List.mem_cons_self).bind fun _ => ?_
      exact ih fun b' hb' => hf b' (List.mem_cons_of_mem _ hb')

/-- A procedure after whatever it does the states are still related. -/
theorem drives_of_does {S : σ → List ε → σ → Prop} {m : Proc σ ε ρ β} (hm : Does S m)
    (hkeeps : ∀ s es t c, S s es t → P s c → P t c) (hstops : Stops M A P E) :
    Drives M A P P E m := by
  intro w c hP
  obtain ⟨es, -, hS⟩ := hm w
  have hafter := hkeeps _ _ _ _ hS hP
  unfold DrivesAt
  cases hend : m w with
  | ok a v =>
      rw [final_of_ok hend] at hafter
      exact ⟨[], [], c, .nil, by simp, hafter⟩
  | error r v =>
      rw [final_of_error hend] at hafter
      exact hstops r v.state c hafter

/-- A procedure over a part of the state. -/
theorem Drives.zoom {get : σ' → σ} {set : σ → σ' → σ'} {show' : ε → ε'} {m : Proc σ ε ρ β}
    (hm : Drives M A P Q E m) (hset : ∀ t s, get (set t s) = t) :
    Drives M A (fun s => P (get s)) (fun s => Q (get s)) (fun r s => E r (get s))
      (zoom get set show' m) := by
  intro w c hP
  obtain ⟨as, fs, c', hrun, has, hlands⟩ :=
    hm { state := get w.state, asked := w.asked, shown := [] } c hP
  refine ⟨as, fs, c', hrun, has, ?_⟩
  unfold Proc.zoom
  cases hend : m { state := get w.state, asked := w.asked, shown := [] } with
  | ok a v =>
      rw [hend] at hlands
      show Q (get (set v.state w.state)) c'
      rwa [hset]
  | error r v =>
      rw [hend] at hlands
      show E r (get (set v.state w.state)) c'
      rwa [hset]

end Proc

namespace Machine

universe u v w u' v' w'

variable {σ : Type u} {α : Type v} {ε : Type w} {τ : Type u'} {β : Type v'} {δ : Type w'}
  {M : Machine σ α ε} {N : Machine τ β δ}

/-- Where each step is a run of another machine, each run is. -/
theorem Run.simulated {S : σ → τ → Prop} {A : β → Prop} {B : σ → α → Prop} {s t : σ} {c : τ}
    {as : List α} {es : List ε} (hrun : M.Run s as es t) (hS : S s c)
    (has : ∀ u a, M.Takes s as u a → B u a)
    (hstep : ∀ u v a fs c, M.step u a = some (v, fs) → B u a → S u c →
      ∃ bs gs c', N.Run c bs gs c' ∧ (∀ b ∈ bs, A b) ∧ S v c') :
    ∃ bs gs c', N.Run c bs gs c' ∧ (∀ b ∈ bs, A b) ∧ S t c' := by
  induction hrun with
  | nil => exact ⟨[], [], c, .nil, by simp, hS⟩
  | @snoc as es fs t u a hrun hlast ih =>
      obtain ⟨bs, gs, c', hruns, hbs, hS'⟩ := ih fun u a ha => has u a ha.snoc
      obtain ⟨bs', gs', c'', hruns', hbs', hS''⟩ :=
        hstep _ _ _ _ _ hlast (has t a (hrun.takes_last a)) hS'
      refine ⟨bs ++ bs', gs ++ gs', c'', hruns.append hruns', fun b hb => ?_, hS''⟩
      exact (List.mem_append.mp hb).elim (hbs b) (hbs' b)

end Machine
