import Mathlib.Order.Basic

/-!
# Procedures that ask, show and stop

Imperative code over a state `σ`.  A procedure reads and edits the state, asks
its environment for answers, shows events and may stop early.  The environment
answers by position: the `n`-th question of a run is answered by the value at
`n` of whatever function the question names.

`Does R m` says that `m` relates the state before, what it shows and the state
after by `R`, whether it returns or stops.  For a relation that composes the
rules below follow the program text, so that a frame condition or an invariant
of a history is proved once for each primitive operation.
-/

set_option autoImplicit false

/-- What a procedure runs in. -/
structure World (σ ε : Type) where
  state : σ
  /-- how many questions have been asked -/
  asked : ℕ
  shown : List ε

/-- A procedure over `σ` that shows `ε`, returns `α` or stops with `ρ`. -/
abbrev Proc (σ ε ρ α : Type) := EStateM ρ (World σ ε) α

namespace Proc

variable {σ τ ε δ ρ α β : Type}

/-- A part of the state. -/
def read (f : σ → α) : Proc σ ε ρ α := fun w => .ok (f w.state) w

def update (f : σ → σ) : Proc σ ε ρ Unit := fun w => .ok () { w with state := f w.state }

def emit (e : ε) : Proc σ ε ρ Unit := fun w => .ok () { w with shown := w.shown ++ [e] }

/-- Read, edit and show at once. -/
def act (f : σ → α × σ × List ε) : Proc σ ε ρ α := fun w =>
  .ok (f w.state).1 { w with state := (f w.state).2.1, shown := w.shown ++ (f w.state).2.2 }

/-- Ask the environment. -/
def ask (answer : ℕ → α) : Proc σ ε ρ α :=
  fun w => .ok (answer w.asked) { w with asked := w.asked + 1 }

/-- Stop early. -/
def stop (r : ρ) : Proc σ ε ρ α := fun w => .error r w

/-- Run `m` for its effect, under a condition. -/
def onlyIf (p : Prop) [Decidable p] (m : Proc σ ε ρ α) : Proc σ ε ρ Unit :=
  if p then do let _ ← m else pure ()

/-- Where a run ends, returned or stopped. -/
def final (m : Proc σ ε ρ α) (w : World σ ε) : World σ ε :=
  match m w with
  | .ok _ v => v
  | .error _ v => v

/-- Run a procedure over a part of the state. -/
def zoom (get : σ → τ) (set : τ → σ → σ) (show' : δ → ε) (m : Proc τ δ ρ α) : Proc σ ε ρ α :=
  fun w =>
    match m { state := get w.state, asked := w.asked, shown := [] } with
    | .ok a v =>
        .ok a { state := set v.state w.state, asked := v.asked,
                shown := w.shown ++ v.shown.map show' }
    | .error r v =>
        .error r { state := set v.state w.state, asked := v.asked,
                   shown := w.shown ++ v.shown.map show' }

/-! ## Running -/

section Run

variable (w : World σ ε)

@[simp] theorem pure_apply (a : α) : (pure a : Proc σ ε ρ α) w = .ok a w := rfl

@[simp] theorem read_apply (f : σ → α) : (read f : Proc σ ε ρ α) w = .ok (f w.state) w := rfl

@[simp] theorem update_apply (f : σ → σ) :
    (update f : Proc σ ε ρ Unit) w = .ok () { w with state := f w.state } := rfl

@[simp] theorem emit_apply (e : ε) :
    (emit e : Proc σ ε ρ Unit) w = .ok () { w with shown := w.shown ++ [e] } := rfl

@[simp] theorem act_apply (f : σ → α × σ × List ε) :
    (act f : Proc σ ε ρ α) w = .ok (f w.state).1
      { w with state := (f w.state).2.1, shown := w.shown ++ (f w.state).2.2 } := rfl

@[simp] theorem ask_apply (answer : ℕ → α) :
    (ask answer : Proc σ ε ρ α) w = .ok (answer w.asked) { w with asked := w.asked + 1 } := rfl

@[simp] theorem stop_apply (r : ρ) : (stop r : Proc σ ε ρ α) w = .error r w := rfl

theorem bind_apply (m : Proc σ ε ρ α) (f : α → Proc σ ε ρ β) :
    (m >>= f) w = match m w with
      | .ok a v => f a v
      | .error r v => .error r v := by
  show EStateM.bind m f w = _
  unfold EStateM.bind
  cases m w <;> rfl

theorem bind_ok {m : Proc σ ε ρ α} {f : α → Proc σ ε ρ β} {w v : World σ ε} {a : α}
    (h : m w = .ok a v) : (m >>= f) w = f a v := by
  rw [bind_apply, h]

theorem bind_error {m : Proc σ ε ρ α} {f : α → Proc σ ε ρ β} {w v : World σ ε} {r : ρ}
    (h : m w = .error r v) : (m >>= f) w = .error r v := by
  rw [bind_apply, h]

theorem onlyIf_of {p : Prop} [Decidable p] {m : Proc σ ε ρ α} {w v : World σ ε} {a : α} (hp : p)
    (h : m w = .ok a v) : onlyIf p m w = .ok () v := by
  unfold onlyIf
  rw [if_pos hp, bind_ok h]
  rfl

theorem onlyIf_of_not {p : Prop} [Decidable p] {m : Proc σ ε ρ α} {w : World σ ε} (hp : ¬p) :
    onlyIf p m w = .ok () w := by
  unfold onlyIf
  rw [if_neg hp]
  rfl

/-- A sequence that returns ran both parts. -/
theorem of_bind_ok {m : Proc σ ε ρ α} {f : α → Proc σ ε ρ β} {w u : World σ ε} {b : β}
    (h : (m >>= f) w = .ok b u) : ∃ a v, m w = .ok a v ∧ f a v = .ok b u := by
  rw [bind_apply] at h
  cases hm : m w with
  | ok a v => rw [hm] at h; exact ⟨a, v, rfl, h⟩
  | error r v => rw [hm] at h; cases h

/-- A sequence that stops did so in its first part or in its second. -/
theorem of_bind_error {m : Proc σ ε ρ α} {f : α → Proc σ ε ρ β} {w u : World σ ε} {r : ρ}
    (h : (m >>= f) w = .error r u) :
    m w = .error r u ∨ ∃ a v, m w = .ok a v ∧ f a v = .error r u := by
  rw [bind_apply] at h
  cases hm : m w with
  | ok a v => rw [hm] at h; exact .inr ⟨a, v, rfl, h⟩
  | error r' v => rw [hm] at h; cases h; exact .inl rfl

theorem final_of_ok {m : Proc σ ε ρ α} {w v : World σ ε} {a : α} (h : m w = .ok a v) :
    m.final w = v := by
  unfold final
  rw [h]

@[simp] theorem pure_final (a : α) : (pure a : Proc σ ε ρ α).final w = w := rfl

theorem final_of_error {m : Proc σ ε ρ α} {w v : World σ ε} {r : ρ} (h : m w = .error r v) :
    m.final w = v := by
  unfold final
  rw [h]

theorem final_bind_of_ok {m : Proc σ ε ρ α} {f : α → Proc σ ε ρ β} {w v : World σ ε} {a : α}
    (h : m w = .ok a v) : final (m >>= f) w = (f a).final v := by
  unfold final
  rw [bind_ok h]

/-- A sequence ends where its first part stopped, or where its second part ends. -/
theorem final_bind_cases (m : Proc σ ε ρ α) (f : α → Proc σ ε ρ β) (w : World σ ε) :
    (∃ r v, m w = .error r v ∧ final (m >>= f) w = v) ∨
      ∃ a v, m w = .ok a v ∧ final (m >>= f) w = (f a).final v := by
  cases h : m w with
  | ok a v => exact .inr ⟨a, v, rfl, final_bind_of_ok h⟩
  | error r v => exact .inl ⟨r, v, rfl, final_of_error (bind_error h)⟩

theorem final_bind_of_error {m : Proc σ ε ρ α} {f : α → Proc σ ε ρ β} {w v : World σ ε} {r : ρ}
    (h : m w = .error r v) : final (m >>= f) w = v :=
  final_of_error (bind_error h)

/-- Returning a value moves nothing. -/
theorem final_bind_pure (m : Proc σ ε ρ α) (b : β) (w : World σ ε) :
    final (m >>= fun _ => (pure b : Proc σ ε ρ β)) w = m.final w := by
  rcases final_bind_cases m (fun _ => (pure b : Proc σ ε ρ β)) w with
    ⟨r, v, hrun, heq⟩ | ⟨a, v, hrun, heq⟩
  · rw [heq, final_of_error hrun]
  · rw [heq, final_of_ok hrun]
    rfl

end Run

/-! ## What a procedure does -/

/-- `m` relates the state before, the events it shows and the state after. -/
def Does (R : σ → List ε → σ → Prop) (m : Proc σ ε ρ α) : Prop :=
  ∀ w, ∃ es, (m.final w).shown = w.shown ++ es ∧ R w.state es (m.final w).state

/-- Relations that sequencing respects. -/
structure Composes (R : σ → List ε → σ → Prop) : Prop where
  refl : ∀ s, R s [] s
  trans : ∀ {s t u : σ} {es fs : List ε}, R s es t → R t fs u → R s (es ++ fs) u

section Rules

variable {R : σ → List ε → σ → Prop}

theorem Does.mono {R' : σ → List ε → σ → Prop} {m : Proc σ ε ρ α} (h : Does R m)
    (himp : ∀ s es t, R s es t → R' s es t) : Does R' m := by
  intro w
  obtain ⟨es, hes, hR⟩ := h w
  exact ⟨es, hes, himp _ _ _ hR⟩

theorem does_pure (hR : Composes R) (a : α) : Does R (pure a : Proc σ ε ρ α) := fun w =>
  ⟨[], by simp [final], hR.refl w.state⟩

theorem does_read (hR : Composes R) (f : σ → α) : Does R (read f : Proc σ ε ρ α) := fun w =>
  ⟨[], by simp [final], hR.refl w.state⟩

theorem does_ask (hR : Composes R) (answer : ℕ → α) : Does R (ask answer : Proc σ ε ρ α) :=
  fun w => ⟨[], by simp [final], hR.refl w.state⟩

theorem does_stop (hR : Composes R) (r : ρ) : Does R (stop r : Proc σ ε ρ α) := fun w =>
  ⟨[], by simp [final], hR.refl w.state⟩

theorem does_update {f : σ → σ} (h : ∀ s, R s [] (f s)) : Does R (update f : Proc σ ε ρ Unit) :=
  fun w => ⟨[], by simp [final], h w.state⟩

theorem does_emit {e : ε} (h : ∀ s, R s [e] s) : Does R (emit e : Proc σ ε ρ Unit) :=
  fun w => ⟨[e], by simp [final], h w.state⟩

theorem does_act {f : σ → α × σ × List ε} (h : ∀ s, R s (f s).2.2 (f s).2.1) :
    Does R (act f : Proc σ ε ρ α) :=
  fun w => ⟨(f w.state).2.2, by simp [final], h w.state⟩

theorem Does.bind (hR : Composes R) {m : Proc σ ε ρ α} {f : α → Proc σ ε ρ β} (hm : Does R m)
    (hf : ∀ a, Does R (f a)) : Does R (m >>= f) := by
  intro w
  obtain ⟨es, hes, hmR⟩ := hm w
  cases hrun : m w with
  | error r v =>
      have hfinal : (m >>= f).final w = m.final w := by simp [final, bind_error hrun, hrun]
      rw [hfinal]
      exact ⟨es, hes, hmR⟩
  | ok a v =>
      have hv : m.final w = v := by simp [final, hrun]
      have hfinal : (m >>= f).final w = (f a).final v := by simp [final, bind_ok hrun]
      obtain ⟨fs, hfs, hfR⟩ := hf a v
      rw [hv] at hes hmR
      rw [hfinal, hfs, hes]
      exact ⟨es ++ fs, by simp, hR.trans hmR hfR⟩

theorem Does.ite {p : Prop} [Decidable p] {m n : Proc σ ε ρ α} (hm : p → Does R m)
    (hn : ¬p → Does R n) : Does R (if p then m else n) := by
  split
  next h => exact hm h
  next h => exact hn h

theorem Does.onlyIf (hR : Composes R) {p : Prop} [Decidable p] {m : Proc σ ε ρ α}
    (hm : Does R m) : Does R (onlyIf p m) :=
  .ite (fun _ => hm.bind hR fun _ => does_pure hR _) fun _ => does_pure hR _

theorem does_forM (hR : Composes R) {f : β → Proc σ ε ρ PUnit} (hf : ∀ b, Does R (f b)) :
    ∀ bs : List β, Does R (bs.forM f) := by
  intro bs
  induction bs with
  | nil => exact does_pure hR _
  | cons b bs ih => exact (hf b).bind hR fun _ => ih

/-- A procedure over a part of the state does the rest no harm. -/
theorem Does.zoom {get : σ → τ} {set : τ → σ → σ} {show' : δ → ε} {m : Proc τ δ ρ α}
    {Q : τ → List δ → τ → Prop} (hm : Does Q m)
    (h : ∀ s es t, Q (get s) es t → R s (es.map show') (set t s)) :
    Does R (zoom get set show' m) := by
  intro w
  obtain ⟨es, hes, hQ⟩ := hm { state := get w.state, asked := w.asked, shown := [] }
  refine ⟨es.map show', ?_, ?_⟩
  · unfold final at hes ⊢
    unfold Proc.zoom
    cases hrun : m { state := get w.state, asked := w.asked, shown := [] } with
    | ok a v => simp_all
    | error r v => simp_all
  · have hstate : ((Proc.zoom get set show' m).final w).state =
        set (m.final { state := get w.state, asked := w.asked, shown := [] }).state w.state := by
      unfold final Proc.zoom
      cases m { state := get w.state, asked := w.asked, shown := [] } <;> rfl
    rw [hstate]
    exact h _ _ _ hQ

end Rules

/-! ## Sequences of steps -/

/-- A list of procedures that stops completed a prefix and stopped in the next. -/
theorem of_forM_error {f : β → Proc σ ε ρ PUnit} {bs : List β} {w u : World σ ε} {r : ρ}
    (h : bs.forM f w = .error r u) :
    ∃ done b rest v, bs = done ++ b :: rest ∧ done.forM f w = .ok ⟨⟩ v ∧ f b v = .error r u := by
  induction bs generalizing w with
  | nil => cases h
  | cons b bs ih =>
      rcases of_bind_error h with hstop | ⟨_, v, hok, hrest⟩
      · exact ⟨[], b, bs, w, rfl, rfl, hstop⟩
      · obtain ⟨done, c, rest, v', rfl, hdone, hstop⟩ := ih hrest
        exact ⟨b :: done, c, rest, v', rfl, (bind_ok hok).trans hdone, hstop⟩

/-- The procedure does not stop early. -/
def Returns (m : Proc σ ε ρ α) : Prop := ∀ w, ∃ a v, m w = .ok a v

theorem returns_pure (a : α) : Returns (pure a : Proc σ ε ρ α) := fun w => ⟨a, w, rfl⟩

theorem returns_act (f : σ → α × σ × List ε) : Returns (act f : Proc σ ε ρ α) :=
  fun _ => ⟨_, _, rfl⟩

theorem returns_read (f : σ → α) : Returns (read f : Proc σ ε ρ α) := fun _ => ⟨_, _, rfl⟩

theorem returns_update (f : σ → σ) : Returns (update f : Proc σ ε ρ Unit) := fun _ => ⟨_, _, rfl⟩

theorem returns_emit (e : ε) : Returns (emit e : Proc σ ε ρ Unit) := fun _ => ⟨_, _, rfl⟩

theorem returns_ask (answer : ℕ → α) : Returns (ask answer : Proc σ ε ρ α) := fun _ => ⟨_, _, rfl⟩

theorem Returns.bind {m : Proc σ ε ρ α} {f : α → Proc σ ε ρ β} (hm : Returns m)
    (hf : ∀ a, Returns (f a)) : Returns (m >>= f) := by
  intro w
  obtain ⟨a, v, hrun⟩ := hm w
  rw [bind_ok hrun]
  exact hf a v

theorem Returns.ite {p : Prop} [Decidable p] {m n : Proc σ ε ρ α} (hm : Returns m)
    (hn : Returns n) : Returns (if p then m else n) := by
  split
  · exact hm
  · exact hn

/-- What a loop does: one link for each round. -/
inductive Chain (link : β → σ → List ε → σ → Prop) : List β → σ → List ε → σ → Prop
  | nil (s : σ) : Chain link [] s [] s
  | cons {b : β} {bs : List β} {s t u : σ} {es fs : List ε} (h : link b s es t)
      (hrest : Chain link bs t fs u) : Chain link (b :: bs) s (es ++ fs) u

theorem chain_forM {link : β → σ → List ε → σ → Prop} {f : β → Proc σ ε ρ PUnit}
    (hdoes : ∀ b, Does (link b) (f b)) (hreturns : ∀ b, Returns (f b)) :
    ∀ (bs : List β) (w : World σ ε), ∃ v es, bs.forM f w = .ok ⟨⟩ v ∧ v.shown = w.shown ++ es ∧
      Chain link bs w.state es v.state := by
  intro bs
  induction bs with
  | nil => intro w; exact ⟨w, [], rfl, by simp, .nil _⟩
  | cons b bs ih =>
      intro w
      obtain ⟨_, u, hrun⟩ := hreturns b w
      obtain ⟨es, hes, hlink⟩ := hdoes b w
      rw [final_of_ok hrun] at hes hlink
      obtain ⟨v, fs, hrest, hfs, hchain⟩ := ih u
      exact ⟨v, es ++ fs, (bind_ok hrun).trans hrest, by rw [hfs, hes, List.append_assoc],
        .cons hlink hchain⟩

/-- The invariant rule for loops: `I` relates the history to the state. -/
theorem Chain.invariant {link : β → σ → List ε → σ → Prop} {I : List ε → σ → Prop}
    (hlink : ∀ b h s es t, I h s → link b s es t → I (h ++ es) t) {bs : List β} {s t : σ}
    {es : List ε} (hchain : Chain link bs s es t) {h : List ε} (hs : I h s) : I (h ++ es) t := by
  induction hchain generalizing h with
  | nil => simpa using hs
  | cons hfirst _ ih =>
      rw [← List.append_assoc]
      exact ih (hlink _ _ _ _ _ hs hfirst)

end Proc
