import WebTerminal.Lib.ByteMemory

/-!
# Computations over memory they may not own

How a C function over a stretch of memory ends: with a result, by giving up, or in one of
the two ways a correct one never does, an access outside the memory and a loop that goes on.
`Holds` says of a run that it does neither, and of its result whatever it is told to;
`Returns` that there is a result.  Both are proved along the code, one rule for each way to go
on.
-/

set_option autoImplicit false

inductive Checked (α : Type)
  | done (a : α)
  /-- `return false` -/
  | failed
  /-- an access outside the memory -/
  | outside
  /-- more rounds of a loop than it was given -/
  | running

namespace Checked

variable {α β : Type}

def bind (r : Checked α) (next : α → Checked β) : Checked β :=
  match r with
  | done a => next a
  | failed => failed
  | outside => outside
  | running => running

instance : Monad Checked where
  pure := done
  bind := bind

@[simp] theorem pure_eq (a : α) : (pure a : Checked α) = done a := rfl

@[simp] theorem done_bind (a : α) (next : α → Checked β) : done a >>= next = next a := rfl

@[simp] theorem failed_bind (next : α → Checked β) : failed >>= next = failed := rfl

/-- What came of it. -/
def result? : Checked α → Option α
  | done a => some a
  | _ => none

/-! ## Runs that stay inside and end -/

/-- The run stays inside its memory and ends, and its result has this property. -/
def Holds (r : Checked α) (P : α → Prop) : Prop :=
  match r with
  | done a => P a
  | failed => True
  | outside => False
  | running => False

variable {P Q : α → Prop} {R : β → Prop} {r : Checked α} {next : α → Checked β}

@[simp] theorem holds_done (a : α) : (done a).Holds P ↔ P a := Iff.rfl

@[simp] theorem holds_failed : (failed : Checked α).Holds P := trivial

theorem Holds.bind (h : r.Holds P) (hnext : ∀ a, P a → (next a).Holds R) :
    (r >>= next).Holds R := by
  cases r with
  | done a => exact hnext a h
  | failed => trivial
  | outside => exact h
  | running => exact h

theorem Holds.mono (h : r.Holds P) (hsub : ∀ a, P a → Q a) : r.Holds Q := by
  cases r with
  | done a => exact hsub a h
  | failed => trivial
  | outside => exact h
  | running => exact h

theorem Holds.of_eq {a : α} (h : r.Holds P) (heq : r = done a) : P a := by
  subst heq
  exact h

/-- A run that ends does so with its result or with none. -/
theorem Holds.cases (h : r.Holds P) : r = failed ∨ ∃ a, r = done a ∧ P a := by
  cases r with
  | done a => exact .inr ⟨a, rfl, h⟩
  | failed => exact .inl rfl
  | outside => exact h.elim
  | running => exact h.elim

/-! ## Runs that have a result -/

/-- The run has a result, and it has this property. -/
def Returns (r : Checked α) (P : α → Prop) : Prop := ∃ a, r = done a ∧ P a

theorem Returns.mono (h : r.Returns P) (hsub : ∀ a, P a → Q a) : r.Returns Q := by
  obtain ⟨a, hr, ha⟩ := h
  exact ⟨a, hr, hsub a ha⟩

/-! ## Memory -/

/-- `memory[i]` -/
def load (memory : List UInt8) (i : ℕ) : Checked UInt8 :=
  match memory[i]? with
  | some c => done c
  | none => outside

/-- Bytes stored from `i` on. -/
def store (memory : List UInt8) (i : ℕ) (bytes : List UInt8) : Checked (List UInt8) :=
  if i + bytes.length ≤ memory.length then done (ByteMemory.write memory i bytes) else outside

/-- Bytes stored behind those `written` so far, in a fresh stretch of `capacity` bytes. -/
def append (capacity : ℕ) (written bytes : List UInt8) : Checked (List UInt8) :=
  if written.length + bytes.length ≤ capacity then done (written ++ bytes) else outside

variable {memory written bytes : List UInt8} {i capacity : ℕ} {c : UInt8}

theorem load_of_getElem? (h : memory[i]? = some c) : load memory i = done c := by
  unfold load
  rw [h]

theorem holds_load (h : i < memory.length) :
    (load memory i).Holds (fun c => memory[i]? = some c) := by
  have hc : memory[i]? = some memory[i] := List.getElem?_eq_getElem h
  rw [load_of_getElem? hc]
  exact hc

theorem append_of_le (h : written.length + bytes.length ≤ capacity) :
    append capacity written bytes = done (written ++ bytes) := if_pos h

theorem store_of_le (h : i + bytes.length ≤ memory.length) :
    store memory i bytes = done (ByteMemory.write memory i bytes) := if_pos h

end Checked
