import Mathlib.Logic.Function.Basic

/-!
# Mutexes and the sections they guard

A mutex is created free, is taken by one task at a time and given back by the task that
holds it.  `Guards` says of a mutex and of the places the tasks are at that a task is inside
a section of its exactly when it holds the mutex, so no two tasks are.  Each step of a task
enters a section, leaves one, or does neither, and there is one rule for each.
-/

set_option autoImplicit false

universe u

/-- A mutex of the tasks `τ`, which may not have been created yet. -/
inductive Mutex (τ : Type u)
  | absent
  | free
  | held (task : τ)

namespace Mutex

variable {τ : Type u}

/-- Taking a mutex blocks until it is free. -/
def take (task : τ) : Mutex τ → Option (Mutex τ)
  | free => some (held task)
  | _ => none

/-- Giving it back. -/
def give : Mutex τ → Mutex τ
  | absent => absent
  | _ => free

@[simp] theorem take_eq_some {m m' : Mutex τ} {task : τ} :
    m.take task = some m' ↔ m = free ∧ m' = held task := by
  cases m with
  | absent => simp [take]
  | free => simp [take, eq_comm]
  | held => simp [take]

@[simp] theorem give_held (task : τ) : (held task).give = free := rfl

/-- The tasks inside a section are the one that holds the mutex. -/
def Guards (m : Mutex τ) (inside : τ → Prop) : Prop :=
  ∀ task, inside task ↔ m = held task

variable {m : Mutex τ} {inside inside' : τ → Prop} {task : τ}

/-- No two tasks are inside. -/
theorem Guards.unique {task' : τ} (h : m.Guards inside) (hin : inside task) (hin' : inside task') :
    task = task' := by
  have heq := ((h task).mp hin).symm.trans ((h task').mp hin')
  exact Mutex.held.inj heq

/-- No task is inside while nothing is held. -/
theorem guards_free (hout : ∀ task, ¬inside task) : free.Guards inside :=
  fun task => iff_of_false (hout task) (by simp)

/-- A step inside a section, or outside all of them. -/
theorem Guards.stay (h : m.Guards inside) (hsame : ∀ task, inside' task ↔ inside task) :
    m.Guards inside' :=
  fun task => (hsame task).trans (h task)

/-- A task enters a section. -/
theorem Guards.enter (h : free.Guards inside) (hin : inside' task)
    (hothers : ∀ other, other ≠ task → (inside' other ↔ inside other)) :
    (held task).Guards inside' := by
  intro other
  by_cases hother : other = task
  · subst hother
    exact iff_of_true hin rfl
  · refine iff_of_false (fun hin' => ?_) fun heq => hother (Mutex.held.inj heq).symm
    have hfree := (h other).mp ((hothers other hother).mp hin')
    cases hfree

/-- The task that is inside leaves. -/
theorem Guards.leave (h : m.Guards inside) (hin : inside task) (hout : ¬inside' task)
    (hothers : ∀ other, other ≠ task → (inside' other ↔ inside other)) :
    m.give.Guards inside' := by
  rw [(h task).mp hin]
  refine guards_free fun other hin' => ?_
  by_cases hother : other = task
  · exact hout (hother ▸ hin')
  · exact hother (h.unique ((hothers other hother).mp hin') hin)

end Mutex
