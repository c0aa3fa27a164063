import Mathlib.Data.Nat.Notation
import Mathlib.Tactic.TypeStar

/-!
# Tables with fresh keys

A table hands out its keys itself, in order, and never twice: what a host gives its
programs for timers, requests and connections.  An entry can be changed or removed
under its key.  That keys from `next` on are free is part of the type, so a new entry
never meets an old one.
-/

set_option autoImplicit false

/-- A table whose keys are numbered in the order of insertion. -/
structure FreshTable (α : Type*) where
  get : ℕ → Option α
  next : ℕ
  fresh : ∀ k, next ≤ k → get k = none

namespace FreshTable

variable {α : Type*}

def empty : FreshTable α where
  get _ := none
  next := 0
  fresh _ _ := rfl

/-- A new entry, under the key `t.next`. -/
def insert (t : FreshTable α) (a : α) : FreshTable α where
  get k := if k = t.next then some a else t.get k
  next := t.next + 1
  fresh k hk := by
    rw [if_neg (by omega)]
    exact t.fresh k (by omega)

def erase (t : FreshTable α) (k : ℕ) : FreshTable α where
  get k' := if k' = k then none else t.get k'
  next := t.next
  fresh k' hk' := by
    split
    · rfl
    · exact t.fresh k' hk'

def modify (t : FreshTable α) (k : ℕ) (f : α → α) : FreshTable α where
  get k' := if k' = k then (t.get k).map f else t.get k'
  next := t.next
  fresh k' hk' := by
    split
    next h => rw [← h, t.fresh k' hk', Option.map_none]
    next => exact t.fresh k' hk'

variable (t : FreshTable α) {a b : α} {k l : ℕ} {f : α → α}

@[simp] theorem get_empty (k : ℕ) : (empty : FreshTable α).get k = none := rfl

@[simp] theorem get_next : t.get t.next = none := t.fresh _ (Nat.le_refl _)

variable {t}

/-- The keys in use are old. -/
theorem lt_next (h : t.get k = some a) : k < t.next := by
  refine Nat.lt_of_not_le fun hle => ?_
  rw [t.fresh k hle] at h
  cases h

theorem get_insert_eq_some :
    (t.insert b).get k = some a ↔ k = t.next ∧ b = a ∨ t.get k = some a := by
  show (if k = t.next then some b else t.get k) = some a ↔ _
  split
  next h => simp [h]
  next h => simp [h]

theorem get_erase_eq_some : (t.erase l).get k = some a ↔ k ≠ l ∧ t.get k = some a := by
  show (if k = l then none else t.get k) = some a ↔ _
  split
  next h => simp [h]
  next h => simp [h]

theorem get_modify_eq_some : (t.modify l f).get k = some a ↔
    k = l ∧ (∃ b, t.get l = some b ∧ f b = a) ∨ k ≠ l ∧ t.get k = some a := by
  show (if k = l then (t.get l).map f else t.get k) = some a ↔ _
  split
  next h => simp [h]
  next h => simp [h]

theorem get_modify_of_ne (h : k ≠ l) : (t.modify l f).get k = t.get k := if_neg h

theorem get_modify_self : (t.modify k f).get k = (t.get k).map f := if_pos rfl

end FreshTable
