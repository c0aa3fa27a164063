import Mathlib.Data.List.Nodup

/-!
# Partial writes

A record is written to a store under one key after the other, and each write may
be lost on its own.  Afterwards the store is the record *overlaid* on what was
there before: the new value under the keys whose write took effect, the old one
under the others.  A reader that looks at one key at a time gets the record back
exactly if it does so from every key that kept its old value.
-/

set_option autoImplicit false

universe u v w

namespace Overlay

variable {κ : Type u} {ν : Type v} {ρ : Type w}

/-- `new` over `old`, under the keys whose write took effect. -/
def overlay (written : κ → Bool) (new : κ → ν) (old : κ → Option ν) : κ → Option ν :=
  fun key => if written key then some (new key) else old key

variable {written : κ → Bool} {new : κ → ν} {old : κ → Option ν} {key : κ}

theorem overlay_of_written (h : written key = true) :
    overlay written new old key = some (new key) :=
  if_pos h

theorem overlay_of_lost (h : written key = false) : overlay written new old key = old key :=
  if_neg (by simp [h])

/-- A reader of single keys that recognises every value it wrote reads the record
back if and only if it reads the record's value wherever the write was lost. -/
theorem reads_overlay_iff (written : κ → Bool) (new : κ → ν) (old : κ → Option ν)
    (read : κ → Option ν → ρ) (value : κ → ρ) (keys : κ → Prop)
    (hread : ∀ key, keys key → read key (some (new key)) = value key) :
    (∀ key, keys key → read key (overlay written new old key) = value key) ↔
      ∀ key, keys key → written key = false → read key (old key) = value key := by
  refine ⟨fun h key hkey hlost => ?_, fun h key hkey => ?_⟩
  · have hvalue := h key hkey
    rwa [overlay_of_lost hlost] at hvalue
  · cases hwritten : written key with
    | true =>
        rw [overlay_of_written hwritten]
        exact hread key hkey
    | false =>
        rw [overlay_of_lost hwritten]
        exact h key hkey hwritten

/-! ## Writing key by key -/

variable [DecidableEq κ]

/-- The writes of a list of keys, where `answer n` says whether the `n`-th of them
takes effect. -/
def writeAll (new : κ → ν) (answer : ℕ → Bool) : ℕ → List κ → (κ → Option ν) → κ → Option ν
  | _, [], old => old
  | n, key :: keys, old =>
      writeAll new answer (n + 1) keys
        (if answer n then Function.update old key (some (new key)) else old)

/-- Whether the write of a key took effect: the answer at its place in the list. -/
def took (answer : ℕ → Bool) (n : ℕ) (keys : List κ) (key : κ) : Bool :=
  decide (key ∈ keys) && answer (n + keys.idxOf key)

theorem took_cons_self (answer : ℕ → Bool) (n : ℕ) (key : κ) (keys : List κ) :
    took answer n (key :: keys) key = answer n := by
  simp [took]

theorem took_cons_of_ne (answer : ℕ → Bool) (n : ℕ) {key key' : κ} (keys : List κ)
    (h : key' ≠ key) : took answer n (key :: keys) key' = took answer (n + 1) keys key' := by
  unfold took
  rw [List.idxOf_cons_ne _ (Ne.symm h), Nat.succ_eq_add_one, Nat.add_comm _ 1, ← Nat.add_assoc]
  simp [h]

/-- Writing distinct keys one after the other overlays the record. -/
theorem writeAll_eq_overlay (new : κ → ν) (answer : ℕ → Bool) :
    ∀ (keys : List κ) (n : ℕ) (old : κ → Option ν), keys.Nodup →
      writeAll new answer n keys old = overlay (took answer n keys) new old := by
  intro keys
  induction keys with
  | nil => intro n old _; rfl
  | cons key keys ih =>
      intro n old hnodup
      obtain ⟨hnotin, hnodup⟩ := List.nodup_cons.mp hnodup
      rw [writeAll, ih _ _ hnodup]
      funext key'
      by_cases hkey : key' = key
      · subst hkey
        -- the first key does not occur again
        have hlost : took answer (n + 1) keys key' = false := by simp [took, hnotin]
        rw [overlay_of_lost hlost]
        unfold overlay
        rw [took_cons_self]
        cases answer n <;> simp
      · unfold overlay
        rw [took_cons_of_ne _ _ _ hkey]
        cases answer n <;> simp [hkey]

end Overlay
