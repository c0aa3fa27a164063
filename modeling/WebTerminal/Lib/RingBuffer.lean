import Mathlib.Data.Nat.ModEq
import Mathlib.Tactic.Ring

/-!
# Ring buffers with wrapping counters

A ring of `N` cells is driven by two counters that run modulo `M`: the producer
writes the cell `head % N` and advances `head`, the consumer reads the cell
`tail % N` and advances `tail`.  The counters are never reduced modulo `N`, so
`head - tail` (modulo `M`) is the number of elements held and an empty ring is
told from a full one.  This works exactly when `N` divides `M`, so that the cell
index does not jump when a counter wraps, and `N < M`.

`Represents` relates such a ring to the queue it stands for; `push` and `pop`
are the two operations of a bounded FIFO.
-/

set_option autoImplicit false

namespace RingBuffer

variable {α : Type*}

/-- The ring with the given cells and counters holds the queue `q`, oldest
element first. -/
structure Represents (N M : ℕ) (cell : ℕ → α) (head tail : ℕ) (q : List α) : Prop where
  bounded : q.length ≤ N
  tail_lt : tail < M
  head_eq : head = (tail + q.length) % M
  cell_eq : ∀ k (hk : k < q.length), cell ((tail + k) % N) = q[k]

namespace Represents

variable {N M : ℕ} {cell cell' : ℕ → α} {head tail : ℕ} {q : List α}

theorem nil (cell : ℕ → α) (h : tail < M) : Represents N M cell tail tail [] where
  bounded := Nat.zero_le _
  tail_lt := h
  head_eq := by simp [Nat.mod_eq_of_lt h]
  cell_eq := by simp

/-- The wrapped difference of the counters counts the elements. -/
theorem used_eq (hlt : N < M) (h : Represents N M cell head tail q) :
    (head + M - tail) % M = q.length := by
  have hb := h.bounded
  have ht := h.tail_lt
  rw [h.head_eq]
  rcases Nat.lt_or_ge (tail + q.length) M with hsmall | hwrap
  · rw [Nat.mod_eq_of_lt hsmall, show tail + q.length + M - tail = q.length + M by omega,
      Nat.add_mod_right, Nat.mod_eq_of_lt (by omega)]
  · have hsub : (tail + q.length) % M = tail + q.length - M := by
      rw [Nat.mod_eq_sub_mod hwrap, Nat.mod_eq_of_lt (by omega)]
    rw [hsub, show tail + q.length - M + M - tail = q.length by omega, Nat.mod_eq_of_lt (by omega)]

theorem head_eq_tail_iff (hlt : N < M) (h : Represents N M cell head tail q) :
    head = tail ↔ q = [] := by
  have hused := h.used_eq hlt
  constructor
  · rintro rfl
    rw [show head + M - head = M by omega, Nat.mod_self] at hused
    exact List.length_eq_zero_iff.mp hused.symm
  · rintro rfl
    rw [h.head_eq, List.length_nil, Nat.add_zero, Nat.mod_eq_of_lt h.tail_lt]

/-- The cell the producer writes next, by position in the queue. -/
theorem head_cell (hdvd : N ∣ M) (h : Represents N M cell head tail q) :
    head % N = (tail + q.length) % N := by
  rw [h.head_eq, Nat.mod_mod_of_dvd _ hdvd]

/-- While the ring is not full, the cell written next holds no element. -/
theorem head_cell_ne (hdvd : N ∣ M) (h : Represents N M cell head tail q) (hroom : q.length < N)
    {k : ℕ} (hk : k < q.length) : (tail + k) % N ≠ head % N := by
  rw [h.head_cell hdvd]
  intro heq
  have hmod : k % N = q.length % N := Nat.ModEq.add_left_cancel' tail heq
  rw [Nat.mod_eq_of_lt (by omega), Nat.mod_eq_of_lt hroom] at hmod
  omega

/-- Writing the next cell and advancing `head` appends to the queue.  Every
other cell may only keep its contents. -/
theorem push (hdvd : N ∣ M) (h : Represents N M cell head tail q) (hroom : q.length < N) {x : α}
    (hnew : cell' (head % N) = x) (hold : ∀ i < N, i ≠ head % N → cell' i = cell i) :
    Represents N M cell' ((head + 1) % M) tail (q ++ [x]) where
  bounded := by simp only [List.length_append, List.length_singleton]; omega
  tail_lt := h.tail_lt
  head_eq := by
    rw [h.head_eq, Nat.mod_add_mod, List.length_append, List.length_singleton, Nat.add_assoc]
  cell_eq k hk := by
    rcases Nat.lt_or_ge k q.length with hlt | hge
    · have hcell : (tail + k) % N < N := Nat.mod_lt _ (by omega)
      rw [List.getElem_append_left hlt, hold _ hcell (h.head_cell_ne hdvd hroom hlt),
        h.cell_eq k hlt]
    · have hk' : k = q.length := by
        simp only [List.length_append, List.length_singleton] at hk
        omega
      subst hk'
      rw [← h.head_cell hdvd, hnew]
      simp

/-- The cell at `tail` is the oldest element. -/
theorem front {x : α} (h : Represents N M cell head tail (x :: q)) : cell (tail % N) = x :=
  h.cell_eq 0 (by simp)

/-- Advancing `tail` removes the oldest element. -/
theorem pop (hdvd : N ∣ M) {x : α} (h : Represents N M cell head tail (x :: q)) :
    Represents N M cell head ((tail + 1) % M) q where
  bounded := by have := h.bounded; simp only [List.length_cons] at this; omega
  tail_lt := Nat.mod_lt _ (Nat.zero_lt_of_lt h.tail_lt)
  head_eq := by
    rw [h.head_eq, Nat.mod_add_mod, List.length_cons]
    congr 1
    ring
  cell_eq k hk := by
    have hcell := h.cell_eq (k + 1) (by simpa using hk)
    rw [← Nat.mod_add_mod, Nat.mod_mod_of_dvd _ hdvd, Nat.mod_add_mod,
      show tail + 1 + k = tail + (k + 1) by ring, hcell]
    rfl

end Represents

end RingBuffer
