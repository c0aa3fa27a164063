import Mathlib.Data.List.Basic

/-!
# Byte memory

Memory is the list of its bytes, an address is a position in it.  `read` and
`write` move stretches of bytes; a read sees what a write left in the same place
(`read_write_self`), and `Keeps` says which addresses a computation leaves alone.
-/

set_option autoImplicit false

namespace ByteMemory

/-- The `n` bytes at `p`. -/
def read (memory : List UInt8) (p n : ℕ) : List UInt8 := (memory.drop p).take n

/-- Memory after `bytes` were copied to `p`. -/
def write (memory : List UInt8) (p : ℕ) (bytes : List UInt8) : List UInt8 :=
  memory.take p ++ bytes ++ memory.drop (p + bytes.length)

/-- `n` bytes at `p` and `m` bytes at `q` do not overlap. -/
def Apart (p n q m : ℕ) : Prop := p + n ≤ q ∨ q + m ≤ p

instance (p n q m : ℕ) : Decidable (Apart p n q m) := inferInstanceAs (Decidable (_ ∨ _))

variable {memory bytes : List UInt8} {p q n m : ℕ}

theorem length_read (h : p + n ≤ memory.length) : (read memory p n).length = n := by
  unfold read
  rw [List.length_take, List.length_drop]
  omega

@[simp] theorem read_zero (memory : List UInt8) (p : ℕ) : read memory p 0 = [] := List.take_zero

/-- A stretch in two parts. -/
theorem read_add (memory : List UInt8) (p n m : ℕ) :
    read memory p (n + m) = read memory p n ++ read memory (p + n) m := by
  unfold read
  rw [List.take_add, List.drop_drop]

theorem getElem?_read : (read memory p n)[m]? = if m < n then memory[p + m]? else none := by
  unfold read
  rw [List.getElem?_take, List.getElem?_drop]

theorem length_write (h : p + bytes.length ≤ memory.length) :
    (write memory p bytes).length = memory.length := by
  unfold write
  simp only [List.length_append, List.length_take, List.length_drop]
  omega

theorem getElem?_write (h : p ≤ memory.length) : (write memory p bytes)[m]? =
    if p ≤ m ∧ m < p + bytes.length then bytes[m - p]? else memory[m]? := by
  have htake : (memory.take p).length = p := by
    rw [List.length_take]
    omega
  unfold write
  rw [List.append_assoc]
  by_cases hbefore : m < p
  · rw [if_neg (by omega), List.getElem?_append_left (by omega), List.getElem?_take_of_lt hbefore]
  · rw [List.getElem?_append_right (by omega), htake]
    by_cases hinside : m < p + bytes.length
    · rw [if_pos ⟨by omega, hinside⟩, List.getElem?_append_left (by omega)]
    · rw [if_neg (by omega), List.getElem?_append_right (by omega), List.getElem?_drop]
      congr 1
      omega

/-- Two reads that agree byte by byte. -/
theorem read_congr {memory' : List UInt8} (h : ∀ i, p ≤ i → i < p + n → memory'[i]? = memory[i]?) :
    read memory' p n = read memory p n := by
  apply List.ext_getElem?
  intro i
  rw [getElem?_read, getElem?_read]
  split
  next hi => exact h (p + i) (by omega) (by omega)
  next => rfl

theorem read_write_self (h : p ≤ memory.length) :
    read (write memory p bytes) p bytes.length = bytes := by
  apply List.ext_getElem?
  intro i
  rw [getElem?_read, getElem?_write h]
  split
  next hi => rw [if_pos ⟨by omega, by omega⟩, Nat.add_sub_cancel_left]
  next hi => exact (List.getElem?_eq_none (by omega)).symm

/-- A stretch and the byte behind it. -/
theorem read_add_one (h : p + n < memory.length) :
    read memory p (n + 1) = read memory p n ++ [memory[p + n]] := by
  unfold read
  rw [List.take_add_one, List.getElem?_drop, List.getElem?_eq_getElem h]
  rfl

theorem getLast?_read (hn : 0 < n) (h : p + n ≤ memory.length) :
    (read memory p n).getLast? = memory[p + (n - 1)]? := by
  rw [List.getLast?_eq_getElem?, length_read h, getElem?_read, if_pos (by omega)]

/-! ## What stays -/

/-- The addresses of `n` bytes at `p`. -/
def Span (p n i : ℕ) : Prop := p ≤ i ∧ i < p + n

/-- Memory of the same size that differs at the touched addresses only. -/
structure Keeps (touched : ℕ → Prop) (memory memory' : List UInt8) : Prop where
  length : memory'.length = memory.length
  same : ∀ i, ¬touched i → memory'[i]? = memory[i]?

variable {touched : ℕ → Prop} {memory' : List UInt8}

theorem Keeps.refl (touched : ℕ → Prop) (memory : List UInt8) : Keeps touched memory memory :=
  ⟨rfl, fun _ _ => rfl⟩

theorem Keeps.trans {memory'' : List UInt8} (h : Keeps touched memory memory')
    (h' : Keeps touched memory' memory'') : Keeps touched memory memory'' :=
  ⟨h'.length.trans h.length, fun i hi => (h'.same i hi).trans (h.same i hi)⟩

theorem Keeps.mono {touched' : ℕ → Prop} (h : Keeps touched memory memory')
    (hsub : ∀ i, touched i → touched' i) : Keeps touched' memory memory' :=
  ⟨h.length, fun i hi => h.same i fun ht => hi (hsub i ht)⟩

/-- A stretch that is not touched reads as before. -/
theorem Keeps.read_eq (h : Keeps touched memory memory')
    (hfree : ∀ i, Span p n i → ¬touched i) : read memory' p n = read memory p n :=
  read_congr fun i hi hlt => h.same i (hfree i ⟨hi, hlt⟩)

theorem Span.of_le {q m i : ℕ} (h : Span q m i) (hlow : p ≤ q) (hhigh : q + m ≤ p + n) :
    Span p n i :=
  ⟨Nat.le_trans hlow h.1, Nat.lt_of_lt_of_le h.2 hhigh⟩

/-- Stretches that lie apart share no address. -/
theorem Apart.not_span {q m i : ℕ} (h : Apart p n q m) (hi : Span p n i) : ¬Span q m i := by
  rintro ⟨hlow, hhigh⟩
  have := hi.1
  have := hi.2
  rcases h with h | h
  · omega
  · omega

theorem keeps_write (h : p + bytes.length ≤ memory.length) :
    Keeps (Span p bytes.length) memory (write memory p bytes) := by
  refine ⟨length_write h, fun i hi => ?_⟩
  rw [getElem?_write (by omega)]
  exact if_neg hi

/-- A byte written behind a stretch. -/
theorem read_write_add_one (h : p + n < memory.length) (byte : UInt8) :
    read (write memory (p + n) [byte]) p (n + 1) = read memory p n ++ [byte] := by
  have hkeeps : Keeps (Span (p + n) 1) memory (write memory (p + n) [byte]) :=
    @keeps_write memory [byte] (p + n) h
  have hnew : read (write memory (p + n) [byte]) (p + n) 1 = [byte] :=
    @read_write_self memory [byte] (p + n) (Nat.le_of_lt h)
  rw [read_add, hkeeps.read_eq fun i hi => Apart.not_span (.inl (Nat.le_refl _)) hi, hnew]

end ByteMemory
