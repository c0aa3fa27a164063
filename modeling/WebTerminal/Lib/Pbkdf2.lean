import Mathlib.Algebra.Group.Nat.Defs
import Mathlib.Data.List.Basic
import Mathlib.Logic.Function.Iterate

/-!
# PBKDF2 over HMAC

The key derivation PBKDF2 of RFC 8018 over the keyed hash HMAC of RFC 2104, for any
digest of `n` bytes.  `hmac`, `block` and `derive` are the definitions of the
standards; the rules below them unroll a loop that computes the links of a block one
after the other, and a loop that writes the blocks one after the other.
-/

set_option autoImplicit false

namespace Pbkdf2

variable {n : ℕ}

/-! ## The standards -/

/-- The key HMAC works with: hashed if it is longer than a block, padded with zeros. -/
def keyBlock (digest : List UInt8 → Vector UInt8 n) (blockSize : ℕ) (key : List UInt8) :
    List UInt8 :=
  let key := if blockSize < key.length then (digest key).toList else key
  key ++ List.replicate (blockSize - key.length) 0

/-- `HMAC(key, message)` -/
def hmac (digest : List UInt8 → Vector UInt8 n) (blockSize : ℕ) (key message : List UInt8) :
    Vector UInt8 n :=
  let block := keyBlock digest blockSize key
  let inner := digest (block.map (0x36 ^^^ ·) ++ message)
  digest (block.map (0x5c ^^^ ·) ++ inner.toList)

/-- `INT(i)`, the block number as four bytes, the highest first. -/
def int32 (i : ℕ) : List UInt8 :=
  [UInt8.ofNat (i / 2 ^ 24), UInt8.ofNat (i / 2 ^ 16), UInt8.ofNat (i / 2 ^ 8), UInt8.ofNat i]

variable (prf : List UInt8 → Vector UInt8 n)

/-- `U_{k + 1}`, when `U_1` is `first`. -/
def link (first : Vector UInt8 n) (k : ℕ) : Vector UInt8 n := (fun u => prf u.toList)^[k] first

/-- `t` xored with `U_2` to `U_{count + 1}`. -/
def xorLinks (first t : Vector UInt8 n) (count : ℕ) : Vector UInt8 n :=
  ((List.range count).map fun k => link prf first (k + 1)).foldl (Vector.zipWith (· ^^^ ·)) t

/-- `F`: the block number `i`. -/
def block (salt : List UInt8) (iterations i : ℕ) : Vector UInt8 n :=
  xorLinks prf (prf (salt ++ int32 i)) (prf (salt ++ int32 i)) (iterations - 1)

/-- `len` bytes of the blocks from number `i` on. -/
def stream (salt : List UInt8) (iterations i len : ℕ) : List UInt8 :=
  ((List.range ((len + n - 1) / n)).flatMap fun j =>
    (block prf salt iterations (i + j)).toList).take len

/-- The derived key. -/
def derive (salt : List UInt8) (iterations len : ℕ) : List UInt8 := stream prf salt iterations 1 len

/-! ## Loops -/

/-- One turn of the loop over the links. -/
theorem xorLinks_succ (first t : Vector UInt8 n) (count : ℕ) :
    xorLinks prf first t (count + 1) =
      xorLinks prf (prf first.toList) (t.zipWith (· ^^^ ·) (prf first.toList)) count := by
  have hlink : ∀ k, link prf first (k + 1) = link prf (prf first.toList) k :=
    fun k => Function.iterate_succ_apply _ k first
  unfold xorLinks
  rw [List.range_succ_eq_map, List.map_cons, List.foldl_cons, hlink, List.map_map]
  rfl

@[simp] theorem stream_zero (salt : List UInt8) (iterations i : ℕ) :
    stream prf salt iterations i 0 = [] := List.take_zero

/-- One turn of the loop over the blocks. -/
theorem stream_of_pos (salt : List UInt8) (iterations i : ℕ) {len : ℕ} (hn : 0 < n)
    (hlen : 0 < len) :
    stream prf salt iterations i len = (block prf salt iterations i).toList.take len ++
      stream prf salt iterations (i + 1) (len - n) := by
  have hcount : (len + n - 1) / n = (len - n + n - 1) / n + 1 := by
    rcases Nat.le_total n len with hle | hle
    · rw [show len + n - 1 = len - n + n - 1 + n by omega, Nat.add_div_right _ hn]
    · rw [show len - n + n - 1 = n - 1 by omega, Nat.div_eq_of_lt (by omega : n - 1 < n),
        show len + n - 1 = len - 1 + n by omega, Nat.add_div_right _ hn,
        Nat.div_eq_of_lt (by omega : len - 1 < n)]
  unfold stream
  rw [hcount, List.range_succ_eq_map, List.flatMap_cons, List.take_append, List.flatMap_map,
    Vector.length_toList]
  congr 2
  refine List.flatMap_congr fun j _ => ?_
  rw [Nat.succ_eq_add_one, Nat.add_comm j 1, ← Nat.add_assoc]

end Pbkdf2
