import WebTerminal.Config.Hash
import WebTerminal.Lib.Pbkdf2

/-!
# The key derivation is PBKDF2

`hmac_sha256` and `pbkdf2_hmac_sha256` of `config.c` compute what the standards
define, for every key, salt, number of iterations and length.
-/

set_option autoImplicit false

namespace WebTerminal

variable (sha256 : Digest)

/-- The keyed hash the standard derives keys with. -/
abbrev hmac (key : List UInt8) : List UInt8 → Vector UInt8 32 :=
  Pbkdf2.hmac sha256 sha256BlockSize key

theorem hmacPad_eq (fill : UInt8) (key : List UInt8) :
    hmacPad fill key =
      (key ++ List.replicate (sha256BlockSize - key.length) 0).map (fill ^^^ ·) := by
  unfold hmacPad
  rw [List.map_append, List.map_replicate, UInt8.xor_zero]

theorem hmacSha256_eq (key data : List UInt8) :
    hmacSha256 sha256 key data = hmac sha256 key data := by
  unfold hmacSha256
  simp only [hmacPad_eq]
  rfl

theorem pbkdf2Rounds_eq (password : List UInt8) (count : ℕ) : ∀ u t : Vector UInt8 32,
    pbkdf2Rounds sha256 password count u t = Pbkdf2.xorLinks (hmac sha256 password) u t count := by
  induction count with
  | zero => intro u t; rfl
  | succ count ih =>
      intro u t
      unfold pbkdf2Rounds
      rw [ih, Pbkdf2.xorLinks_succ, hmacSha256_eq]

theorem blockIndex_ofNat (i : ℕ) : blockIndex (UInt32.ofNat i) = Pbkdf2.int32 i := by
  unfold blockIndex Pbkdf2.int32
  simp only [List.cons.injEq, and_true]
  refine ⟨?_, ?_, ?_, ?_⟩ <;> apply UInt8.toNat_inj.mp
  · simp [UInt32.toNat_shiftRight, Nat.shiftRight_eq_div_pow]
    omega
  · simp [UInt32.toNat_shiftRight, Nat.shiftRight_eq_div_pow]
    omega
  · simp [UInt32.toNat_shiftRight, Nat.shiftRight_eq_div_pow]
    omega
  · simp

theorem pbkdf2Block_eq (password salt : List UInt8) (iterations i : ℕ) :
    pbkdf2Block sha256 password salt iterations (UInt32.ofNat i) =
      Pbkdf2.block (hmac sha256 password) salt iterations i := by
  unfold pbkdf2Block Pbkdf2.block
  rw [pbkdf2Rounds_eq, hmacSha256_eq, blockIndex_ofNat]

theorem pbkdf2Loop_eq (password salt : List UInt8) (iterations : ℕ) : ∀ (left i : ℕ),
    pbkdf2Loop sha256 password salt iterations (UInt32.ofNat i) left =
      Pbkdf2.stream (hmac sha256 password) salt iterations i left := by
  intro left
  induction left using Nat.strong_induction_on with
  | _ left ih =>
      intro i
      unfold pbkdf2Loop
      by_cases hleft : left = 0
      · rw [if_pos hleft, hleft, Pbkdf2.stream_zero]
      · have hnext : UInt32.ofNat i + 1 = UInt32.ofNat (i + 1) := by
          simp [UInt32.ofNat_add]
        rw [if_neg hleft, hnext, ih _ (by simp only [sha256HashSize]; omega), pbkdf2Block_eq,
          Pbkdf2.stream_of_pos _ _ _ _ (by decide) (Nat.pos_of_ne_zero hleft)]
        congr 1
        exact List.take_eq_take_iff.mpr (by simp)

/-- `pbkdf2_hmac_sha256` is PBKDF2. -/
theorem pbkdf2HmacSha256_eq (password : CString) (salt : List UInt8) (iterations outLen : ℕ) :
    pbkdf2HmacSha256 sha256 password salt iterations outLen =
      Pbkdf2.derive (hmac sha256 password) salt iterations outLen :=
  pbkdf2Loop_eq sha256 password salt iterations outLen 1

end WebTerminal
