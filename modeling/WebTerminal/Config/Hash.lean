import Mathlib.Data.List.Basic
import WebTerminal.Base.CString

/-!
# Password hashing

The key derivation of `config.c`, written out over the `mbedtls` digest.
SHA-256 itself is the parameter `sha256`; no proof looks into it.
-/

set_option autoImplicit false

namespace WebTerminal

/-- The SHA-256 that `mbedtls` provides. -/
abbrev Digest := List UInt8 → Vector UInt8 32

/-- `SHA256_BLOCK_SIZE` -/
abbrev sha256BlockSize : ℕ := 64

/-- `SHA256_HASH_SIZE` -/
abbrev sha256HashSize : ℕ := 32

/-- `PBKDF2_ITERATIONS` -/
abbrev pbkdf2Iterations : ℕ := 10000

/-- `CONFIG_AUTH_HASH_LEN` -/
abbrev configAuthHashLen : ℕ := 32

variable (sha256 : Digest)

/-- `memset(pad, fill, SHA256_BLOCK_SIZE)` and the loop that xors the key in. -/
def hmacPad (fill : UInt8) (key : List UInt8) : List UInt8 :=
  key.map (fill ^^^ ·) ++ List.replicate (sha256BlockSize - key.length) fill

/-- `hmac_sha256` -/
def hmacSha256 (key data : List UInt8) : Vector UInt8 32 :=
  let key := if sha256BlockSize < key.length then (sha256 key).toList else key
  let inner := sha256 (hmacPad 0x36 key ++ data)
  sha256 (hmacPad 0x5c key ++ inner.toList)

/-- The four bytes appended to the salt. -/
def blockIndex (block : UInt32) : List UInt8 :=
  [(block >>> 24).toUInt8, (block >>> 16).toUInt8, (block >>> 8).toUInt8, block.toUInt8]

/-- The loop over `U2..Uc`: `n` more rounds on `U` and `T`. -/
def pbkdf2Rounds (password : List UInt8) : ℕ → Vector UInt8 32 → Vector UInt8 32 → Vector UInt8 32
  | 0, _, t => t
  | n + 1, u, t =>
      let u := hmacSha256 sha256 password u.toList
      pbkdf2Rounds password n u (t.zipWith (· ^^^ ·) u)

/-- One turn of the outer loop of `pbkdf2_hmac_sha256`: the block `T`. -/
def pbkdf2Block (password salt : List UInt8) (iterations : ℕ) (block : UInt32) :
    Vector UInt8 32 :=
  let u := hmacSha256 sha256 password (salt ++ blockIndex block)
  pbkdf2Rounds sha256 password (iterations - 1) u u

/-- The outer loop of `pbkdf2_hmac_sha256`, with `left` bytes of output to go. -/
def pbkdf2Loop (password salt : List UInt8) (iterations : ℕ) (block : UInt32) (left : ℕ) :
    List UInt8 :=
  if left = 0 then []
  else
    (pbkdf2Block sha256 password salt iterations block).toList.take (min left sha256HashSize) ++
      pbkdf2Loop password salt iterations (block + 1) (left - sha256HashSize)
termination_by left
decreasing_by simp only [sha256HashSize]; omega

/-- `pbkdf2_hmac_sha256` -/
def pbkdf2HmacSha256 (password : CString) (salt : List UInt8) (iterations outLen : ℕ) :
    List UInt8 :=
  pbkdf2Loop sha256 password salt iterations 1 outLen

/-- `compute_hash` -/
def computeHash (password : CString) (salt : List UInt8) : List UInt8 :=
  pbkdf2HmacSha256 sha256 password salt pbkdf2Iterations configAuthHashLen

/-- `compute_hash_legacy` -/
def computeHashLegacy (password : CString) (salt : List UInt8) : List UInt8 :=
  (sha256 (salt ++ password)).toList

/-- `constant_time_compare`: the bytes are xored and the differences or-ed
together. -/
def constantTimeCompare (a b : List UInt8) (len : ℕ) : Bool :=
  (List.zipWith (· ^^^ ·) (a.take len) (b.take len)).foldl (· ||| ·) 0 == 0

theorem foldl_or_xor_self (bytes : List UInt8) :
    (List.zipWith (· ^^^ ·) bytes bytes).foldl (· ||| ·) 0 = 0 := by
  induction bytes with
  | nil => rfl
  | cons byte bytes ih => simpa using ih

/-- A hash is accepted against itself. -/
theorem constantTimeCompare_self (hash : List UInt8) (len : ℕ) :
    constantTimeCompare hash hash len = true := by
  unfold constantTimeCompare
  rw [foldl_or_xor_self]
  rfl

end WebTerminal
