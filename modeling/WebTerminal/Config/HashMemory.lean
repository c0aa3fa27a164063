import WebTerminal.Config.KeyDerivation
import WebTerminal.Config.Load
import WebTerminal.Lib.ByteMemory

/-!
# The key derivation in memory

`hmac_sha256` and `pbkdf2_hmac_sha256` as they run: with pointers, with one
`mbedtls` context that is fed piece by piece and started again for the outer hash,
and with the buffer `U` that is message and result of the same call.  What the
callees can see is in memory: the arguments, `U` and `salt_block`.  The
other buffers are local values.

`hmac_sha256` reads its arguments before it writes, so its result is the one of
`hmacSha256` wherever `out` points.  The loops of `pbkdf2_hmac_sha256` keep the
password and the salt, and after `offset` bytes the output holds those of
the standard.
-/

set_option autoImplicit false

namespace WebTerminal

open ByteMemory

/-! ## The digest, piece by piece -/

/-- `mbedtls_md_context_t`: what was fed since the last start, `none` before the first
and after a finish. -/
abbrev MdContext := Option (List UInt8)

/-- After `mbedtls_md_init` and `mbedtls_md_setup`. -/
def mdSetup : MdContext := none

/-- `mbedtls_md_starts` -/
def mdStarts (_ : MdContext) : MdContext := some []

/-- `mbedtls_md_update` -/
def mdUpdate (bytes : List UInt8) (ctx : MdContext) : MdContext := ctx.map (· ++ bytes)

/-- `mbedtls_md_finish`, on a context that was started. -/
def mdFinish (sha256 : Digest) (ctx : MdContext) : Option (Vector UInt8 32 × MdContext) :=
  ctx.map fun fed => (sha256 fed, none)

/-- `for (i = 0; i < n; i++) buf[i] ^= src[i]` -/
def xorLoop (src : List UInt8) (n : ℕ) (buf : List UInt8) : List UInt8 :=
  (List.range n).foldl (fun buf i => buf.set i (buf.getD i 0 ^^^ src.getD i 0)) buf

section

variable (sha256 : Digest)

/-- `hmac_sha256` -/
def hmacSha256At (key keyLen data dataLen out : ℕ) (memory : List UInt8) :
    Option (List UInt8) := do
  let (key, keyLen) ←
    if sha256BlockSize < keyLen then do
      let ctx := mdUpdate (read memory key keyLen) (mdStarts mdSetup)
      let (tk, _) ← mdFinish sha256 ctx
      pure (tk.toList, sha256HashSize)
    else pure (read memory key keyLen, keyLen)
  let kIpad := xorLoop key keyLen (List.replicate sha256BlockSize 0x36)
  let kOpad := xorLoop key keyLen (List.replicate sha256BlockSize 0x5c)
  let ctx := mdUpdate (read memory data dataLen) (mdUpdate kIpad (mdStarts mdSetup))
  let (inner, ctx) ← mdFinish sha256 ctx
  let ctx := mdUpdate inner.toList (mdUpdate kOpad (mdStarts ctx))
  let (digest, _) ← mdFinish sha256 ctx
  pure (write memory out digest.toList)

/-- Where the two local buffers of `pbkdf2_hmac_sha256` are that it passes on. -/
structure Pbkdf2Frame where
  u : ℕ
  saltBlock : ℕ

variable (frame : Pbkdf2Frame) (password passwordLen saltLen iterations out outLen : ℕ)

/-- The loop over `U2..Uc`: `n` more rounds, with `T`. -/
def pbkdf2RoundsAt : ℕ → List UInt8 → List UInt8 → Option (List UInt8 × List UInt8)
  | 0, t, memory => some (t, memory)
  | n + 1, t, memory => do
      let memory ← hmacSha256At sha256 password passwordLen frame.u sha256HashSize frame.u memory
      pbkdf2RoundsAt n (xorLoop (read memory frame.u sha256HashSize) sha256HashSize t) memory

/-- The outer loop from `offset` on. -/
def pbkdf2LoopAt (block : UInt32) (offset : ℕ) (memory : List UInt8) : Option (List UInt8) :=
  if outLen ≤ offset then some memory
  else do
    let memory := write memory (frame.saltBlock + saltLen) (blockIndex block)
    let memory ←
      hmacSha256At sha256 password passwordLen frame.saltBlock (saltLen + 4) frame.u memory
    let t := read memory frame.u sha256HashSize
    let (t, memory) ← pbkdf2RoundsAt sha256 frame password passwordLen (iterations - 1) t memory
    let toCopy := min (outLen - offset) sha256HashSize
    pbkdf2LoopAt (block + 1) (offset + toCopy) (write memory (out + offset) (t.take toCopy))
termination_by outLen - offset
decreasing_by simp only [sha256HashSize]; omega

/-- `strlen`, of the string at `p`. -/
def strlenAt (memory : List UInt8) (p : ℕ) : ℕ := (ofBuffer (memory.drop p)).length

/-- `pbkdf2_hmac_sha256` -/
def pbkdf2HmacSha256At (salt : ℕ) (memory : List UInt8) : Option (List UInt8) :=
  pbkdf2LoopAt sha256 frame password (strlenAt memory password) saltLen iterations out outLen 1 0
    (write memory frame.saltBlock (read memory salt saltLen))

/-- `compute_hash` -/
def computeHashAt (salt hashOut : ℕ) (memory : List UInt8) : Option (List UInt8) :=
  pbkdf2HmacSha256At sha256 frame password configAuthSaltLen pbkdf2Iterations hashOut
    configAuthHashLen salt memory

end

/-! ## One call of hmac_sha256 -/

theorem getElem?_xorLoop (src buf : List UInt8) (n : ℕ) : ∀ i, (xorLoop src n buf)[i]? =
    if i < n then buf[i]?.map (· ^^^ src.getD i 0) else buf[i]? := by
  induction n with
  | zero => simp [xorLoop]
  | succ n ih =>
      intro i
      have hstep : xorLoop src (n + 1) buf =
          (xorLoop src n buf).set n ((xorLoop src n buf).getD n 0 ^^^ src.getD n 0) := by
        unfold xorLoop
        rw [List.range_succ, List.foldl_append, List.foldl_cons, List.foldl_nil]
      have hn : (xorLoop src n buf)[n]? = buf[n]? := by
        rw [ih n, if_neg (Nat.lt_irrefl n)]
      rw [hstep, List.getElem?_set, List.getD_eq_getElem?_getD, hn]
      by_cases hi : n = i
      · subst hi
        rw [if_pos rfl, if_pos (Nat.lt_succ_self n)]
        cases hbuf : buf[n]? with
        | none =>
            rw [hbuf] at hn
            rw [if_neg (Nat.not_lt.mpr (List.getElem?_eq_none_iff.mp hn))]
            rfl
        | some byte =>
            rw [hbuf] at hn
            rw [if_pos (List.getElem?_eq_some_iff.mp hn).1]
            rfl
      · rw [if_neg hi, ih i]
        exact if_congr (by omega) rfl rfl

theorem xorLoop_pad (fill : UInt8) {key : List UInt8} (hkey : key.length ≤ sha256BlockSize) :
    xorLoop key key.length (List.replicate sha256BlockSize fill) = hmacPad fill key := by
  apply List.ext_getElem?
  intro i
  unfold hmacPad
  rw [getElem?_xorLoop, List.getElem?_append, List.length_map]
  split
  next hi =>
    rw [List.getElem?_replicate, if_pos (by omega), List.getElem?_map,
      List.getElem?_eq_getElem hi, List.getD_eq_getElem?_getD, List.getElem?_eq_getElem hi]
    rfl
  next hi =>
    rw [List.getElem?_replicate, List.getElem?_replicate]
    exact if_congr (by omega) rfl rfl

theorem xorLoop_vector (t u : Vector UInt8 32) :
    xorLoop u.toList sha256HashSize t.toList = (t.zipWith (· ^^^ ·) u).toList := by
  apply List.ext_getElem?
  intro i
  rw [getElem?_xorLoop]
  by_cases hi : i < sha256HashSize
  · rw [if_pos hi]
    simp [hi]
  · rw [if_neg hi, List.getElem?_eq_none (by simpa using hi),
      List.getElem?_eq_none (by simpa using hi)]

/-- `hmac_sha256` leaves its result at `out` and changes nothing else, wherever `out`
points: the message and the key are read before. -/
theorem hmacSha256At_eq (sha256 : Digest) {key keyLen : ℕ} (data dataLen out : ℕ)
    {memory : List UInt8} (hkey : key + keyLen ≤ memory.length) :
    hmacSha256At sha256 key keyLen data dataLen out memory =
      some (write memory out
        (hmacSha256 sha256 (read memory key keyLen) (read memory data dataLen)).toList) := by
  have hlen := length_read hkey
  unfold hmacSha256At hmacSha256
  by_cases hlong : sha256BlockSize < keyLen
  · have hpad : ∀ fill, xorLoop (sha256 (read memory key keyLen)).toList sha256HashSize
        (List.replicate sha256BlockSize fill) =
          hmacPad fill (sha256 (read memory key keyLen)).toList := by
      intro fill
      have htk : (sha256 (read memory key keyLen)).toList.length = sha256HashSize :=
        Vector.length_toList
      rw [← xorLoop_pad fill (by rw [htk]; decide), htk]
    rw [if_pos hlong, if_pos (by rw [hlen]; exact hlong)]
    simp [mdFinish, mdUpdate, mdStarts, hpad]
  · have hpad : ∀ fill, xorLoop (read memory key keyLen) keyLen
        (List.replicate sha256BlockSize fill) = hmacPad fill (read memory key keyLen) := by
      intro fill
      rw [← xorLoop_pad fill (by omega), hlen]
    rw [if_neg hlong, if_neg (by rw [hlen]; exact hlong)]
    simp [mdFinish, mdUpdate, mdStarts, hpad]

/-! ## The loops of pbkdf2_hmac_sha256 -/

/-- The buffers of one call are inside memory and do not overlap. -/
structure Pbkdf2Frame.Separate (frame : Pbkdf2Frame) (password passwordLen saltLen out outLen : ℕ)
    (memory : List UInt8) : Prop where
  uIn : frame.u + sha256HashSize ≤ memory.length
  saltBlockIn : frame.saltBlock + (saltLen + 4) ≤ memory.length
  passwordIn : password + passwordLen ≤ memory.length
  outIn : out + outLen ≤ memory.length
  uSaltBlock : Apart frame.u sha256HashSize frame.saltBlock (saltLen + 4)
  uPassword : Apart frame.u sha256HashSize password passwordLen
  uOut : Apart frame.u sha256HashSize out outLen
  saltBlockPassword : Apart frame.saltBlock (saltLen + 4) password passwordLen
  saltBlockOut : Apart frame.saltBlock (saltLen + 4) out outLen
  outPassword : Apart out outLen password passwordLen

section

variable (sha256 : Digest) {frame : Pbkdf2Frame} (iterations : ℕ)
  {password passwordLen saltLen out outLen : ℕ} {memory : List UInt8}

theorem Pbkdf2Frame.Separate.of_length {memory' : List UInt8}
    (h : frame.Separate password passwordLen saltLen out outLen memory)
    (hlen : memory'.length = memory.length) :
    frame.Separate password passwordLen saltLen out outLen memory' :=
  { h with
    uIn := hlen ▸ h.uIn, saltBlockIn := hlen ▸ h.saltBlockIn, passwordIn := hlen ▸ h.passwordIn
    outIn := hlen ▸ h.outIn }

/-- A write of a hash to `U`. -/
theorem keeps_write_u (hu : frame.u + sha256HashSize ≤ memory.length) (hash : Vector UInt8 32) :
    Keeps (Span frame.u sha256HashSize) memory (write memory frame.u hash.toList) ∧
      read (write memory frame.u hash.toList) frame.u sha256HashSize = hash.toList := by
  have hlen : hash.toList.length = sha256HashSize := Vector.length_toList
  constructor
  · rw [← hlen]
    exact keeps_write (by rw [hlen]; exact hu)
  · conv_lhs => rw [← hlen]
    exact read_write_self (by omega)

/-- The rounds on `U` in place are those on its value. -/
theorem pbkdf2RoundsAt_eq (hu : frame.u + sha256HashSize ≤ memory.length)
    (hpassword : password + passwordLen ≤ memory.length)
    (hapart : Apart frame.u sha256HashSize password passwordLen) (n : ℕ) :
    ∀ {u : Vector UInt8 32} (t : Vector UInt8 32), read memory frame.u sha256HashSize = u.toList →
      ∃ memory', pbkdf2RoundsAt sha256 frame password passwordLen n t.toList memory =
          some ((pbkdf2Rounds sha256 (read memory password passwordLen) n u t).toList, memory') ∧
        Keeps (Span frame.u sha256HashSize) memory memory' := by
  induction n generalizing memory with
  | zero => exact fun t _ => ⟨memory, rfl, .refl _ _⟩
  | succ n ih =>
      intro u t hread
      obtain ⟨hkeeps, hself⟩ := keeps_write_u hu
        (hmacSha256 sha256 (read memory password passwordLen) u.toList)
      have hsame : read (write memory frame.u (hmacSha256 sha256
          (read memory password passwordLen) u.toList).toList) password passwordLen =
            read memory password passwordLen :=
        hkeeps.read_eq fun i hi hi' => by
          unfold Apart at hapart
          unfold Span at hi hi'
          omega
      obtain ⟨memory', hrun, hrest⟩ := ih (by rw [hkeeps.length]; exact hu)
        (by rw [hkeeps.length]; exact hpassword)
        (t.zipWith (· ^^^ ·) (hmacSha256 sha256 (read memory password passwordLen) u.toList)) hself
      refine ⟨memory', ?_, hkeeps.trans hrest⟩
      unfold pbkdf2RoundsAt pbkdf2Rounds
      rw [hmacSha256At_eq sha256 _ _ _ hpassword, hread]
      simp only [Option.bind_eq_bind, Option.bind_some]
      rw [hself, xorLoop_vector, hrun, hsame]

/-- What the outer loop may touch from `offset` on. -/
def LoopTouches (frame : Pbkdf2Frame) (saltLen out outLen offset i : ℕ) : Prop :=
  Span frame.u sha256HashSize i ∨ Span frame.saltBlock (saltLen + 4) i ∨
    Span (out + offset) (outLen - offset) i

/-- One turn of the outer loop up to the copy to `out`: `T` is the next block, and
nothing was touched but `U` and the block number behind the salt. -/
theorem Pbkdf2Frame.Separate.turn {pw salt : List UInt8} (block : UInt32)
    (h : frame.Separate password passwordLen saltLen out outLen memory)
    (hpw : read memory password passwordLen = pw)
    (hsalt : read memory frame.saltBlock saltLen = salt) :
    ∃ memory', (do
        let memory ← hmacSha256At sha256 password passwordLen frame.saltBlock (saltLen + 4) frame.u
          (write memory (frame.saltBlock + saltLen) (blockIndex block))
        pbkdf2RoundsAt sha256 frame password passwordLen (iterations - 1)
          (read memory frame.u sha256HashSize) memory) =
        some ((pbkdf2Block sha256 pw salt iterations block).toList, memory') ∧
      Keeps (fun i => Span frame.u sha256HashSize i ∨ Span (frame.saltBlock + saltLen) 4 i)
        memory memory' := by
  have hblock : (blockIndex block).length = 4 := rfl
  have hin := h.saltBlockIn
  -- the number of the block goes behind the salt
  have hkeeps₁ : Keeps (Span (frame.saltBlock + saltLen) 4) memory
      (write memory (frame.saltBlock + saltLen) (blockIndex block)) :=
    keeps_write (show frame.saltBlock + saltLen + (blockIndex block).length ≤ memory.length by
      rw [hblock]; omega)
  have hdata : read (write memory (frame.saltBlock + saltLen) (blockIndex block)) frame.saltBlock
      (saltLen + 4) = salt ++ blockIndex block := by
    rw [read_add, hkeeps₁.read_eq fun i hi hi' => by unfold Span at hi hi'; omega, hsalt]
    exact congrArg _ (read_write_self (by omega))
  have hpw₁ : read (write memory (frame.saltBlock + saltLen) (blockIndex block)) password
      passwordLen = pw := by
    have hfree : ∀ i, Span password passwordLen i → ¬Span (frame.saltBlock + saltLen) 4 i :=
      fun i hi hi' => h.saltBlockPassword.not_span (hi'.of_le (by omega) (by omega)) hi
    rw [hkeeps₁.read_eq hfree, hpw]
  have hsep₁ := h.of_length hkeeps₁.length
  generalize write memory (frame.saltBlock + saltLen) (blockIndex block) = memory₁ at *
  rw [hmacSha256At_eq sha256 _ _ _ hsep₁.passwordIn, hdata, hpw₁]
  -- the first digest goes to `U`, and the password stands apart from it
  obtain ⟨hkeeps₂, hu⟩ := keeps_write_u hsep₁.uIn (hmacSha256 sha256 pw (salt ++ blockIndex block))
  have hpw₂ : read (write memory₁ frame.u
      (hmacSha256 sha256 pw (salt ++ blockIndex block)).toList) password passwordLen = pw := by
    rw [hkeeps₂.read_eq fun i hi hi' => h.uPassword.not_span hi' hi, hpw₁]
  have hsep₂ := hsep₁.of_length hkeeps₂.length
  obtain ⟨memory', hrun, hkeeps₃⟩ := pbkdf2RoundsAt_eq sha256 hsep₂.uIn
    hsep₂.passwordIn hsep₂.uPassword (iterations - 1)
      (hmacSha256 sha256 pw (salt ++ blockIndex block))
    hu
  refine ⟨memory', ?_, ?_⟩
  · simp only [Option.bind_eq_bind, Option.bind_some]
    rw [hu, hrun, hpw₂]
    rfl
  · exact (hkeeps₁.mono fun i hi => .inr hi).trans
      ((hkeeps₂.mono fun i hi => .inl hi).trans (hkeeps₃.mono fun i hi => .inl hi))

/-- The copy to `out` that ends a turn leaves the password and the salt for the next one. -/
theorem Pbkdf2Frame.Separate.copy {pw salt bytes memory₁ : List UInt8} {offset : ℕ}
    (h : frame.Separate password passwordLen saltLen out outLen memory)
    (hpw : read memory password passwordLen = pw)
    (hsalt : read memory frame.saltBlock saltLen = salt)
    (hturn : Keeps (fun i => Span frame.u sha256HashSize i ∨ Span (frame.saltBlock + saltLen) 4 i)
      memory memory₁) (hfits : offset + bytes.length ≤ outLen) :
    Keeps (Span (out + offset) bytes.length) memory₁ (write memory₁ (out + offset) bytes) ∧
      read (write memory₁ (out + offset) bytes) password passwordLen = pw ∧
        read (write memory₁ (out + offset) bytes) frame.saltBlock saltLen = salt := by
  have hin := h.outIn
  have hkeeps : Keeps (Span (out + offset) bytes.length) memory₁
      (write memory₁ (out + offset) bytes) := keeps_write (by rw [hturn.length]; omega)
  have hcopied : ∀ i, Span (out + offset) bytes.length i → Span out outLen i :=
    fun i hi => hi.of_le (Nat.le_add_right _ _) (by omega)
  have hnumber : ∀ i, Span (frame.saltBlock + saltLen) 4 i →
      Span frame.saltBlock (saltLen + 4) i :=
    fun i hi => hi.of_le (Nat.le_add_right _ _) (Nat.add_assoc _ _ _).le
  have hinput : ∀ i, Span frame.saltBlock saltLen i → Span frame.saltBlock (saltLen + 4) i :=
    fun i hi => hi.of_le le_rfl (by omega)
  refine ⟨hkeeps, ?_, ?_⟩
  · rw [hkeeps.read_eq, hturn.read_eq, hpw]
    · rintro i hi (hu | hblock)
      · exact h.uPassword.not_span hu hi
      · exact h.saltBlockPassword.not_span (hnumber i hblock) hi
    · exact fun i hi hi' => h.outPassword.not_span (hcopied i hi') hi
  · rw [hkeeps.read_eq, hturn.read_eq, hsalt]
    · rintro i hi (hu | hblock)
      · exact h.uSaltBlock.not_span hu (hinput i hi)
      · exact absurd hblock.1 (not_le.mpr hi.2)
    · exact fun i hi hi' => h.saltBlockOut.not_span (hinput i hi) (hcopied i hi')

/-- From `offset` on the outer loop writes the rest of the derived key. -/
theorem pbkdf2LoopAt_eq {pw salt : List UInt8} : ∀ (left offset : ℕ), offset + left = outLen →
    ∀ (block : UInt32) {memory : List UInt8},
      frame.Separate password passwordLen saltLen out outLen memory →
      read memory password passwordLen = pw → read memory frame.saltBlock saltLen = salt →
        ∃ memory', pbkdf2LoopAt sha256 frame password passwordLen saltLen iterations out outLen
            block offset memory = some memory' ∧
          Keeps (LoopTouches frame saltLen out outLen offset) memory memory' ∧
          read memory' (out + offset) left = pbkdf2Loop sha256 pw salt iterations block left := by
  intro left
  induction left using Nat.strong_induction_on with
  | _ left ih =>
      intro offset hoffset block memory hsep hpw hsalt
      unfold pbkdf2LoopAt pbkdf2Loop
      by_cases hleft : left = 0
      · rw [if_pos (by omega), if_pos hleft, hleft]
        exact ⟨memory, rfl, .refl _ _, read_zero _ _⟩
      · rw [if_neg (by omega), if_neg hleft]
        have hpos : 0 < left := Nat.pos_of_ne_zero hleft
        have hcopy : min (outLen - offset) sha256HashSize = min left sha256HashSize := by
          rw [show outLen - offset = left by omega]
        obtain ⟨memory₁, hturn, hkeeps₁⟩ := Pbkdf2Frame.Separate.turn sha256 iterations
          block hsep hpw hsalt
        -- the copy of `T`
        have hin := hsep.outIn
        generalize hbytes : (pbkdf2Block sha256 pw salt iterations block).toList.take
          (min left sha256HashSize) = bytes at *
        have hlen : bytes.length = min left sha256HashSize := by
          rw [← hbytes, List.length_take, Vector.length_toList]
          simp only [sha256HashSize]
          omega
        have hfits : offset + bytes.length ≤ outLen := by omega
        obtain ⟨hkeeps₂, hpw₂, hsalt₂⟩ := hsep.copy hpw hsalt hkeeps₁ hfits
        have hself : read (write memory₁ (out + offset) bytes) (out + offset)
            (min left sha256HashSize) = bytes := by
          rw [← hlen]
          exact read_write_self (by rw [hkeeps₁.length]; omega)
        rw [hlen] at hkeeps₂
        have hcopied : ∀ i, Span (out + offset) (min left sha256HashSize) i → Span out outLen i :=
          fun i hi => hi.of_le (Nat.le_add_right _ _) (by omega)
        obtain ⟨memory', hrun, hkeeps₃, hrest⟩ := ih (left - sha256HashSize)
          (by simp only [sha256HashSize]; omega) (offset + min left sha256HashSize)
          (by omega) (block + 1) (hsep.of_length (hkeeps₂.length.trans hkeeps₁.length)) hpw₂ hsalt₂
        refine ⟨memory', ?_, ?_, ?_⟩
        · simp only [Option.bind_eq_bind, Option.bind_eq_some_iff] at hturn ⊢
          obtain ⟨memory₀, hhmac, hrounds⟩ := hturn
          exact ⟨memory₀, hhmac, _, hrounds, by rw [hcopy, hbytes]; exact hrun⟩
        · refine (hkeeps₁.mono fun i hi => ?_).trans ((hkeeps₂.mono fun i hi => ?_).trans
            (hkeeps₃.mono fun i hi => ?_))
          all_goals
            unfold LoopTouches
            simp only [LoopTouches, Span, sha256HashSize] at hi ⊢
            omega
        · have hsplit : read memory' (out + offset) left =
              read memory' (out + offset) (min left sha256HashSize) ++
                read memory' (out + offset + min left sha256HashSize) (left - sha256HashSize) := by
            rw [← read_add, show min left sha256HashSize + (left - sha256HashSize) = left by omega]
          have hfirst : read memory' (out + offset) (min left sha256HashSize) = bytes := by
            rw [hkeeps₃.read_eq, hself]
            rintro i hi (hu | hblock | hlater)
            · exact hsep.uOut.not_span hu (hcopied i hi)
            · exact hsep.saltBlockOut.not_span hblock (hcopied i hi)
            · exact absurd hlater.1 (not_le.mpr (by rw [← Nat.add_assoc]; exact hi.2))
          rw [hsplit, hfirst, Nat.add_assoc, hrest]

/-- What a call leaves: the derived key at `out`, and everything else as it was but the
two buffers of the call. -/
structure Derived (frame : Pbkdf2Frame) (saltLen out : ℕ) (key memory memory' : List UInt8) :
    Prop where
  derived : read memory' out key.length = key
  keeps : Keeps (LoopTouches frame saltLen out key.length 0) memory memory'

theorem pbkdf2HmacSha256At_eq {salt : ℕ}
    (h : frame.Separate password (strlenAt memory password) saltLen out outLen memory)
    (hsalt : salt + saltLen ≤ memory.length) :
    ∃ memory', pbkdf2HmacSha256At sha256 frame password saltLen iterations out outLen salt memory =
        some memory' ∧
      Derived frame saltLen out (pbkdf2HmacSha256 sha256 (ofBuffer (memory.drop password))
        (read memory salt saltLen) iterations outLen) memory memory' := by
  have hcopied := length_read hsalt
  have hpassword : read memory password (strlenAt memory password) =
      ofBuffer (memory.drop password) :=
    (List.prefix_iff_eq_take.mp (List.takeWhile_prefix _)).symm
  unfold pbkdf2HmacSha256At
  generalize read memory salt saltLen = bytes at *
  subst hcopied
  have hin := h.saltBlockIn
  have hkeeps₁ : Keeps (Span frame.saltBlock bytes.length) memory
      (write memory frame.saltBlock bytes) := keeps_write (by omega)
  have hpw : read (write memory frame.saltBlock bytes) password (strlenAt memory password) =
      ofBuffer (memory.drop password) := by
    have hinput : ∀ i, Span frame.saltBlock bytes.length i →
        Span frame.saltBlock (bytes.length + 4) i :=
      fun i hi => hi.of_le le_rfl (by omega)
    rw [hkeeps₁.read_eq fun i hi hi' => h.saltBlockPassword.not_span (hinput i hi') hi, hpassword]
  obtain ⟨memory', hrun, hkeeps₂, hkey⟩ := pbkdf2LoopAt_eq sha256 iterations
    outLen 0 (Nat.zero_add outLen) 1 (h.of_length hkeeps₁.length) hpw
    (read_write_self (by omega))
  have hlen : (pbkdf2HmacSha256 sha256 (ofBuffer (memory.drop password)) bytes iterations
      outLen).length = outLen := AppConfig.length_pbkdf2Loop sha256 _ _ _ _ _
  refine ⟨memory', hrun, ?_, ?_⟩
  · rw [hlen]
    exact hkey
  · rw [hlen]
    refine (hkeeps₁.mono fun i hi => ?_).trans hkeeps₂
    simp only [LoopTouches, Span] at hi ⊢
    omega

end

/-- The call `hmac_sha256(key, key_len, data, data_len, out)` does what the standard
says, wherever the three buffers are. -/
def HmacIsStandard (sha256 : Digest) : Prop :=
  ∀ (memory : List UInt8) (key keyLen data dataLen out : ℕ), key + keyLen ≤ memory.length →
    hmacSha256At sha256 key keyLen data dataLen out memory =
      some (write memory out (Pbkdf2.hmac sha256 sha256BlockSize (read memory key keyLen)
        (read memory data dataLen)).toList)

/-- The call `pbkdf2_hmac_sha256(password, salt, salt_len, iterations, out, out_len)` does
what the standard says, for buffers that do not overlap. -/
def Pbkdf2IsStandard (sha256 : Digest) : Prop :=
  ∀ (memory : List UInt8) (frame : Pbkdf2Frame)
    (password salt saltLen iterations out outLen : ℕ), 1 ≤ iterations →
    frame.Separate password (strlenAt memory password) saltLen out outLen memory →
    salt + saltLen ≤ memory.length →
      ∃ memory', pbkdf2HmacSha256At sha256 frame password saltLen iterations out outLen salt
          memory = some memory' ∧
        Derived frame saltLen out (Pbkdf2.derive
          (Pbkdf2.hmac sha256 sha256BlockSize (ofBuffer (memory.drop password)))
          (read memory salt saltLen) iterations outLen) memory memory'

/-- **The key derivation of `config.c` is HMAC and PBKDF2.** -/
theorem key_derivation_is_standard (sha256 : Digest) :
    HmacIsStandard sha256 ∧ Pbkdf2IsStandard sha256 := by
  constructor
  · intro memory key keyLen data dataLen out hkey
    rw [hmacSha256At_eq sha256 data dataLen out hkey, hmacSha256_eq]
  · intro memory frame password salt saltLen iterations out outLen _ hsep hsalt
    rw [← pbkdf2HmacSha256_eq]
    exact pbkdf2HmacSha256At_eq sha256 iterations hsep hsalt

/-- A memory with a password, a salt and room for a key and the buffers of the call. -/
def demoMemory : List UInt8 :=
  cstr "admin" ++ 0 :: List.replicate 16 7 ++ List.replicate 128 0

/-- Where they are. -/
def demoFrame : Pbkdf2Frame := ⟨64, 96⟩

/-- A password of five characters and a salt of sixteen bytes. -/
theorem key_derivation_is_standard_admin : ∃ memory',
    pbkdf2HmacSha256At (fun _ => Vector.replicate 32 0) demoFrame 0 16 2 22 40 6 demoMemory =
        some memory' ∧
      Derived demoFrame 16 22 (Pbkdf2.derive
        (Pbkdf2.hmac (fun _ => Vector.replicate 32 0) sha256BlockSize
          (ofBuffer (demoMemory.drop 0))) (read demoMemory 6 16) 2 40) demoMemory memory' := by
  refine (key_derivation_is_standard fun _ => Vector.replicate 32 0).2 demoMemory demoFrame 0 6 16 2
    22 40 (by decide) ?_ (by decide +kernel)
  have hlen : strlenAt demoMemory 0 = 5 := by decide +kernel
  rw [hlen]
  constructor <;> decide +kernel

/-- `compute_hash` is PBKDF2 with the parameters of the flashing tool. -/
theorem computeHashAt_eq (sha256 : Digest) {frame : Pbkdf2Frame} {password salt hashOut : ℕ}
    {memory : List UInt8}
    (hsep : frame.Separate password (strlenAt memory password) configAuthSaltLen hashOut
      configAuthHashLen memory) (hsalt : salt + configAuthSaltLen ≤ memory.length) :
    ∃ memory', computeHashAt sha256 frame password salt hashOut memory = some memory' ∧
      read memory' hashOut configAuthHashLen = computeHash sha256 (ofBuffer (memory.drop password))
        (read memory salt configAuthSaltLen) := by
  obtain ⟨memory', hrun, hderived, -⟩ := pbkdf2HmacSha256At_eq sha256
    pbkdf2Iterations hsep hsalt
  refine ⟨memory', hrun, ?_⟩
  have hlen := AppConfig.length_computeHash sha256 (ofBuffer (memory.drop password))
    (read memory salt configAuthSaltLen)
  unfold computeHash at hlen ⊢
  rw [hlen] at hderived
  exact hderived

end WebTerminal
