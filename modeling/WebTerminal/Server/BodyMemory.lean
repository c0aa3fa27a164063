import WebTerminal.Lib.ByteMemory
import WebTerminal.Server.PowerRequest

/-!
# A body in memory

`read_body` as it runs: `httpd_req_recv` writes each piece at a pointer that moves on,
the count of the bytes to go is kept apart from it, and the NUL comes last.  The state is
the memory, in which the caller's buffer is `bufLen` bytes at `buf`.

What is in the buffer when the loop ends is the body that arrived, so that it does not
depend on the pieces it arrived in; and `readBody`, which the handlers are modelled
with, says what is there.

Lengths are numbers here.  A buffer of the caller is an object of the C program, so that
a body which fits it has a length an `int` can hold.
-/

set_option autoImplicit false

namespace WebTerminal

open ByteMemory Proc

/-- The loop of `read_body` with `remaining` bytes to go to `buf`: where the pointer ends,
or `none` if the connection is lost. -/
def recvLoop {ε : Type} (env : Env) : ℕ → ℕ → ℕ → Proc (List UInt8) ε Stop (Option ℕ)
  | 0, buf, _ => return some buf
  | fuel + 1, buf, remaining =>
      if remaining = 0 then return some buf
      else do
        let received ← ask env.recv
        match received with
        | .bytes data =>
            let data := data.take remaining
            if data = [] then return none
            else do
              update fun memory => write memory buf data
              recvLoop env fuel (buf + data.length) (remaining - data.length)
        | _ => return none

/-- `read_body`, with what it returns. -/
def readBodyAt {ε : Type} (env : Env) (contentLen buf bufLen : ℕ) :
    Proc (List UInt8) ε Stop ℤ :=
  if contentLen = 0 then return 0
  else if bufLen ≤ contentLen then return -1
  else do
    let ended ← recvLoop env contentLen buf contentLen
    match ended with
    | none => return -1
    | some buf => do
        update fun memory => write memory buf [0]
        return contentLen

/-- What `read_body` leaves at `buf`, and returns. -/
def Body.Left (buf : ℕ) (memory : List UInt8) (returned : ℤ) : Body → Prop
  | .absent => returned = 0
  | .failed => returned = -1
  | .complete bytes => returned = bytes.length ∧ read memory buf (bytes.length + 1) = bytes ++ [0]

/-- What `read_body` owes its caller, for a request that declares `len` bytes and calls
of `httpd_req_recv` that are answered from question `k` on. -/
structure BodyRead {ε : Type} (env : Env) (len buf bufLen k : ℕ) (memory : List UInt8)
    (returned : ℤ) (v : World (List UInt8) ε) : Prop where
  absent : returned = 0 ↔ len = 0
  whole : 0 < len ∧ returned = len ↔
    0 < len ∧ len < bufLen ∧ ∃ body m, Arrives env k len body m
  content : ∀ body m, 0 < len → len < bufLen → Arrives env k len body m →
    read v.state buf (len + 1) = body ++ [0]
  otherwise : returned ≠ 0 → returned ≠ len → returned = -1
  inside : ByteMemory.Keeps (Span buf bufLen) memory v.state
  calls : v.asked ≤ k + len

/-! ## One call -/

section

variable {env : Env} {k n m : ℕ} {body : List UInt8}

/-- A body has the length that was declared, and comes in at least a byte at a time. -/
theorem Arrives.length_eq (h : Arrives env k n body m) : body.length = n ∧ m ≤ k + n := by
  induction h with
  | done k => exact ⟨rfl, Nat.le_refl k⟩
  | @piece k n m data rest _ _ hsome _ ih =>
      have hpos := List.length_pos_iff.mpr hsome
      have hle : (data.take n).length ≤ n := List.length_take_le n data
      rw [List.length_append]
      omega

/-! ## The loop -/

variable {ε : Type} {shown : List ε} {fuel buf : ℕ} {memory : List UInt8}

/-- The rounds of a body that arrives leave it in the buffer. -/
theorem recvLoop_arrives (h : Arrives env k n body m) (hfuel : n ≤ fuel)
    (hroom : buf + n ≤ memory.length) :
    ∃ memory', recvLoop env fuel buf n ⟨memory, k, shown⟩ =
        .ok (some (buf + n)) ⟨memory', m, shown⟩ ∧
      read memory' buf n = body ∧ ByteMemory.Keeps (Span buf n) memory memory' := by
  induction h generalizing fuel buf memory with
  | done k =>
      refine ⟨memory, ?_, read_zero memory buf, .refl _ memory⟩
      cases fuel <;> rfl
  | @piece k n m data rest hgoing hrecv hsome hrest ih =>
      obtain ⟨fuel, rfl⟩ := Nat.exists_eq_succ_of_ne_zero (by omega : fuel ≠ 0)
      have hpos := List.length_pos_iff.mpr hsome
      have hle : (data.take n).length ≤ n := List.length_take_le n data
      rw [recvLoop, if_neg hgoing, bind_ok (ask_apply _ _), hrecv]
      dsimp only
      rw [if_neg hsome, bind_ok (update_apply _ _)]
      generalize hpiece : data.take n = piece at hpos hle ih hrest ⊢
      obtain ⟨memory', hrun, hread, hkeeps⟩ :=
        @ih fuel (buf + piece.length) (write memory buf piece)
        (by omega) (by rw [length_write (by omega)]; omega)
      have hpointer : buf + piece.length + (n - piece.length) = buf + n := by omega
      refine ⟨memory', hpointer ▸ hrun, ?_, ?_⟩
      · -- the rest goes behind the piece, which stays
        have hstays : read memory' buf piece.length = piece := by
          rw [hkeeps.read_eq fun i hi => Apart.not_span (.inl (Nat.le_refl _)) hi,
            read_write_self (by omega)]
        rw [← Nat.add_sub_cancel' hle, read_add, hstays, hread]
      · have hwrite : ByteMemory.Keeps (Span buf n) memory (write memory buf piece) :=
          (keeps_write (by omega)).mono fun i hi => hi.of_le (Nat.le_refl _) (by omega)
        exact hwrite.trans (hkeeps.mono fun i hi => hi.of_le (Nat.le_add_right _ _) (by omega))

/-- A connection that breaks ends the loop, with nothing written behind the buffer. -/
theorem recvLoop_lost : ∀ {fuel n k buf : ℕ} {memory : List UInt8}, n ≤ fuel →
    (∀ body m, ¬Arrives env k n body m) → buf + n ≤ memory.length →
    ∃ memory' m, recvLoop env fuel buf n ⟨memory, k, shown⟩ = .ok none ⟨memory', m, shown⟩ ∧
      ByteMemory.Keeps (Span buf n) memory memory' ∧ m ≤ k + n := by
  intro fuel
  induction fuel with
  | zero =>
      intro n k buf memory hle hlost hroom
      obtain rfl : n = 0 := by omega
      exact absurd (.done k) (hlost [] k)
  | succ fuel ih =>
      intro n k buf memory hle hlost hroom
      by_cases hgoing : n = 0
      · subst hgoing
        exact absurd (.done k) (hlost [] k)
      · rw [recvLoop, if_neg hgoing, bind_ok (ask_apply _ _)]
        rcases recv_cases env k n with ⟨data, hrecv, hsome⟩ | hnothing
        · have hpos := List.length_pos_iff.mpr hsome
          have hlen : (data.take n).length ≤ n := List.length_take_le n data
          -- what is left of the body does not arrive either
          have hrest : ∀ rest m,
              ¬Arrives env (k + 1) (n - (data.take n).length) rest m := fun rest m h =>
            hlost _ m ((arrives_piece_iff hgoing hrecv hsome).mpr ⟨rest, rfl, h⟩)
          rw [hrecv]
          dsimp only
          rw [if_neg hsome, bind_ok (update_apply _ _)]
          generalize hpiece : data.take n = piece at hpos hlen hrest ⊢
          obtain ⟨memory', m, hrun, hkeeps, hm⟩ := @ih (n - piece.length) (k + 1)
            (buf + piece.length) (write memory buf piece) (by omega) hrest
            (by rw [length_write (by omega)]; omega)
          have hwrite : ByteMemory.Keeps (Span buf n) memory (write memory buf piece) :=
            (keeps_write (by omega)).mono fun i hi => hi.of_le (Nat.le_refl _) (by omega)
          exact ⟨memory', m, hrun,
            hwrite.trans (hkeeps.mono fun i hi => hi.of_le (Nat.le_add_right _ _) (by omega)),
            by omega⟩
        · refine ⟨memory, k + 1, ?_, .refl _ memory, by omega⟩
          cases hrecv : env.recv k with
          | bytes data =>
              dsimp only
              rw [if_pos (hnothing data hrecv)]
              rfl
          | timeout => rfl
          | failed => rfl

/-! ## The function -/

/-- How `read_body` ends: without a call, with the body, or with an error. -/
theorem readBodyAt_cases (env : Env) (k len buf bufLen : ℕ) (memory : List UInt8) (shown : List ε)
    (hbuf : buf + bufLen ≤ memory.length) :
    (len = 0 ∧ readBodyAt env len buf bufLen ⟨memory, k, shown⟩ = .ok 0 ⟨memory, k, shown⟩) ∨
    (len ≠ 0 ∧ len < bufLen ∧ ∃ body m memory', Arrives env k len body m ∧
      readBodyAt env len buf bufLen ⟨memory, k, shown⟩ = .ok len ⟨memory', m, shown⟩ ∧
        read memory' buf (len + 1) = body ++ [0] ∧
          ByteMemory.Keeps (Span buf bufLen) memory memory') ∨
    (len ≠ 0 ∧ (∀ body m, Arrives env k len body m → bufLen ≤ len) ∧ ∃ memory' m,
      readBodyAt env len buf bufLen ⟨memory, k, shown⟩ = .ok (-1) ⟨memory', m, shown⟩ ∧
        ByteMemory.Keeps (Span buf bufLen) memory memory' ∧ m ≤ k + len) := by
  unfold readBodyAt
  by_cases hnone : len = 0
  · exact .inl ⟨hnone, by rw [if_pos hnone]; rfl⟩
  · rw [if_neg hnone]
    by_cases hlong : bufLen ≤ len
    · refine .inr (.inr ⟨hnone, fun _ _ _ => hlong, memory, k, ?_, .refl _ memory, by omega⟩)
      rw [if_pos hlong]
      rfl
    · rw [if_neg hlong]
      by_cases hall : ∃ body m, Arrives env k len body m
      · obtain ⟨body, m, harrives⟩ := hall
        obtain ⟨memory', hrun, hread, hkeeps⟩ :=
          @recvLoop_arrives env k len m body ε shown len buf memory harrives le_rfl (by omega)
        have hlength := hkeeps.length
        -- the NUL goes behind the body, still inside the buffer
        have hnul : ByteMemory.Keeps (Span (buf + len) 1) memory' (write memory' (buf + len) [0]) :=
          @keeps_write memory' [0] (buf + len) (by rw [List.length_singleton]; omega)
        refine .inr (.inl ⟨hnone, by omega, body, m, write memory' (buf + len) [0], harrives,
          ?_, ?_, ?_⟩)
        · rw [bind_ok hrun]
          rfl
        · have hbody : read (write memory' (buf + len) [0]) buf len = body := by
            rw [hnul.read_eq fun i hi => Apart.not_span (.inl (Nat.le_refl _)) hi, hread]
          have hend : read (write memory' (buf + len) [0]) (buf + len) 1 = [0] :=
            @read_write_self memory' [0] (buf + len) (by omega)
          rw [read_add, hbody, hend]
        · exact (hkeeps.mono fun i hi => hi.of_le le_rfl (by omega)).trans
            (hnul.mono fun i hi => hi.of_le (Nat.le_add_right _ _) (by omega))
      · obtain ⟨memory', m, hrun, hkeeps, hm⟩ :=
          @recvLoop_lost env ε shown len len k buf memory le_rfl
          (fun body m h => hall ⟨body, m, h⟩) (by omega)
        refine .inr (.inr ⟨hnone, fun body m h => absurd ⟨body, m, h⟩ hall, memory', m, ?_,
          hkeeps.mono fun i hi => hi.of_le le_rfl (by omega), hm⟩)
        rw [bind_ok hrun]
        rfl

/-- `readBody` says what is in the buffer. -/
theorem readBody_left {σ δ : Type} (req : Request) (w : World σ δ) {bufLen : ℕ}
    (hbuf : buf + bufLen ≤ memory.length) {returned : ℤ} {v : World (List UInt8) ε}
    (hrun : readBodyAt env req.contentLen buf bufLen ⟨memory, w.asked, shown⟩ = .ok returned v) :
    ∃ body m, readBody env req bufLen w = .ok body { w with asked := m } ∧
      body.Left buf v.state returned := by
  rcases readBodyAt_cases env w.asked req.contentLen buf bufLen memory shown hbuf with
    ⟨hnone, hat⟩ | ⟨hsome, hfits, body, m, memory', harrives, hat, hread, -⟩ |
      ⟨hsome, hlost, memory', m, hat, -⟩
  · obtain ⟨rfl, rfl⟩ := EStateM.Result.ok.inj (hrun.symm.trans hat)
    exact ⟨.absent, w.asked, by rw [readBody, if_pos hnone]; rfl, rfl⟩
  · obtain ⟨rfl, rfl⟩ := EStateM.Result.ok.inj (hrun.symm.trans hat)
    rcases readBody_cases env req bufLen w with ⟨h, -⟩ | ⟨-, -, body', m', harrives', hbody⟩ |
      ⟨-, hlost, -⟩
    · exact absurd h hsome
    · obtain ⟨rfl, -⟩ := harrives.unique harrives'
      rw [← harrives'.length_eq.1] at hread ⊢
      exact ⟨_, m', hbody, rfl, hread⟩
    · exact absurd (hlost body m harrives) (by omega)
  · obtain ⟨rfl, rfl⟩ := EStateM.Result.ok.inj (hrun.symm.trans hat)
    rcases readBody_cases env req bufLen w with ⟨h, -⟩ | ⟨-, hfits, body, m', harrives, -⟩ |
      ⟨-, -, m', hbody⟩
    · exact absurd h hsome
    · exact absurd (hlost body m' harrives) (by omega)
    · exact ⟨.failed, m', hbody, rfl⟩

/-- Two connections that deliver one body are read alike. -/
theorem readBody_same {σ δ : Type} {env' : Env} {req : Request} {m' : ℕ} (bufLen : ℕ)
    {w w' : World σ δ} (h : Arrives env w.asked req.contentLen body m)
    (h' : Arrives env' w'.asked req.contentLen body m') :
    ∃ input n n', readBody env req bufLen w = .ok input { w with asked := n } ∧
      readBody env' req bufLen w' = .ok input { w' with asked := n' } := by
  rcases readBody_cases env req bufLen w with ⟨hnone, hrun⟩ |
    ⟨hsome, hfits, body₁, m₁, harrives, hrun⟩ | ⟨hsome, hlost, m₁, hrun⟩
  · exact ⟨.absent, w.asked, w'.asked, hrun, by rw [readBody, if_pos hnone]; rfl⟩
  · obtain ⟨rfl, -⟩ := h.unique harrives
    rcases readBody_cases env' req bufLen w' with ⟨hnone, -⟩ |
      ⟨-, -, body₂, m₂, harrives', hrun'⟩ | ⟨-, hlost, -⟩
    · exact absurd hnone hsome
    · obtain ⟨rfl, -⟩ := h'.unique harrives'
      exact ⟨_, m₁, m₂, hrun, hrun'⟩
    · exact absurd (hlost _ _ h') (by omega)
  · have hlong := hlost body m h
    rcases readBody_cases env' req bufLen w' with ⟨hnone, -⟩ | ⟨-, hfits, -⟩ | ⟨-, -, m₂, hrun'⟩
    · exact absurd hnone hsome
    · omega
    · exact ⟨.failed, m₁, m₂, hrun, hrun'⟩

end

/-- **Reading a body does not depend on its segmentation.**  Into a buffer of any length,
with any answers to `httpd_req_recv`, `read_body` does what it owes its caller, and the
body the handlers go on with is the one in the buffer.  Two connections that deliver one
body, in whatever pieces, give every handler the same input. -/
theorem body_reading_unsegmented {σ δ ε : Type} (env : Env) (req : Request) {buf bufLen : ℕ}
    {memory : List UInt8} (hbuf : buf + bufLen ≤ memory.length) (shown : List ε) (w : World σ δ) :
    (∃ returned v,
      readBodyAt env req.contentLen buf bufLen ⟨memory, w.asked, shown⟩ = .ok returned v ∧
        BodyRead env req.contentLen buf bufLen w.asked memory returned v ∧
          ∃ body m, readBody env req bufLen w = .ok body { w with asked := m } ∧
            body.Left buf v.state returned) ∧
    ∀ (env' : Env) (w' : World σ δ) (body : List UInt8) (m m' : ℕ),
      Arrives env w.asked req.contentLen body m → Arrives env' w'.asked req.contentLen body m' →
        ∃ input n n', readBody env req bufLen w = .ok input { w with asked := n } ∧
          readBody env' req bufLen w' = .ok input { w' with asked := n' } := by
  refine ⟨?_, fun env' w' body m m' h h' => readBody_same bufLen h h'⟩
  rcases readBodyAt_cases env w.asked req.contentLen buf bufLen memory shown hbuf with
    ⟨hnone, hrun⟩ | ⟨hsome, hfits, body, m, memory', harrives, hrun, hread, hkeeps⟩ |
      ⟨hsome, hlost, memory', m, hrun, hkeeps, hm⟩
  · refine ⟨_, _, hrun, ?_, readBody_left req w hbuf hrun⟩
    exact ⟨by simp [hnone], by omega, fun _ _ hpos => by omega, fun h => absurd rfl h,
      .refl _ memory, Nat.le_add_right _ _⟩
  · refine ⟨_, _, hrun, ?_, readBody_left req w hbuf hrun⟩
    refine ⟨by omega, ⟨fun h => ⟨h.1, hfits, body, m, harrives⟩, fun h => ⟨h.1, rfl⟩⟩, ?_,
      fun _ h => absurd rfl h, hkeeps, harrives.length_eq.2⟩
    intro body' m' _ _ harrives'
    obtain ⟨rfl, -⟩ := harrives.unique harrives'
    exact hread
  · refine ⟨_, _, hrun, ?_, readBody_left req w hbuf hrun⟩
    refine ⟨by omega, ⟨fun h => by omega, fun ⟨_, hfits, body', m', h⟩ => ?_⟩, ?_, fun _ _ => rfl,
      hkeeps, hm⟩
    · exact absurd (hlost body' m' h) (by omega)
    · intro body' m' _ hfits h
      exact absurd (hlost body' m' h) (by omega)

/-- A connection that delivers the bytes 1, 2, 3, ... one at a time. -/
def demoPieces : Env :=
  { demoEnv 1 [] with recv := fun k => .bytes [UInt8.ofNat (k + 1)] }

theorem demoPieces_arrives : Arrives demoPieces 0 3 [1, 2, 3] 3 := by
  have hthird : Arrives demoPieces 2 1 [3] 3 :=
    @Arrives.piece _ 2 1 3 [3] [] (by decide) rfl (by decide) (.done 3)
  have hsecond : Arrives demoPieces 1 2 [2, 3] 3 :=
    @Arrives.piece _ 1 2 3 [2] [3] (by decide) rfl (by decide) hthird
  exact @Arrives.piece _ 0 3 3 [1] [2, 3] (by decide) rfl (by decide) hsecond

/-- Three bytes, one at a time and all at once, in a buffer of four bytes at address 2. -/
theorem body_reading_unsegmented_pieces :
    (∃ v : World (List UInt8) Effect,
      readBodyAt demoPieces 3 2 4 ⟨List.replicate 8 255, 0, []⟩ = .ok 3 v ∧
        read v.state 2 4 = [1, 2, 3, 0] ∧ v.state[6]? = some 255) ∧
      ∃ input n n', readBody demoPieces (demoRequest .login 3) 4 demoSession.board.start =
          .ok input { demoSession.board.start with asked := n } ∧
        readBody (demoEnv 1 [1, 2, 3]) (demoRequest .login 3) 4 demoSession.board.start =
          .ok input { demoSession.board.start with asked := n' } := by
  obtain ⟨⟨returned, v, hrun, hread, -⟩, hsame⟩ := @body_reading_unsegmented Board Effect Effect
    demoPieces (demoRequest .login 3) 2 4 (List.replicate 8 255) (by decide) []
    demoSession.board.start
  have harrives : Arrives demoPieces 0 3 [1, 2, 3] 3 := demoPieces_arrives
  obtain ⟨m, hwhole⟩ := demoEnv_arrives 1 [1, 2, 3] 0
  obtain rfl : returned = 3 :=
    (hread.whole.mpr ⟨by decide, by decide, [1, 2, 3], 3, harrives⟩).2
  refine ⟨⟨v, hrun, hread.content _ _ (by decide) (by decide) harrives, ?_⟩,
    hsame _ _ [1, 2, 3] 3 m harrives hwhole⟩
  exact hread.inside.same 6 (by rintro ⟨-, h⟩; omega)

end WebTerminal
