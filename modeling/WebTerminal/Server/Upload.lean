import WebTerminal.Server.PowerRequest

/-!
# Firmware uploads

`handle_ota` copies the body of the request into the other partition and makes it the
boot partition.  What it does is the list of its calls into the server and the driver,
each with its answer; `Answered` says that the answers are those of the environment and
that `httpd_req_recv` hands out no more than the buffer holds and the request has left.

A run ends in one of six ways:

```text
no partition                                  400
begin refused                                 400
rounds, a broken or stalled connection
  or a write refused, abort                   400
rounds to the last byte, end refused          400
  "     "  "   "    "  , end, boot refused    400
  "     "  "   "    "  , end, boot, restart
```
-/

set_option autoImplicit false

namespace WebTerminal

open Proc

/-- A call of `handle_ota` with its answer. -/
inductive OtaCall
  /-- `esp_ota_get_next_update_partition` -/
  | partition (found : Bool)
  /-- `esp_ota_begin` -/
  | begin (accepted : Bool)
  /-- `httpd_req_recv` got these bytes, none from a closed connection -/
  | received (data : List UInt8)
  /-- `HTTPD_SOCK_ERR_TIMEOUT` -/
  | timeout
  /-- another error of `httpd_req_recv` -/
  | broken
  /-- `esp_ota_write` -/
  | write (data : List UInt8) (accepted : Bool)
  /-- `esp_ota_end` -/
  | close (accepted : Bool)
  /-- `esp_ota_abort` -/
  | abort
  /-- `esp_ota_set_boot_partition` -/
  | setBoot (accepted : Bool)
  /-- `esp_restart` -/
  | restart
  deriving DecidableEq

namespace OtaCall

/-- What the world outside sees of a call. -/
def effect? : OtaCall → Option Effect
  | begin _ => some .otaBegin
  | write data _ => some (.otaWrite data)
  | close _ => some .otaEnd
  | abort => some .otaAbort
  | setBoot _ => some .otaSetBootPartition
  | restart => some .restart
  | partition _ | received _ | timeout | broken => none

/-- A call of `httpd_req_recv`. -/
def isRecv : OtaCall → Bool
  | received _ | timeout | broken => true
  | _ => false

/-- A call that gives the handle back. -/
def closes : OtaCall → Bool
  | close _ | abort => true
  | _ => false

/-- A call in the loop. -/
def inLoop : OtaCall → Bool
  | received _ | timeout | broken | write _ _ => true
  | _ => false

/-- The bytes of the body that came in. -/
def receivedBytes (calls : List OtaCall) : List UInt8 :=
  calls.flatMap fun
    | received data => data
    | _ => []

/-- The bytes the partition was written with. -/
def writtenBytes (calls : List OtaCall) : List UInt8 :=
  calls.flatMap fun
    | write data true => data
    | _ => []

end OtaCall

open OtaCall

/-- From question `k` on, when `total` bytes of `len` are in, these calls get the answers
of the environment. -/
inductive Answered (env : Env) (len : ℕ) : ℕ → ℕ → List OtaCall → Prop
  | nil (k total : ℕ) : Answered env len k total []
  | partition {k total : ℕ} {calls : List OtaCall} (h : Answered env len (k + 1) total calls) :
      Answered env len k total (.partition (env.found k) :: calls)
  | begin {k total : ℕ} {calls : List OtaCall} (h : Answered env len (k + 1) total calls) :
      Answered env len k total (.begin (decide (env.err k = .ok)) :: calls)
  | received {k total : ℕ} {raw data : List UInt8} {calls : List OtaCall}
      (hrecv : env.recv k = .bytes raw) (hdata : data = raw.take (min otaBufLen (len - total)))
      (h : Answered env len (k + 1) (total + data.length) calls) :
      Answered env len k total (.received data :: calls)
  | timeout {k total : ℕ} {calls : List OtaCall} (hrecv : env.recv k = .timeout)
      (h : Answered env len (k + 1) total calls) : Answered env len k total (.timeout :: calls)
  | broken {k total : ℕ} {calls : List OtaCall} (hrecv : env.recv k = .failed)
      (h : Answered env len (k + 1) total calls) : Answered env len k total (.broken :: calls)
  | write {k total : ℕ} {calls : List OtaCall} (data : List UInt8)
      (h : Answered env len (k + 1) total calls) :
      Answered env len k total (.write data (decide (env.err k = .ok)) :: calls)
  | close {k total : ℕ} {calls : List OtaCall} (h : Answered env len (k + 1) total calls) :
      Answered env len k total (.close (decide (env.err k = .ok)) :: calls)
  | abort {k total : ℕ} {calls : List OtaCall} (h : Answered env len k total calls) :
      Answered env len k total (.abort :: calls)
  | setBoot {k total : ℕ} {calls : List OtaCall} (h : Answered env len (k + 1) total calls) :
      Answered env len k total (.setBoot (decide (env.err k = .ok)) :: calls)
  | restart {k total : ℕ} {calls : List OtaCall} (h : Answered env len k total calls) :
      Answered env len k total (.restart :: calls)

/-- The rounds of the loop wrote `len` bytes: the ones that came in. -/
structure Wrote (len : ℕ) (rounds : List OtaCall) : Prop where
  accepted : ∀ data, .write data false ∉ rounds
  same : writtenBytes rounds = receivedBytes rounds
  whole : (receivedBytes rounds).length = len

/-- The upload is complete and booted. -/
def UploadComplete (len : ℕ) (calls : List OtaCall) : Prop :=
  ∃ rounds, Wrote len rounds ∧ (∀ call ∈ rounds, call.inLoop = true) ∧
    calls = .partition true :: .begin true :: (rounds ++ [.close true, .setBoot true, .restart])

/-- How `handle_ota` ends. -/
inductive UploadEnds (len : ℕ) : List OtaCall → Stop → Prop
  | noPartition : UploadEnds len [.partition false]
      (.respond (.error 400 "No OTA partition available"))
  | refused : UploadEnds len [.partition true, .begin false]
      (.respond (.error 400 "OTA begin failed"))
  | lost {rounds : List OtaCall} (hrounds : ∀ call ∈ rounds, call.inLoop = true) :
      UploadEnds len (.partition true :: .begin true :: (rounds ++ [.abort]))
        (.respond (.error 400 "OTA write failed"))
  | invalid {rounds : List OtaCall} (hrounds : ∀ call ∈ rounds, call.inLoop = true) :
      UploadEnds len (.partition true :: .begin true :: (rounds ++ [.close false]))
        (.respond (.error 400 "OTA validation failed"))
  | unbootable {rounds : List OtaCall} (hrounds : ∀ call ∈ rounds, call.inLoop = true) :
      UploadEnds len (.partition true :: .begin true :: (rounds ++ [.close true, .setBoot false]))
        (.respond (.error 400 "Failed to set boot partition"))
  | booted {rounds : List OtaCall} (hrounds : ∀ call ∈ rounds, call.inLoop = true)
      (hwrote : Wrote len rounds) :
      UploadEnds len
        (.partition true :: .begin true :: (rounds ++ [.close true, .setBoot true, .restart]))
        .restart

/-- What holds of the calls of every run whose questions start at `k`. -/
structure UploadRun (env : Env) (len k : ℕ) (calls : List OtaCall) : Prop where
  answered : Answered env len k 0 calls
  /-- the fifth timeout in a row is the last -/
  patient : ¬List.replicate 6 .timeout <:+: calls
  recvs : calls.countP OtaCall.isRecv ≤ 5 * len

/-! ## Timeouts in a row -/

/-- A run of equal elements is not begun before a different one. -/
theorem infix_replicate_of_ne {α : Type} {a b : α} (hne : b ≠ a) {n : ℕ} :
    ∀ {k : ℕ} {l : List α}, k < n → List.replicate n a <:+: List.replicate k a ++ b :: l →
      List.replicate n a <:+: l := by
  intro k
  induction k with
  | zero =>
      intro l hk h
      rcases List.infix_cons_iff.mp h with hprefix | hinfix
      · obtain ⟨n, rfl⟩ := Nat.exists_eq_succ_of_ne_zero hk.ne'
        rw [List.replicate_succ] at hprefix
        exact absurd (List.cons_prefix_cons.mp hprefix).1.symm hne
      · exact hinfix
  | succ k ih =>
      intro l hk h
      rw [List.replicate_succ, List.cons_append] at h
      rcases List.infix_cons_iff.mp h with hprefix | hinfix
      · -- the prefix reaches as far as the other element
        have hat := hprefix.getElem (i := k + 1) (by simpa using hk)
        simp at hat
        exact absurd hat.symm hne
      · exact ih (by omega) hinfix

/-! ## The loop

A round gets bytes and writes them, or waits.  `Rounds` is what is known of the rounds
from one on: `timeouts` have come in a row when `total` bytes are in. -/

structure Rounds (env : Env) (len k total timeouts : ℕ) (failed : Bool) (rounds : List OtaCall)
    (m : ℕ) : Prop where
  inLoop : ∀ call ∈ rounds, call.inLoop = true
  answered : ∀ rest, Answered env len m (total + (receivedBytes rounds).length) rest →
    Answered env len k total (rounds ++ rest)
  wrote : failed = false → Wrote (len - total) rounds
  patient : ∀ rest, .timeout ∉ rest →
    ¬List.replicate 6 .timeout <:+: List.replicate timeouts .timeout ++ (rounds ++ rest)
  recvs : rounds.countP OtaCall.isRecv ≤ 5 * (len - total) - timeouts

section

variable {env : Env} {req : Request} {k total timeouts m : ℕ} {failed : Bool}
  {rounds : List OtaCall}

/-- Too few timeouts to make six in a row. -/
theorem patient_of_count {calls : List OtaCall} (h : calls.count .timeout < 6) :
    ¬List.replicate 6 .timeout <:+: calls := by
  intro hinfix
  have hcount := hinfix.sublist.count_le .timeout
  rw [List.count_replicate_self] at hcount
  omega

/-- Before six timeouts there is nothing else. -/
theorem patient_cons {call : OtaCall} {calls : List OtaCall} (hcall : call ≠ .timeout)
    (htimeouts : timeouts < 6) (h : ¬List.replicate 6 .timeout <:+: calls) :
    ¬List.replicate 6 .timeout <:+: List.replicate timeouts .timeout ++ call :: calls :=
  fun hinfix => h (infix_replicate_of_ne hcall htimeouts hinfix)

theorem patient_cons_call {call : OtaCall} {calls : List OtaCall} (hcall : call ≠ .timeout)
    (h : ¬List.replicate 6 .timeout <:+: calls) : ¬List.replicate 6 .timeout <:+: call :: calls :=
  @patient_cons 0 call calls hcall (by omega) h

namespace Rounds

variable {len : ℕ}

/-- All bytes are in. -/
theorem done (htimeouts : timeouts < 5) (hfull : len ≤ total) :
    Rounds env len k total timeouts false [] k where
  inLoop := by simp
  answered := fun rest h => h
  wrote := fun _ => ⟨by simp, rfl, by simp [receivedBytes]; omega⟩
  patient := fun rest hrest => patient_of_count (by
    rw [List.nil_append, List.count_append, List.count_replicate_self,
      List.count_eq_zero.mpr hrest]
    omega)
  recvs := Nat.zero_le _

/-- The last round of a loop that fails. -/
theorem last (hrounds : ∀ call ∈ rounds, call.inLoop = true) (hroom : total < len)
    (htimeouts : timeouts < 5) (hwaits : rounds.count .timeout ≤ 1)
    (hrecvs : rounds.countP OtaCall.isRecv ≤ 1)
    (hanswered : ∀ rest, Answered env len m (total + (receivedBytes rounds).length) rest →
      Answered env len k total (rounds ++ rest)) :
    Rounds env len k total timeouts true rounds m where
  inLoop := hrounds
  answered := hanswered
  wrote := fun h => nomatch h
  patient := fun rest hrest => patient_of_count (by
    rw [List.count_append, List.count_append, List.count_replicate_self,
      List.count_eq_zero.mpr hrest]
    omega)
  recvs := by omega

/-- A timeout that is waited out. -/
theorem wait (hrecv : env.recv k = .timeout) (hroom : total < len) (htimeouts : timeouts + 1 < 5)
    (h : Rounds env len (k + 1) total (timeouts + 1) failed rounds m) :
    Rounds env len k total timeouts failed (.timeout :: rounds) m where
  inLoop := List.forall_mem_cons.mpr ⟨rfl, h.inLoop⟩
  answered := fun rest hrest => .timeout hrecv (h.answered rest hrest)
  wrote := fun hfailed => by
    obtain ⟨haccepted, hsame, hwhole⟩ := h.wrote hfailed
    exact ⟨fun data hmem => haccepted data (by simpa using hmem), hsame, hwhole⟩
  patient := fun rest hrest => by
    have hnone := h.patient rest hrest
    rwa [List.replicate_succ' (n := timeouts), List.append_assoc] at hnone
  recvs := by
    have := h.recvs
    rw [List.countP_cons_of_pos rfl]
    omega

/-- Bytes that are received and written. -/
theorem progress {raw data : List UInt8} (hrecv : env.recv k = .bytes raw)
    (hdata : data = raw.take (min otaBufLen (len - total))) (hsome : data ≠ [])
    (haccepted : env.err (k + 1) = .ok) (htimeouts : timeouts < 5)
    (h : Rounds env len (k + 2) (total + data.length) 0 failed rounds m) :
    Rounds env len k total timeouts failed (.received data :: .write data true :: rounds) m where
  inLoop := List.forall_mem_cons.mpr ⟨rfl, List.forall_mem_cons.mpr ⟨rfl, h.inLoop⟩⟩
  answered := fun rest hrest => by
    have hbytes : (receivedBytes (.received data :: .write data true :: rounds)).length =
        data.length + (receivedBytes rounds).length := by
      simp [receivedBytes]
    rw [hbytes, ← Nat.add_assoc] at hrest
    have hwrite := Answered.write (k := k + 1) data (h.answered rest hrest)
    rw [haccepted, decide_eq_true rfl] at hwrite
    exact .received hrecv hdata hwrite
  wrote := fun hfailed => by
    obtain ⟨hno, hsame, hwhole⟩ := h.wrote hfailed
    have hle : data.length ≤ len - total := by
      rw [hdata, List.length_take]
      omega
    refine ⟨fun data' hmem => hno data' (by simpa using hmem), ?_, ?_⟩
    · exact congrArg (data ++ ·) hsame
    · have hbytes : (receivedBytes (.received data :: .write data true :: rounds)).length =
          data.length + (receivedBytes rounds).length := by
        simp [receivedBytes]
      omega
  patient := fun rest hrest =>
    patient_cons (by simp) (by omega) (patient_cons_call (by simp)
      (h.patient rest hrest))
  recvs := by
    have hpos := List.length_pos_iff.mpr hsome
    have hle : data.length ≤ len - total := by
      rw [hdata, List.length_take]
      omega
    have hcount := h.recvs
    rw [List.countP_cons_of_pos rfl, List.countP_cons_of_neg (by simp [OtaCall.isRecv])]
    omega

end Rounds

/-- The loop makes its rounds.  The fuel lasts: a byte costs five rounds at most, four
timeouts and the round that gets it. -/
theorem otaLoop_rounds (env : Env) (req : Request) : ∀ (fuel total timeouts : ℕ),
    total ≤ req.contentLen → timeouts < 5 → 5 * (req.contentLen - total) ≤ fuel + timeouts →
    ∀ w : World Board Effect,
      ∃ rounds failed m, Rounds env req.contentLen w.asked total timeouts failed rounds m ∧
        otaLoop env req fuel total timeouts w = .ok failed
          { w with asked := m, shown := w.shown ++ rounds.filterMap OtaCall.effect? } := by
  intro fuel
  induction fuel with
  | zero =>
      intro total timeouts hle htimeouts hfuel w
      exact ⟨[], false, w.asked, .done htimeouts (by omega), by simp [otaLoop]⟩
  | succ fuel ih =>
      intro total timeouts hle htimeouts hfuel w
      unfold otaLoop
      by_cases hfull : req.contentLen ≤ total
      · rw [if_pos hfull]
        exact ⟨[], false, w.asked, .done htimeouts hfull, by simp⟩
      · rw [if_neg hfull, bind_ok (ask_apply _ _)]
        have hroom : total < req.contentLen := by omega
        cases hrecv : env.recv w.asked with
        | timeout =>
            dsimp only
            by_cases hpatient : timeouts + 1 < 5
            · rw [if_pos hpatient]
              -- one of the five timeouts and one round are spent
              obtain ⟨rounds, failed, m, hrounds, hrun⟩ := ih total (timeouts + 1) hle hpatient
                (by omega) { w with asked := w.asked + 1 }
              exact ⟨.timeout :: rounds, failed, m, hrounds.wait hrecv hroom hpatient, hrun⟩
            · rw [if_neg hpatient]
              -- the fifth in a row ends the loop
              exact ⟨[.timeout], true, w.asked + 1, .last (by simp [OtaCall.inLoop]) hroom htimeouts
                (by simp) (by simp [OtaCall.isRecv]) (fun rest h => .timeout hrecv h),
                by simp [OtaCall.effect?]⟩
        | failed =>
            exact ⟨[.broken], true, w.asked + 1, .last (by simp [OtaCall.inLoop]) hroom htimeouts
              (by simp) (by simp [OtaCall.isRecv]) (fun rest h => .broken hrecv h),
              by simp [OtaCall.effect?]⟩
        | bytes raw =>
            dsimp only
            generalize hdata : raw.take (min otaBufLen (req.contentLen - total)) = data
            by_cases hclosed : data = []
            · rw [if_pos hclosed]
              -- nothing received: the client has closed the connection
              refine ⟨[.received data], true, w.asked + 1, .last (by simp [OtaCall.inLoop]) hroom
                htimeouts (by simp) (by simp [OtaCall.isRecv])
                (fun rest h => .received hrecv hdata.symm ?_), by simp [OtaCall.effect?]⟩
              simpa [receivedBytes] using h
            · rw [if_neg hclosed, bind_ok (emit_apply _ _), bind_ok (ask_apply _ _)]
              have hpos := List.length_pos_iff.mpr hclosed
              have hlen : data.length ≤ req.contentLen - total := by
                rw [← hdata, List.length_take]
                omega
              by_cases haccepted : env.err (w.asked + 1) = .ok
              · rw [if_neg (not_not.mpr haccepted)]
                -- the timeouts are forgotten; the byte that came pays for the rounds they took
                obtain ⟨rounds, failed, m, hrounds, hrun⟩ := ih (total + data.length) 0 (by omega)
                  (by omega) (by omega)
                  ⟨w.state, w.asked + 2, w.shown ++ [.otaWrite data]⟩
                refine ⟨.received data :: .write data true :: rounds, failed, m,
                  hrounds.progress hrecv hdata.symm hclosed haccepted htimeouts, hrun.trans ?_⟩
                simp only [List.append_assoc]
                rfl
              · rw [if_pos haccepted]
                -- a refused write ends the loop behind the bytes it was to store
                refine ⟨[.received data, .write data false], true, w.asked + 2,
                  .last (by simp [OtaCall.inLoop]) hroom htimeouts (by simp) le_rfl
                    (fun rest h => .received hrecv hdata.symm ?_), rfl⟩
                have hbytes : receivedBytes [.received data, .write data false] = data := by
                  simp [receivedBytes]
                rw [hbytes] at h
                have hwrite := Answered.write (k := w.asked + 1) data h
                rwa [decide_eq_false haccepted] at hwrite

/-- The calls before the loop, the loop and the calls behind it. -/
theorem Rounds.run {len : ℕ} {tail : List OtaCall}
    (h : Rounds env len (k + 2) 0 0 failed rounds m) (hfound : env.found k = true)
    (hbegin : env.err (k + 1) = .ok)
    (htail : Answered env len m (receivedBytes rounds).length tail)
    (hquiet : ∀ call ∈ tail, call.isRecv = false) :
    UploadRun env len k (.partition true :: .begin true :: (rounds ++ tail)) where
  answered := by
    rw [← Nat.zero_add (receivedBytes rounds).length] at htail
    have hloop := (Answered.begin (h.answered tail htail)).partition (k := k)
    rwa [hfound, hbegin, decide_eq_true rfl] at hloop
  patient := by
    have hnone : .timeout ∉ tail := fun hmem => Bool.noConfusion (hquiet _ hmem)
    exact patient_cons_call (by simp) (patient_cons_call (by simp) (h.patient tail hnone))
  recvs := by
    have hcount := h.recvs
    have hnone : tail.countP OtaCall.isRecv = 0 :=
      List.countP_eq_zero.mpr fun call hmem => by simp [hquiet call hmem]
    rw [List.countP_cons_of_neg (by simp [OtaCall.isRecv]),
      List.countP_cons_of_neg (by simp [OtaCall.isRecv]), List.countP_append, hnone]
    exact hcount

theorem rejectIf_passes {σ ε : Type} {p : Prop} [Decidable p] {status : ℕ} {message : String}
    (h : ¬p) (w : World σ ε) : rejectIf p status message w = .ok () w := by
  rw [rejectIf_apply, if_neg h]

theorem rejectIf_answers {σ ε : Type} {p : Prop} [Decidable p] {status : ℕ} {message : String}
    (h : p) (w : World σ ε) :
    rejectIf p status message w = .error (.respond (.error status message)) w := by
  rw [rejectIf_apply, if_pos h]

/-- What the world outside sees of a run that enters the loop. -/
theorem effects_of_rounds (begun : Bool) (rounds tail : List OtaCall) :
    (.partition true :: .begin begun :: (rounds ++ tail)).filterMap OtaCall.effect? =
      .otaBegin :: (rounds.filterMap OtaCall.effect? ++ tail.filterMap OtaCall.effect?) := by
  show _ :: (rounds ++ tail).filterMap OtaCall.effect? = _
  rw [List.filterMap_append]

/-- The part of `handle_ota` behind the loop. -/
def otaFinish (env : Env) (failed : Bool) : BoardM Response :=
  if failed then do
    emit .otaAbort
    sendJsonError 400 "OTA write failed"
  else do
    emit .otaEnd
    let err ← ask env.err
    rejectIf (err ≠ .ok) 400 "OTA validation failed"
    emit .otaSetBootPartition
    let err ← ask env.err
    rejectIf (err ≠ .ok) 400 "Failed to set boot partition"
    espRestart

/-- What is done behind the loop: giving up, or closing, switching and the restart. -/
theorem Rounds.finish {len : ℕ} (hrounds : Rounds env len (k + 2) 0 0 failed rounds m)
    (hfound : env.found k = true) (hbegin : env.err (k + 1) = .ok) (board : Board)
    (shown : List Effect) :
    ∃ calls stop m', UploadEnds len calls stop ∧ UploadRun env len k calls ∧
      otaFinish env failed
          ⟨board, m, shown ++ [.otaBegin] ++ rounds.filterMap OtaCall.effect?⟩ =
        .error stop ⟨board, m', shown ++ calls.filterMap OtaCall.effect?⟩ := by
  unfold otaFinish
  cases failed with
  | true =>
      refine ⟨_, _, m, .lost hrounds.inLoop,
        hrounds.run hfound hbegin (.abort (.nil _ _)) (by simp [isRecv]), ?_⟩
      rw [effects_of_rounds, if_pos rfl, bind_ok (emit_apply _ _)]
      simp [sendJsonError, effect?]
  | false =>
      rw [if_neg Bool.false_ne_true, bind_ok (emit_apply _ _), bind_ok (ask_apply _ _)]
      -- `esp_ota_end` checks the image, and only a good one is set to boot
      by_cases hclose : env.err m = .ok
      · rw [bind_ok (rejectIf_passes (not_not.mpr hclose) _), bind_ok (emit_apply _ _),
          bind_ok (ask_apply _ _)]
        by_cases hboot : env.err (m + 1) = .ok
        · rw [bind_ok (rejectIf_passes (not_not.mpr hboot) _)]
          refine ⟨_, _, m + 2, .booted hrounds.inLoop (hrounds.wrote rfl),
            hrounds.run hfound hbegin ?_ (by simp [isRecv]), ?_⟩
          · have htail := (Answered.restart (@Answered.nil env len
              (m + 2) (receivedBytes rounds).length)).setBoot.close
            rwa [hboot, hclose, decide_eq_true rfl] at htail
          · rw [effects_of_rounds]
            simp [espRestart, bind_apply, effect?]
        · refine ⟨_, _, m + 2, .unbootable hrounds.inLoop,
            hrounds.run hfound hbegin ?_ (by simp [isRecv]), ?_⟩
          · have htail := (Answered.setBoot (@Answered.nil env len
              (m + 2) (receivedBytes rounds).length)).close
            rwa [hclose, decide_eq_true rfl, decide_eq_false hboot] at htail
          · rw [bind_error (rejectIf_answers hboot _), effects_of_rounds]
            simp [effect?]
      · refine ⟨_, _, m + 1, .invalid hrounds.inLoop,
          hrounds.run hfound hbegin ?_ (by simp [isRecv]), ?_⟩
        · have htail := Answered.close (@Answered.nil env len (m + 1) (receivedBytes rounds).length)
          rwa [decide_eq_false hclose] at htail
        · rw [bind_error (rejectIf_answers hclose _), effects_of_rounds]
          simp [effect?]

/-- How `handle_ota` ends, and the calls it made. -/
theorem otaBody_ends (env : Env) (req : Request) (w : World Board Effect) :
    ∃ calls stop m, UploadEnds req.contentLen calls stop ∧
      UploadRun env req.contentLen w.asked calls ∧
        otaBody env req w = .error stop
          { w with asked := m, shown := w.shown ++ calls.filterMap OtaCall.effect? } := by
  unfold otaBody
  rw [bind_ok (ask_apply _ _)]
  cases hfound : env.found w.asked with
  | false =>
      refine ⟨_, _, w.asked + 1, .noPartition,
        ⟨?_, patient_of_count (by simp), by simp [isRecv]⟩, ?_⟩
      · have hanswered := Answered.partition (@Answered.nil env req.contentLen (w.asked + 1) 0)
        rwa [hfound] at hanswered
      · rw [bind_error (rejectIf_answers rfl _), List.filterMap_cons_none rfl]
        simp
  | true =>
      rw [bind_ok (rejectIf_passes (by simp) _), bind_ok (emit_apply _ _), bind_ok (ask_apply _ _)]
      by_cases hbegin : env.err (w.asked + 1) = .ok
      · rw [bind_ok (rejectIf_passes (not_not.mpr hbegin) _)]
        obtain ⟨rounds, failed, m, hrounds, hrun⟩ := otaLoop_rounds env req (5 * req.contentLen) 0 0
          (Nat.zero_le _) (by omega) (by omega) ⟨w.state, w.asked + 2, w.shown ++ [.otaBegin]⟩
        rw [bind_ok hrun]
        exact hrounds.finish hfound hbegin w.state w.shown
      · refine ⟨_, _, w.asked + 2, .refused, ⟨?_, patient_of_count (by simp), by simp [isRecv]⟩, ?_⟩
        · have hanswered := (Answered.begin
            (@Answered.nil env req.contentLen (w.asked + 2) 0)).partition (k := w.asked)
          rwa [hfound, decide_eq_false hbegin] at hanswered
        · rw [bind_error (rejectIf_answers hbegin _)]
          rfl

/-! ## The outcome -/

theorem not_mem_rounds (hrounds : ∀ call ∈ rounds, call.inLoop = true) {call : OtaCall}
    (hcall : call.inLoop = false) : call ∉ rounds := by
  intro hmem
  cases (hrounds call hmem).symm.trans hcall

theorem countP_closes (hrounds : ∀ call ∈ rounds, call.inLoop = true) :
    rounds.countP OtaCall.closes = 0 := by
  refine List.countP_eq_zero.mpr fun call hmem hcloses => ?_
  have := hrounds call hmem
  cases call <;> simp_all [OtaCall.closes, OtaCall.inLoop]

/-- An upload is complete, or nothing boots and an error is answered. -/
theorem UploadEnds.outcome {len : ℕ} {calls : List OtaCall} {stop : Stop}
    (h : UploadEnds len calls stop) :
    UploadComplete len calls ∧ stop = .restart ∨
      .setBoot true ∉ calls ∧ .restart ∉ calls ∧
        ∃ status message, stop = .respond (.error status message) := by
  cases h with
  | noPartition | refused => exact .inr ⟨by simp, by simp, _, _, rfl⟩
  | lost hrounds | invalid hrounds | unbootable hrounds =>
      have hboot : OtaCall.setBoot true ∉ _ := not_mem_rounds hrounds rfl
      have hrestart : OtaCall.restart ∉ _ := not_mem_rounds hrounds rfl
      exact .inr ⟨by simp [hboot], by simp [hrestart], _, _, rfl⟩
  | booted hrounds hwrote => exact .inl ⟨⟨_, hwrote, hrounds, rfl⟩, rfl⟩

/-- A handle that was opened is given back once. -/
theorem UploadEnds.closed_once {len : ℕ} {calls : List OtaCall} {stop : Stop}
    (h : UploadEnds len calls stop) (hopen : .begin true ∈ calls) :
    calls.countP OtaCall.closes = 1 := by
  cases h with
  | noPartition | refused => simp at hopen
  | lost hrounds | invalid hrounds | unbootable hrounds | booted hrounds =>
      simp [List.countP_cons, OtaCall.closes, countP_closes hrounds]

theorem UploadComplete.boots {len : ℕ} {calls : List OtaCall} (h : UploadComplete len calls) :
    .setBoot true ∈ calls := by
  obtain ⟨rounds, -, -, rfl⟩ := h
  simp

end

section

variable {env : Env} {req : Request} {token : CString} {d : Device}

/-- **An upload becomes bootable only when complete.**  For a client with a session, after
setup: the partition is made the boot partition and the chip restarts only if the driver
accepted the bytes that came in, all `content_len` of them in their order, and then
closing and switching.  Otherwise an error is answered.  A handle that was opened is
given back once, and the loop waits for five timeouts in a row at most. -/
theorem upload_bootable_only_complete
    (htoken : authGetTokenFromRequest env.heapTail req = some token)
    (hvalid : d.validates env token = true) (hsetup : d.board.config.authInitialized = true) :
    ∃ calls u, UploadRun env req.contentLen 0 calls ∧ (handleOta env req).final d.start = u ∧
      u.shown = validation token env.now true ::
        (calls.filterMap OtaCall.effect?).map .effect ∧
      (.setBoot true ∈ calls ∨ .restart ∈ calls → UploadComplete req.contentLen calls) ∧
      (UploadComplete req.contentLen calls → handleOta env req d.start = .error .restart u) ∧
      (¬UploadComplete req.contentLen calls → .setBoot true ∉ calls ∧ .restart ∉ calls ∧
        ∃ status message,
          handleOta env req d.start = .error (.respond (.error status message)) u) ∧
      (.begin true ∈ calls → calls.countP OtaCall.closes = 1) := by
  obtain ⟨calls, stop, m, hends, hrun, hbody⟩ :=
    otaBody_ends env req ⟨(d.checked env token).board, 0, []⟩
  have hhandler := (whenUnlocked_checked htoken hvalid hsetup (otaBody env req)).trans
    (onBoard_error hbody)
  refine ⟨calls, _, hrun, final_of_error hhandler, rfl, ?_⟩
  rcases hends.outcome with ⟨hcomplete, rfl⟩ | ⟨hboot, hrestart, status, message, rfl⟩
  · exact ⟨fun _ => hcomplete, fun _ => hhandler, fun hnot => absurd hcomplete hnot,
      hends.closed_once⟩
  · refine ⟨fun h => ?_, fun h => absurd h.boots hboot,
      fun _ => ⟨hboot, hrestart, status, message, hhandler⟩, hends.closed_once⟩
    rcases h with h | h
    · exact absurd h hboot
    · exact absurd h hrestart

end

/-- A connection that stalls once, then delivers two bytes at a time. -/
def demoUpload : Env :=
  { demoEnv 1 [] with recv := fun k => if k = 2 then .timeout else .bytes [7, 7] }

/-- A client with a session uploads an image of three bytes. -/
theorem upload_bootable_only_complete_image : ∃ calls, UploadComplete 3 calls ∧
    calls.countP OtaCall.closes = 1 ∧ UploadRun demoUpload 3 0 calls := by
  obtain ⟨calls, u, hrun, -, -, -, -, hfails, hclosed⟩ := @upload_bootable_only_complete demoUpload
    { demoRequest .ota 3 with authorization := some demoBearer } demoToken demoSession
    (by decide +kernel) (by decide +kernel) (by decide +kernel)
  have hrestart : (match handleOta demoUpload
      { demoRequest .ota 3 with authorization := some demoBearer } demoSession.start with
    | .error .restart _ => true
    | _ => false) = true := by decide +kernel
  have hcomplete : UploadComplete 3 calls := by
    by_contra hnot
    obtain ⟨-, -, status, message, hanswer⟩ := hfails hnot
    rw [hanswer] at hrestart
    cases hrestart
  refine ⟨calls, hcomplete, hclosed ?_, hrun⟩
  obtain ⟨rounds, -, -, rfl⟩ := hcomplete
  simp

end WebTerminal
