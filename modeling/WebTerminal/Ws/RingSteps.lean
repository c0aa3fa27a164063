import WebTerminal.Ws.TxRing

/-!
# What one step of the ring machine does

`ringStep_cases` lists the branches of `ringStep` once, with the ring replaced
by the queue `q` it holds.  Every invariant of the ring machine is proved by
cases on it.  The side fact that a producer inside the loop still has bytes to
send is what makes every chunk non-empty.
-/

set_option autoImplicit false

namespace WebTerminal

variable {ι : Type*} [DecidableEq ι]

/-- The branches of `ringStep`, from the queue `q` to the queue `q'`. -/
inductive RingCase (s : RingSys ι) (q : List Frame) :
    RingAction ι → RingSys ι → List Frame → List (RingEvent ι) → Prop
  | call {i : ι} {data : List UInt8} {port : ℤ} (hpc : s.producer i = .idle)
      (hserver : s.server = true) :
      RingCase s q (.call i data port)
        { s with producer := Function.update s.producer i (loopHead data port) } q
        [.called i data port]
  | callDown {i : ι} {data : List UInt8} {port : ℤ} (hserver : s.server = false) :
      RingCase s q (.call i data port) s q []
  | overflow {i : ι} {rest : List UInt8} {port : ℤ} (hpc : s.producer i = .looping rest port)
      (hfull : q.length = wsTxSlots) :
      RingCase s q (.push i)
        { s with
          ring := { s.ring with dropped := s.ring.dropped + 1 }
          producer := Function.update s.producer i .idle } q [.overflowed i]
  | push {i : ι} {rest : List UInt8} {port : ℤ} (hpc : s.producer i = .looping rest port)
      (hroom : q.length ≠ wsTxSlots) {ring : TxRing} (hflag : ring.kickPending = true) :
      RingCase s q (.push i)
        { s with
          ring := ring
          producer := Function.update s.producer i
            (if s.ring.kickPending then loopHead (rest.drop wsTxSlotMax) port
              else .kicking (rest.drop wsTxSlotMax) port) }
        (q ++ [chunkFrame (rest.take wsTxSlotMax) port])
        [.pushed i (chunkFrame (rest.take wsTxSlotMax) port)]
  | accepted {i : ι} {rest : List UInt8} {port : ℤ} (hpc : s.producer i = .kicking rest port) :
      RingCase s q (.queueWork i true)
        { s with
          queued := s.queued + 1
          producer := Function.update s.producer i (loopHead rest port) } q [.attempted i true]
  | refused {i : ι} {rest : List UInt8} {port : ℤ} (hpc : s.producer i = .kicking rest port) :
      RingCase s q (.queueWork i false)
        { s with producer := Function.update s.producer i (.unkicking rest port) } q
        [.attempted i false]
  | unkick {i : ι} {rest : List UInt8} {port : ℤ} (hpc : s.producer i = .unkicking rest port) :
      RingCase s q (.unkick i)
        { s with
          ring := { s.ring with kickPending := false }
          producer := Function.update s.producer i (loopHead rest port) } q []
  | start {n : ℕ} (hflush : s.flush = .idle) (hqueued : s.queued = n + 1) :
      RingCase s q .start { s with queued := n, flush := .started } q []
  | clear (hflush : s.flush = .started) :
      RingCase s q .clear
        { s with ring := { s.ring with kickPending := false }, flush := .cleared } q []
  | revalidate {clients : WsClients} (hflush : s.flush = .cleared) :
      RingCase s q (.revalidate clients) { s with flush := .draining, clients := clients } q []
  | observeEmpty (hflush : s.flush = .draining) (hempty : q = []) :
      RingCase s q .pop { s with flush := .idle } q []
  | pop {slot : WsTxSlot} {q' : List Frame} (hflush : s.flush = .draining)
      (hq : q = slot.frame :: q') (hlen : slot.len.toNat = slot.frame.payload.length) :
      RingCase s q .pop
        { s with ring := { s.ring with tail := s.ring.tail + 1 }, flush := .sending slot.frame } q'
        [.popped slot]
  | send {frame : Frame} {delivered : Fin maxWsClients → Bool}
      (hflush : s.flush = .sending frame) :
      RingCase s q (.send delivered)
        { s with flush := .draining, clients := (sendFrame frame delivered s.clients).1 } q
        [.sent frame s.clients (sendFrame frame delivered s.clients).2 delivered
          (sendFrame frame delivered s.clients).1]
  | handler {clients : WsClients} (hflush : s.flush = .idle) :
      RingCase s q (.handler clients) { s with clients := clients } q []

/-- A step takes one of the listed branches, and the ring holds the new queue. -/
theorem ringStep_cases {s t : RingSys ι} {q : List Frame} {a : RingAction ι}
    {es : List (RingEvent ι)} (hq : s.ring.Holds q) (h : ringStep s a = some (t, es)) :
    ∃ q', t.ring.Holds q' ∧ RingCase s q a t q' es := by
  cases a with
  | call i data port =>
      cases hpc : s.producer i <;> simp only [ringStep, hpc, reduceCtorEq] at h
      split at h
      next hserver =>
        obtain ⟨rfl, rfl⟩ := Prod.mk.inj (Option.some.inj h)
        exact ⟨q, hq, .call hpc hserver⟩
      next hserver =>
        obtain ⟨rfl, rfl⟩ := Prod.mk.inj (Option.some.inj h)
        exact ⟨q, hq, .callDown (by simpa using hserver)⟩
  | push i =>
      -- the queue is the ring read as a list, so the count of the critical section is its length
      cases hpc : s.producer i with
      | looping rest port =>
          by_cases hfull : q.length = wsTxSlots
          · simp only [ringStep, hpc, enqueueCritical_full hq hfull] at h
            obtain ⟨rfl, rfl⟩ := Prod.mk.inj (Option.some.inj h)
            exact ⟨q, hq, .overflow hpc hfull⟩
          · have hchunk : (rest.take wsTxSlotMax).length ≤ wsTxSlotMax := List.length_take_le _ _
            obtain ⟨ring, henq, hring, hflag⟩ := enqueueCritical_stored hq hfull hchunk port
            simp only [ringStep, hpc, henq] at h
            obtain ⟨rfl, rfl⟩ := Prod.mk.inj (Option.some.inj h)
            refine ⟨_, hring, ?_⟩
            have hcase := RingCase.push (s := s) hpc hfull hflag
            cases hk : s.ring.kickPending <;> simpa [hk] using hcase
      | idle => simp [ringStep, hpc] at h
      | kicking rest port => simp [ringStep, hpc] at h
      | unkicking rest port => simp [ringStep, hpc] at h
  | queueWork i ok =>
      cases hpc : s.producer i <;> simp only [ringStep, hpc, reduceCtorEq] at h
      cases ok with
      | true =>
          obtain ⟨rfl, rfl⟩ := Prod.mk.inj (Option.some.inj h)
          exact ⟨q, hq, .accepted hpc⟩
      | false =>
          obtain ⟨rfl, rfl⟩ := Prod.mk.inj (Option.some.inj h)
          exact ⟨q, hq, .refused hpc⟩
  | unkick i =>
      cases hpc : s.producer i <;> simp only [ringStep, hpc, reduceCtorEq] at h
      obtain ⟨rfl, rfl⟩ := Prod.mk.inj (Option.some.inj h)
      exact ⟨q, hq.with_flag false, .unkick hpc⟩
  | start =>
      cases hflush : s.flush <;> cases hqueued : s.queued <;>
        simp only [ringStep, hflush, hqueued, reduceCtorEq] at h
      obtain ⟨rfl, rfl⟩ := Prod.mk.inj (Option.some.inj h)
      exact ⟨q, hq, .start hflush hqueued⟩
  | clear =>
      cases hflush : s.flush <;> simp only [ringStep, hflush, reduceCtorEq] at h
      obtain ⟨rfl, rfl⟩ := Prod.mk.inj (Option.some.inj h)
      exact ⟨q, hq.with_flag false, .clear hflush⟩
  | revalidate clients =>
      cases hflush : s.flush <;> simp only [ringStep, hflush, reduceCtorEq] at h
      obtain ⟨rfl, rfl⟩ := Prod.mk.inj (Option.some.inj h)
      exact ⟨q, hq, .revalidate hflush⟩
  | pop =>
      -- the flush that finds the ring empty is the one that ends
      cases hflush : s.flush <;> simp only [ringStep, hflush, reduceCtorEq] at h
      cases q with
      | nil =>
          simp only [popCritical_nil hq] at h
          obtain ⟨rfl, rfl⟩ := Prod.mk.inj (Option.some.inj h)
          exact ⟨[], hq, .observeEmpty hflush rfl⟩
      | cons frame q' =>
          obtain ⟨slot, hpop, hsized, hrest⟩ := popCritical_cons hq
          obtain ⟨hlen, rfl⟩ := Prod.mk.inj hsized
          simp only [hpop] at h
          obtain ⟨rfl, rfl⟩ := Prod.mk.inj (Option.some.inj h)
          exact ⟨q', hrest, .pop hflush rfl hlen⟩
  | send delivered =>
      cases hflush : s.flush <;> simp only [ringStep, hflush, reduceCtorEq] at h
      obtain ⟨rfl, rfl⟩ := Prod.mk.inj (Option.some.inj h)
      exact ⟨q, hq, .send hflush⟩
  | handler clients =>
      cases hflush : s.flush <;> simp only [ringStep, hflush, reduceCtorEq] at h
      obtain ⟨rfl, rfl⟩ := Prod.mk.inj (Option.some.inj h)
      exact ⟨q, hq, by simpa [hflush] using RingCase.handler (s := s) hflush⟩

/-! ## The queue held in a reachable state -/

/-- In every state of a run the ring holds some queue. -/
theorem ringRun_holds {s t : RingSys ι} {as : List (RingAction ι)} {es : List (RingEvent ι)}
    (h : (ringMachine ι).Run s as es t) (hs : ∃ q, s.ring.Holds q) : ∃ q, t.ring.Holds q :=
  h.invariant (I := fun t => ∃ q, t.ring.Holds q) hs fun _ _ _ _ ⟨_, hq⟩ hstep =>
    let ⟨q', hq', _⟩ := ringStep_cases hq hstep
    ⟨q', hq'⟩

omit [DecidableEq ι] in
theorem RingSys.Init.holds {s : RingSys ι} (h : s.Init) : s.ring.Holds [] :=
  TxRing.holds_nil h.empty

/-! ## A producer in the loop has bytes left -/

/-- The bytes a producer is about to cut its next chunk from. -/
def ProducerPc.Busy : ProducerPc → Prop
  | .looping rest _ => rest ≠ []
  | _ => True

theorem loopHead_busy (rest : List UInt8) (port : ℤ) : (loopHead rest port).Busy := by
  unfold loopHead
  split
  next => trivial
  next h => exact h

theorem ringCase_busy {s t : RingSys ι} {q q' : List Frame} {a : RingAction ι}
    {es : List (RingEvent ι)} (h : RingCase s q a t q' es) (hs : ∀ i, (s.producer i).Busy) :
    ∀ i, (t.producer i).Busy := by
  -- only the stepping producer moves
  have move : ∀ {i : ι} {pc : ProducerPc}, pc.Busy →
      ∀ j, (Function.update s.producer i pc j).Busy := by
    intro i pc hpc j
    by_cases hj : j = i
    · subst hj; simpa using hpc
    · simpa [hj] using hs j
  cases h with
  | call => exact move (loopHead_busy _ _)
  | callDown => exact hs
  | overflow => exact move trivial
  | push =>
      apply move
      split
      · exact loopHead_busy _ _
      · trivial
  | accepted => exact move (loopHead_busy _ _)
  | refused => exact move trivial
  | unkick => exact move (loopHead_busy _ _)
  | start | clear | revalidate | observeEmpty | pop | send | handler =>
      exact hs

end WebTerminal
