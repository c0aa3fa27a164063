import WebTerminal.Lib.Machine
import WebTerminal.Lib.RingBuffer
import WebTerminal.Ws.Client

/-!
# The serial-to-WebSocket ring

`ws_enqueue` runs on the UART and USB tasks, `ws_flush_work` on the httpd task.
They share the ring, its two wrapping counters and the flag
`s_tx_kick_pending`, all guarded by the spinlock `s_tx_mux`.  The model is a
machine whose steps are the critical sections, the `httpd_queue_work` calls and
the starts of work items; any number of producers interleave with the one httpd
task.

The client table belongs to the httpd task.  Here it may be edited arbitrarily
between two flushes (by request handlers) and by the revalidation at the start
of a flush; what the edits are is the business of the server model.
-/

set_option autoImplicit false

namespace WebTerminal

/-- `WS_TX_SLOTS` -/
abbrev wsTxSlots : ℕ := 32

/-- `WS_TX_SLOT_MAX` -/
abbrev wsTxSlotMax : ℕ := 256

/-- `ws_tx_slot_t`.  `data` is the whole buffer, stale bytes included. -/
structure WsTxSlot where
  len : UInt16
  port : Int16
  data : List UInt8

/-- The statics `s_ws_tx_ring`, `s_tx_head`, `s_tx_tail`, `s_tx_kick_pending`
and `s_tx_dropped`. -/
structure TxRing where
  slots : Fin wsTxSlots → WsTxSlot
  head : UInt32
  tail : UInt32
  kickPending : Bool
  dropped : UInt32

/-- `counter % WS_TX_SLOTS` -/
def slotIndex (counter : ℕ) : Fin wsTxSlots :=
  Fin.ofNat wsTxSlots counter

/-- The frame `ws_flush_work` makes of a slot it copied out. -/
def WsTxSlot.frame (slot : WsTxSlot) : Frame where
  port := slot.port.toInt
  payload := slot.data.take slot.len.toNat

/-- The frame a chunk enqueued for `port` becomes: the port is cut to 16 bits. -/
def chunkFrame (chunk : List UInt8) (port : ℤ) : Frame where
  port := (Int16.ofInt port).toInt
  payload := chunk

/-- What the critical section of `ws_enqueue` did with its chunk. -/
inductive EnqueueResult
  | full
  | stored (kick : Bool)
  deriving DecidableEq

/-- The critical section of `ws_enqueue`. -/
def enqueueCritical (chunk : List UInt8) (port : ℤ) (ring : TxRing) : TxRing × EnqueueResult :=
  if UInt32.ofNat wsTxSlots ≤ ring.head - ring.tail then
    ({ ring with dropped := ring.dropped + 1 }, .full)
  else
    let i := slotIndex ring.head.toNat
    let slot : WsTxSlot :=
      { len := UInt16.ofNat chunk.length, port := Int16.ofInt port,
        data := memcpy (ring.slots i).data chunk }
    ({ ring with
        slots := Function.update ring.slots i slot
        head := ring.head + 1
        kickPending := true }, .stored !ring.kickPending)

/-- The critical section in the drain loop of `ws_flush_work`: the slot it copies
out, or `none` when it finds the ring empty. -/
def popCritical (ring : TxRing) : Option (WsTxSlot × TxRing) :=
  if ring.head = ring.tail then none
  else some (ring.slots (slotIndex ring.tail.toNat), { ring with tail := ring.tail + 1 })

/-! ## The interleaving -/

/-- Where a producer is in `ws_enqueue(data, len, port)`.  `rest` is what is
left of `data`. -/
inductive ProducerPc
  | idle
  | looping (rest : List UInt8) (port : ℤ)
  | kicking (rest : List UInt8) (port : ℤ)
  | unkicking (rest : List UInt8) (port : ℤ)
  deriving DecidableEq

/-- The test `len > 0` at the head of the loop. -/
def loopHead (rest : List UInt8) (port : ℤ) : ProducerPc :=
  if rest = [] then .idle else .looping rest port

/-- Where the httpd task is in `ws_flush_work`; `idle` when it is not in it. -/
inductive FlushPc
  | idle
  | started
  | cleared
  | draining
  | sending (frame : Frame)
  deriving DecidableEq

/-- The ring, the work items waiting on the httpd queue, the tasks and the
client table.  `server` is `s_server != NULL`. -/
structure RingSys (ι : Type*) where
  server : Bool
  ring : TxRing
  queued : ℕ
  flush : FlushPc
  producer : ι → ProducerPc
  clients : WsClients

inductive RingAction (ι : Type*)
  /-- a producer enters `ws_enqueue` -/
  | call (i : ι) (data : List UInt8) (port : ℤ)
  /-- the critical section of `ws_enqueue` -/
  | push (i : ι)
  /-- the `httpd_queue_work` call, with its outcome -/
  | queueWork (i : ι) (ok : Bool)
  /-- the critical section after a failed `httpd_queue_work` -/
  | unkick (i : ι)
  /-- the httpd task takes a `ws_flush_work` item off its queue -/
  | start
  /-- the first critical section of `ws_flush_work` -/
  | clear
  /-- `ws_revalidate_locked`, leaving this table -/
  | revalidate (clients : WsClients)
  /-- the critical section of the drain loop -/
  | pop
  /-- the send loop over one frame, with the outcome of each send -/
  | send (delivered : Fin maxWsClients → Bool)
  /-- the httpd task runs something else, leaving this table -/
  | handler (clients : WsClients)

/-- What a step shows. -/
inductive RingEvent (ι : Type*)
  | called (i : ι) (data : List UInt8) (port : ℤ)
  | pushed (i : ι) (frame : Frame)
  | overflowed (i : ι)
  | attempted (i : ι) (ok : Bool)
  | popped (slot : WsTxSlot)
  | sent (frame : Frame) (before : WsClients) (slots : List (Fin maxWsClients))
      (delivered : Fin maxWsClients → Bool) (after : WsClients)

variable {ι : Type*} [DecidableEq ι]

/-- One step of `ws_enqueue` or `ws_flush_work`. -/
def ringStep (s : RingSys ι) : RingAction ι → Option (RingSys ι × List (RingEvent ι))
  | .call i data port =>
      match s.producer i with
      | .idle =>
          if s.server then
            some ({ s with producer := Function.update s.producer i (loopHead data port) },
              [.called i data port])
          else some (s, [])
      | _ => none
  | .push i =>
      match s.producer i with
      | .looping rest port =>
          match enqueueCritical (rest.take wsTxSlotMax) port s.ring with
          | (ring, .full) =>
              some ({ s with ring := ring, producer := Function.update s.producer i .idle },
                [.overflowed i])
          | (ring, .stored kick) =>
              let rest' := rest.drop wsTxSlotMax
              let pc := if kick then .kicking rest' port else loopHead rest' port
              some ({ s with ring := ring, producer := Function.update s.producer i pc },
                [.pushed i (chunkFrame (rest.take wsTxSlotMax) port)])
      | _ => none
  | .queueWork i ok =>
      match s.producer i with
      | .kicking rest port =>
          if ok then
            some ({ s with
                queued := s.queued + 1
                producer := Function.update s.producer i (loopHead rest port) },
              [.attempted i true])
          else
            some ({ s with producer := Function.update s.producer i (.unkicking rest port) },
              [.attempted i false])
      | _ => none
  | .unkick i =>
      match s.producer i with
      | .unkicking rest port =>
          some ({ s with
              ring := { s.ring with kickPending := false }
              producer := Function.update s.producer i (loopHead rest port) }, [])
      | _ => none
  | .start =>
      match s.flush, s.queued with
      | .idle, n + 1 => some ({ s with queued := n, flush := .started }, [])
      | _, _ => none
  | .clear =>
      match s.flush with
      | .started =>
          some ({ s with ring := { s.ring with kickPending := false }, flush := .cleared }, [])
      | _ => none
  | .revalidate clients =>
      match s.flush with
      | .cleared => some ({ s with flush := .draining, clients := clients }, [])
      | _ => none
  | .pop =>
      match s.flush with
      | .draining =>
          match popCritical s.ring with
          | none => some ({ s with flush := .idle }, [])
          | some (slot, ring) =>
              some ({ s with ring := ring, flush := .sending slot.frame }, [.popped slot])
      | _ => none
  | .send delivered =>
      match s.flush with
      | .sending frame =>
          let (clients, slots) := sendFrame frame delivered s.clients
          some ({ s with flush := .draining, clients := clients },
            [.sent frame s.clients slots delivered clients])
      | _ => none
  | .handler clients =>
      match s.flush with
      | .idle => some ({ s with clients := clients }, [])
      | _ => none

/-- The producers and the httpd task around one ring. -/
def ringMachine (ι : Type*) [DecidableEq ι] : Machine (RingSys ι) (RingAction ι) (RingEvent ι) where
  step := ringStep

/-- Before the first byte: the ring is empty (at any counter value, zero at
boot) and nobody is in either function. -/
structure RingSys.Init (s : RingSys ι) : Prop where
  empty : s.ring.head = s.ring.tail
  noKick : s.ring.kickPending = false
  noItem : s.queued = 0
  noFlush : s.flush = .idle
  noProducer : ∀ i, s.producer i = .idle

/-- Two producers before the first byte, with the counters about to wrap. -/
def ringAtBoot : RingSys (Fin 2) where
  server := true
  ring :=
    { slots := fun _ => { len := 0, port := 0, data := [] }
      head := 4294967295, tail := 4294967295, kickPending := false, dropped := 0 }
  queued := 0
  flush := .idle
  producer := fun _ => .idle
  clients := fun _ => { fd := 0, active := false, portIndex := 0, token := [], lastAuthUs := 0 }

theorem ringAtBoot_init : ringAtBoot.Init := ⟨rfl, rfl, rfl, rfl, fun _ => rfl⟩

/-! ## The ring as a queue -/

/-- A slot as the queue sees it: its `len` field and the frame in it. -/
def WsTxSlot.sized (slot : WsTxSlot) : ℕ × Frame := (slot.len.toNat, slot.frame)

/-- A frame with its length. -/
def Frame.sized (frame : Frame) : ℕ × Frame := (frame.payload.length, frame)

/-- The ring holds the frames `q`, oldest first, with their lengths. -/
def TxRing.Holds (ring : TxRing) (q : List Frame) : Prop :=
  RingBuffer.Represents wsTxSlots (2 ^ 32) (fun i => (ring.slots (slotIndex i)).sized)
    ring.head.toNat ring.tail.toNat (q.map Frame.sized)

theorem wsTxSlots_dvd : wsTxSlots ∣ 2 ^ 32 := by decide

theorem wsTxSlots_lt : wsTxSlots < 2 ^ 32 := by decide

theorem TxRing.holds_nil {ring : TxRing} (h : ring.head = ring.tail) : ring.Holds [] := by
  unfold TxRing.Holds
  rw [h]
  exact RingBuffer.Represents.nil _ ring.tail.toNat_lt

/-- `head - tail`, computed in 32 bits, is the number of frames held. -/
theorem TxRing.Holds.toNat_sub {ring : TxRing} {q : List Frame} (h : ring.Holds q) :
    (ring.head - ring.tail).toNat = q.length := by
  have hused := RingBuffer.Represents.used_eq wsTxSlots_lt h
  have htail := ring.tail.toNat_lt
  rw [List.length_map] at hused
  rw [UInt32.toNat_sub, ← hused]
  congr 1
  omega

theorem TxRing.Holds.length_le {ring : TxRing} {q : List Frame} (h : ring.Holds q) :
    q.length ≤ wsTxSlots := by
  simpa using h.bounded

theorem TxRing.Holds.full_iff {ring : TxRing} {q : List Frame} (h : ring.Holds q) :
    UInt32.ofNat wsTxSlots ≤ ring.head - ring.tail ↔ q.length = wsTxSlots := by
  have hle := h.length_le
  rw [UInt32.le_iff_toNat_le, h.toNat_sub]
  simp only [wsTxSlots, UInt32.toNat_ofNat'] at hle ⊢
  omega

theorem TxRing.Holds.empty_iff {ring : TxRing} {q : List Frame} (h : ring.Holds q) :
    ring.head = ring.tail ↔ q = [] := by
  rw [← List.map_eq_nil_iff (f := Frame.sized), ←
    RingBuffer.Represents.head_eq_tail_iff wsTxSlots_lt h]
  exact ⟨fun heq => by rw [heq], fun heq => UInt32.toNat_inj.mp heq⟩

theorem TxRing.Holds.with_flag {ring : TxRing} {q : List Frame} (h : ring.Holds q) (b : Bool) :
    ({ ring with kickPending := b } : TxRing).Holds q := h

@[simp] theorem slotIndex_val (counter : ℕ) : (slotIndex counter).val = counter % wsTxSlots := rfl

/-- A chunk written by `ws_enqueue` is what `ws_flush_work` reads back. -/
theorem frame_of_chunk {chunk data : List UInt8} (port : ℤ) (h : chunk.length ≤ wsTxSlotMax) :
    (⟨UInt16.ofNat chunk.length, Int16.ofInt port, memcpy data chunk⟩ : WsTxSlot).sized =
      (chunkFrame chunk port).sized := by
  have hlen : (UInt16.ofNat chunk.length).toNat = chunk.length := by
    rw [UInt16.toNat_ofNat']
    exact Nat.mod_eq_of_lt (by simp only [wsTxSlotMax] at h; omega)
  simp only [WsTxSlot.sized, Frame.sized, WsTxSlot.frame, chunkFrame, hlen, take_memcpy]

/-- The critical section of `ws_enqueue` on a full ring: a counted drop. -/
theorem enqueueCritical_full {ring : TxRing} {q : List Frame} (h : ring.Holds q)
    (hfull : q.length = wsTxSlots) (chunk : List UInt8) (port : ℤ) :
    enqueueCritical chunk port ring = ({ ring with dropped := ring.dropped + 1 }, .full) := by
  unfold enqueueCritical
  rw [if_pos (h.full_iff.mpr hfull)]

/-- The critical section of `ws_enqueue` on a ring with room: the chunk is
appended, the flag is set, and a kick is due when it was not set before. -/
theorem enqueueCritical_stored {ring : TxRing} {q : List Frame} (h : ring.Holds q)
    (hroom : q.length ≠ wsTxSlots) {chunk : List UInt8} (hchunk : chunk.length ≤ wsTxSlotMax)
    (port : ℤ) :
    ∃ ring', enqueueCritical chunk port ring = (ring', .stored !ring.kickPending) ∧
      ring'.Holds (q ++ [chunkFrame chunk port]) ∧ ring'.kickPending = true := by
  unfold enqueueCritical
  rw [if_neg (fun hfull => hroom (h.full_iff.mp hfull))]
  refine ⟨_, rfl, ?_, rfl⟩
  have hlt : q.length < wsTxSlots := lt_of_le_of_ne h.length_le hroom
  have hhead : (ring.head + 1).toNat = (ring.head.toNat + 1) % 2 ^ 32 := by
    rw [UInt32.toNat_add]; rfl
  unfold TxRing.Holds
  simp only [hhead, List.map_append, List.map_singleton]
  refine RingBuffer.Represents.push wsTxSlots_dvd h (by simpa using hlt) ?_ ?_
  · have hi : slotIndex (ring.head.toNat % wsTxSlots) = slotIndex ring.head.toNat := by
      ext; simp
    rw [hi, Function.update_self]
    exact frame_of_chunk port hchunk
  · intro i hlt hi
    have hne : slotIndex i ≠ slotIndex ring.head.toNat := by
      intro heq
      have hval := congrArg Fin.val heq
      rw [slotIndex_val, slotIndex_val, Nat.mod_eq_of_lt hlt] at hval
      exact hi hval
    rw [Function.update_of_ne hne]

/-- The critical section of the drain loop pops the oldest frame. -/
theorem popCritical_nil {ring : TxRing} (h : ring.Holds []) : popCritical ring = none := by
  unfold popCritical
  rw [if_pos (h.empty_iff.mpr rfl)]

theorem popCritical_cons {ring : TxRing} {frame : Frame} {q : List Frame}
    (h : ring.Holds (frame :: q)) :
    ∃ slot, popCritical ring = some (slot, { ring with tail := ring.tail + 1 }) ∧
      slot.sized = frame.sized ∧ ({ ring with tail := ring.tail + 1 } : TxRing).Holds q := by
  have hne : ring.head ≠ ring.tail := fun heq => by simpa using h.empty_iff.mp heq
  refine ⟨_, by unfold popCritical; rw [if_neg hne], ?_, ?_⟩
  · have hi : slotIndex (ring.tail.toNat % wsTxSlots) = slotIndex ring.tail.toNat := by
      ext; simp
    rw [← hi]
    exact RingBuffer.Represents.front h
  · have htail : (ring.tail + 1).toNat = (ring.tail.toNat + 1) % 2 ^ 32 := by
      rw [UInt32.toNat_add]; rfl
    unfold TxRing.Holds
    simp only [htail]
    exact RingBuffer.Represents.pop wsTxSlots_dvd h

end WebTerminal
