import WebTerminal.Ws.RingSteps

/-!
# Integrity of the serial stream

From `ws_enqueue` to `httpd_ws_send_frame_async`, on the trace of a run.  The
chunks pushed are a queue that the flush pops in order (`ring_fifo`), a call is
cut into consecutive pieces of its data and loses at most a tail, when the ring
was full at that moment (`CallLog.Finished`), and a popped chunk is handed once
to every client that is to get it.  `ring_stream_integrity` puts the parts
together for every interleaving, across wrap-arounds of the two counters.
-/

set_option autoImplicit false

namespace WebTerminal

variable {ι : Type*} [DecidableEq ι]

/-! ## Reading a trace -/

@[simp] def RingEvent.pushedFrame : RingEvent ι → Option Frame
  | .pushed _ frame => some frame
  | _ => none

@[simp] def RingEvent.poppedSlot : RingEvent ι → Option WsTxSlot
  | .popped slot => some slot
  | _ => none

@[simp] def RingEvent.sentFrame : RingEvent ι → Option Frame
  | .sent frame _ _ _ _ => some frame
  | _ => none

/-- The chunks stored in the ring, oldest first. -/
def pushes (es : List (RingEvent ι)) : List Frame := es.filterMap RingEvent.pushedFrame

/-- The slots the flush copied out, oldest first. -/
def pops (es : List (RingEvent ι)) : List WsTxSlot := es.filterMap RingEvent.poppedSlot

/-- The frames the send loop went through the clients with. -/
def handedOut (es : List (RingEvent ι)) : List Frame := es.filterMap RingEvent.sentFrame

/-- The frame popped and not yet handed out. -/
def FlushPc.inHand : FlushPc → List Frame
  | .sending frame => [frame]
  | _ => []

/-- One call `ws_enqueue(data, len, port)`: the chunks it stored so far, and
whether it ended by finding the ring full. -/
structure CallLog where
  data : List UInt8
  port : ℤ
  chunks : List Frame
  cut : Bool

/-- Record one event in the log of producer `i`, newest call first. -/
def logEvent (i : ι) (log : List CallLog) : RingEvent ι → List CallLog
  | .called j data port => if j = i then ⟨data, port, [], false⟩ :: log else log
  | .pushed j frame =>
      if j = i then
        match log with
        | [] => []
        | call :: older => { call with chunks := call.chunks ++ [frame] } :: older
      else log
  | .overflowed j =>
      if j = i then
        match log with
        | [] => []
        | call :: older => { call with cut := true } :: older
      else log
  | _ => log

/-- The calls of producer `i`, newest first. -/
def callLog (i : ι) (es : List (RingEvent ι)) : List CallLog :=
  es.foldl (logEvent i) []

@[simp] def RingEvent.pushedBy (i : ι) : RingEvent ι → Option Frame
  | .pushed j frame => if j = i then some frame else none
  | _ => none

/-- The chunks producer `i` stored, oldest first. -/
def pushesOf (i : ι) (es : List (RingEvent ι)) : List Frame := es.filterMap (RingEvent.pushedBy i)

/-- The chunks of a log, oldest first. -/
def chunksOf (log : List CallLog) : List Frame := (log.reverse.map CallLog.chunks).flatten

/-- The bytes of a call that were stored. -/
def CallLog.stored (call : CallLog) : List UInt8 :=
  (call.chunks.map Frame.payload).flatten

/-- A call that is over: its chunks are all of its data, or the prefix of whole
chunks that went in before the ring was found full. -/
structure CallLog.Finished (call : CallLog) : Prop where
  pieces : call.stored <+: call.data
  ports : ∀ frame ∈ call.chunks, frame.port = (Int16.ofInt call.port).toInt
  whole : call.cut = false → call.stored = call.data
  multiple : call.cut = true → wsTxSlotMax ∣ call.stored.length

/-- A call that still has `rest` to store. -/
structure CallLog.Running (call : CallLog) (rest : List UInt8) (port : ℤ) : Prop where
  port_eq : call.port = port
  pieces : call.stored ++ rest = call.data
  ports : ∀ frame ∈ call.chunks, frame.port = (Int16.ofInt call.port).toInt
  notCut : call.cut = false
  multiple : rest ≠ [] → wsTxSlotMax ∣ call.stored.length

/-- The call a producer is in. -/
def ProducerPc.left : ProducerPc → Option (List UInt8 × ℤ)
  | .idle => none
  | .looping rest port => some (rest, port)
  | .kicking rest port => some (rest, port)
  | .unkicking rest port => some (rest, port)

/-- All calls of a log are over, but for the newest while its producer is still
in it. -/
def LogSound (log : List CallLog) : Option (List UInt8 × ℤ) → Prop
  | none => ∀ call ∈ log, call.Finished
  | some (rest, port) => ∃ call older, log = call :: older ∧ call.Running rest port ∧
      ∀ o ∈ older, o.Finished

/-- One pass of the send loop over the table `before`: the frame goes once to
each active client on its port (to every active client when the port is
negative), and a failed send deactivates that client and no other. -/
structure Routed (frame : Frame) (before : WsClients) (slots : List (Fin maxWsClients))
    (delivered : Fin maxWsClients → Bool) (after : WsClients) : Prop where
  once : slots.Nodup
  mem_iff : ∀ i, i ∈ slots ↔
    (before i).active = true ∧ (frame.port < 0 ∨ (before i).portIndex = frame.port)
  after_eq : ∀ i, after i =
    if i ∈ slots ∧ delivered i = false then { before i with active := false } else before i

/-- The ports the callers of `ws_enqueue` pass: `-1` for a text event, else the
index of a serial port. -/
def ValidPort (port : ℤ) : Prop := -1 ≤ port ∧ port < 2 ^ 15

/-- What the trace and the state of a run say about the stream. -/
structure StreamIntegrity (es : List (RingEvent ι)) (s : RingSys ι) : Prop where
  /-- chunks come out in the order they went in, once each, unaltered -/
  fifo : ∃ q, s.ring.Holds q ∧ pushes es = (pops es).map WsTxSlot.frame ++ q
  size : ∀ slot ∈ pops es, 1 ≤ slot.len.toNat ∧ slot.len.toNat ≤ wsTxSlotMax ∧
    slot.frame.payload.length = slot.len.toNat
  /-- each producer's chunks are the pieces of its calls -/
  calls : ∀ i, LogSound (callLog i es) (s.producer i).left
  pieces : ∀ i, pushesOf i es = chunksOf (callLog i es)
  /-- a call is cut only at a moment when the ring holds 32 unsent chunks -/
  overflow : Machine.Throughout
    (fun pre e => ∀ i, e = .overflowed i → (pushes pre).length = (pops pre).length + wsTxSlots) es
  /-- a popped chunk is handed out once, before the next one is popped -/
  handed : (pops es).map WsTxSlot.frame = handedOut es ++ s.flush.inHand
  /-- to every client that is to get it and to no other -/
  routed : ∀ frame before slots delivered after,
    .sent frame before slots delivered after ∈ es → Routed frame before slots delivered after
  /-- under the port the chunk was enqueued for -/
  ports : (∀ i data port, .called i data port ∈ es → ValidPort port) →
    ∀ frame ∈ pushes es, ValidPort frame.port ∧
      ∃ i data, .called i data frame.port ∈ es

/-! ## Calls -/

theorem callLog_append (i : ι) (es fs : List (RingEvent ι)) :
    callLog i (es ++ fs) = fs.foldl (logEvent i) (callLog i es) := by
  simp [callLog]

theorem pushesOf_snoc (i : ι) (es : List (RingEvent ι)) (e : RingEvent ι) :
    pushesOf i (es ++ [e]) = pushesOf i es ++ (e.pushedBy i).toList := by
  cases e
  case pushed j frame => by_cases hj : j = i <;> simp [pushesOf, hj]
  all_goals simp [pushesOf]

/-- A call with nothing left is over. -/
theorem CallLog.Running.finished {call : CallLog} {port : ℤ} (h : call.Running [] port) :
    call.Finished where
  pieces := by rw [← h.pieces]; exact List.prefix_append _ _
  ports := h.ports
  whole _ := by simpa using h.pieces
  multiple hcut := by simp [h.notCut] at hcut

/-- A call that finds the ring full is over. -/
theorem CallLog.Running.cut {call : CallLog} {rest : List UInt8} {port : ℤ}
    (h : call.Running rest port) (hrest : rest ≠ []) :
    ({ call with cut := true } : CallLog).Finished where
  pieces := ⟨rest, h.pieces⟩
  ports := h.ports
  whole hcut := by simp at hcut
  multiple _ := h.multiple hrest

theorem callLog_running_nil (data : List UInt8) (port : ℤ) :
    (⟨data, port, [], false⟩ : CallLog).Running data port :=
  ⟨rfl, by simp [CallLog.stored], by simp, rfl, fun _ => by simp [CallLog.stored]⟩

/-- Storing the next chunk. -/
theorem CallLog.Running.store {call : CallLog} {rest : List UInt8} {port : ℤ}
    (h : call.Running rest port) (hrest : rest ≠ []) :
    ({ call with chunks := call.chunks ++ [chunkFrame (rest.take wsTxSlotMax) port] } :
      CallLog).Running (rest.drop wsTxSlotMax) port := by
  have hstored : ({ call with chunks := call.chunks ++ [chunkFrame (rest.take wsTxSlotMax) port] } :
      CallLog).stored = call.stored ++ rest.take wsTxSlotMax := by
    simp [CallLog.stored, chunkFrame]
  refine ⟨h.port_eq, ?_, ?_, h.notCut, ?_⟩
  · rw [hstored, List.append_assoc, List.take_append_drop]
    exact h.pieces
  · intro frame hframe
    rcases List.mem_append.mp hframe with hold | hnew
    · exact h.ports frame hold
    · rw [List.mem_singleton.mp hnew, h.port_eq]
      rfl
  · intro hdrop
    -- something is left, so this chunk was a full one
    have hlen : wsTxSlotMax < rest.length := by
      by_contra hle
      exact hdrop (List.drop_of_length_le (by omega))
    rw [hstored, List.length_append, List.length_take, min_eq_left hlen.le]
    exact Nat.dvd_add (h.multiple hrest) (dvd_refl _)

/-- The loop test of `ws_enqueue` ends a call with nothing left. -/
theorem LogSound.loopHead {log : List CallLog} {rest : List UInt8} {port : ℤ}
    (h : LogSound log (some (rest, port))) : LogSound log (loopHead rest port).left := by
  unfold WebTerminal.loopHead
  split
  next hnil =>
    subst hnil
    obtain ⟨call, older, rfl, hrun, holder⟩ := h
    intro o ho
    rcases List.mem_cons.mp ho with rfl | ho
    · exact hrun.finished
    · exact holder o ho
  next => exact h

/-- The calls of producer `i`, on the trace `es` and at `pc`. -/
structure CallInv (i : ι) (es : List (RingEvent ι)) (pc : ProducerPc) : Prop where
  sound : LogSound (callLog i es) pc.left
  pieces : pushesOf i es = chunksOf (callLog i es)

section

variable {i j : ι} {es : List (RingEvent ι)} {rest : List UInt8} {port : ℤ}

/-- An event that is not producer `i`'s own says nothing about its calls. -/
theorem CallInv.skip {pc : ProducerPc} (h : CallInv i es pc) {e : RingEvent ι}
    (hlog : ∀ log, logEvent i log e = log) (hpush : e.pushedBy i = none) :
    CallInv i (es ++ [e]) pc where
  sound := by rw [callLog_append]; simpa [hlog] using h.sound
  pieces := by
    rw [callLog_append, pushesOf_snoc, h.pieces, hpush]
    simp [hlog]

theorem CallInv.called (h : CallInv i es .idle) (data : List UInt8) (port : ℤ) :
    CallInv i (es ++ [.called i data port]) (loopHead data port) where
  sound := by
    apply LogSound.loopHead
    rw [callLog_append]
    exact ⟨_, _, by simp [logEvent], callLog_running_nil data port, h.sound⟩
  pieces := by
    rw [callLog_append, pushesOf_snoc, h.pieces]
    simp [logEvent, chunksOf]

theorem CallInv.overflowed (h : CallInv i es (.looping rest port)) (hrest : rest ≠ []) :
    CallInv i (es ++ [.overflowed i]) .idle := by
  obtain ⟨⟨call, older, hlog, hrun, holder⟩, hpieces⟩ := h
  refine ⟨?_, ?_⟩
  · rw [callLog_append, hlog]
    intro o ho
    simp only [List.foldl_cons, List.foldl_nil, logEvent, if_true, List.mem_cons] at ho
    rcases ho with rfl | ho
    · exact hrun.cut hrest
    · exact holder o ho
  · rw [callLog_append, pushesOf_snoc, hpieces, hlog]
    simp [logEvent, chunksOf]

/-- After a store the producer is at the loop test, perhaps with a kick to make
first. -/
theorem CallInv.pushed (h : CallInv i es (.looping rest port)) (hrest : rest ≠ []) :
    CallInv i (es ++ [.pushed i (chunkFrame (rest.take wsTxSlotMax) port)])
      (.kicking (rest.drop wsTxSlotMax) port) := by
  obtain ⟨⟨call, older, hlog, hrun, holder⟩, hpieces⟩ := h
  refine ⟨?_, ?_⟩
  · rw [callLog_append, hlog]
    exact ⟨_, older, by simp [logEvent], hrun.store hrest, holder⟩
  · rw [callLog_append, pushesOf_snoc, hpieces, hlog]
    simp [logEvent, chunksOf]

theorem CallInv.loopHead (h : CallInv i es (.kicking rest port)) :
    CallInv i es (loopHead rest port) :=
  ⟨h.sound.loopHead, h.pieces⟩

end

/-- Each step keeps the calls of every producer sound. -/
theorem ringCase_calls {s t : RingSys ι} {q q' : List Frame} {a : RingAction ι}
    {es fs : List (RingEvent ι)} (h : RingCase s q a t q' fs) (hbusy : ∀ i, (s.producer i).Busy)
    (hs : ∀ i, CallInv i es (s.producer i)) : ∀ i, CallInv i (es ++ fs) (t.producer i) := by
  -- the stepping producer gets its new program counter, the others keep theirs
  have move : ∀ {i : ι} {pc : ProducerPc} {e : RingEvent ι}, CallInv i (es ++ [e]) pc →
      (∀ j, i ≠ j → (∀ log, logEvent j log e = log) ∧ e.pushedBy j = none) →
      ∀ j, CallInv j (es ++ [e]) (Function.update s.producer i pc j) := by
    intro i pc e hpc hother j
    by_cases hj : j = i
    · subst hj; simpa using hpc
    · obtain ⟨hlog, hpush⟩ := hother j (Ne.symm hj)
      simpa [hj] using (hs j).skip hlog hpush
  have quiet : ∀ {i : ι} {pc : ProducerPc}, CallInv i es pc →
      ∀ j, CallInv j es (Function.update s.producer i pc j) := by
    intro i pc hpc j
    by_cases hj : j = i
    · subst hj; simpa using hpc
    · simpa [hj] using hs j
  have global : ∀ {e : RingEvent ι}, (∀ j, (∀ log, logEvent j log e = log) ∧ e.pushedBy j = none) →
      ∀ j, CallInv j (es ++ [e]) (s.producer j) :=
    fun he j => (hs j).skip (he j).1 (he j).2
  cases h with
  | @call i data port hpc =>
      have hi := hs i
      rw [hpc] at hi
      exact move (hi.called data port) (by simp +contextual [logEvent])
  | callDown => simpa using hs
  | @overflow i rest port hpc =>
      have hi := hs i
      have hrest := hbusy i
      rw [hpc] at hi hrest
      exact move (hi.overflowed hrest) (by simp +contextual [logEvent])
  | @push i rest port hpc =>
      have hi := hs i
      have hrest := hbusy i
      rw [hpc] at hi hrest
      have hstored := hi.pushed hrest
      apply move
      · split
        · exact hstored.loopHead
        · exact hstored
      · simp +contextual [logEvent]
  | @accepted i rest port hpc =>
      have hi := hs i
      rw [hpc] at hi
      exact move (hi.loopHead.skip (by simp [logEvent]) rfl) (by simp [logEvent])
  | @refused i rest port hpc =>
      have hi := hs i
      rw [hpc] at hi
      have hi' : CallInv i es (.unkicking rest port) := ⟨hi.sound, hi.pieces⟩
      exact move (hi'.skip (by simp [logEvent]) rfl) (by simp [logEvent])
  | @unkick i rest port hpc =>
      have hi := hs i
      rw [hpc] at hi
      have hi' : CallInv i es (.kicking rest port) := ⟨hi.sound, hi.pieces⟩
      simpa using quiet hi'.loopHead
  | start => simpa using hs
  | clear => simpa using hs
  | revalidate => simpa using hs
  | observeEmpty => simpa using hs
  | pop => exact global (by simp [logEvent])
  | send => exact global (by simp [logEvent])
  | handler => simpa using hs

/-! ## The queue -/

theorem routed_sendFrame (frame : Frame) (delivered : Fin maxWsClients → Bool)
    (clients : WsClients) :
    Routed frame clients (sendFrame frame delivered clients).2 delivered
      (sendFrame frame delivered clients).1 where
  once := by
    rw [sendFrame_sent]
    exact (List.nodup_finRange _).filter _
  mem_iff i := by simp [mem_sendFrame_sent, wants]
  after_eq i := by simp only [sendFrame_clients, mem_sendFrame_sent]

/-- The trace against the queue `q` the ring holds. -/
structure QueueInv (es : List (RingEvent ι)) (s : RingSys ι) (q : List Frame) : Prop where
  fifo : pushes es = (pops es).map WsTxSlot.frame ++ q
  size : ∀ frame ∈ pushes es, 1 ≤ frame.payload.length ∧ frame.payload.length ≤ wsTxSlotMax
  len : ∀ slot ∈ pops es, slot.len.toNat = slot.frame.payload.length
  overflow : Machine.Throughout
    (fun pre e => ∀ i, e = .overflowed i → (pushes pre).length = (pops pre).length + wsTxSlots) es
  handed : (pops es).map WsTxSlot.frame = handedOut es ++ s.flush.inHand
  routed : ∀ frame before slots delivered after,
    .sent frame before slots delivered after ∈ es → Routed frame before slots delivered after

omit [DecidableEq ι] in
theorem pushes_snoc (es : List (RingEvent ι)) (e : RingEvent ι) :
    pushes (es ++ [e]) = pushes es ++ e.pushedFrame.toList := by
  cases e <;> simp [pushes]

omit [DecidableEq ι] in
theorem pops_snoc (es : List (RingEvent ι)) (e : RingEvent ι) :
    pops (es ++ [e]) = pops es ++ e.poppedSlot.toList := by
  cases e <;> simp [pops]

omit [DecidableEq ι] in
theorem handedOut_snoc (es : List (RingEvent ι)) (e : RingEvent ι) :
    handedOut (es ++ [e]) = handedOut es ++ e.sentFrame.toList := by
  cases e <;> simp [handedOut]

/-- The frames an event takes out of the queue. -/
@[simp] def RingEvent.poppedFrames (e : RingEvent ι) : List Frame :=
  e.poppedSlot.toList.map WsTxSlot.frame

omit [DecidableEq ι] in
/-- One event keeps the trace in line with the queue when it does so by itself:
what it pushes and pops leads from `q` to `q'`, and what it pops and hands out
leads from the old frame in hand to the new one. -/
theorem QueueInv.snoc {es : List (RingEvent ι)} {s t : RingSys ι} {q q' : List Frame}
    {e : RingEvent ι} (h : QueueInv es s q)
    (hqueue : q ++ e.pushedFrame.toList = e.poppedFrames ++ q')
    (hhand : s.flush.inHand ++ e.poppedFrames = e.sentFrame.toList ++ t.flush.inHand)
    (hsize : ∀ frame ∈ e.pushedFrame, 1 ≤ frame.payload.length ∧ frame.payload.length ≤ wsTxSlotMax)
    (hlen : ∀ slot ∈ e.poppedSlot, slot.len.toNat = slot.frame.payload.length)
    (hover : ∀ i, e = .overflowed i → q.length = wsTxSlots)
    (hrouted : ∀ frame before slots delivered after,
      e = .sent frame before slots delivered after → Routed frame before slots delivered after) :
    QueueInv (es ++ [e]) t q' where
  fifo := by
    rw [pushes_snoc, h.fifo, List.append_assoc, hqueue, pops_snoc, List.map_append,
      List.append_assoc]
    rfl
  size frame hframe := by
    rw [pushes_snoc, List.mem_append, Option.mem_toList] at hframe
    exact hframe.elim (h.size frame) (hsize frame)
  len slot hslot := by
    rw [pops_snoc, List.mem_append, Option.mem_toList] at hslot
    exact hslot.elim (h.len slot) (hlen slot)
  overflow := h.overflow.snoc fun i hi => by
    rw [h.fifo, List.length_append, List.length_map, hover i hi]
  handed := by
    rw [pops_snoc, List.map_append, h.handed, List.append_assoc, handedOut_snoc,
      List.append_assoc, ← hhand]
    rfl
  routed frame before slots delivered after hmem := by
    rcases List.mem_append.mp hmem with hold | hnew
    · exact h.routed _ _ _ _ _ hold
    · exact hrouted _ _ _ _ _ (List.mem_singleton.mp hnew).symm

omit [DecidableEq ι] in
/-- A silent step that leaves the frame in hand alone. -/
theorem QueueInv.silent {es : List (RingEvent ι)} {s t : RingSys ι} {q : List Frame}
    (h : QueueInv es s q) (hhand : t.flush.inHand = s.flush.inHand) :
    QueueInv (es ++ []) t q := by
  rw [List.append_nil]
  exact ⟨h.fifo, h.size, h.len, h.overflow, by rw [hhand]; exact h.handed, h.routed⟩

/-- Each step keeps the trace in line with the queue. -/
theorem ringCase_queue {s t : RingSys ι} {q q' : List Frame} {a : RingAction ι}
    {es fs : List (RingEvent ι)} (h : RingCase s q a t q' fs) (hbusy : ∀ i, (s.producer i).Busy)
    (hs : QueueInv es s q) : QueueInv (es ++ fs) t q' := by
  cases h with
  | call =>
      apply hs.snoc <;> simp
  | callDown => exact hs.silent rfl
  | overflow hpc hfull =>
      apply hs.snoc <;> simp [hfull]
  | @push i rest port hpc =>
      have hrest := hbusy i
      rw [hpc] at hrest
      -- a producer in its loop has something left, so the chunk is not empty
      have hpos : 0 < rest.length := List.length_pos_iff.mpr hrest
      have hsize : 1 ≤ (rest.take wsTxSlotMax).length ∧
          (rest.take wsTxSlotMax).length ≤ wsTxSlotMax := by
        simp only [List.length_take, wsTxSlotMax]
        omega
      apply hs.snoc <;> simp
      exact hsize
  | accepted =>
      apply hs.snoc <;> simp
  | refused =>
      apply hs.snoc <;> simp
  | unkick => exact hs.silent rfl
  | start hflush => exact hs.silent (by simp [hflush, FlushPc.inHand])
  | clear hflush => exact hs.silent (by simp [hflush, FlushPc.inHand])
  | revalidate hflush => exact hs.silent (by simp [hflush, FlushPc.inHand])
  | observeEmpty hflush => exact hs.silent (by simp [hflush, FlushPc.inHand])
  | pop hflush hq hslot =>
      apply hs.snoc <;> simp [hflush, hq, hslot, FlushPc.inHand]
  | @send frame delivered hflush =>
      refine hs.snoc ?_ ?_ ?_ ?_ ?_ ?_
      case refine_6 =>
        rintro frame' before slots delivered' after heq
        obtain ⟨rfl, rfl, rfl, rfl, rfl⟩ := RingEvent.sent.inj heq
        exact routed_sendFrame _ _ _
      all_goals simp [hflush, FlushPc.inHand]
  | handler => exact hs.silent rfl

/-! ## Ports -/

/-- A logged call has its `called` event in the trace. -/
theorem called_of_mem_callLog {i : ι} {es : List (RingEvent ι)} :
    ∀ call ∈ callLog i es, .called i call.data call.port ∈ es := by
  induction es using List.reverseRecOn with
  | nil => simp [callLog]
  | append_singleton es e ih =>
      intro call hcall
      -- a call that was logged before keeps its event
      have hold : ∀ c ∈ callLog i es, .called i c.data c.port ∈ es ++ [e] := fun c hc =>
        List.mem_append_left _ (ih c hc)
      rw [callLog_append] at hcall
      simp only [List.foldl_cons, List.foldl_nil] at hcall
      cases e with
      | called j data port =>
          by_cases hj : j = i
          · subst hj
            simp only [logEvent, if_true, List.mem_cons] at hcall
            rcases hcall with rfl | hcall
            · simp
            · exact hold call hcall
          · exact hold call (by simpa [logEvent, hj] using hcall)
      | pushed j frame =>
          by_cases hj : j = i
          · subst hj
            -- the push or the cut goes to the newest call of the producer
            cases hlog : callLog j es with
            | nil => simp [logEvent, hlog] at hcall
            | cons c older =>
                rw [hlog] at hold
                simp only [logEvent, hlog, if_true, List.mem_cons] at hcall
                rcases hcall with rfl | hcall
                · exact hold c (by simp)
                · exact hold call (by simp [hcall])
          · exact hold call (by simpa [logEvent, hj] using hcall)
      | overflowed j =>
          by_cases hj : j = i
          · subst hj
            cases hlog : callLog j es with
            | nil => simp [logEvent, hlog] at hcall
            | cons c older =>
                rw [hlog] at hold
                simp only [logEvent, hlog, if_true, List.mem_cons] at hcall
                rcases hcall with rfl | hcall
                · exact hold c (by simp)
                · exact hold call (by simp [hcall])
          · exact hold call (by simpa [logEvent, hj] using hcall)
      | attempted j ok => exact hold call hcall
      | popped slot => exact hold call hcall
      | sent => exact hold call hcall

/-- A port of the callers survives the cut to 16 bits. -/
theorem ValidPort.toInt_ofInt {port : ℤ} (h : ValidPort port) :
    (Int16.ofInt port).toInt = port :=
  Int16.toInt_ofInt_of_le (by have := h.1; omega) h.2

/-- A finished or running call has its chunks under its own port. -/
theorem LogSound.ports {log : List CallLog} {left : Option (List UInt8 × ℤ)}
    (h : LogSound log left) {call : CallLog} (hcall : call ∈ log) :
    ∀ frame ∈ call.chunks, frame.port = (Int16.ofInt call.port).toInt := by
  cases left with
  | none => exact (h call hcall).ports
  | some p =>
      obtain ⟨newest, older, rfl, hrun, holder⟩ := h
      rcases List.mem_cons.mp hcall with rfl | hold
      · exact hrun.ports
      · exact (holder call hold).ports

/-- A stored chunk belongs to some call. -/
theorem exists_pushesOf {es : List (RingEvent ι)} {frame : Frame} (h : frame ∈ pushes es) :
    ∃ i, frame ∈ pushesOf i es := by
  obtain ⟨e, he, hframe⟩ := List.mem_filterMap.mp h
  cases e <;> simp at hframe
  case pushed i f =>
    subst hframe
    exact ⟨i, List.mem_filterMap.mpr ⟨_, he, by simp⟩⟩

/-! ## Main result -/

/-- **The serial stream keeps its integrity** in every interleaving of producers
with the flush, from an empty ring at any counter values. -/
theorem ring_stream_integrity {s₀ s : RingSys ι} {as : List (RingAction ι)}
    {es : List (RingEvent ι)} (h₀ : s₀.Init) (hrun : (ringMachine ι).Run s₀ as es s) :
    StreamIntegrity es s := by
  -- the queue in the ring, the calls that run and the trace agree after every step
  obtain ⟨q, hq, hbusy, hqueue, hcalls⟩ : ∃ q, s.ring.Holds q ∧ (∀ i, (s.producer i).Busy) ∧
      QueueInv es s q ∧ ∀ i, CallInv i es (s.producer i) := by
    apply hrun.history (P := fun _ => True) (I := fun es s => ∃ q, s.ring.Holds q ∧
      (∀ i, (s.producer i).Busy) ∧ QueueInv es s q ∧ ∀ i, CallInv i es (s.producer i))
    · intros; trivial
    · refine ⟨[], h₀.holds, fun i => ?_, ?_, fun i => ?_⟩
      · simp [h₀.noProducer i, ProducerPc.Busy]
      · exact ⟨rfl, by simp [pushes], by simp [pops], Machine.throughout_nil _,
          by simp [pops, handedOut, h₀.noFlush, FlushPc.inHand], by simp⟩
      · rw [h₀.noProducer i]
        exact ⟨by simp [LogSound, callLog, ProducerPc.left], rfl⟩
    · rintro es t a u fs - ⟨q, hq, hbusy, hqueue, hcalls⟩ hstep
      obtain ⟨q', hq', hcase⟩ := ringStep_cases hq hstep
      exact ⟨q', hq', ringCase_busy hcase hbusy, ringCase_queue hcase hbusy hqueue,
        ringCase_calls hcase hbusy hcalls⟩
    · trivial
  have hlen := hqueue.len
  refine
    { fifo := ⟨q, hq, hqueue.fifo⟩
      size := fun slot hslot => ?_
      calls := fun i => (hcalls i).sound
      pieces := fun i => (hcalls i).pieces
      overflow := hqueue.overflow
      handed := hqueue.handed
      routed := hqueue.routed
      ports := fun hvalid frame hframe => ?_ }
  · -- a popped chunk is one that was pushed
    have hpushed : slot.frame ∈ pushes es := by
      rw [hqueue.fifo]
      exact List.mem_append_left _ (List.mem_map_of_mem hslot)
    obtain ⟨hpos, hle⟩ := hqueue.size _ hpushed
    rw [hlen slot hslot]
    exact ⟨hpos, hle, rfl⟩
  · -- a pushed chunk is a piece of a call of its producer, under the port of the call
    obtain ⟨i, hi⟩ := exists_pushesOf hframe
    rw [(hcalls i).pieces, chunksOf] at hi
    obtain ⟨chunks, hchunks, hmem⟩ := List.mem_flatten.mp hi
    obtain ⟨call, hcall, rfl⟩ := List.mem_map.mp hchunks
    have hlog := List.mem_reverse.mp hcall
    have hcalled := called_of_mem_callLog call hlog
    have hport := (hcalls i).sound.ports hlog frame hmem
    rw [(hvalid _ _ _ hcalled).toInt_ofInt] at hport
    rw [hport]
    exact ⟨hvalid _ _ _ hcalled, i, call.data, hcalled⟩

/-- Two terminals on port 0, in the first two slots, and two tasks that may call `ws_enqueue`. -/
def ringServed : RingSys Bool where
  server := true
  ring := ringAtBoot.ring
  queued := 0
  flush := .idle
  producer := fun _ => .idle
  clients := fun i =>
    { fd := 54 + i, active := decide (i.val < 2), portIndex := 0, token := [], lastAuthUs := 0 }

/-- A call with one byte more than a slot holds, and the flush of its two chunks.  The send of
the first chunk to the second terminal fails. -/
def servedRun : List (RingAction Bool) :=
  [.call false (List.replicate (wsTxSlotMax + 1) 120) 0, .push false, .queueWork false true,
    .push false, .start, .clear, .revalidate ringServed.clients, .pop,
    .send fun i => i.val != 1, .pop, .send fun _ => true]

/-- How many bytes were handed to which slots. -/
def RingEvent.handedTo : RingEvent ι → Option (ℕ × List (Fin maxWsClients))
  | .sent frame _ slots _ _ => some (frame.payload.length, slots)
  | _ => none

/-- The first chunk is handed to both terminals, the second one to the terminal that is left. -/
theorem ring_stream_integrity_served :
    ∃ s es, (ringMachine Bool).Run ringServed servedRun es s ∧
      es.filterMap RingEvent.handedTo = [(256, [0, 1]), (1, [0])] ∧ StreamIntegrity es s := by
  obtain ⟨s, es, hrun, hsent⟩ := Machine.Run.exists_of_exec (M := ringMachine Bool)
    (s := ringServed) (p := fun _ es =>
      es.filterMap RingEvent.handedTo == [(256, [0, 1]), (1, [0])])
    (show ((ringMachine _).exec ringServed servedRun).any _ = true by decide +kernel)
  have hinit : ringServed.Init := ⟨rfl, rfl, rfl, rfl, fun _ => rfl⟩
  exact ⟨s, es, hrun, beq_iff_eq.mp hsent, ring_stream_integrity hinit hrun⟩

end WebTerminal
