import WebTerminal.Ws.RingSteps

/-!
# Wake-ups of the ring

`s_tx_kick_pending` is a token.  While it is set exactly one party answers for
it: the producer that set it and has not finished its `httpd_queue_work`
attempt, the work item waiting on the httpd queue, or the httpd task that took
the item and has not yet cleared the flag.  `HeldBy` states this; it holds
whatever `httpd_queue_work` answers.

From it follow the two properties of the wake-up protocol.  If every
`httpd_queue_work` succeeds, a ring with data always has somebody about to
drain it (`ring_no_lost_wakeup`).  If some fail, a later `ws_enqueue` tries
again as long as the ring has room: the kick is only attempted after a chunk
has been stored.  A ring that is full when a producer gives up its kick is never
drained again (`ring_stays_wedged`), and this is the only way a run gets there
(`ring_recovers_iff`).
-/

set_option autoImplicit false

namespace WebTerminal

variable {ι : Type*}

/-- Who answers for `s_tx_kick_pending`. -/
inductive FlagHolder (ι : Type*)
  | nobody
  | producer (i : ι)
  | item
  | task

/-- Between the critical section that set the flag and the end of the kick
attempt. -/
def ProducerPc.Owes : ProducerPc → Prop
  | .kicking _ _ => True
  | .unkicking _ _ => True
  | _ => False

/-- The flag is set exactly when somebody holds it, and every trace of a
pending wake-up is the holder's. -/
structure HeldBy (s : RingSys ι) (holder : FlagHolder ι) : Prop where
  flag : s.ring.kickPending = true ↔ holder ≠ .nobody
  queued_le : s.queued ≤ 1
  queued : s.queued = 1 ↔ holder = .item
  started : s.flush = .started ↔ holder = .task
  owes : ∀ i, (s.producer i).Owes ↔ holder = .producer i

theorem loopHead_not_owes (rest : List UInt8) (port : ℤ) : ¬ (loopHead rest port).Owes := by
  unfold loopHead
  split <;> simp [ProducerPc.Owes]

theorem RingSys.Init.heldBy {s : RingSys ι} (h : s.Init) : HeldBy s .nobody where
  flag := by simp [h.noKick]
  queued_le := by simp [h.noItem]
  queued := by simp [h.noItem]
  started := by simp [h.noFlush]
  owes i := by simp [h.noProducer i, ProducerPc.Owes]

variable [DecidableEq ι]

/-- A producer that owes nothing before and after a step leaves the holder
alone. -/
theorem owes_update {s : RingSys ι} {holder : FlagHolder ι} {i : ι} {pc : ProducerPc}
    (h : ∀ j, (s.producer j).Owes ↔ holder = .producer j)
    (hi : pc.Owes ↔ (s.producer i).Owes) (j : ι) :
    (Function.update s.producer i pc j).Owes ↔ holder = .producer j := by
  by_cases hj : j = i
  · subst hj
    rw [Function.update_self, hi]
    exact h j
  · rw [Function.update_of_ne hj]
    exact h j

/-- The only producer that owes a kick settles it, and then none does. -/
theorem owes_settle {s : RingSys ι} {i : ι} {pc : ProducerPc}
    (h : ∀ j, (s.producer j).Owes ↔ FlagHolder.producer i = .producer j) (hpc : ¬ pc.Owes)
    (j : ι) : ¬ (Function.update s.producer i pc j).Owes := by
  by_cases hj : j = i
  · subst hj
    simpa using hpc
  · rw [Function.update_of_ne hj, h j]
    exact fun heq => hj (FlagHolder.producer.inj heq).symm

omit [DecidableEq ι] in
/-- The producer that owes a kick is the holder. -/
theorem HeldBy.of_owes {s : RingSys ι} {holder : FlagHolder ι} (h : HeldBy s holder) {i : ι}
    (hi : (s.producer i).Owes) : HeldBy s (.producer i) :=
  (h.owes i).mp hi ▸ h

/-- Every step hands the flag on to exactly one holder, or gives it up. -/
theorem ringCase_heldBy {s t : RingSys ι} {q q' : List Frame} {a : RingAction ι}
    {es : List (RingEvent ι)} {holder : FlagHolder ι} (h : RingCase s q a t q' es)
    (hs : HeldBy s holder) : ∃ holder', HeldBy t holder' := by
  cases h with
  | call hpc hserver =>
      exact ⟨holder, hs.flag, hs.queued_le, hs.queued, hs.started, owes_update hs.owes
        (iff_of_false (loopHead_not_owes _ _) (by simp [hpc, ProducerPc.Owes]))⟩
  | callDown => exact ⟨holder, hs⟩
  | overflow hpc hfull =>
      exact ⟨holder, hs.flag, hs.queued_le, hs.queued, hs.started,
        owes_update hs.owes (by simp [hpc, ProducerPc.Owes])⟩
  | @push i rest port hpc hroom ring hflag =>
      cases hkick : s.ring.kickPending with
      | true =>
          -- the flag is already somebody's: the producer relies on it
          have hidle : ¬ (s.producer i).Owes := by simp [hpc, ProducerPc.Owes]
          refine ⟨holder, ?_, hs.queued_le, hs.queued, hs.started,
            owes_update hs.owes (iff_of_false (loopHead_not_owes _ _) hidle)⟩
          simpa [hflag] using hs.flag.mp hkick
      | false =>
          have hnobody : holder = .nobody := by
            by_contra hne
            exact absurd (hs.flag.mpr hne) (by simp [hkick])
          subst hnobody
          refine ⟨.producer i, ?_, hs.queued_le, ?_, ?_, ?_⟩
          · simp [hflag]
          · simpa using hs.queued
          · simpa using hs.started
          · intro j
            by_cases hj : j = i
            · subst hj; simp [ProducerPc.Owes]
            · have hnot : ¬ (s.producer j).Owes := by simp [hs.owes j]
              simp [hj, hnot, Ne.symm hj]
  | @accepted i rest port hpc =>
      have hi := hs.of_owes (i := i) (by simp [hpc, ProducerPc.Owes])
      have hzero : s.queued = 0 := by
        have h1 := hi.queued_le
        have h2 : s.queued ≠ 1 := fun h1 => by simpa using hi.queued.mp h1
        omega
      refine ⟨.item, ?_, by simp [hzero], by simp [hzero], ?_, ?_⟩
      · simpa using hi.flag.mpr (by simp)
      · simpa using hi.started
      · intro j
        have hnot := owes_settle hi.owes (loopHead_not_owes rest port) j
        simpa using hnot
  | @refused i rest port hpc =>
      exact ⟨holder, hs.flag, hs.queued_le, hs.queued, hs.started,
        owes_update hs.owes (by simp [hpc, ProducerPc.Owes])⟩
  | @unkick i rest port hpc =>
      have hi := hs.of_owes (i := i) (by simp [hpc, ProducerPc.Owes])
      refine ⟨.nobody, by simp, hi.queued_le, ?_, ?_, ?_⟩
      · simpa using hi.queued
      · simpa using hi.started
      · intro j
        have hnot := owes_settle hi.owes (loopHead_not_owes rest port) j
        simpa using hnot
  | @start n hflush hqueued =>
      have hone : s.queued = 1 := by have := hs.queued_le; omega
      have hitem : holder = .item := hs.queued.mp hone
      subst hitem
      have hn : n = 0 := by omega
      refine ⟨.task, by simpa using hs.flag, by simp [hn], by simp [hn], by simp, ?_⟩
      · intro j; simpa using hs.owes j
  | clear hflush =>
      have htask : holder = .task := hs.started.mp hflush
      subst htask
      refine ⟨.nobody, by simp, hs.queued_le, by simpa using hs.queued, by simp, ?_⟩
      intro j; simpa using hs.owes j
  | revalidate hflush | observeEmpty hflush | pop hflush | send hflush =>
      have hnot := hs.started
      exact ⟨holder, hs.flag, hs.queued_le, hs.queued, by simpa [hflush] using hnot, hs.owes⟩
  | handler hflush =>
      exact ⟨holder, hs.flag, hs.queued_le, hs.queued, hs.started, hs.owes⟩

/-- In every reachable state the ring holds a queue and the flag has at most
one holder. -/
theorem reachable_heldBy {s : RingSys ι} (h : (ringMachine ι).Reachable RingSys.Init s) :
    (∃ q, s.ring.Holds q) ∧ ∃ holder, HeldBy s holder := by
  apply h.invariant (I := fun s => (∃ q, s.ring.Holds q) ∧ ∃ holder, HeldBy s holder)
  · intro s hs
    exact ⟨⟨[], hs.holds⟩, .nobody, hs.heldBy⟩
  · rintro t a u fs ⟨⟨q, hq⟩, holder, hheld⟩ hstep
    obtain ⟨q', hq', hcase⟩ := ringStep_cases hq hstep
    exact ⟨⟨q', hq'⟩, ringCase_heldBy hcase hheld⟩

/-! ## Every wake-up arrives while `httpd_queue_work` succeeds -/

/-- The part of `ws_flush_work` between clearing the flag and seeing the ring
empty. -/
def FlushPc.Draining : FlushPc → Prop
  | .cleared => True
  | .draining => True
  | .sending _ => True
  | _ => False

/-- Data in the ring is covered by the flag or by the drain loop, and no kick
has failed. -/
structure Covered (s : RingSys ι) (q : List Frame) : Prop where
  covered : q ≠ [] → s.ring.kickPending = true ∨ s.flush.Draining
  noFailure : ∀ i rest port, s.producer i ≠ .unkicking rest port

theorem ringCase_covered {s t : RingSys ι} {q q' : List Frame} {a : RingAction ι}
    {es : List (RingEvent ι)} (h : RingCase s q a t q' es) (ha : ∀ i, a ≠ .queueWork i false)
    (hs : Covered s q) : Covered t q' := by
  have hloop : ∀ rest' port' rest port, loopHead rest' port' ≠ .unkicking rest port := by
    intro rest' port' rest port
    unfold loopHead
    split <;> simp
  -- the stepping producer is not put into the failure branch
  have move : ∀ {i : ι} {pc : ProducerPc}, (∀ rest port, pc ≠ .unkicking rest port) →
      ∀ j rest port, Function.update s.producer i pc j ≠ .unkicking rest port := by
    intro i pc hpc j rest port
    by_cases hj : j = i
    · subst hj; simpa using hpc rest port
    · simpa [hj] using hs.noFailure j rest port
  cases h with
  | call => exact ⟨hs.covered, move (hloop _ _)⟩
  | callDown => exact hs
  | overflow => exact ⟨hs.covered, move (by simp)⟩
  | push hpc hroom hflag =>
      refine ⟨fun _ => .inl hflag, move ?_⟩
      split
      · exact hloop _ _
      · simp
  | accepted => exact ⟨hs.covered, move (hloop _ _)⟩
  | @refused i => exact absurd rfl (ha i)
  | unkick hpc => exact absurd hpc (hs.noFailure _ _ _)
  | start hflush =>
      refine ⟨fun hne => .inl ?_, hs.noFailure⟩
      simpa [hflush, FlushPc.Draining] using hs.covered hne
  | clear => exact ⟨fun _ => .inr trivial, hs.noFailure⟩
  | revalidate => exact ⟨fun _ => .inr trivial, hs.noFailure⟩
  | observeEmpty hflush hempty => exact ⟨fun hne => absurd hempty hne, hs.noFailure⟩
  | pop => exact ⟨fun _ => .inr trivial, hs.noFailure⟩
  | send => exact ⟨fun _ => .inr trivial, hs.noFailure⟩
  | handler => exact ⟨hs.covered, hs.noFailure⟩

/-- **No wake-up is lost.**  While every `httpd_queue_work` succeeds, a
non-empty ring has a flush item waiting, or a flush running that has not yet
seen the ring empty, or a producer about to queue one; and never more than one
flush item waits. -/
theorem ring_no_lost_wakeup {s₀ s : RingSys ι} {as : List (RingAction ι)}
    {es : List (RingEvent ι)} (h₀ : s₀.Init) (hrun : (ringMachine ι).Run s₀ as es s)
    (hok : ∀ i, .queueWork i false ∉ as) :
    (s.ring.head ≠ s.ring.tail →
      0 < s.queued ∨ s.flush ≠ .idle ∨ ∃ i rest port, s.producer i = .kicking rest port) ∧
    s.queued ≤ 1 := by
  obtain ⟨-, holder, hheld⟩ := reachable_heldBy ⟨s₀, as, es, h₀, hrun⟩
  obtain ⟨q, hq, hcov⟩ : ∃ q, s.ring.Holds q ∧ Covered s q := by
    apply hrun.invariant_of (I := fun s => ∃ q, s.ring.Holds q ∧ Covered s q)
      (P := fun a => ∀ i, a ≠ .queueWork i false)
    · intro a ha i heq
      exact hok i (heq ▸ ha)
    · exact ⟨[], h₀.holds, by simp, by simp [h₀.noProducer]⟩
    · rintro t a u fs ha ⟨q, hq, hcov⟩ hstep
      obtain ⟨q', hq', hcase⟩ := ringStep_cases hq hstep
      exact ⟨q', hq', ringCase_covered hcase ha hcov⟩
  refine ⟨fun hne => ?_, hheld.queued_le⟩
  have hq' : q ≠ [] := fun hnil => hne (hq.empty_iff.mpr hnil)
  rcases hcov.covered hq' with hflag | hdrain
  · cases holder with
    | nobody => exact absurd rfl (hheld.flag.mp hflag)
    | producer i =>
        have howes := (hheld.owes i).mpr rfl
        cases hpc : s.producer i with
        | kicking rest port => exact .inr (.inr ⟨i, rest, port, hpc⟩)
        | unkicking rest port => exact absurd hpc (hcov.noFailure i rest port)
        | idle => simp [hpc, ProducerPc.Owes] at howes
        | looping rest port => simp [hpc, ProducerPc.Owes] at howes
    | item =>
        have := hheld.queued.mpr rfl
        exact .inl (by omega)
    | task =>
        have := hheld.started.mpr rfl
        exact .inr (.inl (by simp [this]))
  · refine .inr (.inl fun hidle => ?_)
    simp [hidle, FlushPc.Draining] at hdrain

/-- A chunk whose kick succeeded waits for the flush. -/
theorem ring_no_lost_wakeup_boot :
    ∃ s, (ringMachine (Fin 2)).Reachable RingSys.Init s ∧ s.ring.head ≠ s.ring.tail ∧
      ((s.ring.head ≠ s.ring.tail → 0 < s.queued ∨ s.flush ≠ .idle ∨
        ∃ i rest port, s.producer i = .kicking rest port) ∧ s.queued ≤ 1) := by
  have hrun : (ringMachine (Fin 2)).Run ringAtBoot [.call 0 [120] 0, .push 0, .queueWork 0 true]
      _ _ := .of_exec rfl
  exact ⟨_, ⟨_, _, _, ringAtBoot_init, hrun⟩, by decide,
    ring_no_lost_wakeup ringAtBoot_init hrun (by simp)⟩

/-! ## Recovery from failed wake-ups -/

/-- The test with which `ws_enqueue` drops a chunk. -/
def TxRing.Full (ring : TxRing) : Prop :=
  UInt32.ofNat wsTxSlots ≤ ring.head - ring.tail

/-- No flush is queued or running, and no producer is between its critical
section and the end of its kick attempt. -/
structure RingSys.Quiescent (s : RingSys ι) : Prop where
  noItem : s.queued = 0
  noFlush : s.flush = .idle
  noKick : ∀ i, ¬ (s.producer i).Owes

/-- The call `ws_enqueue(data, len, port)` by producer `i` gets as far as its
`httpd_queue_work`, and queues a flush if that succeeds. -/
def AttemptsKick (s : RingSys ι) (i : ι) (data : List UInt8) (port : ℤ) : Prop :=
  ∀ ok, ∃ t es, (ringMachine ι).exec s [.call i data port, .push i, .queueWork i ok] =
    some (t, es) ∧ .attempted i ok ∈ es ∧ (ok = true → t.queued = 1)

/-- The ring is full, no flush is pending, and whatever happens from here on
`ws_enqueue` neither stores a chunk nor tries to queue a flush. -/
structure RingSys.Wedged (s : RingSys ι) : Prop where
  quiescent : s.Quiescent
  full : s.ring.Full
  forever : ∀ as es t, (ringMachine ι).Run s as es t → ∀ e ∈ es,
    (∀ i frame, e ≠ .pushed i frame) ∧ ∀ i ok, e ≠ .attempted i ok

/-- A quiescent state in which the next `ws_enqueue` tries to wake the httpd
task. -/
structure RingSys.Recovers (s : RingSys ι) : Prop where
  notWedged : ¬ s.Wedged
  attempts : s.Quiescent → s.server = true → ∀ i data port, s.producer i = .idle → data ≠ [] →
    AttemptsKick s i data port

omit [DecidableEq ι] in
/-- Nobody holds the flag of a quiescent state. -/
theorem HeldBy.flag_of_quiescent {s : RingSys ι} {holder : FlagHolder ι} (h : HeldBy s holder)
    (hs : s.Quiescent) : s.ring.kickPending = false := by
  have hnobody : holder = .nobody := by
    cases holder with
    | nobody => rfl
    | producer i => exact absurd ((h.owes i).mpr rfl) (hs.noKick i)
    | item => simpa [hs.noItem] using h.queued.mpr rfl
    | task => simpa [hs.noFlush] using h.started.mpr rfl
  simpa [hnobody] using h.flag

/-- With room in the ring and the flag clear, a call stores its first chunk and
goes on to kick. -/
theorem attemptsKick_of_room {s : RingSys ι} {q : List Frame} (hq : s.ring.Holds q)
    (hroom : ¬ s.ring.Full) (hflag : s.ring.kickPending = false) (hitem : s.queued = 0)
    (hserver : s.server = true) {i : ι} (hpc : s.producer i = .idle) {data : List UInt8}
    (hdata : data ≠ []) (port : ℤ) : AttemptsKick s i data port := by
  intro ok
  have hq' : q.length ≠ wsTxSlots := fun hfull => hroom (hq.full_iff.mpr hfull)
  have hchunk : (data.take wsTxSlotMax).length ≤ wsTxSlotMax := List.length_take_le _ _
  obtain ⟨ring, henq, -, -⟩ := enqueueCritical_stored hq hq' hchunk port
  cases ok <;>
    simp [Machine.exec, ringMachine, ringStep, hpc, hserver, loopHead, hdata, henq, hflag, hitem]

/-- From a quiescent state with a full ring only drops and other work of the
httpd task are possible. -/
theorem ringCase_stuck {s t : RingSys ι} {q q' : List Frame} {a : RingAction ι}
    {es : List (RingEvent ι)} (h : RingCase s q a t q' es) (hs : s.Quiescent)
    (hfull : q.length = wsTxSlots) :
    t.Quiescent ∧ q' = q ∧
      ∀ e ∈ es, (∀ i frame, e ≠ .pushed i frame) ∧ ∀ i ok, e ≠ .attempted i ok := by
  -- the stepping producer does not come to owe a kick
  have move : ∀ {i : ι} {pc : ProducerPc}, ¬ pc.Owes →
      ∀ j, ¬ (Function.update s.producer i pc j).Owes := by
    intro i pc hpc j
    by_cases hj : j = i
    · subst hj; simpa using hpc
    · simpa [hj] using hs.noKick j
  obtain ⟨hitem, hflush, hkick⟩ := hs
  cases h with
  | call => exact ⟨⟨hitem, hflush, move (loopHead_not_owes _ _)⟩, rfl, by simp⟩
  | callDown => exact ⟨⟨hitem, hflush, hkick⟩, rfl, by simp⟩
  | overflow => exact ⟨⟨hitem, hflush, move (by simp [ProducerPc.Owes])⟩, rfl, by simp⟩
  | push hpc hroom => exact absurd hfull hroom
  | @accepted i rest port hpc => exact absurd (by simp [hpc, ProducerPc.Owes]) (hkick i)
  | @refused i rest port hpc => exact absurd (by simp [hpc, ProducerPc.Owes]) (hkick i)
  | @unkick i rest port hpc => exact absurd (by simp [hpc, ProducerPc.Owes]) (hkick i)
  | start _ hqueued => simp [hitem] at hqueued
  | clear h => simp [hflush] at h
  | revalidate h => simp [hflush] at h
  | observeEmpty h => simp [hflush] at h
  | pop h => simp [hflush] at h
  | send h => simp [hflush] at h
  | handler => exact ⟨⟨hitem, hflush, hkick⟩, rfl, by simp⟩

/-- A full ring without a pending flush stays that way. -/
theorem ring_stays_wedged {s : RingSys ι} {q : List Frame} (hq : s.ring.Holds q)
    (hs : s.Quiescent) (hfull : s.ring.Full) : s.Wedged := by
  refine ⟨hs, hfull, fun as es t hrun => ?_⟩
  have hstuck : (∃ q, t.ring.Holds q ∧ t.Quiescent ∧ q.length = wsTxSlots) ∧
      ∀ e ∈ es, (∀ i frame, e ≠ .pushed i frame) ∧ ∀ i ok, e ≠ .attempted i ok := by
    apply hrun.history (P := fun _ => True) (I := fun es t =>
      (∃ q, t.ring.Holds q ∧ t.Quiescent ∧ q.length = wsTxSlots) ∧
        ∀ e ∈ es, (∀ i frame, e ≠ .pushed i frame) ∧ ∀ i ok, e ≠ .attempted i ok)
    · intros; trivial
    · exact ⟨⟨q, hq, hs, hq.full_iff.mp hfull⟩, by simp⟩
    · rintro es t a u fs - ⟨⟨q, hq, ht, hlen⟩, hes⟩ hstep
      obtain ⟨q', hq', hcase⟩ := ringStep_cases hq hstep
      obtain ⟨hu, rfl, hfs⟩ := ringCase_stuck hcase ht hlen
      refine ⟨⟨q', hq', hu, hlen⟩, fun e he => ?_⟩
      rcases List.mem_append.mp he with h | h
      · exact hes e h
      · exact hfs e h
    · trivial
  exact hstuck.2

/-- With the flag clear and no drain loop running, the ring has room. -/
def RoomWhenUnflagged (s : RingSys ι) (q : List Frame) : Prop :=
  s.ring.kickPending = false → s.flush = .idle → q.length ≠ wsTxSlots

/-- Only giving up a kick can clear the flag of a full ring outside a flush. -/
theorem ringCase_roomWhenUnflagged {s t : RingSys ι} {q q' : List Frame} {a : RingAction ι}
    {es : List (RingEvent ι)} (h : RingCase s q a t q' es)
    (ha : ∀ i, a = .unkick i → s.flush = .idle → q.length ≠ wsTxSlots)
    (hs : RoomWhenUnflagged s q) : RoomWhenUnflagged t q' := by
  cases h with
  | call => exact hs
  | callDown => exact hs
  | overflow => exact hs
  | push hpc hroom hflag => intro hclear; simp [hflag] at hclear
  | accepted => exact hs
  | refused => exact hs
  | @unkick i => exact fun _ => ha i rfl
  | start => intro _ hidle; simp at hidle
  | clear => intro _ hidle; simp at hidle
  | revalidate => intro _ hidle; simp at hidle
  | observeEmpty hflush hempty => intro _ _; simp [hempty, wsTxSlots]
  | pop => intro _ hidle; simp at hidle
  | send => intro _ hidle; simp at hidle
  | handler => exact hs

/-- **When the ring recovers.**  Along a run every quiescent state recovers at
the next `ws_enqueue`, and none is wedged, exactly when no producer gives up its
failed kick while the ring is full and no flush is running. -/
theorem ring_recovers_iff {s₀ s : RingSys ι} {as : List (RingAction ι)}
    {es : List (RingEvent ι)} (h₀ : s₀.Init) (hrun : (ringMachine ι).Run s₀ as es s) :
    (∀ t, (ringMachine ι).Visits s₀ as t → t.Recovers) ↔
      ∀ t i, (ringMachine ι).Takes s₀ as t (.unkick i) → t.ring.Full → t.flush ≠ .idle := by
  constructor
  · intro hrec t i htakes hfull hidle
    obtain ⟨u, fs, hstep⟩ := hrun.step_of_takes htakes
    have hvisit := htakes.visits hstep
    obtain ⟨bs, cs, gs, -, hbs⟩ := htakes
    obtain ⟨⟨q, hq⟩, holder, hheld⟩ := reachable_heldBy ⟨s₀, bs, gs, h₀, hbs⟩
    have hunkick : ringStep t (.unkick i) = some (u, fs) := hstep
    obtain ⟨q', hq', hcase⟩ := ringStep_cases hq hunkick
    -- giving up the kick leaves a quiescent state with the ring still full
    cases hcase with
    | @unkick _ rest port hpc =>
        have hi := hheld.of_owes (i := i) (by simp [hpc, ProducerPc.Owes])
        have hzero : t.queued = 0 := by
          have h1 := hi.queued_le
          have h2 : t.queued ≠ 1 := fun h => by simpa using hi.queued.mp h
          omega
        exact (hrec _ hvisit).notWedged
          (ring_stays_wedged hq' ⟨hzero, hidle, owes_settle hi.owes (loopHead_not_owes _ _)⟩ hfull)
  · rintro hcond t ⟨bs, cs, fs, rfl, hbs⟩
    obtain ⟨-, holder, hheld⟩ := reachable_heldBy ⟨s₀, bs, fs, h₀, hbs⟩
    obtain ⟨q, hq, hroom⟩ : ∃ q, t.ring.Holds q ∧ RoomWhenUnflagged t q := by
      apply hbs.invariant_taking (I := fun t => ∃ q, t.ring.Holds q ∧ RoomWhenUnflagged t q)
        (P := fun t a => ∀ i, a = .unkick i → t.ring.Full → t.flush ≠ .idle)
      · rintro t a htakes i rfl
        obtain ⟨bs', cs', es', rfl, hrun'⟩ := htakes
        exact hcond t i ⟨bs', cs' ++ cs, es', by simp, hrun'⟩
      · exact ⟨[], h₀.holds, fun _ _ => by simp [wsTxSlots]⟩
      · rintro t a u gs hP ⟨q, hq, hroom⟩ hstep
        obtain ⟨q', hq', hcase⟩ := ringStep_cases hq hstep
        refine ⟨q', hq', ringCase_roomWhenUnflagged hcase (fun i ha hidle hlen => ?_) hroom⟩
        exact hP i ha (hq.full_iff.mpr hlen) hidle
    have hnotFull : t.Quiescent → ¬ t.ring.Full := fun hs hfull =>
      hroom (hheld.flag_of_quiescent hs) hs.noFlush (hq.full_iff.mp hfull)
    refine ⟨fun hw => hnotFull hw.quiescent hw.full, ?_⟩
    intro hs hserver i data port hpc hdata
    exact attemptsKick_of_room hq (hnotFull hs) (hheld.flag_of_quiescent hs) hs.noItem hserver
      hpc hdata port

/-- A kick that fails while the ring has room is made good by the next call. -/
theorem ring_recovers_boot :
    ∃ es s, (ringMachine (Fin 2)).Run ringAtBoot
        [.call 0 [120] 0, .push 0, .queueWork 0 false, .unkick 0] es s ∧
      ∀ t, (ringMachine (Fin 2)).Visits ringAtBoot
        [.call 0 [120] 0, .push 0, .queueWork 0 false, .unkick 0] t → t.Recovers := by
  have hrun : (ringMachine (Fin 2)).Run ringAtBoot
      [.call 0 [120] 0, .push 0, .queueWork 0 false, .unkick 0] _ _ := .of_exec rfl
  refine ⟨_, _, hrun, (ring_recovers_iff ringAtBoot_init hrun).mpr ?_⟩
  rintro t i ⟨bs, cs, es, heq, hbs⟩ hfull
  have hprefix : bs = [.call 0 [120] 0, .push 0, .queueWork 0 false] := by
    rcases bs with _ | ⟨b₁, _ | ⟨b₂, _ | ⟨b₃, _ | ⟨b₄, bs⟩⟩⟩⟩ <;> simp at heq
    obtain ⟨rfl, rfl, rfl, -⟩ := heq
    rfl
  subst hprefix
  obtain ⟨-, rfl⟩ := hbs.det (Machine.Run.of_exec rfl)
  exact absurd hfull (by unfold TxRing.Full; decide)

/-- Producer 0 stores a chunk and sets the flag; producer 1, relying on that
flag, fills the ring; then the kick of producer 0 fails. -/
def wedgingActions : List (RingAction (Fin 2)) :=
  [.call 0 [120] 0, .push 0] ++
    (List.replicate 31 [.call 1 [121] 1, .push 1]).flatten ++ [.queueWork 0 false, .unkick 0]

/-- One failed kick on a ring that another producer filled stops the serial
output for good. -/
theorem ring_wedges :
    ∃ s es, (ringMachine (Fin 2)).Run ringAtBoot wedgingActions es s ∧ s.server = true ∧
      s.Wedged ∧ ¬ AttemptsKick s 0 [120] 0 := by
  have hexec : ((ringMachine (Fin 2)).exec ringAtBoot wedgingActions).map
      (fun p => (p.1.ring.head - p.1.ring.tail, p.1.queued, p.1.flush, p.1.producer 0,
        p.1.producer 1, p.1.server)) = some (32, 0, .idle, .idle, .idle, true) := by
    decide
  cases h : (ringMachine (Fin 2)).exec ringAtBoot wedgingActions with
  | none => simp [h] at hexec
  | some p =>
      obtain ⟨s, es⟩ := p
      simp only [h, Option.map_some, Option.some.injEq, Prod.mk.injEq] at hexec
      obtain ⟨hused, hitem, hflush, hzero, hone, hserver⟩ := hexec
      have hrun := Machine.Run.of_exec h
      have hfull : s.ring.Full := by
        unfold TxRing.Full
        rw [hused]
        decide
      have hquiet : s.Quiescent := by
        refine ⟨hitem, hflush, Fin.forall_fin_two.mpr ⟨?_, ?_⟩⟩
        · simp [hzero, ProducerPc.Owes]
        · simp [hone, ProducerPc.Owes]
      obtain ⟨q, hq⟩ := ringRun_holds hrun ⟨[], ringAtBoot_init.holds⟩
      have hwedged := ring_stays_wedged hq hquiet hfull
      refine ⟨s, es, hrun, hserver, hwedged, fun hatt => ?_⟩
      obtain ⟨t, fs, hexec', hmem, -⟩ := hatt true
      exact (hwedged.forever _ _ _ (.of_exec hexec') _ hmem).2 0 true rfl

end WebTerminal
