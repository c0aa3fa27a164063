import WebTerminal.Usb.Handles

/-!
# Plugging in and removing the device

One device is plugged in and removed in turn.  Each plug-in raises `new_dev_cb`, each removal
of a device the driver has opened raises the event of its disconnection, and both end up in
the queue of five, if it has room: nobody looks at the result of the post.

A lost connection costs nothing but the connection.  A lost disconnection leaves the handle
of a device that is gone in `s_cdc_dev` for good (`Hotplug.Stranded`), and nothing else does
(`device_released_iff`).
-/

set_option autoImplicit false

namespace WebTerminal

/-- The bridge and the device in front of it. -/
structure Hotplug (τ : Type) where
  bridge : Bridge τ
  plugged : Bool
  /-- the handle of the device that is plugged in, while it is open -/
  inUse : Option ℕ

inductive HotplugAction (τ : Type)
  /-- with the descriptor the callback gets -/
  | plugIn (desc : Option (UInt16 × UInt16))
  | remove
  /-- an error or a change of the lines -/
  | noted (event : CdcHostEvent)
  | event (err : EspErr)
  | call (task : τ) (call : UsbCall)
  | run (task : τ) (err : EspErr)

section

variable {τ : Type}

/-- The open handle of the device after an event. -/
def BridgeEvent.use (inUse : Option ℕ) : BridgeEvent τ → Option ℕ
  | opened dev => some dev
  | driver (.close dev) _ => if inUse = dev then none else inUse
  | _ => inUse

def usedAfter (inUse : Option ℕ) (es : List (BridgeEvent τ)) : Option ℕ :=
  es.foldl BridgeEvent.use inUse

/-- A step of the bridge in front of the device. -/
def Hotplug.after (s : Hotplug τ) :
    Option (Bridge τ × List (BridgeEvent τ)) → Option (Hotplug τ × List (BridgeEvent τ)) :=
  Option.map fun r => (⟨r.1, s.plugged, usedAfter s.inUse r.2⟩, r.2)

/-- The driver opens only a device that is plugged in. -/
def Hotplug.opensNothing (s : Hotplug τ) (err : EspErr) : Bool :=
  match s.bridge.eventTask with
  | .opening _ _ => decide (err = .ok) && !s.plugged
  | _ => false

variable [DecidableEq τ]

def hotplugStep (vendors : VcpVendors) (s : Hotplug τ) :
    HotplugAction τ → Option (Hotplug τ × List (BridgeEvent τ))
  | .plugIn desc =>
      if s.plugged then none
      else some (⟨newDevCb desc s.bridge, true, s.inUse⟩, [])
  | .remove =>
      if s.plugged then
        match s.inUse with
        | none => some (⟨s.bridge, false, none⟩, [])
        | some _ => some (⟨handleEvent .disconnected s.bridge, false, none⟩, [])
      else none
  | .noted event =>
      if event = .disconnected then none
      else some (⟨handleEvent event s.bridge, s.plugged, s.inUse⟩, [])
  | .event err =>
      if s.opensNothing err then none else s.after (bridgeStep vendors s.bridge (.event err))
  | .call task call => s.after (bridgeStep vendors s.bridge (.call task call))
  | .run task err => s.after (bridgeStep vendors s.bridge (.run task err))

def hotplugMachine (τ : Type) [DecidableEq τ] (vendors : VcpVendors) :
    Machine (Hotplug τ) (HotplugAction τ) (BridgeEvent τ) where
  step := hotplugStep vendors

omit [DecidableEq τ] in
/-- The ports are started and nothing is plugged in. -/
def Hotplug.Started (s : Hotplug τ) : Prop :=
  s.bridge.Started ∧ s.plugged = false ∧ s.inUse = none

/-- A removal of the open device whose event finds the queue full. -/
def Hotplug.Drops (s : Hotplug τ) : HotplugAction τ → Prop
  | .remove => s.inUse.isSome = true ∧ eventQueueLength ≤ s.bridge.eventQueue.length
  | _ => False

/-! ## Disconnections that are under way -/

/-- The event task handles a disconnection and has not closed the handle. -/
def EventTask.leaving : EventTask → Bool
  | received .disconnected | disconnecting | checking | closing => true
  | _ => false

/-- The disconnections in the queue and in the hands of the event task. -/
def Bridge.pendings (s : Bridge τ) : ℕ :=
  s.eventQueue.count .disconnected + s.eventTask.leaving.toNat

/-- What the state of the device says of the handle and of the disconnections under way. -/
structure HotplugInv (s : Hotplug τ) : Prop where
  sound : s.bridge.Sound
  plugged : s.inUse.isSome = true → s.plugged = true
  inUse : ∀ dev, s.inUse = some dev → s.bridge.handle = some dev
  single : s.bridge.pendings ≤ 1
  leaving : 0 < s.bridge.pendings → s.inUse = none ∧ s.bridge.handle.isSome = true

/-- A handle is open, its device is gone and no disconnection is under way. -/
def Hotplug.Stranded (s : Hotplug τ) : Prop :=
  s.bridge.handle.isSome = true ∧ s.inUse = none ∧ s.bridge.pendings = 0

section

variable {vendors : VcpVendors} {s t : Hotplug τ} {fs : List (BridgeEvent τ)}

omit [DecidableEq τ] in
/-- The event task ends a disconnection by closing the handle, or by finding none. -/
theorem EventTaskCase.pendings {err : EspErr} {s t : Bridge τ}
    (h : EventTaskCase vendors err s t fs) :
    (t.pendings = s.pendings ∧ ∀ dev err, .driver (.close dev) err ∉ fs) ∨
      t.pendings + 1 = s.pendings ∧ t.handle = none := by
  have hmoved : t.eventQueue = s.eventQueue → t.eventTask.leaving = s.eventTask.leaving →
      t.pendings = s.pendings := by
    intro hqueue hleaving
    rw [Bridge.pendings, Bridge.pendings, hqueue, hleaving]
  cases h with
  | @received msg rest hat hqueue =>
      refine .inl ⟨?_, by simp⟩
      rw [Bridge.pendings, Bridge.pendings, hat, hqueue]
      cases msg with
      | connected => rfl
      | disconnected => simp [EventTask.leaving]
  | foundNone hat hdev =>
      refine .inr ⟨?_, hdev⟩
      rw [Bridge.pendings, Bridge.pendings, hat]
      rfl
  | closed hat =>
      refine .inr ⟨?_, rfl⟩
      rw [Bridge.pendings, Bridge.pendings, hat]
      rfl
  | updated hat =>
      refine .inl ⟨hmoved ?_ (by rw [hat]; rfl), by simp⟩
      unfold Bridge.setAvailable
      split <;> rfl
  | ignored hat _ | accepted hat _ | removed hat | failed hat _ | opened hat _ | rateRead hat
  | coded hat | controlled hat | publishTaken hat _ | assigned hat | disconnectTaken hat _
  | found hat _ | cleared hat | released hat | announced hat =>
      exact .inl ⟨hmoved rfl (by rw [hat]; rfl), by simp⟩

theorem CallerCase.opens_nothing {a : BridgeAction τ} {s t : Bridge τ} (h : CallerCase s a t fs)
    (dev : ℕ) : .opened dev ∉ fs := by
  cases h with
  | @used task err call hat => cases call <;> simp [UsbCall.driverCall]
  | _ => simp

theorem CallerCase.pendings {a : BridgeAction τ} {s t : Bridge τ} (h : CallerCase s a t fs) :
    t.pendings = s.pendings ∧ ∀ dev err, .driver (.close dev) err ∉ fs := by
  constructor
  · obtain ⟨callers, baudRate, mutex, rfl⟩ := h.frame
    rfl
  · cases h with
    | @used task err call hat => cases call <;> simp [UsbCall.driverCall]
    | _ => simp

omit [DecidableEq τ] in
theorem BridgeEvent.use_silent {e : BridgeEvent τ} (h : e.silent = true) (inUse : Option ℕ) :
    e.use inUse = inUse := by
  cases e with
  | opened => cases h
  | driver call err => cases call <;> first | rfl | cases h
  | _ => rfl

omit [DecidableEq τ] in
/-- Events that neither open nor close leave the device as it was used. -/
theorem usedAfter_silent {inUse : Option ℕ} (h : ∀ e ∈ fs, e.silent = true) :
    usedAfter inUse fs = inUse := by
  induction fs with
  | nil => rfl
  | cons e fs ih =>
      rw [usedAfter, List.foldl_cons, e.use_silent (h e List.mem_cons_self)]
      exact ih fun e' hmem => h e' (List.mem_cons_of_mem _ hmem)

omit [DecidableEq τ] in
/-- With no handle open no disconnection is under way. -/
theorem HotplugInv.pendings_of_none (hinv : HotplugInv s) (hnone : s.bridge.handle = none) :
    s.bridge.pendings = 0 := by
  by_contra hne
  have hsome := (hinv.leaving (Nat.pos_of_ne_zero hne)).2
  rw [hnone] at hsome
  cases hsome

omit [DecidableEq τ] in
/-- With the device in use no disconnection is under way. -/
theorem HotplugInv.pendings_of_inUse {dev : ℕ} (hinv : HotplugInv s)
    (hinUse : s.inUse = some dev) : s.bridge.pendings = 0 := by
  by_contra hne
  have hout := (hinv.leaving (Nat.pos_of_ne_zero hne)).1
  rw [hinUse] at hout
  cases hout

omit [DecidableEq τ] in
/-- A step after which the same handle is open ends no disconnection. -/
theorem HotplugInv.kept {b : Bridge τ} (hinv : HotplugInv s) (hb : b.Sound)
    (hpendings : b.pendings = s.bridge.pendings ∨
      b.pendings + 1 = s.bridge.pendings ∧ b.handle = none)
    (hafter : b.handle = s.bridge.handle) :
    HotplugInv ⟨b, s.plugged, s.inUse⟩ ∧
      (Hotplug.Stranded ⟨b, s.plugged, s.inUse⟩ ↔ s.Stranded) := by
  have hpend : b.pendings = s.bridge.pendings := by
    rcases hpendings with hpend | ⟨hpend, hnone⟩
    · exact hpend
    · have hzero := hinv.pendings_of_none (hafter.symm.trans hnone)
      omega
  refine ⟨⟨hb, hinv.plugged, ?_, ?_, ?_⟩, ?_⟩
  · rw [hafter]
    exact hinv.inUse
  · rw [hpend]
    exact hinv.single
  · rw [hpend, hafter]
    exact hinv.leaving
  · unfold Hotplug.Stranded
    rw [hpend, hafter]

omit [DecidableEq τ] in
theorem HotplugInv.opening {b : Bridge τ} {dev : ℕ} (hinv : HotplugInv s) (hb : b.Sound)
    (hplugged : s.plugged = true) (hpendings : b.pendings ≤ s.bridge.pendings)
    (hbefore : s.bridge.handle = none) (hafter : b.handle = some dev) :
    HotplugInv ⟨b, s.plugged, some dev⟩ ∧
      (Hotplug.Stranded ⟨b, s.plugged, some dev⟩ ↔ s.Stranded) := by
  have hpend : b.pendings = 0 := by
    have hzero := hinv.pendings_of_none hbefore
    omega
  refine ⟨⟨hb, fun _ => hplugged, fun dev' hdev => ?_, hpend.le.trans zero_le_one,
    fun hpos => absurd hpend hpos.ne'⟩, ?_⟩
  · exact hafter.trans hdev
  · refine iff_of_false (fun h => ?_) fun h => ?_
    · cases h.2.1
    · have hsome := h.1
      rw [hbefore] at hsome
      cases hsome

omit [DecidableEq τ] in
/-- The close at the end of a disconnection. -/
theorem HotplugInv.closing {b : Bridge τ} (hinv : HotplugInv s) (hb : b.Sound)
    (hpendings : b.pendings + 1 = s.bridge.pendings) (hafter : b.handle = none) :
    HotplugInv ⟨b, s.plugged, none⟩ ∧
      (Hotplug.Stranded ⟨b, s.plugged, none⟩ ↔ s.Stranded) := by
  have hpend : b.pendings = 0 := by
    have hsingle := hinv.single
    omega
  refine ⟨⟨hb, fun h => (by cases h), fun dev hdev => (by cases hdev),
    hpend.le.trans zero_le_one, fun hpos => absurd hpend hpos.ne'⟩, ?_⟩
  refine iff_of_false (fun h => ?_) fun h => ?_
  · have hsome := h.1
    rw [hafter] at hsome
    cases hsome
  · have hzero := h.2.2
    omega

omit [DecidableEq τ] in
/-- A step of the event task or of another task, in front of the device. -/
theorem HotplugInv.stepped {b : Bridge τ} (hinv : HotplugInv s)
    (hb : b.Sound) (hhandle : HandleCase s.bridge b fs)
    (hopens : ∀ dev, .opened dev ∈ fs → s.plugged = true)
    (hpendings : (b.pendings = s.bridge.pendings ∧ ∀ dev err, .driver (.close dev) err ∉ fs) ∨
      b.pendings + 1 = s.bridge.pendings ∧ b.handle = none) :
    HotplugInv ⟨b, s.plugged, usedAfter s.inUse fs⟩ ∧
      (Hotplug.Stranded ⟨b, s.plugged, usedAfter s.inUse fs⟩ ↔ s.Stranded) := by
  have hsame : b.pendings = s.bridge.pendings ∨
      b.pendings + 1 = s.bridge.pendings ∧ b.handle = none := hpendings.imp_left And.left
  cases hhandle with
  | opened hbefore hafter =>
      exact hinv.opening hb (hopens s.bridge.opens (by simp)) (by omega) hbefore hafter
  | @closed dev err hbefore hafter =>
      have hpend : b.pendings + 1 = s.bridge.pendings := by
        rcases hpendings with ⟨-, hno⟩ | ⟨hpend, -⟩
        · exact absurd (List.mem_singleton_self _) (hno _ _)
        · exact hpend
      have hused :
          usedAfter s.inUse [BridgeEvent.driver (τ := τ) (.close (some dev)) err] = none := by
        rw [(hinv.leaving (by omega)).1]
        rfl
      rw [hused]
      exact hinv.closing hb hpend hafter
  | @used call dev err hdev hclose hbefore hafter =>
      have hused : usedAfter s.inUse [BridgeEvent.driver (τ := τ) call err] = s.inUse := by
        cases call with
        | close => exact absurd rfl (hclose _)
        | _ => rfl
      rw [hused]
      exact hinv.kept hb hsame hafter
  | silent hsilent hafter =>
      rw [usedAfter_silent hsilent]
      exact hinv.kept hb hsame hafter

/-- A step of another task. -/
theorem HotplugInv.called {b : Bridge τ} {a : BridgeAction τ} (hinv : HotplugInv s)
    (hcase : CallerCase s.bridge a b fs) :
    HotplugInv ⟨b, s.plugged, usedAfter s.inUse fs⟩ ∧
      (Hotplug.Stranded ⟨b, s.plugged, usedAfter s.inUse fs⟩ ↔ s.Stranded) :=
  hinv.stepped (hcase.sound hinv.sound) (hcase.handleCase hinv.sound)
    (fun dev hmem => absurd hmem (hcase.opens_nothing dev)) (.inl hcase.pendings)

omit [DecidableEq τ] in
/-- A callback that posts no disconnection. -/
theorem HotplugInv.queued {queue : List UsbEvent} {plugged : Bool} (hinv : HotplugInv s)
    (hcount : queue.count .disconnected = s.bridge.eventQueue.count .disconnected)
    (hplugged : s.plugged = true → plugged = true) :
    HotplugInv ⟨{ s.bridge with eventQueue := queue }, plugged, s.inUse⟩ ∧
      (Hotplug.Stranded ⟨{ s.bridge with eventQueue := queue }, plugged, s.inUse⟩ ↔
        s.Stranded) := by
  have hpend : ({ s.bridge with eventQueue := queue } : Bridge τ).pendings = s.bridge.pendings :=
    congrArg (· + s.bridge.eventTask.leaving.toNat) hcount
  refine ⟨⟨hinv.sound.setQueue queue, fun h => hplugged (hinv.plugged h), hinv.inUse, ?_, ?_⟩, ?_⟩
  · rw [hpend]
    exact hinv.single
  · rw [hpend]
    exact hinv.leaving
  · unfold Hotplug.Stranded
    rw [hpend]
    rfl

omit [DecidableEq τ] in
/-- A removal of the open device. -/
theorem HotplugInv.removed {dev : ℕ} (hinv : HotplugInv s) (hinUse : s.inUse = some dev) :
    HotplugInv ⟨handleEvent .disconnected s.bridge, false, none⟩ ∧
      (Hotplug.Stranded ⟨handleEvent .disconnected s.bridge, false, none⟩ ↔
        eventQueueLength ≤ s.bridge.eventQueue.length) := by
  have hhandle := hinv.inUse dev hinUse
  have hnone : s.bridge.pendings = 0 := hinv.pendings_of_inUse hinUse
  have hafter : (handleEvent .disconnected s.bridge).handle = some dev := hhandle
  have hsound : (handleEvent .disconnected s.bridge).Sound := hinv.sound.setQueue _
  have hpend : (handleEvent .disconnected s.bridge).pendings =
      if s.bridge.eventQueue.length < eventQueueLength then 1 else 0 := by
    unfold Bridge.pendings at hnone ⊢
    show (xQueueSend s.bridge.eventQueue .disconnected).count .disconnected +
      s.bridge.eventTask.leaving.toNat = _
    unfold xQueueSend
    split
    · rw [List.count_append, List.count_singleton_self]
      omega
    · exact hnone
  have hsingle : (handleEvent .disconnected s.bridge).pendings ≤ 1 := by
    rw [hpend]
    split <;> omega
  refine ⟨⟨hsound, fun h => (by cases h), fun _ h => (by cases h), hsingle,
    fun _ => ⟨rfl, by rw [hafter]; rfl⟩⟩, ?_⟩
  unfold Hotplug.Stranded
  rw [hafter, hpend]
  simp

/-- Every step keeps the invariant, and a removal that finds the queue full strands the
handle. -/
theorem HotplugInv.step {a : HotplugAction τ} (hinv : HotplugInv s)
    (h : (hotplugMachine τ vendors).step s a = some (t, fs)) :
    HotplugInv t ∧ (t.Stranded ↔ s.Stranded ∨ s.Drops a) := by
  cases a with
  | plugIn desc =>
      -- no handle goes and no disconnect is lost
      obtain ⟨hplugged, heq⟩ := Option.ite_none_left_eq_some.mp h
      obtain ⟨rfl, rfl⟩ := Prod.mk.inj (Option.some.inj heq)
      simp only [Hotplug.Drops, or_false]
      cases desc with
      | none => exact hinv.queued rfl fun _ => rfl
      | some ids =>
          refine hinv.queued ?_ fun _ => rfl
          unfold xQueueSend
          split
          · rw [List.count_append]
            rfl
          · rfl
  | remove =>
      obtain ⟨hplugged, heq⟩ := Option.ite_none_right_eq_some.mp h
      cases hinUse : s.inUse with
      | none =>
          rw [hinUse] at heq
          obtain ⟨rfl, rfl⟩ := Prod.mk.inj (Option.some.inj heq)
          refine ⟨⟨hinv.sound, fun h => (by cases h), fun _ h => (by cases h), hinv.single,
            fun hpos => ⟨rfl, (hinv.leaving hpos).2⟩⟩, ?_⟩
          simp [Hotplug.Stranded, Hotplug.Drops, hinUse]
      | some dev =>
          rw [hinUse] at heq
          obtain ⟨rfl, rfl⟩ := Prod.mk.inj (Option.some.inj heq)
          -- the disconnect is queued, or lost on a full queue
          obtain ⟨hinv', hstranded⟩ := hinv.removed hinUse
          refine ⟨hinv', hstranded.trans ?_⟩
          simp [Hotplug.Stranded, Hotplug.Drops, hinUse]
  | noted event =>
      obtain ⟨hevent, heq⟩ := Option.ite_none_left_eq_some.mp h
      obtain ⟨rfl, rfl⟩ := Prod.mk.inj (Option.some.inj heq)
      simp only [Hotplug.Drops, or_false]
      cases event with
      | disconnected => exact absurd rfl hevent
      | _ => exact hinv.queued rfl id
  | event err =>
      -- the open handle the task gets is that of the device plugged in
      obtain ⟨hopens, heq⟩ := Option.ite_none_left_eq_some.mp h
      obtain ⟨⟨b, gs⟩, hstep, heq⟩ := Option.map_eq_some_iff.mp heq
      obtain ⟨rfl, rfl⟩ := Prod.mk.inj heq
      simp only [Hotplug.Drops, or_false]
      have hcase := eventTaskStep_cases hstep
      refine hinv.stepped (hcase.sound hinv.sound) (hcase.handleCase hinv.sound) ?_ hcase.pendings
      intro dev hmem
      cases hcase with
      | opened hat herr =>
          subst herr
          simpa [Hotplug.opensNothing, hat] using hopens
      | _ => simp at hmem
  | call task call =>
      obtain ⟨⟨b, gs⟩, hstep, heq⟩ := Option.map_eq_some_iff.mp h
      obtain ⟨rfl, rfl⟩ := Prod.mk.inj heq
      simp only [Hotplug.Drops, or_false]
      exact hinv.called (startCall_cases hstep)
  | run task err =>
      obtain ⟨⟨b, gs⟩, hstep, heq⟩ := Option.map_eq_some_iff.mp h
      obtain ⟨rfl, rfl⟩ := Prod.mk.inj heq
      simp only [Hotplug.Drops, or_false]
      exact hinv.called (callerStep_cases hstep)

omit [DecidableEq τ] in
theorem Hotplug.Started.inv (h : s.Started) : HotplugInv s ∧ ¬s.Stranded := by
  obtain ⟨bridge, plugged, inUse⟩ := s
  obtain ⟨hbridge, rfl, rfl⟩ := h
  have hsound := Bridge.Started.sound hbridge
  obtain ⟨baudRate, rfl⟩ := Bridge.Started.eq_initial hbridge
  have hpend : (Bridge.initial baudRate : Bridge τ).pendings = 0 := rfl
  refine ⟨⟨hsound, fun h => (by cases h), fun _ h => (by cases h), hpend.le.trans zero_le_one,
    fun hpos => absurd hpend hpos.ne'⟩, fun h => ?_⟩
  cases h.1

omit [DecidableEq τ] in
/-- With nothing left to do and nothing plugged in, a handle that is open is stranded. -/
theorem HotplugInv.stranded_iff (hinv : HotplugInv s) (hidle : s.bridge.eventTask = .waiting)
    (hdrained : s.bridge.eventQueue = []) (hremoved : s.plugged = false) :
    s.Stranded ↔ s.bridge.cdcDev.isSome = true := by
  have hhandle : s.bridge.handle = s.bridge.cdcDev := by
    rw [Bridge.handle, hidle]
    rfl
  have hpend : s.bridge.pendings = 0 := by
    rw [Bridge.pendings, hidle, hdrained]
    rfl
  have hout : s.inUse = none := by
    by_contra hne
    have hplugged := hinv.plugged (Option.isSome_iff_ne_none.mpr hne)
    rw [hremoved] at hplugged
    cases hplugged
  rw [Hotplug.Stranded, hhandle]
  exact ⟨fun h => h.1, fun h => ⟨h, hout, hpend⟩⟩

end

/-- For every sequence of plug-ins and removals and every schedule of the event task: once the
queue is drained and the task waits, a removed device is not held any more exactly if no
removal of an open device has found the queue full. -/
theorem device_released_iff {vendors : VcpVendors} {s t : Hotplug τ}
    {as : List (HotplugAction τ)} {es : List (BridgeEvent τ)} (hs : s.Started)
    (hrun : (hotplugMachine τ vendors).Run s as es t) (hidle : t.bridge.eventTask = .waiting)
    (hdrained : t.bridge.eventQueue = []) (hremoved : t.plugged = false) :
    (t.bridge.cdcDev = none ∧ t.bridge.available = false) ↔
      ∀ u a, (hotplugMachine τ vendors).Takes s as u a → ¬u.Drops a := by
  obtain ⟨hinv, hfree⟩ := hs.inv
  have hlatch := hrun.latch_iff (J := HotplugInv) (I := Hotplug.Stranded) (P := Hotplug.Drops) hinv
    hfree fun _ _ _ _ hinv hstep => hinv.step hstep
  have hend : HotplugInv t := hrun.invariant hinv fun _ _ _ _ hinv hstep => (hinv.step hstep).1
  have havailable : t.bridge.available = t.bridge.cdcDev.isSome := by
    have hfits := hend.sound.fits
    rw [hidle] at hfits
    exact hfits
  have hstranded := hend.stranded_iff hidle hdrained hremoved
  calc (t.bridge.cdcDev = none ∧ t.bridge.available = false)
      ↔ ¬t.Stranded := by rw [hstranded, havailable]; simp
    _ ↔ ¬∃ u a, (hotplugMachine τ vendors).Takes s as u a ∧ u.Drops a := not_congr hlatch
    _ ↔ ∀ u a, (hotplugMachine τ vendors).Takes s as u a → ¬u.Drops a := by
        simp only [not_exists, not_and]

end

/-- `demoBridge` with nothing plugged in. -/
def demoHotplug : Hotplug Unit := ⟨demoBridge, false, none⟩

theorem demoHotplug_started : demoHotplug.Started := ⟨demoBridge_started, rfl, rfl⟩

def demoPlugIn : HotplugAction Unit := .plugIn (some (0x1A86, 0x7523))

def demoEvents (n : ℕ) : List (HotplugAction Unit) := List.replicate n (.event .ok)

/-- A device that is removed while it is set up. -/
def demoRemoved : List (HotplugAction Unit) :=
  [demoPlugIn] ++ demoEvents 4 ++ [.remove] ++ demoEvents 16

/-- A device whose plug is loose while the event task opens it. -/
def demoLoose : List (HotplugAction Unit) :=
  [demoPlugIn] ++ demoEvents 2 ++ (List.replicate 5 [.remove, demoPlugIn]).flatten ++
    demoEvents 1 ++ [.remove] ++ demoEvents 18

/-- The task waits, the queue is drained and the device is removed. -/
def demoSettled (s : Hotplug Unit) : Bool :=
  decide (s.bridge.eventTask = .waiting) && decide (s.bridge.eventQueue = []) && !s.plugged

theorem device_released_removed :
    ∃ es t, (hotplugMachine Unit demoVendors).Run demoHotplug demoRemoved es t ∧ .opened 0 ∈ es ∧
      t.bridge.cdcDev = none ∧ t.bridge.available = false := by
  obtain ⟨t, es, hrun, hend⟩ := Machine.Run.exists_of_exec
    (M := hotplugMachine Unit demoVendors) (s := demoHotplug)
    (p := fun s es => demoSettled s && decide (.opened 0 ∈ es))
    (show ((hotplugMachine Unit demoVendors).exec demoHotplug demoRemoved).any _ = true by
      decide +kernel)
  simp only [demoSettled, Bool.and_eq_true, decide_eq_true_eq, Bool.not_eq_true'] at hend
  obtain ⟨⟨⟨hidle, hdrained⟩, hremoved⟩, hopened⟩ := hend
  refine ⟨es, t, hrun, hopened,
    (device_released_iff demoHotplug_started hrun hidle hdrained hremoved).mpr ?_⟩
  intro u a htakes hdrops
  have hroom := htakes.of_checks
    (p := fun s _ => decide (s.bridge.eventQueue.length < eventQueueLength)) (by decide +kernel)
  cases a with
  | remove => exact absurd hdrops.2 (not_le.mpr (of_decide_eq_true hroom))
  | _ => exact hdrops

/-- The device is gone and its handle is still there; a later plug-in is ignored. -/
theorem device_stranded :
    ∃ es t fs u, (hotplugMachine Unit demoVendors).Run demoHotplug demoLoose es t ∧
      t.bridge.eventTask = .waiting ∧ t.bridge.eventQueue = [] ∧ t.plugged = false ∧
      t.bridge.cdcDev = some 0 ∧ t.bridge.available = true ∧
      (hotplugMachine Unit demoVendors).Run t (demoPlugIn :: demoEvents 2) fs u ∧ fs = [] ∧
      u.bridge.eventTask = .waiting ∧ u.bridge.cdcDev = some 0 := by
  obtain ⟨t, es, u, fs, hrun, hlater, hend, hu⟩ := Machine.Run.exists_of_exec_exec
    (M := hotplugMachine Unit demoVendors) (s := demoHotplug)
    (p := fun s _ => demoSettled s && decide (s.bridge.cdcDev = some 0) && s.bridge.available)
    (q := fun s es => decide (es = []) && decide (s.bridge.eventTask = .waiting) &&
      decide (s.bridge.cdcDev = some 0))
    (show ((hotplugMachine Unit demoVendors).exec demoHotplug demoLoose).any (fun r => _ &&
      ((hotplugMachine Unit demoVendors).exec r.1 (demoPlugIn :: demoEvents 2)).any _) = true by
        decide +kernel)
  simp only [demoSettled, Bool.and_eq_true, decide_eq_true_eq, Bool.not_eq_true'] at hend hu
  obtain ⟨⟨⟨⟨hidle, hdrained⟩, hremoved⟩, hdev⟩, havailable⟩ := hend
  exact ⟨es, t, fs, u, hrun, hidle, hdrained, hremoved, hdev, havailable, hlater, hu.1.1, hu.1.2,
    hu.2⟩

end WebTerminal
