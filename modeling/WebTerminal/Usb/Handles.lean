import WebTerminal.Usb.Bridge

/-!
# The handle of the USB device

The event task is the only one that writes `s_cdc_dev`, and it reads it without the mutex.
The other tasks use the handle under the mutex only.  What makes this safe is an invariant
in three parts: the mutex guards the sections (`Bridge.Sound.guarded`), the place of the
event task says what `s_cdc_dev` is (`EventTask.Fits`), and the one handle that is open is
`Bridge.handle`, in `s_cdc_dev` or in the hands of the event task.
-/

set_option autoImplicit false

namespace WebTerminal

section

variable {τ : Type}

/-! ## What a step does -/

/-- The steps of `usb_event_task`. -/
inductive EventTaskCase (vendors : VcpVendors) (err : EspErr) (s : Bridge τ) :
    Bridge τ → List (BridgeEvent τ) → Prop
  | received {msg : UsbEvent} {rest : List UsbEvent} (hat : s.eventTask = .waiting)
      (hqueue : s.eventQueue = msg :: rest) :
      EventTaskCase vendors err s { s with eventQueue := rest, eventTask := .received msg } []
  | ignored {vid pid : UInt16} (hat : s.eventTask = .received (.connected vid pid))
      (hdev : s.cdcDev.isSome = true) :
      EventTaskCase vendors err s { s with eventTask := .waiting } []
  | accepted {vid pid : UInt16} (hat : s.eventTask = .received (.connected vid pid))
      (hdev : s.cdcDev = none) :
      EventTaskCase vendors err s { s with eventTask := .opening vid pid } []
  | removed (hat : s.eventTask = .received .disconnected) :
      EventTaskCase vendors err s { s with eventTask := .disconnecting } []
  | failed {vid pid : UInt16} (hat : s.eventTask = .opening vid pid) (herr : err ≠ .ok) :
      EventTaskCase vendors err s { s with eventTask := .waiting }
        [.driver (.open (vendors.driver vid) vid pid) err]
  | opened {vid pid : UInt16} (hat : s.eventTask = .opening vid pid) (herr : err = .ok) :
      EventTaskCase vendors err s { s with opens := s.opens + 1, eventTask := .opened s.opens }
        [.driver (.open (vendors.driver vid) vid pid) err, .opened s.opens]
  | rateRead {dev : ℕ} (hat : s.eventTask = .opened dev) :
      EventTaskCase vendors err s
        { s with eventTask := .coding dev (lineCodingAt s.baudRate) } []
  | coded {dev : ℕ} {coding : LineCoding} (hat : s.eventTask = .coding dev coding) :
      EventTaskCase vendors err s { s with eventTask := .controlling dev coding }
        [.driver (.lineCodingSet (some dev) coding) err]
  | controlled {dev : ℕ} {coding : LineCoding} (hat : s.eventTask = .controlling dev coding) :
      EventTaskCase vendors err s { s with eventTask := .publishing dev coding }
        [.driver (.setControlLineState (some dev) true true) err]
  | publishTaken {dev : ℕ} {coding : LineCoding} (hat : s.eventTask = .publishing dev coding)
      (hfree : s.cdcMutex = .free) :
      EventTaskCase vendors err s
        { s with cdcMutex := .held .event, eventTask := .assigning dev coding } []
  | assigned {dev : ℕ} {coding : LineCoding} (hat : s.eventTask = .assigning dev coding) :
      EventTaskCase vendors err s { s with cdcDev := some dev, eventTask := .releasing true } []
  | disconnectTaken (hat : s.eventTask = .disconnecting) (hfree : s.cdcMutex = .free) :
      EventTaskCase vendors err s { s with cdcMutex := .held .event, eventTask := .checking } []
  | found (hat : s.eventTask = .checking) (hdev : s.cdcDev.isSome = true) :
      EventTaskCase vendors err s { s with eventTask := .closing } []
  | foundNone (hat : s.eventTask = .checking) (hdev : s.cdcDev = none) :
      EventTaskCase vendors err s { s with eventTask := .releasing false } []
  | closed (hat : s.eventTask = .closing) :
      EventTaskCase vendors err s { s with eventTask := .clearing }
        [.driver (.close s.cdcDev) err]
  | cleared (hat : s.eventTask = .clearing) :
      EventTaskCase vendors err s { s with cdcDev := none, eventTask := .releasing false } []
  | released {connected : Bool} (hat : s.eventTask = .releasing connected) :
      EventTaskCase vendors err s
        { s with cdcMutex := s.cdcMutex.give, eventTask := .updating connected } []
  | updated {connected : Bool} (hat : s.eventTask = .updating connected) :
      EventTaskCase vendors err s
        { s.setAvailable connected with eventTask := .announcing connected } []
  | announced {connected : Bool} (hat : s.eventTask = .announcing connected) :
      EventTaskCase vendors err s { s with eventTask := .waiting }
        [.broadcast (usbNotice connected)]

/-- A step is what it was defined to be. -/
theorem of_step_eq {σ ε : Type} {P : σ → List ε → Prop} {t u : σ} {fs gs : List ε}
    (h : some (u, gs) = some (t, fs)) (hP : P u gs) : P t fs := by
  obtain ⟨rfl, rfl⟩ := Prod.mk.inj (Option.some.inj h)
  exact hP

theorem eventTaskStep_cases {vendors : VcpVendors} {err : EspErr} {s t : Bridge τ}
    {fs : List (BridgeEvent τ)} (h : eventTaskStep vendors err s = some (t, fs)) :
    EventTaskCase vendors err s t fs := by
  unfold eventTaskStep at h
  cases hat : s.eventTask with
  | absent => simp [hat] at h
  | waiting =>
      cases hqueue : s.eventQueue with
      | nil => simp [hat, hqueue] at h
      | cons msg rest =>
          simp only [hat, hqueue] at h
          exact of_step_eq h (.received hat hqueue)
  | received msg =>
      cases msg with
      | connected vid pid =>
          -- a handle that is still there keeps a second device out
          simp only [hat] at h
          by_cases hdev : s.cdcDev.isSome = true
          · rw [if_pos hdev] at h
            exact of_step_eq h (.ignored hat hdev)
          · rw [if_neg hdev] at h
            exact of_step_eq h (.accepted hat (by simpa using hdev))
      | disconnected =>
          simp only [hat] at h
          exact of_step_eq h (.removed hat)
  | opening vid pid =>
      -- the answer of `cdc_acm_host_open` decides how the task goes on
      simp only [hat] at h
      by_cases herr : err ≠ .ok
      · rw [if_pos herr] at h
        exact of_step_eq h (.failed hat herr)
      · rw [if_neg herr] at h
        exact of_step_eq h (.opened hat (not_not.mp herr))
  | opened dev =>
      simp only [hat] at h
      exact of_step_eq h (.rateRead hat)
  | coding dev coding =>
      simp only [hat] at h
      exact of_step_eq h (.coded hat)
  | controlling dev coding =>
      simp only [hat] at h
      exact of_step_eq h (.controlled hat)
  | publishing dev coding =>
      -- the step is enabled only while nobody holds the mutex
      simp only [hat, Option.map_eq_some_iff, Mutex.take_eq_some, Prod.mk.injEq] at h
      obtain ⟨_, ⟨hfree, rfl⟩, rfl, rfl⟩ := h
      exact .publishTaken hat hfree
  | assigning dev coding =>
      simp only [hat] at h
      exact of_step_eq h (.assigned hat)
  | disconnecting =>
      -- so is this one
      simp only [hat, Option.map_eq_some_iff, Mutex.take_eq_some, Prod.mk.injEq] at h
      obtain ⟨_, ⟨hfree, rfl⟩, rfl, rfl⟩ := h
      exact .disconnectTaken hat hfree
  | checking =>
      -- the mutex is held: the handle found here is the one that is closed
      simp only [hat] at h
      by_cases hdev : s.cdcDev.isSome = true
      · rw [if_pos hdev] at h
        exact of_step_eq h (.found hat hdev)
      · rw [if_neg hdev] at h
        exact of_step_eq h (.foundNone hat (by simpa using hdev))
  | closing =>
      simp only [hat] at h
      exact of_step_eq h (.closed hat)
  | clearing =>
      simp only [hat] at h
      exact of_step_eq h (.cleared hat)
  | releasing connected =>
      simp only [hat] at h
      exact of_step_eq h (.released hat)
  | updating connected =>
      simp only [hat] at h
      exact of_step_eq h (.updated hat)
  | announcing connected =>
      simp only [hat] at h
      exact of_step_eq h (.announced hat)

/-- The steps of the other tasks. -/
inductive CallerCase [DecidableEq τ] (s : Bridge τ) :
    BridgeAction τ → Bridge τ → List (BridgeEvent τ) → Prop
  | refused {task : τ} {call : UsbCall} (hat : s.callers task = .idle)
      (habsent : s.cdcMutex = .absent) :
      CallerCase s (.call task call) s [.called task call, .returned task call call.uninitialized]
  | started {task : τ} {call : UsbCall} (hat : s.callers task = .idle)
      (hcreated : s.cdcMutex ≠ .absent) :
      CallerCase s (.call task call)
        ({ s with baudRate := call.stored s.baudRate }.setCaller task (.taking call))
        [.called task call]
  | taken {task : τ} {err : EspErr} {call : UsbCall} (hat : s.callers task = .taking call)
      (hfree : s.cdcMutex = .free) :
      CallerCase s (.run task err)
        ({ s with cdcMutex := .held (.caller task) }.setCaller task (.holding call)) []
  | found {task : τ} {err : EspErr} {call : UsbCall} (hat : s.callers task = .holding call)
      (hdev : s.cdcDev.isSome = true) :
      CallerCase s (.run task err) (s.setCaller task (.calling call)) []
  | foundNone {task : τ} {err : EspErr} {call : UsbCall} (hat : s.callers task = .holding call)
      (hdev : s.cdcDev = none) :
      CallerCase s (.run task err) (s.setCaller task (.giving call call.noDevice)) []
  | used {task : τ} {err : EspErr} {call : UsbCall} (hat : s.callers task = .calling call) :
      CallerCase s (.run task err) (s.setCaller task (.giving call (call.answer err)))
        ((call.driverCall s.cdcDev).toList.map (.driver · err))
  | returned {task : τ} {err : EspErr} {call : UsbCall} {result : UsbResult}
      (hat : s.callers task = .giving call result) :
      CallerCase s (.run task err)
        ({ s with cdcMutex := s.cdcMutex.give }.setCaller task .idle)
        [.returned task call result]

theorem startCall_cases [DecidableEq τ] {task : τ} {call : UsbCall} {s t : Bridge τ}
    {fs : List (BridgeEvent τ)} (h : startCall task call s = some (t, fs)) :
    CallerCase s (.call task call) t fs := by
  unfold startCall at h
  cases hat : s.callers task with
  | idle =>
      cases hmutex : s.cdcMutex with
      | absent =>
          simp only [hat, hmutex] at h
          exact of_step_eq h (.refused hat hmutex)
      | free =>
          simp only [hat, hmutex] at h
          exact of_step_eq h (hmutex ▸ .started hat (by simp [hmutex]))
      | held holder =>
          simp only [hat, hmutex] at h
          exact of_step_eq h (hmutex ▸ .started hat (by simp [hmutex]))
  | _ => simp [hat] at h

theorem callerStep_cases [DecidableEq τ] {task : τ} {err : EspErr} {s t : Bridge τ}
    {fs : List (BridgeEvent τ)} (h : callerStep task err s = some (t, fs)) :
    CallerCase s (.run task err) t fs := by
  unfold callerStep at h
  cases hat : s.callers task with
  | idle => simp [hat] at h
  | taking call =>
      simp only [hat, Option.map_eq_some_iff, Mutex.take_eq_some, Prod.mk.injEq] at h
      obtain ⟨_, ⟨hfree, rfl⟩, rfl, rfl⟩ := h
      exact .taken hat hfree
  | holding call =>
      simp only [hat] at h
      by_cases hdev : s.cdcDev.isSome = true
      · rw [if_pos hdev] at h
        exact of_step_eq h (.found hat hdev)
      · rw [if_neg hdev] at h
        exact of_step_eq h (.foundNone hat (by simpa using hdev))
  | calling call =>
      simp only [hat] at h
      exact of_step_eq h (.used hat)
  | giving call result =>
      simp only [hat] at h
      exact of_step_eq h (.returned hat)

/-- A step of the bridge. -/
inductive BridgeCase [DecidableEq τ] (vendors : VcpVendors) (s : Bridge τ) :
    BridgeAction τ → Bridge τ → List (BridgeEvent τ) → Prop
  | hostEvent (event : CdcHostEvent) :
      BridgeCase vendors s (.hostEvent event) (handleEvent event s) []
  | newDev (desc : Option (UInt16 × UInt16)) :
      BridgeCase vendors s (.newDev desc) (newDevCb desc s) []
  | event {err : EspErr} {t : Bridge τ} {fs : List (BridgeEvent τ)}
      (hcase : EventTaskCase vendors err s t fs) : BridgeCase vendors s (.event err) t fs
  | caller {a : BridgeAction τ} {t : Bridge τ} {fs : List (BridgeEvent τ)}
      (hcase : CallerCase s a t fs) : BridgeCase vendors s a t fs

theorem bridgeStep_cases [DecidableEq τ] {vendors : VcpVendors} {s t : Bridge τ}
    {a : BridgeAction τ} {fs : List (BridgeEvent τ)}
    (h : (bridgeMachine τ vendors).step s a = some (t, fs)) : BridgeCase vendors s a t fs := by
  cases a with
  | hostEvent event => exact of_step_eq h (.hostEvent event)
  | newDev desc => exact of_step_eq h (.newDev desc)
  | event err => exact .event (eventTaskStep_cases h)
  | call task call => exact .caller (startCall_cases h)
  | run task err => exact .caller (callerStep_cases h)

/-- A callback puts something into the queue, or nothing. -/
theorem handleEvent_eq (event : CdcHostEvent) (s : Bridge τ) :
    ∃ queue, handleEvent event s = { s with eventQueue := queue } := by
  cases event with
  | disconnected => exact ⟨_, rfl⟩
  | _ => exact ⟨s.eventQueue, rfl⟩

theorem newDevCb_eq (desc : Option (UInt16 × UInt16)) (s : Bridge τ) :
    ∃ queue, newDevCb desc s = { s with eventQueue := queue } := by
  cases desc with
  | none => exact ⟨s.eventQueue, rfl⟩
  | some ids => exact ⟨_, rfl⟩

/-! ## The mutex and the state it guards -/

/-- The event task holds the mutex. -/
def EventTask.inside : EventTask → Bool
  | assigning _ _ | checking | closing | clearing | releasing _ => true
  | _ => false

def Caller.inside : Caller → Bool
  | holding _ | calling _ | giving _ _ => true
  | _ => false

def Bridge.Inside (s : Bridge τ) : UsbTask τ → Prop
  | .event => s.eventTask.inside = true
  | .caller task => (s.callers task).inside = true

@[simp] theorem Bridge.inside_event (s : Bridge τ) :
    s.Inside .event ↔ s.eventTask.inside = true := Iff.rfl

@[simp] theorem Bridge.inside_caller (s : Bridge τ) (task : τ) :
    s.Inside (.caller task) ↔ (s.callers task).inside = true := Iff.rfl

/-- What the place of the event task says of `s_cdc_dev` and of `available`. -/
def EventTask.Fits (dev : CdcHandle) (available : Bool) : EventTask → Prop
  | absent | waiting | received _ | disconnecting | checking => available = dev.isSome
  | opening _ _ | opened _ | coding _ _ | controlling _ _ | publishing _ _ | assigning _ _ =>
      dev = none ∧ available = false
  | closing | clearing => dev.isSome = true
  | releasing connected | updating connected => dev.isSome = connected
  | announcing connected => dev.isSome = connected ∧ available = connected

/-- What holds between any two steps. -/
structure Bridge.Sound (s : Bridge τ) : Prop where
  guarded : s.cdcMutex.Guards s.Inside
  hasPort : (serialPortGet s.ports s.portIndex).isSome = true
  fits : s.eventTask.Fits s.cdcDev s.available
  /-- a task that is about to call the driver has a device to call it with -/
  found : ∀ task call, s.callers task = .calling call → s.cdcDev.isSome = true

theorem serialPortGet_modify {ports : List SerialPort} {portIndex : ℤ} (f : SerialPort → SerialPort)
    (h : (serialPortGet ports portIndex).isSome = true) :
    serialPortGet (ports.modify portIndex.toNat f) portIndex =
      (serialPortGet ports portIndex).map f := by
  unfold serialPortGet at h ⊢
  rw [List.length_modify]
  by_cases hrange : portIndex < 0 ∨ (ports.length : ℤ) ≤ portIndex
  · simp [hrange] at h
  · simp [hrange]

theorem Bridge.setAvailable_eq {s : Bridge τ}
    (h : (serialPortGet s.ports s.portIndex).isSome = true) (connected : Bool) :
    s.setAvailable connected =
      { s with ports := s.ports.modify s.portIndex.toNat ({ · with available := connected }) } := by
  unfold setAvailable
  obtain ⟨port, hport⟩ := Option.isSome_iff_exists.mp h
  rw [hport]

theorem Bridge.available_setAvailable {s : Bridge τ}
    (h : (serialPortGet s.ports s.portIndex).isSome = true) (connected : Bool) :
    (s.setAvailable connected).available = connected := by
  rw [setAvailable_eq h, available, serialPortGet_modify _ h]
  obtain ⟨port, hport⟩ := Option.isSome_iff_exists.mp h
  simp [hport]

/-- The statics when everything has started. -/
def Bridge.initial (baudRate : UInt32) : Bridge τ :=
  { Bridge.zero with
    portIndex := 1
    baudRate := baudRate
    cdcMutex := .free
    ports := serialPorts
    eventTask := .waiting }

theorem Bridge.Started.eq_initial {s : Bridge τ} (h : s.Started) :
    ∃ baudRate, s = initial baudRate := by
  obtain ⟨boot, baudRate, rfl, hat⟩ := h
  refine ⟨baudRate, ?_⟩
  obtain ⟨uartInit, uartStart, queue, mutex, libTask, notified, eventTask⟩ := boot
  by_cases hinit : uartInit = .ok
  · by_cases hstart : uartStart = .ok
    · cases queue <;> cases mutex <;> cases libTask <;> cases notified <;> cases eventTask <;>
        simp_all [serialPortInitAll, usbCdcInit, usbCdcStart, zero, initial]
    · simp [serialPortInitAll, hinit, hstart, zero] at hat
  · simp [serialPortInitAll, hinit, zero] at hat

theorem Bridge.Started.sound {s : Bridge τ} (h : s.Started) : s.Sound := by
  obtain ⟨baudRate, rfl⟩ := h.eq_initial
  exact
    { guarded := Mutex.guards_free fun task hin => by cases task <;> cases hin
      hasPort := rfl
      fits := rfl
      found := fun _ _ hat => by cases hat }

section

variable {vendors : VcpVendors} {err : EspErr} {s t : Bridge τ} {fs : List (BridgeEvent τ)}

/-- The other tasks are where they were. -/
theorem Bridge.Inside.of_event {s t : Bridge τ} (hcallers : t.callers = s.callers)
    (other : UsbTask τ) (hother : other ≠ .event) : t.Inside other ↔ s.Inside other := by
  cases other with
  | event => exact absurd rfl hother
  | caller task => unfold Inside; rw [hcallers]

theorem EventTaskCase.callers_eq (h : EventTaskCase vendors err s t fs) :
    t.callers = s.callers := by
  cases h with
  | updated => unfold Bridge.setAvailable; split <;> rfl
  | _ => rfl

theorem EventTaskCase.guarded (h : EventTaskCase vendors err s t fs)
    (hs : s.cdcMutex.Guards s.Inside) : t.cdcMutex.Guards t.Inside := by
  have hothers := Bridge.Inside.of_event h.callers_eq
  -- a step that neither takes the mutex nor gives it back
  have hstay : t.cdcMutex = s.cdcMutex → t.eventTask.inside = s.eventTask.inside →
      t.cdcMutex.Guards t.Inside := by
    intro hmutex hsame
    rw [hmutex]
    refine hs.stay fun task => ?_
    by_cases htask : task = .event
    · subst htask
      rw [Bridge.inside_event, Bridge.inside_event, hsame]
    · exact hothers task htask
  cases h with
  | publishTaken hat hfree =>
      rw [hfree] at hs
      exact hs.enter rfl hothers
  | disconnectTaken hat hfree =>
      rw [hfree] at hs
      exact hs.enter rfl hothers
  | released hat =>
      exact hs.leave (show s.Inside .event by rw [Bridge.inside_event, hat]; rfl)
        (fun hin' => by cases hin') hothers
  | updated hat =>
      refine hstay ?_ (by rw [hat]; rfl)
      unfold Bridge.setAvailable
      split <;> rfl
  | received hat _ | ignored hat _ | accepted hat _ | removed hat | failed hat _ | opened hat _
  | rateRead hat | coded hat | controlled hat | assigned hat | found hat _ | foundNone hat _
  | closed hat | cleared hat | announced hat =>
      exact hstay rfl (by rw [hat]; rfl)

theorem EventTaskCase.hasPort (h : EventTaskCase vendors err s t fs)
    (hs : (serialPortGet s.ports s.portIndex).isSome = true) :
    (serialPortGet t.ports t.portIndex).isSome = true := by
  cases h with
  | updated =>
      show (serialPortGet (s.setAvailable _).ports (s.setAvailable _).portIndex).isSome = true
      rw [Bridge.setAvailable_eq hs, serialPortGet_modify _ hs, Option.isSome_map, hs]
  | _ => exact hs

theorem EventTaskCase.fits (h : EventTaskCase vendors err s t fs) (hs : s.Sound) :
    t.eventTask.Fits t.cdcDev t.available := by
  have hfits := hs.fits
  cases h with
  | accepted hat hdev =>
      rw [hat] at hfits
      exact ⟨hdev, hfits.trans (by rw [hdev]; rfl)⟩
  | failed hat _ =>
      rw [hat] at hfits
      exact hfits.2.trans (by rw [hfits.1]; rfl)
  | assigned hat => rfl
  | found hat hdev => exact hdev
  | foundNone hat hdev => exact congrArg Option.isSome hdev
  | cleared hat => rfl
  | updated hat =>
      rw [hat] at hfits
      refine ⟨?_, Bridge.available_setAvailable hs.hasPort _⟩
      show (s.setAvailable _).cdcDev.isSome = _
      rw [Bridge.setAvailable_eq hs.hasPort]
      exact hfits
  | announced hat =>
      rw [hat] at hfits
      exact hfits.2.trans hfits.1.symm
  | received hat _ | ignored hat _ | removed hat | opened hat _ | rateRead hat | coded hat
  | controlled hat | publishTaken hat _ | disconnectTaken hat _ | closed hat | released hat =>
      rwa [hat] at hfits

/-- The event task clears `s_cdc_dev` while no other task is about to use it. -/
theorem EventTaskCase.found_step (h : EventTaskCase vendors err s t fs) (hs : s.Sound) (task : τ)
    (call : UsbCall) (hat : t.callers task = .calling call) : t.cdcDev.isSome = true := by
  rw [h.callers_eq] at hat
  have hfound := hs.found task call hat
  cases h with
  | assigned => rfl
  | cleared hclear =>
      have hevent : s.Inside .event := by rw [Bridge.inside_event, hclear]; rfl
      have hcaller : s.Inside (.caller task) := by rw [Bridge.inside_caller, hat]; rfl
      cases hs.guarded.unique hevent hcaller
  | updated =>
      show (s.setAvailable _).cdcDev.isSome = true
      rw [Bridge.setAvailable_eq hs.hasPort]
      exact hfound
  | _ => exact hfound

theorem EventTaskCase.sound (h : EventTaskCase vendors err s t fs) (hs : s.Sound) : t.Sound where
  guarded := h.guarded hs.guarded
  hasPort := h.hasPort hs.hasPort
  fits := h.fits hs
  found := h.found_step hs

variable [DecidableEq τ]

theorem Bridge.callers_setCaller (s : Bridge τ) (task : τ) (caller : Caller) :
    (s.setCaller task caller).callers task = caller :=
  Function.update_self ..

theorem Bridge.callers_setCaller_of_ne (s : Bridge τ) {task other : τ} (h : other ≠ task)
    (caller : Caller) : (s.setCaller task caller).callers other = s.callers other :=
  Function.update_of_ne h ..

theorem Bridge.inside_setCaller (s : Bridge τ) (task : τ) (caller : Caller) (other : UsbTask τ)
    (h : other ≠ .caller task) : (s.setCaller task caller).Inside other ↔ s.Inside other := by
  cases other with
  | event => rfl
  | caller other =>
      have hother : other ≠ task := fun heq => h (heq ▸ rfl)
      rw [inside_caller, inside_caller, callers_setCaller_of_ne s hother]

/-- A step of another task changes where that task is, the rate it stores and the mutex. -/
theorem CallerCase.frame {a : BridgeAction τ} (h : CallerCase s a t fs) :
    ∃ callers baudRate mutex,
      t = { s with callers := callers, baudRate := baudRate, cdcMutex := mutex } := by
  cases h with
  | refused => exact ⟨s.callers, s.baudRate, s.cdcMutex, rfl⟩
  | _ => exact ⟨_, _, _, rfl⟩

theorem CallerCase.guarded {a : BridgeAction τ} (h : CallerCase s a t fs)
    (hs : s.cdcMutex.Guards s.Inside) : t.cdcMutex.Guards t.Inside := by
  -- a step that neither takes the mutex nor gives it back
  have hstay : ∀ (baudRate : UInt32) (task : τ) (caller : Caller),
      caller.inside = (s.callers task).inside →
        s.cdcMutex.Guards ({ s with baudRate := baudRate }.setCaller task caller).Inside := by
    intro baudRate task caller hsame
    refine hs.stay fun other => ?_
    by_cases hother : other = .caller task
    · subst hother
      rw [Bridge.inside_caller, Bridge.inside_caller, Bridge.callers_setCaller, hsame]
    · exact Bridge.inside_setCaller _ task caller other hother
  cases h with
  | refused => exact hs
  | started hat _ | found hat _ | foundNone hat _ | used hat =>
      exact hstay _ _ _ (by rw [hat]; rfl)
  | @taken task _ call hat hfree =>
      rw [hfree] at hs
      refine hs.enter ?_ (Bridge.inside_setCaller s task (.holding call))
      rw [Bridge.inside_caller, Bridge.callers_setCaller]
      rfl
  | @returned task _ _ _ hat =>
      refine hs.leave ?_ (fun hin => ?_) (Bridge.inside_setCaller s task .idle)
      · rw [Bridge.inside_caller, hat]
        rfl
      · rw [Bridge.inside_caller, Bridge.callers_setCaller] at hin
        cases hin

theorem CallerCase.found_step {a : BridgeAction τ} (h : CallerCase s a t fs) (hs : s.Sound)
    (task : τ) (call : UsbCall) (hat : t.callers task = .calling call) :
    t.cdcDev.isSome = true := by
  -- the task of the step is not about to call the driver after it
  have hother : ∀ (s' : Bridge τ) (moved : τ) (caller : Caller), s'.callers = s.callers →
      caller ≠ .calling call → (s'.setCaller moved caller).callers task = .calling call →
        s.cdcDev.isSome = true := by
    intro s' moved caller hsame hne hat'
    by_cases hmoved : task = moved
    · subst hmoved
      rw [Bridge.callers_setCaller] at hat'
      exact absurd hat' hne
    · rw [Bridge.callers_setCaller_of_ne _ hmoved, hsame] at hat'
      exact hs.found task call hat'
  cases h with
  | refused => exact hs.found task call hat
  | started => exact hother _ _ _ rfl (by simp) hat
  | taken => exact hother _ _ _ rfl (by simp) hat
  | found _ hdev => exact hdev
  | foundNone => exact hother _ _ _ rfl (by simp) hat
  | used => exact hother _ _ _ rfl (by simp) hat
  | returned => exact hother _ _ _ rfl (by simp) hat

theorem CallerCase.sound {a : BridgeAction τ} (h : CallerCase s a t fs) (hs : s.Sound) :
    t.Sound where
  guarded := h.guarded hs.guarded
  hasPort := by
    obtain ⟨callers, baudRate, mutex, rfl⟩ := h.frame
    exact hs.hasPort
  fits := by
    obtain ⟨callers, baudRate, mutex, rfl⟩ := h.frame
    exact hs.fits
  found := h.found_step hs

omit [DecidableEq τ] in
/-- The queue is not among what the mutex guards. -/
theorem Bridge.Sound.setQueue (hs : s.Sound) (queue : List UsbEvent) :
    ({ s with eventQueue := queue } : Bridge τ).Sound where
  guarded := hs.guarded
  hasPort := hs.hasPort
  fits := hs.fits
  found := hs.found

theorem Bridge.Sound.step {a : BridgeAction τ} (hs : s.Sound)
    (h : (bridgeMachine τ vendors).step s a = some (t, fs)) : t.Sound := by
  cases bridgeStep_cases h with
  | hostEvent event =>
      obtain ⟨queue, heq⟩ := handleEvent_eq event s
      exact heq ▸ hs.setQueue queue
  | newDev desc =>
      obtain ⟨queue, heq⟩ := newDevCb_eq desc s
      exact heq ▸ hs.setQueue queue
  | event hcase => exact hcase.sound hs
  | caller hcase => exact hcase.sound hs

end

/-! ## The handle that is open -/

/-- The handle a driver call is made with. -/
def DriverCall.dev : DriverCall → Option CdcHandle
  | .open _ _ _ => none
  | lineCodingSet dev _ | setControlLineState dev _ _ | dataTxBlocking dev _ _ | close dev =>
      some dev

/-- The driver has opened the device and was not asked to close it. -/
def IsOpen (es : List (BridgeEvent τ)) (dev : ℕ) : Prop :=
  .opened dev ∈ es ∧ ∀ err, .driver (.close (some dev)) err ∉ es

/-- A driver call is made with a handle that is open. -/
def UsesOpen (before : List (BridgeEvent τ)) (e : BridgeEvent τ) : Prop :=
  ∀ call err dev, e = .driver call err → call.dev = some dev → ∃ d, dev = some d ∧ IsOpen before d

/-- The device the event task is setting up. -/
def EventTask.settingUp : EventTask → Option ℕ
  | opened dev | coding dev _ | controlling dev _ | publishing dev _ | assigning dev _ => some dev
  | _ => none

/-- The handle that is open. -/
def Bridge.handle (s : Bridge τ) : CdcHandle :=
  match s.eventTask with
  | .clearing => none
  | task => task.settingUp.or s.cdcDev

/-- The event neither opens a device nor is a call with a handle. -/
def BridgeEvent.silent : BridgeEvent τ → Bool
  | called _ _ | returned _ _ _ | broadcast _ => true
  | driver call _ => call.dev.isNone
  | opened _ => false

/-- What a step does with the handle. -/
inductive HandleCase (s t : Bridge τ) : List (BridgeEvent τ) → Prop
  | opened {driver : UsbDriver} {vid pid : UInt16} (hbefore : s.handle = none)
      (hafter : t.handle = some s.opens) (hopens : t.opens = s.opens + 1) :
      HandleCase s t [.driver (.open driver vid pid) .ok, .opened s.opens]
  | closed {dev : ℕ} {err : EspErr} (hbefore : s.handle = some dev) (hafter : t.handle = none)
      (hopens : t.opens = s.opens) : HandleCase s t [.driver (.close (some dev)) err]
  | used {call : DriverCall} {dev : ℕ} {err : EspErr} (hdev : call.dev = some (some dev))
      (hclose : ∀ dev, call ≠ .close dev) (hbefore : s.handle = some dev)
      (hafter : t.handle = s.handle) (hopens : t.opens = s.opens) :
      HandleCase s t [.driver call err]
  | silent {fs : List (BridgeEvent τ)} (hsilent : ∀ e ∈ fs, e.silent = true)
      (hafter : t.handle = s.handle) (hopens : t.opens = s.opens) : HandleCase s t fs

/-- What a run has shown, and the handle it has left open. -/
structure HandleInv (es : List (BridgeEvent τ)) (s : Bridge τ) : Prop where
  numbered : ∀ dev, .opened dev ∈ es ↔ dev < s.opens
  closed : ∀ dev err, .driver (.close (some dev)) err ∈ es → dev < s.opens
  live : ∀ dev, IsOpen es dev ↔ s.handle = some dev
  uses : Machine.Throughout UsesOpen es

section

variable {s t : Bridge τ} {es fs : List (BridgeEvent τ)}

theorem UsesOpen.of_silent {e : BridgeEvent τ} (h : e.silent = true) : UsesOpen es e := by
  rintro call err dev rfl hdev
  rw [BridgeEvent.silent, hdev] at h
  cases h

/-- Events that open nothing and close nothing leave the same devices open. -/
theorem isOpen_append (hopened : ∀ dev, .opened dev ∉ fs)
    (hclosed : ∀ dev err, .driver (.close (some dev)) err ∉ fs) (dev : ℕ) :
    IsOpen (es ++ fs) dev ↔ IsOpen es dev := by
  simp [IsOpen, hopened, hclosed]

theorem isOpen_snoc_close (err : EspErr) (dev dev' : ℕ) :
    IsOpen (es ++ [.driver (.close (some dev)) err]) dev' ↔ IsOpen es dev' ∧ dev' ≠ dev := by
  unfold IsOpen
  simp only [List.mem_append, List.mem_singleton, reduceCtorEq, or_false, not_or]
  constructor
  · rintro ⟨hopened, hclosed⟩
    refine ⟨⟨hopened, fun err' => (hclosed err').1⟩, ?_⟩
    rintro rfl
    exact (hclosed err).2 rfl
  · rintro ⟨⟨hopened, hclosed⟩, hne⟩
    refine ⟨hopened, fun err' => ⟨hclosed err', fun heq => hne ?_⟩⟩
    injection heq with hcall
    injection hcall with hdev
    exact Option.some.inj hdev

/-- A device that was not closed before it was opened is open. -/
theorem isOpen_append_open {driver : UsbDriver} {vid pid : UInt16} {dev : ℕ}
    (hfresh : ∀ err, .driver (.close (some dev)) err ∉ es) (dev' : ℕ) :
    IsOpen (es ++ [.driver (.open driver vid pid) .ok, .opened dev]) dev' ↔
      IsOpen es dev' ∨ dev' = dev := by
  unfold IsOpen
  simp only [List.mem_append, List.mem_cons, List.not_mem_nil, reduceCtorEq, false_or, or_false,
    BridgeEvent.opened.injEq, BridgeEvent.driver.injEq, false_and]
  constructor
  · rintro ⟨hopened | rfl, hclosed⟩
    · exact .inl ⟨hopened, hclosed⟩
    · exact .inr rfl
  · rintro (⟨hopened, hclosed⟩ | rfl)
    · exact ⟨.inl hopened, hclosed⟩
    · exact ⟨.inr rfl, hfresh⟩

/-- The driver numbers the devices it opens, so a new one was never closed. -/
theorem HandleInv.fresh (h : HandleInv es s) (err : EspErr) :
    .driver (.close (some s.opens)) err ∉ es :=
  fun hmem => (h.closed _ err hmem).false

/-- A step that opens and closes nothing, and whose calls are made with the open handle. -/
theorem HandleInv.kept (h : HandleInv es s) (hopened : ∀ dev, .opened dev ∉ fs)
    (hclosed : ∀ dev err, .driver (.close (some dev)) err ∉ fs) (hafter : t.handle = s.handle)
    (hopens : t.opens = s.opens) (huses : Machine.Throughout UsesOpen (es ++ fs)) :
    HandleInv (es ++ fs) t where
  numbered dev := by
    rw [List.mem_append, or_iff_left (hopened dev), hopens]
    exact h.numbered dev
  closed dev err hmem := by
    rw [List.mem_append, or_iff_left (hclosed dev err)] at hmem
    rw [hopens]
    exact h.closed dev err hmem
  live dev := by
    rw [isOpen_append hopened hclosed, hafter]
    exact h.live dev
  uses := huses

theorem HandleInv.opening (h : HandleInv es s) (driver : UsbDriver) (vid pid : UInt16)
    (hbefore : s.handle = none) (hafter : t.handle = some s.opens)
    (hopens : t.opens = s.opens + 1) :
    HandleInv (es ++ [.driver (.open driver vid pid) .ok, .opened s.opens]) t where
  numbered dev := by
    simp only [List.mem_append, h.numbered, List.mem_cons, reduceCtorEq, false_or,
      BridgeEvent.opened.injEq, List.not_mem_nil, or_false, hopens]
    omega
  closed dev err hmem := by
    have := h.closed dev err (by simpa using hmem)
    omega
  live dev := by
    -- nothing was open before
    have hnone : ¬IsOpen es dev := fun hopen => by
      rw [h.live, hbefore] at hopen
      cases hopen
    rw [isOpen_append_open h.fresh, or_iff_right hnone, hafter, Option.some.injEq, eq_comm]
  uses := by
    have hsilent : (BridgeEvent.driver (τ := τ) (.open driver vid pid) .ok).silent = true := rfl
    have huses := (h.uses.snoc (UsesOpen.of_silent hsilent)).snoc
      (e := .opened s.opens) fun _ _ _ heq => by cases heq
    rwa [List.append_assoc] at huses

theorem HandleInv.closing {dev : ℕ} (h : HandleInv es s) (err : EspErr)
    (hbefore : s.handle = some dev) (hafter : t.handle = none) (hopens : t.opens = s.opens) :
    HandleInv (es ++ [.driver (.close (some dev)) err]) t := by
  have hopen : IsOpen es dev := (h.live dev).mpr hbefore
  constructor
  · intro dev'
    simpa [hopens] using h.numbered dev'
  · intro dev' err' hmem
    rw [hopens]
    rcases List.mem_append.mp hmem with hmem | hmem
    · exact h.closed dev' err' hmem
    · cases List.mem_singleton.mp hmem
      exact (h.numbered dev).mp hopen.1
  · intro dev'
    rw [isOpen_snoc_close, h.live, hbefore, hafter]
    refine iff_of_false (fun hdev => ?_) (by simp)
    exact hdev.2 (Option.some.inj hdev.1).symm
  · refine h.uses.snoc fun call err' dev' heq hdev => ?_
    cases heq
    cases hdev
    exact ⟨dev, rfl, hopen⟩

theorem HandleInv.step (h : HandleInv es s) (hcase : HandleCase s t fs) :
    HandleInv (es ++ fs) t := by
  cases hcase with
  | opened hbefore hafter hopens => exact h.opening _ _ _ hbefore hafter hopens
  | closed hbefore hafter hopens => exact h.closing _ hbefore hafter hopens
  | @used call dev err hdev hclose hbefore hafter hopens =>
      refine h.kept (by simp) (fun dev' err' hmem => ?_) hafter hopens ?_
      · cases List.mem_singleton.mp hmem
        exact hclose _ rfl
      · refine h.uses.snoc fun call' err' dev' heq hdev' => ?_
        cases heq
        exact ⟨dev, Option.some.inj (hdev'.symm.trans hdev), (h.live dev).mpr hbefore⟩
  | silent hsilent hafter hopens =>
      refine h.kept (fun dev hmem => ?_) (fun dev err hmem => ?_) hafter hopens ?_
      · cases hsilent _ hmem
      · cases hsilent _ hmem
      · refine h.uses.append fun pre e post heq => UsesOpen.of_silent (hsilent e ?_)
        rw [heq]
        simp

theorem EventTaskCase.handleCase {vendors : VcpVendors} {err : EspErr}
    (h : EventTaskCase vendors err s t fs) (hs : s.Sound) : HandleCase s t fs := by
  have hfits := hs.fits
  -- a step between two places that mean the same handle
  have hsilent : fs = [] → t.handle = s.handle → t.opens = s.opens → HandleCase s t fs := by
    rintro rfl hafter hopens
    exact .silent (by simp) hafter hopens
  cases h with
  | opened hat herr =>
      rw [hat] at hfits
      subst herr
      exact .opened (by rw [Bridge.handle, hat]; exact hfits.1) rfl rfl
  | coded hat | controlled hat =>
      exact .used rfl (by simp) (by rw [Bridge.handle, hat]; rfl)
        (by rw [Bridge.handle, Bridge.handle, hat]; rfl) rfl
  | closed hat =>
      rw [hat] at hfits
      obtain ⟨dev, hdev⟩ := Option.isSome_iff_exists.mp hfits
      rw [hdev]
      exact .closed (by rw [Bridge.handle, hat]; exact hdev) rfl rfl
  | updated hat =>
      refine hsilent rfl ?_ ?_
      · rw [Bridge.setAvailable_eq hs.hasPort, Bridge.handle, Bridge.handle, hat]
        rfl
      · rw [Bridge.setAvailable_eq hs.hasPort]
  | failed hat =>
      exact .silent (by simp [BridgeEvent.silent, DriverCall.dev])
        (by rw [Bridge.handle, Bridge.handle, hat]; rfl) rfl
  | announced hat =>
      exact .silent (by simp [BridgeEvent.silent])
        (by rw [Bridge.handle, Bridge.handle, hat]; rfl) rfl
  | received hat _ | ignored hat _ | accepted hat _ | removed hat | rateRead hat
  | publishTaken hat _ | assigned hat | disconnectTaken hat _ | found hat _ | foundNone hat _
  | cleared hat | released hat =>
      exact hsilent rfl (by rw [Bridge.handle, Bridge.handle, hat]; rfl) rfl

/-- A task that is about to call the driver finds the open handle in `s_cdc_dev`. -/
theorem Bridge.Sound.calling {task : τ} {call : UsbCall} (hs : s.Sound)
    (hat : s.callers task = .calling call) : ∃ dev, s.cdcDev = some dev ∧ s.handle = some dev := by
  obtain ⟨dev, hdev⟩ := Option.isSome_iff_exists.mp (hs.found task call hat)
  refine ⟨dev, hdev, ?_⟩
  have hfits := hs.fits
  unfold Bridge.handle
  cases hevent : s.eventTask with
  | clearing =>
      have hin : s.Inside .event := by rw [Bridge.inside_event, hevent]; rfl
      have hin' : s.Inside (.caller task) := by rw [Bridge.inside_caller, hat]; rfl
      cases hs.guarded.unique hin hin'
  | opened | coding | controlling | publishing | assigning =>
      simp [hevent, EventTask.Fits, hdev] at hfits
  | _ => exact hdev

theorem CallerCase.handleCase [DecidableEq τ] {a : BridgeAction τ} (h : CallerCase s a t fs)
    (hs : s.Sound) : HandleCase s t fs := by
  have hframe : t.handle = s.handle ∧ t.opens = s.opens := by
    obtain ⟨callers, baudRate, mutex, rfl⟩ := h.frame
    exact ⟨rfl, rfl⟩
  cases h with
  | @used task err call hat =>
      obtain ⟨dev, hdev, hhandle⟩ := hs.calling hat
      rw [hdev]
      cases call with
      | send => exact .used rfl (by simp) hhandle hframe.1 hframe.2
      | setBaudRate => exact .used rfl (by simp) hhandle hframe.1 hframe.2
      | isConnected => exact .silent (by simp [UsbCall.driverCall]) hframe.1 hframe.2
  | _ => exact .silent (by simp [BridgeEvent.silent]) hframe.1 hframe.2

theorem bridgeStep_handleCase [DecidableEq τ] {vendors : VcpVendors} {a : BridgeAction τ}
    (hs : s.Sound) (h : (bridgeMachine τ vendors).step s a = some (t, fs)) :
    HandleCase s t fs := by
  cases bridgeStep_cases h with
  | hostEvent event =>
      obtain ⟨queue, heq⟩ := handleEvent_eq event s
      rw [heq]
      exact .silent (by simp) rfl rfl
  | newDev desc =>
      obtain ⟨queue, heq⟩ := newDevCb_eq desc s
      rw [heq]
      exact .silent (by simp) rfl rfl
  | event hcase => exact hcase.handleCase hs
  | caller hcase => exact hcase.handleCase hs

theorem Bridge.Started.handleInv (h : s.Started) : HandleInv [] s := by
  obtain ⟨baudRate, rfl⟩ := h.eq_initial
  exact
    { numbered := fun dev => by simp [Bridge.initial, Bridge.zero]
      closed := fun dev err hmem => by cases hmem
      live := fun dev => by simp [IsOpen, Bridge.initial, Bridge.zero, Bridge.handle,
        EventTask.settingUp]
      uses := Machine.throughout_nil _ }

/-- The invariants of every run of the bridge. -/
theorem bridge_invariants [DecidableEq τ] {vendors : VcpVendors} {as : List (BridgeAction τ)}
    (hs : s.Started) (hrun : (bridgeMachine τ vendors).Run s as es t) :
    t.Sound ∧ HandleInv es t := by
  refine hrun.history (P := fun _ => True) (I := fun es t => t.Sound ∧ HandleInv es t)
    (fun _ _ h => h) ⟨hs.sound, hs.handleInv⟩ ?_ trivial
  intro es u a v fs _ hinv hstep
  exact ⟨hinv.1.step hstep, hinv.2.step (bridgeStep_handleCase hinv.1 hstep)⟩

/-- Over any interleaving of the event task with the callers and the callbacks, a driver call
is made with the open handle only, no handle is closed twice, at most one is open, it is
published or being set up, and `available` is right whenever the event task waits. -/
theorem handle_safe [DecidableEq τ] {vendors : VcpVendors} {as : List (BridgeAction τ)}
    (hs : s.Started) (hrun : (bridgeMachine τ vendors).Run s as es t) :
    (∀ before call err after dev, es = before ++ .driver call err :: after →
      call.dev = some dev → ∃ d, dev = some d ∧ IsOpen before d) ∧
    (∀ before dev err after, es = before ++ .driver (.close dev) err :: after →
      ∀ err', .driver (.close dev) err' ∉ before) ∧
    (∀ dev dev', IsOpen es dev → IsOpen es dev' → dev = dev') ∧
    (∀ dev, IsOpen es dev → t.cdcDev = some dev ∨ t.eventTask.settingUp = some dev) ∧
    (t.eventTask = .waiting → t.available = t.cdcDev.isSome) := by
  obtain ⟨hsound, hinv⟩ := bridge_invariants hs hrun
  have huses : ∀ before call err after dev, es = before ++ .driver call err :: after →
      call.dev = some dev → ∃ d, dev = some d ∧ IsOpen before d :=
    fun before call err after dev heq hdev => hinv.uses before _ after heq call err dev rfl hdev
  refine ⟨huses, fun before dev err after heq err' hmem => ?_, fun dev dev' hopen hopen' => ?_,
    fun dev hopen => ?_, fun hat => ?_⟩
  · obtain ⟨d, rfl, hopen⟩ := huses before _ err after dev heq rfl
    exact hopen.2 err' hmem
  · rw [hinv.live] at hopen hopen'
    exact Option.some.inj (hopen.symm.trans hopen')
  · rw [hinv.live, Bridge.handle] at hopen
    split at hopen
    · cases hopen
    · rcases Option.or_eq_some_iff.mp hopen with hsetting | ⟨-, hdev⟩
      · exact .inr hsetting
      · exact .inl hdev
  · have hfits := hsound.fits
    rw [hat] at hfits
    exact hfits

end

end

/-- Everything is created, and the USB host is installed in time. -/
def demoSerialBoot : SerialBoot := ⟨.ok, .ok, true, true, true, true, true⟩

/-- The bridge of a device that has started, with the one task of the server. -/
def demoBridge : Bridge Unit := (Bridge.serialPortInitAll demoSerialBoot 115200).2

theorem demoBridge_started : demoBridge.Started := ⟨demoSerialBoot, 115200, rfl, rfl⟩

def demoVendors : VcpVendors := ⟨0x0403, 0x1A86, 0x10C4⟩

/-- A CH340 is plugged in. -/
def demoPlug : BridgeAction Unit := .newDev (some (0x1A86, 0x7523))

/-- So many steps of the event task, with a driver that accepts everything. -/
def demoSteps (n : ℕ) : List (BridgeAction Unit) := List.replicate n (.event .ok)

/-- A call from its start to its end. -/
def demoUsbCall (call : UsbCall) : List (BridgeAction Unit) :=
  .call () call :: List.replicate 4 (.run () .ok)

/-- A device is plugged in, a byte is sent to it, and it is removed. -/
def demoUse : List (BridgeAction Unit) :=
  [demoPlug] ++ demoSteps 11 ++ demoUsbCall (.send [65]) ++ [.hostEvent .disconnected] ++
    demoSteps 9

def demoUsed (s : Bridge Unit) (es : List (BridgeEvent Unit)) : Bool :=
  decide (s.eventTask = .waiting) && decide (s.cdcDev = none) &&
    decide (.driver (.close (some 0)) .ok ∈ es) &&
      decide (.driver (.dataTxBlocking (some 0) [65] txTimeoutMs) .ok ∈ es)

/-- The device that was used and closed. -/
theorem handle_safe_used :
    ∃ es t, (bridgeMachine Unit demoVendors).Run demoBridge demoUse es t ∧
      .driver (.close (some 0)) .ok ∈ es ∧
      (∃ before after, IsOpen before 0 ∧
        es = before ++ .driver (.dataTxBlocking (some 0) [65] txTimeoutMs) .ok :: after) ∧
      t.available = false := by
  obtain ⟨t, es, hrun, hused⟩ := Machine.Run.exists_of_exec
    (M := bridgeMachine Unit demoVendors) (s := demoBridge) (p := demoUsed)
    (show ((bridgeMachine Unit demoVendors).exec demoBridge demoUse).any _ = true by decide +kernel)
  simp only [demoUsed, Bool.and_eq_true, decide_eq_true_eq] at hused
  obtain ⟨⟨⟨hat, hdev⟩, hclose⟩, hsent⟩ := hused
  obtain ⟨huses, -, -, -, havailable⟩ := handle_safe demoBridge_started hrun
  obtain ⟨before, after, heq⟩ := List.append_of_mem hsent
  obtain ⟨d, hd, hopen⟩ := huses before _ _ after _ heq rfl
  obtain rfl := Option.some.inj hd
  exact ⟨es, t, hrun, hclose, ⟨before, after, hopen, heq⟩,
    (havailable hat).trans (by rw [hdev]; rfl)⟩

end WebTerminal
