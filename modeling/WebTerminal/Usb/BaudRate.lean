import WebTerminal.Usb.Handles

/-!
# Baud rate changes during a hot-plug

`usb_cdc_set_baud_rate` stores the rate, then applies it to the published device if there is
one.  The event task reads the stored rate before it sets the line coding of a device it has
not published yet.  A change that is stored after this read and finds nothing published is
lost: `MissesSetUp` is the step in which that happens, and `rate_applied` says that nothing
else loses a rate.
-/

set_option autoImplicit false

namespace WebTerminal

section

variable {τ : Type}

/-- The rate of the last call of `usb_cdc_set_baud_rate`. -/
def lastRate (initial : UInt32) (es : List (BridgeEvent τ)) : UInt32 :=
  es.foldl (fun rate e =>
    match e with
    | .called _ call => call.stored rate
    | _ => rate) initial

/-- The line coding last applied to a device. -/
def lastCoding (dev : ℕ) (es : List (BridgeEvent τ)) : Option LineCoding :=
  es.foldl (fun last e =>
    match e with
    | .driver (.lineCodingSet (some dev') coding) .ok => if dev' = dev then some coding else last
    | _ => last) none

/-- The driver takes every line coding. -/
def CodingSucceeds (es : List (BridgeEvent τ)) : Prop :=
  ∀ dev coding err, .driver (.lineCodingSet dev coding) err ∈ es → err = .ok

/-- No task but `httpd` changes the rate. -/
def RateSetBy (httpd : τ) (es : List (BridgeEvent τ)) : Prop :=
  ∀ task baudRate, .called task (.setBaudRate baudRate) ∈ es → task = httpd

/-- The line coding of a device that is not published yet. -/
def EventTask.pendingCoding : EventTask → Option LineCoding
  | coding _ c | controlling _ c | publishing _ c | assigning _ c => some c
  | _ => none

/-- The step finds no device, while the event task sets one up with a rate it read before
the rate of the call was stored. -/
def Bridge.MissesSetUp (s : Bridge τ) (a : BridgeAction τ) : Prop :=
  ∃ task err baudRate coding, a = .run task err ∧
    s.callers task = .holding (.setBaudRate baudRate) ∧ s.cdcDev = none ∧
    s.eventTask.pendingCoding = some coding ∧ coding ≠ lineCodingAt baudRate

/-! ## The invariant -/

/-- The rate a call has stored and not applied yet. -/
def UsbCall.rate : UsbCall → Option UInt32
  | setBaudRate baudRate => some baudRate
  | _ => none

def Caller.setting : Caller → Option UInt32
  | taking call | holding call | calling call => call.rate
  | _ => none

/-- The device the event task has set the line coding of, and the coding. -/
def EventTask.coded : EventTask → Option (ℕ × LineCoding)
  | controlling dev c | publishing dev c | assigning dev c => some (dev, c)
  | _ => none

/-- Where the stored rate has got to. -/
structure RateInv (httpd : τ) (initial : UInt32) (es : List (BridgeEvent τ)) (s : Bridge τ) :
    Prop where
  created : s.cdcMutex ≠ .absent
  stored : s.baudRate = lastRate initial es
  setting : ∀ task baudRate, (s.callers task).setting = some baudRate →
    task = httpd ∧ baudRate = s.baudRate
  /-- the published device has the rate, or is about to get it -/
  applied : ∀ dev, s.cdcDev = some dev →
    lastCoding dev es = some (lineCodingAt s.baudRate) ∨ (s.callers httpd).setting.isSome = true
  /-- so has the device that is being set up -/
  pending : ∀ coding, s.eventTask.pendingCoding = some coding →
    coding = lineCodingAt s.baudRate ∨ (s.callers httpd).setting.isSome = true
  coded : ∀ dev coding, s.eventTask.coded = some (dev, coding) → lastCoding dev es = some coding

section

variable {httpd : τ} {initial : UInt32} {es fs : List (BridgeEvent τ)} {s t : Bridge τ}

theorem lastRate_append (es fs : List (BridgeEvent τ)) :
    lastRate initial (es ++ fs) = lastRate (lastRate initial es) fs :=
  List.foldl_append ..

theorem lastCoding_snoc (dev : ℕ) (coding : LineCoding) (es : List (BridgeEvent τ)) :
    lastCoding dev (es ++ [.driver (.lineCodingSet (some dev) coding) .ok]) = some coding := by
  simp [lastCoding]

/-- The events apply no line coding. -/
def Uncoded (fs : List (BridgeEvent τ)) : Prop :=
  ∀ dev coding err, .driver (.lineCodingSet dev coding) err ∉ fs

theorem lastCoding_append_uncoded (h : Uncoded fs) (dev : ℕ) (es : List (BridgeEvent τ)) :
    lastCoding dev (es ++ fs) = lastCoding dev es := by
  induction fs using List.reverseRecOn with
  | nil => rw [List.append_nil]
  | append_singleton fs e ih =>
      rw [← List.append_assoc, lastCoding, List.foldl_append, ← lastCoding,
        ih fun dev coding err hmem => h dev coding err (List.mem_append_left _ hmem)]
      simp only [List.foldl_cons, List.foldl_nil]
      split
      · exact absurd (List.mem_append_right _ (List.mem_singleton_self _)) (h _ _ _)
      · rfl

theorem EventTaskCase.lastRate_eq {vendors : VcpVendors} {err : EspErr}
    (h : EventTaskCase vendors err s t fs) (es : List (BridgeEvent τ)) :
    lastRate initial (es ++ fs) = lastRate initial es := by
  rw [lastRate_append]
  cases h <;> rfl

/-- The event task does not store a rate. -/
theorem EventTaskCase.baudRate_eq {vendors : VcpVendors} {err : EspErr}
    (h : EventTaskCase vendors err s t fs) : t.baudRate = s.baudRate := by
  cases h with
  | updated => unfold Bridge.setAvailable; split <;> rfl
  | _ => rfl

theorem EventTaskCase.created {vendors : VcpVendors} {err : EspErr}
    (h : EventTaskCase vendors err s t fs) (hs : s.cdcMutex ≠ .absent) : t.cdcMutex ≠ .absent := by
  cases h with
  | publishTaken => simp
  | disconnectTaken => simp
  | released => cases hmutex : s.cdcMutex <;> simp_all [Mutex.give]
  | updated => unfold Bridge.setAvailable; split <;> exact hs
  | _ => exact hs

/-- The event task applies a line coding in one step only. -/
theorem EventTaskCase.uncoded {vendors : VcpVendors} {err : EspErr}
    (h : EventTaskCase vendors err s t fs) :
    Uncoded fs ∨ ∃ dev coding, s.eventTask = .coding dev coding ∧
      t.eventTask = .controlling dev coding ∧ t.cdcDev = s.cdcDev ∧
      fs = [.driver (.lineCodingSet (some dev) coding) err] := by
  cases h with
  | coded hat => exact .inr ⟨_, _, hat, rfl, rfl, rfl⟩
  | _ => exact .inl (by simp [Uncoded])

/-- Nothing is published while a device is set up. -/
theorem Bridge.Sound.cdcDev_of_pending (hs : s.Sound) {coding : LineCoding}
    (h : s.eventTask.pendingCoding = some coding) : s.cdcDev = none := by
  have hfits := hs.fits
  cases hat : s.eventTask with
  | coding | controlling | publishing | assigning => rw [hat] at hfits; exact hfits.1
  | _ => rw [hat] at h; cases h

theorem EventTask.pendingCoding_of_coded {task : EventTask} {dev : ℕ} {coding : LineCoding}
    (h : task.coded = some (dev, coding)) : task.pendingCoding = some coding := by
  cases task with
  | controlling | publishing | assigning => exact congrArg (Option.map Prod.snd) h
  | _ => cases h

theorem EventTaskCase.rateInv {vendors : VcpVendors} {err : EspErr}
    (h : EventTaskCase vendors err s t fs) (hs : s.Sound) (hinv : RateInv httpd initial es s)
    (hcoding : CodingSucceeds (es ++ fs)) : RateInv httpd initial (es ++ fs) t where
  created := h.created hinv.created
  stored := by rw [h.baudRate_eq, h.lastRate_eq, hinv.stored]
  setting := by
    rw [h.callers_eq, h.baudRate_eq]
    exact hinv.setting
  applied := by
    rw [h.callers_eq, h.baudRate_eq]
    intro dev hdev
    rcases h.uncoded with hnone | ⟨dev', coding, hat, -, hsame, -⟩
    · rw [lastCoding_append_uncoded hnone]
      cases h with
      -- the handle is published with the coding it was set up with
      | @assigned dev' coding hat =>
          obtain rfl := Option.some.inj hdev
          rw [hinv.coded dev' coding (by rw [hat]; rfl)]
          exact (hinv.pending coding (by rw [hat]; rfl)).imp_left (congrArg some)
      | cleared => cases hdev
      | updated =>
          refine hinv.applied dev ?_
          rw [← hdev]
          unfold Bridge.setAvailable
          split <;> rfl
      | _ => exact hinv.applied dev hdev
    -- while a device is set up there is no handle to speak of
    · rw [hsame, hs.cdcDev_of_pending (show s.eventTask.pendingCoding = some coding by
        rw [hat]; rfl)] at hdev
      cases hdev
  pending := by
    rw [h.callers_eq, h.baudRate_eq]
    intro coding hpending
    cases h with
    -- the coding starts as the rate that is stored
    | rateRead => exact .inl (Option.some.inj hpending).symm
    | coded hat | controlled hat | publishTaken hat =>
        exact hinv.pending coding (by rw [hat]; exact hpending)
    | _ => cases hpending
  coded := by
    intro dev coding hcoded
    rcases h.uncoded with hnone | ⟨dev', coding', -, hat', -, rfl⟩
    · rw [lastCoding_append_uncoded hnone]
      cases h with
      | coded => exact absurd (List.mem_singleton_self _) (hnone _ _ _)
      | controlled hat => exact hinv.coded dev coding (by rw [hat]; exact hcoded)
      | publishTaken hat => exact hinv.coded dev coding (by rw [hat]; exact hcoded)
      | _ => cases hcoded
    · rw [hat'] at hcoded
      obtain ⟨rfl, rfl⟩ := Prod.mk.inj (Option.some.inj hcoded)
      obtain rfl := hcoding _ _ err (List.mem_append_right _ (List.mem_singleton_self _))
      exact lastCoding_snoc _ _ _

/-- A step that leaves the rates alone. -/
theorem RateInv.of_settings (hinv : RateInv httpd initial es s) (hcreated : t.cdcMutex ≠ .absent)
    (hrate : t.baudRate = s.baudRate)
    (hsetting : ∀ task, (t.callers task).setting = (s.callers task).setting)
    (hdev : t.cdcDev = s.cdcDev) (hat : t.eventTask = s.eventTask)
    (hlast : lastRate initial (es ++ fs) = lastRate initial es) (hnone : Uncoded fs) :
    RateInv httpd initial (es ++ fs) t where
  created := hcreated
  stored := by rw [hrate, hlast, hinv.stored]
  setting := by
    intro task baudRate hset
    rw [hsetting] at hset
    rw [hrate]
    exact hinv.setting task baudRate hset
  applied := by
    intro dev hpublished
    rw [hdev] at hpublished
    rw [lastCoding_append_uncoded hnone, hrate, hsetting]
    exact hinv.applied dev hpublished
  pending := by
    intro coding hpending
    rw [hat] at hpending
    rw [hrate, hsetting]
    exact hinv.pending coding hpending
  coded := by
    intro dev coding hcoded
    rw [hat] at hcoded
    rw [lastCoding_append_uncoded hnone]
    exact hinv.coded dev coding hcoded

variable [DecidableEq τ]

theorem Bridge.setting_setCaller (s : Bridge τ) {task : τ} {caller : Caller}
    (h : caller.setting = (s.callers task).setting) (other : τ) :
    ((s.setCaller task caller).callers other).setting = (s.callers other).setting := by
  by_cases hother : other = task
  · subst hother
    rw [callers_setCaller, h]
  · rw [callers_setCaller_of_ne s hother]

theorem UsbCall.rate_eq_some {call : UsbCall} {baudRate : UInt32} :
    call.rate = some baudRate ↔ call = .setBaudRate baudRate := by
  cases call <;> simp [rate]

theorem UsbCall.stored_of_rate {call : UsbCall} (h : call.rate = none) (baudRate : UInt32) :
    call.stored baudRate = baudRate := by
  cases call with
  | setBaudRate => cases h
  | _ => rfl

omit [DecidableEq τ] in
theorem UsbCall.uncoded_of_rate {call : UsbCall} (h : call.rate = none) (dev : CdcHandle)
    (err : EspErr) :
    Uncoded (τ := τ) ((call.driverCall dev).toList.map (.driver · err)) := by
  cases call with
  | setBaudRate => cases h
  | _ => simp [Uncoded, driverCall]

/-- The start of a change of the rate. -/
theorem RateInv.started {baudRate : UInt32} (hinv : RateInv httpd initial es s)
    (hat : s.callers httpd = .idle) :
    RateInv httpd initial (es ++ [.called httpd (.setBaudRate baudRate)])
      ({ s with baudRate := baudRate }.setCaller httpd (.taking (.setBaudRate baudRate))) where
  created := hinv.created
  stored := by rw [lastRate_append]; rfl
  setting := by
    intro task baudRate' hset
    by_cases htask : task = httpd
    · subst htask
      rw [Bridge.callers_setCaller] at hset
      exact ⟨rfl, (Option.some.inj hset).symm⟩
    · rw [Bridge.callers_setCaller_of_ne _ htask] at hset
      exact absurd (hinv.setting task baudRate' hset).1 htask
  applied := fun _ _ => .inr (by rw [Bridge.callers_setCaller]; rfl)
  pending := fun _ _ => .inr (by rw [Bridge.callers_setCaller]; rfl)
  coded := by
    intro dev coding hcoded
    rw [lastCoding_append_uncoded (by simp [Uncoded])]
    exact hinv.coded dev coding hcoded

/-- A change of the rate that finds no device has nothing left to do. -/
theorem RateInv.foundNone {baudRate : UInt32} (hinv : RateInv httpd initial es s)
    (hat : s.callers httpd = .holding (.setBaudRate baudRate)) (hdev : s.cdcDev = none)
    (hmiss : ∀ coding, s.eventTask.pendingCoding = some coding → coding = lineCodingAt baudRate) :
    RateInv httpd initial es
      (s.setCaller httpd (.giving (.setBaudRate baudRate) (.err .ok))) where
  created := hinv.created
  stored := hinv.stored
  setting := by
    intro task baudRate' hset
    by_cases htask : task = httpd
    · subst htask
      rw [Bridge.callers_setCaller] at hset
      cases hset
    · rw [Bridge.callers_setCaller_of_ne _ htask] at hset
      exact hinv.setting task baudRate' hset
  applied := fun dev hpublished => by cases hdev.symm.trans hpublished
  pending := by
    intro coding hpending
    obtain ⟨-, rfl⟩ := hinv.setting httpd baudRate (by rw [hat]; rfl)
    exact .inl (hmiss coding hpending)
  coded := hinv.coded

/-- A change of the rate that finds a device applies it. -/
theorem RateInv.used {baudRate : UInt32} {err : EspErr} (hinv : RateInv httpd initial es s)
    (hs : s.Sound) (hat : s.callers httpd = .calling (.setBaudRate baudRate)) :
    RateInv httpd initial
      (es ++ [.driver (.lineCodingSet s.cdcDev (lineCodingAt baudRate)) .ok])
      (s.setCaller httpd
        (.giving (.setBaudRate baudRate) ((UsbCall.setBaudRate baudRate).answer err))) where
  created := hinv.created
  stored := by
    rw [lastRate_append]
    exact hinv.stored
  setting := by
    intro task baudRate' hset
    by_cases htask : task = httpd
    · subst htask
      rw [Bridge.callers_setCaller] at hset
      cases hset
    · rw [Bridge.callers_setCaller_of_ne _ htask] at hset
      exact hinv.setting task baudRate' hset
  applied := by
    intro dev hpublished
    have hdev : s.cdcDev = some dev := hpublished
    obtain ⟨-, rfl⟩ := hinv.setting httpd baudRate (by rw [hat]; rfl)
    rw [hdev]
    exact .inl (lastCoding_snoc _ _ _)
  pending := by
    intro coding hpending
    obtain ⟨dev, hdev, -⟩ := hs.calling hat
    have hnone : s.cdcDev = none := hs.cdcDev_of_pending hpending
    cases hdev.symm.trans hnone
  coded := by
    intro dev coding hcoded
    obtain ⟨dev', hdev, -⟩ := hs.calling hat
    have hnone : s.cdcDev = none :=
      hs.cdcDev_of_pending (EventTask.pendingCoding_of_coded hcoded)
    cases hdev.symm.trans hnone

theorem CallerCase.rateInv {a : BridgeAction τ} (h : CallerCase s a t fs) (hs : s.Sound)
    (hinv : RateInv httpd initial es s) (hhttpd : RateSetBy httpd (es ++ fs))
    (hcoding : CodingSucceeds (es ++ fs)) (hmiss : ¬s.MissesSetUp a) :
    RateInv httpd initial (es ++ fs) t := by
  cases h with
  | refused hat habsent => exact absurd habsent hinv.created
  | @started task call hat =>
      -- only the call of the one task that sets the rate stores one
      cases hrate : call.rate with
      | none =>
          refine hinv.of_settings hinv.created (UsbCall.stored_of_rate hrate _)
            (Bridge.setting_setCaller _ (by rw [hat]; exact hrate)) rfl rfl ?_ (by simp [Uncoded])
          rw [lastRate_append]
          exact UsbCall.stored_of_rate hrate _
      | some baudRate =>
          obtain rfl := UsbCall.rate_eq_some.mp hrate
          obtain rfl := hhttpd task baudRate (by simp)
          exact hinv.started hat
  | taken hat =>
      exact hinv.of_settings (by simp [Bridge.setCaller]) rfl
        (Bridge.setting_setCaller _ (by rw [hat]; rfl)) rfl rfl (by rw [List.append_nil])
        (by simp [Uncoded])
  | found hat =>
      exact hinv.of_settings hinv.created rfl (Bridge.setting_setCaller _ (by rw [hat]; rfl)) rfl
        rfl (by rw [List.append_nil]) (by simp [Uncoded])
  | @foundNone task err call hat hdev =>
      cases hrate : call.rate with
      | none =>
          exact hinv.of_settings hinv.created rfl
            (Bridge.setting_setCaller _ (by rw [hat]; exact hrate.symm)) rfl rfl
            (by rw [List.append_nil]) (by simp [Uncoded])
      | some baudRate =>
          obtain rfl := UsbCall.rate_eq_some.mp hrate
          obtain rfl := (hinv.setting task baudRate (by rw [hat]; rfl)).1
          rw [List.append_nil]
          refine hinv.foundNone hat hdev fun coding hpending => ?_
          -- a rate stored behind the read of the event task is a missed set-up
          by_contra hne
          exact hmiss ⟨task, err, baudRate, coding, rfl, hat, hdev, hpending, hne⟩
  | @used task err call hat =>
      cases hrate : call.rate with
      | none =>
          refine hinv.of_settings hinv.created rfl
            (Bridge.setting_setCaller _ (by rw [hat]; exact hrate.symm)) rfl rfl ?_
            (UsbCall.uncoded_of_rate hrate _ _)
          rw [lastRate_append]
          cases call <;> rfl
      | some baudRate =>
          obtain rfl := UsbCall.rate_eq_some.mp hrate
          obtain rfl := (hinv.setting task baudRate (by rw [hat]; rfl)).1
          -- the driver takes the rate, so the device has it from here on
          obtain rfl := hcoding _ _ err (List.mem_append_right _ (List.mem_singleton_self _))
          exact hinv.used hs hat
  | returned hat =>
      -- giving the mutex back does not take it away
      refine hinv.of_settings ?_ rfl (Bridge.setting_setCaller _ (by rw [hat]; rfl)) rfl rfl
        (by rw [lastRate_append]; rfl) (by simp [Uncoded])
      have hcreated := hinv.created
      show s.cdcMutex.give ≠ .absent
      cases hmutex : s.cdcMutex <;> simp_all [Mutex.give]

omit [DecidableEq τ] in
theorem Bridge.Started.rateInv (h : s.Started) (httpd : τ) : RateInv httpd s.baudRate [] s := by
  obtain ⟨baudRate, rfl⟩ := h.eq_initial
  exact
    { created := by simp [Bridge.initial]
      stored := rfl
      setting := fun task baudRate hset => by cases hset
      applied := fun dev hdev => by cases hdev
      pending := fun coding hpending => by cases hpending
      coded := fun dev coding hcoded => by cases hcoded }

end

/-- In every run in which no change of the rate misses a device that is being set up, a
published device has the rate of the last change whenever none is in progress. -/
theorem rate_applied [DecidableEq τ] {vendors : VcpVendors} {httpd : τ} {s t : Bridge τ}
    {as : List (BridgeAction τ)} {es : List (BridgeEvent τ)} (hs : s.Started)
    (hrun : (bridgeMachine τ vendors).Run s as es t) (hhttpd : RateSetBy httpd es)
    (hcoding : CodingSucceeds es)
    (hmiss : ∀ u a, (bridgeMachine τ vendors).Takes s as u a → ¬u.MissesSetUp a)
    (hidle : t.callers httpd = .idle) (dev : ℕ) (hdev : t.cdcDev = some dev) :
    lastCoding dev es = some (lineCodingAt (lastRate s.baudRate es)) := by
  have hinv : t.Sound ∧ RateInv httpd s.baudRate es t := by
    refine hrun.history_taking (P := fun es => RateSetBy httpd es ∧ CodingSucceeds es)
      (I := fun es t => t.Sound ∧ RateInv httpd s.baudRate es t) ?_ hmiss
      ⟨hs.sound, hs.rateInv httpd⟩ ?_ ⟨hhttpd, hcoding⟩
    · rintro es fs ⟨hset, hok⟩
      exact ⟨fun task rate hmem => hset task rate (List.mem_append_left _ hmem),
        fun dev coding err hmem => hok dev coding err (List.mem_append_left _ hmem)⟩
    · rintro es u a v fs ⟨hset, hok⟩ hnomiss ⟨hsound, hinv⟩ hstep
      refine ⟨hsound.step hstep, ?_⟩
      cases bridgeStep_cases hstep with
      | hostEvent event =>
          obtain ⟨queue, heq⟩ := handleEvent_eq event u
          rw [heq]
          exact hinv.of_settings hinv.created rfl (fun _ => rfl) rfl rfl (by rw [List.append_nil])
            (by simp [Uncoded])
      | newDev desc =>
          obtain ⟨queue, heq⟩ := newDevCb_eq desc u
          rw [heq]
          exact hinv.of_settings hinv.created rfl (fun _ => rfl) rfl rfl (by rw [List.append_nil])
            (by simp [Uncoded])
      | event hcase => exact hcase.rateInv hsound hinv hok
      | caller hcase => exact hcase.rateInv hsound hinv hset hok hnomiss
  rw [← hinv.2.stored]
  refine (hinv.2.applied dev hdev).resolve_right ?_
  rw [hidle]
  exact Bool.false_ne_true

end

/-- A device is plugged in, and the rate is changed once it is published. -/
def demoRateAfter : List (BridgeAction Unit) :=
  [demoPlug] ++ demoSteps 11 ++ demoUsbCall (.setBaudRate 9600)

/-- The rate is changed after the event task has read the old one. -/
def demoRateWithin : List (BridgeAction Unit) :=
  [demoPlug] ++ demoSteps 4 ++ .call () (.setBaudRate 9600) :: List.replicate 3 (.run () .ok) ++
    demoSteps 7

/-- The line coding is accepted. -/
def demoAccepted (e : BridgeEvent Unit) : Bool :=
  match e with
  | .driver (.lineCodingSet _ _) err => decide (err = .ok)
  | _ => true

theorem codingSucceeds_of_all {es : List (BridgeEvent Unit)} (h : es.all demoAccepted = true) :
    CodingSucceeds es := by
  intro dev coding err hmem
  exact of_decide_eq_true (List.all_eq_true.mp h _ hmem)

/-- A device is published at this rate, and no call is in progress. -/
def demoRated (baudRate : UInt32) (s : Bridge Unit) (es : List (BridgeEvent Unit)) : Bool :=
  es.all demoAccepted && decide (s.callers () = .idle) && decide (s.cdcDev = some 0) &&
    decide (lastRate demoBridge.baudRate es = baudRate)

theorem rate_applied_after :
    ∃ es t, (bridgeMachine Unit demoVendors).Run demoBridge demoRateAfter es t ∧
      t.cdcDev = some 0 ∧ lastCoding 0 es = some (lineCodingAt 9600) := by
  obtain ⟨t, es, hrun, hrated⟩ := Machine.Run.exists_of_exec
    (M := bridgeMachine Unit demoVendors) (s := demoBridge) (p := demoRated 9600)
    (show ((bridgeMachine Unit demoVendors).exec demoBridge demoRateAfter).any _ = true by
      decide +kernel)
  simp only [demoRated, Bool.and_eq_true, decide_eq_true_eq] at hrated
  obtain ⟨⟨⟨haccepted, hidle⟩, hdev⟩, hrate⟩ := hrated
  -- a call only looks for a device when there is one
  have hmiss : ∀ u a, (bridgeMachine Unit demoVendors).Takes demoBridge demoRateAfter u a →
      ¬u.MissesSetUp a := by
    rintro u a htakes ⟨task, err, baudRate, coding, rfl, -, hnone, -⟩
    have hfound := htakes.of_checks
      (p := fun s a => match a with | .run _ _ => s.cdcDev.isSome | _ => true)
      (by decide +kernel)
    rw [hnone] at hfound
    cases hfound
  have hcoding := rate_applied demoBridge_started hrun (fun task _ _ => rfl)
    (codingSucceeds_of_all haccepted) hmiss hidle 0 hdev
  rw [hrate] at hcoding
  exact ⟨es, t, hrun, hdev, hcoding⟩

/-- The device keeps the old rate, which the change of the rate has replaced. -/
theorem rate_lost :
    ∃ es t, (bridgeMachine Unit demoVendors).Run demoBridge demoRateWithin es t ∧
      CodingSucceeds es ∧ (∀ task, t.callers task = .idle) ∧ t.cdcDev = some 0 ∧
      lastRate demoBridge.baudRate es = 9600 ∧ lastCoding 0 es = some (lineCodingAt 115200) := by
  obtain ⟨t, es, hrun, hrated⟩ := Machine.Run.exists_of_exec
    (M := bridgeMachine Unit demoVendors) (s := demoBridge)
    (p := fun s es => demoRated 9600 s es &&
      decide (lastCoding 0 es = some (lineCodingAt 115200)))
    (show ((bridgeMachine Unit demoVendors).exec demoBridge demoRateWithin).any _ = true by
      decide +kernel)
  simp only [demoRated, Bool.and_eq_true, decide_eq_true_eq] at hrated
  obtain ⟨⟨⟨⟨haccepted, hidle⟩, hdev⟩, hrate⟩, hcoding⟩ := hrated
  exact ⟨es, t, hrun, codingSucceeds_of_all haccepted, fun _ => hidle, hdev, hrate, hcoding⟩

end WebTerminal
