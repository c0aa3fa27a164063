import WebTerminal.Store.ConfigMachine
import WebTerminal.Usb.Handles

/-!
# Calls that nothing interrupts

The handlers of the server call the bridge, and the board has these calls in one piece.
Here the two meet: the steps of a call, taken one after the other, do what the board does.
-/

set_option autoImplicit false

namespace WebTerminal

open Proc

section

variable {τ : Type}

/-- What the board records of the bridge. -/
structure Serial.Records (serial : Serial) (s : Bridge τ) : Prop where
  ready : serial.usbReady = true ↔ s.cdcMutex ≠ .absent
  isOpen : serial.usbOpen = s.cdcDev.isSome
  rate : serial.usbRate = s.baudRate

/-- What a driver call of the API is on the board. -/
def DriverCall.effect : DriverCall → Option Effect
  | dataTxBlocking _ data _ => some (.serialBytes 1 data)
  | lineCodingSet _ coding => some (.serialRate 1 coding.dwDTERate)
  | _ => none

def BridgeEvent.effect : BridgeEvent τ → Option Effect
  | driver call _ => call.effect
  | _ => none

/-- A call, with the driver's answer to it. -/
def UsbCall.result (call : UsbCall) (dev : CdcHandle) (err : EspErr) : UsbResult :=
  if dev.isSome then call.answer err else call.noDevice

/-- The driver calls of a call. -/
def UsbCall.driverCalls (call : UsbCall) (dev : CdcHandle) : List DriverCall :=
  if dev.isSome then (call.driverCall dev).toList else []

variable [DecidableEq τ] (vendors : VcpVendors) {s : Bridge τ} {task : τ} {call : UsbCall}

/-! ## The steps of a call -/

theorem startCall_idle (hat : s.callers task = .idle) (hfree : s.cdcMutex = .free)
    (call : UsbCall) : (bridgeMachine τ vendors).step s (.call task call) =
      some ({ s with baudRate := call.stored s.baudRate }.setCaller task (.taking call),
        [.called task call]) := by
  show startCall task call s = _
  simp only [startCall, hat, hfree]

theorem callerStep_taking (hat : s.callers task = .taking call) (hfree : s.cdcMutex = .free)
    (err : EspErr) : (bridgeMachine τ vendors).step s (.run task err) =
      some ({ s with cdcMutex := .held (.caller task) }.setCaller task (.holding call), []) := by
  show callerStep task err s = _
  simp only [callerStep, hat, hfree, Mutex.take, Option.map_some]

theorem callerStep_found (hat : s.callers task = .holding call) (hdev : s.cdcDev.isSome = true)
    (err : EspErr) : (bridgeMachine τ vendors).step s (.run task err) =
      some (s.setCaller task (.calling call), []) := by
  show callerStep task err s = _
  simp only [callerStep, hat, if_pos hdev]

theorem callerStep_foundNone (hat : s.callers task = .holding call)
    (hdev : ¬s.cdcDev.isSome = true) (err : EspErr) :
    (bridgeMachine τ vendors).step s (.run task err) =
      some (s.setCaller task (.giving call call.noDevice), []) := by
  show callerStep task err s = _
  simp only [callerStep, hat, if_neg hdev]

theorem callerStep_calling (hat : s.callers task = .calling call) (err : EspErr) :
    (bridgeMachine τ vendors).step s (.run task err) =
      some (s.setCaller task (.giving call (call.answer err)),
        (call.driverCall s.cdcDev).toList.map (.driver · err)) := by
  show callerStep task err s = _
  simp only [callerStep, hat]

theorem callerStep_giving {result : UsbResult} (hat : s.callers task = .giving call result)
    (err : EspErr) : (bridgeMachine τ vendors).step s (.run task err) =
      some ({ s with cdcMutex := s.cdcMutex.give }.setCaller task .idle,
        [.returned task call result]) := by
  show callerStep task err s = _
  simp only [callerStep, hat]

/-- The steps of a call one after the other. -/
theorem usbCall_run (hidle : s.callers task = .idle) (hfree : s.cdcMutex = .free)
    (call : UsbCall) (err : EspErr) :
    ∃ n t, (bridgeMachine τ vendors).Run s
        (.call task call :: List.replicate n (.run task err))
        (.called task call :: ((call.driverCalls s.cdcDev).map (.driver · err) ++
          [.returned task call (call.result s.cdcDev err)])) t ∧
      t.cdcMutex = .free ∧ t.cdcDev = s.cdcDev ∧ t.baudRate = call.stored s.baudRate := by
  have hat : ∀ (s : Bridge τ) caller, (s.setCaller task caller).callers task = caller :=
    fun s => s.callers_setCaller task
  -- the call has started
  have hstart := startCall_idle vendors hidle hfree call
  obtain ⟨s₁, hs₁⟩ : ∃ s₁, s₁ =
    { s with baudRate := call.stored s.baudRate }.setCaller task (.taking call) := ⟨_, rfl⟩
  rw [← hs₁] at hstart
  -- the mutex is taken
  have htake := callerStep_taking vendors (show s₁.callers task = .taking call from hs₁ ▸ hat _ _)
    (hs₁ ▸ hfree) err
  obtain ⟨s₂, hs₂⟩ : ∃ s₂, s₂ =
    { s₁ with cdcMutex := .held (.caller task) }.setCaller task (.holding call) := ⟨_, rfl⟩
  rw [← hs₂] at htake
  have hat₂ : s₂.callers task = .holding call := hs₂ ▸ hat _ _
  have hmutex₂ : s₂.cdcMutex.give = .free := hs₂ ▸ rfl
  have hdev₂ : s₂.cdcDev = s.cdcDev := hs₂ ▸ hs₁ ▸ rfl
  have hrate₂ : s₂.baudRate = call.stored s.baudRate := hs₂ ▸ hs₁ ▸ rfl
  rw [← hdev₂, ← hrate₂]
  by_cases hdev : s₂.cdcDev.isSome = true
  · rw [UsbCall.driverCalls, UsbCall.result, if_pos hdev, if_pos hdev]
    have hfound := callerStep_found vendors hat₂ hdev err
    have hcall := callerStep_calling vendors (hat s₂ (.calling call)) err
    have hgive := callerStep_giving vendors
      (hat (s₂.setCaller task (.calling call)) (.giving call (call.answer err))) err
    have hrun := Machine.Run.cons hstart (.cons htake (.cons hfound (.cons hcall (.single hgive))))
    exact ⟨4, _, hrun, hmutex₂, rfl, rfl⟩
  · rw [UsbCall.driverCalls, UsbCall.result, if_neg hdev, if_neg hdev]
    have hfound := callerStep_foundNone vendors hat₂ hdev err
    have hgive := callerStep_giving vendors (hat s₂ (.giving call call.noDevice)) err
    have hrun := Machine.Run.cons hstart (.cons htake (.cons hfound (.single hgive)))
    exact ⟨3, _, hrun, hmutex₂, rfl, rfl⟩

/-- The steps of a call while the bridge is not there. -/
theorem usbCall_absent (hidle : s.callers task = .idle) (habsent : s.cdcMutex = .absent)
    (call : UsbCall) :
    (bridgeMachine τ vendors).Run s [.call task call]
      [.called task call, .returned task call call.uninitialized] s := by
  refine .single (show startCall task call s = _ from ?_)
  simp only [startCall, hidle, habsent]

/-! ## The board -/

/-- The call as the board has it. -/
def UsbCall.board (env : Env) : UsbCall → Option (BoardM EspErr)
  | send data => some (usbCdcSend env data)
  | setBaudRate baudRate => some (usbCdcSetBaudRate env baudRate)
  | isConnected => none

variable {env : Env} {board : Board}

/-- What the board has after a call, from what it was before it. -/
structure Serial.Agrees (serial : Serial) (shown : List Effect) (s : Bridge τ) (call : UsbCall) :
    Prop where
  ready : serial.usbReady = true
  isOpen : serial.usbOpen = s.cdcDev.isSome
  rate : serial.usbRate = call.stored s.baudRate
  effects : shown = (call.driverCalls s.cdcDev).filterMap DriverCall.effect

omit [DecidableEq τ] in
theorem usbCdcSend_of_records (hrec : board.serial.Records s) (hfree : s.cdcMutex = .free)
    (data : List UInt8) :
    ∃ e w, usbCdcSend env data board.start = .ok e w ∧
      (UsbCall.send data).result s.cdcDev (env.err 0) = .err e ∧
      w.state.serial.Agrees w.shown s (.send data) := by
  have hready : board.serial.usbReady = true := hrec.ready.mpr (by rw [hfree]; simp)
  have hopen := hrec.isOpen
  cases hdev : s.cdcDev with
  | none =>
      refine ⟨.invalidState, board.start, ?_, rfl, hready, hopen, hrec.rate, by rw [hdev]; rfl⟩
      have hclosed : board.serial.usbOpen = false := hopen.trans (by rw [hdev]; rfl)
      unfold usbCdcSend
      rw [bind_ok (read_apply _ _)]
      simp [Board.start, hready, hclosed]
  | some dev =>
      have hopened : board.serial.usbOpen = true := hopen.trans (by rw [hdev]; rfl)
      refine ⟨env.err 0, ⟨board, 1, [.serialBytes 1 data]⟩, ?_, rfl, hready, hopen, hrec.rate,
        by rw [hdev]; rfl⟩
      unfold usbCdcSend
      rw [bind_ok (read_apply _ _)]
      simp [Board.start, hready, hopened]
      rfl

omit [DecidableEq τ] in
theorem usbCdcSetBaudRate_of_records (hrec : board.serial.Records s) (hfree : s.cdcMutex = .free)
    (baudRate : UInt32) :
    ∃ e w, usbCdcSetBaudRate env baudRate board.start = .ok e w ∧
      (UsbCall.setBaudRate baudRate).result s.cdcDev (env.err 0) = .err e ∧
      w.state.serial.Agrees w.shown s (.setBaudRate baudRate) := by
  have hready : board.serial.usbReady = true := hrec.ready.mpr (by rw [hfree]; simp)
  have hopen := hrec.isOpen
  -- the rate is stored in any case
  let stored : World Board Effect :=
    ⟨{ board with serial := { board.serial with usbRate := baudRate } }, 0, []⟩
  have hstored : usbCdcSetBaudRate env baudRate board.start =
      (if board.serial.usbOpen then do
        emit (.serialRate 1 baudRate)
        let err ← ask env.err
        if err = .ok then do
          update fun board => { board with serial := { board.serial with lineCoding := baudRate } }
          return .ok
        else return if err = .notSupported then .ok else err
      else return .ok : BoardM EspErr) stored := by
    unfold usbCdcSetBaudRate
    rw [bind_ok (read_apply _ _)]
    show (if (!board.serial.usbReady) = true then _ else _ : BoardM EspErr) board.start = _
    rw [hready]
    exact bind_ok (update_apply _ _)
  cases hdev : s.cdcDev with
  | none =>
      refine ⟨.ok, stored, ?_, rfl, hready, hopen, rfl, by rw [hdev]; rfl⟩
      rw [hstored, if_neg (by rw [hopen, hdev]; simp)]
      rfl
  | some dev =>
      have hasked : usbCdcSetBaudRate env baudRate board.start =
          (if env.err 0 = .ok then do
            update fun board =>
              { board with serial := { board.serial with lineCoding := baudRate } }
            return .ok
          else return if env.err 0 = .notSupported then .ok else env.err 0 : BoardM EspErr)
            { stored with asked := 1, shown := [.serialRate 1 baudRate] } := by
        rw [hstored, if_pos (by rw [hopen, hdev]; rfl)]
        exact (bind_ok (emit_apply _ _)).trans (bind_ok (ask_apply _ _))
      rw [hasked]
      by_cases herr : env.err 0 = .ok
      · rw [if_pos herr, herr]
        exact ⟨_, _, rfl, rfl, hready, hopen, rfl, by rw [hdev]; rfl⟩
      · rw [if_neg herr]
        refine ⟨_, _, rfl, ?_, hready, hopen, rfl, by rw [hdev]; rfl⟩
        by_cases hsupported : env.err 0 = .notSupported
        · simp [UsbCall.result, UsbCall.answer, hsupported]
        · simp [UsbCall.result, UsbCall.answer, herr, hsupported]

omit [DecidableEq τ] in
/-- What the events of a call are on the board. -/
theorem effects_usbCall (task : τ) (call : UsbCall) (calls : List DriverCall) (err : EspErr)
    (result : UsbResult) :
    (.called task call :: (calls.map (.driver · err) ++ [.returned task call result])).filterMap
      BridgeEvent.effect = calls.filterMap DriverCall.effect := by
  rw [List.filterMap_cons_none rfl, List.filterMap_append, List.filterMap_map]
  exact List.append_nil _

omit [DecidableEq τ] in
/-- While the bridge is not there the board refuses the call. -/
theorem usbCall_board_absent {m : BoardM EspErr} (hboard : call.board env = some m)
    (hrec : board.serial.Records s) (habsent : s.cdcMutex = .absent) :
    m board.start = .ok .invalidState board.start ∧ call.uninitialized = .err .invalidState := by
  have hready : board.serial.usbReady = false := by
    by_contra hne
    exact hrec.ready.mp (by simpa using hne) habsent
  cases call with
  | send data =>
      obtain rfl := Option.some.inj hboard
      refine ⟨?_, rfl⟩
      show usbCdcSend env data board.start = _
      unfold usbCdcSend
      rw [bind_ok (read_apply _ _)]
      simp [Board.start, hready]
  | setBaudRate baudRate =>
      obtain rfl := Option.some.inj hboard
      refine ⟨?_, rfl⟩
      show usbCdcSetBaudRate env baudRate board.start = _
      unfold usbCdcSetBaudRate
      rw [bind_ok (read_apply _ _)]
      simp [Board.start, hready]
  | isConnected => cases hboard

/-- A call that nothing interrupts returns to its caller what the board's call returns, with
the same calls into the driver, and the board still records the bridge. -/
theorem usbCall_uninterrupted {m : BoardM EspErr} (hidle : s.callers task = .idle)
    (hmutex : s.cdcMutex = .free ∨ s.cdcMutex = .absent) (hrec : board.serial.Records s)
    (hboard : call.board env = some m) :
    ∃ n t es e w, (bridgeMachine τ vendors).Run s
        (.call task call :: List.replicate n (.run task (env.err 0))) es t ∧
      m board.start = .ok e w ∧ .returned task call (.err e) ∈ es ∧ w.state.serial.Records t ∧
      w.shown = es.filterMap BridgeEvent.effect := by
  rcases hmutex with hfree | habsent
  · obtain ⟨n, t, hrun, hfree', hdev, hrate⟩ := usbCall_run vendors hidle hfree call (env.err 0)
    obtain ⟨e, w, hm, hresult, hagrees⟩ : ∃ e w, m board.start = .ok e w ∧
        call.result s.cdcDev (env.err 0) = .err e ∧ w.state.serial.Agrees w.shown s call := by
      cases call with
      | send data =>
          obtain rfl := Option.some.inj hboard
          exact usbCdcSend_of_records hrec hfree data
      | setBaudRate baudRate =>
          obtain rfl := Option.some.inj hboard
          exact usbCdcSetBaudRate_of_records hrec hfree baudRate
      | isConnected => cases hboard
    refine ⟨n, t, _, e, w, hrun, hm, by simp [hresult], ⟨?_, ?_, ?_⟩, ?_⟩
    · rw [hfree']
      exact iff_of_true hagrees.ready (by simp)
    · rw [hdev, hagrees.isOpen]
    · rw [hrate, hagrees.rate]
    · rw [hagrees.effects]
      exact (effects_usbCall task call _ _ _).symm
  · obtain ⟨hm, hresult⟩ := usbCall_board_absent hboard hrec habsent
    exact ⟨0, s, _, _, _, usbCall_absent vendors hidle habsent call, hm,
      by simp [hresult], hrec, rfl⟩

end

end WebTerminal
