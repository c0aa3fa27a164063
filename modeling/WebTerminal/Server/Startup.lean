import WebTerminal.Store.ConfigMachine
import WebTerminal.Wifi.Events

/-!
# Starting up

The part of `app_main` that puts the settings in effect: `config_init`, `ntp_init`,
`wifi_manager_init` and `serial_port_init_all`, in this order.  A reset clears the
memory before it and leaves flash as it is.
-/

set_option autoImplicit false

namespace WebTerminal

open Proc

/-- No allocation and no start of a task fails. -/
def Env.AllFound (env : Env) : Prop := ∀ n, env.found n = true

section

variable (pf : Platform) (env : Env)

/-- `ntp_init`: the time zone.  The server it asks is not part of the board. -/
def ntpInit : BoardM Unit :=
  update fun board => { board with tz := board.config.timezone }

/-- `uart_bridge_init` -/
def uartBridgeInit (baudRate : UInt32) : BoardM EspErr := do
  let err ← ask env.err
  espErrorCheck err
  let err ← ask env.err
  espErrorCheck err
  update fun board => { board with serial := { board.serial with uartRate := baudRate } }
  let err ← ask env.err
  espErrorCheck err
  return .ok

/-- `uart_bridge_start`, right after a reset -/
def uartBridgeStart : BoardM EspErr := do
  let task ← ask env.found
  return if task then .ok else .fail

/-- `usb_cdc_init` -/
def usbCdcInit (baudRate : UInt32) : BoardM EspErr := do
  update fun board => { board with serial := { board.serial with usbRate := baudRate } }
  let queue ← ask env.found
  if !queue then return .noMem
  else do
    let mutex ← ask env.found
    if !mutex then return .noMem
    else do
      update fun board => { board with serial := { board.serial with usbReady := true } }
      return .ok

/-- `usb_cdc_start` -/
def usbCdcStart : BoardM EspErr := do
  let libTask ← ask env.found
  if !libTask then return .fail
  else do
    -- the notification that the driver is installed
    let installed ← ask env.found
    if !installed then return .fail
    else do
      let eventTask ← ask env.found
      return if eventTask then .ok else .fail

/-- A port is initialised and started. -/
def startPort (init start : BoardM EspErr) : BoardM EspErr := do
  let err ← init
  if err ≠ .ok then return err
  else start

/-- `serial_port_init_all`.  The USB port is optional. -/
def serialPortInitAll : BoardM EspErr := do
  let conf ← read Board.config
  let err ← startPort (uartBridgeInit env (conf.baudRate 0)) (uartBridgeStart env)
  if err ≠ .ok then return err
  else do
    onlyIf (1 < pf.target.serialPortMax)
      (startPort (usbCdcInit env (conf.baudRate 1)) (usbCdcStart env))
    return .ok

/-- `app_main` up to the serial ports, less the parts that have nothing to do with
these settings. -/
def startUp : BoardM Unit := do
  let err ← configInit pf env
  espErrorCheck err
  ntpInit
  let err ← wifiManagerInit pf env
  espErrorCheck err
  let err ← serialPortInitAll pf env
  espErrorCheck err

end

/-- After a reset: `.bss` is cleared, and so is the environment. -/
def Board.reset (board : Board) : Board :=
  { board with
    config := .zero
    wifi := { board.wifi with
      mode := .ap, staConnected := false, retryCount := 0, scanning := false
      reconnectTimer := false, driverStarted := false }
    serial := { board.serial with usbReady := false, usbOpen := false }
    tz := [] }

/-- The serial ports once they run. -/
def Serial.started (pf : Platform) (conf : AppConfig) (serial : Serial) : Serial :=
  if 1 < pf.target.serialPortMax then
    { serial with uartRate := conf.baudRate 0, usbRate := conf.baudRate 1, usbReady := true }
  else { serial with uartRate := conf.baudRate 0 }

/-- The board with a configuration put in effect. -/
def Board.putInEffect (pf : Platform) (board : Board) : Board :=
  { board with
    tz := board.config.timezone
    wifi := board.wifi.initialized pf board.config
    serial := board.serial.started pf board.config }

section

variable {pf : Platform} {env : Env}

theorem uartBridgeInit_ok (hok : env.AllOk) (baudRate : UInt32) (w : World Board Effect) :
    uartBridgeInit env baudRate w = .ok .ok { w with
      state := { w.state with serial := { w.state.serial with uartRate := baudRate } }
      asked := w.asked + 3 } := by
  unfold uartBridgeInit
  exact (bind_ok (ask_apply _ _)).trans ((bind_ok (espErrorCheck_ok (hok _) _)).trans
    ((bind_ok (ask_apply _ _)).trans ((bind_ok (espErrorCheck_ok (hok _) _)).trans
      ((bind_ok (update_apply _ _)).trans ((bind_ok (ask_apply _ _)).trans
        (bind_ok (espErrorCheck_ok (hok _) _)))))))

theorem usbCdcInit_ok (hfound : env.AllFound) (baudRate : UInt32) (w : World Board Effect) :
    usbCdcInit env baudRate w = .ok .ok { w with
      state := { w.state with
        serial := { w.state.serial with usbRate := baudRate, usbReady := true } }
      asked := w.asked + 2 } := by
  unfold usbCdcInit
  rw [bind_ok (update_apply _ _), bind_ok (ask_apply _ _), hfound]
  refine (bind_ok (ask_apply _ _)).trans ?_
  rw [hfound]
  rfl

theorem serialPortInitAll_ok (pf : Platform) (hok : env.AllOk) (hfound : env.AllFound)
    (w : World Board Effect) : ∃ n, serialPortInitAll pf env w = .ok .ok
      ⟨{ w.state with serial := w.state.serial.started pf w.state.config }, n, w.shown⟩ := by
  -- four questions to the driver of the UART, five to that of USB
  have huart : ∀ rate w, startPort (uartBridgeInit env rate) (uartBridgeStart env) w = .ok .ok
      { w with
        state := { w.state with serial := { w.state.serial with uartRate := rate } }
        asked := w.asked + 4 } := by
    intro rate w
    unfold startPort uartBridgeStart
    rw [bind_ok (uartBridgeInit_ok hok rate w)]
    refine (congrFun (if_neg (by simp)) _).trans ((bind_ok (ask_apply _ _)).trans ?_)
    rw [hfound]
    rfl
  have husb : ∀ rate w, startPort (usbCdcInit env rate) (usbCdcStart env) w = .ok .ok
      { w with
        state := { w.state with
          serial := { w.state.serial with usbRate := rate, usbReady := true } }
        asked := w.asked + 5 } := by
    intro rate w
    unfold startPort usbCdcStart
    rw [bind_ok (usbCdcInit_ok hfound rate w)]
    refine (congrFun (if_neg (by simp)) _).trans ((bind_ok (ask_apply _ _)).trans ?_)
    rw [hfound]
    refine (bind_ok (ask_apply _ _)).trans ?_
    rw [hfound]
    refine (bind_ok (ask_apply _ _)).trans ?_
    rw [hfound]
    rfl
  unfold serialPortInitAll
  rw [bind_ok (read_apply _ _), bind_ok (huart _ _)]
  by_cases hports : 1 < pf.target.serialPortMax
  · refine ⟨w.asked + 9, (congrFun (if_neg (by simp)) _).trans
      ((bind_ok (onlyIf_of hports (husb _ _))).trans ?_)⟩
    rw [Serial.started, if_pos hports]
    rfl
  · refine ⟨w.asked + 4, (congrFun (if_neg (by simp)) _).trans
      ((bind_ok (onlyIf_of_not hports)).trans ?_)⟩
    rw [Serial.started, if_neg hports]
    rfl

/-- Where everything succeeds the configuration in flash is put in effect. -/
theorem startUp_ok (pf : Platform) (hok : env.AllOk) (hfound : env.AllFound) (board : Board) :
    ∃ w, startUp pf env board.start = .ok () w ∧
      w.state = (board.loaded pf (env.saltBytes 2)).putInEffect pf := by
  obtain ⟨w, hinit, hw⟩ := configInit_ok pf hok board
  unfold startUp
  rw [bind_ok hinit, bind_ok (espErrorCheck_ok rfl _)]
  obtain ⟨n, hwifi⟩ := wifiManagerInit_ok pf hok
    { w with state := { w.state with tz := w.state.config.timezone } }
  obtain ⟨m, hserial⟩ := serialPortInitAll_ok pf hok hfound
    ⟨{ w.state with
        tz := w.state.config.timezone
        wifi := w.state.wifi.initialized pf w.state.config }, n,
      w.shown ++ (initCalls pf w.state.config).map Effect.wifi⟩
  refine ⟨_, (bind_ok (update_apply _ _)).trans ((bind_ok hwifi).trans
    ((bind_ok (espErrorCheck_ok rfl _)).trans
      ((bind_ok hserial).trans (espErrorCheck_ok rfl _)))), ?_⟩
  rw [hw]
  rfl

end

/-! ## What is in effect -/

/-- The settings the device acts on. -/
structure InEffect where
  /-- the DHCP hostname -/
  hostname : CString
  mdnsHostname : CString
  mdnsInstance : CString
  /-- the name of the web service -/
  mdnsService : CString
  tz : CString
  uartRate : UInt32
  usbRate : Option UInt32
  ap : ApConfig
  sta : Option StaConfig
  deriving DecidableEq

def Board.inEffect (pf : Platform) (board : Board) : InEffect where
  hostname := board.wifi.hostname
  mdnsHostname := board.wifi.mdnsHostname
  mdnsInstance := board.wifi.mdnsInstance
  mdnsService := board.wifi.mdnsService
  tz := board.tz
  uartRate := board.serial.uartRate
  usbRate := if 1 < pf.target.serialPortMax then some board.serial.usbRate else none
  ap := board.wifi.apConfig
  sta := if board.wifi.driverMode = .ap then none else some board.wifi.staConfig

/-- After a reset the device comes up with the same settings in effect. -/
def Board.SurvivesReset (pf : Platform) (env : Env) (board : Board) : Prop :=
  ∃ w, startUp pf env board.reset.start = .ok () w ∧ w.state.inEffect pf = board.inEffect pf

instance (pf : Platform) (env : Env) (board : Board) : Decidable (board.SurvivesReset pf env) :=
  match h : startUp pf env board.reset.start with
  | .ok _ w => decidable_of_iff (w.state.inEffect pf = board.inEffect pf)
      ⟨fun heq => ⟨w, h, heq⟩, fun ⟨_, hv, heq⟩ => by cases h.symm.trans hv; exact heq⟩
  | .error _ _ => isFalse fun ⟨_, hv, _⟩ => by cases h.symm.trans hv

end WebTerminal
