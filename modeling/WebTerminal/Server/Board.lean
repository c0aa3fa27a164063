import WebTerminal.Config.Nvs
import WebTerminal.Lib.Overlay
import WebTerminal.Lib.Proc
import WebTerminal.Server.Platform

/-!
# The board

The part of the device that has nothing to do with sessions or sockets: the
configuration and its copy in flash, the relay and reset pins, the radio, the
serial ports and the stored certificate.  The functions of `config.c`,
`gpio_control.c` and `serial_port.c` are procedures over it.  They show every
effect on the world outside as an `Effect`.
-/

set_option autoImplicit false

namespace WebTerminal

/-- `gpio_status_t`.  Times are microseconds since boot. -/
structure Gpio where
  powerOn : Bool
  lastResetTime : ℕ
  lastPowerToggle : ℕ
  deriving DecidableEq

/-- The serial ports: the rate the UART runs at and the state of the USB bridge. -/
structure Serial where
  uartRate : UInt32
  /-- `s_cdc_mutex` exists -/
  usbReady : Bool
  /-- `s_cdc_dev` is not `NULL` -/
  usbOpen : Bool
  /-- `s_baud_rate` -/
  usbRate : UInt32
  /-- the rate in the line coding of the open device -/
  lineCoding : UInt32
  deriving DecidableEq

/-- `wifi_manager_mode_t` -/
inductive WifiManagerMode
  | ap
  | sta
  | apSta
  deriving DecidableEq

/-- The `ap` member of `wifi_config_t`. -/
structure ApConfig where
  ssid : CString
  ssidLen : ℕ
  password : CString
  authOpen : Bool
  deriving DecidableEq

/-- The `sta` member of `wifi_config_t`. -/
structure StaConfig where
  ssid : CString
  password : CString
  deriving DecidableEq

/-- The state of `wifi_manager.c` and of the driver under it. -/
structure Wifi where
  /-- `s_status.mode` -/
  mode : WifiManagerMode
  staConnected : Bool
  retryCount : ℕ
  scanning : Bool
  /-- `s_reconnect_timer` is running -/
  reconnectTimer : Bool
  driverMode : WifiMode
  driverStarted : Bool
  apConfig : ApConfig
  staConfig : StaConfig
  hostname : CString
  mdnsHostname : CString
  mdnsInstance : CString
  /-- the name of the web service -/
  mdnsService : CString
  deriving DecidableEq

/-- The `tls_certs` namespace in flash. -/
structure TlsCerts where
  cert : Option CString
  key : Option CString
  deriving DecidableEq

structure Board where
  config : AppConfig
  nvs : Nvs
  certs : TlsCerts
  gpio : Gpio
  wifi : Wifi
  serial : Serial
  /-- the environment variable `TZ` -/
  tz : CString

inductive GpioPin
  | sbcReset
  | sbcPower
  deriving DecidableEq

/-- The calls of `wifi_manager.c` into the network stack. -/
inductive WifiCall
  | setMode (mode : WifiMode)
  | setApConfig (conf : ApConfig)
  | setStaConfig (conf : StaConfig)
  | start
  | stop
  | connect
  | disconnect
  | scanStart
  | clearApList
  | setHostname (name : CString)
  | mdnsHostname (name : CString)
  | mdnsInstance (name : CString)
  | mdnsService (name : CString)
  deriving DecidableEq

/-- What the board does to the world outside. -/
inductive Effect
  | gpioDirection (pin : GpioPin) (output : Bool)
  | gpioLevel (pin : GpioPin) (high : Bool)
  | serialBytes (port : ℕ) (data : List UInt8)
  | serialRate (port : ℕ) (baudRate : UInt32)
  | wifi (call : WifiCall)
  | otaBegin
  | otaWrite (data : List UInt8)
  | otaEnd
  | otaAbort
  | otaSetBootPartition
  | httpsOta (url : CString)
  | restart
  deriving DecidableEq

/-- What a handler answers. -/
inductive Response
  | ok (body : CString) (cookie : Option CString)
  /-- `send_json_error` -/
  | error (status : ℕ) (message : String)
  /-- a body that only reports state or serves a file -/
  | report
  | redirect (location : CString)
  /-- the WebSocket handler returned `ESP_OK` -/
  | accepted
  /-- the WebSocket handler returned an error, so that the server closes the socket -/
  | close
  deriving DecidableEq

/-- Why a handler ends before its last line. -/
inductive Stop
  | respond (response : Response)
  /-- `esp_restart` -/
  | restart
  /-- a failed `ESP_ERROR_CHECK` -/
  | abort
  deriving DecidableEq

abbrev BoardM := Proc Board Effect Stop

open Proc

/-- The body `{"ok":true}`. -/
def okBody : CString := cstr "\x7b\"ok\":true\x7d"

/-- `return send_json_error(req, status, message);` -/
def sendJsonError {σ ε α : Type} (status : ℕ) (message : String) : Proc σ ε Stop α :=
  stop (.respond (.error status message))

/-- An error answer under a condition. -/
def rejectIf {σ ε : Type} (p : Prop) [Decidable p] (status : ℕ) (message : String) :
    Proc σ ε Stop Unit :=
  if p then sendJsonError status message else pure ()

/-- `ESP_ERROR_CHECK` -/
def espErrorCheck {σ ε : Type} (err : EspErr) : Proc σ ε Stop Unit :=
  if err = .ok then pure () else stop .abort

section

variable (pf : Platform) (env : Env)

/-! ## config.c -/

/-- `nvs_set_*` of one field of `s_config`, whose result the firmware ignores. -/
def nvsSave (key : NvsKey) : BoardM Unit := do
  let err ← ask env.err
  if err = .ok then
    update fun board =>
      { board with nvs := Function.update board.nvs key (some (board.config.saved key)) }

/-- `save_to_nvs` -/
def saveToNvs : BoardM EspErr := do
  let opened ← ask env.err
  espErrorCheck opened
  (savedKeys pf.target.serialPortMax).forM fun key => nvsSave env key
  ask env.err

/-- An edit of `s_config` followed by `save_to_nvs`. -/
def configSet (edit : AppConfig → AppConfig) : BoardM EspErr := do
  update fun board => { board with config := edit board.config }
  saveToNvs pf env

/-- `config_set_wifi_sta` -/
def configSetWifiSta (ssid password : CString) : BoardM EspErr :=
  configSet pf env (.setWifiSta ssid password)

/-- `config_set_wifi_ap` -/
def configSetWifiAp (ssid password : CString) : BoardM EspErr :=
  configSet pf env (.setWifiAp ssid password)

/-- `config_set_baud_rate_port` -/
def configSetBaudRatePort (port : ℤ) (baudRate : UInt32) : BoardM EspErr :=
  if port < 0 ∨ (pf.target.serialPortMax : ℤ) ≤ port then return .invalidArg
  else configSet pf env (.setBaudRatePort port.toNat baudRate)

/-- `config_set_power_on_default` -/
def configSetPowerOnDefault (powerOn : Bool) : BoardM EspErr :=
  configSet pf env (.setPowerOnDefault powerOn)

/-- `config_set_device_name` -/
def configSetDeviceName (name : CString) : BoardM EspErr :=
  configSet pf env (.setDeviceName name)

/-- `config_set_ntp_server` -/
def configSetNtpServer (server : CString) : BoardM EspErr :=
  configSet pf env (.setNtpServer server)

/-- `config_set_timezone` -/
def configSetTimezone (tz : CString) : BoardM EspErr :=
  configSet pf env (.setTimezone tz)

/-- `config_set_auth` -/
def configSetAuth (username password : CString) : BoardM EspErr := do
  let salt ← ask env.saltBytes
  configSet pf env (.setAuth pf.sha256 salt username password)

/-! ## gpio_control.c -/

/-- `MIN_POWER_TOGGLE_MS` -/
abbrev minPowerToggleMs : ℕ := 2000

/-- `gpio_control_init` -/
def gpioControlInit : BoardM EspErr := do
  emit (.gpioDirection .sbcReset false)
  let err ← ask env.err
  espErrorCheck err
  emit (.gpioDirection .sbcPower true)
  let err ← ask env.err
  espErrorCheck err
  let conf ← read Board.config
  emit (.gpioLevel .sbcPower conf.powerOnDefault)
  update fun board => { board with
    gpio := { powerOn := conf.powerOnDefault, lastResetTime := 0, lastPowerToggle := 0 } }
  return .ok

/-- `gpio_sbc_reset` -/
def gpioSbcReset : BoardM EspErr := do
  emit (.gpioDirection .sbcReset true)
  emit (.gpioLevel .sbcReset false)
  emit (.gpioDirection .sbcReset false)
  update fun board => { board with gpio := { board.gpio with lastResetTime := env.now } }
  return .ok

/-- `power_set` -/
def powerSet (on : Bool) : BoardM EspErr := do
  let gpio ← read Board.gpio
  if gpio.powerOn = on then return .ok
  else if 0 < gpio.lastPowerToggle ∧
      env.now - gpio.lastPowerToggle < minPowerToggleMs * 1000 then
    return .invalidState
  else do
    emit (.gpioLevel .sbcPower on)
    update fun board => { board with
      gpio := { board.gpio with powerOn := on, lastPowerToggle := env.now } }
    return .ok

/-- `gpio_sbc_power_on` -/
def gpioSbcPowerOn : BoardM EspErr := powerSet env true

/-- `gpio_sbc_power_off` -/
def gpioSbcPowerOff : BoardM EspErr := powerSet env false

/-- `gpio_sbc_power_toggle` -/
def gpioSbcPowerToggle : BoardM EspErr := do
  let gpio ← read Board.gpio
  powerSet env (!gpio.powerOn)

/-! ## serial_port.c -/

/-- `uart_bridge_set_baud_rate` -/
def uartBridgeSetBaudRate (baudRate : UInt32) : BoardM EspErr := do
  emit (.serialRate 0 baudRate)
  let err ← ask env.err
  update fun board =>
    if err = .ok then { board with serial := { board.serial with uartRate := baudRate } } else board
  return err

/-- `usb_cdc_set_baud_rate` -/
def usbCdcSetBaudRate (baudRate : UInt32) : BoardM EspErr := do
  let serial ← read Board.serial
  if !serial.usbReady then return .invalidState
  else do
    update fun board => { board with serial := { board.serial with usbRate := baudRate } }
    if serial.usbOpen then do
      emit (.serialRate 1 baudRate)
      let err ← ask env.err
      if err = .ok then do
        update fun board => { board with serial := { board.serial with lineCoding := baudRate } }
        return .ok
      else return if err = .notSupported then .ok else err
    else return .ok

/-- `serial_port_set_baud_rate`: the `set_baud` of the port. -/
def serialPortSetBaudRate (port : ℤ) (baudRate : UInt32) : BoardM EspErr :=
  if port < 0 ∨ (pf.target.serialPortMax : ℤ) ≤ port then return .invalidArg
  else if port = 0 then uartBridgeSetBaudRate env baudRate
  else usbCdcSetBaudRate env baudRate

/-- `uart_bridge_send` -/
def uartBridgeSend (data : List UInt8) : BoardM EspErr := do
  emit (.serialBytes 0 data)
  let err ← ask env.err
  return if err = .ok then .ok else .fail

/-- `usb_cdc_send` -/
def usbCdcSend (data : List UInt8) : BoardM EspErr := do
  let serial ← read Board.serial
  if !serial.usbReady then return .invalidState
  else if !serial.usbOpen then return .invalidState
  else do
    emit (.serialBytes 1 data)
    ask env.err

/-- `serial_port_send`: the `send` of the port. -/
def serialPortSend (port : ℤ) (data : List UInt8) : BoardM EspErr :=
  if port < 0 ∨ (pf.target.serialPortMax : ℤ) ≤ port then return .invalidArg
  else if port = 0 then uartBridgeSend env data
  else usbCdcSend env data

end

theorem rejectIf_apply {σ ε : Type} (p : Prop) [Decidable p] (status : ℕ) (message : String)
    (w : World σ ε) : rejectIf p status message w =
      if p then .error (.respond (.error status message)) w else .ok () w := by
  unfold rejectIf
  split <;> rfl

theorem does_rejectIf {σ ε : Type} {R : σ → List ε → σ → Prop} (hR : Composes R) (p : Prop)
    [Decidable p] (status : ℕ) (message : String) :
    Does R (rejectIf p status message : Proc σ ε Stop Unit) :=
  .ite (fun _ => does_stop hR _) fun _ => does_pure hR _

theorem does_espErrorCheck {σ ε : Type} {R : σ → List ε → σ → Prop} (hR : Composes R)
    (err : EspErr) : Does R (espErrorCheck err : Proc σ ε Stop Unit) :=
  .ite (fun _ => does_pure hR _) fun _ => does_stop hR _

theorem espErrorCheck_ok {σ ε : Type} {err : EspErr} (h : err = .ok) (w : World σ ε) :
    espErrorCheck err w = .ok () w := by
  unfold espErrorCheck
  rw [if_pos h]
  rfl

theorem of_espErrorCheck_ok {σ ε : Type} {err : EspErr} {w v : World σ ε}
    (h : espErrorCheck err w = .ok () v) : err = .ok ∧ v = w := by
  unfold espErrorCheck at h
  split at h
  next herr =>
    cases h
    exact ⟨herr, rfl⟩
  next => cases h

theorem espErrorCheck_cases {σ ε : Type} (err : EspErr) (w : World σ ε) :
    espErrorCheck err w = .ok () w ∨ espErrorCheck err w = .error .abort w := by
  unfold espErrorCheck
  split
  · exact .inl rfl
  · exact .inr rfl

/-- No two keys of `save_to_nvs` share a name in flash. -/
theorem savedKeys_names_nodup (target : Target) :
    ((savedKeys target.serialPortMax).map NvsKey.name).Nodup := by
  cases target <;> decide

/-! ## Saving

Whatever the answers of the flash driver, saving touches nothing but the stored
copy, and a key it touches holds the current setting. -/

/-- A board after saving. -/
structure Saved (board : Board) (es : List Effect) (board' : Board) : Prop where
  silent : es = []
  rest : board' = { board with nvs := board'.nvs }
  keys : ∀ key, board'.nvs key = board.nvs key ∨
    board'.nvs key = some (board.config.saved key)

theorem saved_composes : Composes Saved where
  refl board := ⟨rfl, rfl, fun _ => .inl rfl⟩
  trans := by
    intro a b c es fs h h'
    refine ⟨by rw [h.silent, h'.silent]; rfl, by rw [h'.rest, h.rest], fun key => ?_⟩
    rcases h'.keys key with hkey | hkey
    · rw [hkey]
      exact h.keys key
    · rw [hkey, h.rest]
      exact .inr rfl

/-- Setting a key to the value it is to hold. -/
theorem saved_update (board : Board) (key : NvsKey) :
    Saved board [] { board with
      nvs := Function.update board.nvs key (some (board.config.saved key)) } := by
  refine ⟨rfl, rfl, fun key' => ?_⟩
  by_cases heq : key' = key
  · subst heq
    simp
  · exact .inl (by simp [heq])

theorem nvsSave_does (env : Env) (key : NvsKey) : Does Saved (nvsSave env key) := by
  refine (does_ask saved_composes _).bind saved_composes fun err => ?_
  exact .ite (fun _ => does_update fun board => saved_update board key)
    fun _ => does_pure saved_composes _

theorem saveToNvs_does (pf : Platform) (env : Env) : Does Saved (saveToNvs pf env) := by
  refine (does_ask saved_composes _).bind saved_composes fun opened => ?_
  refine (does_espErrorCheck saved_composes opened).bind saved_composes fun _ => ?_
  refine (does_forM saved_composes (nvsSave_does env) _).bind saved_composes fun _ => ?_
  exact does_ask saved_composes _

theorem nvsSave_returns (env : Env) (key : NvsKey) : Returns (nvsSave env key) :=
  Returns.bind (fun _ => ⟨_, _, rfl⟩) fun _ => .ite (returns_update _) (returns_pure _)

/-- `save_to_nvs` aborts when flash does not open, and returns otherwise. -/
theorem saveToNvs_cases (pf : Platform) (env : Env) (w : World Board Effect) :
    (∃ v, saveToNvs pf env w = .error .abort v ∧ v.state = w.state) ∨
      ∃ err v, saveToNvs pf env w = .ok err v := by
  unfold saveToNvs
  rw [bind_ok (ask_apply _ _)]
  by_cases hopened : env.err w.asked = .ok
  · obtain ⟨v, -, hrun, -⟩ := chain_forM (nvsSave_does env) (nvsSave_returns env)
      (savedKeys pf.target.serialPortMax) { w with asked := w.asked + 1 }
    refine .inr ⟨env.err v.asked, { v with asked := v.asked + 1 }, ?_⟩
    rw [bind_ok (espErrorCheck_ok hopened _), bind_ok hrun]
    rfl
  · refine .inl ⟨{ w with asked := w.asked + 1 }, bind_error ?_, rfl⟩
    unfold espErrorCheck
    rw [if_neg hopened]
    rfl

theorem savedKeys_nodup (target : Target) : (savedKeys target.serialPortMax).Nodup :=
  (savedKeys_names_nodup target).of_map

/-- Whether `nvs_set_*` of a key takes effect in a save whose first key is question `n`. -/
def Env.flashTook (env : Env) (target : Target) (n : ℕ) : NvsKey → Bool :=
  Overlay.took (fun k => decide (env.err k = .ok)) n (savedKeys target.serialPortMax)

/-- Storing a list of keys writes them one after the other. -/
theorem nvsSaves_apply (env : Env) : ∀ (keys : List NvsKey) (w : World Board Effect),
    keys.forM (nvsSave env) w = .ok ⟨⟩
      { w with
        state := { w.state with
          nvs := Overlay.writeAll w.state.config.saved (fun k => decide (env.err k = .ok)) w.asked
            keys w.state.nvs }
        asked := w.asked + keys.length } := by
  intro keys
  induction keys with
  | nil => intro w; rfl
  | cons key keys ih =>
      intro w
      have hset : nvsSave env key w = .ok () { w with
          state := { w.state with
            nvs :=
              if decide (env.err w.asked = .ok) then
                Function.update w.state.nvs key (some (w.state.config.saved key))
              else w.state.nvs }
          asked := w.asked + 1 } := by
        unfold nvsSave
        rw [bind_ok (ask_apply _ _)]
        by_cases hok : env.err w.asked = .ok <;> simp [hok]
      refine (bind_ok hset).trans ((ih _).trans ?_)
      simp [Overlay.writeAll, Nat.add_assoc, Nat.add_comm 1]

/-- Where flash opens, a save overlays the configuration on what was stored and
returns what `nvs_commit` answers. -/
theorem saveToNvs_apply (pf : Platform) (env : Env) {w : World Board Effect}
    (hopened : env.err w.asked = .ok) :
    saveToNvs pf env w =
      .ok (env.err (w.asked + 1 + (savedKeys pf.target.serialPortMax).length))
        { w with
          state := { w.state with
            nvs := Overlay.overlay (env.flashTook pf.target (w.asked + 1)) w.state.config.saved
              w.state.nvs }
          asked := w.asked + 1 + (savedKeys pf.target.serialPortMax).length + 1 } := by
  unfold saveToNvs
  rw [bind_ok (ask_apply _ _), bind_ok (espErrorCheck_ok hopened _),
    bind_ok (nvsSaves_apply env _ _), ask_apply,
    Overlay.writeAll_eq_overlay _ _ _ _ _ (savedKeys_nodup pf.target)]
  rfl

theorem Env.flashTook_of_ok {env : Env} (hok : ∀ n, env.err n = .ok) {target : Target} {n : ℕ}
    {key : NvsKey} :
    env.flashTook target n key = decide (key ∈ savedKeys target.serialPortMax) := by
  simp [Env.flashTook, Overlay.took, hok]

/-- Flash that accepts everything holds the settings in effect. -/
theorem saveToNvs_stored (pf : Platform) {env : Env} (hok : ∀ n, env.err n = .ok)
    (w : World Board Effect) : ∀ key ∈ savedKeys pf.target.serialPortMax,
      ((saveToNvs pf env).final w).state.nvs key = some (w.state.config.saved key) := by
  intro key hkey
  rw [final_of_ok (saveToNvs_apply pf env (hok _))]
  exact Overlay.overlay_of_written (by simp [Env.flashTook_of_ok hok, hkey])

/-- A setter edits the configuration, then saves it. -/
theorem configSet_does (pf : Platform) (env : Env) (edit : AppConfig → AppConfig) :
    Does (fun board es board' => Saved { board with config := edit board.config } es board')
      (configSet pf env edit) := by
  intro w
  exact saveToNvs_does pf env { w with state := { w.state with config := edit w.state.config } }

end WebTerminal
