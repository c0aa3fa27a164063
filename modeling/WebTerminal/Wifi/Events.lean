import WebTerminal.Wifi.Requests

/-!
# The events of the WiFi manager

`event_handler`, `reconnect_timer_cb` and `wifi_manager_init`, and what they and
the requests do when the driver accepts every call: the state they leave and the
calls they made, in order.
-/

set_option autoImplicit false

namespace WebTerminal

open Proc

/-- The events `event_handler` is registered for. -/
inductive WifiEvent
  | staStart
  | staConnected
  | apStart
  | staDisconnected
  | gotIp
  | gotIp6
  | apStaConnected
  | apStaDisconnected
  deriving DecidableEq

/-- `MAX_STA_RETRIES` -/
abbrev maxStaRetries : ℕ := 5

section

variable (pf : Platform) (env : Env)

/-- The access point is switched on again when the station is lost. -/
def reenableAp : BoardM Unit := do
  let _ ← wifiCall env (.setMode .apsta)
  wifiUpdate fun wifi => { wifi with mode := .apSta }
  let _ ← startStoredAp pf env
  return ()

/-- `xTimerStart`, if there is a network to return to. -/
def startReconnectTimer : BoardM Unit := do
  let conf ← read Board.config
  wifiUpdate fun wifi =>
    if 0 < conf.staSsid.length then { wifi with reconnectTimer := true } else wifi

/-- The access point is switched off once the station is connected. -/
def disableAp : BoardM Unit := do
  let _ ← wifiCall env (.setMode .sta)
  wifiUpdate fun wifi => { wifi with mode := .sta }

/-- `event_handler` for `WIFI_EVENT_STA_START` -/
def handleStaStart : BoardM Unit := do
  let wifi ← read Board.wifi
  onlyIf (wifi.scanning = false) (wifiCall env .connect)

/-- `event_handler` for `WIFI_EVENT_STA_DISCONNECTED` -/
def handleStaDisconnected : BoardM Unit := do
  let wifi ← read Board.wifi
  if wifi.scanning then return ()
  else do
    wifiUpdate fun wifi => { wifi with staConnected := false }
    if wifi.retryCount < maxStaRetries then do
      let _ ← wifiCall env .connect
      wifiUpdate fun wifi => { wifi with retryCount := wifi.retryCount + 1 }
    else do
      onlyIf (wifi.mode = .sta) (reenableAp pf env)
      startReconnectTimer

/-- `event_handler` for `IP_EVENT_STA_GOT_IP` -/
def handleGotIp : BoardM Unit := do
  wifiUpdate fun wifi =>
    { wifi with staConnected := true, retryCount := 0, reconnectTimer := false }
  let wifi ← read Board.wifi
  onlyIf (wifi.mode = .apSta) (disableAp env)

/-- `event_handler` -/
def eventHandler : WifiEvent → BoardM Unit
  | .staStart => handleStaStart env
  | .staDisconnected => handleStaDisconnected pf env
  | .gotIp => handleGotIp env
  -- an IPv6 address of the interface, or a line in the log
  | .staConnected | .apStart | .gotIp6 | .apStaConnected | .apStaDisconnected => return ()

/-- `reconnect_timer_cb` -/
def reconnectTimerCb : BoardM Unit := do
  let wifi ← read Board.wifi
  if wifi.staConnected then wifiUpdate fun wifi => { wifi with reconnectTimer := false }
  else do
    wifiUpdate fun wifi => { wifi with retryCount := 0 }
    let _ ← wifiCall env .connect
    return ()

/-- The start of `wifi_manager_scan`, which returns the mode to go back to. -/
def beginScan : BoardM WifiMode := do
  wifiUpdate fun wifi => { wifi with scanning := true }
  let wifi ← read Board.wifi
  let origMode := wifi.driverMode
  onlyIf (origMode = .ap) (wifiCall env (.setMode .apsta))
  onlyIf (origMode ≠ .ap) (wifiCall env .disconnect)
  return origMode

/-- A call of `wifi_manager_init` that may not fail. -/
def checkedCall (call : WifiCall) : BoardM Unit := do
  let err ← wifiCall env call
  espErrorCheck err

/-- `mdns_init_service` -/
def mdnsInitService (hostname : CString) : BoardM Unit := do
  let sanitized := sanitizeHostname hostname 33
  let _ ← ask env.err
  let _ ← wifiCall env (.mdnsHostname (if sanitized = [] then cstr "esp32-terminal" else sanitized))
  let _ ← wifiCall env (.mdnsInstance hostname)
  -- `mdns_service_add`: the web service has a name of its own
  let _ ← wifiCall env (.mdnsService hostname)
  return ()

/-- The six calls at the start of `wifi_manager_init` that set up the network stack. -/
def initStack : BoardM Unit :=
  (List.range 6).forM fun _ => do
    let err ← ask env.err
    espErrorCheck err

/-- The branch of `wifi_manager_init` for a stored network. -/
def startWithStation : BoardM Unit := do
  checkedCall env (.setMode .apsta)
  wifiUpdate fun wifi => { wifi with mode := .apSta }
  let _ ← startStoredAp pf env
  let conf ← read Board.config
  let err ← wifiCall env (.setStaConfig
    { ssid := conf.staSsid.take 32, password := conf.staPass.take 64 })
  wifiUpdate fun wifi => if err = .ok then wifi else { wifi with mode := .ap }
  checkedCall env .start

/-- The branch without one. -/
def startWithoutStation : BoardM Unit := do
  checkedCall env (.setMode .ap)
  wifiUpdate fun wifi => { wifi with mode := .ap }
  let _ ← startStoredAp pf env
  checkedCall env .start

/-- `wifi_manager_init` -/
def wifiManagerInit : BoardM EspErr := do
  wifiUpdate fun wifi => { wifi with mode := .ap, staConnected := false }
  initStack env
  let conf ← read Board.config
  wifiManagerUpdateHostname env conf.deviceName
  mdnsInitService env conf.deviceName
  if 0 < conf.staSsid.length ∧ ¬staSsidMaxlen < conf.staSsid.length then do
    startWithStation pf env
    return .ok
  else do
    startWithoutStation pf env
    return .ok

end

/-! ## What they do -/

/-- How `event_handler` ends, when its questions to the driver start at `0`, and the
calls it made. -/
inductive EventCase (pf : Platform) (env : Env) (conf : AppConfig) (wifi : Wifi) :
    WifiEvent → Wifi → List WifiCall → Prop
  | startIgnored (hscan : wifi.scanning = true) : EventCase pf env conf wifi .staStart wifi []
  | dialled (hscan : wifi.scanning = false) : EventCase pf env conf wifi .staStart wifi [.connect]
  | lossIgnored (hscan : wifi.scanning = true) : EventCase pf env conf wifi .staDisconnected wifi []
  | retried (hscan : wifi.scanning = false) (hretry : wifi.retryCount < maxStaRetries) :
      EventCase pf env conf wifi .staDisconnected
        { wifi with staConnected := false, retryCount := wifi.retryCount + 1 } [.connect]
  | fellBack (hscan : wifi.scanning = false) (hretry : ¬wifi.retryCount < maxStaRetries)
      (hmode : wifi.mode = .sta) :
      EventCase pf env conf wifi .staDisconnected
        { Wifi.answered (env.err 1) (.setApConfig (storedApConfig pf conf))
            { Wifi.answered (env.err 0) (.setMode .apsta) { wifi with staConnected := false } with
              mode := .apSta } with
          reconnectTimer := wifi.reconnectTimer || decide (0 < conf.staSsid.length) }
        [.setMode .apsta, .setApConfig (storedApConfig pf conf)]
  | gaveUp (hscan : wifi.scanning = false) (hretry : ¬wifi.retryCount < maxStaRetries)
      (hmode : wifi.mode ≠ .sta) :
      EventCase pf env conf wifi .staDisconnected
        { wifi with
          staConnected := false
          reconnectTimer := wifi.reconnectTimer || decide (0 < conf.staSsid.length) } []
  | apKept (hmode : wifi.mode ≠ .apSta) :
      EventCase pf env conf wifi .gotIp
        { wifi with staConnected := true, retryCount := 0, reconnectTimer := false } []
  | apOff (hmode : wifi.mode = .apSta) :
      EventCase pf env conf wifi .gotIp
        { Wifi.answered (env.err 0) (.setMode .sta)
            { wifi with staConnected := true, retryCount := 0, reconnectTimer := false } with
          mode := .sta } [.setMode .sta]
  | noted {event : WifiEvent} (h : event ≠ .staStart ∧ event ≠ .staDisconnected ∧ event ≠ .gotIp) :
      EventCase pf env conf wifi event wifi []

section

variable {pf : Platform} {env : Env}

theorem reenableAp_apply (pf : Platform) (env : Env) (w : World Board Effect) :
    reenableAp pf env w = .ok () (afterCalls
      [.setMode .apsta, .setApConfig (storedApConfig pf w.state.config)]
      (Wifi.answered (env.err (w.asked + 1)) (.setApConfig (storedApConfig pf w.state.config))
        { w.state.wifi.answered (env.err w.asked) (.setMode .apsta) with mode := .apSta }) w) := by
  unfold reenableAp
  rw [bind_ok (wifiCall_apply _ _ _), bind_ok (wifiUpdate_apply _ _),
    bind_ok (startStoredAp_apply pf env _)]
  simp [afterCalls]

theorem startReconnectTimer_apply (w : World Board Effect) :
    startReconnectTimer w = .ok () (afterCalls [] { w.state.wifi with
      reconnectTimer :=
        w.state.wifi.reconnectTimer || decide (0 < w.state.config.staSsid.length) } w) := by
  unfold startReconnectTimer
  rw [bind_ok (read_apply _ _), wifiUpdate_apply]
  by_cases hssid : 0 < w.state.config.staSsid.length
  · simp [afterCalls, hssid]
  · simp [afterCalls, hssid]

theorem handleStaStart_cases (pf : Platform) (env : Env) (board : Board) :
    ∃ wifi calls, handleStaStart env board.start = .ok () (afterCalls calls wifi board.start) ∧
      EventCase pf env board.config board.wifi .staStart wifi calls := by
  cases hscan : board.wifi.scanning with
  | true =>
      refine ⟨_, _, ?_, .startIgnored hscan⟩
      exact (bind_ok (read_apply _ _)).trans (onlyIf_of_not (by simp [Board.start, hscan]))
  | false =>
      refine ⟨_, _, ?_, .dialled hscan⟩
      refine (bind_ok (read_apply _ _)).trans (onlyIf_of (a := env.err 0) hscan ?_)
      rw [wifiCall_apply, Wifi.answered_connect]
      rfl

theorem handleStaDisconnected_cases (pf : Platform) (env : Env) (board : Board) :
    ∃ wifi calls, handleStaDisconnected pf env board.start =
        .ok () (afterCalls calls wifi board.start) ∧
      EventCase pf env board.config board.wifi .staDisconnected wifi calls := by
  unfold handleStaDisconnected
  rw [bind_ok (read_apply _ _)]
  cases hscan : board.wifi.scanning with
  | true =>
      refine ⟨_, _, ?_, .lossIgnored hscan⟩
      exact congrFun (if_pos hscan) _
  | false =>
      rw [if_neg (by simp [Board.start, hscan]), bind_ok (wifiUpdate_apply _ _)]
      by_cases hretry : board.wifi.retryCount < maxStaRetries
      · refine ⟨_, _, ?_, .retried hscan hretry⟩
        refine (congrFun (if_pos hretry) _).trans ((bind_ok (wifiCall_apply _ _ _)).trans ?_)
        rw [Wifi.answered_connect]
        rfl
      · by_cases hmode : board.wifi.mode = .sta
        · refine ⟨_, _, ?_, .fellBack hscan hretry hmode⟩
          refine (congrFun (if_neg hretry) _).trans
            ((bind_ok (onlyIf_of hmode (reenableAp_apply pf env _))).trans
              ((startReconnectTimer_apply _).trans ?_))
          have htimer : ∀ (err err' : EspErr) (conf : ApConfig) (wifi : Wifi),
              (Wifi.answered err' (.setApConfig conf)
                { wifi.answered err (.setMode .apsta) with mode := .apSta }).reconnectTimer =
                  wifi.reconnectTimer := by
            intro err err' conf wifi
            unfold Wifi.answered
            split <;> split <;> rfl
          simp only [afterCalls, htimer, List.map_nil, List.append_nil, List.length_nil]
          rfl
        · refine ⟨_, _, ?_, .gaveUp hscan hretry hmode⟩
          exact (congrFun (if_neg hretry) _).trans
            ((bind_ok (onlyIf_of_not hmode)).trans (startReconnectTimer_apply _))

theorem handleGotIp_cases (pf : Platform) (env : Env) (board : Board) :
    ∃ wifi calls, handleGotIp env board.start = .ok () (afterCalls calls wifi board.start) ∧
      EventCase pf env board.config board.wifi .gotIp wifi calls := by
  unfold handleGotIp
  rw [bind_ok (wifiUpdate_apply _ _), bind_ok (read_apply _ _)]
  by_cases hmode : board.wifi.mode = .apSta
  · refine ⟨_, _, ?_, .apOff hmode⟩
    exact onlyIf_of hmode rfl
  · refine ⟨_, _, ?_, .apKept hmode⟩
    exact onlyIf_of_not hmode

theorem eventHandler_cases (pf : Platform) (env : Env) (board : Board) (event : WifiEvent) :
    ∃ wifi calls,
      eventHandler pf env event board.start = .ok () (afterCalls calls wifi board.start) ∧
      EventCase pf env board.config board.wifi event wifi calls := by
  cases event with
  | staStart => exact handleStaStart_cases pf env board
  | staDisconnected => exact handleStaDisconnected_cases pf env board
  | gotIp => exact handleGotIp_cases pf env board
  | _ => exact ⟨_, _, rfl, .noted (by simp)⟩

/-- `reconnect_timer_cb` stops the timer or dials. -/
theorem reconnectTimerCb_cases (env : Env) (board : Board) :
    (board.wifi.staConnected = true ∧ reconnectTimerCb env board.start =
        .ok () (afterCalls [] board.wifi.timerStopped board.start)) ∨
      board.wifi.staConnected = false ∧ reconnectTimerCb env board.start =
        .ok () (afterCalls [.connect] { board.wifi with retryCount := 0 } board.start) := by
  unfold reconnectTimerCb
  rw [bind_ok (read_apply _ _)]
  cases hconnected : board.wifi.staConnected with
  | true => exact .inl ⟨rfl, congrFun (if_pos hconnected) _⟩
  | false =>
      refine .inr ⟨rfl, ?_⟩
      rw [if_neg (by simp [Board.start, hconnected]), bind_ok (wifiUpdate_apply _ _),
        bind_ok (wifiCall_apply _ _ _), Wifi.answered_connect]
      rfl

/-- The start of a scan switches the station on, or disconnects it. -/
theorem beginScan_cases (env : Env) (board : Board) :
    (board.wifi.driverMode = .ap ∧ beginScan env board.start = .ok .ap
        (afterCalls [.setMode .apsta]
          (Wifi.answered (env.err 0) (.setMode .apsta) { board.wifi with scanning := true })
          board.start)) ∨
      board.wifi.driverMode ≠ .ap ∧ beginScan env board.start = .ok board.wifi.driverMode
        (afterCalls [.disconnect] { board.wifi with scanning := true } board.start) := by
  unfold beginScan
  rw [bind_ok (wifiUpdate_apply _ _), bind_ok (read_apply _ _)]
  by_cases hmode : board.wifi.driverMode = .ap
  · refine .inl ⟨hmode, ?_⟩
    refine (bind_ok (onlyIf_of hmode (wifiCall_apply _ _ _))).trans
      ((bind_ok (onlyIf_of_not (not_not.mpr hmode))).trans ?_)
    exact congrArg (fun mode => EStateM.Result.ok mode _) hmode
  · refine .inr ⟨hmode, ?_⟩
    refine (bind_ok (onlyIf_of_not hmode)).trans
      ((bind_ok (onlyIf_of hmode (wifiCall_apply _ _ _))).trans ?_)
    rw [Wifi.answered_disconnect]
    rfl

/-- The end of a scan goes back to the mode before it, and to the stored network. -/
theorem endScan_apply (env : Env) (origMode : WifiMode) (board : Board) :
    endScan env origMode board.start = .ok () (afterCalls
      ((if origMode = .ap then [.setMode .ap] else []) ++
        if 0 < board.config.staSsid.length then [.connect] else [])
      { (if origMode = .ap then board.wifi.answered (env.err 0) (.setMode .ap) else board.wifi) with
        scanning := false } board.start) := by
  unfold endScan
  have hend : ∀ w : World Board Effect, w.state.config = board.config →
      (wifiUpdate (fun wifi => { wifi with scanning := false }) >>= fun _ => read Board.config >>=
        fun conf => onlyIf (0 < conf.staSsid.length) (wifiCall env .connect)) w =
      .ok () (afterCalls (if 0 < board.config.staSsid.length then [.connect] else [])
        { w.state.wifi with scanning := false } w) := by
    intro w hconf
    rw [bind_ok (wifiUpdate_apply _ _), bind_ok (read_apply _ _)]
    by_cases hssid : 0 < board.config.staSsid.length
    · refine (onlyIf_of (hconf ▸ hssid) (wifiCall_apply _ _ _)).trans ?_
      rw [Wifi.answered_connect, if_pos hssid]
      rfl
    · refine (onlyIf_of_not (hconf ▸ hssid)).trans ?_
      rw [if_neg hssid]
      simp [afterCalls]
  by_cases horig : origMode = .ap
  · subst horig
    rw [bind_ok (onlyIf_of rfl (wifiCall_apply _ _ _)), hend _ rfl]
    simp [afterCalls, Board.start, Nat.add_comm]
  · rw [bind_ok (onlyIf_of_not horig), hend _ rfl, if_neg horig, if_neg horig]
    rfl

/-- `wifi_manager_scan` is its start, the scan and its end. -/
theorem wifiManagerScan_eq (env : Env) : wifiManagerScan env = (beginScan env >>= fun origMode => do
    let err ← wifiCall env .scanStart
    if err ≠ .ok then do
      endScan env origMode
      return none
    else do
      let records ← ask env.scanResult
      if records.length = 0 then do
        let _ ← wifiCall env .clearApList
        endScan env origMode
        return some []
      else do
        let apRecords ← ask env.found
        let _ ← wifiCall env .clearApList
        if !apRecords then do
          endScan env origMode
          return none
        else do
          let res ← ask env.found
          endScan env origMode
          return if res then some ((records.take 20).foldl addRecord []) else none) := by
  unfold wifiManagerScan beginScan
  simp only [bind_assoc, pure_bind]

/-! ## Starting up -/

/-- The name in the network for a device name. -/
def hostnameOf (deviceName : CString) : CString :=
  if sanitizeHostname deviceName 33 = [] then cstr "esp32-terminal"
  else sanitizeHostname deviceName 33

/-- The calls that set the names of the device. -/
def nameCalls (deviceName : CString) : List WifiCall :=
  [.setHostname (hostnameOf deviceName), .mdnsHostname (hostnameOf deviceName),
    .mdnsInstance deviceName]

/-- The driver with the names of the device set. -/
def Wifi.named (deviceName : CString) (wifi : Wifi) : Wifi :=
  { wifi with
    hostname := hostnameOf deviceName
    mdnsHostname := hostnameOf deviceName
    mdnsInstance := deviceName }

theorem updateHostname_apply (hok : env.AllOk) (deviceName : CString) (w : World Board Effect) :
    wifiManagerUpdateHostname env deviceName w =
      .ok () (afterCalls (nameCalls deviceName) (w.state.wifi.named deviceName) w) := by
  unfold wifiManagerUpdateHostname
  refine (bind_ok (wifiCall_apply _ _ _)).trans ((bind_ok (wifiCall_apply _ _ _)).trans
    ((bind_ok (wifiCall_apply _ _ _)).trans ?_))
  simp [Wifi.answered, Wifi.drive, hok _, afterCalls, nameCalls, Wifi.named, hostnameOf]

/-- Whatever its answers the names are all that changes. -/
theorem updateHostname_cases (env : Env) (deviceName : CString) (w : World Board Effect) :
    ∃ hostname mdnsHostname mdnsInstance, wifiManagerUpdateHostname env deviceName w =
      .ok () (afterCalls (nameCalls deviceName)
        { w.state.wifi with
          hostname := hostname, mdnsHostname := mdnsHostname,
          mdnsInstance := mdnsInstance } w) := by
  have hanswered : ∀ (wifi : Wifi) (e₁ e₂ e₃ : EspErr) (n₁ n₂ n₃ : CString), ∃ h m i,
      Wifi.answered e₃ (.mdnsInstance n₃) (Wifi.answered e₂ (.mdnsHostname n₂)
        (wifi.answered e₁ (.setHostname n₁))) =
          { wifi with hostname := h, mdnsHostname := m, mdnsInstance := i } := by
    intro wifi e₁ e₂ e₃ n₁ n₂ n₃
    unfold Wifi.answered
    split <;> split <;> split <;> exact ⟨_, _, _, rfl⟩
  unfold wifiManagerUpdateHostname
  obtain ⟨h, m, i, heq⟩ := hanswered w.state.wifi (env.err w.asked) (env.err (w.asked + 1))
    (env.err (w.asked + 2)) (hostnameOf deviceName) (hostnameOf deviceName) deviceName
  refine ⟨h, m, i, ?_⟩
  rw [← heq]
  refine (bind_ok (wifiCall_apply _ _ _)).trans ((bind_ok (wifiCall_apply _ _ _)).trans
    ((bind_ok (wifiCall_apply _ _ _)).trans ?_))
  simp [afterCalls, nameCalls, hostnameOf]

theorem initStack_apply (hok : env.AllOk) (w : World Board Effect) :
    initStack env w = .ok ⟨⟩ { w with asked := w.asked + 6 } := by
  have hcheck : ∀ (ns : List ℕ) (w : World Board Effect),
      (ns.forM (fun _ => ask env.err >>= espErrorCheck) : BoardM PUnit) w =
        .ok ⟨⟩ { w with asked := w.asked + ns.length } := by
    intro ns
    induction ns with
    | nil => intro w; rfl
    | cons n ns ih =>
        intro w
        refine (bind_ok ((bind_ok (ask_apply _ _)).trans (espErrorCheck_ok (hok _) _))).trans
          ((ih _).trans ?_)
        simp [Nat.add_assoc, Nat.add_comm 1]
  exact hcheck (List.range 6) w

theorem checkedCall_apply (hok : env.AllOk) (call : WifiCall) (w : World Board Effect) :
    checkedCall env call w = .ok () (afterCalls [call] (w.state.wifi.drive call) w) := by
  unfold checkedCall
  rw [bind_ok (wifiCall_apply _ _ _), espErrorCheck_ok (hok _), Wifi.answered_ok (hok _)]
  rfl

/-- The configuration of the station `wifi_manager_init` applies. -/
def storedStaConfig (conf : AppConfig) : StaConfig := joinConfig conf.staSsid conf.staPass

/-- A network to join is stored. -/
def AppConfig.HasSta (conf : AppConfig) : Prop :=
  0 < conf.staSsid.length ∧ ¬staSsidMaxlen < conf.staSsid.length

instance (conf : AppConfig) : Decidable conf.HasSta := by
  unfold AppConfig.HasSta
  infer_instance

/-- The radio once `wifi_manager_init` has started it. -/
def Wifi.initialized (pf : Platform) (conf : AppConfig) (wifi : Wifi) : Wifi :=
  { (if conf.HasSta then
      { wifi with mode := .apSta, driverMode := .apsta, staConfig := storedStaConfig conf }
    else { wifi with mode := .ap, driverMode := .ap }) with
    staConnected := false
    driverStarted := true
    apConfig := storedApConfig pf conf
    hostname := hostnameOf conf.deviceName
    mdnsHostname := hostnameOf conf.deviceName
    mdnsInstance := conf.deviceName
    mdnsService := conf.deviceName }

/-- The calls of `wifi_manager_init`. -/
def initCalls (pf : Platform) (conf : AppConfig) : List WifiCall :=
  nameCalls conf.deviceName ++
    [.mdnsHostname (hostnameOf conf.deviceName), .mdnsInstance conf.deviceName,
      .mdnsService conf.deviceName] ++
    if conf.HasSta then [.setMode .apsta, .setApConfig (storedApConfig pf conf),
      .setStaConfig (storedStaConfig conf), .start]
    else [.setMode .ap, .setApConfig (storedApConfig pf conf), .start]

theorem mdnsInitService_apply (hok : env.AllOk) (deviceName : CString) (w : World Board Effect) :
    mdnsInitService env deviceName w = .ok () { afterCalls
      [.mdnsHostname (hostnameOf deviceName), .mdnsInstance deviceName, .mdnsService deviceName]
      { w.state.wifi with
        mdnsHostname := hostnameOf deviceName
        mdnsInstance := deviceName
        mdnsService := deviceName } w with asked := w.asked + 4 } := by
  unfold mdnsInitService
  refine (bind_ok (ask_apply _ _)).trans ((bind_ok (wifiCall_apply _ _ _)).trans
    ((bind_ok (wifiCall_apply _ _ _)).trans ((bind_ok (wifiCall_apply _ _ _)).trans ?_)))
  simp [Wifi.answered, Wifi.drive, hok _, afterCalls, hostnameOf]

theorem startWithStation_apply (pf : Platform) (hok : env.AllOk) (w : World Board Effect) :
    startWithStation pf env w = .ok () (afterCalls
      [.setMode .apsta, .setApConfig (storedApConfig pf w.state.config),
        .setStaConfig (storedStaConfig w.state.config), .start]
      { w.state.wifi with
        mode := .apSta
        driverMode := .apsta
        apConfig := storedApConfig pf w.state.config
        staConfig := storedStaConfig w.state.config
        driverStarted := true } w) := by
  unfold startWithStation
  refine (bind_ok (checkedCall_apply hok _ _)).trans ((bind_ok (wifiUpdate_apply _ _)).trans
    ((bind_ok (startStoredAp_apply pf env _)).trans ((bind_ok (read_apply _ _)).trans
      ((bind_ok (wifiCall_apply _ _ _)).trans ((bind_ok (wifiUpdate_apply _ _)).trans
        ((checkedCall_apply hok _ _).trans ?_))))))
  simp [Wifi.answered, Wifi.drive, hok _, afterCalls, storedStaConfig, joinConfig]

theorem startWithoutStation_apply (pf : Platform) (hok : env.AllOk) (w : World Board Effect) :
    startWithoutStation pf env w = .ok () (afterCalls
      [.setMode .ap, .setApConfig (storedApConfig pf w.state.config), .start]
      { w.state.wifi with
        mode := .ap
        driverMode := .ap
        apConfig := storedApConfig pf w.state.config
        driverStarted := true } w) := by
  unfold startWithoutStation
  refine (bind_ok (checkedCall_apply hok _ _)).trans ((bind_ok (wifiUpdate_apply _ _)).trans
    ((bind_ok (startStoredAp_apply pf env _)).trans ((checkedCall_apply hok _ _).trans ?_)))
  simp [Wifi.answered, Wifi.drive, hok _, afterCalls]

theorem wifiManagerInit_ok (pf : Platform) (hok : env.AllOk) (w : World Board Effect) :
    ∃ n, wifiManagerInit pf env w = .ok .ok
      ⟨{ w.state with wifi := w.state.wifi.initialized pf w.state.config }, n,
        w.shown ++ (initCalls pf w.state.config).map Effect.wifi⟩ := by
  unfold wifiManagerInit
  rw [bind_ok (wifiUpdate_apply _ _), bind_ok (initStack_apply hok _), bind_ok (read_apply _ _),
    bind_ok (updateHostname_apply hok _ _), bind_ok (mdnsInitService_apply hok _ _)]
  by_cases hsta : w.state.config.HasSta
  · refine ⟨w.asked + 17, ?_⟩
    refine (congrFun (if_pos hsta) _).trans ((bind_ok (startWithStation_apply pf hok _)).trans ?_)
    rw [initCalls, if_pos hsta, Wifi.initialized, if_pos hsta]
    simp [afterCalls, nameCalls, Wifi.named, Nat.add_assoc]
  · refine ⟨w.asked + 16, ?_⟩
    refine (congrFun (if_neg hsta) _).trans
      ((bind_ok (startWithoutStation_apply pf hok _)).trans ?_)
    rw [initCalls, if_neg hsta, Wifi.initialized, if_neg hsta]
    simp [afterCalls, nameCalls, Wifi.named, Nat.add_assoc]

end

end WebTerminal
