import WebTerminal.Server.Wifi
import WebTerminal.Store.ConfigMachine

/-!
# What a WiFi request does

The three functions of `wifi_manager.c` that change the network settings store
first and apply afterwards.  A request that is not refused saves the
configuration with questions `0` to `afterSave - 1`; the calls into the driver
follow in the order of the source, and which of their answers the function looks
at decides where it leaves.
-/

set_option autoImplicit false

namespace WebTerminal

open Proc

/-- A request to the WiFi manager, with its arguments. -/
inductive WifiRequest
  | connectSta (ssid password : CText)
  | disconnectSta
  | updateAp (ssid password : CText)

namespace WifiRequest

/-- The function called. -/
def run (pf : Platform) (env : Env) : WifiRequest → BoardM EspErr
  | connectSta ssid password => wifiManagerConnectSta pf env ssid password
  | disconnectSta => wifiManagerDisconnectSta pf env
  | updateAp ssid password => wifiManagerUpdateAp pf env ssid password

/-- The arguments are refused. -/
def refused : WifiRequest → Bool
  | connectSta ssid password => staRefused ssid password
  | _ => false

/-- The configuration call of the request. -/
def configCall : WifiRequest → ConfigCall
  | connectSta ssid password => .wifiSta ssid password
  | disconnectSta => .wifiSta ⟨[], by simp⟩ ⟨[], by simp⟩
  | updateAp ssid password => .wifiAp ssid password

end WifiRequest

/-- The number of the question `nvs_commit` answers when a request is saved. -/
def Platform.commitQuestion (pf : Platform) : ℕ := (savedKeys pf.target.serialPortMax).length + 1

/-- The number of the first question after that. -/
def Platform.afterSave (pf : Platform) : ℕ := pf.commitQuestion + 1

/-- The driver after a call with this answer. -/
def Wifi.answered (err : EspErr) (call : WifiCall) (wifi : Wifi) : Wifi :=
  if err = .ok then wifi.drive call else wifi

/-- The world after these calls, each with one answer. -/
def afterCalls (calls : List WifiCall) (wifi : Wifi) (w : World Board Effect) :
    World Board Effect where
  state := { w.state with wifi := wifi }
  asked := w.asked + calls.length
  shown := w.shown ++ calls.map Effect.wifi

/-- The world in which a request has saved the configuration. -/
def WifiRequest.savedWorld (pf : Platform) (env : Env) (board : Board) (request : WifiRequest) :
    World Board Effect where
  state := request.configCall.saved pf env board
  asked := pf.afterSave
  shown := []

/-- The configuration `wifi_manager_connect_sta` applies. -/
def joinConfig (ssid password : CString) : StaConfig where
  ssid := ssid.take 32
  password := password.take 64

/-- The configuration `start_ap` applies. -/
def apConfigOf (ssid password : CString) : ApConfig where
  ssid := ssid.take 32
  ssidLen := ssid.length
  password := password.take 64
  authOpen := decide (password.length < 8)

/-- The configuration of the stored access point. -/
def storedApConfig (pf : Platform) (conf : AppConfig) : ApConfig :=
  apConfigOf (buildApSsid pf.mac conf.apSsid) conf.apPass

section

variable {pf : Platform} {env : Env}

theorem wifiCall_apply (env : Env) (call : WifiCall) (w : World Board Effect) :
    wifiCall env call w = .ok (env.err w.asked)
      { state := { w.state with wifi := w.state.wifi.answered (env.err w.asked) call }
        asked := w.asked + 1
        shown := w.shown ++ [.wifi call] } := rfl

theorem wifiUpdate_apply (edit : Wifi → Wifi) (w : World Board Effect) :
    wifiUpdate edit w = .ok () { w with state := { w.state with wifi := edit w.state.wifi } } := rfl

theorem startStoredAp_apply (pf : Platform) (env : Env) (w : World Board Effect) :
    startStoredAp pf env w = .ok (env.err w.asked)
      { state := { w.state with
          wifi := w.state.wifi.answered (env.err w.asked)
            (.setApConfig (storedApConfig pf w.state.config)) }
        asked := w.asked + 1
        shown := w.shown ++ [.wifi (.setApConfig (storedApConfig pf w.state.config))] } := rfl

/-- The save of a request. -/
theorem configSetWifi_apply (pf : Platform) (env : Env) (request : WifiRequest) (board : Board)
    (hopened : env.err 0 = .ok) :
    request.configCall.run pf env board.start =
      .ok (env.err pf.commitQuestion)
        ⟨request.configCall.saved pf env board, pf.afterSave, []⟩ := by
  have hrange : request.configCall.outOfRange pf.target.serialPortMax = false := by
    cases request <;> rfl
  have hopening : request.configCall.opening = 0 := by cases request <;> rfl
  rw [request.configCall.run_inRange board hrange]
  have hopened' : env.err request.configCall.opening = .ok := hopening ▸ hopened
  rw [saveToNvs_apply pf env hopened']
  unfold Platform.afterSave Platform.commitQuestion ConfigCall.saved ConfigCall.took
  simp only [hopening, Nat.zero_add, Nat.add_comm 1, Nat.add_assoc]

/-- A request that cannot open flash resets the chip. -/
theorem configSetWifi_closed (pf : Platform) (env : Env) (request : WifiRequest) (board : Board)
    (hclosed : env.err 0 ≠ .ok) :
    ∃ w, request.configCall.run pf env board.start = .error .abort w := by
  have hrange : request.configCall.outOfRange pf.target.serialPortMax = false := by
    cases request <;> rfl
  have hopening : request.configCall.opening = 0 := by cases request <;> rfl
  rcases request.configCall.run_cases pf env board hrange with ⟨hopened, -⟩ | ⟨-, w, hrun, -⟩
  · rw [hopening] at hopened
    exact absurd hopened hclosed
  · exact ⟨w, hrun⟩

/-- The driver once `wifi_manager_connect_sta` has set the mode. -/
def Wifi.enteredApSta (env : Env) (n : ℕ) (conf : ApConfig) (wifi : Wifi) : Wifi :=
  Wifi.answered (env.err (n + 2)) (.setApConfig conf)
    { wifi.answered (env.err n) .stop with driverMode := .apsta, mode := .apSta }

/-- A driver that stopped is off, in AP+STA mode. -/
theorem Wifi.enteredApSta_fields {n : ℕ} (hstop : env.err n = .ok) (conf : ApConfig) (wifi : Wifi) :
    (wifi.enteredApSta env n conf).driverMode = .apsta ∧
      (wifi.enteredApSta env n conf).mode = .apSta ∧
        (wifi.enteredApSta env n conf).driverStarted = false := by
  unfold enteredApSta
  simp only [answered, hstop, if_true]
  split <;> exact ⟨rfl, rfl, rfl⟩

/-- The driver once it has the configuration of the station. -/
def Wifi.joined (conf : StaConfig) (wifi : Wifi) : Wifi :=
  { wifi with staConfig := conf, retryCount := 0 }

/-- How `wifi_manager_connect_sta` ends with the configuration `conf`, when its
questions to the driver start at `n`, and the calls it made. -/
inductive ConnectCase (env : Env) (n : ℕ) (apConf : ApConfig) (conf : StaConfig) (wifi : Wifi) :
    EspErr → Wifi → List WifiCall → Prop
  | kept (hmode : wifi.mode = .apSta) (hconf : env.err n ≠ .ok) :
      ConnectCase env n apConf conf wifi (env.err n) wifi [.setStaConfig conf]
  | joining (hmode : wifi.mode = .apSta) (hconf : env.err n = .ok) :
      ConnectCase env n apConf conf wifi
        (if env.err (n + 1) = .wifiConn then .ok else env.err (n + 1)) (wifi.joined conf)
        [.setStaConfig conf, .connect]
  | noMode (hmode : wifi.mode ≠ .apSta) (hset : env.err (n + 1) ≠ .ok) :
      ConnectCase env n apConf conf wifi (env.err (n + 1)) (wifi.answered (env.err n) .stop)
        [.stop, .setMode .apsta]
  | noConfig (hmode : wifi.mode ≠ .apSta) (hset : env.err (n + 1) = .ok)
      (hconf : env.err (n + 3) ≠ .ok) :
      ConnectCase env n apConf conf wifi (env.err (n + 3)) (wifi.enteredApSta env n apConf)
        [.stop, .setMode .apsta, .setApConfig apConf, .setStaConfig conf]
  | started (hmode : wifi.mode ≠ .apSta) (hset : env.err (n + 1) = .ok)
      (hconf : env.err (n + 3) = .ok) :
      ConnectCase env n apConf conf wifi (env.err (n + 4))
        (Wifi.answered (env.err (n + 4)) .start ((wifi.enteredApSta env n apConf).joined conf))
        [.stop, .setMode .apsta, .setApConfig apConf, .setStaConfig conf, .start]

theorem Wifi.answered_ok {err : EspErr} (h : err = .ok) (call : WifiCall) (wifi : Wifi) :
    wifi.answered err call = wifi.drive call := if_pos h

theorem Wifi.answered_rejected {err : EspErr} (h : err ≠ .ok) (call : WifiCall) (wifi : Wifi) :
    wifi.answered err call = wifi := if_neg h

@[simp] theorem Wifi.answered_connect (err : EspErr) (wifi : Wifi) :
    wifi.answered err .connect = wifi := by
  unfold answered
  split <;> rfl

@[simp] theorem Wifi.answered_disconnect (err : EspErr) (wifi : Wifi) :
    wifi.answered err .disconnect = wifi := by
  unfold answered
  split <;> rfl

/-- The end of `wifi_manager_connect_sta`. -/
theorem joinNetwork_cases (env : Env) (running : Bool) (ssid password : CString)
    (w : World Board Effect) :
    (env.err w.asked ≠ .ok ∧ joinNetwork env running ssid password w = .ok (env.err w.asked)
        ⟨w.state, w.asked + 1, w.shown ++ [.wifi (.setStaConfig (joinConfig ssid password))]⟩) ∨
      env.err w.asked = .ok ∧ joinNetwork env running ssid password w =
          .ok (if running ∧ env.err (w.asked + 1) = .wifiConn then .ok else env.err (w.asked + 1))
        ⟨{ w.state with
            wifi := Wifi.answered (env.err (w.asked + 1)) (if running then .connect else .start)
              (w.state.wifi.joined (joinConfig ssid password)) },
          w.asked + 2, w.shown ++ [.wifi (.setStaConfig (joinConfig ssid password)),
            .wifi (if running then .connect else .start)]⟩ := by
  unfold joinNetwork
  by_cases hconf : env.err w.asked = .ok
  · refine .inr ⟨hconf, ?_⟩
    rw [bind_ok (wifiCall_apply _ _ _)]
    simp only [hconf, ne_eq, not_true_eq_false, if_false]
    refine (bind_ok (wifiUpdate_apply _ _)).trans ?_
    cases running with
    | true =>
        refine (bind_ok (wifiCall_apply _ _ _)).trans ?_
        simp [Wifi.answered, Wifi.drive, Wifi.joined, joinConfig]
    | false =>
        refine (wifiCall_apply _ _ _).trans ?_
        simp [Wifi.answered, Wifi.drive, Wifi.joined, joinConfig]
  · refine .inl ⟨hconf, ?_⟩
    rw [bind_ok (wifiCall_apply _ _ _), Wifi.answered_rejected hconf]
    exact congrFun (if_pos hconf) _

/-- The change to AP+STA mode. -/
theorem enterApSta_cases (pf : Platform) (env : Env) (w : World Board Effect) :
    (env.err (w.asked + 1) ≠ .ok ∧ enterApSta pf env false w = .ok (env.err (w.asked + 1))
        ⟨{ w.state with wifi := w.state.wifi.answered (env.err w.asked) .stop },
          w.asked + 2, w.shown ++ [.wifi .stop, .wifi (.setMode .apsta)]⟩) ∨
      env.err (w.asked + 1) = .ok ∧ enterApSta pf env false w = .ok .ok
        ⟨{ w.state with
            wifi := w.state.wifi.enteredApSta env w.asked (storedApConfig pf w.state.config) },
          w.asked + 3, w.shown ++ [.wifi .stop, .wifi (.setMode .apsta),
            .wifi (.setApConfig (storedApConfig pf w.state.config))]⟩ := by
  unfold enterApSta
  by_cases hset : env.err (w.asked + 1) = .ok
  · refine .inr ⟨hset, ?_⟩
    refine (bind_ok (wifiCall_apply _ _ _)).trans ((bind_ok (wifiCall_apply _ _ _)).trans ?_)
    simp only [hset, ne_eq, not_true_eq_false, if_false]
    refine (bind_ok (wifiUpdate_apply _ _)).trans ?_
    refine (bind_ok (startStoredAp_apply pf env _)).trans ?_
    simp [Wifi.answered, Wifi.drive, Wifi.enteredApSta]
  · refine .inl ⟨hset, ?_⟩
    refine (bind_ok (wifiCall_apply _ _ _)).trans ((bind_ok (wifiCall_apply _ _ _)).trans ?_)
    rw [Wifi.answered_rejected hset]
    refine (congrFun (if_pos hset) _).trans ?_
    simp

/-- The driver part of `wifi_manager_connect_sta`, after its arguments are accepted
and stored. -/
theorem connectDriver_cases (pf : Platform) (env : Env) (ssid password : CString)
    (w : World Board Effect) :
    ∃ err wifi calls, (enterApSta pf env (decide (w.state.wifi.mode = .apSta)) >>= fun err =>
        if err ≠ .ok then pure err
        else joinNetwork env (decide (w.state.wifi.mode = .apSta)) ssid password) w =
          .ok err (afterCalls calls wifi w) ∧
      ConnectCase env w.asked (storedApConfig pf w.state.config) (joinConfig ssid password)
        w.state.wifi err wifi calls := by
  by_cases hmode : w.state.wifi.mode = .apSta
  · simp only [hmode, decide_true]
    rw [bind_ok (show enterApSta pf env true w = .ok .ok w from rfl)]
    simp only [ne_eq, not_true_eq_false, if_false]
    rcases joinNetwork_cases env true ssid password w with ⟨hconf, hrun⟩ | ⟨hconf, hrun⟩
    · exact ⟨_, _, _, hrun, .kept hmode hconf⟩
    · simp only [true_and, if_true, Wifi.answered_connect] at hrun
      exact ⟨_, _, _, hrun, .joining hmode hconf⟩
  · simp only [hmode, decide_false]
    rcases enterApSta_cases pf env w with ⟨hset, henter⟩ | ⟨hset, henter⟩
    · rw [bind_ok henter]
      exact ⟨_, _, _, congrFun (if_pos hset) _, .noMode hmode hset⟩
    · rw [bind_ok henter]
      simp only [ne_eq, not_true_eq_false, if_false]
      rcases joinNetwork_cases env false ssid password
        ⟨{ w.state with
            wifi := w.state.wifi.enteredApSta env w.asked (storedApConfig pf w.state.config) },
          w.asked + 3, w.shown ++ [.wifi .stop, .wifi (.setMode .apsta),
            .wifi (.setApConfig (storedApConfig pf w.state.config))]⟩
          with ⟨hconf, hrun⟩ | ⟨hconf, hrun⟩
      · rw [List.append_assoc] at hrun
        exact ⟨_, _, _, hrun, .noConfig hmode hset hconf⟩
      · simp only [Bool.false_eq_true, false_and, if_false, List.append_assoc] at hrun
        exact ⟨_, _, _, hrun, .started hmode hset hconf⟩

theorem connectSta_refused {ssid password : CText} (board : Board)
    (h : staRefused ssid password = true) :
    (WifiRequest.connectSta ssid password).run pf env board.start = .ok .invalidArg board.start :=
  congrFun (if_pos h) _

/-- How `wifi_manager_connect_sta` ends where its arguments are accepted and flash opens. -/
theorem connectSta_cases (pf : Platform) (env : Env) {ssid password : CText} (board : Board)
    (hargs : staRefused ssid password = false) (hopened : env.err 0 = .ok) :
    ∃ err wifi calls, (WifiRequest.connectSta ssid password).run pf env board.start =
        .ok err (afterCalls calls wifi
          ((WifiRequest.connectSta ssid password).savedWorld pf env board)) ∧
      ConnectCase env pf.afterSave (storedApConfig pf board.config) (joinConfig ssid password)
        board.wifi err wifi calls := by
  have hsave := configSetWifi_apply pf env (.connectSta ssid password) board hopened
  obtain ⟨err, wifi, calls, hrun, hcase⟩ := connectDriver_cases pf env ssid password
    ((WifiRequest.connectSta ssid password).savedWorld pf env board)
  refine ⟨err, wifi, calls, ?_, hcase⟩
  show wifiManagerConnectSta pf env ssid password board.start = _
  unfold wifiManagerConnectSta
  rw [if_neg (by simp [hargs])]
  exact (bind_ok hsave).trans hrun

/-- The state of the WiFi manager at the start of `wifi_manager_disconnect_sta`. -/
def Wifi.timerStopped (wifi : Wifi) : Wifi := { wifi with reconnectTimer := false }

/-- How `wifi_manager_disconnect_sta` ends, when its questions to the driver start at
`n`, and the calls it made. -/
inductive DisconnectCase (env : Env) (n : ℕ) (apConf : ApConfig) (wifi : Wifi) :
    EspErr → Wifi → List WifiCall → Prop
  | noMode (hset : env.err (n + 2) ≠ .ok) :
      DisconnectCase env n apConf wifi (env.err (n + 2))
        (wifi.timerStopped.answered (env.err (n + 1)) .stop) [.disconnect, .stop, .setMode .ap]
  | started (hset : env.err (n + 2) = .ok) :
      DisconnectCase env n apConf wifi (env.err (n + 4))
        (Wifi.answered (env.err (n + 4)) .start
          (Wifi.answered (env.err (n + 3)) (.setApConfig apConf)
            { wifi.timerStopped.answered (env.err (n + 1)) .stop with
              driverMode := .ap, mode := .ap, staConnected := false }))
        [.disconnect, .stop, .setMode .ap, .setApConfig apConf, .start]

/-- The driver part of `wifi_manager_disconnect_sta`. -/
theorem disconnectDriver_cases (pf : Platform) (env : Env) (w : World Board Effect) :
    ∃ err wifi calls, (wifiCall env .disconnect >>= fun _ => wifiCall env .stop >>= fun _ =>
        wifiCall env (.setMode .ap) >>= fun err =>
          if err ≠ .ok then pure err
          else
            (wifiUpdate fun wifi => { wifi with mode := .ap, staConnected := false }) >>= fun _ =>
            startStoredAp pf env >>= fun _ => wifiCall env .start)
          { w with state := { w.state with wifi := w.state.wifi.timerStopped } } =
        .ok err (afterCalls calls wifi w) ∧
      DisconnectCase env w.asked (storedApConfig pf w.state.config) w.state.wifi err
        wifi calls := by
  rw [bind_ok (wifiCall_apply _ _ _), bind_ok (wifiCall_apply _ _ _),
    bind_ok (wifiCall_apply _ _ _)]
  by_cases hset : env.err (w.asked + 2) = .ok
  · refine ⟨_, _, _, ?_, .started hset⟩
    rw [if_neg (not_not.mpr hset), Wifi.answered_disconnect, Wifi.answered_ok hset]
    refine (bind_ok (wifiUpdate_apply _ _)).trans ((bind_ok (startStoredAp_apply pf env _)).trans
      ((wifiCall_apply _ _ _).trans ?_))
    simp [afterCalls, Wifi.drive]
  · refine ⟨_, _, _, ?_, .noMode hset⟩
    rw [Wifi.answered_disconnect, Wifi.answered_rejected hset]
    refine (congrFun (if_pos hset) _).trans ?_
    simp [afterCalls]

theorem disconnectSta_cases (pf : Platform) (env : Env) (board : Board)
    (hopened : env.err 0 = .ok) :
    ∃ err wifi calls, WifiRequest.disconnectSta.run pf env board.start =
        .ok err (afterCalls calls wifi (WifiRequest.disconnectSta.savedWorld pf env board)) ∧
      DisconnectCase env pf.afterSave (storedApConfig pf board.config) board.wifi err
        wifi calls := by
  have hsave : configSetWifiSta pf env [] []
      ⟨{ board with wifi := board.wifi.timerStopped }, 0, []⟩ = _ :=
    configSetWifi_apply pf env .disconnectSta { board with wifi := board.wifi.timerStopped } hopened
  obtain ⟨err, wifi, calls, hrun, hcase⟩ := disconnectDriver_cases pf env
    (WifiRequest.disconnectSta.savedWorld pf env board)
  refine ⟨err, wifi, calls, ?_, hcase⟩
  show wifiManagerDisconnectSta pf env board.start = _
  unfold wifiManagerDisconnectSta
  exact (bind_ok (wifiUpdate_apply _ _)).trans ((bind_ok hsave).trans hrun)

/-- How `wifi_manager_update_ap` ends, when its question to the driver is `n + 1` and
the commit of its save is `n`, and the calls it made. -/
inductive UpdateApCase (env : Env) (n : ℕ) (apConf : ApConfig) (wifi : Wifi) :
    EspErr → Wifi → List WifiCall → Prop
  | unsaved (hcommit : env.err n ≠ .ok) : UpdateApCase env n apConf wifi (env.err n) wifi []
  | applied (hcommit : env.err n = .ok) :
      UpdateApCase env n apConf wifi (env.err (n + 1))
        (wifi.answered (env.err (n + 1)) (.setApConfig apConf)) [.setApConfig apConf]

theorem updateAp_cases (pf : Platform) (env : Env) (ssid password : CText) (board : Board)
    (hopened : env.err 0 = .ok) :
    ∃ err wifi calls, (WifiRequest.updateAp ssid password).run pf env board.start =
        .ok err (afterCalls calls wifi
          ((WifiRequest.updateAp ssid password).savedWorld pf env board)) ∧
      UpdateApCase env pf.commitQuestion (apConfigOf (buildApSsid pf.mac ssid) password) board.wifi
        err wifi calls := by
  have hsave : configSetWifiAp pf env ssid password board.start = _ :=
    configSetWifi_apply pf env (.updateAp ssid password) board hopened
  by_cases hcommit : env.err pf.commitQuestion = .ok
  · refine ⟨_, _, _, ?_, .applied hcommit⟩
    exact (bind_ok hsave).trans ((congrFun (if_neg (not_not.mpr hcommit)) _).trans
      (wifiCall_apply _ _ _))
  · refine ⟨_, _, _, ?_, .unsaved hcommit⟩
    exact (bind_ok hsave).trans (congrFun (if_pos hcommit) _)

/-- A request that cannot open flash resets the chip. -/
theorem WifiRequest.run_closed (pf : Platform) (env : Env) (request : WifiRequest) (board : Board)
    (hargs : request.refused = false) (hclosed : env.err 0 ≠ .ok) :
    ∃ w, request.run pf env board.start = .error .abort w := by
  cases request with
  | connectSta ssid password =>
      obtain ⟨w, hsave⟩ := configSetWifi_closed pf env (.connectSta ssid password) board hclosed
      refine ⟨w, ?_⟩
      show wifiManagerConnectSta pf env ssid password board.start = _
      unfold wifiManagerConnectSta
      rw [if_neg (by simpa [WifiRequest.refused] using hargs)]
      exact bind_error hsave
  | disconnectSta =>
      obtain ⟨w, hsave⟩ := configSetWifi_closed pf env .disconnectSta
        { board with wifi := board.wifi.timerStopped } hclosed
      exact ⟨w, (bind_ok (wifiUpdate_apply _ _)).trans (bind_error hsave)⟩
  | updateAp ssid password =>
      obtain ⟨w, hsave⟩ := configSetWifi_closed pf env (.updateAp ssid password) board hclosed
      exact ⟨w, bind_error hsave⟩

/-- How a request runs: its arguments are refused, flash does not open, or the driver is
called after the save. -/
inductive RequestRun (pf : Platform) (env : Env) (board : Board) :
    WifiRequest → EStateM.Result Stop (World Board Effect) EspErr → Prop
  | refused {request : WifiRequest} (hargs : request.refused = true) :
      RequestRun pf env board request (.ok .invalidArg board.start)
  | closed {request : WifiRequest} {w : World Board Effect} (hargs : request.refused = false)
      (hclosed : env.err 0 ≠ .ok) : RequestRun pf env board request (.error .abort w)
  | connectSta {ssid password : CText} {err : EspErr} {wifi : Wifi} {calls : List WifiCall}
      (hargs : staRefused ssid password = false) (hopened : env.err 0 = .ok)
      (hcase : ConnectCase env pf.afterSave (storedApConfig pf board.config)
        (joinConfig ssid password) board.wifi err wifi calls) :
      RequestRun pf env board (.connectSta ssid password) (.ok err
        (afterCalls calls wifi ((WifiRequest.connectSta ssid password).savedWorld pf env board)))
  | disconnectSta {err : EspErr} {wifi : Wifi} {calls : List WifiCall} (hopened : env.err 0 = .ok)
      (hcase : DisconnectCase env pf.afterSave (storedApConfig pf board.config) board.wifi err wifi
        calls) :
      RequestRun pf env board .disconnectSta
        (.ok err (afterCalls calls wifi (WifiRequest.disconnectSta.savedWorld pf env board)))
  | updateAp {ssid password : CText} {err : EspErr} {wifi : Wifi} {calls : List WifiCall}
      (hopened : env.err 0 = .ok)
      (hcase : UpdateApCase env pf.commitQuestion (apConfigOf (buildApSsid pf.mac ssid) password)
        board.wifi err wifi calls) :
      RequestRun pf env board (.updateAp ssid password) (.ok err
        (afterCalls calls wifi ((WifiRequest.updateAp ssid password).savedWorld pf env board)))

theorem WifiRequest.run_spec (pf : Platform) (env : Env) (request : WifiRequest) (board : Board) :
    ∃ result, request.run pf env board.start = result ∧ RequestRun pf env board request result := by
  cases hargs : request.refused with
  | true =>
      cases request with
      | connectSta ssid password => exact ⟨_, connectSta_refused board hargs, .refused hargs⟩
      | _ => cases hargs
  | false =>
      by_cases hopened : env.err 0 = .ok
      · cases request with
        | connectSta ssid password =>
            obtain ⟨err, wifi, calls, hrun, hcase⟩ := connectSta_cases pf env board hargs hopened
            exact ⟨_, hrun, .connectSta hargs hopened hcase⟩
        | disconnectSta =>
            obtain ⟨err, wifi, calls, hrun, hcase⟩ := disconnectSta_cases pf env board hopened
            exact ⟨_, hrun, .disconnectSta hopened hcase⟩
        | updateAp ssid password =>
            obtain ⟨err, wifi, calls, hrun, hcase⟩ :=
              updateAp_cases pf env ssid password board hopened
            exact ⟨_, hrun, .updateAp hopened hcase⟩
      · obtain ⟨w, hrun⟩ := request.run_closed pf env board hargs hopened
        exact ⟨_, hrun, .closed hargs hopened⟩

end

/-- The name of a network. -/
def demoNetwork : CText := ⟨cstr "attic", by decide⟩

def demoNetworkPassword : CText := ⟨cstr "attic-pass", by decide⟩

end WebTerminal
