import WebTerminal.Wifi.Fallback

/-!
# The mode of the driver

`s_status.mode` is set next to the calls that put the driver into a mode.  Here the
driver may reject any configuration and accepts every other call.
-/

set_option autoImplicit false

namespace WebTerminal

open Proc

/-- What the tasks of the WiFi manager run outside a scan. -/
inductive ManagerCall
  | event (event : WifiEvent)
  | timer
  | request (request : WifiRequest)
  | rename (deviceName : CString)

def ManagerCall.run (pf : Platform) (env : Env) : ManagerCall → BoardM Unit
  | .event e => eventHandler pf env e
  | .timer => reconnectTimerCb env
  | .request r => do
      let _ ← r.run pf env
      return ()
  | .rename deviceName => wifiManagerUpdateHostname env deviceName

structure ManagerAction where
  env : Env
  call : ManagerCall

/-- A step shows the calls into the driver with their answers, which are the last
questions a call asks. -/
def managerStep (pf : Platform) (board : Board) (a : ManagerAction) :
    Option (Board × List (WifiCall × EspErr)) :=
  match a.call.run pf a.env board.start with
  | .ok _ w => some (w.state, a.env.answers (w.asked - w.shown.length) w.shown)
  | .error _ _ => none

def managerMachine (pf : Platform) : Machine Board ManagerAction (WifiCall × EspErr) where
  step := managerStep pf

/-- `esp_wifi_set_config` -/
def WifiCall.isConfig : WifiCall → Bool
  | .setApConfig _ | .setStaConfig _ => true
  | _ => false

/-- The driver accepted every call that was no configuration. -/
def OnlyConfigsRejected (answers : List (WifiCall × EspErr)) : Prop :=
  ∀ call err, (call, err) ∈ answers → call.isConfig = false → err = .ok

/-- The manager's mode is the driver's. -/
def Wifi.KnowsMode (wifi : Wifi) : Prop := wifi.driverMode = wifi.mode.driver

/-- What a call does to the radio, and the calls into the driver with their answers. -/
inductive ManagerCase (pf : Platform) (env : Env) (board : Board) :
    ManagerCall → Wifi → List (WifiCall × EspErr) → Prop
  | event {event : WifiEvent} {wifi : Wifi} {calls : List WifiCall}
      (hcase : EventCase pf env board.config board.wifi event wifi calls) :
      ManagerCase pf env board (.event event) wifi (env.answers 0 (calls.map .wifi))
  | timerStopped (hconnected : board.wifi.staConnected = true) :
      ManagerCase pf env board .timer board.wifi.timerStopped []
  | redialled (hconnected : board.wifi.staConnected = false) :
      ManagerCase pf env board .timer { board.wifi with retryCount := 0 } [(.connect, env.err 0)]
  | refused {request : WifiRequest} : ManagerCase pf env board (.request request) board.wifi []
  | connectSta {ssid password : CText} {err : EspErr} {wifi : Wifi} {calls : List WifiCall}
      (hcase : ConnectCase env pf.afterSave (storedApConfig pf board.config)
        (joinConfig ssid password) board.wifi err wifi calls) :
      ManagerCase pf env board (.request (.connectSta ssid password)) wifi
        (env.answers pf.afterSave (calls.map .wifi))
  | disconnectSta {err : EspErr} {wifi : Wifi} {calls : List WifiCall}
      (hcase : DisconnectCase env pf.afterSave (storedApConfig pf board.config) board.wifi err wifi
        calls) :
      ManagerCase pf env board (.request .disconnectSta) wifi
        (env.answers pf.afterSave (calls.map .wifi))
  | updateAp {ssid password : CText} {err : EspErr} {wifi : Wifi} {calls : List WifiCall}
      (hcase : UpdateApCase env pf.commitQuestion (apConfigOf (buildApSsid pf.mac ssid) password)
        board.wifi err wifi calls) :
      ManagerCase pf env board (.request (.updateAp ssid password)) wifi
        (env.answers pf.afterSave (calls.map .wifi))
  | renamed {deviceName hostname mdnsHostname mdnsInstance : CString} :
      ManagerCase pf env board (.rename deviceName)
        { board.wifi with
          hostname := hostname, mdnsHostname := mdnsHostname, mdnsInstance := mdnsInstance }
        (env.answers 0 ((nameCalls deviceName).map .wifi))

section

variable {pf : Platform} {env : Env}

/-- The step of a call that ends after these calls into the driver. -/
theorem managerStep_of_run (call : ManagerCall) {board board' : Board}
    {answers : List (WifiCall × EspErr)} {calls : List WifiCall} {wifi : Wifi}
    {w : World Board Effect} (hrun : call.run pf env board.start = .ok () (afterCalls calls wifi w))
    (hshown : w.shown = []) (h : managerStep pf board ⟨env, call⟩ = some (board', answers)) :
    board'.wifi = wifi ∧ answers = env.answers w.asked (calls.map .wifi) := by
  unfold managerStep at h
  rw [hrun] at h
  obtain ⟨rfl, rfl⟩ := Prod.mk.inj (Option.some.inj h)
  exact ⟨rfl, by simp [afterCalls, hshown]⟩

/-- The step of a request. -/
theorem requestStep_cases {board board' : Board} {request : WifiRequest}
    {answers : List (WifiCall × EspErr)}
    (h : managerStep pf board ⟨env, .request request⟩ = some (board', answers)) :
    ManagerCase pf env board (.request request) board'.wifi answers := by
  -- the result of the request is dropped
  have hreturns : ∀ {err : EspErr} {w : World Board Effect},
      request.run pf env board.start = .ok err w →
        (ManagerCall.request request).run pf env board.start = .ok () w :=
    fun hrun => bind_ok hrun
  obtain ⟨result, hrun, hspec⟩ := request.run_spec pf env board
  cases hspec with
  | refused =>
      have hnothing : request.run pf env board.start =
          .ok .invalidArg (afterCalls [] board.wifi board.start) := hrun
      obtain ⟨hwifi, rfl⟩ := managerStep_of_run (.request _) (hreturns hnothing) rfl h
      exact hwifi ▸ .refused
  | closed =>
      unfold managerStep at h
      rw [show (ManagerCall.request request).run pf env board.start = .error .abort _ from
        bind_error hrun] at h
      cases h
  | connectSta hargs hopened hcase =>
      obtain ⟨rfl, rfl⟩ := managerStep_of_run (.request _) (hreturns hrun) rfl h
      exact .connectSta hcase
  | disconnectSta hopened hcase =>
      obtain ⟨rfl, rfl⟩ := managerStep_of_run (.request _) (hreturns hrun) rfl h
      exact .disconnectSta hcase
  | updateAp hopened hcase =>
      obtain ⟨rfl, rfl⟩ := managerStep_of_run (.request _) (hreturns hrun) rfl h
      exact .updateAp hcase

theorem managerStep_cases {board board' : Board} {a : ManagerAction}
    {answers : List (WifiCall × EspErr)} (h : managerStep pf board a = some (board', answers)) :
    ManagerCase pf a.env board a.call board'.wifi answers := by
  obtain ⟨env, call⟩ := a
  cases call with
  | event event =>
      obtain ⟨wifi, calls, hrun, hcase⟩ := eventHandler_cases pf env board event
      obtain ⟨rfl, rfl⟩ := managerStep_of_run (.event event) hrun rfl h
      exact .event hcase
  | timer =>
      rcases reconnectTimerCb_cases env board with ⟨hconnected, hrun⟩ | ⟨hconnected, hrun⟩
      · obtain ⟨hwifi, rfl⟩ := managerStep_of_run .timer hrun rfl h
        exact hwifi ▸ .timerStopped hconnected
      · obtain ⟨hwifi, rfl⟩ := managerStep_of_run .timer hrun rfl h
        exact hwifi ▸ .redialled hconnected
  | rename deviceName =>
      obtain ⟨hostname, mdnsHostname, mdnsInstance, hrun⟩ :=
        updateHostname_cases env deviceName board.start
      obtain ⟨hwifi, rfl⟩ := managerStep_of_run (.rename deviceName) hrun rfl h
      exact hwifi ▸ .renamed
  | request request => exact requestStep_cases h

/-- Only `esp_wifi_set_mode` changes the mode. -/
theorem Wifi.answered_modes (wifi : Wifi) (err : EspErr) {call : WifiCall}
    (hmode : ∀ mode, call ≠ .setMode mode) :
    (wifi.answered err call).driverMode = wifi.driverMode ∧
      (wifi.answered err call).mode = wifi.mode := by
  unfold Wifi.answered
  split
  · cases call with
    | setMode mode => exact absurd rfl (hmode mode)
    | _ => exact ⟨rfl, rfl⟩
  · exact ⟨rfl, rfl⟩

theorem Wifi.KnowsMode.answered {wifi : Wifi} (h : wifi.KnowsMode) (err : EspErr) {call : WifiCall}
    (hmode : ∀ mode, call ≠ .setMode mode) : (wifi.answered err call).KnowsMode := by
  obtain ⟨hdriver, hmanager⟩ := wifi.answered_modes err hmode
  unfold KnowsMode
  rw [hdriver, hmanager]
  exact h

theorem EventCase.knowsMode {conf : AppConfig} {wifi wifi' : Wifi} {event : WifiEvent}
    {calls : List WifiCall} (hcase : EventCase pf env conf wifi event wifi' calls)
    (hanswers : OnlyConfigsRejected (env.answers 0 (calls.map .wifi))) (h : wifi.KnowsMode) :
    wifi'.KnowsMode := by
  cases hcase with
  | startIgnored | dialled | lossIgnored | retried | gaveUp | apKept | noted =>
      exact h
  | fellBack =>
      have hset : env.err 0 = .ok := hanswers (.setMode .apsta) _ (by simp [Env.answers]) rfl
      rw [Wifi.answered_ok hset]
      have hmode : Wifi.KnowsMode { (Wifi.drive { wifi with staConnected := false }
          (.setMode .apsta)) with mode := .apSta } := rfl
      exact hmode.answered (env.err 1) fun _ hcall => by cases hcall
  | apOff =>
      have hset : env.err 0 = .ok := hanswers (.setMode .sta) _ (by simp [Env.answers]) rfl
      rw [Wifi.answered_ok hset]
      rfl

theorem ConnectCase.knowsMode {n : ℕ} {apConf : ApConfig} {conf : StaConfig} {wifi wifi' : Wifi}
    {err : EspErr} {calls : List WifiCall}
    (hcase : ConnectCase env n apConf conf wifi err wifi' calls)
    (hanswers : OnlyConfigsRejected (env.answers n (calls.map .wifi))) (h : wifi.KnowsMode) :
    wifi'.KnowsMode := by
  have hentered : (wifi.enteredApSta env n apConf).KnowsMode := by
    have hmode : Wifi.KnowsMode
        { wifi.answered (env.err n) .stop with driverMode := .apsta, mode := .apSta } := rfl
    exact hmode.answered (env.err (n + 2)) fun _ hcall => by cases hcall
  cases hcase with
  | kept => exact h
  | joining => exact h
  | noMode _ hset => exact absurd (hanswers (.setMode .apsta) _ (by simp [Env.answers]) rfl) hset
  | noConfig => exact hentered
  | started =>
      have hjoined : ((wifi.enteredApSta env n apConf).joined conf).KnowsMode := hentered
      exact hjoined.answered (env.err (n + 4)) fun _ hcall => by cases hcall

theorem DisconnectCase.knowsMode {n : ℕ} {apConf : ApConfig} {wifi wifi' : Wifi} {err : EspErr}
    {calls : List WifiCall} (hcase : DisconnectCase env n apConf wifi err wifi' calls)
    (hanswers : OnlyConfigsRejected (env.answers n (calls.map .wifi))) : wifi'.KnowsMode := by
  cases hcase with
  | noMode hset => exact absurd (hanswers (.setMode .ap) _ (by simp [Env.answers]) rfl) hset
  | started =>
      have hmode : Wifi.KnowsMode { wifi.timerStopped.answered (env.err (n + 1)) .stop with
          driverMode := .ap, mode := .ap, staConnected := false } := rfl
      have hconf : (Wifi.answered (env.err (n + 3)) (.setApConfig apConf) _).KnowsMode :=
        hmode.answered (env.err (n + 3)) fun _ hcall => by cases hcall
      exact hconf.answered (env.err (n + 4)) fun _ hcall => by cases hcall

theorem UpdateApCase.knowsMode {n : ℕ} {apConf : ApConfig} {wifi wifi' : Wifi} {err : EspErr}
    {calls : List WifiCall} (hcase : UpdateApCase env n apConf wifi err wifi' calls)
    (h : wifi.KnowsMode) : wifi'.KnowsMode := by
  cases hcase with
  | unsaved => exact h
  | applied => exact h.answered (env.err (n + 1)) fun _ hcall => by cases hcall

/-- A call leaves the two modes equal. -/
theorem ManagerCase.knowsMode {board : Board} {call : ManagerCall} {wifi : Wifi}
    {answers : List (WifiCall × EspErr)} (hcase : ManagerCase pf env board call wifi answers)
    (hanswers : OnlyConfigsRejected answers) (h : board.wifi.KnowsMode) : wifi.KnowsMode := by
  cases hcase with
  | event hcase => exact hcase.knowsMode hanswers h
  | timerStopped => exact h
  | redialled => exact h
  | refused => exact h
  | connectSta hcase => exact hcase.knowsMode hanswers h
  | disconnectSta hcase => exact hcase.knowsMode hanswers
  | updateAp hcase => exact hcase.knowsMode h
  | renamed => exact h

theorem OnlyConfigsRejected.of_append {es fs : List (WifiCall × EspErr)}
    (h : OnlyConfigsRejected (es ++ fs)) : OnlyConfigsRejected es ∧ OnlyConfigsRejected fs :=
  ⟨fun call err hmem => h call err (List.mem_append_left _ hmem),
    fun call err hmem => h call err (List.mem_append_right _ hmem)⟩

/-- A run leaves the two modes equal. -/
theorem knowsMode_of_run {board board' : Board} {as : List ManagerAction}
    {es : List (WifiCall × EspErr)} (hrun : (managerMachine pf).Run board as es board')
    (hanswers : OnlyConfigsRejected es) (h : board.wifi.KnowsMode) : board'.wifi.KnowsMode :=
  hrun.history (P := OnlyConfigsRejected) (I := fun _ board => board.wifi.KnowsMode)
    (fun _ _ hall => hall.of_append.1) h
    (fun _ _ _ _ _ hall hmode hstep =>
      (managerStep_cases hstep).knowsMode hall.of_append.2 hmode) hanswers

/-! ## Starting up -/

theorem initStack_of_ok {w v : World Board Effect} (h : initStack env w = .ok ⟨⟩ v) :
    v = { w with asked := w.asked + 6 } := by
  have hcheck : ∀ (ns : List ℕ) (w v : World Board Effect),
      (ns.forM (fun _ => ask env.err >>= espErrorCheck) : BoardM PUnit) w = .ok ⟨⟩ v →
        v = { w with asked := w.asked + ns.length } := by
    intro ns
    induction ns with
    | nil =>
        intro w v hrun
        cases hrun
        rfl
    | cons n ns ih =>
        intro w v hrun
        obtain ⟨_, u, hchecked, hrest⟩ := of_bind_ok hrun
        obtain ⟨_, u', hasked, hcheck⟩ := of_bind_ok hchecked
        cases hasked
        obtain ⟨-, rfl⟩ := of_espErrorCheck_ok hcheck
        rw [ih _ _ hrest]
        simp [Nat.add_assoc, Nat.add_comm 1]
  exact hcheck (List.range 6) w v h

theorem mdnsInitService_returns (env : Env) (deviceName : CString) (w : World Board Effect) :
    ∃ v, mdnsInitService env deviceName w = .ok () v ∧ v.asked = w.asked + 4 := by
  unfold mdnsInitService
  rw [bind_ok (ask_apply _ _), bind_ok (wifiCall_apply _ _ _), bind_ok (wifiCall_apply _ _ _),
    bind_ok (wifiCall_apply _ _ _)]
  exact ⟨_, rfl, rfl⟩

theorem checkedCall_of_ok {call : WifiCall} {w v : World Board Effect}
    (h : checkedCall env call w = .ok () v) :
    v = afterCalls [call] (w.state.wifi.drive call) w := by
  unfold checkedCall at h
  rw [bind_ok (wifiCall_apply _ _ _)] at h
  obtain ⟨herr, rfl⟩ := of_espErrorCheck_ok h
  rw [Wifi.answered_ok herr]
  rfl

/-- The modes once the radio is started for a stored network. -/
theorem startWithStation_modes {w v : World Board Effect}
    (h : startWithStation pf env w = .ok () v) :
    v.state.wifi.driverMode = .apsta ∧
      v.state.wifi.mode = if env.err (w.asked + 2) = .ok then .apSta else .ap := by
  obtain ⟨_, u, hset, h₁⟩ := of_bind_ok h
  obtain rfl := checkedCall_of_ok hset
  rw [bind_ok (wifiUpdate_apply _ _), bind_ok (startStoredAp_apply pf env _),
    bind_ok (read_apply _ _), bind_ok (wifiCall_apply _ _ _), bind_ok (wifiUpdate_apply _ _)] at h₁
  obtain rfl := checkedCall_of_ok h₁
  have hap : ∀ (wifi : Wifi) (err : EspErr) (conf : ApConfig),
      (wifi.answered err (.setApConfig conf)).driverMode = wifi.driverMode ∧
        (wifi.answered err (.setApConfig conf)).mode = wifi.mode :=
    fun wifi err conf => wifi.answered_modes err fun _ hcall => by cases hcall
  have hsta : ∀ (wifi : Wifi) (err : EspErr) (conf : StaConfig),
      (wifi.answered err (.setStaConfig conf)).driverMode = wifi.driverMode ∧
        (wifi.answered err (.setStaConfig conf)).mode = wifi.mode :=
    fun wifi err conf => wifi.answered_modes err fun _ hcall => by cases hcall
  by_cases hconf : env.err (w.asked + 2) = .ok
  · simp [afterCalls, Wifi.drive, hconf, (hap _ _ _).1, (hap _ _ _).2, (hsta _ _ _).1,
      (hsta _ _ _).2]
  · simp [afterCalls, Wifi.drive, hconf, (hap _ _ _).1, (hsta _ _ _).1]

/-- The modes once the radio is started as an access point. -/
theorem startWithoutStation_modes {w v : World Board Effect}
    (h : startWithoutStation pf env w = .ok () v) :
    v.state.wifi.driverMode = .ap ∧ v.state.wifi.mode = .ap := by
  obtain ⟨_, u, hset, h₁⟩ := of_bind_ok h
  obtain rfl := checkedCall_of_ok hset
  rw [bind_ok (wifiUpdate_apply _ _), bind_ok (startStoredAp_apply pf env _)] at h₁
  obtain rfl := checkedCall_of_ok h₁
  exact Wifi.answered_modes _ _ fun _ hcall => by cases hcall

/-- The end of `wifi_manager_init`, once the network stack is set up. -/
theorem startRadio_knowsMode_iff {conf : AppConfig} {w v : World Board Effect}
    (h : (do
      wifiManagerUpdateHostname env conf.deviceName
      mdnsInitService env conf.deviceName
      if conf.HasSta then do
        startWithStation pf env
        return .ok
      else do
        startWithoutStation pf env
        return .ok : BoardM EspErr) w = .ok .ok v) :
    v.state.wifi.KnowsMode ↔ (conf.HasSta → env.err (w.asked + 9) = .ok) := by
  obtain ⟨hostname, mdnsHostname, mdnsInstance, hname⟩ := updateHostname_cases env conf.deviceName w
  obtain ⟨u, hmdns, hasked⟩ := mdnsInitService_returns env conf.deviceName
    (afterCalls (nameCalls conf.deviceName) _ w)
  rw [bind_ok hname, bind_ok hmdns] at h
  have hquestion : u.asked + 2 = w.asked + 9 := by rw [hasked]; rfl
  by_cases hsta : conf.HasSta
  · rw [if_pos hsta] at h
    obtain ⟨_, u', hstart, hreturn⟩ := of_bind_ok h
    cases hreturn
    obtain ⟨hdriver, hmode⟩ := startWithStation_modes hstart
    unfold Wifi.KnowsMode
    rw [hdriver, hmode, hquestion]
    by_cases hconf : env.err (w.asked + 9) = .ok
    · simp [hconf, WifiManagerMode.driver]
    · simp [hconf, hsta, WifiManagerMode.driver]
  · rw [if_neg hsta] at h
    obtain ⟨_, u', hstart, hreturn⟩ := of_bind_ok h
    cases hreturn
    obtain ⟨hdriver, hmode⟩ := startWithoutStation_modes hstart
    unfold Wifi.KnowsMode
    rw [hdriver, hmode]
    exact iff_of_true rfl fun hhas => absurd hhas hsta

/-- The number of the question that `esp_wifi_set_config` for the station answers in
`wifi_manager_init`. -/
def staConfigQuestion : ℕ := 15

/-- The driver takes the stored network, where there is one to take. -/
def StoredNetworkAccepted (env : Env) (conf : AppConfig) : Prop :=
  conf.HasSta → env.err staConfigQuestion = .ok

/-- After `wifi_manager_init` the two modes are equal exactly if the driver took the
stored network. -/
theorem wifiManagerInit_knowsMode_iff {board : Board} {w : World Board Effect}
    (h : wifiManagerInit pf env board.start = .ok .ok w) :
    w.state.wifi.KnowsMode ↔ StoredNetworkAccepted env board.config := by
  unfold wifiManagerInit at h
  rw [bind_ok (wifiUpdate_apply _ _)] at h
  obtain ⟨_, u, hstack, h₁⟩ := of_bind_ok h
  obtain rfl := initStack_of_ok hstack
  rw [bind_ok (read_apply _ _)] at h₁
  exact startRadio_knowsMode_iff h₁

/-- Whatever configurations the driver rejects, the manager's mode is the driver's in every
state reached after `wifi_manager_init` exactly if there the stored network was accepted. -/
theorem mode_matches_driver_iff {before : Board} {w : World Board Effect}
    (hinit : wifiManagerInit pf env before.start = .ok .ok w) :
    (∀ as es board, (managerMachine pf).Run w.state as es board → OnlyConfigsRejected es →
      board.wifi.driverMode = board.wifi.mode.driver) ↔
        StoredNetworkAccepted env before.config := by
  rw [← wifiManagerInit_knowsMode_iff hinit]
  refine ⟨fun hall => ?_, fun hmode as es board hrun hanswers => ?_⟩
  · exact hall [] [] w.state .nil fun _ _ hmem => by cases hmem
  · exact knowsMode_of_run hrun hanswers hmode

end

/-- A device that joins the network it has stored. -/
theorem mode_matches_driver_accepted :
    ∃ w, wifiManagerInit (demoPlatform []) (demoEnv 0 []) demoStation.start = .ok .ok w ∧
      demoStation.config.HasSta ∧
      ∀ as es board, (managerMachine (demoPlatform [])).Run w.state as es board →
        OnlyConfigsRejected es → board.wifi.driverMode = board.wifi.mode.driver := by
  obtain ⟨n, hinit⟩ := wifiManagerInit_ok (demoPlatform []) (fun _ => rfl : (demoEnv 0 []).AllOk)
    demoStation.start
  exact ⟨_, hinit, by decide, (mode_matches_driver_iff hinit).mpr fun _ => rfl⟩

/-- A driver that rejects the stored network, and nothing else. -/
def rejectingEnv : Env :=
  { demoEnv 0 [] with err := fun n => if n = staConfigQuestion then .fail else .ok }

/-- Its manager believes in an access point only, before and after the station starts. -/
theorem mode_matches_driver_rejected :
    ∃ w es board, wifiManagerInit (demoPlatform []) rejectingEnv demoStation.start = .ok .ok w ∧
      (managerMachine (demoPlatform [])).Run w.state [⟨demoEnv 0 [], .event .staStart⟩] es board ∧
      OnlyConfigsRejected es ∧ w.state.wifi.mode = .ap ∧ w.state.wifi.driverMode = .apsta ∧
      board.wifi.mode = .ap ∧ board.wifi.driverMode = .apsta := by
  refine ⟨_, _, _, rfl, .single rfl, fun call err hmem _ => ?_, rfl, rfl, rfl, rfl⟩
  obtain ⟨-, rfl⟩ := Prod.mk.inj (List.mem_singleton.mp hmem)
  rfl

end WebTerminal
