import WebTerminal.Server.CallCases
import WebTerminal.Server.HandlerRules
import WebTerminal.Server.LiveSettings
import WebTerminal.Server.Sockets

/-!
# Settings over a run

The device comes up from flash and stays in step with it over every run in which
the drivers accept everything: requests, data frames, events of the radio, its
reconnect timer and a USB device that comes and goes.  So whatever has happened,
the next `POST /api/config` that is answered with ok leaves settings that a reset
restores, if the device then has the name it came up with and its time zone fits
the buffer.
-/

set_option autoImplicit false

namespace WebTerminal

open Proc

section

variable {pf : Platform} {env : Env} {service : CString}

/-! ## Calls that leave the settings alone -/

theorem OnlyPeripherals.synced {board board' : Board} {es : List Effect}
    (honly : OnlyPeripherals board es board') (h : board.Synced pf service) :
    board'.Synced pf service := by
  unfold OnlyPeripherals at honly
  rw [honly]
  exact { h with }

/-- A call after which the settings are what they were. -/
def SparesSettings (d : Device) (_ : List Event) (d' : Device) : Prop :=
  OnlyPeripherals d.board [] d'.board

theorem sparesSettings_composes : Composes SparesSettings where
  refl _ := rfl
  trans h h' := onlyPeripherals_composes.trans h h'

theorem Peripheral.sparesSettings {α : Type} {m : BoardM α} (h : Peripheral m) :
    Does SparesSettings (onBoard m) :=
  Does.zoom h fun _ _ _ honly => honly

/-- Handlers that change no settings of their own are built from operations that spare
them. -/
theorem handlerRules_sparesSettings (pf : Platform) (env : Env) :
    HandlerRules pf env SparesSettings where
  composes := sparesSettings_composes
  validate _ := does_act fun _ => rfl
  lockout _ := does_act fun _ => rfl
  login _ _ _ _ := does_act fun _ => rfl
  logout _ := does_act fun _ => rfl
  reissue _ _ := rfl
  board h := h.sparesSettings

theorem handleWsFrame_spares (pf : Platform) (env : Env) (fd : ℤ) (frame : WsFrame) :
    Does SparesSettings (handleWsFrame pf env fd frame) :=
  (handlerRules_sparesSettings pf env).handleWsFrame (fun _ => does_act fun _ => rfl)
    (does_act fun _ => rfl) (fun _ _ => rfl)
    fun port => (serialPortSend_peripheral pf env port frame.payload).sparesSettings

/-- A request that is neither for the settings nor for a scan. -/
theorem handler_spares (pf : Platform) (env : Env) {req : Request} (hpost : req.route ≠ .configPost)
    (hscan : req.route ≠ .wifiScan) : Does SparesSettings (handler pf env req) := by
  have h := handlerRules_sparesSettings pf env
  refine h.handler (fun hroute => absurd hroute hpost) (fun hroute => absurd hroute hscan) ?_
  exact fun _ => h.handleWsHandshake fun _ _ _ => does_act fun _ => rfl

/-! ## The radio -/

/-- The start of a scan. -/
theorem beginScan_ok (hok : env.AllOk) (w : World Board Effect) :
    ∃ v, beginScan env w = .ok w.state.wifi.driverMode v ∧
      v.state = { w.state with wifi := { w.state.wifi with
        scanning := true
        driverMode :=
          if w.state.wifi.driverMode = .ap then .apsta else w.state.wifi.driverMode } } := by
  unfold beginScan
  by_cases hmode : w.state.wifi.driverMode = .ap
  · refine ⟨_, (bind_ok (wifiUpdate_apply _ _)).trans ((bind_ok (read_apply _ _)).trans
      ((bind_ok (onlyIf_of hmode (wifiCall_apply _ _ _))).trans
        (bind_ok (onlyIf_of_not (not_not.mpr hmode))))), ?_⟩
    rw [Wifi.answered_ok (hok _), if_pos hmode]
    rfl
  · refine ⟨_, (bind_ok (wifiUpdate_apply _ _)).trans ((bind_ok (read_apply _ _)).trans
      ((bind_ok (onlyIf_of_not hmode)).trans
        (bind_ok (onlyIf_of hmode (wifiCall_apply _ _ _))))), ?_⟩
    rw [Wifi.answered_disconnect, if_neg hmode]

/-- The end of a scan. -/
theorem endScan_ok (hok : env.AllOk) (origMode : WifiMode) (w : World Board Effect) :
    ∃ v, endScan env origMode w = .ok () v ∧
      v.state = { w.state with wifi := { w.state.wifi with
        scanning := false
        driverMode := if origMode = .ap then .ap else w.state.wifi.driverMode } } := by
  have hend :
      ∀ w : World Board Effect, ∃ v, (wifiUpdate (fun wifi => { wifi with scanning := false })
      >>= fun _ => read Board.config >>= fun conf =>
        onlyIf (0 < conf.staSsid.length) (wifiCall env .connect)) w = .ok () v ∧
      v.state = { w.state with wifi := { w.state.wifi with scanning := false } } := by
    intro w
    by_cases hssid : 0 < w.state.config.staSsid.length
    · refine ⟨_, (bind_ok (wifiUpdate_apply _ _)).trans ((bind_ok (read_apply _ _)).trans
        (onlyIf_of hssid (wifiCall_apply _ _ _))), ?_⟩
      rw [Wifi.answered_connect]
    · exact ⟨_, (bind_ok (wifiUpdate_apply _ _)).trans ((bind_ok (read_apply _ _)).trans
        (onlyIf_of_not hssid)), rfl⟩
  unfold endScan
  by_cases horig : origMode = .ap
  · rw [bind_ok (onlyIf_of horig (wifiCall_apply _ _ _)), Wifi.answered_ok (hok _), if_pos horig]
    obtain ⟨v, hrun, hv⟩ := hend _
    refine ⟨v, hrun, hv.trans ?_⟩
    rw [horig]
    rfl
  · rw [bind_ok (onlyIf_of_not horig), if_neg horig]
    exact hend _

theorem Wifi.drive_scanStart (err : EspErr) (wifi : Wifi) :
    wifi.answered err .scanStart = wifi := by
  unfold answered
  split <;> rfl

theorem Wifi.drive_clearApList (err : EspErr) (wifi : Wifi) :
    wifi.answered err .clearApList = wifi := by
  unfold answered
  split <;> rfl

/-- A scan returns to the mode it started in. -/
theorem wifiManagerScan_ok (hok : env.AllOk) (w : World Board Effect) :
    ∃ res v, wifiManagerScan env w = .ok res v ∧
      v.state = { w.state with wifi := { w.state.wifi with scanning := false } } := by
  obtain ⟨u, hbegin, hu⟩ := beginScan_ok hok w
  -- whatever the scan finds, the board is then as its start left it
  have hend : ∀ (v : World Board Effect) (res : Option (List WifiScanResult)), v.state = u.state →
      ∃ res' v', (endScan env w.state.wifi.driverMode >>= fun _ => pure res) v = .ok res' v' ∧
        v'.state = { w.state with wifi := { w.state.wifi with scanning := false } } := by
    intro v res hv
    obtain ⟨v', hrun, hv'⟩ := endScan_ok hok w.state.wifi.driverMode v
    refine ⟨res, v', (bind_ok hrun).trans rfl, ?_⟩
    rw [hv', hv, hu]
    by_cases hmode : w.state.wifi.driverMode = .ap
    · simp [hmode]
    · simp [hmode]
  rw [wifiManagerScan_eq, bind_ok hbegin, bind_ok (wifiCall_apply _ _ _),
    if_neg (not_not.mpr (hok _)), Wifi.drive_scanStart, bind_ok (ask_apply _ _)]
  by_cases hnone : (env.scanResult (u.asked + 1)).length = 0
  · rw [if_pos hnone, bind_ok (wifiCall_apply _ _ _), Wifi.drive_clearApList]
    exact hend _ _ rfl
  · rw [if_neg hnone, bind_ok (ask_apply _ _), bind_ok (wifiCall_apply _ _ _),
      Wifi.drive_clearApList]
    cases env.found (u.asked + 2) with
    | false => exact hend _ _ rfl
    | true => exact hend _ _ rfl

/-- The body of a scan leaves the settings in step. -/
theorem wifiScanBody_synced (hok : env.AllOk) (w : World Board Effect)
    (h : w.state.Synced pf service) :
    ((wifiScanBody env).final w).state.Synced pf service := by
  obtain ⟨res, v, hrun, hv⟩ := wifiManagerScan_ok hok w
  have hsynced : v.state.Synced pf service := by
    rw [hv]
    exact { h with }
  unfold wifiScanBody
  rw [final_bind_of_ok hrun]
  cases res with
  | none => exact hsynced
  | some results => exact hsynced

/-- What a handler leaves in step is what its body does. -/
theorem whenUnlocked_synced {req : Request} {body : BoardM Response} {d : Device}
    (hbody : ∀ w : World Board Effect, w.state.Synced pf service →
      (body.final w).state.Synced pf service)
    (h : d.board.Synced pf service) :
    ((whenUnlocked env req body).final d.start).state.board.Synced pf service := by
  unfold whenUnlocked
  obtain ⟨es, -, honly⟩ := (handlerRules_sparesSettings pf env).requireAuth d.start
  rcases final_bind_cases (requireAuth env req) _ d.start with ⟨r, u, hrun, heq⟩ | ⟨_, u, hrun, heq⟩
  · rw [heq, ← final_of_error hrun]
    exact OnlyPeripherals.synced honly h
  rw [heq]
  rw [final_of_ok hrun] at honly
  have hu : u.state.board.Synced pf service := OnlyPeripherals.synced honly h
  by_cases hunlocked : u.state.board.config.authInitialized = true
  · rw [final_bind_of_ok ((requirePasswordChanged_apply _).trans (if_pos hunlocked))]
    have hv := hbody ⟨u.state.board, u.asked, []⟩ hu
    cases hrun' : body ⟨u.state.board, u.asked, []⟩ with
    | ok a v =>
        rw [final_of_ok hrun'] at hv
        rw [final_of_ok (onBoard_ok hrun')]
        exact hv
    | error r v =>
        rw [final_of_error hrun'] at hv
        rw [final_of_error (onBoard_error hrun')]
        exact hv
  · rw [final_bind_of_error ((requirePasswordChanged_apply _).trans (if_neg hunlocked))]
    exact hu

/-- What the other tasks do to the radio and the serial ports: an event, the timer, or
a USB device that comes or goes. -/
inductive Board.DriverStep (pf : Platform) (env : Env) (board : Board) : Wifi → Serial → Prop
  | event (event : WifiEvent) : DriverStep pf env board
      ((eventHandler pf env event).final board.start).state.wifi board.serial
  | timer : DriverStep pf env board
      ((reconnectTimerCb env).final board.start).state.wifi board.serial
  | usb (usbOpen : Bool) (lineCoding : UInt32) : DriverStep pf env board board.wifi
      { board.serial with usbOpen := usbOpen, lineCoding := lineCoding }

theorem EventCase.synced {board : Board} (h : board.Synced pf service) (hok : env.AllOk)
    {event : WifiEvent} {wifi : Wifi} {calls : List WifiCall}
    (hcase : EventCase pf env board.config board.wifi event wifi calls) :
    ({ board with wifi := wifi } : Board).Synced pf service := by
  -- a station that runs has a network
  have hstation : board.wifi.mode ≠ .ap → board.config.staSsid ≠ [] :=
    fun hmode hnil => h.mode hmode (h.noStation hnil)
  cases hcase with
  | startIgnored => exact h
  | dialled => exact h
  | lossIgnored => exact h
  | noted => exact h
  | retried => exact { h with }
  | gaveUp => exact { h with }
  | apKept => exact { h with }
  | fellBack _ _ hmode =>
      have hne := hstation (by simp [hmode])
      rw [Wifi.answered_ok (hok _), Wifi.answered_ok (hok _)]
      exact { h with
        ap := rfl
        noStation := fun hnil => absurd hnil hne
        station := fun _ => ⟨by simp [Wifi.drive], (h.station hne).2⟩
        mode := fun _ => by simp [Wifi.drive] }
  | apOff hmode =>
      have hne := hstation (by simp [hmode])
      rw [Wifi.answered_ok (hok _)]
      exact { h with
        noStation := fun hnil => absurd hnil hne
        station := fun _ => ⟨by simp [Wifi.drive], (h.station hne).2⟩
        mode := fun _ => by simp [Wifi.drive] }

theorem Board.DriverStep.synced {board : Board} (h : board.Synced pf service)
    (hok : env.AllOk) {wifi : Wifi}
    {serial : Serial} (hstep : board.DriverStep pf env wifi serial) :
    ({ board with wifi := wifi, serial := serial } : Board).Synced pf service := by
  cases hstep with
  | event event =>
      obtain ⟨wifi, calls, hrun, hcase⟩ := eventHandler_cases pf env board event
      rw [final_of_ok hrun]
      exact hcase.synced h hok
  | timer =>
      rcases reconnectTimerCb_cases env board with ⟨-, hrun⟩ | ⟨-, hrun⟩
      · rw [final_of_ok hrun]
        exact { h with }
      · rw [final_of_ok hrun]
        exact { h with }
  | usb => exact { h with }

/-! ## POST /api/config -/

/-- The strings `cJSON_Parse` returns are C strings. -/
def Platform.ParsesText (pf : Platform) : Prop :=
  ∀ body json, pf.cJSONParse body = some json → TextFields json

theorem readJson_parsed {σ ε : Type} {req : Request} {bufLen : ℕ} {json : CJson} {w v : World σ ε}
    (h : readJson env pf req bufLen w = .ok json v) : ∃ body, pf.cJSONParse body = some json := by
  obtain ⟨body, u, -, hrest⟩ := of_bind_ok h
  cases body with
  | absent => cases hrest
  | failed => cases hrest
  | complete bytes =>
      dsimp only at hrest
      cases hparsed : pf.cJSONParse (ofBuffer bytes) with
      | none =>
          rw [hparsed] at hrest
          cases hrest
      | some parsed =>
          rw [hparsed] at hrest
          cases hrest
          exact ⟨_, hparsed⟩

theorem readConfigBody_parsed {req : Request} {json : CJson} {w v : World Device Event}
    (h : readConfigBody pf env req w = .ok json v) : ∃ body, pf.cJSONParse body = some json := by
  obtain ⟨-, u, -, hrest⟩ := of_bind_ok h
  obtain ⟨json', u', hread, hrest⟩ := of_bind_ok hrest
  obtain ⟨board, u'', -, hrest⟩ := of_bind_ok hrest
  obtain ⟨-, v', -, hpure⟩ := of_bind_ok hrest
  cases hpure
  exact readJson_parsed hread

theorem wellFormed_setAuth {conf : AppConfig} {json : CJson} (hjson : TextFields json)
    (h : conf.WellFormed) (sha256 : Digest) (salt : Vector UInt8 configAuthSaltLen)
    (password : CString) :
    (conf.setAuth sha256 salt (newUsername json conf) password).WellFormed := by
  have htext : (0 : UInt8) ∉ newUsername json conf := by
    unfold newUsername
    cases hfield : stringField json "username" with
    | none => exact h.authUser.2
    | some username => exact hjson _ _ hfield
  exact { h with
    authUser := fits_strncpy (by decide) ⟨_, htext⟩
    authHash := AppConfig.length_computeHash sha256 _ _
    authSalt := Vector.length_toList }

/-- The end of the handler leaves the settings in step. -/
theorem changeCredentials_synced {json : CJson} (hjson : TextFields json) {w : World Device Event}
    (h : w.state.board.Synced pf service) :
    ((changeCredentials pf env json).final w).state.board.Synced pf service ∧
      ((changeCredentials pf env json).final w).state.board.wifi = w.state.board.wifi ∧
        ((changeCredentials pf env json).final w).state.board.tz = w.state.board.tz := by
  have hcases := changeCredentials_cases pf env json w
  unfold final
  generalize changeCredentials pf env json w = result at hcases
  cases hcases with
  | absent => exact ⟨h, rfl, rfl⟩
  | refused => exact ⟨h, rfl, rfl⟩
  | @aborted v board newPass salt _ _ honly _ hconf hstate =>
      dsimp only
      rw [hstate, Device.setBoard_board]
      exact ⟨honly.synced (hconf ▸ wellFormed_setAuth hjson h.wellFormed _ _ _) h,
        honly.wifi, honly.tz⟩
  | @changed v board newPass salt _ _ honly hconf _ hstate =>
      dsimp only
      rw [hstate]
      exact ⟨honly.synced (hconf ▸ wellFormed_setAuth hjson h.wellFormed _ _ _) h,
        honly.wifi, honly.tz⟩

theorem readConfigBody_spares (pf : Platform) (env : Env) (req : Request) :
    Does SparesSettings (readConfigBody pf env req) :=
  (handlerRules_sparesSettings pf env).readConfigBody

/-- A settings request leaves the device in step with flash.  Where it is answered
with ok the name and the time zone are those it gave, or else those before it. -/
theorem configPost_synced {req : Request} {d : Device} (hparse : pf.ParsesText) (hok : env.AllOk)
    (h : d.board.Synced pf service) :
    ((handleConfigPost pf env req).final d.start).state.board.Synced pf service ∧
      ∀ response v, handleConfigPost pf env req d.start = .ok response v →
        ∃ json u, readConfigBody pf env req d.start = .ok json u ∧
          v.state.board.wifi.mdnsInstance = (givenName json).getD d.board.wifi.mdnsInstance ∧
            v.state.board.tz = (stringField json "timezone").getD d.board.tz := by
  obtain ⟨es, -, honly⟩ := readConfigBody_spares pf env req d.start
  cases hread : readConfigBody pf env req d.start with
  | error stop u =>
      have hrun : handleConfigPost pf env req d.start = .error stop u :=
        bind_error (bind_error hread)
      rw [final_of_error hread] at honly
      rw [final_of_error hrun]
      refine ⟨OnlyPeripherals.synced honly h, fun response v hrun' => ?_⟩
      cases hrun.symm.trans hrun'
  | ok json u =>
      rw [final_of_ok hread] at honly
      -- what was parsed has texts for its strings
      obtain ⟨body, hbody⟩ := readConfigBody_parsed hread
      have hjson := hparse body json hbody
      have hname : u.state.board.wifi.mdnsInstance = d.board.wifi.mdnsInstance := by
        rw [OnlyPeripherals.wifi honly]
        rfl
      have htz : u.state.board.tz = d.board.tz := OnlyPeripherals.tz honly
      rcases applySettings_settles hok hjson service ⟨u.state.board, u.asked, []⟩
        (OnlyPeripherals.synced honly h) with ⟨stop, v, happly, hv⟩ | ⟨v, happly, hv, hname', htz'⟩
      -- a setting is refused: those before it are saved and in effect
      · have hrun : handleConfigPost pf env req d.start = .error stop _ :=
          bind_error ((bind_ok hread).trans (bind_error (onBoard_error happly)))
        rw [final_of_error hrun]
        refine ⟨hv, fun response v hrun' => ?_⟩
        cases hrun.symm.trans hrun'
      -- all settings went through, and the credentials are saved before they are in use
      · have hupTo : configPostUpToCredentials pf env req d.start = .ok json _ :=
          (bind_ok hread).trans (bind_ok (onBoard_ok happly))
        let w : World Device Event :=
          ⟨u.state.setBoard v.state, v.asked, u.shown ++ v.shown.map .effect⟩
        obtain ⟨hsynced, hwifi, htz''⟩ :
            ((changeCredentials pf env json).final w).state.board.Synced pf service ∧
            ((changeCredentials pf env json).final w).state.board.wifi = w.state.board.wifi ∧
              ((changeCredentials pf env json).final w).state.board.tz = w.state.board.tz :=
          changeCredentials_synced hjson hv
        refine ⟨?_, fun response v' hrun => ⟨json, u, rfl, ?_⟩⟩
        · unfold handleConfigPost
          rw [final_bind_of_ok hupTo, final_bind_pure]
          exact hsynced
        · unfold handleConfigPost at hrun
          rw [bind_ok hupTo] at hrun
          obtain ⟨_, v'', hchange, hpure⟩ := of_bind_ok hrun
          cases hpure
          rw [final_of_ok hchange] at hwifi htz''
          rw [hwifi, htz'']
          exact ⟨hname'.trans (hname ▸ rfl), htz'.trans (htz ▸ rfl)⟩

/-! ## Runs -/

/-- The board of a device that has come up from some flash, its drivers accepting
everything. -/
def Board.Booted (pf : Platform) (board : Board) : Prop :=
  ∃ (env : Env) (before : Board) (w : World Board Effect), env.AllOk ∧ env.AllFound ∧
    startUp pf env before.reset.start = .ok () w ∧ board = w.state

theorem Board.Booted.synced {board : Board} (h : board.Booted pf) :
    board.Synced pf board.config.deviceName := by
  obtain ⟨env, before, w, hok, hfound, hrun, rfl⟩ := h
  obtain ⟨w', hrun', hw'⟩ := startUp_ok pf hok hfound before.reset
  cases hrun.symm.trans hrun'
  rw [hw']
  have hconf : (before.reset.loaded pf (env.saltBytes 2)).config.WellFormed :=
    AppConfig.wellFormed_zero.load
  exact Board.synced_putInEffect pf hconf fun key _ hcred =>
    Board.reads_eq pf before.reset _ hcred

/-- The drivers accept everything during this call, and other tasks change no more than
they do. -/
structure DriversAccept (pf : Platform) (s : System) (a : Action) : Prop where
  ok : a.env.AllOk
  background : ∀ wifi serial, a.call = .background wifi serial →
    s.device.board.DriverStep pf a.env wifi serial

theorem call_synced {d : Device} {a : Action} (hparse : pf.ParsesText) (hok : a.env.AllOk)
    (hdrivers : ∀ wifi serial, a.call = .background wifi serial →
      d.board.DriverStep pf a.env wifi serial) (h : d.board.Synced pf service) :
    ((callHandler pf a.env a.call).final d.start).state.board.Synced pf service := by
  have hspares : ∀ m : Handler Response, Does SparesSettings m →
      (m.final d.start).state.board.Synced pf service := by
    intro m hm
    obtain ⟨es, -, honly⟩ := hm d.start
    exact OnlyPeripherals.synced honly h
  cases hcall : a.call with
  | frame fd frame => exact hspares _ (handleWsFrame_spares pf a.env fd frame)
  | close fd => exact hspares _ (.bind sparesSettings_composes (does_act fun _ => rfl) fun _ =>
      does_pure sparesSettings_composes _)
  | flush frames =>
      have hfinal : (callHandler pf a.env (.flush frames)).final d.start =
          (flushWork a.env frames).final d.start := final_bind_pure _ _ _
      rw [hfinal, flush_board]
      exact h
  | background wifi serial => exact (hdrivers wifi serial hcall).synced h hok
  | request req =>
      by_cases hpost : req.route = .configPost
      · rw [callHandler_configPost pf a.env hpost]
        exact (configPost_synced hparse hok h).1
      by_cases hscan : req.route = .wifiScan
      · have hhandler : callHandler pf a.env (.request req) =
            whenUnlocked a.env req (wifiScanBody a.env) := by
          show handler pf a.env req = _
          unfold handler
          rw [hscan]
          rfl
        rw [hhandler]
        exact whenUnlocked_synced (wifiScanBody_synced hok) h
      · exact hspares _ (handler_spares pf a.env hpost hscan)

theorem system_synced {s t : System} {as : List Action} {es : List Event} (hparse : pf.ParsesText)
    (hboot : s.device.board.Booted pf) (hrun : (systemMachine pf).Run s as es t)
    (haccept : ∀ u b, (systemMachine pf).Takes s as u b → DriversAccept pf u b) :
    t.device.board.Synced pf s.device.board.config.deviceName :=
  hrun.invariant_taking (I := fun t => t.device.board.Synced pf s.device.board.config.deviceName)
    haccept hboot.synced
    fun u a v fs hu hsynced hstep => by
      obtain ⟨-, -, -, -, hdevice, -⟩ := systemStep_some hstep
      rw [hdevice]
      exact call_synced hparse hu.ok hu.background hsynced

/-- After a settings request that is answered with ok, what is in effect is what a reset
restores exactly if the device then has the name it came up with, under which its web
service is known, and the time zone in effect fits its buffer. -/
theorem settings_survive_reset_iff {s₀ s t : System} {as : List Action} {h es : List Event}
    {a : Action} {req : Request} {response : Response} {w : World Device Event}
    (hparse : pf.ParsesText) (hboot : s₀.device.board.Booted pf)
    (hrun : (systemMachine pf).Run s₀ as h s)
    (haccept : ∀ u b, (systemMachine pf).Takes s₀ as u b → DriversAccept pf u b)
    (hstep : (systemMachine pf).step s a = some (t, es)) (hcall : a.call = .request req)
    (hroute : req.route = .configPost) (hok : a.env.AllOk)
    (hanswer : handleConfigPost pf a.env req s.device.start = .ok response w)
    (hok' : env.AllOk) (hfound : env.AllFound) :
    ∃ json u, readConfigBody pf a.env req s.device.start = .ok json u ∧
      (t.device.board.SurvivesReset pf env ↔
        (givenName json).getD s.device.board.wifi.mdnsInstance =
            s₀.device.board.config.deviceName ∧
          ((stringField json "timezone").getD s.device.board.tz).length ≤
            configTimezoneMaxLen) := by
  have hsynced := system_synced hparse hboot hrun haccept
  obtain ⟨hsynced', hsettings⟩ := configPost_synced hparse hok hsynced
  obtain ⟨json, u, hread, hname, htz⟩ := hsettings response w hanswer
  refine ⟨json, u, hread, ?_⟩
  have ht : t.device = w.state := by
    obtain ⟨-, -, -, -, hdevice, -⟩ := systemStep_some hstep
    rw [hdevice, hcall, callHandler_configPost pf a.env hroute, final_of_ok hanswer]
  rw [final_of_ok hanswer] at hsynced'
  have hservice := Nat.le_of_lt_succ hboot.synced.wellFormed.deviceName.1
  rw [ht, hsynced'.survivesReset_iff hservice hok' hfound, hname, htz]

end

/-! ## A time zone and a name -/

theorem textFields_object {members : List (CString × CJson)}
    (h : ∀ member ∈ members, ∀ value, member.2 = .string value → (0 : UInt8) ∉ value) :
    TextFields (.object members) := by
  intro name value hfield
  unfold stringField CJson.getObjectItem at hfield
  cases hfind : members.find? fun member => CJson.sameName (cstr name) member.1 with
  | none => simp [hfind, CJson.string?] at hfield
  | some member =>
      simp only [hfind, Option.map_some] at hfield
      refine h member (List.mem_of_find?_eq_some hfind) value ?_
      cases hvalue : member.2 with
      | string text =>
          rw [hvalue] at hfield
          rw [Option.some.inj hfield]
      | _ => rw [hvalue] at hfield; cases hfield

/-- A body with one string. -/
def textField (member value : CString) : CJson := .object [(member, .string value)]

/-- A request for another time zone. -/
def timezoneJson : CString := cstr "\x7b\"timezone\":\"CET-1CEST\"\x7d"

/-- A request for another name. -/
def renameJson : CString := cstr "\x7b\"device_name\":\"bench\"\x7d"

/-- A platform that parses logins and these two. -/
def demoNamer : Platform := demoPlatform [(loginJson, loginFields),
  (timezoneJson, textField (cstr "timezone") (cstr "CET-1CEST")),
  (renameJson, textField (cstr "device_name") (cstr "bench"))]

theorem demoNamer_parsesText : demoNamer.ParsesText := by
  have hfield : ∀ member value : CString, (0 : UInt8) ∉ value →
      TextFields (textField member value) := by
    intro member value htext
    refine textFields_object fun member hmem value hvalue => ?_
    obtain rfl := List.mem_singleton.mp hmem
    cases hvalue
    exact htext
  intro body json hparse
  obtain ⟨entry, hfind, rfl⟩ := Option.map_eq_some_iff.mp hparse
  have hmem := List.mem_of_find?_eq_some hfind
  simp only [List.mem_cons, List.not_mem_nil, or_false] at hmem
  rcases hmem with rfl | rfl | rfl
  · refine textFields_object fun member hmem value hvalue => ?_
    simp only [List.mem_cons, List.not_mem_nil, or_false] at hmem
    rcases hmem with rfl | rfl
    · cases hvalue
      decide
    · cases hvalue
      decide
  · exact hfield _ _ (by decide)
  · exact hfield _ _ (by decide)

/-- `demoSystem`, up from a flash that holds its configuration. -/
def demoBooted : System :=
  let board : Board :=
    { demoSystem.device.board with nvs := fun key => some (adminConfig.saved key) }
  { demoSystem with
    device := demoSystem.device.setBoard
      ((board.reset.loaded demoNamer ((demoEnv 0 []).saltBytes 2)).putInEffect demoNamer) }

theorem demoBooted_booted : demoBooted.device.board.Booted demoNamer := by
  obtain ⟨w, hrun, hw⟩ := startUp_ok demoNamer (fun _ => rfl : (demoEnv 0 []).AllOk) (fun _ => rfl)
    (Board.reset { demoSystem.device.board with nvs := fun key => some (adminConfig.saved key) })
  exact ⟨demoEnv 0 [], _, w, fun _ => rfl, fun _ => rfl, hrun, hw.symm⟩

/-- The request of `demoConfigPost`. -/
def demoNaming (body : CString) : Request :=
  { demoRequest .configPost body.length with authorization := some demoBearer }

/-- Another time zone survives. -/
theorem settings_survive_reset_timezone :
    ∃ h s es t, (systemMachine demoNamer).Run demoBooted [demoLogin 10] h s ∧
      (systemMachine demoNamer).step s (demoConfigPost 20 timezoneJson) = some (t, es) ∧
      t.device.board.tz = cstr "CET-1CEST" ∧
      t.device.board.SurvivesReset demoNamer (demoEnv 0 []) := by
  obtain ⟨s, h, t, es, hlogin, hpost, hstart, hend⟩ := Machine.Run.exists_of_exec_exec
    (M := systemMachine demoNamer) (s := demoBooted)
    (p := fun s _ =>
      (match readConfigBody demoNamer (demoEnv 20 timezoneJson) (demoNaming timezoneJson)
          s.device.start with
        | .ok json _ =>
            decide ((givenName json).getD s.device.board.wifi.mdnsInstance =
              demoBooted.device.board.config.deviceName) &&
            decide (((stringField json "timezone").getD s.device.board.tz).length ≤
              configTimezoneMaxLen)
        | .error _ _ => false) &&
      match handleConfigPost demoNamer (demoEnv 20 timezoneJson) (demoNaming timezoneJson)
          s.device.start with
        | .ok _ _ => true
        | .error _ _ => false)
    (q := fun t _ => decide (t.device.board.tz = cstr "CET-1CEST"))
    (show ((systemMachine demoNamer).exec demoBooted [demoLogin 10]).any (fun r => _ &&
      ((systemMachine demoNamer).exec r.1 [demoConfigPost 20 timezoneJson]).any _) = true by
      decide +kernel)
  simp only [Bool.and_eq_true] at hstart
  cases hanswer : handleConfigPost demoNamer (demoEnv 20 timezoneJson) (demoNaming timezoneJson)
      s.device.start with
  | error stop w => simp [hanswer] at hstart
  | ok response w =>
      have haccept : ∀ u b, (systemMachine demoNamer).Takes demoBooted [demoLogin 10] u b →
          DriversAccept demoNamer u b := by
        intro u b htakes
        obtain ⟨-, rfl⟩ := htakes.single
        exact ⟨fun _ => rfl, fun wifi serial hcall => by cases hcall⟩
      obtain ⟨json, u, hread, hiff⟩ := settings_survive_reset_iff
        demoNamer_parsesText demoBooted_booted hlogin haccept hpost.single_inv rfl rfl
        (fun _ => rfl) hanswer (fun _ => rfl : (demoEnv 0 []).AllOk) (fun _ => rfl)
      have hsame := hstart.1
      rw [show readConfigBody demoNamer (demoEnv 20 timezoneJson) (demoNaming timezoneJson)
        s.device.start = .ok json u from hread] at hsame
      simp only [Bool.and_eq_true, decide_eq_true_eq] at hsame
      exact ⟨h, s, es, t, hlogin, hpost.single_inv, of_decide_eq_true hend, hiff.mpr hsame⟩

/-- A new name is answered with ok, and the web service has the old one until the reset. -/
theorem settings_survive_reset_renamed :
    ∃ h s es t response w, demoBooted.device.board.Booted demoNamer ∧
      (systemMachine demoNamer).Run demoBooted [demoLogin 10] h s ∧
      (systemMachine demoNamer).step s (demoConfigPost 20 renameJson) = some (t, es) ∧
      handleConfigPost demoNamer (demoEnv 20 renameJson) (demoNaming renameJson)
        s.device.start = .ok response w ∧
      ¬t.device.board.SurvivesReset demoNamer (demoEnv 0 []) := by
  obtain ⟨s, h, t, es, hlogin, hpost, hstart, hend⟩ := Machine.Run.exists_of_exec_exec
    (M := systemMachine demoNamer) (s := demoBooted)
    (p := fun s _ =>
      match handleConfigPost demoNamer (demoEnv 20 renameJson) (demoNaming renameJson)
          s.device.start with
        | .ok _ _ => true
        | .error _ _ => false)
    (q := fun t _ => decide (¬t.device.board.SurvivesReset demoNamer (demoEnv 0 [])))
    (show ((systemMachine demoNamer).exec demoBooted [demoLogin 10]).any (fun r => _ &&
      ((systemMachine demoNamer).exec r.1 [demoConfigPost 20 renameJson]).any _) = true by
      decide +kernel)
  cases hanswer : handleConfigPost demoNamer (demoEnv 20 renameJson) (demoNaming renameJson)
      s.device.start with
  | error stop w => simp [hanswer] at hstart
  | ok response w =>
      exact ⟨h, s, es, t, response, w, demoBooted_booted, hlogin, hpost.single_inv, hanswer,
        of_decide_eq_true hend⟩

end WebTerminal
