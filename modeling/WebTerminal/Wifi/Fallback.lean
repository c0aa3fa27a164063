import WebTerminal.Wifi.OnAir
import WebTerminal.Wifi.Radio

/-!
# The access point as a fallback

The steps of the WiFi manager in any order: events, the reconnect timer, requests,
the start and the end of a scan.  The requests and the scan run in the task of the
server, so that no request falls into a scan.

While the station is down and nothing is on its way that would make it dial, the
access point is on and the timer runs.  The invariant that carries this couples
the mode the manager believes in with the one the driver is in, and the state of the
station with the events that are still queued.
-/

set_option autoImplicit false

namespace WebTerminal

open Machine

/-- The calls among the effects with their answers, the first of which is question `n`. -/
def Env.answers (env : Env) : ℕ → List Effect → List (WifiCall × EspErr)
  | _, [] => []
  | n, .wifi call :: rest => (call, env.err n) :: env.answers (n + 1) rest
  | n, _ :: rest => env.answers n rest

structure RadioSystem where
  board : Board
  radio : Radio
  /-- `orig_mode` of the scan in progress -/
  scan : Option WifiMode

/-- The steps of the firmware. -/
inductive WifiTask
  /-- `event_handler` reads the oldest event -/
  | event
  /-- `reconnect_timer_cb`, which may already be due when the timer is stopped -/
  | timer
  | request (request : WifiRequest)
  /-- `wifi_manager_update_hostname` -/
  | rename (deviceName : CString)
  | beginScan
  | endScan

inductive RadioAction
  /-- a step of the firmware; a station that dials again may start over -/
  | run (env : Env) (restarts : Bool) (task : WifiTask)
  /-- the answer to an attempt to connect -/
  | answered (up : Bool)
  /-- the link is lost -/
  | lost
  /-- the station is given an address again -/
  | renewed
  /-- an event the manager takes no action on -/
  | raised (event : WifiEvent)

namespace RadioSystem

/-- The system after a step of the firmware, with the radio it started from. -/
def after {α : Type} (env : Env) (restarts : Bool) (radio : Radio) (scan : α → Option WifiMode)
    (s : RadioSystem) : EStateM.Result Stop (World Board Effect) α → Option RadioSystem
  | .ok a w =>
      (Radio.replay restarts s.board.wifi
        (env.answers (w.asked - w.shown.length) w.shown) radio).map
        fun radio => { board := w.state, radio := radio, scan := scan a }
  | .error _ _ => none

/-- A step of the firmware. -/
def runTask (pf : Platform) (env : Env) (restarts : Bool) (s : RadioSystem) :
    WifiTask → Option RadioSystem
  | .event =>
      match s.radio.queue with
      | [] => none
      | event :: rest =>
          s.after env restarts { s.radio with queue := rest } (fun _ => s.scan)
            (eventHandler pf env event s.board.start)
  | .timer => s.after env restarts s.radio (fun _ => s.scan) (reconnectTimerCb env s.board.start)
  | .request request =>
      if s.scan = none then
        s.after env restarts s.radio (fun _ => none) (request.run pf env s.board.start)
      else none
  | .rename deviceName =>
      if s.scan = none then
        s.after env restarts s.radio (fun _ => none)
          (wifiManagerUpdateHostname env deviceName s.board.start)
      else none
  | .beginScan =>
      if s.scan = none then s.after env restarts s.radio some (beginScan env s.board.start)
      else none
  | .endScan =>
      match s.scan with
      | none => none
      | some origMode =>
          s.after env restarts s.radio (fun _ => none) (endScan env origMode s.board.start)

def step (pf : Platform) (s : RadioSystem) : RadioAction → Option RadioSystem
  | .run env restarts task => s.runTask pf env restarts task
  | .answered up =>
      if s.radio.link = .connecting then
        some { s with
          radio :=
            if up then { link := .online, queue := s.radio.queue ++ [.gotIp] }
            else s.radio.drop }
      else none
  | .lost => if s.radio.link = .online then some { s with radio := s.radio.drop } else none
  | .renewed =>
      if s.radio.link = .online then some { s with radio := s.radio.raise .gotIp } else none
  | .raised event =>
      if event.isActive = false then some { s with radio := s.radio.raise event } else none

end RadioSystem

def radioMachine (pf : Platform) : Machine RadioSystem RadioAction Empty where
  step s a := (s.step pf a).map fun t => (t, [])

/-- The manager before `wifi_manager_init`: its statics are zero and the driver is off. -/
structure Wifi.PoweredOff (wifi : Wifi) : Prop where
  retryCount : wifi.retryCount = 0
  scanning : wifi.scanning = false
  reconnectTimer : wifi.reconnectTimer = false
  driverStarted : wifi.driverStarted = false

/-- `wifi_manager_init` has just returned. -/
def RadioSystem.Started (pf : Platform) (s : RadioSystem) : Prop :=
  ∃ (env : Env) (board : Board) (w : World Board Effect), env.AllOk ∧ board.config.WellFormed ∧
    board.wifi.PoweredOff ∧ wifiManagerInit pf env board.start = .ok .ok w ∧ s.board = w.state ∧
      Radio.replay false board.wifi (env.answers 0 w.shown) ⟨.idle, []⟩ = some s.radio ∧
        s.scan = none

/-- The driver's access point is on. -/
def RadioSystem.ApOn (s : RadioSystem) : Prop :=
  s.board.wifi.driverStarted = true ∧ s.board.wifi.driverMode ≠ .sta

/-- The mode of the driver that goes with one of the manager. -/
def WifiManagerMode.driver : WifiManagerMode → WifiMode
  | .ap => .ap
  | .sta => .sta
  | .apSta => .apsta

/-- What the manager believes is what the driver does. -/
structure Wifi.Mirrors (wifi : Wifi) (ssid : CString) (scan : Option WifiMode) : Prop where
  started : wifi.driverStarted = true
  scanning : wifi.scanning = scan.isSome
  /-- a scan that starts as an access point borrows the station -/
  driverMode : wifi.driverMode = if scan = some .ap then .apsta else wifi.mode.driver
  lent : ∀ mode, scan = some mode → (mode = .ap ↔ wifi.mode = .ap)
  stored : wifi.mode = .ap ↔ ssid = []
  joins : wifi.mode ≠ .ap → wifi.staConfig.ssid ≠ []

/-- The manager looks after the station. -/
structure Wifi.Attends (wifi : Wifi) (radio : Radio) (scan : Option WifiMode) : Prop where
  consistent : radio.Consistent
  /-- it knows of a link whose events it has read -/
  reported : radio.link = .online → latestNews radio.queue = none →
    wifi.retryCount = 0 ∧ wifi.staConnected = true
  /-- without its access point a device that is down has news to read -/
  expecting : scan = none → wifi.driverMode = .sta → radio.link = .idle →
    latestNews radio.queue ≠ none
  /-- with nothing left that would make it dial the timer is running -/
  guarded : scan = none → wifi.mode ≠ .ap → radio.Still →
    wifi.reconnectTimer = true ∧ wifi.staConnected = false

/-- What holds in every state between two steps. -/
structure RadioSystem.Sound (s : RadioSystem) : Prop where
  mirrors : s.board.wifi.Mirrors s.board.config.staSsid s.scan
  attends : s.board.wifi.Attends s.radio s.scan

theorem Radio.Still.latestNews_eq {radio : Radio} (h : radio.Still) :
    latestNews radio.queue = none := by
  cases hnews : latestNews radio.queue with
  | none => rfl
  | some event =>
      have hactive := h.2 event (latestNews_mem hnews)
      have hisNews := latestNews_isNews hnews
      cases event <;> simp_all [WifiEvent.isNews, WifiEvent.isActive]

/-- A message that the station is down has not been read while it is online. -/
theorem Radio.Consistent.news_after_loss {link : Link} {rest : List WifiEvent}
    (h : Radio.Consistent ⟨link, .staDisconnected :: rest⟩) (hlink : link = .online) :
    latestNews rest ≠ none := by
  intro hnone
  apply h.up hlink
  rw [latestNews_cons_of_none hnone]
  rfl

/-- Neither has one that it is online while it is idle. -/
theorem Radio.Consistent.news_after_gotIp {link : Link} {rest : List WifiEvent}
    (h : Radio.Consistent ⟨link, .gotIp :: rest⟩) (hlink : link = .idle) :
    latestNews rest ≠ none := by
  intro hnone
  apply h.down (by simp [hlink])
  rw [latestNews_cons_of_none hnone]
  rfl

section

variable {pf : Platform} {env : Env} {restarts : Bool} {wifi : Wifi} {ssid : CString}
  {radio radio' : Radio} {scan : Option WifiMode}

theorem WifiManagerMode.driver_eq_sta {mode : WifiManagerMode} :
    mode.driver = .sta ↔ mode = .sta := by cases mode <;> simp [WifiManagerMode.driver]

theorem WifiManagerMode.driver_eq_ap {mode : WifiManagerMode} :
    mode.driver = .ap ↔ mode = .ap := by cases mode <;> simp [WifiManagerMode.driver]

/-- A manager that is not an access point only can dial. -/
theorem Wifi.Mirrors.canDial (h : wifi.Mirrors ssid scan) (hmode : wifi.mode ≠ .ap) :
    wifi.CanDial := by
  refine ⟨h.started, ?_, h.joins hmode⟩
  rw [h.driverMode]
  split
  · decide
  · exact fun hap => hmode (WifiManagerMode.driver_eq_ap.mp hap)

/-- A driver without its access point has a station to dial with. -/
theorem Wifi.Mirrors.mode_of_sta (h : wifi.Mirrors ssid scan) (hsta : wifi.driverMode = .sta) :
    wifi.mode = .sta := by
  have hmode := h.driverMode
  rw [hsta] at hmode
  split at hmode
  · cases hmode
  · exact WifiManagerMode.driver_eq_sta.mp hmode.symm

theorem Wifi.Mirrors.scan_eq_none (h : wifi.Mirrors ssid scan) (hscan : wifi.scanning = false) :
    scan = none := by
  rw [h.scanning] at hscan
  simpa using hscan

/-- Outside a scan the driver is in the mode the manager believes in. -/
theorem Wifi.Mirrors.driverMode_of_none (h : wifi.Mirrors ssid none) :
    wifi.driverMode = wifi.mode.driver := by
  rw [h.driverMode, if_neg (by simp)]

/-- The manager and the driver agree in the same way on what has not changed. -/
theorem Wifi.Mirrors.congr (h : wifi.Mirrors ssid scan) {wifi' : Wifi}
    (hmode : wifi'.mode = wifi.mode) (hdriver : wifi'.driverMode = wifi.driverMode)
    (hstarted : wifi'.driverStarted = wifi.driverStarted)
    (hscanning : wifi'.scanning = wifi.scanning)
    (hconf : wifi.staConfig.ssid ≠ [] → wifi'.staConfig.ssid ≠ []) : wifi'.Mirrors ssid scan where
  started := hstarted.trans h.started
  scanning := hscanning.trans h.scanning
  driverMode := by rw [hdriver, hmode]; exact h.driverMode
  lent := by rw [hmode]; exact h.lent
  stored := by rw [hmode]; exact h.stored
  joins := by rw [hmode]; exact fun hne => hconf (h.joins hne)

/-- After dialling the answer is still to come. -/
theorem Wifi.attends_dial (wifi : Wifi) (hradio : radio.Consistent)
    (hreported : radio.link = .online → latestNews radio.queue = none →
      wifi.retryCount = 0 ∧ wifi.staConnected = true) (b : Bool) :
    wifi.Attends (radio.dial b) scan where
  consistent := hradio.dial b
  reported := fun hlink hnews => by
    have hsame := Radio.dial_of_online hlink
    rw [hsame] at hlink hnews
    exact hreported hlink hnews
  expecting := fun _ _ hidle => absurd hidle (Radio.dial_link b radio)
  guarded := fun _ _ hstill => absurd hstill.1 (Radio.dial_link b radio)

/-- A manager that has just read of its address knows of it. -/
theorem Wifi.attends_gotIp {link : Link} {rest : List WifiEvent}
    (h : Radio.Consistent ⟨link, .gotIp :: rest⟩)
    (hknown : wifi.retryCount = 0 ∧ wifi.staConnected = true) : wifi.Attends ⟨link, rest⟩ scan where
  consistent := h.tail
  reported := fun _ _ => hknown
  expecting := fun _ _ hidle => h.news_after_gotIp hidle
  guarded := fun _ _ hstill => absurd hstill.latestNews_eq (h.news_after_gotIp hstill.1)

/-- A station that is idle with its access point on needs the timer only. -/
theorem Wifi.attends_idle (hradio : radio.Consistent) (hidle : radio.link = .idle)
    (hdriver : wifi.driverMode ≠ .sta)
    (hguarded : scan = none → wifi.mode ≠ .ap → radio.Still →
      wifi.reconnectTimer = true ∧ wifi.staConnected = false) : wifi.Attends radio scan where
  consistent := hradio
  reported := fun hlink => by
    rw [hidle] at hlink
    cases hlink
  expecting := fun _ hsta => absurd hsta hdriver
  guarded := hguarded

/-- Dialling at the end of a step that changed nothing else about the station. -/
theorem Wifi.Mirrors.attends_connect (h : wifi.Mirrors ssid scan) {wifi' : Wifi} {err : EspErr}
    (hreplay : Radio.replay restarts wifi [(.connect, err)] radio = some radio')
    (hmode : wifi'.mode = wifi.mode) (hdriver : wifi'.driverMode = wifi.driverMode)
    (hradio : radio.Consistent)
    (hreported : radio.link = .online → latestNews radio.queue = none →
      wifi'.retryCount = 0 ∧ wifi'.staConnected = true) : wifi'.Attends radio' scan := by
  rcases Radio.replay_connect hreplay with ⟨-, b, rfl⟩ | ⟨hdial, rfl⟩
  · exact attends_dial wifi' hradio hreported b
  · -- only an access point can not dial
    have hap : wifi.mode = .ap := by
      by_contra hne
      exact hdial (h.canDial hne)
    refine ⟨hradio, hreported, fun _ hsta => ?_, fun _ hne => absurd (hmode.trans hap) hne⟩
    rw [h.mode_of_sta (hdriver ▸ hsta)] at hap
    cases hap

/-! ## Events -/

/-- Handling an event the manager takes no action on. -/
theorem Wifi.Attends.noted {link : Link} {event : WifiEvent} {rest : List WifiEvent}
    (h : wifi.Attends ⟨link, event :: rest⟩ scan) (hevent : event.isActive = false) :
    wifi.Attends ⟨link, rest⟩ scan := by
  have hnews : latestNews rest = none → latestNews (event :: rest) = none := by
    intro hnone
    rw [latestNews_cons_of_none hnone, if_neg]
    cases event <;> simp_all [WifiEvent.isNews, WifiEvent.isActive]
  refine ⟨h.consistent.tail, fun hlink hnone => h.reported hlink (hnews hnone),
    fun hscan hsta hidle hnone => h.expecting hscan hsta hidle (hnews hnone),
    fun hscan hmode hstill => h.guarded hscan hmode ⟨hstill.1, ?_⟩⟩
  intro e he
  rcases List.mem_cons.mp he with rfl | hrest
  · exact hevent
  · exact hstill.2 e hrest

/-- What `event_handler` keeps. -/
theorem event_sound {conf : AppConfig} {wifi' : Wifi} {calls : List WifiCall} {link : Link}
    {event : WifiEvent} {rest : List WifiEvent} (hm : wifi.Mirrors conf.staSsid scan)
    (ha : wifi.Attends ⟨link, event :: rest⟩ scan)
    (hcase : EventCase pf env conf wifi event wifi' calls)
    (hreplay : Radio.replay restarts wifi (env.answers 0 (calls.map Effect.wifi)) ⟨link, rest⟩ =
      some radio') :
    wifi'.Mirrors conf.staSsid scan ∧ wifi'.Attends radio' scan := by
  have hscan_of : wifi.scanning = true → scan ≠ none := by
    intro hscan hnone
    rw [hm.scanning, hnone] at hscan
    cases hscan
  have htail := ha.consistent.tail
  cases hcase with
  | startIgnored hscan =>
      -- a start says nothing of the link, and during a scan no timer has to run
      obtain rfl := Option.some.inj hreplay
      refine ⟨hm, htail, fun hlink hnews => ha.reported hlink ?_,
        fun hnone => absurd hnone (hscan_of hscan), fun hnone => absurd hnone (hscan_of hscan)⟩
      rw [latestNews_cons_of_none hnews]
      rfl
  | dialled hscan =>
      -- what the manager knows of the link stands, and it dials
      refine ⟨hm, hm.attends_connect hreplay rfl rfl htail fun hlink hnews => ha.reported hlink ?_⟩
      rw [latestNews_cons_of_none hnews]
      rfl
  | lossIgnored hscan =>
      -- a link that is up again has sent its news behind this loss
      obtain rfl := Option.some.inj hreplay
      exact ⟨hm, htail, fun hlink hnews => absurd hnews (ha.consistent.news_after_loss hlink),
        fun hnone => absurd hnone (hscan_of hscan), fun hnone => absurd hnone (hscan_of hscan)⟩
  | retried hscan hretry =>
      refine ⟨hm.congr rfl rfl rfl rfl id, hm.attends_connect hreplay rfl rfl htail ?_⟩
      exact fun hlink hnews => absurd hnews (ha.consistent.news_after_loss hlink)
  | fellBack hscan hretry hmode =>
      -- the access point comes up beside the station, and the timer dials from here on
      obtain rfl := hm.scan_eq_none hscan
      have hdriver : wifi.driverMode = .sta := by rw [hm.driverMode_of_none, hmode]; rfl
      obtain ⟨hset, hreplay⟩ := Radio.replay_setMode hreplay
      rw [Radio.call_setMode_of_sta _ (by decide) (by simp [hdriver])] at hreplay
      obtain ⟨hconf, hreplay⟩ := Radio.replay_cons_valid (by simp [Radio.Valid, Wifi.drive]) hreplay
      obtain rfl := Option.some.inj hreplay
      -- the manager is a station for a stored network only, so the timer is started
      have hssid : 0 < conf.staSsid.length :=
        List.length_pos_of_ne_nil fun hnil => by
          rw [hm.stored.mpr hnil] at hmode
          cases hmode
      rw [Wifi.answered_ok hconf, Wifi.answered_ok hset]
      refine ⟨⟨hm.started, hm.scanning, rfl, fun _ h => (by cases h), ?_,
          fun _ => hm.joins (by simp [hmode])⟩,
        htail, fun hlink hnews => absurd hnews (ha.consistent.news_after_loss hlink),
        fun _ hsta => (by cases hsta), fun _ _ _ => ⟨by simp [hssid], rfl⟩⟩
      exact iff_of_false (by simp [Wifi.drive]) fun hnil => by simp [hnil] at hssid
  | gaveUp hscan hretry hmode =>
      -- the access point is up already
      obtain rfl := hm.scan_eq_none hscan
      obtain rfl := Option.some.inj hreplay
      refine ⟨hm.congr rfl rfl rfl rfl id, htail,
        fun hlink hnews => absurd hnews (ha.consistent.news_after_loss hlink),
        fun _ hsta => absurd (hm.mode_of_sta hsta) hmode, fun _ hne _ => ⟨?_, rfl⟩⟩
      have hssid : conf.staSsid ≠ [] := fun hnil => hne (hm.stored.mpr hnil)
      simp [List.length_pos_of_ne_nil hssid]
  | apKept hmode =>
      obtain rfl := Option.some.inj hreplay
      exact ⟨hm.congr rfl rfl rfl rfl id, Wifi.attends_gotIp ha.consistent ⟨rfl, rfl⟩⟩
  | apOff hmode =>
      -- a scan from AP mode would have left the mode at AP, so the driver has both
      have hscan : scan ≠ some .ap := fun hap => by
        rw [(hm.lent _ hap).mp rfl] at hmode
        cases hmode
      have hdriver : wifi.driverMode = .apsta := by rw [hm.driverMode, if_neg hscan, hmode]; rfl
      obtain ⟨hset, hreplay⟩ := Radio.replay_setMode hreplay
      rw [Radio.call_setMode_of_sta _ (by decide) (by simp [hdriver])] at hreplay
      obtain rfl := Option.some.inj hreplay
      rw [Wifi.answered_ok hset]
      have hne : wifi.mode ≠ .ap := by simp [hmode]
      refine ⟨⟨hm.started, hm.scanning, (if_neg hscan).symm, fun mode horig => ?_, ?_,
        fun _ => hm.joins hne⟩, Wifi.attends_gotIp ha.consistent ⟨rfl, rfl⟩⟩
      · exact iff_of_false (fun hap => hne ((hm.lent mode horig).mp hap)) (by simp)
      · exact iff_of_false (by simp) fun hnil => hne (hm.stored.mpr hnil)
  | noted h =>
      -- the other events neither report a link nor make the manager dial
      obtain rfl := Option.some.inj hreplay
      refine ⟨hm, ha.noted ?_⟩
      cases event <;> simp_all [WifiEvent.isActive]

/-- The state after a call that names a step and the calls it made. -/
theorem RadioSystem.after_afterCalls {α : Type} (env : Env) (restarts : Bool) (radio : Radio)
    (scan : α → Option WifiMode) (s : RadioSystem) (a : α) (calls : List WifiCall) (wifi : Wifi)
    (w : World Board Effect) (hshown : w.shown = []) :
    s.after env restarts radio scan (.ok a (afterCalls calls wifi w)) =
      (Radio.replay restarts s.board.wifi (env.answers w.asked (calls.map Effect.wifi)) radio).map
        fun radio =>
          { board := { w.state with wifi := wifi }, radio := radio, scan := scan a } := by
  simp [RadioSystem.after, afterCalls, hshown]

/-- What a step of the firmware leaves, from what it did. -/
theorem RadioSystem.of_after {α : Type} {scan : α → Option WifiMode} {s t : RadioSystem} {a : α}
    {calls : List WifiCall} {w : World Board Effect} (hshown : w.shown = [])
    (h : s.after env restarts radio scan (.ok a (afterCalls calls wifi w)) = some t) :
    ∃ radio',
      Radio.replay restarts s.board.wifi (env.answers w.asked (calls.map Effect.wifi)) radio =
      some radio' ∧ t = ⟨{ w.state with wifi := wifi }, radio', scan a⟩ := by
  rw [after_afterCalls _ _ _ _ _ _ _ _ _ hshown, Option.map_eq_some_iff] at h
  obtain ⟨radio', hreplay, rfl⟩ := h
  exact ⟨radio', hreplay, rfl⟩

/-! ## The timer and scans -/

theorem timer_sound {s t : RadioSystem} (hs : s.Sound)
    (h : s.runTask pf env restarts .timer = some t) : t.Sound := by
  unfold RadioSystem.runTask at h
  rcases reconnectTimerCb_cases env s.board with ⟨hconnected, hrun⟩ | ⟨hconnected, hrun⟩
  · rw [hrun] at h
    obtain ⟨radio', hreplay, rfl⟩ := RadioSystem.of_after rfl h
    obtain rfl := Option.some.inj hreplay
    refine ⟨hs.mirrors.congr rfl rfl rfl rfl id, hs.attends.consistent, hs.attends.reported,
      hs.attends.expecting, fun hscan hmode hstill => ?_⟩
    -- the timer is stopped only where the station is connected
    have hdown := (hs.attends.guarded hscan hmode hstill).2
    rw [hconnected] at hdown
    cases hdown
  · rw [hrun] at h
    obtain ⟨radio', hreplay, rfl⟩ := RadioSystem.of_after rfl h
    refine ⟨hs.mirrors.congr rfl rfl rfl rfl id, hs.mirrors.attends_connect hreplay rfl rfl
      hs.attends.consistent fun hlink hnews => ⟨rfl, (hs.attends.reported hlink hnews).2⟩⟩

theorem beginScan_sound {s t : RadioSystem} (hs : s.Sound)
    (h : s.runTask pf env restarts .beginScan = some t) : t.Sound := by
  obtain ⟨board, radio, scan⟩ := s
  unfold RadioSystem.runTask at h
  obtain ⟨rfl, h⟩ := Option.ite_none_right_eq_some.mp h
  have hm : board.wifi.Mirrors board.config.staSsid none := hs.mirrors
  have ha : board.wifi.Attends radio none := hs.attends
  have hdriver := hm.driverMode_of_none
  rcases beginScan_cases env board with ⟨hap, hrun⟩ | ⟨hap, hrun⟩
  · rw [hrun] at h
    obtain ⟨radio', hreplay, rfl⟩ := RadioSystem.of_after rfl h
    obtain ⟨hset, hreplay⟩ := Radio.replay_setMode hreplay
    obtain rfl := Option.some.inj hreplay
    have hmode : board.wifi.mode = .ap := WifiManagerMode.driver_eq_ap.mp (hdriver.symm.trans hap)
    -- the driver starts its station, which it reports
    have hcall : radio.call restarts board.wifi (.setMode .apsta) = radio.raise .staStart :=
      if_pos ⟨hm.started, hap⟩
    have hnews : latestNews (radio.raise .staStart).queue = latestNews radio.queue :=
      latestNews_append _ _
    show RadioSystem.Sound ⟨_, radio.call restarts board.wifi (.setMode .apsta), _⟩
    rw [hcall, Wifi.answered_ok (show env.err 0 = .ok from hset)]
    refine ⟨⟨hm.started, rfl, rfl, fun mode horig => ?_, hm.stored, hm.joins⟩,
      ha.consistent.raise rfl, fun hlink hnone => ha.reported hlink (hnews ▸ hnone),
      fun hnone => (by cases hnone), fun hnone => by cases hnone⟩
    obtain rfl := Option.some.inj horig
    exact iff_of_true rfl hmode
  · rw [hrun] at h
    obtain ⟨radio', hreplay, rfl⟩ := RadioSystem.of_after rfl h
    have hne : board.wifi.mode ≠ .ap := fun hmode => by
      rw [hmode] at hdriver
      exact hap hdriver
    -- the station is there already; the scan drops its link first
    obtain ⟨-, hreplay⟩ := Radio.replay_cons_valid (by exact ⟨hm.started, hap⟩) hreplay
    obtain rfl := Option.some.inj hreplay
    refine ⟨⟨hm.started, rfl, ?_, fun mode horig => ?_, hm.stored, hm.joins⟩,
      ha.consistent.drop, fun hlink => ?_, fun hnone => (by cases hnone),
      fun hnone => by cases hnone⟩
    · show board.wifi.driverMode = if some board.wifi.driverMode = some .ap then _ else _
      rw [if_neg (by simpa using hap)]
      exact hdriver
    · obtain rfl := Option.some.inj horig
      exact iff_of_false hap hne
    · cases (Radio.drop_link radio).symm.trans hlink

theorem endScan_sound {s t : RadioSystem} (hs : s.Sound)
    (h : s.runTask pf env restarts .endScan = some t) : t.Sound := by
  obtain ⟨board, radio, scan⟩ := s
  unfold RadioSystem.runTask at h
  cases scan with
  | none => cases h
  | some origMode =>
      have hm : board.wifi.Mirrors board.config.staSsid (some origMode) := hs.mirrors
      have ha : board.wifi.Attends radio (some origMode) := hs.attends
      have hlent := hm.lent origMode rfl
      simp only [endScan_apply] at h
      obtain ⟨radio', hreplay, rfl⟩ := RadioSystem.of_after rfl h
      by_cases horig : origMode = .ap
      · subst horig
        -- a scan from AP mode had no network to join, so nothing is dialled
        have hmode := hlent.mp rfl
        have hssid : board.config.staSsid = [] := hm.stored.mp hmode
        simp only [hssid, List.length_nil, lt_irrefl, if_true, if_false] at hreplay
        obtain ⟨hset, hreplay⟩ := Radio.replay_setMode hreplay
        obtain rfl := Option.some.inj hreplay
        simp only [if_true]
        rw [Wifi.answered_ok (show env.err 0 = .ok from hset)]
        refine ⟨⟨hm.started, rfl, ?_, fun _ h => (by cases h), hm.stored, hm.joins⟩,
          Wifi.attends_idle ha.consistent.drop (Radio.drop_link radio) (by simp [Wifi.drive])
            fun _ hne => absurd hmode hne⟩
        show WifiMode.ap = board.wifi.mode.driver
        rw [hmode]
        rfl
      · have hne : board.wifi.mode ≠ .ap := fun hmode => horig (hlent.mpr hmode)
        -- any other mode has one, and the scan dials it at its end
        have hssid : 0 < board.config.staSsid.length :=
          List.length_pos_of_ne_nil fun hnil => hne (hm.stored.mpr hnil)
        simp only [if_neg horig, if_pos hssid] at hreplay ⊢
        refine ⟨⟨hm.started, rfl, ?_, fun _ h => (by cases h), hm.stored, hm.joins⟩, ?_⟩
        · have hdriver := hm.driverMode
          rw [if_neg (by simpa using horig)] at hdriver
          exact hdriver
        · rcases Radio.replay_connect hreplay with ⟨-, b, rfl⟩ | ⟨hdial, -⟩
          · exact Wifi.attends_dial { board.wifi with scanning := false } ha.consistent
              ha.reported b
          · exact absurd (hm.canDial hne) hdial

/-! ## Requests -/

/-- What `wifi_manager_connect_sta` keeps. -/
theorem connect_sound {n : ℕ} {apConf : ApConfig} {conf : StaConfig} {err : EspErr} {wifi' : Wifi}
    {calls : List WifiCall} {ssid' : CString} (hm : wifi.Mirrors ssid none)
    (ha : wifi.Attends radio none) (hssid : ssid' ≠ []) (hconf : conf.ssid ≠ [])
    (hcase : ConnectCase env n apConf conf wifi err wifi' calls)
    (hreplay :
      Radio.replay restarts wifi (env.answers n (calls.map Effect.wifi)) radio = some radio') :
    wifi'.Mirrors ssid' none ∧ wifi'.Attends radio' none := by
  -- the driver has a station that is idle once it has been stopped and is in AP+STA mode
  have hset : ∀ {rest : List Effect}, Radio.replay restarts wifi
      (env.answers n (.wifi .stop :: .wifi (.setMode .apsta) :: rest)) radio = some radio' →
      env.err n = .ok ∧ env.err (n + 1) = .ok ∧ Radio.replay restarts
        { wifi with driverStarted := false, driverMode := .apsta } (env.answers (n + 2) rest)
        radio.drop = some radio' := by
    intro rest h
    obtain ⟨hstop, h⟩ := Radio.replay_cons_valid (by exact hm.started) h
    obtain ⟨hset, h⟩ := Radio.replay_setMode h
    rw [Radio.call_setMode_of_off _ (by decide) rfl] at h
    exact ⟨hstop, hset, h⟩
  have hsta : ∀ {wifi : Wifi}, wifi.driverMode = .apsta →
      Radio.Valid wifi radio.drop (.setStaConfig conf) := by
    intro wifi hmode
    exact ⟨by simp [hmode], hconf, by simp⟩
  cases hcase with
  | kept hmode hrejected =>
      rcases Radio.replay_cons hreplay with ⟨hok, -⟩ | ⟨-, -, hreplay⟩
      · exact absurd hok hrejected
      · obtain rfl := Option.some.inj hreplay
        exact ⟨⟨hm.started, hm.scanning, hm.driverMode, hm.lent,
          iff_of_false (by simp [hmode]) hssid, hm.joins⟩, ha⟩
  | joining hmode hok =>
      have hne : wifi.mode ≠ .ap := by simp [hmode]
      rcases Radio.replay_cons hreplay with ⟨-, hreplay⟩ | ⟨hrejected, -⟩
      · refine ⟨⟨hm.started, hm.scanning, hm.driverMode, hm.lent,
          iff_of_false (by simp [Wifi.joined, hmode]) hssid, fun _ => hconf⟩, ?_⟩
        rcases Radio.replay_connect hreplay with ⟨-, b, rfl⟩ | ⟨hdial, -⟩
        · exact Wifi.attends_dial (wifi.joined conf) ha.consistent
            (fun hlink hnews => ⟨rfl, (ha.reported hlink hnews).2⟩) b
        · exact absurd ⟨hm.started, (hm.canDial hne).2.1, hconf⟩ hdial
      · exact absurd hok hrejected
  | noMode hmode hrejected => exact absurd (hset hreplay).2.1 hrejected
  | noConfig hmode hok hrejected =>
      obtain ⟨-, -, hreplay⟩ := hset hreplay
      obtain ⟨-, hreplay⟩ := Radio.replay_cons_valid (by simp [Radio.Valid]) hreplay
      obtain ⟨haccepted, -⟩ := Radio.replay_cons_valid (hsta rfl) hreplay
      exact absurd haccepted hrejected
  | started hmode hok haccepted =>
      obtain ⟨hstop, -, hreplay⟩ := hset hreplay
      obtain ⟨hap, hreplay⟩ := Radio.replay_cons_valid (by simp [Radio.Valid]) hreplay
      obtain ⟨-, hreplay⟩ := Radio.replay_cons_valid (hsta rfl) hreplay
      obtain ⟨hstart, hreplay⟩ := Radio.replay_cons_valid (by exact rfl) hreplay
      have hstarted : some (radio.drop.raise .staStart) = some radio' := hreplay
      obtain rfl := Option.some.inj hstarted
      rw [Wifi.answered_ok hstart, Wifi.enteredApSta, Wifi.answered_ok hap, Wifi.answered_ok hstop]
      refine ⟨⟨rfl, hm.scanning, rfl, fun _ h => (by cases h),
        iff_of_false (fun h => by cases h) hssid, fun _ => hconf⟩,
        Wifi.attends_idle (ha.consistent.drop.raise rfl) (Radio.drop_link radio)
          (fun h => by cases h) fun _ _ hstill => ?_⟩
      -- the station starts and dials
      have hactive := hstill.2 .staStart (by simp [Radio.raise])
      cases hactive

/-- What `wifi_manager_disconnect_sta` keeps. -/
theorem disconnect_sound {n : ℕ} {apConf : ApConfig} {err : EspErr} {wifi' : Wifi}
    {calls : List WifiCall} (hm : wifi.Mirrors ssid none) (ha : wifi.Attends radio none)
    (hcase : DisconnectCase env n apConf wifi err wifi' calls)
    (hreplay :
      Radio.replay restarts wifi (env.answers n (calls.map Effect.wifi)) radio = some radio') :
    wifi'.Mirrors [] none ∧ wifi'.Attends radio' none := by
  -- the station is idle in the end whether or not it could be told to disconnect
  have hset : ∀ {rest : List Effect}, Radio.replay restarts wifi
      (env.answers n (.wifi .disconnect :: .wifi .stop :: .wifi (.setMode .ap) :: rest)) radio =
        some radio' →
      env.err (n + 1) = .ok ∧ env.err (n + 2) = .ok ∧ ∃ idle : Radio, idle.Consistent ∧
        Radio.replay restarts { wifi with driverStarted := false, driverMode := .ap }
          (env.answers (n + 3) rest) idle.drop = some radio' := by
    intro rest h
    obtain ⟨idle, hidle, h⟩ : ∃ idle : Radio, idle.Consistent ∧ Radio.replay restarts wifi
        (env.answers (n + 1) (.wifi .stop :: .wifi (.setMode .ap) :: rest)) idle = some radio' := by
      rcases Radio.replay_cons h with ⟨-, h⟩ | ⟨-, -, h⟩
      · exact ⟨radio.drop, ha.consistent.drop, h⟩
      · exact ⟨radio, ha.consistent, h⟩
    obtain ⟨hstop, h⟩ := Radio.replay_cons_valid (by exact hm.started) h
    obtain ⟨hset, h⟩ := Radio.replay_setMode h
    exact ⟨hstop, hset, idle.drop, hidle.drop, h⟩
  cases hcase with
  | noMode hrejected => exact absurd (hset hreplay).2.1 hrejected
  | started hok =>
      obtain ⟨hstop, -, idle, hidle, hreplay⟩ := hset hreplay
      obtain ⟨hap, hreplay⟩ := Radio.replay_cons_valid (by simp [Radio.Valid]) hreplay
      obtain ⟨hstart, hreplay⟩ := Radio.replay_cons_valid (by exact rfl) hreplay
      have hstarted : some idle.drop = some radio' := hreplay
      obtain rfl := Option.some.inj hstarted
      rw [Wifi.answered_ok hstart, Wifi.answered_ok hap, Wifi.answered_ok hstop]
      exact ⟨⟨rfl, hm.scanning, rfl, fun _ h => (by cases h), iff_of_true rfl rfl,
        fun hne => absurd rfl hne⟩, Wifi.attends_idle hidle.drop (Radio.drop_link idle)
          (fun h => by cases h) fun _ hne => absurd rfl hne⟩

/-- What `wifi_manager_update_ap` keeps. -/
theorem updateAp_sound {n : ℕ} {apConf : ApConfig} {err : EspErr} {wifi' : Wifi}
    {calls : List WifiCall} (hm : wifi.Mirrors ssid none) (ha : wifi.Attends radio none)
    (hcase : UpdateApCase env n apConf wifi err wifi' calls)
    (hreplay : Radio.replay restarts wifi
      (env.answers (n + 1) (calls.map Effect.wifi)) radio = some radio') :
    wifi'.Mirrors ssid none ∧ wifi'.Attends radio' none := by
  cases hcase with
  | unsaved =>
      obtain rfl := Option.some.inj hreplay
      exact ⟨hm, ha⟩
  | applied hcommit =>
      have hsame : radio' = radio := by
        rcases Radio.replay_cons hreplay with ⟨-, h⟩ | ⟨-, -, h⟩
        · exact (Option.some.inj h).symm
        · exact (Option.some.inj h).symm
      subst hsame
      unfold Wifi.answered
      split
      · exact ⟨hm.congr rfl rfl rfl rfl id, ha.consistent, ha.reported, ha.expecting, ha.guarded⟩
      · exact ⟨hm, ha⟩

theorem request_sound {s t : RadioSystem} (hs : s.Sound) {request : WifiRequest}
    (h : s.runTask pf env restarts (.request request) = some t) : t.Sound := by
  obtain ⟨board, radio, scan⟩ := s
  unfold RadioSystem.runTask at h
  obtain ⟨rfl, h⟩ := Option.ite_none_right_eq_some.mp h
  have hm : board.wifi.Mirrors board.config.staSsid none := hs.mirrors
  have ha : board.wifi.Attends radio none := hs.attends
  obtain ⟨result, hrun, hspec⟩ := request.run_spec pf env board
  rw [show _ = _ from hrun] at h
  cases hspec with
  | refused =>
      rw [show board.start = afterCalls [] board.wifi board.start from rfl] at h
      obtain ⟨radio', hreplay, rfl⟩ := RadioSystem.of_after rfl h
      obtain rfl := Option.some.inj hreplay
      exact hs
  | closed => cases h
  | @connectSta ssid password err wifi calls hargs hopened hcase =>
      obtain ⟨radio', hreplay, rfl⟩ := RadioSystem.of_after rfl h
      have hssid : (joinConfig ssid password).ssid ≠ [] := joinConfig_ssid hargs
      obtain ⟨hmirrors, hattends⟩ := connect_sound hm ha hssid (joinConfig_ssid hargs) hcase hreplay
      exact ⟨hmirrors, hattends⟩
  | disconnectSta hopened hcase =>
      obtain ⟨radio', hreplay, rfl⟩ := RadioSystem.of_after rfl h
      obtain ⟨hmirrors, hattends⟩ := disconnect_sound hm ha hcase hreplay
      exact ⟨hmirrors, hattends⟩
  | updateAp hopened hcase =>
      obtain ⟨radio', hreplay, rfl⟩ := RadioSystem.of_after rfl h
      obtain ⟨hmirrors, hattends⟩ := updateAp_sound hm ha hcase hreplay
      exact ⟨hmirrors, hattends⟩

theorem rename_sound {s t : RadioSystem} (hs : s.Sound) {deviceName : CString}
    (h : s.runTask pf env restarts (.rename deviceName) = some t) : t.Sound := by
  obtain ⟨board, radio, scan⟩ := s
  unfold RadioSystem.runTask at h
  obtain ⟨rfl, h⟩ := Option.ite_none_right_eq_some.mp h
  have hm : board.wifi.Mirrors board.config.staSsid none := hs.mirrors
  have ha : board.wifi.Attends radio none := hs.attends
  obtain ⟨hostname, mdnsHostname, mdnsInstance, hrun⟩ :=
    updateHostname_cases env deviceName board.start
  rw [show _ = _ from hrun] at h
  obtain ⟨radio', hreplay, rfl⟩ := RadioSystem.of_after rfl h
  obtain ⟨-, hreplay⟩ := Radio.replay_cons_valid (by exact trivial) hreplay
  obtain ⟨-, hreplay⟩ := Radio.replay_cons_valid (by exact trivial) hreplay
  obtain ⟨-, hreplay⟩ := Radio.replay_cons_valid (by exact trivial) hreplay
  have hsame : some radio = some radio' := hreplay
  obtain rfl := Option.some.inj hsame
  exact ⟨hm.congr rfl rfl rfl rfl id, ha.consistent, ha.reported, ha.expecting, ha.guarded⟩

end

/-! ## Runs -/

section

variable {pf : Platform}

/-- A station that was not idle and is now has news. -/
theorem RadioSystem.Sound.drop {s : RadioSystem} (hs : s.Sound) (hlink : s.radio.link ≠ .idle) :
    RadioSystem.Sound { s with radio := s.radio.drop } where
  mirrors := hs.mirrors
  attends := by
    have hnews := Radio.drop_news hlink
    refine ⟨hs.attends.consistent.drop, fun hlink' => ?_, fun _ _ _ => ?_, fun _ _ hstill => ?_⟩
    · cases (Radio.drop_link s.radio).symm.trans hlink'
    · simp [hnews]
    · cases hnews.symm.trans hstill.latestNews_eq

/-- A link whose address is on its way. -/
theorem RadioSystem.Sound.online {s : RadioSystem} (hs : s.Sound) :
    RadioSystem.Sound { s with radio := ⟨.online, s.radio.queue ++ [.gotIp]⟩ } where
  mirrors := hs.mirrors
  attends := by
    have hnews : latestNews (s.radio.queue ++ [.gotIp]) = some .gotIp := latestNews_append _ _
    refine ⟨⟨fun hlink => absurd rfl hlink, fun _ => ?_⟩, fun _ hnone => ?_,
      fun _ _ hidle => (by cases hidle), fun _ _ hstill => by cases hstill.1⟩
    · simp [hnews]
    · cases hnews.symm.trans hnone

/-- An event without consequences. -/
theorem RadioSystem.Sound.raised {s : RadioSystem} (hs : s.Sound) {event : WifiEvent}
    (hevent : event.isActive = false) :
    RadioSystem.Sound { s with radio := s.radio.raise event } where
  mirrors := hs.mirrors
  attends := by
    have hisNews : event.isNews = false := by
      cases event <;> simp_all [WifiEvent.isNews, WifiEvent.isActive]
    have hnews : latestNews (s.radio.raise event).queue = latestNews s.radio.queue :=
      (latestNews_append _ _).trans (if_neg (by simp [hisNews]))
    have ha := hs.attends
    refine ⟨ha.consistent.raise hisNews, fun hlink hnone => ha.reported hlink (hnews ▸ hnone),
      fun hscan hsta hidle => hnews ▸ ha.expecting hscan hsta hidle,
      fun hscan hmode hstill => ha.guarded hscan hmode ⟨hstill.1, fun e he => ?_⟩⟩
    exact hstill.2 e (List.mem_append_left _ he)

theorem event_task_sound {env : Env} {restarts : Bool} {s t : RadioSystem} (hs : s.Sound)
    (h : s.runTask pf env restarts .event = some t) : t.Sound := by
  obtain ⟨board, ⟨link, queue⟩, scan⟩ := s
  cases queue with
  | nil => cases h
  | cons event rest =>
      obtain ⟨wifi, calls, hrun, hcase⟩ := eventHandler_cases pf env board event
      have h' : RadioSystem.after env restarts ⟨link, rest⟩ (fun _ => scan)
          ⟨board, ⟨link, event :: rest⟩, scan⟩ (eventHandler pf env event board.start) = some t := h
      rw [hrun] at h'
      obtain ⟨radio', hreplay, rfl⟩ := RadioSystem.of_after rfl h'
      obtain ⟨hmirrors, hattends⟩ := event_sound hs.mirrors hs.attends hcase hreplay
      exact ⟨hmirrors, hattends⟩

/-- Every step keeps the invariant. -/
theorem radio_step {s t : RadioSystem} {a : RadioAction} {es : List Empty} (hs : s.Sound)
    (hstep : (radioMachine pf).step s a = some (t, es)) : t.Sound := by
  obtain ⟨u, h, heq⟩ := Option.map_eq_some_iff.mp hstep
  obtain ⟨rfl, -⟩ := Prod.mk.inj heq
  cases a with
  | run env restarts task =>
      cases task with
      | event => exact event_task_sound hs h
      | timer => exact timer_sound hs (show s.runTask pf env restarts .timer = some u from h)
      | request request => exact request_sound hs h
      | rename deviceName =>
          exact rename_sound hs
            (show s.runTask pf env restarts (.rename deviceName) = some u from h)
      | beginScan =>
          exact beginScan_sound hs (show s.runTask pf env restarts .beginScan = some u from h)
      | endScan => exact endScan_sound hs (show s.runTask pf env restarts .endScan = some u from h)
  | answered up =>
      obtain ⟨hlink, heq⟩ := Option.ite_none_right_eq_some.mp h
      obtain rfl := Option.some.inj heq
      cases up with
      | true => exact hs.online
      | false => exact hs.drop (by simp [hlink])
  | lost =>
      obtain ⟨hlink, heq⟩ := Option.ite_none_right_eq_some.mp h
      obtain rfl := Option.some.inj heq
      exact hs.drop (by simp [hlink])
  | renewed =>
      obtain ⟨hlink, heq⟩ := Option.ite_none_right_eq_some.mp h
      obtain rfl := Option.some.inj heq
      rw [Radio.raise, hlink]
      exact hs.online
  | raised event =>
      obtain ⟨hevent, heq⟩ := Option.ite_none_right_eq_some.mp h
      obtain rfl := Option.some.inj heq
      exact hs.raised hevent

/-- What the radio does while `wifi_manager_init` runs. -/
theorem replay_initCalls (pf : Platform) {env : Env} (hok : env.AllOk) {conf : AppConfig}
    {wifi : Wifi} (hoff : wifi.driverStarted = false) (restarts : Bool) :
    Radio.replay restarts wifi (env.answers 0 ((initCalls pf conf).map Effect.wifi)) ⟨.idle, []⟩ =
      some ⟨.idle, if conf.HasSta then [.staStart] else []⟩ := by
  have herr : ∀ n, env.err n = .ok := hok
  by_cases hsta : conf.HasSta
  · simp [initCalls, nameCalls, hsta, Env.answers, Radio.replay, herr, Radio.call, Wifi.drive, hoff,
      Radio.raise]
  · simp [initCalls, nameCalls, hsta, Env.answers, Radio.replay, herr, Radio.call, Wifi.drive,
      Radio.drop]

theorem RadioSystem.started_of (env : Env) (hok : env.AllOk) {board : Board}
    (hwf : board.config.WellFormed) (hoff : board.wifi.PoweredOff) :
    RadioSystem.Started pf ⟨{ board with wifi := board.wifi.initialized pf board.config },
      ⟨.idle, if board.config.HasSta then [.staStart] else []⟩, none⟩ := by
  obtain ⟨n, hinit⟩ := wifiManagerInit_ok pf hok board.start
  exact ⟨env, board, _, hok, hwf, hoff, hinit, rfl,
    replay_initCalls pf hok hoff.driverStarted false, rfl⟩

/-- `wifi_manager_init` leaves the manager and the driver in the same mode. -/
theorem RadioSystem.Started.sound {s : RadioSystem} (h : s.Started pf) : s.Sound := by
  obtain ⟨env, board, w, hok, hwf, hoff, hinit, hboard, hreplay, hscan⟩ := h
  obtain ⟨n, hinit'⟩ := wifiManagerInit_ok pf hok board.start
  cases hinit.symm.trans hinit'
  have hradio := (replay_initCalls pf hok hoff.driverStarted false).symm.trans hreplay
  obtain ⟨board', radio, scan⟩ := s
  obtain rfl : board' = { board with wifi := board.wifi.initialized pf board.config } := hboard
  obtain rfl : scan = none := hscan
  obtain rfl : ⟨.idle, if board.config.HasSta then [.staStart] else []⟩ = radio :=
    Option.some.inj hradio
  have hquiet : ∀ queue, latestNews queue = none → Radio.Consistent ⟨.idle, queue⟩ :=
    fun queue hnone => ⟨fun _ => by simp [hnone], fun hlink => by cases hlink⟩
  by_cases hsta : board.config.HasSta
  · have hssid : board.config.staSsid ≠ [] := List.ne_nil_of_length_pos hsta.1
    simp only [Wifi.initialized, if_pos hsta]
    refine ⟨⟨rfl, hoff.scanning, rfl, fun _ h => (by cases h),
      iff_of_false (fun h => by cases h) hssid, fun _ => ?_⟩,
      Wifi.attends_idle (hquiet _ rfl) rfl (fun h => by cases h) fun _ _ hstill => ?_⟩
    · simpa [storedStaConfig, joinConfig] using hssid
    · have hactive := hstill.2 .staStart (by simp)
      cases hactive
  · have hssid : board.config.staSsid = [] := by
      have hlen := hwf.staSsid.1
      by_contra hne
      exact hsta ⟨List.length_pos_of_ne_nil hne, not_lt.mpr (Nat.le_of_lt_succ hlen)⟩
    simp only [Wifi.initialized, if_neg hsta]
    exact ⟨⟨rfl, hoff.scanning, rfl, fun _ h => (by cases h), iff_of_true rfl hssid,
      fun hne => absurd rfl hne⟩, Wifi.attends_idle (hquiet _ rfl) rfl (fun h => by cases h)
        fun _ hne => absurd rfl hne⟩

/-- Never stranded: outside a scan, a device without an address whose access point is
off is connecting or has the answer queued; and one that has used up its retries
for a stored network has its access point on and its timer running. -/
theorem never_stranded {s : RadioSystem}
    (h : (radioMachine pf).Reachable (RadioSystem.Started pf) s) (hscan : s.scan = none) :
    (s.radio.link ≠ .online ∨ s.board.wifi.staConnected = false → ¬s.ApOn →
      s.radio.link = .connecting ∨ .staDisconnected ∈ s.radio.queue ∨ .gotIp ∈ s.radio.queue) ∧
    (s.board.wifi.retryCount = maxStaRetries → s.radio.link ≠ .connecting → s.radio.queue = [] →
      s.board.config.staSsid ≠ [] → s.ApOn ∧ s.board.wifi.reconnectTimer = true) := by
  have hs : s.Sound := h.invariant (fun _ hstarted => hstarted.sound) fun _ _ _ _ => radio_step
  obtain ⟨hm, ha⟩ := hs
  rw [hscan] at hm ha
  refine ⟨fun hdown hoff => ?_, fun hretries hnot hqueue hssid => ?_⟩
  · have hsta : s.board.wifi.driverMode = .sta := by
      by_contra hne
      exact hoff ⟨hm.started, hne⟩
    by_cases hconnecting : s.radio.link = .connecting
    · exact .inl hconnecting
    · -- some news is queued
      have hnews : latestNews s.radio.queue ≠ none := by
        intro hnone
        cases hlink : s.radio.link with
        | idle => exact ha.expecting rfl hsta hlink hnone
        | connecting => exact hconnecting hlink
        | online =>
            have hknown := (ha.reported hlink hnone).2
            simp [hlink, hknown] at hdown
      obtain ⟨event, hevent⟩ := Option.ne_none_iff_exists'.mp hnews
      have hmem := latestNews_mem hevent
      have hisNews := latestNews_isNews hevent
      cases event with
      | staDisconnected => exact .inr (.inl hmem)
      | gotIp => exact .inr (.inr hmem)
      | _ => cases hisNews
  · have hnone : latestNews s.radio.queue = none := by rw [hqueue]; rfl
    have hidle : s.radio.link = .idle := by
      cases hlink : s.radio.link with
      | idle => rfl
      | connecting => exact absurd hlink hnot
      | online =>
          have hzero := (ha.reported hlink hnone).1
          rw [hretries] at hzero
          cases hzero
    have hmode : s.board.wifi.mode ≠ .ap := fun hap => hssid (hm.stored.mp hap)
    refine ⟨⟨hm.started, fun hsta => ha.expecting rfl hsta hidle hnone⟩,
      (ha.guarded rfl hmode ⟨hidle, ?_⟩).1⟩
    simp [hqueue]

end

/-- A device with a stored network, before `wifi_manager_init`. -/
def demoStation : Board :=
  { demoBoard with
    config := { AppConfig.zero with staSsid := cstr "attic" }
    wifi := { demoBoard.wifi with driverStarted := false } }

/-- The same device after it. -/
def demoStarted : RadioSystem :=
  ⟨{ demoStation with wifi := demoStation.wifi.initialized (demoPlatform []) demoStation.config },
    ⟨.idle, if demoStation.config.HasSta then [.staStart] else []⟩, none⟩

theorem demoStarted_started : demoStarted.Started (demoPlatform []) :=
  RadioSystem.started_of (demoEnv 0 []) (fun _ => rfl)
    { AppConfig.wellFormed_zero with staSsid := ⟨by decide, by decide⟩ } ⟨rfl, rfl, rfl, rfl⟩

/-- `event_handler` reads an event. -/
def demoEvent : RadioAction := .run (demoEnv 0 []) false .event

/-- A link that is lost, and six attempts that fail. -/
theorem never_stranded_exhausted :
    (∃ s, (radioMachine (demoPlatform [])).Reachable (RadioSystem.Started (demoPlatform [])) s ∧
      s.radio.link ≠ .online ∧ ¬s.ApOn ∧
        (s.radio.link = .connecting ∨ .staDisconnected ∈ s.radio.queue ∨ .gotIp ∈ s.radio.queue)) ∧
    ∃ s, (radioMachine (demoPlatform [])).Reachable (RadioSystem.Started (demoPlatform [])) s ∧
      s.board.wifi.retryCount = maxStaRetries ∧ s.board.config.staSsid ≠ [] ∧
        s.ApOn ∧ s.board.wifi.reconnectTimer = true := by
  obtain ⟨s, es, hrun, hs⟩ := Machine.Run.exists_of_exec
    (M := radioMachine (demoPlatform [])) (s := demoStarted)
    (p := fun s _ => decide (s.scan = none ∧ s.radio.link ≠ .online ∧
      s.board.wifi.driverMode = .sta))
    (show ((radioMachine (demoPlatform [])).exec demoStarted
      [demoEvent, .answered true, demoEvent, .lost]).any (fun r => _) = true by decide +kernel)
  obtain ⟨t, fs, hrun', ht⟩ := Machine.Run.exists_of_exec
    (M := radioMachine (demoPlatform [])) (s := demoStarted)
    (p := fun s _ => decide (s.scan = none ∧ s.board.wifi.retryCount = maxStaRetries ∧
      s.radio.link ≠ .connecting ∧ s.radio.queue = [] ∧ s.board.config.staSsid ≠ []))
    (show ((radioMachine (demoPlatform [])).exec demoStarted
      (demoEvent :: (List.replicate 6 [.answered false, demoEvent]).flatten)).any
        (fun r => _) = true by
        decide +kernel)
  obtain ⟨hscan, hlink, hsta⟩ := of_decide_eq_true hs
  obtain ⟨hscan', hretries, hnot, hqueue, hssid⟩ := of_decide_eq_true ht
  have hoff : ¬s.ApOn := fun hon => hon.2 hsta
  have hreach :
      (radioMachine (demoPlatform [])).Reachable (RadioSystem.Started (demoPlatform [])) s :=
    ⟨_, _, _, demoStarted_started, hrun⟩
  have hreach' :
      (radioMachine (demoPlatform [])).Reachable (RadioSystem.Started (demoPlatform [])) t :=
    ⟨_, _, _, demoStarted_started, hrun'⟩
  exact ⟨⟨s, hreach, hlink, hoff, (never_stranded hreach hscan).1 (.inl hlink) hoff⟩,
    t, hreach', hretries, hssid, (never_stranded hreach' hscan').2 hretries hnot hqueue hssid⟩

end WebTerminal
