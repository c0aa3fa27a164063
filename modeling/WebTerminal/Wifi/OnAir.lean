import WebTerminal.Store.SetupLock
import WebTerminal.Wifi.Requests

/-!
# A radio that stays on

Requests to the WiFi manager one after the other, each with answers of the driver
of its own.  A change of mode stops the driver first, and only a call to
`esp_wifi_start` at the very end starts it again, so a request that leaves in
between leaves the device off the air.
-/

set_option autoImplicit false

namespace WebTerminal

open Machine

structure WifiAction where
  env : Env
  request : WifiRequest

/-- The result of every request is shown.  A request that resets the chip takes no step. -/
def wifiMachine (pf : Platform) : Machine Board WifiAction EspErr where
  step board a :=
    match a.request.run pf a.env board.start with
    | .ok err w => some (w.state, [err])
    | .error _ _ => none

/-- The driver is started, with its access point or a configured station. -/
def Board.OnAir (board : Board) : Prop :=
  board.wifi.driverStarted = true ∧
    (board.wifi.driverMode ≠ .sta ∨ board.wifi.driverMode ≠ .ap ∧ board.wifi.staConfig.ssid ≠ [])

/-- A valid `wifi_manager_connect_sta` the driver does not reject succeeds: the
driver runs with a station for the network asked for. -/
def Board.CanJoin (pf : Platform) (board : Board) : Prop :=
  ∀ (env : Env) (ssid password : CText), (∀ n, env.err n = .ok) → staRefused ssid password = false →
    ∃ w, (WifiRequest.connectSta ssid password).run pf env board.start = .ok .ok w ∧
      w.state.wifi.driverStarted = true ∧ w.state.wifi.driverMode ≠ .ap ∧
        w.state.wifi.staConfig = joinConfig ssid password

/-- The driver as `wifi_manager_init` or an event leaves it. -/
structure Board.Running (board : Board) : Prop where
  started : board.wifi.driverStarted = true
  ap : board.wifi.mode = .ap → board.wifi.driverMode ≠ .sta
  apSta : board.wifi.mode = .apSta → board.wifi.driverMode = .apsta
  sta : board.wifi.mode = .sta →
    board.wifi.driverMode = .sta ∧ board.wifi.staConfig.ssid ≠ []

/-- The driver stops and starts when it is told to. -/
def Restarts (pf : Platform) (board : Board) (a : WifiAction) : Prop :=
  match a.request with
  | .connectSta _ _ => board.wifi.mode ≠ .apSta →
      a.env.err pf.afterSave = .ok ∧ a.env.err (pf.afterSave + 4) = .ok
  | .disconnectSta => a.env.err (pf.afterSave + 1) = .ok ∧ a.env.err (pf.afterSave + 4) = .ok
  | .updateAp _ _ => True

/-- The driver accepts what lies between a stop and the start after it: the mode,
and in `wifi_manager_connect_sta` the configuration of the station. -/
def RestartAccepted (pf : Platform) (board : Board) (a : WifiAction) : Prop :=
  match a.request with
  | .connectSta ssid password => staRefused ssid password = false → board.wifi.mode ≠ .apSta →
      a.env.err (pf.afterSave + 1) = .ok ∧ a.env.err (pf.afterSave + 3) = .ok
  | .disconnectSta => a.env.err (pf.afterSave + 2) = .ok
  | .updateAp _ _ => True

section

variable {pf : Platform}

/-- A device that believes in AP+STA mode has to be in it. -/
theorem canJoin_iff (pf : Platform) (board : Board) : board.CanJoin pf ↔
    (board.wifi.mode = .apSta → board.wifi.driverStarted = true ∧ board.wifi.driverMode ≠ .ap) := by
  refine ⟨fun h hmode => ?_, fun h env ssid password hok hargs => ?_⟩
  · let ssid : CText := ⟨cstr "n", by decide⟩
    obtain ⟨w, hrun, hstarted, hdriver, -⟩ := h (demoEnv 0 []) ssid ssid (fun _ => rfl) (by decide)
    have hargs : staRefused ssid ssid = false := by decide
    obtain ⟨err, wifi, calls, hrun', hcase⟩ := connectSta_cases pf (demoEnv 0 []) board hargs rfl
    cases hrun.symm.trans hrun'
    change wifi.driverStarted = true at hstarted
    change wifi.driverMode ≠ .ap at hdriver
    cases hcase with
    | kept _ hconf => exact absurd rfl hconf
    | joining => exact ⟨hstarted, hdriver⟩
    | noMode hmode' => exact absurd hmode hmode'
    | noConfig hmode' => exact absurd hmode hmode'
    | started hmode' => exact absurd hmode hmode'
  · obtain ⟨err, wifi, calls, hrun, hcase⟩ := connectSta_cases pf env board hargs (hok 0)
    cases hcase with
    | kept _ hconf => exact absurd (hok _) hconf
    | joining hmode =>
        obtain ⟨hstarted, hdriver⟩ := h hmode
        rw [hok, if_neg (by decide)] at hrun
        exact ⟨_, hrun, hstarted, hdriver, rfl⟩
    | noMode _ hset => exact absurd (hok _) hset
    | noConfig _ _ hconf => exact absurd (hok _) hconf
    | started =>
        have hfields := board.wifi.enteredApSta_fields (hok pf.afterSave)
          (storedApConfig pf board.config)
        rw [hok] at hrun
        refine ⟨_, hrun, rfl, ?_, rfl⟩
        show (board.wifi.enteredApSta env _ _).driverMode ≠ .ap
        rw [hfields.1]
        decide

/-- On the air, and able to join a network later. -/
def Board.Reachable (pf : Platform) (board : Board) : Prop := board.OnAir ∧ board.CanJoin pf

/-- Only the driver and the mode matter. -/
theorem Board.Reachable.congr {board board' : Board} (h : board.Reachable pf)
    (hmode : board'.wifi.mode = board.wifi.mode)
    (hstarted : board'.wifi.driverStarted = board.wifi.driverStarted)
    (hdriver : board'.wifi.driverMode = board.wifi.driverMode)
    (hssid : board.wifi.staConfig.ssid ≠ [] → board'.wifi.staConfig.ssid ≠ []) :
    board'.Reachable pf := by
  refine ⟨⟨hstarted.trans h.1.1, ?_⟩, (canJoin_iff pf board').mpr fun hapSta => ?_⟩
  · rw [hdriver]
    exact h.1.2.imp_right fun hsta => ⟨hsta.1, hssid hsta.2⟩
  · rw [hstarted, hdriver]
    exact (canJoin_iff pf board).mp h.2 (hmode ▸ hapSta)

/-- A driver that is off can not be reached. -/
theorem not_reachable_of_stopped {board : Board} (h : board.wifi.driverStarted = false) :
    ¬board.Reachable pf := by
  intro hreachable
  have hstarted := hreachable.1.1
  rw [h] at hstarted
  cases hstarted

/-- A driver started with its access point is reachable if it is in AP+STA mode
wherever the manager believes so. -/
theorem reachable_of_started {board : Board} (hstarted : board.wifi.driverStarted = true)
    (hsta : board.wifi.driverMode ≠ .sta)
    (hmode : board.wifi.mode = .apSta → board.wifi.driverMode ≠ .ap) : board.Reachable pf :=
  ⟨⟨hstarted, .inl hsta⟩, (canJoin_iff pf board).mpr fun hapSta => ⟨hstarted, hmode hapSta⟩⟩

/-- The name of a network that is not refused is not empty. -/
theorem joinConfig_ssid {ssid password : CString} (hargs : staRefused ssid password = false) :
    (joinConfig ssid password).ssid ≠ [] := by
  intro hempty
  have hlen : 0 < ssid.length := by
    simp only [staRefused, Bool.or_eq_false_iff, decide_eq_false_iff_not, not_or] at hargs
    omega
  have htake := congrArg List.length hempty
  simp only [joinConfig, List.length_take, List.length_nil] at htake
  omega

theorem connect_step {env : Env} {n : ℕ} {apConf : ApConfig} {ssid password : CString}
    {board board' : Board} {err : EspErr} {calls : List WifiCall} (h : board.Reachable pf)
    (hargs : staRefused ssid password = false)
    (hrestarts : board.wifi.mode ≠ .apSta → env.err n = .ok ∧ env.err (n + 4) = .ok)
    (hcase : ConnectCase env n apConf (joinConfig ssid password) board.wifi err board'.wifi calls) :
    board'.Reachable pf ↔
      (board.wifi.mode ≠ .apSta → env.err (n + 1) = .ok ∧ env.err (n + 3) = .ok) := by
  generalize hwifi : board'.wifi = wifi at hcase
  cases hcase with
  | kept hmode =>
      refine iff_of_true (h.congr ?_ ?_ ?_ ?_) fun hne => absurd hmode hne <;> rw [hwifi]
      exact id
  | joining hmode =>
      refine iff_of_true (h.congr ?_ ?_ ?_ ?_) fun hne => absurd hmode hne <;> rw [hwifi]
      · rfl
      · rfl
      · rfl
      · exact fun _ => joinConfig_ssid hargs
  -- the driver was stopped for the change of mode; a call that fails leaves it so
  | noMode hmode hset =>
      refine iff_of_false (not_reachable_of_stopped ?_) fun hall => hset (hall hmode).1
      rw [hwifi, Wifi.answered_ok (hrestarts hmode).1]
      rfl
  | noConfig hmode hset hconf =>
      refine iff_of_false (not_reachable_of_stopped ?_) fun hall => hconf (hall hmode).2
      rw [hwifi]
      exact (board.wifi.enteredApSta_fields (hrestarts hmode).1 apConf).2.2
  | started hmode hset hconf =>
      obtain ⟨hdriver, -, -⟩ := board.wifi.enteredApSta_fields (hrestarts hmode).1 apConf
      have hdriver' : board'.wifi.driverMode = .apsta := by
        rw [hwifi, Wifi.answered_ok (hrestarts hmode).2]
        exact hdriver
      refine iff_of_true (reachable_of_started ?_ ?_ fun _ => ?_) fun _ => ⟨hset, hconf⟩
      · rw [hwifi, Wifi.answered_ok (hrestarts hmode).2]
        rfl
      · rw [hdriver']
        decide
      · rw [hdriver']
        decide

theorem disconnect_step {env : Env} {n : ℕ} {apConf : ApConfig} {board board' : Board}
    {err : EspErr} {calls : List WifiCall}
    (hrestarts : env.err (n + 1) = .ok ∧ env.err (n + 4) = .ok)
    (hcase : DisconnectCase env n apConf board.wifi err board'.wifi calls) :
    board'.Reachable pf ↔ env.err (n + 2) = .ok := by
  generalize hwifi : board'.wifi = wifi at hcase
  cases hcase with
  | noMode hset =>
      refine iff_of_false (not_reachable_of_stopped ?_) hset
      rw [hwifi, Wifi.answered_ok hrestarts.1]
      rfl
  | started hset =>
      have hfields : board'.wifi.driverStarted = true ∧ board'.wifi.driverMode = .ap ∧
          board'.wifi.mode = .ap := by
        rw [hwifi, Wifi.answered_ok hrestarts.2]
        unfold Wifi.answered
        split <;> exact ⟨rfl, rfl, rfl⟩
      refine iff_of_true (reachable_of_started hfields.1 ?_ fun hapSta => ?_) hset
      · rw [hfields.2.1]
        decide
      · cases hfields.2.2.symm.trans hapSta

/-- What one request keeps. -/
theorem reachable_step {board board' : Board} {a : WifiAction} {es : List EspErr}
    (hrestarts : Restarts pf board a) (h : board.Reachable pf)
    (hstep : (wifiMachine pf).step board a = some (board', es)) :
    board'.Reachable pf ↔ RestartAccepted pf board a := by
  obtain ⟨env, request⟩ := a
  obtain ⟨err, w, hrun, rfl⟩ : ∃ err w, request.run pf env board.start = .ok err w ∧
      w.state = board' := by
    cases hrun : request.run pf env board.start with
    | ok err w =>
        simp only [wifiMachine, hrun, Option.some.injEq, Prod.mk.injEq] at hstep
        exact ⟨err, w, rfl, hstep.1⟩
    | error stop w =>
        simp only [wifiMachine, hrun] at hstep
        cases hstep
  obtain ⟨result, hresult, hspec⟩ := request.run_spec pf env board
  obtain rfl := hrun.symm.trans hresult
  cases hspec with
  | refused hargs =>
      cases request with
      | connectSta ssid password =>
          exact iff_of_true h fun haccepted => by cases hargs.symm.trans haccepted
      | _ => cases hargs
  | connectSta hargs hopened hcase =>
      exact (connect_step h hargs hrestarts hcase).trans
        ⟨fun hset _ => hset, fun hset => hset hargs⟩
  | disconnectSta hopened hcase => exact disconnect_step hrestarts hcase
  | updateAp hopened hcase =>
      refine iff_of_true ?_ trivial
      cases hcase with
      | unsaved => exact h.congr rfl rfl rfl id
      | applied =>
          unfold afterCalls Wifi.answered
          split
          · exact h.congr rfl rfl rfl id
          · exact h.congr rfl rfl rfl id

theorem Board.Running.reachable {board : Board} (h : board.Running) : board.Reachable pf := by
  refine ⟨⟨h.started, ?_⟩, (canJoin_iff pf board).mpr fun hmode => ⟨h.started, ?_⟩⟩
  · cases hmode : board.wifi.mode with
    | ap => exact .inl (h.ap hmode)
    | apSta =>
        rw [h.apSta hmode]
        exact .inl (by decide)
    | sta =>
        rw [(h.sta hmode).1]
        exact .inr ⟨by decide, (h.sta hmode).2⟩
  · rw [h.apSta hmode]
    decide

/-- Over every sequence of requests to a running driver, the device can be reached and
can join a network after each of them exactly if the driver accepts everything that
lies between a stop and the start after it. -/
theorem stays_reachable_iff {s t : Board} {as : List WifiAction} {es : List EspErr}
    (hs : s.Running) (h : (wifiMachine pf).Run s as es t)
    (hrestarts : ∀ u a, (wifiMachine pf).Takes s as u a → Restarts pf u a) :
    (∀ u, (wifiMachine pf).Visits s as u → u.OnAir ∧ u.CanJoin pf) ↔
      ∀ u a, (wifiMachine pf).Takes s as u a → RestartAccepted pf u a :=
  h.visits_iff (I := Board.Reachable pf) hrestarts hs.reachable
    fun _ _ _ _ hrestarts' hreachable hstep => reachable_step hrestarts' hreachable hstep

end

/-- A device on the air as an access point. -/
def demoBoard : Board := demoSystem.device.board

theorem demoBoard_running : demoBoard.Running :=
  ⟨rfl, fun _ => by decide, fun hmode => (by cases hmode), fun hmode => by cases hmode⟩

/-- `wifi_manager_connect_sta("attic", "attic-pass")`, where the call of question `n` fails. -/
def demoConnect (n : ℕ) : WifiAction :=
  ⟨demoLossyEnv n, .connectSta demoNetwork demoNetworkPassword⟩

/-- `wifi_manager_disconnect_sta()` -/
def demoDisconnect : WifiAction := ⟨demoEnv 0 [], .disconnectSta⟩

/-- Joining a network and leaving it again. -/
theorem stays_reachable_rejoin :
    ∃ t es, (wifiMachine (demoPlatform [])).Run demoBoard [demoConnect 100, demoDisconnect] es t ∧
      es = [.ok, .ok] ∧
      ∀ u, (wifiMachine (demoPlatform [])).Visits demoBoard [demoConnect 100, demoDisconnect] u →
        u.OnAir ∧ u.CanJoin (demoPlatform []) := by
  obtain ⟨t, es, hrun, hes⟩ := Machine.Run.exists_of_exec
    (M := wifiMachine (demoPlatform [])) (s := demoBoard)
      (p := fun _ es => decide (es = [.ok, .ok]))
    (show ((wifiMachine (demoPlatform [])).exec demoBoard [demoConnect 100, demoDisconnect]).any
      (fun r => _) = true by decide +kernel)
  have hsteps : ∀ u a, (wifiMachine (demoPlatform [])).Takes demoBoard
      [demoConnect 100, demoDisconnect] u a → a = demoConnect 100 ∨ a = demoDisconnect := by
    intro u a htakes
    obtain ⟨bs, cs, -, hsplit, -⟩ := htakes
    have ha : a ∈ [demoConnect 100, demoDisconnect] := hsplit ▸ by simp
    simpa using ha
  refine ⟨t, es, hrun, of_decide_eq_true hes,
    (stays_reachable_iff demoBoard_running hrun fun u a htakes => ?_).mpr fun u a htakes => ?_⟩
  · rcases hsteps u a htakes with rfl | rfl
    · exact fun _ => by decide
    · exact ⟨rfl, rfl⟩
  · rcases hsteps u a htakes with rfl | rfl
    · exact fun _ _ => by decide
    · exact (rfl : EspErr.ok = .ok)

/-- A network the driver rejects leaves a device that was an access point off the air. -/
theorem stays_reachable_rejected :
    ¬∀ (s t : Board) (as : List WifiAction) (es : List EspErr), s.Running →
      (wifiMachine (demoPlatform [])).Run s as es t →
      (∀ u a, (wifiMachine (demoPlatform [])).Takes s as u a → Restarts (demoPlatform []) u a) →
      ∀ u, (wifiMachine (demoPlatform [])).Visits s as u → u.OnAir ∧
        u.CanJoin (demoPlatform []) := by
  intro hclaim
  -- the fourth question after the save is the configuration of the station
  obtain ⟨t, es, hrun, hstopped⟩ := Machine.Run.exists_of_exec
    (M := wifiMachine (demoPlatform [])) (s := demoBoard)
    (p := fun t _ => !t.wifi.driverStarted)
    (show ((wifiMachine (demoPlatform [])).exec demoBoard [demoConnect 19]).any
      (fun r => _) = true by
      decide +kernel)
  have hreachable := hclaim demoBoard t _ es demoBoard_running hrun
    (fun u a htakes => by
      obtain ⟨-, rfl⟩ := htakes.single
      exact fun _ => by decide) t ⟨_, [], es, (List.append_nil _).symm, hrun⟩
  have hstarted := hreachable.1.1
  simp [hstarted] at hstopped

end WebTerminal
