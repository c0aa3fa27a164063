import WebTerminal.Store.SetupLock
import WebTerminal.Wifi.Requests

/-!
# Rejected networks

Names and passwords are stored before the driver has seen them, and nothing puts
the old ones back.  So a request that ends in an error has kept the networks
exactly if it got no further than the check of its arguments, or asked for the
networks that were stored already.
-/

set_option autoImplicit false

namespace WebTerminal

/-- The keys that hold names and passwords of networks. -/
def networkKeys : List NvsKey := [.staSsid, .staPass, .apSsid, .apPass]

/-- What a reboot reads under a key. -/
def Board.reads (pf : Platform) (board : Board) (key : NvsKey) : NvsValue :=
  (AppConfig.zero.stored pf.target.serialPortMax board.nvs).saved key

/-- The same networks, in `s_config` and for a reboot. -/
structure SameNetworks (pf : Platform) (before after : Board) : Prop where
  memory : ∀ key ∈ networkKeys, after.config.saved key = before.config.saved key
  flash : ∀ key ∈ networkKeys, after.reads pf key = before.reads pf key

/-- A request that ends in an error leaves the networks as they were. -/
def ErrorKeepsNetworks (pf : Platform) (env : Env) (request : WifiRequest) (board : Board) : Prop :=
  ∀ err w, request.run pf env board.start = .ok err w → err ≠ .ok → SameNetworks pf board w.state

/-- Every answer the request looks at is favourable. -/
def WifiRequest.Accepted (pf : Platform) (env : Env) (mode : WifiManagerMode) : WifiRequest → Prop
  | connectSta _ _ =>
      if mode = .apSta then env.err pf.afterSave = .ok ∧
        (env.err (pf.afterSave + 1) = .ok ∨ env.err (pf.afterSave + 1) = .wifiConn)
      else env.err (pf.afterSave + 1) = .ok ∧ env.err (pf.afterSave + 3) = .ok ∧
        env.err (pf.afterSave + 4) = .ok
  | disconnectSta => env.err (pf.afterSave + 2) = .ok ∧ env.err (pf.afterSave + 4) = .ok
  | updateAp _ _ => env.err pf.commitQuestion = .ok ∧ env.err (pf.commitQuestion + 1) = .ok

/-- The request asks for the networks in `s_config`, and what it writes of them to
flash is there already. -/
def WifiRequest.Restores (pf : Platform) (env : Env) (request : WifiRequest)
    (board : Board) : Prop :=
  ∀ key ∈ networkKeys,
    (request.configCall.edited pf env board.config).saved key = board.config.saved key ∧
      (request.configCall.took pf env key = true → board.reads pf key = board.config.saved key)

section

variable {pf : Platform} {env : Env}

theorem SameNetworks.refl (pf : Platform) (board : Board) : SameNetworks pf board board :=
  ⟨fun _ _ => rfl, fun _ _ => rfl⟩

/-- How a request that is not refused ends, where flash opens. -/
theorem WifiRequest.run_cases (pf : Platform) (env : Env) {request : WifiRequest} (board : Board)
    (hargs : request.refused = false) (hopened : env.err 0 = .ok) :
    ∃ err wifi calls, request.run pf env board.start =
        .ok err (afterCalls calls wifi (request.savedWorld pf env board)) ∧
      (err = .ok ↔ request.Accepted pf env board.wifi.mode) := by
  cases request with
  | connectSta ssid password =>
      obtain ⟨err, wifi, calls, hrun, hcase⟩ := connectSta_cases pf env board hargs hopened
      refine ⟨err, wifi, calls, hrun, ?_⟩
      cases hcase with
      | kept hmode hconf => simp [Accepted, hmode, hconf]
      | joining hmode hconf =>
          by_cases hjoining : env.err (pf.afterSave + 1) = .wifiConn
          · simp [Accepted, hmode, hconf, hjoining]
          · simp [Accepted, hmode, hconf, hjoining]
      | noMode hmode hset => simp [Accepted, hmode, hset]
      | noConfig hmode hset hconf => simp [Accepted, hmode, hset, hconf]
      | started hmode hset hconf => simp [Accepted, hmode, hset, hconf]
  | disconnectSta =>
      obtain ⟨err, wifi, calls, hrun, hcase⟩ := disconnectSta_cases pf env board hopened
      refine ⟨err, wifi, calls, hrun, ?_⟩
      cases hcase with
      | noMode hset => simp [Accepted, hset]
      | started hset => simp [Accepted, hset]
  | updateAp ssid password =>
      obtain ⟨err, wifi, calls, hrun, hcase⟩ := updateAp_cases pf env ssid password board hopened
      refine ⟨err, wifi, calls, hrun, ?_⟩
      cases hcase with
      | unsaved hcommit => simp [Accepted, hcommit]
      | applied hcommit => simp [Accepted, hcommit]

/-- What a reboot reads after a save. -/
theorem reads_saved {board : Board} {call : ConfigCall} (hwf : board.config.WellFormed)
    {key : NvsKey} (hkey : key ∈ networkKeys) :
    (call.saved pf env board).reads pf key =
      if call.took pf env key then (call.edited pf env board.config).saved key
      else board.reads pf key := by
  have hsaved : key ∈ savedKeys pf.target.serialPortMax := by
    refine AppConfig.mem_savedKeys.mpr fun port heq => ?_
    subst heq
    simp [networkKeys] at hkey
  cases htook : call.took pf env key with
  | true =>
      exact AppConfig.saved_stored_of_saved AppConfig.wellFormed_zero
        (ConfigCall.edited_wellFormed hwf) hsaved (Overlay.overlay_of_written htook)
  | false => exact AppConfig.saved_stored_congr (Overlay.overlay_of_lost htook)

/-- A save keeps the networks exactly if it restores them. -/
theorem sameNetworks_saved_iff {board : Board} {request : WifiRequest}
    (hwf : board.config.WellFormed) (wifi : Wifi) :
    SameNetworks pf board { request.configCall.saved pf env board with wifi := wifi } ↔
      request.Restores pf env board := by
  have hreads : ∀ key ∈ networkKeys,
      Board.reads pf { request.configCall.saved pf env board with wifi := wifi } key = _ :=
    fun key hkey => reads_saved hwf hkey
  refine ⟨fun h key hkey => ⟨h.memory key hkey, fun htook => ?_⟩, fun h => ⟨fun key hkey => ?_,
    fun key hkey => ?_⟩⟩
  · have hflash := h.flash key hkey
    rw [hreads key hkey, if_pos htook] at hflash
    exact hflash.symm.trans (h.memory key hkey)
  · exact (h key hkey).1
  · rw [hreads key hkey]
    split
    next htook => exact (h key hkey).1.trans ((h key hkey).2 htook).symm
    next => rfl

theorem errorKeepsNetworks_iff (pf : Platform) (env : Env) (board : Board)
    (hwf : board.config.WellFormed) (request : WifiRequest) :
    ErrorKeepsNetworks pf env request board ↔
      (request.refused = false → env.err 0 = .ok →
        request.Accepted pf env board.wifi.mode ∨ request.Restores pf env board) := by
  cases hargs : request.refused with
  | true =>
      refine ⟨fun _ hnot => absurd hnot (by simp), fun _ err w hrun _ => ?_⟩
      cases request with
      | connectSta ssid password =>
          cases (connectSta_refused board hargs).symm.trans hrun
          exact .refl pf board
      | _ => cases hargs
  | false =>
      by_cases hopened : env.err 0 = .ok
      · obtain ⟨err, wifi, calls, hrun, herr⟩ := request.run_cases pf env board hargs hopened
        have hkeeps : ErrorKeepsNetworks pf env request board ↔ (err ≠ .ok →
            SameNetworks pf board { request.configCall.saved pf env board with wifi := wifi }) := by
          refine ⟨fun h => h err _ hrun, fun h err' v' hrun' => ?_⟩
          cases hrun.symm.trans hrun'
          exact h
        rw [hkeeps, sameNetworks_saved_iff hwf, ne_eq, herr, ← or_iff_not_imp_left]
        simp [hopened]
      · -- the chip resets, and nothing is reported
        refine ⟨fun _ _ h => absurd h hopened, fun _ err w hrun => ?_⟩
        obtain ⟨v, hreset⟩ := request.run_closed pf env board hargs hopened
        cases hreset.symm.trans hrun

end

/-- In every reachable configuration and every state of the radio, a request that
ends in an error has kept the networks exactly if it was refused by the check of its
arguments, could not have ended in an error, or asked for the networks stored. -/
theorem error_keeps_networks_iff {pf : Platform} {s t : ConfigSystem} {as : List ConfigAction}
    {es : List Empty} (hs : s.PowerOn) (ht : (configMachine pf).Run s as es t) (wifi : Wifi)
    (env : Env) (request : WifiRequest) :
    ErrorKeepsNetworks pf env request { t.board with wifi := wifi } ↔
      (request.refused = false → env.err 0 = .ok →
        request.Accepted pf env wifi.mode ∨
          request.Restores pf env { t.board with wifi := wifi }) :=
  errorKeepsNetworks_iff pf env { t.board with wifi := wifi } (config_wellFormed hs ht) request

/-- `wifi_manager_update_ap("attic", "attic-pass")` -/
def demoUpdateAp : WifiRequest :=
  .updateAp demoNetwork demoNetworkPassword

/-- With a driver that accepts the new access point there is nothing to keep. -/
theorem error_keeps_networks_accepted :
    ∃ t, (configMachine (demoPlatform [])).Run blankConfigSystem [.init (demoEnv 0 [])] [] t ∧
      ErrorKeepsNetworks (demoPlatform []) (demoEnv 0 []) demoUpdateAp
        { t.board with wifi := demoSystem.device.board.wifi } := by
  have ht := configStep_init (demoPlatform []) blankConfigSystem
    (fun _ => rfl : (demoEnv 0 []).AllOk)
  exact ⟨_, .single ht, (error_keeps_networks_iff ⟨rfl, rfl⟩ (.single ht) _ _ _).mpr
    fun _ _ => .inl ⟨rfl, rfl⟩⟩

/-- In station mode the driver rejects the new access point, which stays stored. -/
theorem error_keeps_networks_rejected :
    ¬∀ (s t : ConfigSystem) (as : List ConfigAction) (es : List Empty) (wifi : Wifi) (env : Env)
      (request : WifiRequest), s.PowerOn → (configMachine (demoPlatform [])).Run s as es t →
      request ≠ .disconnectSta →
      ErrorKeepsNetworks (demoPlatform []) env request { t.board with wifi := wifi } := by
  intro hclaim
  obtain ⟨t, es, ht, hname⟩ := Machine.Run.exists_of_exec
    (M := configMachine (demoPlatform [])) (s := blankConfigSystem)
    (p := fun t _ => t.board.config.apSsid == configDefaultApSsid)
    (show ((configMachine (demoPlatform [])).exec blankConfigSystem [.init (demoEnv 0 [])]).any
      (fun r => _) = true by decide +kernel)
  have hwf : t.board.config.WellFormed := config_wellFormed ⟨rfl, rfl⟩ ht
  -- the question after the commit is the one of `esp_wifi_set_config`
  have hiff := errorKeepsNetworks_iff (demoPlatform []) (demoLossyEnv 16)
    { t.board with wifi := { demoSystem.device.board.wifi with mode := .sta, driverMode := .sta } }
    hwf demoUpdateAp
  have hkeeps := hiff.mp (hclaim _ _ _ _ _ _ _ ⟨rfl, rfl⟩ ht (by simp [demoUpdateAp]))
  rcases hkeeps rfl rfl with haccepted | hrestores
  · exact absurd haccepted.2 (by decide)
  · have hstored : NvsValue.str (cstr "attic") = .str t.board.config.apSsid :=
      (hrestores .apSsid (by decide)).1
    rw [beq_iff_eq.mp hname] at hstored
    exact absurd hstored (by decide)

end WebTerminal
