import WebTerminal.Server.ConfigPost
import WebTerminal.Server.Peripherals

/-!
# What the board procedures leave alone

Every procedure over the board but `config_set_auth` leaves the credentials
alone, whatever its environment answers.  One lemma for each procedure that works
on the settings or the radio; the others leave more alone.
-/

set_option autoImplicit false

namespace WebTerminal

open Proc

/-- The credentials are left alone.  Their stored copy is as before or holds the
credentials in effect. -/
structure KeepsCredentials (board : Board) (es : List Effect) (board' : Board) : Prop where
  config : board.config.SameCredentials board'.config
  stored : ∀ key : NvsKey, key.ofCredentials = true →
    board'.nvs key = board.nvs key ∨ board'.nvs key = some (board.config.saved key)

theorem keepsCredentials_of_eq {board board' : Board} {es : List Effect}
    (hconf : board'.config = board.config) (hnvs : board'.nvs = board.nvs) :
    KeepsCredentials board es board' :=
  ⟨hconf ▸ .refl board.config, fun _ _ => .inl (by rw [hnvs])⟩

theorem keepsCredentials_composes : Composes KeepsCredentials where
  refl board := keepsCredentials_of_eq rfl rfl
  trans h h' := by
    refine ⟨h.config.trans h'.config, fun key hkey => ?_⟩
    rcases h'.stored key hkey with hstored | hstored
    · rw [hstored]
      exact h.stored key hkey
    · rw [hstored, h.config.saved hkey]
      exact .inr rfl

/-- A procedure that leaves the credentials alone. -/
abbrev Keeps {α : Type} (m : BoardM α) : Prop := Does KeepsCredentials m

theorem Peripheral.keeps {α : Type} {m : BoardM α} (h : Peripheral m) : Keeps m :=
  h.mono fun _ _ _ honly => keepsCredentials_of_eq honly.config honly.nvs

namespace Keeps

variable {α β : Type}

theorem pure (a : α) : Keeps (pure a : BoardM α) := does_pure keepsCredentials_composes a

theorem read (f : Board → α) : Keeps (Proc.read f) := does_read keepsCredentials_composes f

theorem ask (answer : ℕ → α) : Keeps (Proc.ask answer) := does_ask keepsCredentials_composes answer

theorem stop (r : Stop) : Keeps (Proc.stop r : BoardM α) := does_stop keepsCredentials_composes r

theorem emit (e : Effect) : Keeps (Proc.emit e) :=
  does_emit fun _ => keepsCredentials_of_eq rfl rfl

theorem update {f : Board → Board}
    (h : ∀ board : Board, (f board).config = board.config ∧ (f board).nvs = board.nvs) :
    Keeps (Proc.update f) :=
  does_update fun board => keepsCredentials_of_eq (h board).1 (h board).2

theorem bind {m : BoardM α} {f : α → BoardM β} (hm : Keeps m) (hf : ∀ a, Keeps (f a)) :
    Keeps (m >>= f) := Does.bind keepsCredentials_composes hm hf

theorem ite {p : Prop} [Decidable p] {m n : BoardM α} (hm : Keeps m) (hn : Keeps n) :
    Keeps (if p then m else n) := Does.ite (fun _ => hm) fun _ => hn

theorem onlyIf {p : Prop} [Decidable p] {m : BoardM α} (hm : Keeps m) :
    Keeps (Proc.onlyIf p m) := Does.onlyIf keepsCredentials_composes hm

theorem sendJsonError (status : ℕ) (message : String) :
    Keeps (sendJsonError status message : BoardM α) := stop _

theorem rejectIf (p : Prop) [Decidable p] (status : ℕ) (message : String) :
    Keeps (rejectIf p status message) := ite (sendJsonError status message) (pure ())

end Keeps

section

variable (pf : Platform) (env : Env) (req : Request) (json : CJson)

/-! ## config.c -/

theorem configSet_keeps {edit : AppConfig → AppConfig}
    (h : ∀ conf : AppConfig, conf.SameCredentials (edit conf)) : Keeps (configSet pf env edit) := by
  refine (configSet_does pf env edit).mono fun board es board' hsaved => ⟨?_, fun key hkey => ?_⟩
  · rw [hsaved.rest]
    exact h board.config
  · refine (hsaved.keys key).imp id fun hstored => hstored.trans (congrArg some ?_)
    exact (h board.config).saved hkey

theorem configSetWifiSta_keeps (ssid password : CString) :
    Keeps (configSetWifiSta pf env ssid password) :=
  configSet_keeps pf env fun _ => ⟨rfl, rfl, rfl, rfl, rfl⟩

theorem configSetWifiAp_keeps (ssid password : CString) :
    Keeps (configSetWifiAp pf env ssid password) :=
  configSet_keeps pf env fun _ => ⟨rfl, rfl, rfl, rfl, rfl⟩

theorem configSetBaudRatePort_keeps (port : ℤ) (baudRate : UInt32) :
    Keeps (configSetBaudRatePort pf env port baudRate) :=
  .ite (.pure _) (configSet_keeps pf env fun _ => ⟨rfl, rfl, rfl, rfl, rfl⟩)

theorem configSetPowerOnDefault_keeps (powerOn : Bool) :
    Keeps (configSetPowerOnDefault pf env powerOn) :=
  configSet_keeps pf env fun _ => ⟨rfl, rfl, rfl, rfl, rfl⟩

theorem configSetDeviceName_keeps (name : CString) : Keeps (configSetDeviceName pf env name) :=
  configSet_keeps pf env fun _ => ⟨rfl, rfl, rfl, rfl, rfl⟩

theorem configSetNtpServer_keeps (server : CString) : Keeps (configSetNtpServer pf env server) :=
  configSet_keeps pf env fun _ => ⟨rfl, rfl, rfl, rfl, rfl⟩

theorem configSetTimezone_keeps (tz : CString) : Keeps (configSetTimezone pf env tz) :=
  configSet_keeps pf env fun _ => ⟨rfl, rfl, rfl, rfl, rfl⟩

/-! ## serial_port.c -/

theorem uartBridgeSetBaudRate_keeps (baudRate : UInt32) :
    Keeps (uartBridgeSetBaudRate env baudRate) := by
  refine (Keeps.emit _).bind fun _ => (Keeps.ask _).bind fun err =>
    .bind (.update ?_) fun _ => .pure _
  intro board
  split <;> exact ⟨rfl, rfl⟩

theorem usbCdcSetBaudRate_keeps (baudRate : UInt32) : Keeps (usbCdcSetBaudRate env baudRate) := by
  refine (Keeps.read _).bind fun serial => .ite (.pure _) ?_
  refine .bind (.update fun _ => ⟨rfl, rfl⟩) fun _ => .ite ?_ (.pure _)
  refine (Keeps.emit _).bind fun _ => (Keeps.ask _).bind fun err => ?_
  exact .ite (.bind (.update fun _ => ⟨rfl, rfl⟩) fun _ => .pure _) (.pure _)

theorem serialPortSetBaudRate_keeps (port : ℤ) (baudRate : UInt32) :
    Keeps (serialPortSetBaudRate pf env port baudRate) :=
  .ite (.pure _)
    (.ite (uartBridgeSetBaudRate_keeps env baudRate) (usbCdcSetBaudRate_keeps env baudRate))

/-! ## wifi_manager.c -/

theorem wifiUpdate_keeps (edit : Wifi → Wifi) : Keeps (wifiUpdate edit) :=
  .update fun _ => ⟨rfl, rfl⟩

theorem wifiCall_keeps (call : WifiCall) : Keeps (wifiCall env call) :=
  (Keeps.emit _).bind fun _ => (Keeps.ask _).bind fun _ =>
    (wifiUpdate_keeps _).bind fun _ => .pure _

theorem startStoredAp_keeps : Keeps (startStoredAp pf env) :=
  (Keeps.read _).bind fun _ => wifiCall_keeps env _

theorem wifiManagerUpdateHostname_keeps (deviceName : CString) :
    Keeps (wifiManagerUpdateHostname env deviceName) :=
  (wifiCall_keeps env _).bind fun _ => (wifiCall_keeps env _).bind fun _ =>
    (wifiCall_keeps env _).bind fun _ => .pure _

theorem enterApSta_keeps (wasRunning : Bool) : Keeps (enterApSta pf env wasRunning) := by
  refine .ite (.pure _) ((wifiCall_keeps env _).bind fun _ => ?_)
  refine (wifiCall_keeps env _).bind fun err => .ite (.pure _) ?_
  exact (wifiUpdate_keeps _).bind fun _ => (startStoredAp_keeps pf env).bind fun _ => .pure _

theorem joinNetwork_keeps (wasRunning : Bool) (ssid password : CString) :
    Keeps (joinNetwork env wasRunning ssid password) := by
  refine (wifiCall_keeps env _).bind fun err => .ite (.pure _) ?_
  refine (wifiUpdate_keeps _).bind fun _ => .ite ?_ (wifiCall_keeps env _)
  exact (wifiCall_keeps env _).bind fun _ => .pure _

theorem wifiManagerConnectSta_keeps (ssid password : CString) :
    Keeps (wifiManagerConnectSta pf env ssid password) := by
  refine .ite (.pure _) ((configSetWifiSta_keeps pf env ssid password).bind fun _ => ?_)
  refine (Keeps.read _).bind fun wifi => (enterApSta_keeps pf env _).bind fun err => ?_
  exact .ite (.pure _) (joinNetwork_keeps env _ ssid password)

theorem wifiManagerDisconnectSta_keeps : Keeps (wifiManagerDisconnectSta pf env) := by
  refine (wifiUpdate_keeps _).bind fun _ => (configSetWifiSta_keeps pf env [] []).bind fun _ => ?_
  refine (wifiCall_keeps env _).bind fun _ => (wifiCall_keeps env _).bind fun _ => ?_
  refine (wifiCall_keeps env _).bind fun err => .ite (.pure _) ?_
  exact (wifiUpdate_keeps _).bind fun _ => (startStoredAp_keeps pf env).bind fun _ =>
    wifiCall_keeps env _

theorem wifiManagerUpdateAp_keeps (ssid password : CString) :
    Keeps (wifiManagerUpdateAp pf env ssid password) :=
  (configSetWifiAp_keeps pf env ssid password).bind fun _ =>
    .ite (.pure _) (wifiCall_keeps env _)

theorem endScan_keeps (origMode : WifiMode) : Keeps (endScan env origMode) :=
  (Keeps.onlyIf (wifiCall_keeps env _)).bind fun _ => (wifiUpdate_keeps _).bind fun _ =>
    (Keeps.read _).bind fun _ => .onlyIf (wifiCall_keeps env _)

theorem wifiManagerScan_keeps : Keeps (wifiManagerScan env) := by
  refine (wifiUpdate_keeps _).bind fun _ => (Keeps.read _).bind fun wifi => ?_
  refine (Keeps.onlyIf (wifiCall_keeps env _)).bind fun _ => ?_
  refine (Keeps.onlyIf (wifiCall_keeps env _)).bind fun _ => ?_
  refine (wifiCall_keeps env _).bind fun err => ?_
  refine .ite ((endScan_keeps env _).bind fun _ => .pure _) ?_
  refine (Keeps.ask _).bind fun records => .ite ?_ ?_
  · exact (wifiCall_keeps env _).bind fun _ => (endScan_keeps env _).bind fun _ => .pure _
  · refine (Keeps.ask _).bind fun apRecords => (wifiCall_keeps env _).bind fun _ => .ite ?_ ?_
    · exact (endScan_keeps env _).bind fun _ => .pure _
    · exact (Keeps.ask _).bind fun _ => (endScan_keeps env _).bind fun _ => .pure _

theorem wifiScanBody_keeps : Keeps (wifiScanBody env) := by
  refine (wifiManagerScan_keeps env).bind fun results => ?_
  cases results with
  | none => exact .sendJsonError _ _
  | some results => exact .pure _

/-! ## The settings -/

theorem setBaudRate_keeps : Keeps (setBaudRate pf env json) := by
  unfold setBaudRate
  split
  next => exact .pure _
  next => exact .onlyIf ((configSetBaudRatePort_keeps pf env _ _).bind fun _ =>
    serialPortSetBaudRate_keeps pf env _ _)

theorem setAp_keeps : Keeps (setAp pf env json) := by
  unfold setAp
  split
  next =>
    refine (Keeps.rejectIf _ _ _).bind fun _ => (Keeps.rejectIf _ _ _).bind fun _ => ?_
    exact (wifiManagerUpdateAp_keeps pf env _ _).bind fun _ => .rejectIf _ _ _
  next => exact .pure _

theorem setSta_keeps : Keeps (setSta pf env json) := by
  unfold setSta
  split
  next => exact (wifiManagerConnectSta_keeps pf env _ _).bind fun _ => .rejectIf _ _ _
  next => exact .pure _

theorem setPowerDefault_keeps : Keeps (setPowerDefault pf env json) := by
  unfold setPowerDefault
  split
  next => exact (configSetPowerOnDefault_keeps pf env _).bind fun _ => .pure _
  next => exact .pure _

theorem setDeviceName_keeps : Keeps (setDeviceName pf env json) := by
  unfold setDeviceName
  split
  next => exact .onlyIf ((configSetDeviceName_keeps pf env _).bind fun _ =>
    wifiManagerUpdateHostname_keeps env _)
  next => exact .pure _

theorem setNtpServer_keeps : Keeps (setNtpServer pf env json) := by
  unfold setNtpServer
  split
  next => exact (configSetNtpServer_keeps pf env _).bind fun _ => .pure _
  next => exact .pure _

theorem setTimezone_keeps : Keeps (setTimezone pf env json) := by
  unfold setTimezone
  split
  next => exact (configSetTimezone_keeps pf env _).bind fun _ =>
    .update fun _ => ⟨rfl, rfl⟩
  next => exact .pure _

theorem disconnectSta_keeps : Keeps (disconnectSta pf env json) :=
  .ite ((wifiManagerDisconnectSta_keeps pf env).bind fun _ => .rejectIf _ _ _) (.pure _)

theorem settings_keeps : ∀ stage ∈ settings pf env json, Keeps stage := by
  intro stage hstage
  simp only [settings, List.mem_cons, List.not_mem_nil, or_false] at hstage
  rcases hstage with rfl | rfl | rfl | rfl | rfl | rfl | rfl | rfl
  · exact setBaudRate_keeps pf env json
  · exact setAp_keeps pf env json
  · exact setSta_keeps pf env json
  · exact setPowerDefault_keeps pf env json
  · exact setDeviceName_keeps pf env json
  · exact setNtpServer_keeps pf env json
  · exact setTimezone_keeps pf env json
  · exact disconnectSta_keeps pf env json

/-- A part of the settings leaves the credentials alone. -/
theorem forM_keeps {stages : List (BoardM Unit)} (h : ∀ stage ∈ stages, Keeps stage) :
    Keeps (stages.forM id) := by
  induction stages with
  | nil => exact .pure _
  | cons stage stages ih =>
      exact (h stage (by simp)).bind fun _ => ih fun stage hstage => h stage (by simp [hstage])

theorem applySettings_keeps : Keeps (applySettings pf env json) :=
  forM_keeps (settings_keeps pf env json)

end

end WebTerminal
