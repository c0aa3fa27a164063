import WebTerminal.Server.Reboot

/-!
# Settings while the device runs

Every field of `handle_config_post` keeps the device in step with its flash, and so
do the events of the WiFi manager.  Only two fields change the strings that decide
whether it comes up as it was.
-/

set_option autoImplicit false

namespace WebTerminal

open Proc

/-- The strings in a body are C strings. -/
def TextFields (json : CJson) : Prop :=
  ∀ name value, stringField json name = some value → (0 : UInt8) ∉ value

/-- Where a stage of `handle_config_post` ends, with the name and the time zone it
gives the device. -/
def Settles (pf : Platform) (name tz : Option CString) (m : BoardM Unit) : Prop :=
  ∀ service w, w.state.Synced pf service →
    (∃ stop v, m w = .error stop v ∧ v.state.Synced pf service) ∨
    ∃ v, m w = .ok () v ∧ v.state.Synced pf service ∧
      v.state.wifi.mdnsInstance = name.getD w.state.wifi.mdnsInstance ∧
        v.state.tz = tz.getD w.state.tz

section

variable {pf : Platform} {env : Env} {json : CJson} {name name' tz tz' : Option CString}
  {service : CString}

theorem settles_pure : Settles pf none none (pure () : BoardM Unit) :=
  fun _ w h => .inr ⟨w, rfl, h, rfl, rfl⟩

/-- The later value counts. -/
theorem Settles.seq {m n : BoardM Unit} (hm : Settles pf name tz m) (hn : Settles pf name' tz' n) :
    Settles pf (name'.or name) (tz'.or tz) (m >>= fun _ => n) := by
  intro service w h
  rcases hm service w h with ⟨stop, v, hrun, hv⟩ | ⟨v, hrun, hv, hname, htz⟩
  · exact .inl ⟨stop, v, bind_error hrun, hv⟩
  · rw [bind_ok hrun]
    rcases hn service v hv with hstop | ⟨u, hrun', hu, hname', htz'⟩
    · exact .inl hstop
    · refine .inr ⟨u, hrun', hu, ?_, ?_⟩
      · rw [hname', hname]
        cases name' <;> rfl
      · rw [htz', htz]
        cases tz' <;> rfl

/-- A save writes everything. -/
theorem configSet_ok (pf : Platform) (hok : env.AllOk) (edit : AppConfig → AppConfig)
    (w : World Board Effect) : ∃ n nvs, configSet pf env edit w =
        .ok .ok ⟨{ w.state with config := edit w.state.config, nvs := nvs }, n, w.shown⟩ ∧
      ∀ key ∈ savedKeys pf.target.serialPortMax,
        nvs key = some ((edit w.state.config).saved key) := by
  have hstored := saveToNvs_stored pf hok
    { w with state := { w.state with config := edit w.state.config } }
  have hrun := saveToNvs_apply pf env (w := { w with
    state := { w.state with config := edit w.state.config } }) (hok _)
  rw [final_of_ok hrun] at hstored
  rw [hok] at hrun
  exact ⟨_, _, (bind_ok (update_apply _ _)).trans hrun, hstored⟩

/-- After a save the device would read what it has just saved. -/
theorem reads_of_stored {board : Board} (hwf : board.config.WellFormed)
    (h : ∀ key ∈ savedKeys pf.target.serialPortMax, board.nvs key = some (board.config.saved key)) :
    ∀ key ∈ savedKeys pf.target.serialPortMax, key.ofCredentials = false →
      board.reads pf key = board.config.saved key :=
  fun key hkey _ => AppConfig.saved_stored_of_saved AppConfig.wellFormed_zero hwf hkey (h key hkey)

/-- A field that is stored and nothing else. -/
theorem settles_configSet (hok : env.AllOk) {edit : AppConfig → AppConfig}
    (hwf : ∀ conf : AppConfig, conf.WellFormed → (edit conf).WellFormed)
    (hname : ∀ conf, (edit conf).deviceName = conf.deviceName)
    (htz : ∀ conf, (edit conf).timezone = conf.timezone)
    (hbaud : ∀ conf, (edit conf).baudRate = conf.baudRate)
    (hap : ∀ conf, storedApConfig pf (edit conf) = storedApConfig pf conf)
    (hsta : ∀ conf, (edit conf).staSsid = conf.staSsid ∧ (edit conf).staPass = conf.staPass) :
    Settles pf none none (do
      let _ ← configSet pf env edit
      return ()) := by
  intro service w h
  obtain ⟨n, nvs, hrun, hstored⟩ := configSet_ok pf hok edit w
  have hsta' : storedStaConfig (edit w.state.config) = storedStaConfig w.state.config := by
    unfold storedStaConfig
    rw [(hsta _).1, (hsta _).2]
  refine .inr ⟨_, bind_ok hrun, ⟨hwf _ h.wellFormed, reads_of_stored (hwf _ h.wellFormed) hstored,
    h.hostname, h.mdnsHostname, h.service, (hname _).trans h.deviceName, (htz _).trans h.timezone,
    ?_, ?_, h.ap.trans (hap _).symm, ?_, ?_, h.mode⟩, rfl, rfl⟩
  · exact h.uartRate.trans (congrFun (hbaud _) 0).symm
  · exact fun hports =>
      ⟨(h.usbRate hports).1, (h.usbRate hports).2.trans (congrFun (hbaud _) 1).symm⟩
  · exact fun hnil => h.noStation ((hsta _).1 ▸ hnil)
  · exact fun hne => ⟨(h.station ((hsta _).1 ▸ hne)).1,
      (h.station ((hsta _).1 ▸ hne)).2.trans hsta'.symm⟩

theorem setPowerDefault_settles (hok : env.AllOk) (json : CJson) :
    Settles pf none none (setPowerDefault pf env json) := by
  unfold setPowerDefault
  split
  · exact settles_configSet hok (fun _ h => { h with }) (fun _ => rfl) (fun _ => rfl) (fun _ => rfl)
      (fun _ => rfl) fun _ => ⟨rfl, rfl⟩
  · exact settles_pure

theorem setNtpServer_settles (hok : env.AllOk) (hjson : TextFields json) :
    Settles pf none none (setNtpServer pf env json) := by
  unfold setNtpServer
  cases hfield : stringField json "ntp_server" with
  | none => exact settles_pure
  | some server =>
      refine settles_configSet hok (fun _ h => ?_) (fun _ => rfl) (fun _ => rfl) (fun _ => rfl)
        (fun _ => rfl) fun _ => ⟨rfl, rfl⟩
      exact { h with ntpServer := fits_strncpy (by decide) ⟨server, hjson _ _ hfield⟩ }

/-- `serial_port_set_baud_rate` with drivers that accept the rate. -/
theorem serialPortSetBaudRate_ok (rate : UInt32) (hok : env.AllOk) {port : ℤ} (h0 : 0 ≤ port)
    (hport : port < pf.target.serialPortMax) (w : World Board Effect)
    (hready : port ≠ 0 → w.state.serial.usbReady = true) :
    ∃ v serial, serialPortSetBaudRate pf env port rate w = .ok .ok v ∧
      v.state = { w.state with serial := serial } ∧ serial.usbReady = w.state.serial.usbReady ∧
        serial.uartRate = (if port = 0 then rate else w.state.serial.uartRate) ∧
          serial.usbRate = if port = 0 then w.state.serial.usbRate else rate := by
  unfold serialPortSetBaudRate
  rw [if_neg (by omega)]
  by_cases huart : port = 0
  · rw [if_pos huart]
    unfold uartBridgeSetBaudRate
    rw [bind_ok (emit_apply _ _), bind_ok (ask_apply _ _), bind_ok (update_apply _ _), hok]
    exact ⟨_, _, rfl, rfl, rfl, (if_pos huart).symm, (if_pos huart).symm⟩
  · rw [if_neg huart]
    unfold usbCdcSetBaudRate
    rw [bind_ok (read_apply _ _), if_neg (by simp [hready huart]), bind_ok (update_apply _ _)]
    by_cases hopen : w.state.serial.usbOpen = true
    · rw [if_pos hopen, bind_ok (emit_apply _ _), bind_ok (ask_apply _ _), hok]
      exact ⟨_, _, rfl, rfl, rfl, (if_neg huart).symm, (if_neg huart).symm⟩
    · rw [if_neg hopen]
      exact ⟨_, _, rfl, rfl, rfl, (if_neg huart).symm, (if_neg huart).symm⟩

/-- `baud_rate` goes to the port and to its entry. -/
theorem setBaudRate_settles (hok : env.AllOk) (json : CJson) :
    Settles pf none none (setBaudRate pf env json) := by
  have hset : ∀ (rate : UInt32) (port : ℤ), Settles pf none none
      (onlyIf (rate ∈ validBauds ∧ 0 ≤ port ∧ port < pf.target.serialPortMax) do
        let _ ← configSetBaudRatePort pf env port rate
        serialPortSetBaudRate pf env port rate) := by
    intro rate port service w h
    by_cases hport : rate ∈ validBauds ∧ 0 ≤ port ∧ port < pf.target.serialPortMax
    · obtain ⟨n, nvs, hrun, hstored⟩ := configSet_ok pf hok (.setBaudRatePort port.toNat rate) w
      have hsave : configSetBaudRatePort pf env port rate w = _ :=
        (congrFun (if_neg (by omega)) w).trans hrun
      have hports : pf.target.serialPortMax ≤ 2 := by cases pf.target <;> decide
      obtain ⟨v, serial, hserial, hv, hready, huart, husb⟩ :=
        serialPortSetBaudRate_ok rate hok hport.2.1
        hport.2.2 ⟨{ w.state with
          config := w.state.config.setBaudRatePort port.toNat rate, nvs := nvs }, n, w.shown⟩
        fun hne => (h.usbRate (by omega)).1
      have hwf : (w.state.config.setBaudRatePort port.toNat rate).WellFormed :=
        { h.wellFormed with }
      refine .inr ⟨v, onlyIf_of hport ((bind_ok hsave).trans hserial), ?_, by rw [hv]; rfl,
        by rw [hv]; rfl⟩
      rw [hv]
      refine ⟨hwf, reads_of_stored hwf hstored, h.hostname, h.mdnsHostname, h.service, h.deviceName,
        h.timezone, huart.trans ?_, fun hboth => ⟨hready.trans (h.usbRate hboth).1, husb.trans ?_⟩,
        h.ap, h.noStation, h.station, h.mode⟩
      · show _ = Function.update w.state.config.baudRate port.toNat rate 0
        split
        next hzero => simp [hzero]
        next hne =>
          rw [Function.update_of_ne (by omega)]
          exact h.uartRate
      · show _ = Function.update w.state.config.baudRate port.toNat rate 1
        split
        next hzero =>
          rw [Function.update_of_ne (by omega)]
          exact (h.usbRate hboth).2
        next hne =>
          have hone : port.toNat = 1 := by omega
          simp [hone]
    · exact .inr ⟨w, onlyIf_of_not hport, h, rfl, rfl⟩
  unfold setBaudRate
  split
  next => exact settles_pure
  next => exact hset _ _

/-- The name of the access point that is stored is the one that is applied. -/
theorem storedApConfig_setWifiAp (pf : Platform) (ssid password : CString) (conf : AppConfig)
    (hssid : ssid.length ≤ configWifiSsidMaxLen) :
    storedApConfig pf (conf.setWifiAp ssid password) =
      apConfigOf (buildApSsid pf.mac ssid) password := by
  have hpass : (strncpy (configWifiPassMaxLen + 1) password).take 64 = password.take 64 := by
    simp [strncpy, configWifiPassMaxLen, List.take_take]
  have hshort : (strncpy (configWifiPassMaxLen + 1) password).length < 8 ↔ password.length < 8 := by
    simp only [strncpy, List.length_take, configWifiPassMaxLen]
    omega
  unfold storedApConfig apConfigOf AppConfig.setWifiAp
  simp only [strncpy_eq_self (Nat.lt_succ_of_le hssid), hpass, hshort]

/-- `ap_ssid` and `ap_pass` -/
theorem setAp_settles (hok : env.AllOk) (hjson : TextFields json) :
    Settles pf none none (setAp pf env json) := by
  unfold setAp
  cases hssid : stringField json "ap_ssid" with
  | none => exact settles_pure
  | some ssid =>
  cases hpass : stringField json "ap_pass" with
  | none => exact settles_pure
  | some pass =>
  intro service w h
  by_cases hname : apSsidRefused ssid = true
  · exact .inl ⟨_, w, bind_error ((rejectIf_apply _ _ _ _).trans (if_pos hname)), h⟩
  by_cases hshort : apPassRefused pass = true
  · exact .inl ⟨_, w, (bind_ok ((rejectIf_apply _ _ _ _).trans (if_neg hname))).trans
      (bind_error ((rejectIf_apply _ _ _ _).trans (if_pos hshort))), h⟩
  have hlen : ssid.length ≤ configWifiSsidMaxLen := by
    simp only [apSsidRefused, decide_eq_true_eq] at hname
    show ssid.length ≤ 32
    omega
  obtain ⟨n, nvs, hrun, hstored⟩ := configSet_ok pf hok (.setWifiAp ssid pass) w
  have hwf : (w.state.config.setWifiAp ssid pass).WellFormed :=
    { h.wellFormed with
      apSsid := fits_strncpy (by decide) ⟨ssid, hjson _ _ hssid⟩
      apPass := fits_strncpy (by decide) ⟨pass, hjson _ _ hpass⟩ }
  refine .inr ⟨_, (bind_ok ((rejectIf_apply _ _ _ _).trans (if_neg hname))).trans
    ((bind_ok ((rejectIf_apply _ _ _ _).trans (if_neg hshort))).trans
      ((bind_ok ((bind_ok hrun).trans
        ((congrFun (if_neg (by simp)) _).trans (wifiCall_apply _ _ _)))).trans
        ((rejectIf_apply _ _ _ _).trans (if_neg (not_not.mpr (hok _)))))), ?_, ?_, ?_⟩
  · rw [Wifi.answered_ok (hok _)]
    exact ⟨hwf, reads_of_stored hwf hstored, h.hostname, h.mdnsHostname, h.service, h.deviceName,
      h.timezone, h.uartRate, h.usbRate, (storedApConfig_setWifiAp pf ssid pass _ hlen).symm,
      h.noStation, h.station, h.mode⟩
  · rw [Wifi.answered_ok (hok _)]
    rfl
  · rfl

/-- Credentials that are not refused are stored whole. -/
theorem strncpy_of_accepted {ssid password : CString} (hargs : staRefused ssid password = false) :
    ssid ≠ [] ∧ strncpy (configWifiSsidMaxLen + 1) ssid = ssid ∧
      strncpy (configWifiPassMaxLen + 1) password = password := by
  simp only [staRefused, Bool.or_eq_false_iff, decide_eq_false_iff_not, not_or] at hargs
  obtain ⟨⟨hne, hssid⟩, hpass⟩ := hargs
  exact ⟨fun hnil => hne (congrArg List.length hnil),
    strncpy_eq_self (Nat.lt_succ_of_le (not_lt.mp hssid)),
    strncpy_eq_self (Nat.lt_succ_of_le (not_lt.mp hpass))⟩

/-- The network that is stored is the one that is joined. -/
theorem storedStaConfig_setWifiSta {ssid password : CString} (conf : AppConfig)
    (hargs : staRefused ssid password = false) :
    storedStaConfig (conf.setWifiSta ssid password) = joinConfig ssid password := by
  obtain ⟨-, hssid, hpass⟩ := strncpy_of_accepted hargs
  unfold storedStaConfig AppConfig.setWifiSta
  simp only [hssid, hpass]

/-- A network that is joined runs the station. -/
theorem ConnectCase.ok {n : ℕ} {apConf : ApConfig} {conf : StaConfig} {wifi wifi' : Wifi}
    {err : EspErr} {calls : List WifiCall} (hok : env.AllOk)
    (h : ConnectCase env n apConf conf wifi err wifi' calls) :
    err = .ok ∧ wifi'.staConfig = conf ∧
      (wifi' = { wifi with
          driverMode := wifi'.driverMode, mode := wifi'.mode, driverStarted := wifi'.driverStarted
          apConfig := wifi'.apConfig, staConfig := wifi'.staConfig
          retryCount := wifi'.retryCount }) ∧
      (wifi.mode = .apSta ∧ wifi'.mode = .apSta ∧ wifi'.driverMode = wifi.driverMode ∧
          wifi'.apConfig = wifi.apConfig ∨
        wifi'.driverMode = .apsta ∧ wifi'.apConfig = apConf) := by
  cases h with
  | kept _ hconf => exact absurd (hok _) hconf
  | joining hmode =>
      rw [hok]
      exact ⟨rfl, rfl, rfl, .inl ⟨hmode, hmode, rfl, rfl⟩⟩
  | noMode _ hset => exact absurd (hok _) hset
  | noConfig _ _ hconf => exact absurd (hok _) hconf
  | started =>
      unfold Wifi.enteredApSta
      rw [hok, Wifi.answered_ok rfl, Wifi.answered_ok (hok _), Wifi.answered_ok (hok _)]
      exact ⟨rfl, rfl, rfl, .inr ⟨rfl, rfl⟩⟩

/-- `sta_ssid` and `sta_pass` -/
theorem setSta_settles (hok : env.AllOk) (hjson : TextFields json) :
    Settles pf none none (setSta pf env json) := by
  unfold setSta
  cases hssid : stringField json "sta_ssid" with
  | none => exact settles_pure
  | some ssid =>
  cases hpass : stringField json "sta_pass" with
  | none => exact settles_pure
  | some pass =>
  -- both fields are there: the handler goes on to the manager
  intro service w h
  cases hargs : staRefused ssid pass with
  | true =>
      refine .inl ⟨_, w, (bind_ok (congrFun (if_pos hargs) w)).trans
        ((rejectIf_apply _ _ _ _).trans (if_pos (by simp))), h⟩
  | false =>
  obtain ⟨n, nvs, hrun, hstored⟩ := configSet_ok pf hok (.setWifiSta ssid pass) w
  obtain ⟨err, wifi, calls, hdrive, hcase⟩ := connectDriver_cases pf env ssid pass
    ⟨{ w.state with config := w.state.config.setWifiSta ssid pass, nvs := nvs }, n, w.shown⟩
  obtain ⟨rfl, hconf, hrest, hmode⟩ := hcase.ok hok
  have hwf : (w.state.config.setWifiSta ssid pass).WellFormed :=
    { h.wellFormed with
      staSsid := fits_strncpy (by decide) ⟨ssid, hjson _ _ hssid⟩
      staPass := fits_strncpy (by decide) ⟨pass, hjson _ _ hpass⟩ }
  -- an accepted name is not empty, so a station is wanted from here on
  have hne : (w.state.config.setWifiSta ssid pass).staSsid ≠ [] := by
    show strncpy (configWifiSsidMaxLen + 1) ssid ≠ []
    rw [(strncpy_of_accepted hargs).2.1]
    exact (strncpy_of_accepted hargs).1
  have hdriver : wifi.driverMode ≠ .ap := by
    rcases hmode with ⟨hmode, -, heq, -⟩ | ⟨heq, -⟩
    · rw [heq]
      exact h.mode (by simp [show w.state.wifi.mode = .apSta from hmode])
    · simp [heq]
  -- dialling leaves the announced names alone
  have hnames : wifi.hostname = w.state.wifi.hostname ∧
      wifi.mdnsHostname = w.state.wifi.mdnsHostname ∧
        wifi.mdnsInstance = w.state.wifi.mdnsInstance ∧
          wifi.mdnsService = w.state.wifi.mdnsService := by
    rw [hrest]
    exact ⟨rfl, rfl, rfl, rfl⟩
  have hcall : wifiManagerConnectSta pf env ssid pass w = .ok .ok _ :=
    (congrFun (if_neg (Bool.eq_false_iff.mp hargs)) w).trans ((bind_ok hrun).trans hdrive)
  refine .inr ⟨_, (bind_ok hcall).trans ((rejectIf_apply _ _ _ _).trans (if_neg (by simp))),
    ?_, hnames.2.2.1, rfl⟩
  refine ⟨hwf, reads_of_stored hwf hstored, ?_, ?_, hnames.2.2.2.trans h.service, ?_, h.timezone,
    h.uartRate, h.usbRate, ?_,
    fun hnil => absurd hnil hne, fun _ => ⟨hdriver, ?_⟩, fun _ => hdriver⟩
  · show wifi.hostname = hostnameOf wifi.mdnsInstance
    rw [hnames.1, hnames.2.2.1, h.hostname]
  · show wifi.mdnsHostname = hostnameOf wifi.mdnsInstance
    rw [hnames.2.1, hnames.2.2.1, h.mdnsHostname]
  · show _ = strncpy _ wifi.mdnsInstance
    rw [hnames.2.2.1]
    exact h.deviceName
  · rcases hmode with ⟨-, -, -, heq⟩ | ⟨-, heq⟩
    · exact heq.trans h.ap
    · exact heq
  · exact hconf.trans (storedStaConfig_setWifiSta _ hargs).symm

/-- `device_name` -/
theorem setDeviceName_settles (hok : env.AllOk) (hjson : TextFields json) :
    Settles pf ((stringField json "device_name").filter (0 < ·.length)) none
      (setDeviceName pf env json) := by
  unfold setDeviceName
  cases hname : stringField json "device_name" with
  | none => exact settles_pure
  | some name =>
  intro service w h
  by_cases hempty : 0 < name.length
  · obtain ⟨n, nvs, hrun, hstored⟩ := configSet_ok pf hok (.setDeviceName name) w
    have hwf : (w.state.config.setDeviceName name).WellFormed :=
      { h.wellFormed with deviceName := fits_strncpy (by decide) ⟨name, hjson _ _ hname⟩ }
    refine .inr ⟨_, onlyIf_of hempty ((bind_ok hrun).trans (updateHostname_apply hok _ _)),
      ?_, ?_, rfl⟩
    · exact ⟨hwf, reads_of_stored hwf hstored, rfl, rfl, h.service, rfl, h.timezone, h.uartRate,
        h.usbRate, h.ap, h.noStation, h.station, h.mode⟩
    · rw [Option.filter_some_pos (by simpa using hempty)]
      rfl
  · refine .inr ⟨w, onlyIf_of_not hempty, h, ?_, rfl⟩
    rw [Option.filter_some_neg (by simpa using hempty)]
    rfl

/-- `timezone` -/
theorem setTimezone_settles (hok : env.AllOk) (hjson : TextFields json) :
    Settles pf none (stringField json "timezone") (setTimezone pf env json) := by
  unfold setTimezone
  cases htz : stringField json "timezone" with
  | none => exact settles_pure
  | some tz =>
  intro service w h
  obtain ⟨n, nvs, hrun, hstored⟩ := configSet_ok pf hok (.setTimezone tz) w
  have hwf : (w.state.config.setTimezone tz).WellFormed :=
    { h.wellFormed with timezone := fits_strncpy (by decide) ⟨tz, hjson _ _ htz⟩ }
  refine .inr ⟨_, (bind_ok hrun).trans (update_apply _ _), ?_, rfl, rfl⟩
  exact ⟨hwf, reads_of_stored hwf hstored, h.hostname, h.mdnsHostname, h.service, h.deviceName, rfl,
    h.uartRate, h.usbRate, h.ap, h.noStation, h.station, h.mode⟩

/-- `wifi_disconnect` -/
theorem disconnectSta_settles (hok : env.AllOk) (json : CJson) :
    Settles pf none none (disconnectSta pf env json) := by
  unfold disconnectSta
  split
  next =>
    intro service w h
    obtain ⟨n, nvs, hrun, hstored⟩ := configSet_ok pf hok (.setWifiSta [] [])
      { w with state := { w.state with wifi := w.state.wifi.timerStopped } }
    obtain ⟨err, wifi, calls, hdrive, hcase⟩ := disconnectDriver_cases pf env
      ⟨{ w.state with config := w.state.config.setWifiSta [] [], nvs := nvs }, n, w.shown⟩
    have hwf : (w.state.config.setWifiSta [] []).WellFormed :=
      { h.wellFormed with
        staSsid := fits_strncpy (by decide) ⟨[], by simp⟩
        staPass := fits_strncpy (by decide) ⟨[], by simp⟩ }
    cases hcase with
    | noMode hset => exact absurd (hok _) hset
    | started =>
        have hcall : wifiManagerDisconnectSta pf env w = .ok _ _ :=
          (bind_ok (wifiUpdate_apply _ _)).trans ((bind_ok hrun).trans hdrive)
        refine .inr ⟨_, (bind_ok hcall).trans
          ((rejectIf_apply _ _ _ _).trans (if_neg (not_not.mpr (hok _)))), ?_, ?_, rfl⟩
        · rw [Wifi.answered_ok (hok _), Wifi.answered_ok (hok _), Wifi.answered_ok (hok _)]
          exact ⟨hwf, reads_of_stored hwf hstored, h.hostname, h.mdnsHostname, h.service,
            h.deviceName, h.timezone, h.uartRate, h.usbRate, rfl, fun _ => rfl,
            fun hne => absurd rfl hne,
            fun hne => absurd rfl hne⟩
        · rw [Wifi.answered_ok (hok _), Wifi.answered_ok (hok _), Wifi.answered_ok (hok _)]
          rfl
  next => exact settles_pure

/-- The device name a body gives. -/
def givenName (json : CJson) : Option CString :=
  (stringField json "device_name").filter (0 < ·.length)

/-- All fields before the credentials. -/
theorem applySettings_settles (hok : env.AllOk) (hjson : TextFields json) :
    Settles pf (givenName json) (stringField json "timezone") (applySettings pf env json) := by
  have hbaud : Settles pf none none (setBaudRate pf env json) := setBaudRate_settles hok json
  have hstages := hbaud.seq ((setAp_settles hok hjson).seq
    ((setSta_settles hok hjson).seq ((setPowerDefault_settles hok json).seq
      ((setDeviceName_settles hok hjson).seq ((setNtpServer_settles hok hjson).seq
        ((setTimezone_settles hok hjson).seq
          ((disconnectSta_settles hok json).seq settles_pure)))))))
  simp only [Option.none_or, Option.or_none] at hstages
  exact hstages

/-! ## The credentials -/

/-- New credentials leave the settings in step with flash. -/
theorem CredentialsOnly.synced {board board' : Board} (honly : CredentialsOnly board board')
    (hwf : board'.config.WellFormed) (h : board.Synced pf service) : board'.Synced pf service := by
  have hsaved : ∀ key, key.ofCredentials = false →
      board'.config.saved key = board.config.saved key := fun key => honly.settings.saved
  have hreads : ∀ key ∈ savedKeys pf.target.serialPortMax, key.ofCredentials = false →
      board'.reads pf key = board'.config.saved key := by
    intro key hkey hcred
    rw [hsaved key hcred]
    rcases honly.stored key hcred with hstored | hstored
    · exact (AppConfig.saved_stored_congr hstored).trans (h.stored key hkey hcred)
    · exact AppConfig.saved_stored_of_saved AppConfig.wellFormed_zero h.wellFormed hkey hstored
  have hconf := honly.settings
  unfold AppConfig.SameSettings at hconf
  have hap : storedApConfig pf board'.config = storedApConfig pf board.config := by rw [hconf]; rfl
  have hsta : storedStaConfig board'.config = storedStaConfig board.config := by rw [hconf]; rfl
  have hrest := honly.rest
  generalize hconf' : board'.config = conf' at *
  generalize board'.nvs = nvs' at *
  subst hrest
  refine ⟨hwf, hreads, h.hostname, h.mdnsHostname, h.service, ?_, ?_, ?_, ?_, h.ap.trans hap.symm,
    ?_, ?_, h.mode⟩
  · exact (congrArg AppConfig.deviceName hconf).trans h.deviceName
  · exact (congrArg AppConfig.timezone hconf).trans h.timezone
  · exact h.uartRate.trans (congrFun (congrArg AppConfig.baudRate hconf) 0).symm
  · exact fun hports => ⟨(h.usbRate hports).1,
      (h.usbRate hports).2.trans (congrFun (congrArg AppConfig.baudRate hconf) 1).symm⟩
  · exact fun hnil => h.noStation ((congrArg AppConfig.staSsid hconf).symm.trans hnil)
  · exact fun hne => ⟨(h.station fun hnil => hne ((congrArg AppConfig.staSsid hconf).trans hnil)).1,
      (h.station fun hnil => hne ((congrArg AppConfig.staSsid hconf).trans hnil)).2.trans hsta.symm⟩

end

end WebTerminal
