import WebTerminal.Page.Controls
import WebTerminal.Server.LoginBody
import WebTerminal.Server.Reports
import WebTerminal.Store.Proper

/-!
# Settings posted back

A client may take members of the report of the settings, spell them as it likes and post
them, to the device that reported them or, later, to one whose settings have changed.  What
it posts of the five settings that a member of the report alone can set is then what was
reported; every other member is one that `handle_config_post` looks for under another name,
together with a second field, or not at all, and changes nothing.

The body it posts must fit the buffer of `handle_config_post`, 511 bytes and the NUL.  A
whole report can be longer, and is then answered with 400.
-/

set_option autoImplicit false

namespace WebTerminal

open Proc
open JsonText (Tree Text)

/-- The names `handle_config_get` gives its members. -/
def reportNames : List String :=
  ["baud_rate", "ports", "power_on", "power_on_default", "ap_ssid", "sta_ssid", "sta_connected",
    "sta_ip", "ap_ip", "sta_ip6", "ap_ip6", "wifi_mode", "auth_initialized", "device_name",
    "ntp_server", "ntp_active_server", "ntp_synced", "timezone", "firmware_version"]

/-- The configuration with the reported settings whose names are posted. -/
def AppConfig.restored (names : List CString) (report : ConfigReport)
    (conf : AppConfig) : AppConfig :=
  { conf with
    baudRate :=
      if cstr "baud_rate" ∈ names then Function.update conf.baudRate 0 report.baudRate
      else conf.baudRate
    powerOnDefault :=
      if cstr "power_on_default" ∈ names then report.powerOnDefault else conf.powerOnDefault
    deviceName := if cstr "device_name" ∈ names then report.deviceName else conf.deviceName
    ntpServer := if cstr "ntp_server" ∈ names then report.ntpServer else conf.ntpServer
    timezone := if cstr "timezone" ∈ names then report.timezone else conf.timezone }

theorem AppConfig.deviceName_restored {names : List CString} (h : cstr "device_name" ∈ names)
    (report : ConfigReport) (conf : AppConfig) :
    (conf.restored names report).deviceName = report.deviceName := if_pos h

/-- The configuration in effect is in flash. -/
def Board.Saved (pf : Platform) (board : Board) : Prop := board.Stores pf board.config

/-- With drivers that accept, the procedure edits the settings and keeps flash in step. -/
def Edits (pf : Platform) (edit : AppConfig → AppConfig) (m : BoardM Unit) : Prop :=
  ∀ w : World Board Effect, ∃ v, m w = .ok () v ∧ v.state.config = edit w.state.config ∧
    (w.state.Saved pf → v.state.Saved pf)

section

variable {pf : Platform} {env : Env} {edit edit' : AppConfig → AppConfig} {m n : BoardM Unit}

theorem edits_pure : Edits pf id (pure () : BoardM Unit) := fun w => ⟨w, rfl, rfl, id⟩

theorem Edits.congr (h : Edits pf edit m) (hedit : ∀ conf, edit conf = edit' conf) :
    Edits pf edit' m := by
  rwa [← funext hedit]

theorem Edits.seq (hm : Edits pf edit m) (hn : Edits pf edit' n) :
    Edits pf (edit' ∘ edit) (m >>= fun _ => n) := by
  intro w
  obtain ⟨v, hrun, hconfig, hsaved⟩ := hm w
  obtain ⟨u, hrun', hconfig', hsaved'⟩ := hn v
  refine ⟨u, (bind_ok hrun).trans hrun', ?_, hsaved' ∘ hsaved⟩
  rw [hconfig', hconfig]
  rfl

/-- A procedure that leaves the settings alone may follow a setter. -/
theorem edits_configSet (hok : env.AllOk) (edit : AppConfig → AppConfig)
    (hrest : ∀ w : World Board Effect, ∃ v, n w = .ok () v ∧ v.state.config = w.state.config ∧
      v.state.nvs = w.state.nvs) :
    Edits pf edit (configSet pf env edit >>= fun _ => n) := by
  intro w
  obtain ⟨k, nvs, hrun, hstores⟩ := configSet_stores pf hok edit w rfl
  obtain ⟨v, hrun', hconfig, hnvs⟩ :=
    hrest ⟨{ w.state with config := edit w.state.config, nvs := nvs }, k, w.shown⟩
  refine ⟨v, (bind_ok hrun).trans hrun', hconfig, fun _ => ?_⟩
  unfold Board.Saved
  rw [hconfig]
  exact hstores v.state hconfig hnvs

end

/-! ## The fields -/

/-- Members picked from those of the report. -/
def PickedFrom (members : List (String × CJson)) (ms : List (CString × CJson)) : Prop :=
  ∀ m ∈ ms, ∃ m' ∈ members, m = (cstr m'.1, m'.2)

theorem sameName_reportNames : ∀ name ∈ requestNames, ∀ name' ∈ reportNames,
    CJson.sameName (cstr name) (cstr name') = decide (name = name') := by
  decide +kernel

section

variable {double : ℤ → Double} {report : ConfigReport} {ms : List (CString × CJson)}

theorem names_members (double : ℤ → Double) (report : ConfigReport) :
    (report.members double).map Prod.fst = reportNames := rfl

/-- A field is found if it was picked, and then it is the one of the report. -/
theorem getObjectItem_picked (hms : PickedFrom (report.members double) ms) {name : String}
    (hname : name ∈ requestNames) : (CJson.object ms).getObjectItem (cstr name) =
      if cstr name ∈ ms.map Prod.fst then
        ((report.members double).find? fun m => decide (name = m.1)).map Prod.snd
      else none := by
  have hsame : ∀ m' ∈ report.members double,
      CJson.sameName (cstr name) (cstr m'.1) = decide (name = m'.1) := by
    intro m' hm'
    refine sameName_reportNames name hname m'.1 ?_
    rw [← names_members double report]
    exact List.mem_map_of_mem hm'
  unfold CJson.getObjectItem
  dsimp only
  cases hfind : ms.find? fun m => CJson.sameName (cstr name) m.1 with
  | none =>
      rw [if_neg, Option.map_none]
      intro hmem
      obtain ⟨m, hm, heq⟩ := List.mem_map.mp hmem
      have hnot := List.find?_eq_none.mp hfind m hm
      rw [heq] at hnot
      exact hnot (by simp [CJson.sameName])
  | some m =>
      have hm := List.mem_of_find?_eq_some hfind
      have hfound := List.find?_some hfind
      obtain ⟨m', hm', rfl⟩ := hms m hm
      rw [hsame m' hm', decide_eq_true_eq] at hfound
      rw [if_pos (hfound ▸ List.mem_map_of_mem hm)]
      have hfirst : ((report.members double).find? fun m => decide (name = m.1)) = some m' := by
        have hsome : ((report.members double).find? fun m => decide (name = m.1)).isSome :=
          List.find?_isSome.mpr ⟨m', hm', decide_eq_true hfound⟩
        obtain ⟨m'', hfind'⟩ := Option.isSome_iff_exists.mp hsome
        have hnodup : ((report.members double).map Prod.fst).Nodup := by
          rw [names_members]
          decide
        have hfound' := List.find?_some hfind'
        rw [decide_eq_true_eq] at hfound'
        have heq : m''.1 = m'.1 := hfound'.symm.trans hfound
        rw [hfind', List.inj_on_of_nodup_map hnodup (List.mem_of_find?_eq_some hfind') hm' heq]
      rw [hfirst]
      rfl

/-- A name that the report does not have is not found. -/
theorem getObjectItem_unreported (hms : PickedFrom (report.members double) ms) {name : String}
    (hname : name ∈ requestNames) (hnot : name ∉ reportNames) :
    (CJson.object ms).getObjectItem (cstr name) = none := by
  rw [getObjectItem_picked hms hname]
  have hnone : ((report.members double).find? fun m => decide (name = m.1)) = none := by
    rw [List.find?_eq_none]
    intro m hm heq
    refine hnot ?_
    rw [of_decide_eq_true heq, ← names_members double report]
    exact List.mem_map_of_mem hm
  rw [hnone]
  split <;> rfl

end

/-! ## The stages of POST /api/config -/

section

variable {pf : Platform} {env : Env} {double : ℤ → Double} {report : ConfigReport}
  {ms : List (CString × CJson)} (hok : env.AllOk) (hms : PickedFrom (report.members double) ms)

include hok hms

theorem setBaudRate_picked (hrate : pf.toUInt32 (double report.baudRate.toNat) = report.baudRate)
    (hvalid : report.baudRate ∈ validBauds) :
    Edits pf
      (fun conf =>
        { conf with
          baudRate :=
            if cstr "baud_rate" ∈ ms.map Prod.fst then
              Function.update conf.baudRate 0 report.baudRate
            else conf.baudRate })
      (setBaudRate pf env (.object ms)) := by
  have hports : (0 : ℤ) < pf.target.serialPortMax := by cases pf.target <;> decide
  have hfound : ((report.members double).find? fun m => decide ("baud_rate" = m.1)).map Prod.snd =
      some (.number (double report.baudRate.toNat)) := rfl
  unfold setBaudRate
  rw [getObjectItem_picked hms (by decide), getObjectItem_unreported hms (by decide) (by decide),
    hfound]
  by_cases hpicked : cstr "baud_rate" ∈ ms.map Prod.fst
  · simp only [if_pos hpicked]
    intro w
    obtain ⟨k, nvs, hrun, hstores⟩ :=
      configSet_stores pf hok (.setBaudRatePort 0 report.baudRate) w rfl
    have hsave : configSetBaudRatePort pf env 0 report.baudRate w = _ :=
      (congrFun (if_neg (by omega)) w).trans hrun
    obtain ⟨v, serial, hserial, hv, -⟩ := serialPortSetBaudRate_ok report.baudRate hok
      (le_refl 0) hports ⟨{ w.state with
        config := w.state.config.setBaudRatePort 0 report.baudRate, nvs := nvs }, k, w.shown⟩
      (fun hne => absurd rfl hne)
    refine ⟨v, ?_, ?_, fun _ => ?_⟩
    · dsimp only [CJson.number?]
      rw [hrate]
      exact onlyIf_of ⟨hvalid, le_refl 0, hports⟩ ((bind_ok hsave).trans hserial)
    · rw [hv]
      rfl
    · unfold Board.Saved
      rw [hv]
      exact hstores _ rfl rfl
  · simp only [if_neg hpicked]
    exact edits_pure

theorem setPowerDefault_picked :
    Edits pf
      (fun conf =>
        { conf with
          powerOnDefault :=
            if cstr "power_on_default" ∈ ms.map Prod.fst then report.powerOnDefault
            else conf.powerOnDefault })
      (setPowerDefault pf env (.object ms)) := by
  unfold setPowerDefault
  rw [getObjectItem_picked hms (by decide)]
  by_cases hpicked : cstr "power_on_default" ∈ ms.map Prod.fst
  · simp only [if_pos hpicked]
    exact edits_configSet hok (.setPowerOnDefault report.powerOnDefault) fun w => ⟨w, rfl, rfl, rfl⟩
  · simp only [if_neg hpicked]
    exact edits_pure

theorem setDeviceName_picked (hne : report.deviceName ≠ [])
    (hfits : report.deviceName.length ≤ configDeviceNameMaxLen) :
    Edits pf
      (fun conf =>
        { conf with
          deviceName :=
            if cstr "device_name" ∈ ms.map Prod.fst then report.deviceName else conf.deviceName })
      (setDeviceName pf env (.object ms)) := by
  unfold setDeviceName stringField
  rw [getObjectItem_picked hms (by decide)]
  by_cases hpicked : cstr "device_name" ∈ ms.map Prod.fst
  · simp only [if_pos hpicked]
    have hset : Edits pf (.setDeviceName report.deviceName) (do
        let _ ← configSetDeviceName pf env report.deviceName
        wifiManagerUpdateHostname env report.deviceName) :=
      edits_configSet hok _ fun w => ⟨_, updateHostname_apply hok report.deviceName w, rfl, rfl⟩
    refine Edits.congr (fun w => ?_) fun conf =>
      show conf.setDeviceName report.deviceName = _ by
        rw [AppConfig.setDeviceName, strncpy_eq_self (Nat.lt_succ_of_le hfits)]
    obtain ⟨v, hrun, hconfig, hsaved⟩ := hset w
    exact ⟨v, onlyIf_of (List.length_pos_of_ne_nil hne) hrun, hconfig, hsaved⟩
  · simp only [if_neg hpicked]
    exact edits_pure

theorem setNtpServer_picked (hfits : report.ntpServer.length ≤ configNtpServerMaxLen) :
    Edits pf
      (fun conf =>
        { conf with
          ntpServer :=
            if cstr "ntp_server" ∈ ms.map Prod.fst then report.ntpServer else conf.ntpServer })
      (setNtpServer pf env (.object ms)) := by
  unfold setNtpServer stringField
  rw [getObjectItem_picked hms (by decide)]
  by_cases hpicked : cstr "ntp_server" ∈ ms.map Prod.fst
  · simp only [if_pos hpicked]
    exact (edits_configSet hok (.setNtpServer report.ntpServer)
      fun w => ⟨w, rfl, rfl, rfl⟩).congr fun conf => by
        rw [AppConfig.setNtpServer, strncpy_eq_self (Nat.lt_succ_of_le hfits)]
  · simp only [if_neg hpicked]
    exact edits_pure

theorem setTimezone_picked (hfits : report.timezone.length ≤ configTimezoneMaxLen) :
    Edits pf
      (fun conf =>
        { conf with
          timezone :=
            if cstr "timezone" ∈ ms.map Prod.fst then report.timezone else conf.timezone })
      (setTimezone pf env (.object ms)) := by
  unfold setTimezone stringField
  rw [getObjectItem_picked hms (by decide)]
  by_cases hpicked : cstr "timezone" ∈ ms.map Prod.fst
  · simp only [if_pos hpicked]
    exact (edits_configSet hok (.setTimezone report.timezone)
      fun w => ⟨_, update_apply _ _, rfl, rfl⟩).congr fun conf => by
        rw [AppConfig.setTimezone, strncpy_eq_self (Nat.lt_succ_of_le hfits)]
  · simp only [if_neg hpicked]
    exact edits_pure

omit hok

/-- A network is only set together with its password, which is not reported. -/
theorem setAp_picked : setAp pf env (.object ms) = pure () := by
  have hpass : (CJson.object ms).getObjectItem (cstr "ap_pass") = none :=
    getObjectItem_unreported hms (by decide) (by decide)
  unfold setAp stringField
  rw [hpass]
  split
  next ssid pass _ hstring => cases hstring
  next => rfl

theorem setSta_picked : setSta pf env (.object ms) = pure () := by
  have hpass : (CJson.object ms).getObjectItem (cstr "sta_pass") = none :=
    getObjectItem_unreported hms (by decide) (by decide)
  unfold setSta stringField
  rw [hpass]
  split
  next ssid pass _ hstring => cases hstring
  next => rfl

theorem disconnectSta_picked : disconnectSta pf env (.object ms) = pure () := by
  have hfield : (CJson.object ms).getObjectItem (cstr "wifi_disconnect") = none :=
    getObjectItem_unreported hms (by decide) (by decide)
  unfold disconnectSta
  rw [hfield]
  rfl

end

/-- The reported settings pass the checks on them. -/
structure ConfigReport.Proper (report : ConfigReport) : Prop where
  baudRate : report.baudRate ∈ validBauds
  deviceName_ne_nil : report.deviceName ≠ []
  deviceName : report.deviceName.length ≤ configDeviceNameMaxLen
  ntpServer : report.ntpServer.length ≤ configNtpServerMaxLen
  timezone : report.timezone.length ≤ configTimezoneMaxLen

section

variable {pf : Platform} {env : Env} {double : ℤ → Double} {report : ConfigReport}
  {ms : List (CString × CJson)}

/-- All stages on members of the report. -/
theorem applySettings_picked (hok : env.AllOk) (hms : PickedFrom (report.members double) ms)
    (hproper : report.Proper)
    (hrate : pf.toUInt32 (double report.baudRate.toNat) = report.baudRate) :
    Edits pf (AppConfig.restored (ms.map Prod.fst) report) (applySettings pf env (.object ms)) := by
  have hpower : Edits pf _ (setPowerDefault pf env (.object ms)) := setPowerDefault_picked hok hms
  have hstages := (setBaudRate_picked hok hms hrate hproper.baudRate).seq
    (hpower.seq
      ((setDeviceName_picked hok hms hproper.deviceName_ne_nil hproper.deviceName).seq
        ((setNtpServer_picked hok hms hproper.ntpServer).seq
          ((setTimezone_picked hok hms hproper.timezone).seq edits_pure))))
  have hsettings : applySettings pf env (.object ms) = (do
      setBaudRate pf env (.object ms)
      setPowerDefault pf env (.object ms)
      setDeviceName pf env (.object ms)
      setNtpServer pf env (.object ms)
      setTimezone pf env (.object ms)
      pure ()) := by
    unfold applySettings settings
    rw [setAp_picked hms, setSta_picked hms, disconnectSta_picked hms]
    rfl
  rw [hsettings]
  exact hstages

theorem configReport_proper {around : Surroundings} {board : Board}
    (h : board.config.Proper pf.target.serialPortMax) : (configReport pf around board).Proper where
  baudRate := h.baudRate 0 (by cases pf.target <;> decide)
  deviceName_ne_nil := h.deviceName
  deviceName := Nat.le_of_lt_succ h.wellFormed.deviceName.1
  ntpServer := Nat.le_of_lt_succ h.wellFormed.ntpServer.1
  timezone := Nat.le_of_lt_succ h.wellFormed.timezone.1

/-- The settings that are in effect are not changed by themselves. -/
theorem Board.config_restored (board : Board) (names : List CString) (pf : Platform)
    (around : Surroundings) :
    board.config.restored names (configReport pf around board) = board.config := by
  unfold AppConfig.restored configReport
  simp

end

/-- **What a client posts back of a report of the settings is restored.**  It posts members
of the report of a device with proper settings, in any order and any spelling without a raw
NUL that fits the 511 bytes `read_body` takes, from a session, after setup, to drivers that
accept, and the conversions of numbers keep the rate (`hrate`); then the five settings are as
reported where they were posted, every other setting and the credentials are as they were, and
flash is in step if it was.  On a device that still has the settings it reported, nothing
changes. -/
theorem config_report_restores {pf : Platform} {s : System} {a : Action} {req : Request}
    {strtod : List UInt8 → Double} {double : ℤ → Double} {around : Surroundings} {board : Board}
    {body : List UInt8} {tree : Tree} {ms : List (CString × CJson)} (hserved : Admitted pf s a req)
    (hroute : req.route = .configPost) (hparse : pf.cJSONParse = cjsonParse strtod)
    (hproper : board.config.Proper pf.target.serialPortMax)
    (hrate : pf.toUInt32 (double (board.config.baudRate 0).toNat) = board.config.baudRate 0)
    (htext : Text cjsonNestingLimit body tree) (htree : CJson.ofTree strtod tree = .object ms)
    (hms : PickedFrom ((configReport pf around board).members double) ms)
    (hzero : (0 : UInt8) ∉ body) (hmax : body.length ≤ Route.configPost.bodyMax)
    (hcarries : Carries a.env req body) :
    ∃ t es, (systemMachine pf).step s a = some (t, es) ∧ .answered (.ok okBody none) ∈ es ∧
      t.device.board.config =
        s.device.board.config.restored (ms.map Prod.fst) (configReport pf around board) ∧
      (s.device.board.Saved pf → t.device.board.Saved pf) ∧
      (s.device.board.config = board.config → t.device.board.config = board.config) := by
  have hreads : pf.cJSONParse (ofBuffer body) = some (.object ms) := by
    have hends : NumberEnds ([] ++ [0]) := stops_zero
    have hread := cjsonParse_of_text strtod (.inl rfl) JsonText.blank_nil htext hends
    rw [List.append_nil, List.nil_append, List.nil_append] at hread
    rw [ofBuffer_eq_self hzero, hparse, hread, htree]
  have hne : body ≠ [] := by
    obtain ⟨c, rest, rfl, -⟩ := opens_text htext
    exact List.cons_ne_nil _ _
  -- each member that is looked for is the reported one, whichever the order
  have hedits := applySettings_picked hserved.drivers hms (configReport_proper hproper) hrate
  obtain ⟨token, n, board', effects, hrun, hconfig, hsaved⟩ :=
    configPostUpToCredentials_served
      (P := fun _ board' => board'.config = s.device.board.config.restored (ms.map Prod.fst)
          (configReport pf around board) ∧ (s.device.board.Saved pf → board'.Saved pf))
      hserved hroute hcarries ⟨hne, hmax, hreads⟩
      fun n => hedits ⟨s.device.board, n, []⟩
  -- the report has no password, so the credentials are not touched
  have hnone : stringField (.object ms) "new_password" = none := by
    unfold stringField
    rw [getObjectItem_unreported hms (by decide) (by decide)]
    rfl
  have hfinal : callHandler pf a.env a.call s.device.start = .ok (.ok okBody none)
      ⟨(s.device.checked a.env token).setBoard board', n,
        [validation token a.env.now true] ++ effects.map .effect⟩ := by
    rw [hserved.call]
    show handler pf a.env req s.device.start = _
    unfold handler
    rw [hroute]
    show handleConfigPost pf a.env req s.device.start = _
    unfold handleConfigPost
    rw [bind_ok hrun, bind_ok (changeCredentials_absent hnone _)]
    rfl
  refine ⟨_, _, systemStep_of_ok hserved.running hserved.time hfinal, by simp, hconfig, hsaved, ?_⟩
  intro hsame
  rw [hsame] at hconfig
  exact hconfig.trans (board.config_restored _ pf around)

/-- The demonstration device with the parser of cJSON. -/
def demoPost : Platform :=
  { demoPage with cJSONParse := cjsonParse fun text => UInt64.ofNat (JsonText.numberOf text) }

/-- `demoSystem` under another name. -/
def demoRenamed : System :=
  { demoSystem with
    device := demoSystem.device.setBoard { demoSystem.device.board with
      config := { adminConfig with deviceName := cstr "attic" } } }

/-- The members of the report of `demoSystem` that a client keeps. -/
def demoKept : Tree :=
  .object [(cstr "wifi_mode", .string (cstr "ap")),
    (cstr "device_name", .string (cstr "ESP32 Terminal"))]

/-- They, as `cJSON_Parse` reads them. -/
def demoMembers : List (CString × CJson) :=
  [(cstr "wifi_mode", .string (cstr "ap")), (cstr "device_name", .string (cstr "ESP32 Terminal"))]

/-- The request that posts them. -/
def demoRestore : Request :=
  { demoRequest .configPost demoKept.write.length with authorization := some demoBearer }

/-- The ports and addresses beside the settings. -/
def demoAround : Surroundings :=
  ⟨[⟨.uart, cstr "UART", true⟩], [], cstr "192.168.4.1", [], [], [], false⟩

/-- A conversion that keeps the counts of `demoPage` apart. -/
def demoDouble (n : ℤ) : Double := UInt64.ofNat n.toNat

/-- Its old name is restored. -/
theorem config_report_restores_name :
    ∃ s t h es, (systemMachine demoPost).Run demoRenamed [demoLogin 10] h s ∧
      (systemMachine demoPost).step s ⟨demoEnv 20 demoKept.write, .request demoRestore⟩ =
        some (t, es) ∧
      s.device.board.config.deviceName = cstr "attic" ∧
      t.device.board.config.deviceName = cstr "ESP32 Terminal" := by
  obtain ⟨s, h, hrun, hlogged⟩ := Machine.Run.exists_of_exec
    (p := fun s es => loggedIn s es && s.device.board.config.deviceName == cstr "attic")
    (show ((systemMachine demoPost).exec demoRenamed [demoLogin 10]).any _ = true by decide +kernel)
  rw [Bool.and_eq_true, beq_iff_eq] at hlogged
  obtain ⟨hlogged, hname⟩ := hlogged
  simp only [loggedIn, Bool.and_eq_true, decide_eq_true_eq] at hlogged
  obtain ⟨⟨⟨⟨hrunning, htime⟩, hvalid⟩, hsetup⟩, -⟩ := hlogged
  have htoken : authGetTokenFromRequest []
      { demoRequest .notFound 0 with authorization := some demoBearer } = some demoToken := by
    decide +kernel
  have hrate : ∀ port < 1, adminConfig.baudRate port ∈ validBauds := fun _ _ =>
    (by decide : (115200 : UInt32) ∈ validBauds)
  have hproper : demoSystem.device.board.config.Proper demoPost.target.serialPortMax :=
    ⟨adminConfig_wellFormed, by decide, by decide, by decide, by decide, hrate⟩
  -- the mode is read by nobody, the name is member 13
  have hpicked : PickedFrom
      ((configReport demoPost demoAround demoSystem.device.board).members demoDouble)
      demoMembers := by
    intro m hm
    rcases List.mem_cons.mp hm with rfl | hm
    · refine ⟨("wifi_mode", .string (cstr "ap")), ?_, rfl⟩
      exact List.mem_of_getElem? (i := 11) rfl
    · obtain rfl := List.mem_singleton.mp hm
      refine ⟨("device_name", .string (cstr "ESP32 Terminal")), ?_, rfl⟩
      exact List.mem_of_getElem? (i := 13) rfl
  have hserved : Admitted demoPost s ⟨demoEnv 20 demoKept.write, .request demoRestore⟩ demoRestore :=
    ⟨hrunning, htime, rfl, ⟨demoToken, htoken, hvalid⟩, hsetup, fun _ => rfl⟩
  have htext : Text cjsonNestingLimit demoKept.write demoKept := by
    refine JsonText.text_write _ ?_ _ (by decide)
    have hnone : demoKept.numbers = [] := rfl
    simp [hnone]
  have htree : CJson.ofTree (fun text => UInt64.ofNat (JsonText.numberOf text)) demoKept =
      .object demoMembers := rfl
  obtain ⟨t, es, hstep, -, hconfig, -⟩ := config_report_restores hserved rfl rfl hproper
    (by decide +kernel) htext htree hpicked (by decide +kernel) (by decide +kernel)
    ⟨rfl, demoEnv_arrives 20 _ _⟩
  refine ⟨s, t, h, es, hrun, hstep, hname, ?_⟩
  have hposted : cstr "device_name" ∈ demoMembers.map Prod.fst := by simp [demoMembers]
  calc t.device.board.config.deviceName
      = (s.device.board.config.restored (demoMembers.map Prod.fst)
          (configReport demoPost demoAround demoSystem.device.board)).deviceName := by rw [hconfig]
    _ = (configReport demoPost demoAround demoSystem.device.board).deviceName :=
        AppConfig.deviceName_restored hposted _ _
    _ = cstr "ESP32 Terminal" := rfl

end WebTerminal
