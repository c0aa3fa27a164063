import Mathlib.Data.List.Find
import WebTerminal.Server.Credentials
import WebTerminal.Server.LiveSettings
import WebTerminal.Server.PowerRequest

/-!
# What the device can be asked to do

The operations behind the API, apart from how they are asked for: what each needs to be
well formed and to fit, and what has happened once it is done.  `Asks` says which request
asks for which operation.  A request that does, with a session, after setup and with
drivers that accept, is answered with ok and leaves the operation done.
-/

set_option autoImplicit false

namespace WebTerminal

open Proc

inductive Operation
  | reset
  | togglePower
  | restart
  | setBaudRate (port : ℕ) (rate : UInt32)
  | setDeviceName (name : CString)
  | setAccessPoint (ssid password : CString)
  | joinNetwork (ssid password : CString)
  | leaveNetwork
  | setNtpServer (server : CString)
  | setTimezone (tz : CString)
  | setPowerDefault (on : Bool)
  | changePassword (current new : CString)
  | installCertificate (cert key : CString)

/-- These settings are in effect and in flash. -/
def Board.Stores (pf : Platform) (board : Board) (conf : AppConfig) : Prop :=
  board.config = conf ∧
    ∀ key ∈ savedKeys pf.target.serialPortMax, board.nvs key = some (conf.saved key)

namespace Operation

/-- What the device demands of the arguments. -/
def Valid : Operation → Prop
  | setBaudRate _ rate => rate ∈ validBauds
  | setDeviceName name => name ≠ []
  | setAccessPoint ssid password => ssid ≠ [] ∧ (password = [] ∨ 8 ≤ password.length)
  | joinNetwork ssid _ => ssid ≠ []
  | changePassword _ new => minPasswordLen ≤ new.length
  | _ => True

/-- What the device has room for, and what it takes from its owner only. -/
def Fits (pf : Platform) (conf : AppConfig) : Operation → Prop
  | setBaudRate port _ => port < pf.target.serialPortMax
  | setDeviceName name => name.length ≤ configDeviceNameMaxLen
  | setAccessPoint ssid password => ssid.length ≤ 27 ∧ password.length ≤ configWifiPassMaxLen
  | joinNetwork ssid password =>
      ssid.length ≤ configWifiSsidMaxLen ∧ password.length ≤ configWifiPassMaxLen
  | setNtpServer server => server.length ≤ configNtpServerMaxLen
  | setTimezone tz => tz.length ≤ configTimezoneMaxLen
  | changePassword current _ => conf.checkPassword pf.sha256 current = true
  | installCertificate cert key =>
      pf.x509CrtParse cert = 0 ∧ pf.pkParseKey key = 0 ∧ pf.pkCheckPair cert key = 0 ∧
        cert.length < maxCertSize ∧ key.length < maxCertSize
  | _ => True

/-- What an operation makes of the board, and what it shows. -/
def Applied (pf : Platform) (board : Board) (effects : List Effect) (board' : Board) :
    Operation → Prop
  | reset => effects = [.gpioDirection .sbcReset true, .gpioLevel .sbcReset false,
      .gpioDirection .sbcReset false]
  | togglePower => board'.gpio.powerOn = !board.gpio.powerOn ∧
      effects = [.gpioLevel .sbcPower board'.gpio.powerOn]
  | restart => effects = [.restart]
  | setBaudRate port rate =>
      board'.Stores pf { board.config with
        baudRate := Function.update board.config.baudRate port rate } ∧
      (if port = 0 then board'.serial.uartRate else board'.serial.usbRate) = rate
  | setDeviceName name =>
      board'.Stores pf { board.config with deviceName := name } ∧
      board'.wifi.hostname = hostnameOf name ∧ board'.wifi.mdnsHostname = hostnameOf name ∧
        board'.wifi.mdnsInstance = name
  | setAccessPoint ssid password =>
      board'.Stores pf { board.config with apSsid := ssid, apPass := password } ∧
      board'.wifi.apConfig = apConfigOf (buildApSsid pf.mac ssid) password
  | joinNetwork ssid password =>
      board'.Stores pf { board.config with staSsid := ssid, staPass := password } ∧
      board'.wifi.mode = .apSta ∧ board'.wifi.staConfig = ⟨ssid, password⟩ ∧
        (.wifi .connect ∈ effects ∨ .wifi .start ∈ effects)
  | leaveNetwork =>
      board'.Stores pf { board.config with staSsid := [], staPass := [] } ∧
      board'.wifi.mode = .ap ∧ board'.wifi.driverMode = .ap ∧ .wifi .disconnect ∈ effects
  | setNtpServer server => board'.Stores pf { board.config with ntpServer := server }
  | setTimezone tz => board'.Stores pf { board.config with timezone := tz } ∧ board'.tz = tz
  | setPowerDefault on => board'.Stores pf { board.config with powerOnDefault := on }
  | changePassword _ new =>
      board'.config.checkPassword pf.sha256 new = true ∧
        ∃ hash salt version, board'.Stores pf { board.config with
          authHash := hash, authSalt := salt, authHashVer := version, authInitialized := true }
  | installCertificate cert key => board'.certs = ⟨some cert, some key⟩

end Operation

/-- The effects among what a call shows. -/
def effectsOf (es : List Event) : List Effect :=
  es.filterMap fun e =>
    match e with
    | .effect effect => some effect
    | _ => none

/-- The operation is done: on the board, and a new password leaves nobody logged in. -/
def Operation.Done (pf : Platform) (d : Device) (es : List Event) (d' : Device)
    (op : Operation) : Prop :=
  op.Applied pf d.board (effectsOf es) d'.board ∧
    ∀ current new, op = .changePassword current new →
      (∀ env token, d'.validates env token = false) ∧ ∀ i, (d'.clients i).active = false

/-- The fields of the requests below. -/
def requestNames : List String :=
  ["baud_rate", "port", "ap_ssid", "ap_pass", "sta_ssid", "sta_pass", "power_on_default",
    "device_name", "ntp_server", "timezone", "wifi_disconnect", "new_password",
    "current_password", "username", "cert", "key"]

/-- An object with members of these names. -/
def objectOf (members : List (String × CJson)) : CJson :=
  .object (members.map fun m => (cstr m.1, m.2))

/-- A number that the casts of the firmware recover. -/
def Platform.Counts (pf : Platform) (n : ℕ) (value : Double) : Prop :=
  pf.toUInt32 value = UInt32.ofNat n ∧ pf.toInt value = n

/-- The requests for an operation: a route, and the body if there is one. -/
inductive Asks (pf : Platform) : Operation → Route → Option CJson → Prop
  | reset : Asks pf .reset .reset none
  | togglePower : Asks pf .togglePower .power none
  | restart : Asks pf .restart .reboot none
  | setBaudRate {port baud : ℕ} {rate' port' : Double} (hrate : pf.Counts baud rate')
      (hport : pf.Counts port port') :
      Asks pf (.setBaudRate port (UInt32.ofNat baud)) .configPost
        (some (objectOf [("baud_rate", .number rate'), ("port", .number port')]))
  | setDeviceName (name : CString) :
      Asks pf (.setDeviceName name) .configPost (some (objectOf [("device_name", .string name)]))
  | setAccessPoint (ssid password : CString) :
      Asks pf (.setAccessPoint ssid password) .configPost
        (some (objectOf [("ap_ssid", .string ssid), ("ap_pass", .string password)]))
  | joinNetwork (ssid password : CString) :
      Asks pf (.joinNetwork ssid password) .configPost
        (some (objectOf [("sta_ssid", .string ssid), ("sta_pass", .string password)]))
  | leaveNetwork :
      Asks pf .leaveNetwork .configPost (some (objectOf [("wifi_disconnect", .bool true)]))
  | setNtpServer (server : CString) :
      Asks pf (.setNtpServer server) .configPost (some (objectOf [("ntp_server", .string server)]))
  | setTimezone (tz : CString) :
      Asks pf (.setTimezone tz) .configPost (some (objectOf [("timezone", .string tz)]))
  | setPowerDefault (on : Bool) :
      Asks pf (.setPowerDefault on) .configPost (some (objectOf [("power_on_default", .bool on)]))
  | changePassword (current new : CString) :
      Asks pf (.changePassword current new) .configPost
        (some (objectOf [("current_password", .string current), ("new_password", .string new)]))
  | installCertificate (cert key : CString) :
      Asks pf (.installCertificate cert key) .tls
        (some (objectOf [("cert", .string cert), ("key", .string key)]))

/-! ## Fields -/

/-- No two of these names are the same without the case of their letters. -/
theorem sameName_requestNames : ∀ name ∈ requestNames, ∀ name' ∈ requestNames,
    CJson.sameName (cstr name) (cstr name') = decide (name = name') := by
  decide +kernel

/-- A member of such an object is found by its name. -/
theorem getObjectItem_objectOf {members : List (String × CJson)} {name : String}
    (hmembers : ∀ m ∈ members, m.1 ∈ requestNames) (hname : name ∈ requestNames) :
    (objectOf members).getObjectItem (cstr name) =
      (members.find? fun m => decide (name = m.1)).map Prod.snd := by
  unfold objectOf CJson.getObjectItem
  dsimp only
  rw [List.find?_map, Option.map_map]
  have hsame :
      members.find? ((fun m => CJson.sameName (cstr name) m.1) ∘ fun m => (cstr m.1, m.2)) =
      members.find? fun m => decide (name = m.1) :=
    List.find?_congr fun m hm => sameName_requestNames name hname m.1 (hmembers m hm)
  exact congrArg (Option.map Prod.snd) hsame

/-- A string member of such an object. -/
theorem stringField_objectOf {members : List (String × CJson)} {name : String}
    (hmembers : ∀ m ∈ members, m.1 ∈ requestNames) (hname : name ∈ requestNames) :
    stringField (objectOf members) name =
      CJson.string? ((members.find? fun m => decide (name = m.1)).map Prod.snd) := by
  unfold stringField
  rw [getObjectItem_objectOf hmembers hname]

/-- What the stages of `handle_config_post` look for first. -/
def settingNames : List String :=
  ["baud_rate", "ap_ssid", "sta_ssid", "power_on_default", "device_name", "ntp_server", "timezone",
    "wifi_disconnect"]

section

variable {pf : Platform} {env : Env} {json : CJson}

/-- A stage without its field does nothing. -/
theorem setting_absent {stage : String × BoardM Unit}
    (hstage : stage ∈ settingNames.zip (settings pf env json))
    (hnone : json.getObjectItem (cstr stage.1) = none) : stage.2 = pure () := by
  simp only [settingNames, settings, List.zip_cons_cons, List.zip_nil_right, List.mem_cons,
    List.not_mem_nil, or_false] at hstage
  rcases hstage with rfl | rfl | rfl | rfl | rfl | rfl | rfl | rfl
  · simp only [setBaudRate, hnone, CJson.number?]
  · simp only [setAp, stringField, hnone, CJson.string?]
  · simp only [setSta, stringField, hnone, CJson.string?]
  · simp only [setPowerDefault, hnone, CJson.bool?]
  · simp only [setDeviceName, stringField, hnone, CJson.string?]
  · simp only [setNtpServer, stringField, hnone, CJson.string?]
  · simp only [setTimezone, stringField, hnone, CJson.string?]
  · simp only [disconnectSta, hnone, CJson.isTrue, Bool.false_eq_true, if_false]

/-- Of stages of which one does anything, that one is left. -/
theorem forM_single {stages : List (String × BoardM Unit)} {name : String} {m : BoardM Unit}
    (hnodup : (stages.map Prod.fst).Nodup) (hmem : (name, m) ∈ stages)
    (hrest : ∀ stage ∈ stages, stage.1 ≠ name → stage.2 = pure ()) :
    (stages.map Prod.snd).forM id = m := by
  have hpure : ∀ {l : List (String × BoardM Unit)}, (∀ stage ∈ l, stage.2 = pure ()) →
      (l.map Prod.snd).forM id = (pure ⟨⟩ : BoardM PUnit) := by
    intro l hl
    induction l with
    | nil => rfl
    | cons stage l ih =>
        have hfirst : stage.2 = pure () := hl stage (by simp)
        show stage.2 >>= (fun _ => (l.map Prod.snd).forM id) = _
        rw [hfirst, pure_bind, ih fun s hs => hl s (by simp [hs])]
  induction stages with
  | nil => cases hmem
  | cons stage stages ih =>
      show stage.2 >>= (fun _ => (stages.map Prod.snd).forM id) = m
      obtain ⟨hnew, hnodup⟩ := List.nodup_cons.mp hnodup
      rcases List.mem_cons.mp hmem with rfl | hmem
      · have hothers : ∀ s ∈ stages, s.2 = pure () := by
          intro s hs
          have hin : s.1 ∈ stages.map Prod.fst := List.mem_map_of_mem hs
          exact hrest s (by simp [hs]) fun heq => hnew (heq ▸ hin)
        rw [hpure hothers]
        exact bind_pure_unit
      · have hin : name ∈ stages.map Prod.fst := List.mem_map_of_mem hmem
        have hfirst : stage.2 = pure () := hrest stage (by simp) fun heq => hnew (heq ▸ hin)
        rw [hfirst, pure_bind, ih hnodup hmem fun s hs => hrest s (by simp [hs])]

/-- A body with the field of one stage runs that stage. -/
theorem applySettings_objectOf {members : List (String × CJson)}
    (hmembers : ∀ m ∈ members, m.1 ∈ requestNames) {name : String} {stage : BoardM Unit}
    (hstage : (name, stage) ∈ settingNames.zip (settings pf env (objectOf members)))
    (honly : ∀ other ∈ settingNames, other ≠ name → ∀ m ∈ members, other ≠ m.1) :
    applySettings pf env (objectOf members) = stage := by
  have hsettings : applySettings pf env (objectOf members) =
      ((settingNames.zip (settings pf env (objectOf members))).map Prod.snd).forM id := rfl
  have hknown : ∀ other ∈ settingNames, other ∈ requestNames := by decide
  have hnodup : ((settingNames.zip (settings pf env (objectOf members))).map Prod.fst).Nodup :=
    (by decide : settingNames.Nodup)
  rw [hsettings]
  refine forM_single hnodup hstage fun other hother hne => setting_absent hother ?_
  have hname : other.1 ∈ settingNames := (List.of_mem_zip hother).1
  rw [getObjectItem_objectOf hmembers (hknown _ hname), Option.map_eq_none_iff, List.find?_eq_none]
  intro m hm
  simpa using honly other.1 hname hne m hm

end

/-! ## The stages of POST /api/config -/

/-- From here the operation is carried out. -/
def Operation.Runs (pf : Platform) (op : Operation) (m : BoardM Unit) (w : World Board Effect) :
    Prop :=
  ∃ v effects, m w = .ok () v ∧ v.shown = w.shown ++ effects ∧ op.Applied pf w.state effects v.state

section

variable {pf : Platform} {env : Env} {json : CJson}

/-- A setter with drivers that accept stores its edit. -/
theorem configSet_stores (pf : Platform) (hok : env.AllOk) (edit : AppConfig → AppConfig)
    {conf : AppConfig} (w : World Board Effect) (hedit : edit w.state.config = conf) :
    ∃ n nvs, configSet pf env edit w =
        .ok .ok ⟨{ w.state with config := conf, nvs := nvs }, n, w.shown⟩ ∧
      ∀ board : Board, board.config = conf → board.nvs = nvs → board.Stores pf conf := by
  subst hedit
  obtain ⟨n, nvs, hrun, hstored⟩ := configSet_ok pf hok edit w
  refine ⟨n, nvs, hrun, fun board hconf hnvs => ⟨hconf, fun key hkey => ?_⟩⟩
  rw [hnvs]
  exact hstored key hkey

theorem setPowerDefault_runs (hok : env.AllOk) {on : Bool}
    (hfield : CJson.bool? (json.getObjectItem (cstr "power_on_default")) = some on)
    (w : World Board Effect) :
    (Operation.setPowerDefault on).Runs pf (setPowerDefault pf env json) w := by
  obtain ⟨n, nvs, hrun, hstores⟩ :=
    configSet_stores pf hok (.setPowerOnDefault on) w rfl
  unfold setPowerDefault
  rw [hfield]
  exact ⟨_, [], bind_ok hrun, (List.append_nil _).symm, hstores _ rfl rfl⟩

theorem setNtpServer_runs (hok : env.AllOk) {server : CString}
    (hfield : stringField json "ntp_server" = some server)
    (hfits : server.length ≤ configNtpServerMaxLen) (w : World Board Effect) :
    (Operation.setNtpServer server).Runs pf (setNtpServer pf env json) w := by
  have hedit :
      w.state.config.setNtpServer server = { w.state.config with ntpServer := server } := by
    unfold AppConfig.setNtpServer
    rw [strncpy_eq_self (Nat.lt_succ_of_le hfits)]
  obtain ⟨n, nvs, hrun, hstores⟩ := configSet_stores pf hok _ w hedit
  unfold setNtpServer
  rw [hfield]
  exact ⟨_, [], bind_ok hrun, (List.append_nil _).symm, hstores _ rfl rfl⟩

theorem setTimezone_runs (hok : env.AllOk) {tz : CString}
    (hfield : stringField json "timezone" = some tz) (hfits : tz.length ≤ configTimezoneMaxLen)
    (w : World Board Effect) :
    (Operation.setTimezone tz).Runs pf (setTimezone pf env json) w := by
  have hedit : w.state.config.setTimezone tz = { w.state.config with timezone := tz } := by
    unfold AppConfig.setTimezone
    rw [strncpy_eq_self (Nat.lt_succ_of_le hfits)]
  obtain ⟨n, nvs, hrun, hstores⟩ := configSet_stores pf hok _ w hedit
  unfold setTimezone
  rw [hfield]
  exact ⟨_, [], (bind_ok hrun).trans (update_apply _ _), (List.append_nil _).symm,
    hstores _ rfl rfl, rfl⟩

theorem setDeviceName_runs (hok : env.AllOk) {name : CString}
    (hfield : stringField json "device_name" = some name) (hne : name ≠ [])
    (hfits : name.length ≤ configDeviceNameMaxLen) (w : World Board Effect) :
    (Operation.setDeviceName name).Runs pf (setDeviceName pf env json) w := by
  have hedit : w.state.config.setDeviceName name = { w.state.config with deviceName := name } := by
    unfold AppConfig.setDeviceName
    rw [strncpy_eq_self (Nat.lt_succ_of_le hfits)]
  obtain ⟨n, nvs, hrun, hstores⟩ := configSet_stores pf hok _ w hedit
  unfold setDeviceName
  rw [hfield]
  exact ⟨_, _, onlyIf_of (List.length_pos_of_ne_nil hne)
    ((bind_ok hrun).trans (updateHostname_apply hok _ _)), rfl, hstores _ rfl rfl, rfl, rfl, rfl⟩

/-- The port has its driver. -/
theorem setBaudRate_runs (hok : env.AllOk) {port : ℕ} {rate : UInt32} {rate' port' : Double}
    (hrate : CJson.number? (json.getObjectItem (cstr "baud_rate")) = some rate')
    (hport : CJson.number? (json.getObjectItem (cstr "port")) = some port')
    (hrate' : pf.toUInt32 rate' = rate) (hport' : pf.toInt port' = port)
    (hvalid : rate ∈ validBauds) (hfits : port < pf.target.serialPortMax) (w : World Board Effect)
    (husb : 1 < pf.target.serialPortMax → w.state.serial.usbReady = true) :
    (Operation.setBaudRate port rate).Runs pf (setBaudRate pf env json) w := by
  obtain ⟨n, nvs, hrun, hstores⟩ :=
    configSet_stores pf hok (.setBaudRatePort port rate) w rfl
  have hsave : configSetBaudRatePort pf env port rate w = _ :=
    (congrFun (if_neg (by omega)) w).trans hrun
  let u : World Board Effect :=
    ⟨{ w.state with config := w.state.config.setBaudRatePort port rate, nvs := nvs }, n, w.shown⟩
  obtain ⟨v, serial, hserial, hv, -, huart, husb'⟩ := serialPortSetBaudRate_ok rate hok
    (Int.natCast_nonneg port) (Int.ofNat_lt.mpr hfits) u fun hne => husb (by omega)
  obtain ⟨es, hes, -⟩ := serialPortSetBaudRate_keeps pf env port rate u
  rw [final_of_ok hserial] at hes
  have hstage : setBaudRate pf env json w = .ok () v := by
    unfold setBaudRate
    simp only [hrate, hport, hrate', hport']
    exact onlyIf_of ⟨hvalid, Int.natCast_nonneg port, Int.ofNat_lt.mpr hfits⟩
      ((bind_ok hsave).trans hserial)
  refine ⟨v, es, hstage, hes, ?_⟩
  rw [hv]
  refine ⟨hstores _ rfl rfl, ?_⟩
  dsimp only
  by_cases hzero : port = 0
  · rw [if_pos hzero, huart, if_pos (by omega)]
  · rw [if_neg hzero, husb', if_neg (by omega)]

theorem setAp_runs (hok : env.AllOk) {ssid password : CString}
    (hssid : stringField json "ap_ssid" = some ssid)
    (hpass : stringField json "ap_pass" = some password)
    (hvalid : ssid ≠ [] ∧ (password = [] ∨ 8 ≤ password.length))
    (hfits : ssid.length ≤ 27 ∧ password.length ≤ configWifiPassMaxLen) (w : World Board Effect) :
    (Operation.setAccessPoint ssid password).Runs pf (setAp pf env json) w := by
  have hedit : w.state.config.setWifiAp ssid password =
      { w.state.config with apSsid := ssid, apPass := password } := by
    unfold AppConfig.setWifiAp
    rw [strncpy_eq_self (by have := hfits.1; show ssid.length < 33; omega),
      strncpy_eq_self (Nat.lt_succ_of_le hfits.2)]
  obtain ⟨n, nvs, hrun, hstores⟩ := configSet_stores pf hok _ w hedit
  have hname : ¬apSsidRefused ssid = true := by
    have := List.length_pos_of_ne_nil hvalid.1
    simp only [apSsidRefused, decide_eq_true_eq]
    omega
  have hlong : ¬apPassRefused password = true := by
    simp only [apPassRefused, decide_eq_true_eq]
    rcases hvalid.2 with rfl | hlong
    · simp
    · omega
  unfold setAp
  rw [hssid, hpass]
  refine ⟨_, _, (bind_ok ((rejectIf_apply _ _ _ _).trans (if_neg hname))).trans
    ((bind_ok ((rejectIf_apply _ _ _ _).trans (if_neg hlong))).trans
      ((bind_ok ((bind_ok hrun).trans
        ((congrFun (if_neg (by simp)) _).trans (wifiCall_apply _ _ _)))).trans
        ((rejectIf_apply _ _ _ _).trans (if_neg (not_not.mpr (hok _)))))), rfl, ?_⟩
  rw [Wifi.answered_ok (hok _)]
  exact ⟨hstores _ rfl rfl, rfl⟩

/-- A network that is joined is dialled, or the driver starts with it. -/
theorem ConnectCase.dials {n : ℕ} {apConf : ApConfig} {conf : StaConfig} {wifi wifi' : Wifi}
    {err : EspErr} {calls : List WifiCall} (hok : env.AllOk)
    (h : ConnectCase env n apConf conf wifi err wifi' calls) :
    wifi'.mode = .apSta ∧ (.connect ∈ calls ∨ .start ∈ calls) := by
  cases h with
  | kept _ hconf => exact absurd (hok _) hconf
  | joining hmode => exact ⟨hmode, .inl (by simp)⟩
  | noMode _ hset => exact absurd (hok _) hset
  | noConfig _ _ hconf => exact absurd (hok _) hconf
  | started =>
      rw [Wifi.answered_ok (hok _)]
      exact ⟨(Wifi.enteredApSta_fields (hok _) _ _).2.1, .inr (by simp)⟩

theorem setSta_runs (hok : env.AllOk) {ssid password : CString}
    (hssid : stringField json "sta_ssid" = some ssid)
    (hpass : stringField json "sta_pass" = some password) (hvalid : ssid ≠ [])
    (hfits : ssid.length ≤ configWifiSsidMaxLen ∧ password.length ≤ configWifiPassMaxLen)
    (w : World Board Effect) :
    (Operation.joinNetwork ssid password).Runs pf (setSta pf env json) w := by
  have hargs : staRefused ssid password = false := by
    have := List.length_pos_of_ne_nil hvalid
    have hname : ssid.length ≤ 32 := hfits.1
    have hpass : password.length ≤ 64 := hfits.2
    simp only [staRefused, Bool.or_eq_false_iff, decide_eq_false_iff_not, staSsidMaxlen,
      staPassMaxlen]
    omega
  obtain ⟨-, hssid', hpass'⟩ := strncpy_of_accepted hargs
  have hedit : w.state.config.setWifiSta ssid password =
      { w.state.config with staSsid := ssid, staPass := password } := by
    unfold AppConfig.setWifiSta
    rw [hssid', hpass']
  obtain ⟨n, nvs, hrun, hstores⟩ := configSet_stores pf hok _ w hedit
  obtain ⟨err, wifi, calls, hdrive, hcase⟩ := connectDriver_cases pf env ssid password
    ⟨{ w.state with
      config := { w.state.config with staSsid := ssid, staPass := password }, nvs := nvs },
      n, w.shown⟩
  obtain ⟨rfl, hconf, -, -⟩ := hcase.ok hok
  obtain ⟨hmode, hdials⟩ := hcase.dials hok
  have hcall : wifiManagerConnectSta pf env ssid password w = .ok .ok _ :=
    (congrFun (if_neg (Bool.eq_false_iff.mp hargs)) w).trans ((bind_ok hrun).trans hdrive)
  unfold setSta
  rw [hssid, hpass]
  refine ⟨_, _, (bind_ok hcall).trans ((rejectIf_apply _ _ _ _).trans (if_neg (by simp))), rfl,
    hstores _ rfl rfl, hmode, ?_, ?_⟩
  · refine hconf.trans ?_
    unfold joinConfig
    rw [List.take_of_length_le hfits.1, List.take_of_length_le hfits.2]
  · exact hdials.imp (List.mem_map_of_mem (f := Effect.wifi))
      (List.mem_map_of_mem (f := Effect.wifi))

theorem disconnectSta_runs (hok : env.AllOk)
    (hfield : CJson.isTrue (json.getObjectItem (cstr "wifi_disconnect")) = true)
    (w : World Board Effect) :
    Operation.leaveNetwork.Runs pf (disconnectSta pf env json) w := by
  have hedit : AppConfig.setWifiSta [] [] w.state.config =
      { w.state.config with staSsid := [], staPass := [] } := rfl
  obtain ⟨n, nvs, hrun, hstores⟩ := configSet_stores pf hok (.setWifiSta [] [])
    { w with state := { w.state with wifi := w.state.wifi.timerStopped } } hedit
  obtain ⟨err, wifi, calls, hdrive, hcase⟩ := disconnectDriver_cases pf env
    ⟨{ w.state with config := { w.state.config with staSsid := [], staPass := [] }, nvs := nvs },
      n, w.shown⟩
  unfold disconnectSta
  rw [if_pos hfield]
  cases hcase with
  | noMode hset => exact absurd (hok _) hset
  | started =>
      have hcall : wifiManagerDisconnectSta pf env w = .ok _ _ :=
        (bind_ok (wifiUpdate_apply _ _)).trans ((bind_ok hrun).trans hdrive)
      refine ⟨_, _, (bind_ok hcall).trans
        ((rejectIf_apply _ _ _ _).trans (if_neg (not_not.mpr (hok _)))), rfl, hstores _ rfl rfl, ?_⟩
      rw [Wifi.answered_ok (hok _), Wifi.answered_ok (hok _)]
      exact ⟨rfl, rfl, by simp⟩

end

/-! ## Requests -/

/-- The largest body a route takes. -/
def Route.bodyMax : Route → ℕ
  | .login => 255
  | .configPost => 511
  | .power => 127
  | .tls => 8192
  | _ => 0

/-- What a handler has asked for when it starts to read the body: `handle_tls_upload`
allocates its buffer first. -/
def Route.firstRead : Route → ℕ
  | .tls => 1
  | _ => 0

/-- A request of a client with a session, after setup, to a device whose drivers accept. -/
structure Admitted (pf : Platform) (s : System) (a : Action) (req : Request) : Prop where
  running : s.running = true
  time : s.now ≤ a.env.now
  call : a.call = .request req
  session : ∃ token, authGetTokenFromRequest a.env.heapTail req = some token ∧
    s.device.validates a.env token = true
  setup : s.device.board.config.authInitialized = true
  drivers : a.env.AllOk

/-- What single operations need besides: the power button was left alone for a while, there is
memory for a certificate, and the USB task runs where there is a USB port. -/
structure Served (pf : Platform) (s : System) (a : Action) (req : Request) : Prop
    extends Admitted pf s a req where
  interval : s.device.board.gpio.lastPowerToggle = 0 ∨
    s.device.board.gpio.lastPowerToggle + minPowerToggleMs * 1000 ≤ a.env.now
  memory : a.env.AllFound
  usb : 1 < pf.target.serialPortMax → s.device.board.serial.usbReady = true

/-- These bytes are the body of the request, and they come in. -/
structure Carries (env : Env) (req : Request) (body : List UInt8) : Prop where
  length : req.contentLen = body.length
  arrives : ∃ m, Arrives env req.route.firstRead body.length body m

/-- The body says this to `cJSON_Parse`, or there is none. -/
def Says (pf : Platform) (route : Route) (body : List UInt8) : Option CJson → Prop
  | none => body = []
  | some json => body ≠ [] ∧ body.length ≤ route.bodyMax ∧ pf.cJSONParse (ofBuffer body) = some json

/-- The call is accepted and the operation done. -/
def Performs (pf : Platform) (s : System) (a : Action) (op : Operation) : Prop :=
  ∃ t es, (systemMachine pf).step s a = some (t, es) ∧
    (∀ status message, .answered (.error status message) ∉ es) ∧
    (op ≠ .restart → ∃ body, .answered (.ok body none) ∈ es) ∧ op.Done pf s.device es t.device

theorem effectsOf_append (es fs : List Event) :
    effectsOf (es ++ fs) = effectsOf es ++ effectsOf fs := List.filterMap_append

theorem effectsOf_effects (effects : List Effect) : effectsOf (effects.map .effect) = effects := by
  unfold effectsOf
  rw [List.filterMap_map]
  exact List.filterMap_some

/-- What a checked session and the board show. -/
theorem effectsOf_checked (token : CString) (now : ℕ) (effects : List Effect) :
    effectsOf ([validation token now true] ++ effects.map .effect) = effects := by
  rw [effectsOf_append, effectsOf_effects]
  rfl

theorem not_answered_checked (token : CString) (now : ℕ) (effects : List Effect) (r : Response) :
    .answered r ∉ [validation token now true] ++ effects.map Event.effect := by
  simp [validation]

section

variable {pf : Platform} {s : System} {a : Action} {req : Request} {op : Operation}

/-- A handler that answers with ok and has done the operation. -/
theorem performs_of_ok (hserved : Admitted pf s a req) {body : CString} {v : World Device Event}
    (hrun : handler pf a.env req s.device.start = .ok (.ok body none) v)
    (hquiet : ∀ r, .answered r ∉ v.shown) (hdone : op.Done pf s.device v.shown v.state) :
    Performs pf s a op := by
  have hcall : callHandler pf a.env a.call s.device.start = .ok (.ok body none) v := by
    rw [hserved.call]
    exact hrun
  refine ⟨_, _, systemStep_of_ok hserved.running hserved.time hcall, fun status message hmem => ?_,
    fun _ => ⟨body, by simp⟩, ?_, hdone.2⟩
  · rcases List.mem_append.mp hmem with hmem | hmem
    · exact hquiet _ hmem
    · simp at hmem
  · rw [effectsOf_append, show effectsOf [.answered (.ok body none)] = [] from rfl, List.append_nil]
    exact hdone.1

/-- The session is checked. -/
theorem requireAuth_served (hserved : Admitted pf s a req) :
    ∃ token, requireAuth a.env req s.device.start =
      .ok () ⟨s.device.checked a.env token, 0, [validation token a.env.now true]⟩ := by
  obtain ⟨token, htoken, hvalid⟩ := hserved.session
  exact ⟨token, requireAuth_checked htoken hvalid⟩

/-- The checks of a handler that needs a session and a changed password. -/
theorem whenUnlocked_apply (hserved : Admitted pf s a req) (body : BoardM Response) :
    ∃ token, whenUnlocked a.env req body s.device.start =
      onBoard body ⟨s.device.checked a.env token, 0, [validation token a.env.now true]⟩ := by
  obtain ⟨token, htoken, hvalid⟩ := hserved.session
  exact ⟨token, whenUnlocked_checked htoken hvalid hserved.setup body⟩

/-- A body of such a handler that returns. -/
theorem performs_of_body (hserved : Admitted pf s a req) {body : BoardM Response}
    (hhandler : handler pf a.env req = whenUnlocked a.env req body) {answer : CString}
    {v : World Board Effect} (hrun : body ⟨s.device.board, 0, []⟩ = .ok (.ok answer none) v)
    (happlied : op.Applied pf s.device.board v.shown v.state)
    (hpass : ∀ current new, op ≠ .changePassword current new) : Performs pf s a op := by
  obtain ⟨token, hchecked⟩ := whenUnlocked_apply hserved body
  have hfinal : handler pf a.env req s.device.start = .ok (.ok answer none)
      ⟨(s.device.checked a.env token).setBoard v.state, v.asked,
        [validation token a.env.now true] ++ v.shown.map .effect⟩ := by
    rw [hhandler, hchecked]
    exact onBoard_ok hrun
  refine performs_of_ok hserved hfinal (not_answered_checked token _ _)
    ⟨?_, fun current new h => absurd h (hpass current new)⟩
  rw [effectsOf_checked]
  exact happlied

/-- A body that comes in is read. -/
theorem readBody_carries {σ ε : Type} {env : Env} {body : List UInt8} {bufLen : ℕ}
    (hcarries : Carries env req body) (hne : body ≠ []) (hfits : body.length < bufLen)
    {w : World σ ε} (hw : w.asked = req.route.firstRead) :
    ∃ n, readBody env req bufLen w = .ok (.complete body) { w with asked := n } := by
  have hpos := List.length_pos_of_ne_nil hne
  have hlength := hcarries.length
  obtain ⟨m, harrives⟩ := hcarries.arrives
  rw [← hlength, ← hw] at harrives
  rcases readBody_cases env req bufLen w with
    ⟨hnone, -⟩ | ⟨-, -, body', m', harrives', hrun⟩ | ⟨-, hlost, -⟩
  · omega
  · obtain ⟨rfl, -⟩ := harrives'.unique harrives
    exact ⟨m', hrun⟩
  · have := hlost body m harrives
    omega

/-- A settings request up to its first field. -/
theorem readConfigBody_served (hserved : Admitted pf s a req) (hroute : req.route = .configPost)
    {body : List UInt8} (hcarries : Carries a.env req body) {json : CJson}
    (htold : Says pf .configPost body (some json)) :
    ∃ token n, readConfigBody pf a.env req s.device.start =
      .ok json ⟨s.device.checked a.env token, n, [validation token a.env.now true]⟩ := by
  obtain ⟨token, hauth⟩ := requireAuth_served hserved
  obtain ⟨hne, hmax, hparse⟩ := htold
  have hfits : body.length < 512 := Nat.lt_succ_of_le hmax
  obtain ⟨n, hread⟩ := readBody_carries hcarries hne hfits
    (w := ⟨s.device.checked a.env token, 0, [validation token a.env.now true]⟩)
      (by rw [hroute]; rfl)
  have hjson : readJson a.env pf req 512
      ⟨s.device.checked a.env token, 0, [validation token a.env.now true]⟩ =
        .ok json ⟨s.device.checked a.env token, n, [validation token a.env.now true]⟩ := by
    unfold readJson
    rw [bind_ok hread]
    simp only [hparse]
    rfl
  have hunlocked : ¬((s.device.checked a.env token).board.config.authInitialized = false ∧
      onlyCredentials json = false) := by
    rw [Device.checked_board, hserved.setup]
    simp
  refine ⟨token, n, ?_⟩
  unfold readConfigBody
  rw [bind_ok hauth, bind_ok hjson, bind_ok (read_apply _ _),
    bind_ok ((rejectIf_apply _ _ _ _).trans (if_neg hunlocked))]
  rfl

/-- A settings request whose settings are accepted. -/
theorem configPostUpToCredentials_served (hserved : Admitted pf s a req)
    (hroute : req.route = .configPost) {body : List UInt8} (hcarries : Carries a.env req body)
    {json : CJson} (htold : Says pf .configPost body (some json))
    {P : List Effect → Board → Prop}
    (hruns : ∀ n, ∃ v : World Board Effect,
      applySettings pf a.env json ⟨s.device.board, n, []⟩ = .ok () v ∧ P v.shown v.state) :
    ∃ token n board effects, configPostUpToCredentials pf a.env req s.device.start =
      .ok json ⟨(s.device.checked a.env token).setBoard board, n,
        [validation token a.env.now true] ++ effects.map .effect⟩ ∧ P effects board := by
  obtain ⟨token, n, hread⟩ := readConfigBody_served hserved hroute hcarries htold
  obtain ⟨v, hrun, hP⟩ := hruns n
  refine ⟨token, v.asked, v.state, v.shown, ?_, hP⟩
  have hsettings := onBoard_ok
    (w := ⟨s.device.checked a.env token, n, [validation token a.env.now true]⟩) hrun
  unfold configPostUpToCredentials
  rw [bind_ok hread, bind_ok hsettings]
  rfl

/-- A settings request without credentials. -/
theorem performs_of_setting (hserved : Admitted pf s a req) (hroute : req.route = .configPost)
    {body : List UInt8} (hcarries : Carries a.env req body) {json : CJson}
    (htold : Says pf .configPost body (some json))
    (hruns : ∀ n, op.Runs pf (applySettings pf a.env json) ⟨s.device.board, n, []⟩)
    (hnone : stringField json "new_password" = none)
    (hpass : ∀ current new, op ≠ .changePassword current new) : Performs pf s a op := by
  obtain ⟨token, n, board, effects, hrun, happlied⟩ :=
    configPostUpToCredentials_served (P := op.Applied pf s.device.board) hserved hroute
      hcarries htold
      fun n => by
        obtain ⟨v, effects, hrun, hshown, happlied⟩ := hruns n
        rw [List.nil_append] at hshown
        exact ⟨v, hrun, hshown ▸ happlied⟩
  have hfinal : handler pf a.env req s.device.start = .ok (.ok okBody none)
      ⟨(s.device.checked a.env token).setBoard board, n,
        [validation token a.env.now true] ++ effects.map .effect⟩ := by
    unfold handler
    rw [hroute]
    show handleConfigPost pf a.env req s.device.start = _
    unfold handleConfigPost
    rw [bind_ok hrun, bind_ok (changeCredentials_absent hnone _)]
    rfl
  refine performs_of_ok hserved hfinal (not_answered_checked token _ _)
    ⟨?_, fun current new h => absurd h (hpass current new)⟩
  rw [effectsOf_checked]
  exact happlied

/-- The fields of a password change. -/
theorem fields_changePassword {current new : CString} {json : CJson}
    (hjson : json =
      objectOf [("current_password", .string current), ("new_password", .string new)]) :
    onlyCredentials json = true ∧ stringField json "new_password" = some new ∧
      stringField json "current_password" = some current ∧ stringField json "username" = none := by
  have hnames : json.childNames = [some (cstr "current_password"), some (cstr "new_password")] := by
    simp [hjson, objectOf, CJson.childNames]
  have hmembers : ∀ m ∈ [("current_password", CJson.string current), ("new_password", .string new)],
      m.1 ∈ requestNames := by simp [requestNames]
  have hfield : ∀ name ∈ requestNames, stringField json name = CJson.string?
      (([("current_password", CJson.string current), ("new_password", .string new)].find?
        fun m => decide (name = m.1)).map Prod.snd) :=
    fun name hname => hjson ▸ stringField_objectOf hmembers hname
  refine ⟨?_, hfield _ (by decide), hfield _ (by decide), hfield _ (by decide)⟩
  unfold onlyCredentials
  rw [hnames]
  decide +kernel

/-- With the new hash in effect and in flash the password is changed. -/
theorem applied_changePassword {board board' : Board} {effects : List Effect}
    {current new username : CString} {salt : Vector UInt8 configAuthSaltLen}
    (huser : username = board.config.authUser)
    (hnamed : board.config.authUser.length ≤ configAuthUserMaxLen)
    (hconf : board'.config = board.config.setAuth pf.sha256 salt username new)
    (hstored : ∀ key ∈ savedKeys pf.target.serialPortMax,
      board'.nvs key = some (board'.config.saved key)) :
    (Operation.changePassword current new).Applied pf board effects board' := by
  have hset : board'.config = { board.config with
      authHash := computeHash pf.sha256 new salt.toList, authSalt := salt.toList
      authHashVer := 1, authInitialized := true } := by
    rw [hconf, huser]
    unfold AppConfig.setAuth
    simp only [strncpy_eq_self (Nat.lt_succ_of_le hnamed)]
  refine ⟨?_, computeHash pf.sha256 new salt.toList, salt.toList, 1, hset, fun key hkey => ?_⟩
  · rw [hconf]
    exact AppConfig.checkPassword_setAuth _ _ _ _ _
  · rw [← hset]
    exact hstored key hkey

/-- A settings request for a new password. -/
theorem performs_changePassword (hserved : Admitted pf s a req) (hroute : req.route = .configPost)
    {body : List UInt8} (hcarries : Carries a.env req body) {current new : CString}
    (htold : Says pf .configPost body
      (some (objectOf [("current_password", .string current), ("new_password", .string new)])))
    (hvalid : minPasswordLen ≤ new.length)
    (hcurrent : s.device.board.config.checkPassword pf.sha256 current = true)
    (hnamed : s.device.board.config.authUser.length ≤ configAuthUserMaxLen) :
    Performs pf s a (.changePassword current new) := by
  obtain ⟨json, hjson⟩ : ∃ json, json =
      objectOf [("current_password", .string current), ("new_password", .string new)] := ⟨_, rfl⟩
  rw [← hjson] at htold
  obtain ⟨honly, hnew, hold, husername⟩ := fields_changePassword hjson
  -- a request for credentials only leaves the settings alone
  obtain ⟨token, n, board, effects, hrun, hsame⟩ :=
    configPostUpToCredentials_served (P := fun _ board => board = s.device.board) hserved hroute
      hcarries htold fun n => by
        rw [applySettings_of_onlyCredentials honly]
        exact ⟨_, rfl, rfl⟩
  subst hsame
  let w : World Device Event := ⟨(s.device.checked a.env token).setBoard s.device.board, n,
    [validation token a.env.now true] ++ effects.map .effect⟩
  -- long enough, with the right old password, and no new name
  have haccepted : credentialsAccepted pf json w.state.board.config = true := by
    rw [credentialsAccepted_iff hnew, currentPasswordOk, usernameRefused, hold, husername]
    exact ⟨hvalid, hcurrent, rfl⟩
  have hcases := changeCredentials_cases pf a.env json w
  obtain ⟨v, hchange⟩ := (changeCredentials_ok_iff (w := w) haccepted).mpr (hserved.drivers _)
  rw [hchange] at hcases
  cases hcases with
  | absent hnone => cases hnew.symm.trans hnone
  | @changed _ board newPass salt _ hpass _ hconf hstored hstate hshown =>
      obtain rfl := Option.some.inj (hnew.symm.trans hpass)
      have hfinal : handler pf a.env req s.device.start = .ok (.ok okBody none) v := by
        unfold handler
        rw [hroute]
        show handleConfigPost pf a.env req s.device.start = _
        unfold handleConfigPost
        rw [bind_ok hrun, bind_ok hchange]
        rfl
      have huser : newUsername json w.state.board.config = s.device.board.config.authUser := by
        unfold newUsername
        rw [husername]
        rfl
      refine performs_of_ok hserved hfinal (fun r hmem => ?_) ⟨?_, fun _ _ _ => ⟨?_, ?_⟩⟩
      · rw [hshown] at hmem
        rcases List.mem_append.mp hmem with hmem | hmem
        · exact not_answered_checked token _ _ r hmem
        · simp at hmem
      · rw [hstate]
        exact applied_changePassword huser hnamed hconf (hstored hserved.drivers)
      · rw [hstate]
        exact fun env token' => not_validates_of_dead ((gone_revoked token' _).dead env)
      · rw [hstate]
        exact fun _ => rfl

/-- The answer of `handle_esp_reboot` is sent before the restart. -/
theorem performs_restart (hserved : Admitted pf s a req) (hroute : req.route = .reboot) :
    Performs pf s a .restart := by
  obtain ⟨token, hchecked⟩ := whenUnlocked_apply hserved espRestart
  have herror : onBoard espRestart
      ⟨s.device.checked a.env token, 0, [validation token a.env.now true]⟩ = .error .restart
        ⟨(s.device.checked a.env token).setBoard s.device.board, 0,
          [validation token a.env.now true] ++ [Effect.restart].map .effect⟩ :=
    onBoard_error (w := ⟨s.device.checked a.env token, 0, [validation token a.env.now true]⟩)
      (v := ⟨s.device.board, 0, [.restart]⟩) rfl
  have hrun : callHandler pf a.env a.call s.device.start = .error .restart
      ⟨(s.device.checked a.env token).setBoard s.device.board, 0,
        [validation token a.env.now true] ++ [Effect.restart].map .effect⟩ := by
    rw [hserved.call]
    show handler pf a.env req s.device.start = _
    unfold handler
    rw [hroute]
    exact hchecked.trans herror
  refine ⟨_, _, systemStep_of_restart hserved.running hserved.time hrun,
    fun status message hmem => ?_, fun hne => absurd rfl hne, ?_, nofun⟩
  · exact not_answered_checked token a.env.now [.restart] _ hmem
  · exact effectsOf_checked token a.env.now [.restart]

/-- Without a body the relay is toggled. -/
theorem performs_togglePower (hserved : Served pf s a req) (hroute : req.route = .power)
    (hnone : req.contentLen = 0) : Performs pf s a .togglePower := by
  have hhandler : handler pf a.env req = whenUnlocked a.env req (powerBody pf a.env req) := by
    unfold handler
    rw [hroute]
    rfl
  have hask : powerAsk pf a.env req ⟨s.device.board, 0, []⟩ =
      .ok .toggle ⟨s.device.board, 0, []⟩ := by
    have hread : readBody a.env req 128 (⟨s.device.board, 0, []⟩ : World Board Effect) =
        .ok .absent ⟨s.device.board, 0, []⟩ := by
      unfold readBody
      rw [if_pos hnone]
      rfl
    unfold powerAsk
    rw [bind_ok hread]
    rfl
  obtain ⟨err, es, board, hrun, hcase⟩ :=
    powerSet_cases a.env (!s.device.board.gpio.powerOn) ⟨s.device.board, 0, []⟩
  cases hcase with
  | free hon => simp at hon
  | refused _ htoggled hsoon =>
      have := hserved.interval
      dsimp only at htoggled hsoon
      omega
  | switched =>
      let board : Board := { s.device.board with gpio := { s.device.board.gpio with
        powerOn := !s.device.board.gpio.powerOn, lastPowerToggle := a.env.now } }
      have hcall : PowerCall.toggle.run a.env ⟨s.device.board, 0, []⟩ =
          .ok .ok ⟨board, 0, [.gpioLevel .sbcPower (!s.device.board.gpio.powerOn)]⟩ :=
        (bind_ok (read_apply _ _)).trans hrun
      obtain ⟨answer, hbody⟩ : ∃ answer, powerBody pf a.env req ⟨s.device.board, 0, []⟩ =
          .ok (.ok answer none)
            ⟨board, 0, [.gpioLevel .sbcPower (!s.device.board.gpio.powerOn)]⟩ := by
        rw [powerBody_eq, bind_ok hask]
        unfold powerAnswer
        rw [bind_ok hcall]
        exact ⟨_, rfl⟩
      exact performs_of_body hserved.toAdmitted hhandler hbody ⟨rfl, rfl⟩ nofun

theorem performs_reset (hserved : Admitted pf s a req) (hroute : req.route = .reset) :
    Performs pf s a .reset := by
  have hhandler : handler pf a.env req = whenUnlocked a.env req (resetBody a.env) := by
    unfold handler
    rw [hroute]
    rfl
  let board : Board :=
    { s.device.board with gpio := { s.device.board.gpio with lastResetTime := a.env.now } }
  have hpulse : gpioSbcReset a.env ⟨s.device.board, 0, []⟩ = .ok .ok ⟨board, 0,
      [.gpioDirection .sbcReset true, .gpioLevel .sbcReset false,
        .gpioDirection .sbcReset false]⟩ :=
    rfl
  have hbody : resetBody a.env ⟨s.device.board, 0, []⟩ = .ok (.ok okBody none) _ :=
    (bind_ok hpulse).trans (bind_ok ((rejectIf_apply _ _ _ _).trans (if_neg (by simp))))
  exact performs_of_body hserved hhandler hbody rfl nofun

theorem certsSave_ok {env : Env} (hok : env.AllOk) (edit : TlsCerts → TlsCerts)
    (w : World Board Effect) : certsSave env edit w =
      .ok () { w with
        state := { w.state with certs := edit w.state.certs }, asked := w.asked + 1 } := by
  unfold certsSave
  rw [bind_ok (ask_apply _ _), update_apply, if_pos (hok _)]

theorem checkPair_ok {cert key : CString} (hcert : pf.x509CrtParse cert = 0)
    (hkey : pf.pkParseKey key = 0) (hpair : pf.pkCheckPair cert key = 0)
    (hcertSize : cert.length < maxCertSize) (hkeySize : key.length < maxCertSize)
    (w : World Board Effect) : checkPair pf cert key w = .ok () w := by
  unfold checkPair
  rw [bind_ok ((rejectIf_apply _ _ _ _).trans (if_neg (not_not.mpr hcert))),
    bind_ok ((rejectIf_apply _ _ _ _).trans (if_neg (not_not.mpr hkey))),
    bind_ok ((rejectIf_apply _ _ _ _).trans (if_neg (not_not.mpr hpair)))]
  exact (rejectIf_apply _ _ _ _).trans (if_neg (by omega))

theorem performs_installCertificate (hserved : Served pf s a req) (hroute : req.route = .tls)
    {body : List UInt8} (hcarries : Carries a.env req body) {cert key : CString}
    (htold : Says pf .tls body (some (objectOf [("cert", .string cert), ("key", .string key)])))
    (hfits : (Operation.installCertificate cert key).Fits pf s.device.board.config) :
    Performs pf s a (.installCertificate cert key) := by
  let json := objectOf [("cert", .string cert), ("key", .string key)]
  obtain ⟨hne, hmax, hparse⟩ := htold
  obtain ⟨hcert, hkey, hpair, hcertSize, hkeySize⟩ := hfits
  have hmembers : ∀ m ∈ [("cert", CJson.string cert), ("key", .string key)],
      m.1 ∈ requestNames := by simp [requestNames]
  have hcertField : CJson.string? (json.getObjectItem (cstr "cert")) = some cert :=
    stringField_objectOf hmembers (by decide)
  have hkeyField : CJson.string? (json.getObjectItem (cstr "key")) = some key :=
    stringField_objectOf hmembers (by decide)
  have hhandler : handler pf a.env req = whenUnlocked a.env req (tlsBody pf a.env req) := by
    unfold handler
    rw [hroute]
    rfl
  have hlength := hcarries.length
  have hpos := List.length_pos_of_ne_nil hne
  have hlarge : body.length ≤ 8192 := hmax
  obtain ⟨n, hread⟩ := readBody_carries hcarries hne (by omega : body.length < req.contentLen + 1)
    (w := (⟨s.device.board, 1, []⟩ : World Board Effect)) (by rw [hroute]; rfl)
  obtain ⟨answer, hbody⟩ : ∃ answer, tlsBody pf a.env req ⟨s.device.board, 0, []⟩ =
      .ok (.ok answer none)
        ⟨{ s.device.board with certs := ⟨some cert, some key⟩ }, n + 4, []⟩ := by
    unfold tlsBody
    rw [bind_ok ((rejectIf_apply _ _ _ _).trans (if_neg (by omega))), bind_ok (ask_apply _ _),
      bind_ok ((rejectIf_apply _ _ _ _).trans (if_neg (by simp [hserved.memory 0]))), bind_ok hread]
    dsimp only
    rw [hparse]
    dsimp only
    rw [hcertField, hkeyField]
    dsimp only
    rw [bind_ok (checkPair_ok hcert hkey hpair hcertSize hkeySize _), bind_ok (ask_apply _ _),
      bind_ok ((rejectIf_apply _ _ _ _).trans (if_neg (not_not.mpr (hserved.drivers _)))),
      bind_ok (certsSave_ok hserved.drivers _ _), bind_ok (certsSave_ok hserved.drivers _ _),
      bind_ok (ask_apply _ _),
      bind_ok ((rejectIf_apply _ _ _ _).trans (if_neg (not_not.mpr (hserved.drivers _))))]
    exact ⟨_, rfl⟩
  exact performs_of_body hserved.toAdmitted hhandler hbody rfl nofun

/-! ## Every operation -/

/-- A body with the field of the stage at `i`, which carries the operation out. -/
theorem performs_of_stage (hserved : Admitted pf s a req) (hroute : req.route = .configPost)
    {body : List UInt8} (hcarries : Carries a.env req body) {members : List (String × CJson)}
    (htold : Says pf .configPost body (some (objectOf members))) (i : ℕ) {name : String}
    {stage : BoardM Unit}
    (hstage : (settingNames.zip (settings pf a.env (objectOf members)))[i]? = some (name, stage))
    (hmembers : ∀ m ∈ members, m.1 ∈ requestNames)
    (honly : ∀ other ∈ "new_password" :: settingNames, other ≠ name → ∀ m ∈ members, other ≠ m.1)
    (hname : name ≠ "new_password")
    (hruns : ∀ w, w.state = s.device.board → op.Runs pf stage w)
    (hpass : ∀ current new, op ≠ .changePassword current new) : Performs pf s a op := by
  refine performs_of_setting hserved hroute hcarries htold (fun n => ?_) ?_ hpass
  · rw [applySettings_objectOf hmembers (List.mem_of_getElem? hstage) fun other hother =>
      honly other (List.mem_cons_of_mem _ hother)]
    exact hruns _ rfl
  · have habsent : ∀ m ∈ members, "new_password" ≠ m.1 := honly _ (by simp) hname.symm
    have hnone : members.find? (fun m => decide ("new_password" = m.1)) = none := by
      rw [List.find?_eq_none]
      exact fun m hm => by simpa using habsent m hm
    rw [stringField_objectOf hmembers (by decide), hnone]
    rfl

/-- **A request for an operation has it done.**  It comes with a session, after setup, with
its body complete, and finds drivers that accept; its arguments are valid and fit. -/
theorem performs_of_asks (hserved : Served pf s a req) {json : Option CJson}
    (hasks : Asks pf op req.route json) {body : List UInt8} (hcarries : Carries a.env req body)
    (htold : Says pf req.route body json) (hvalid : op.Valid)
    (hfits : op.Fits pf s.device.board.config)
    (hnamed : s.device.board.config.authUser.length ≤ configAuthUserMaxLen) :
    Performs pf s a op := by
  generalize hroute : req.route = route at hasks htold
  have hasked := hserved.toAdmitted
  have hok := hserved.drivers
  -- how a field of the body is looked up
  have hitem : ∀ members : List (String × CJson), (∀ m ∈ members, m.1 ∈ requestNames) →
      ∀ name ∈ requestNames, (objectOf members).getObjectItem (cstr name) =
        (members.find? fun m => decide (name = m.1)).map Prod.snd :=
    fun members hmembers name hname => getObjectItem_objectOf hmembers hname
  cases hasks with
  | reset => exact performs_reset hasked hroute
  | togglePower =>
      have hnone : body = [] := htold
      refine performs_togglePower hserved hroute ?_
      rw [hcarries.length, hnone]
      rfl
  | restart => exact performs_restart hasked hroute
  | @setBaudRate port baud rate' port' hrate hport =>
      have hmembers : ∀ m ∈ [("baud_rate", CJson.number rate'), ("port", .number port')],
          m.1 ∈ requestNames := by simp [requestNames]
      refine performs_of_stage hasked hroute hcarries htold 0 rfl hmembers (by simp [settingNames])
        (by decide) (fun w hw => ?_) nofun
      refine setBaudRate_runs hok ?_ ?_ hrate.1 hport.2 hvalid hfits w (hw ▸ hserved.usb)
      · rw [hitem _ hmembers "baud_rate" (by decide)]
        rfl
      · rw [hitem _ hmembers "port" (by decide)]
        rfl
  | setDeviceName name =>
      have hmembers : ∀ m ∈ [("device_name", CJson.string name)], m.1 ∈ requestNames := by
        simp [requestNames]
      have hfield :
          stringField (objectOf [("device_name", .string name)]) "device_name" = some name :=
        stringField_objectOf hmembers (by decide)
      exact performs_of_stage hasked hroute hcarries htold 4 rfl hmembers (by simp [settingNames])
        (by decide) (fun w _ => setDeviceName_runs hok hfield hvalid hfits w) nofun
  | setAccessPoint ssid password =>
      have hmembers : ∀ m ∈ [("ap_ssid", CJson.string ssid), ("ap_pass", .string password)],
          m.1 ∈ requestNames := by simp [requestNames]
      exact performs_of_stage hasked hroute hcarries htold 1 rfl hmembers (by simp [settingNames])
        (by decide) (fun w _ => setAp_runs hok (stringField_objectOf hmembers (by decide))
          (stringField_objectOf hmembers (by decide)) hvalid hfits w) nofun
  | joinNetwork ssid password =>
      have hmembers : ∀ m ∈ [("sta_ssid", CJson.string ssid), ("sta_pass", .string password)],
          m.1 ∈ requestNames := by simp [requestNames]
      exact performs_of_stage hasked hroute hcarries htold 2 rfl hmembers (by simp [settingNames])
        (by decide) (fun w _ => setSta_runs hok (stringField_objectOf hmembers (by decide))
          (stringField_objectOf hmembers (by decide)) hvalid hfits w) nofun
  | leaveNetwork =>
      have hmembers : ∀ m ∈ [("wifi_disconnect", CJson.bool true)], m.1 ∈ requestNames := by
        simp [requestNames]
      refine performs_of_stage hasked hroute hcarries htold 7 rfl hmembers (by simp [settingNames])
        (by decide) (fun w _ => disconnectSta_runs hok ?_ w) nofun
      rw [hitem _ hmembers "wifi_disconnect" (by decide)]
      rfl
  | setNtpServer server =>
      have hmembers : ∀ m ∈ [("ntp_server", CJson.string server)], m.1 ∈ requestNames := by
        simp [requestNames]
      have hfield : stringField (objectOf [("ntp_server", .string server)]) "ntp_server" =
          some server := stringField_objectOf hmembers (by decide)
      exact performs_of_stage hasked hroute hcarries htold 5 rfl hmembers (by simp [settingNames])
        (by decide) (fun w _ => setNtpServer_runs hok hfield hfits w) nofun
  | setTimezone tz =>
      have hmembers : ∀ m ∈ [("timezone", CJson.string tz)], m.1 ∈ requestNames := by
        simp [requestNames]
      have hfield : stringField (objectOf [("timezone", .string tz)]) "timezone" = some tz :=
        stringField_objectOf hmembers (by decide)
      exact performs_of_stage hasked hroute hcarries htold 6 rfl hmembers (by simp [settingNames])
        (by decide) (fun w _ => setTimezone_runs hok hfield hfits w) nofun
  | setPowerDefault on =>
      have hmembers : ∀ m ∈ [("power_on_default", CJson.bool on)], m.1 ∈ requestNames := by
        simp [requestNames]
      refine performs_of_stage hasked hroute hcarries htold 3 rfl hmembers (by simp [settingNames])
        (by decide) (fun w _ => setPowerDefault_runs hok ?_ w) nofun
      rw [hitem _ hmembers "power_on_default" (by decide)]
      rfl
  | changePassword current new =>
      exact performs_changePassword hasked hroute hcarries htold hvalid hfits hnamed
  | installCertificate cert key =>
      exact performs_installCertificate hserved hroute hcarries htold hfits

end

end WebTerminal
