import WebTerminal.Server.Handlers

/-!
# POST /api/config

`handle_config_post` applies its optional fields one after the other and returns
from the middle at the first one it refuses.  The fields before the credentials
are the list `settings` of procedures over the board; the credentials come last
because they also revoke sessions and sockets.
-/

set_option autoImplicit false

namespace WebTerminal

open Proc

/-- `MIN_PASSWORD_LEN` -/
abbrev minPasswordLen : ℕ := 8

/-- `is_credential_key` -/
def isCredentialKey : Option CString → Bool
  | none => false
  | some key =>
      key == cstr "new_password" || key == cstr "current_password" || key == cstr "username"

/-- The test of setup mode on a body: nothing but credentials, and a new password
among them. -/
def onlyCredentials (json : CJson) : Bool :=
  json.childNames.all isCredentialKey && json.childNames.contains (some (cstr "new_password"))

/-- `valid_bauds` -/
def validBauds : List UInt32 :=
  [9600, 19200, 38400, 57600, 115200, 230400, 460800, 921600, 1500000]

/-- A field that is a string. -/
def stringField (json : CJson) (name : String) : Option CString :=
  CJson.string? (json.getObjectItem (cstr name))

section

variable (pf : Platform) (env : Env) (json : CJson)

/-- `baud_rate` and `port` -/
def setBaudRate : BoardM Unit :=
  match CJson.number? (json.getObjectItem (cstr "baud_rate")) with
  | none => return ()
  | some value =>
      let newBaud := pf.toUInt32 value
      let port : ℤ :=
        match CJson.number? (json.getObjectItem (cstr "port")) with
        | some value => pf.toInt value
        | none => 0
      onlyIf (newBaud ∈ validBauds ∧ 0 ≤ port ∧ port < pf.target.serialPortMax) do
        let _ ← configSetBaudRatePort pf env port newBaud
        serialPortSetBaudRate pf env port newBaud

/-- The check on `ap_ssid`. -/
def apSsidRefused (ssid : CString) : Bool := decide (ssid.length = 0 ∨ 27 < ssid.length)

/-- The check on `ap_pass`. -/
def apPassRefused (pass : CString) : Bool := decide (0 < pass.length ∧ pass.length < 8)

/-- `ap_ssid` and `ap_pass` -/
def setAp : BoardM Unit :=
  match stringField json "ap_ssid", stringField json "ap_pass" with
  | some ssid, some pass => do
      rejectIf (apSsidRefused ssid = true) 400 "AP SSID must be 1-27 characters"
      rejectIf (apPassRefused pass = true) 400
        "AP password must be 8+ characters or empty for open"
      let err ← wifiManagerUpdateAp pf env ssid pass
      rejectIf (err ≠ .ok) 400 "AP reconfiguration failed"
  | _, _ => return ()

/-- `sta_ssid` and `sta_pass` -/
def setSta : BoardM Unit :=
  match stringField json "sta_ssid", stringField json "sta_pass" with
  | some ssid, some pass => do
      let err ← wifiManagerConnectSta pf env ssid pass
      rejectIf (err ≠ .ok) 400 "Invalid SSID or password"
  | _, _ => return ()

/-- `power_on_default` -/
def setPowerDefault : BoardM Unit :=
  match CJson.bool? (json.getObjectItem (cstr "power_on_default")) with
  | some powerOn => do
      let _ ← configSetPowerOnDefault pf env powerOn
      return ()
  | none => return ()

/-- `device_name` -/
def setDeviceName : BoardM Unit :=
  match stringField json "device_name" with
  | some name =>
      onlyIf (0 < name.length) do
        let _ ← configSetDeviceName pf env name
        wifiManagerUpdateHostname env name
  | none => return ()

/-- `ntp_server` -/
def setNtpServer : BoardM Unit :=
  match stringField json "ntp_server" with
  | some server => do
      let _ ← configSetNtpServer pf env server
      return ()
  | none => return ()

/-- `timezone` -/
def setTimezone : BoardM Unit :=
  match stringField json "timezone" with
  | some tz => do
      let _ ← configSetTimezone pf env tz
      update fun board => { board with tz := tz }
  | none => return ()

/-- `wifi_disconnect` -/
def disconnectSta : BoardM Unit :=
  if CJson.isTrue (json.getObjectItem (cstr "wifi_disconnect")) then do
    let err ← wifiManagerDisconnectSta pf env
    rejectIf (err ≠ .ok) 400 "Could not switch to AP mode"
  else return ()

/-- The fields before the credentials, in the order they are applied. -/
def settings : List (BoardM Unit) :=
  [setBaudRate pf env json, setAp pf env json, setSta pf env json, setPowerDefault pf env json,
    setDeviceName pf env json, setNtpServer pf env json, setTimezone pf env json,
    disconnectSta pf env json]

/-- All fields before the credentials. -/
def applySettings : BoardM Unit := (settings pf env json).forM id

/-- The test on `current_password`. -/
def currentPasswordOk (conf : AppConfig) : Bool :=
  match stringField json "current_password" with
  | some password => conf.checkPassword pf.sha256 password
  | none => false

/-- The test on `username`. -/
def usernameRefused : Bool :=
  match stringField json "username" with
  | some username => decide (username.length = 0 ∨ configAuthUserMaxLen < username.length)
  | none => false

/-- The user name a credential change installs. -/
def newUsername (conf : AppConfig) : CString := (stringField json "username").getD conf.authUser

/-- `new_password`, `current_password` and `username` -/
def changeCredentials : Handler Unit :=
  match stringField json "new_password" with
  | none => return ()
  | some newPass => do
      rejectIf (newPass.length < minPasswordLen) 400 "New password must be 8+ characters"
      let board ← read Device.board
      rejectIf (currentPasswordOk pf json board.config = false) 401 "Current password required"
      rejectIf (usernameRefused json = true) 400 "Username must be 1-32 characters"
      let _ ← onBoard (configSetAuth pf env (newUsername json board.config) newPass)
      revokeAll

end

section

variable (pf : Platform) (env : Env) (req : Request)

/-- `handle_config_post` up to the first field: the body, if it may be applied. -/
def readConfigBody : Handler CJson := do
  requireAuth env req
  let json ← readJson env pf req 512
  let board ← read Device.board
  rejectIf (board.config.authInitialized = false ∧ onlyCredentials json = false) 403 setupLockedMsg
  return json

/-- `handle_config_post` up to the credentials. -/
def configPostUpToCredentials : Handler CJson := do
  let json ← readConfigBody pf env req
  onBoard (applySettings pf env json)
  return json

/-- `handle_config_post` -/
def handleConfigPost : Handler Response := do
  let json ← configPostUpToCredentials pf env req
  changeCredentials pf env json
  return .ok okBody none

end

/-! ## Setup mode -/

/-- A body that passes the test of setup mode has no other field, in any case of
its letters. -/
theorem getObjectItem_of_onlyCredentials {json : CJson} (h : onlyCredentials json = true)
    {name : CString} (hname : ∀ key, isCredentialKey (some key) = true →
      CJson.sameName name key = false) : json.getObjectItem name = none := by
  unfold onlyCredentials at h
  simp only [Bool.and_eq_true, List.all_eq_true] at h
  exact CJson.getObjectItem_eq_none fun child hchild => hname child (h.1 _ hchild)

/-- The test of `is_credential_key` by cases. -/
theorem isCredentialKey_cases {key : CString} (h : isCredentialKey (some key) = true) :
    key = cstr "new_password" ∨ key = cstr "current_password" ∨ key = cstr "username" := by
  simpa [isCredentialKey, or_assoc] using h

theorem getObjectItem_setting {json : CJson} (h : onlyCredentials json = true) {name : String}
    (hname : name ∈ ["baud_rate", "ap_ssid", "sta_ssid", "power_on_default", "device_name",
      "ntp_server", "timezone", "wifi_disconnect"]) : json.getObjectItem (cstr name) = none := by
  apply getObjectItem_of_onlyCredentials h
  intro key hkey
  simp only [List.mem_cons, List.not_mem_nil, or_false] at hname
  rcases isCredentialKey_cases hkey with rfl | rfl | rfl <;>
    rcases hname with rfl | rfl | rfl | rfl | rfl | rfl | rfl | rfl <;> decide

/-- With nothing but credentials in the body no setting is touched. -/
theorem applySettings_of_onlyCredentials {json : CJson} (h : onlyCredentials json = true)
    (pf : Platform) (env : Env) : applySettings pf env json = return () := by
  have hnone : ∀ name ∈ ["baud_rate", "ap_ssid", "sta_ssid", "power_on_default", "device_name",
      "ntp_server", "timezone", "wifi_disconnect"], json.getObjectItem (cstr name) = none :=
    fun name hname => getObjectItem_setting h hname
  unfold applySettings settings setBaudRate setAp setSta setPowerDefault setDeviceName setNtpServer
    setTimezone disconnectSta stringField
  rw [hnone "baud_rate" (by decide), hnone "ap_ssid" (by decide), hnone "sta_ssid" (by decide),
    hnone "power_on_default" (by decide), hnone "device_name" (by decide),
    hnone "ntp_server" (by decide), hnone "timezone" (by decide),
    hnone "wifi_disconnect" (by decide)]
  rfl

end WebTerminal
