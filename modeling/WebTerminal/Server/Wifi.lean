import Mathlib.Data.List.DropRight
import WebTerminal.Server.Board

/-!
# The WiFi manager

The functions of `wifi_manager.c` that the handlers call.  A configuration or a
mode the driver accepts takes effect in the state of the driver; what the driver
does on the air is not modelled.
-/

set_option autoImplicit false

namespace WebTerminal

open Proc

/-- `STA_SSID_MAXLEN` -/
abbrev staSsidMaxlen : ℕ := 32

/-- `STA_PASS_MAXLEN` -/
abbrev staPassMaxlen : ℕ := 64

/-- One digit of `%02X`. -/
def hexDigitUpper (n : UInt8) : UInt8 := if n < 10 then 48 + n else 55 + n

/-- `build_ap_ssid`, for a buffer of 33 bytes. -/
def buildApSsid (mac : UInt8 × UInt8) (base : CString) : CString :=
  (strncpy 28 base ++ [45, hexDigitUpper (mac.1 / 16), hexDigitUpper (mac.1 % 16),
    hexDigitUpper (mac.2 / 16), hexDigitUpper (mac.2 % 16)]).take 32

/-- A letter or a digit. -/
def isAlnum (c : UInt8) : Bool :=
  (97 ≤ c && c ≤ 122) || (65 ≤ c && c ≤ 90) || (48 ≤ c && c ≤ 57)

/-- The loop of `sanitize_hostname` over the bytes of `name` still to read. -/
def sanitizeLoop (outLen : ℕ) : CString → CString → CString
  | [], out => out
  | c :: rest, out =>
      if outLen - 1 ≤ out.length then out
      else if isAlnum c then sanitizeLoop outLen rest (out ++ [c])
      else if (c = 32 ∨ c = 95 ∨ c = 46) ∧ 0 < out.length ∧ out.getLast? ≠ some 45 then
        sanitizeLoop outLen rest (out ++ [45])
      else sanitizeLoop outLen rest out

/-- `sanitize_hostname` -/
def sanitizeHostname (name : CString) (outLen : ℕ) : CString :=
  (sanitizeLoop outLen name []).rdropWhile (· = 45)

/-- What a call the driver accepts changes. -/
def Wifi.drive (wifi : Wifi) : WifiCall → Wifi
  | .setMode mode => { wifi with driverMode := mode }
  | .setApConfig conf => { wifi with apConfig := conf }
  | .setStaConfig conf => { wifi with staConfig := conf }
  | .start => { wifi with driverStarted := true }
  | .stop => { wifi with driverStarted := false }
  | .setHostname name => { wifi with hostname := name }
  | .mdnsHostname name => { wifi with mdnsHostname := name }
  | .mdnsInstance name => { wifi with mdnsInstance := name }
  | .mdnsService name => { wifi with mdnsService := name }
  | .connect | .disconnect | .scanStart | .clearApList => wifi

/-- An edit of the state of the WiFi manager. -/
def wifiUpdate (edit : Wifi → Wifi) : BoardM Unit :=
  update fun board => { board with wifi := edit board.wifi }

section

variable (pf : Platform) (env : Env)

/-- A call into the driver. -/
def wifiCall (call : WifiCall) : BoardM EspErr := do
  emit (.wifi call)
  let err ← ask env.err
  wifiUpdate fun wifi => if err = .ok then wifi.drive call else wifi
  return err

/-- `start_ap` -/
def startAp (ssid password : CString) : BoardM EspErr :=
  wifiCall env (.setApConfig
    { ssid := ssid.take 32, ssidLen := ssid.length, password := password.take 64,
      authOpen := decide (password.length < 8) })

/-- Start the access point under the stored name. -/
def startStoredAp : BoardM EspErr := do
  let conf ← read Board.config
  startAp env (buildApSsid pf.mac conf.apSsid) conf.apPass

/-- `wifi_manager_update_hostname` -/
def wifiManagerUpdateHostname (deviceName : CString) : BoardM Unit := do
  let sanitized := sanitizeHostname deviceName 33
  let hostname := if sanitized = [] then cstr "esp32-terminal" else sanitized
  let _ ← wifiCall env (.setHostname hostname)
  let _ ← wifiCall env (.mdnsHostname hostname)
  let _ ← wifiCall env (.mdnsInstance deviceName)

/-- The part of `wifi_manager_connect_sta` that switches the access point on. -/
def enterApSta (wasRunning : Bool) : BoardM EspErr :=
  if wasRunning then return .ok
  else do
    let _ ← wifiCall env .stop
    let err ← wifiCall env (.setMode .apsta)
    if err ≠ .ok then return err
    else do
      wifiUpdate fun wifi => { wifi with mode := .apSta }
      let _ ← startStoredAp pf env
      return .ok

/-- The part of `wifi_manager_connect_sta` after the mode is set. -/
def joinNetwork (wasRunning : Bool) (ssid password : CString) : BoardM EspErr := do
  let err ← wifiCall env (.setStaConfig { ssid := ssid.take 32, password := password.take 64 })
  if err ≠ .ok then return err
  else do
    wifiUpdate fun wifi => { wifi with retryCount := 0 }
    if wasRunning then do
      let err ← wifiCall env .connect
      return if err = .wifiConn then .ok else err
    else wifiCall env .start

/-- The checks at the start of `wifi_manager_connect_sta`. -/
def staRefused (ssid password : CString) : Bool :=
  decide (ssid.length = 0 ∨ staSsidMaxlen < ssid.length) ||
    decide (staPassMaxlen < password.length)

/-- `wifi_manager_connect_sta` -/
def wifiManagerConnectSta (ssid password : CString) : BoardM EspErr :=
  if staRefused ssid password then return .invalidArg
  else do
    let _ ← configSetWifiSta pf env ssid password
    let wifi ← read Board.wifi
    let wasRunning := decide (wifi.mode = .apSta)
    let err ← enterApSta pf env wasRunning
    if err ≠ .ok then return err
    else joinNetwork env wasRunning ssid password

/-- `wifi_manager_disconnect_sta` -/
def wifiManagerDisconnectSta : BoardM EspErr := do
  wifiUpdate fun wifi => { wifi with reconnectTimer := false }
  let _ ← configSetWifiSta pf env [] []
  let _ ← wifiCall env .disconnect
  let _ ← wifiCall env .stop
  let err ← wifiCall env (.setMode .ap)
  if err ≠ .ok then return err
  else do
    wifiUpdate fun wifi => { wifi with mode := .ap, staConnected := false }
    let _ ← startStoredAp pf env
    wifiCall env .start

/-- `wifi_manager_update_ap` -/
def wifiManagerUpdateAp (ssid password : CString) : BoardM EspErr := do
  let err ← configSetWifiAp pf env ssid password
  if err ≠ .ok then return err
  else startAp env (buildApSsid pf.mac ssid) password

/-- `wifi_scan_result_t` -/
structure WifiScanResult where
  ssid : CString
  rssi : ℤ
  secured : Bool
  deriving DecidableEq

/-- The body of the deduplicating loop of `wifi_manager_scan`. -/
def addRecord (results : List WifiScanResult) (record : ApRecord) : List WifiScanResult :=
  if record.ssid = [] then results
  else if results.any fun result => result.ssid == record.ssid then
    results.map fun result =>
      if result.ssid = record.ssid ∧ result.rssi < record.rssi then
        { result with rssi := record.rssi }
      else result
  else results ++ [⟨strncpy 33 record.ssid, record.rssi, !record.authOpen⟩]

/-- The end of every path through `wifi_manager_scan`. -/
def endScan (origMode : WifiMode) : BoardM Unit := do
  onlyIf (origMode = .ap) (wifiCall env (.setMode origMode))
  wifiUpdate fun wifi => { wifi with scanning := false }
  let conf ← read Board.config
  onlyIf (0 < conf.staSsid.length) (wifiCall env .connect)

/-- `wifi_manager_scan`: the networks found, or `none` for `-1`. -/
def wifiManagerScan : BoardM (Option (List WifiScanResult)) := do
  wifiUpdate fun wifi => { wifi with scanning := true }
  let wifi ← read Board.wifi
  let origMode := wifi.driverMode
  onlyIf (origMode = .ap) (wifiCall env (.setMode .apsta))
  onlyIf (origMode ≠ .ap) (wifiCall env .disconnect)
  let err ← wifiCall env .scanStart
  if err ≠ .ok then do
    endScan env origMode
    return none
  else do
    let records ← ask env.scanResult
    if records.length = 0 then do
      let _ ← wifiCall env .clearApList
      endScan env origMode
      return some []
    else do
      let apRecords ← ask env.found
      let _ ← wifiCall env .clearApList
      if !apRecords then do
        endScan env origMode
        return none
      else do
        let res ← ask env.found
        endScan env origMode
        return if res then some ((records.take 20).foldl addRecord []) else none

end

end WebTerminal
