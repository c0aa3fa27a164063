import Mathlib.Logic.Function.Basic
import WebTerminal.Config.Hash

/-!
# The configuration record

`app_config_t`, the part of each `config_set_*` function that edits it, and
`config_check_password`.  Saving it to flash is in `Config/Nvs.lean`.
-/

set_option autoImplicit false

namespace WebTerminal

/-- `CONFIG_WIFI_SSID_MAX_LEN` -/
abbrev configWifiSsidMaxLen : ℕ := 32

/-- `CONFIG_WIFI_PASS_MAX_LEN` -/
abbrev configWifiPassMaxLen : ℕ := 64

/-- `CONFIG_AUTH_USER_MAX_LEN` -/
abbrev configAuthUserMaxLen : ℕ := 32

/-- `CONFIG_AUTH_SALT_LEN` -/
abbrev configAuthSaltLen : ℕ := 16

/-- `CONFIG_DEVICE_NAME_MAX_LEN` -/
abbrev configDeviceNameMaxLen : ℕ := 32

/-- `CONFIG_NTP_SERVER_MAX_LEN` -/
abbrev configNtpServerMaxLen : ℕ := 64

/-- `CONFIG_TIMEZONE_MAX_LEN` -/
abbrev configTimezoneMaxLen : ℕ := 40

/-- `app_config_t`.  `baudRate` is indexed by port; entries from
`SERIAL_PORT_MAX` on do not exist in the array and are never read or written. -/
structure AppConfig where
  staSsid : CString
  staPass : CString
  apSsid : CString
  apPass : CString
  baudRate : ℕ → UInt32
  powerOnDefault : Bool
  authUser : CString
  authHash : List UInt8
  authSalt : List UInt8
  authInitialized : Bool
  authHashVer : UInt8
  deviceName : CString
  ntpServer : CString
  timezone : CString

namespace AppConfig

/-- The edit of `config_set_wifi_sta`. -/
def setWifiSta (ssid password : CString) (conf : AppConfig) : AppConfig :=
  { conf with
    staSsid := strncpy (configWifiSsidMaxLen + 1) ssid
    staPass := strncpy (configWifiPassMaxLen + 1) password }

/-- The edit of `config_set_wifi_ap`. -/
def setWifiAp (ssid password : CString) (conf : AppConfig) : AppConfig :=
  { conf with
    apSsid := strncpy (configWifiSsidMaxLen + 1) ssid
    apPass := strncpy (configWifiPassMaxLen + 1) password }

/-- The edit of `config_set_baud_rate_port`. -/
def setBaudRatePort (port : ℕ) (baudRate : UInt32) (conf : AppConfig) : AppConfig :=
  { conf with baudRate := Function.update conf.baudRate port baudRate }

/-- The edit of `config_set_power_on_default`. -/
def setPowerOnDefault (powerOn : Bool) (conf : AppConfig) : AppConfig :=
  { conf with powerOnDefault := powerOn }

/-- The edit of `config_set_device_name`. -/
def setDeviceName (name : CString) (conf : AppConfig) : AppConfig :=
  { conf with deviceName := strncpy (configDeviceNameMaxLen + 1) name }

/-- The edit of `config_set_ntp_server`. -/
def setNtpServer (server : CString) (conf : AppConfig) : AppConfig :=
  { conf with ntpServer := strncpy (configNtpServerMaxLen + 1) server }

/-- The edit of `config_set_timezone`. -/
def setTimezone (tz : CString) (conf : AppConfig) : AppConfig :=
  { conf with timezone := strncpy (configTimezoneMaxLen + 1) tz }

/-- The edit of `config_set_auth`, with the salt `esp_fill_random` produced. -/
def setAuth (sha256 : Digest) (salt : Vector UInt8 configAuthSaltLen) (username password : CString)
    (conf : AppConfig) : AppConfig :=
  { conf with
    authUser := strncpy (configAuthUserMaxLen + 1) username
    authSalt := salt.toList
    authHash := computeHash sha256 password salt.toList
    authHashVer := 1
    authInitialized := true }

/-- `config_check_password` -/
def checkPassword (sha256 : Digest) (password : CString) (conf : AppConfig) : Bool :=
  let hash :=
    if conf.authHashVer = 0 then computeHashLegacy sha256 password conf.authSalt
    else computeHash sha256 password conf.authSalt
  constantTimeCompare hash conf.authHash configAuthHashLen

/-- The password just set is accepted. -/
theorem checkPassword_setAuth (sha256 : Digest) (salt : Vector UInt8 configAuthSaltLen)
    (username password : CString) (conf : AppConfig) :
    (conf.setAuth sha256 salt username password).checkPassword sha256 password = true :=
  constantTimeCompare_self _ _

end AppConfig

end WebTerminal
