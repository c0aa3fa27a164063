import WebTerminal.Base.CJson
import WebTerminal.Auth.Session
import WebTerminal.Config.AppConfig

/-!
# Platform and environment

What the firmware calls and does not define.  A `Platform` holds the functions
of libraries and of the chip that always answer alike; an `Env` holds the
answers of drivers, network and random generator during one call into the
firmware, by the number of the question.
-/

set_option autoImplicit false

namespace WebTerminal

/-- `esp_err_t` -/
inductive EspErr
  | ok
  | fail
  | noMem
  | invalidArg
  | invalidState
  | notSupported
  | wifiConn
  | other (code : ℤ)
  deriving DecidableEq

/-- `CONFIG_IDF_TARGET` -/
inductive Target
  | esp32c3
  | esp32c6
  | esp32s3
  deriving DecidableEq

/-- `SERIAL_PORT_MAX`, which is also `serial_port_count()` once the ports are
initialised. -/
def Target.serialPortMax : Target → ℕ
  | .esp32s3 => 2
  | _ => 1

/-- `CONFIG_IDF_TARGET` as text. -/
def Target.name : Target → String
  | .esp32c3 => "esp32c3"
  | .esp32c6 => "esp32c6"
  | .esp32s3 => "esp32s3"

structure Platform where
  target : Target
  sha256 : Digest
  /-- `cJSON_Parse` -/
  cJSONParse : CString → Option CJson
  /-- the cast `(uint32_t)` -/
  toUInt32 : Double → UInt32
  /-- the cast `(int)` -/
  toInt : Double → ℤ
  /-- the value of a key in a query string -/
  queryValue : CString → CString → Option CString
  /-- the last two bytes of the MAC address of the access point -/
  mac : UInt8 × UInt8
  /-- `mbedtls_x509_crt_parse` -/
  x509CrtParse : CString → ℤ
  /-- `mbedtls_pk_parse_key` -/
  pkParseKey : CString → ℤ
  /-- `mbedtls_pk_check_pair` of a certificate and a key -/
  pkCheckPair : CString → CString → ℤ
  /-- the `version` of `esp_app_get_description()` -/
  version : CString
  /-- what `sscanf` with `%d.%d.%d` stores where one of the numbers is none that an `int`
  holds, which C leaves open -/
  scanBeyond : CString → Int32 × Int32 × Int32

/-- What `httpd_req_recv` and `esp_http_client_read` return. -/
inductive RecvResult
  | bytes (data : List UInt8)
  | timeout
  | failed

/-- `wifi_mode_t`, the modes the firmware uses. -/
inductive WifiMode
  | sta
  | ap
  | apsta
  deriving DecidableEq

/-- `wifi_ap_record_t`: the fields the scan reads. -/
structure ApRecord where
  ssid : CString
  rssi : ℤ
  authOpen : Bool
  deriving DecidableEq

/-- The answers to one call into the firmware. -/
structure Env where
  /-- `esp_timer_get_time()` -/
  now : ℕ
  /-- `esp_err_t` of driver calls -/
  err : ℕ → EspErr
  recv : ℕ → RecvResult
  /-- `esp_fill_random` for a token -/
  tokenBytes : ℕ → Vector UInt8 authSessionTokenLen
  /-- `esp_fill_random` for a salt -/
  saltBytes : ℕ → Vector UInt8 configAuthSaltLen
  /-- status code and declared length of an HTTP response -/
  httpHeaders : ℕ → ℤ × ℤ
  /-- the number of access points seen and their records -/
  scanResult : ℕ → List ApRecord
  /-- whether a pointer the firmware asked for is not `NULL` -/
  found : ℕ → Bool
  /-- the bytes that follow a header in the memory it was copied to -/
  heapTail : List UInt8

end WebTerminal
