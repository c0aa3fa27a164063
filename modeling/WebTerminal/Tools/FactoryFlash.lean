import WebTerminal.Config.KeyDerivation
import WebTerminal.Store.ConfigMachine

/-!
# The factory flasher

`build_nvs_image` of `tools/factory_flash.py`: from a seed file it makes the rows of
the `webterm` namespace that `nvs_partition_gen` turns into an image.  The tool counts
the characters of a string, the firmware the bytes of its encoding, and a value the
tool takes for falsy gets no row.
-/

set_option autoImplicit false

namespace WebTerminal

namespace FactoryFlash

/-- A `str` of Python that can be encoded: its code points. -/
abbrev PyStr := List Char

/-- `str.encode()` -/
def PyStr.encode (s : PyStr) : CString := s.flatMap String.utf8EncodeChar

/-- A digit of `bytes.hex()`. -/
def hexDigit (n : ℕ) : Char := if n < 10 then Char.ofNat (48 + n) else Char.ofNat (87 + n)

/-- `bytes.hex()` -/
def hex (bytes : List UInt8) : PyStr :=
  bytes.flatMap fun byte => [hexDigit (byte.toNat / 16), hexDigit (byte.toNat % 16)]

/-- `PBKDF2_ITERATIONS` -/
abbrev pbkdf2Iterations : ℕ := 10000

/-- `AUTH_SALT_LEN` -/
abbrev authSaltLen : ℕ := 16

/-- `AUTH_HASH_LEN` -/
abbrev authHashLen : ℕ := 32

/-- `VALID_BAUDS` -/
def validBauds : List ℤ := [9600, 19200, 38400, 57600, 115200, 230400, 460800, 921600, 1500000]

/-- `hashlib.pbkdf2_hmac("sha256", password, salt, PBKDF2_ITERATIONS, dklen=AUTH_HASH_LEN)` -/
def pbkdf2Hmac (sha256 : Digest) (password salt : List UInt8) : List UInt8 :=
  Pbkdf2.derive (Pbkdf2.hmac sha256 64 password) salt pbkdf2Iterations authHashLen

/-- The documented keys of a seed file, each with a value of its documented type. -/
structure Seed where
  deviceName : Option PyStr
  staSsid : Option PyStr
  staPass : Option PyStr
  apSsid : Option PyStr
  apPass : Option PyStr
  username : Option PyStr
  password : Option PyStr
  forcePasswordChange : Option Bool
  baudRate : Option ℤ
  powerOnDefault : Option Bool
  ntpServer : Option PyStr
  timezone : Option PyStr

/-- `get(key)` of a string: `""` for a missing key. -/
def get (value : Option PyStr) : PyStr := value.getD []

/-- A row of the CSV file. -/
structure CsvRow where
  key : String
  type : String
  encoding : String
  value : PyStr

/-- `die(msg)` under a condition. -/
def dieIf (p : Prop) [Decidable p] (msg : String) : Except String Unit :=
  if p then .error msg else .ok ()

/-- The checks of `build_nvs_image`. -/
def validate (seed : Seed) : Except String Unit := do
  dieIf (32 < (get seed.staSsid).length) "sta_ssid exceeds 32 characters"
  dieIf (64 < (get seed.staPass).length) "sta_pass exceeds 64 characters"
  dieIf (27 < (get seed.apSsid).length) "ap_ssid exceeds 27 characters"
  dieIf (get seed.apPass ≠ [] ∧ ¬(8 ≤ (get seed.apPass).length ∧ (get seed.apPass).length ≤ 64))
    "ap_pass must be 8-64 characters, or empty for an open AP"
  dieIf (32 < (get seed.deviceName).length) "device_name exceeds 32 characters"
  dieIf (64 < (get seed.ntpServer).length) "ntp_server exceeds 64 characters"
  dieIf (40 < (get seed.timezone).length) "timezone exceeds 40 characters"
  dieIf (seed.baudRate.getD 0 ≠ 0 ∧ seed.baudRate.getD 0 ∉ validBauds)
    "baud_rate must be one of [9600, 19200, 38400, 57600, 115200, 230400, 460800, 921600, 1500000]"

/-- The row of a string, if it is not empty. -/
def stringRow (nvsKey : String) (value : PyStr) : List CsvRow :=
  if value ≠ [] then [⟨nvsKey, "data", "string", value⟩] else []

/-- The row of `baud_rate`. -/
def baudRow (baudRate : ℤ) : List CsvRow :=
  if baudRate ≠ 0 then [⟨"baud_rate", "data", "u32", (toString baudRate).toList⟩] else []

/-- The row of `power_on_default`. -/
def powerRow : Option Bool → List CsvRow
  | none => []
  | some powerOn => [⟨"power_on", "data", "u8", if powerOn then ['1'] else ['0']⟩]

/-- The rows of a password that is not empty. -/
def authRows (username : PyStr) (pwHash salt : List UInt8) (forcePasswordChange : Bool) :
    List CsvRow :=
  [⟨"auth_user", "data", "string", username⟩,
    ⟨"auth_hash", "data", "hex2bin", hex pwHash⟩,
    ⟨"auth_salt", "data", "hex2bin", hex salt⟩,
    ⟨"hash_ver", "data", "u8", ['1']⟩,
    ⟨"auth_init", "data", "u8", if forcePasswordChange then ['0'] else ['1']⟩]

/-- The password generated, if one is asked for. -/
def generatedPassword (tokenUrlsafe : PyStr) (seed : Seed) : Option PyStr :=
  if get seed.password = "random".toList then some tokenUrlsafe else none

/-- The password that is hashed, where `tokenUrlsafe` is what `secrets` generates. -/
def Seed.chosenPassword (tokenUrlsafe : PyStr) (seed : Seed) : PyStr :=
  (generatedPassword tokenUrlsafe seed).getD (get seed.password)

/-- The rows of the password, if one is given. -/
def credentialRows (sha256 : Digest) (salt : Vector UInt8 authSaltLen) (tokenUrlsafe : PyStr)
    (seed : Seed) : List CsvRow :=
  if get seed.password ≠ [] then
    authRows (seed.username.getD "admin".toList)
      (pbkdf2Hmac sha256 (seed.chosenPassword tokenUrlsafe).encode salt.toList) salt.toList
      (seed.forcePasswordChange.getD false)
  else []

/-- The rows of the image. -/
def rows (sha256 : Digest) (salt : Vector UInt8 authSaltLen) (tokenUrlsafe : PyStr) (seed : Seed) :
    List CsvRow :=
  [⟨"key", "type", "encoding", "value".toList⟩, ⟨"webterm", "namespace", "", []⟩] ++
    (stringRow "sta_ssid" (get seed.staSsid) ++ stringRow "sta_pass" (get seed.staPass) ++
    stringRow "ap_ssid" (get seed.apSsid) ++ stringRow "ap_pass" (get seed.apPass) ++
    stringRow "dev_name" (get seed.deviceName) ++ stringRow "ntp_srv" (get seed.ntpServer) ++
    stringRow "timezone" (get seed.timezone)) ++
    baudRow (seed.baudRate.getD 0) ++ powerRow seed.powerOnDefault ++
    credentialRows sha256 salt tokenUrlsafe seed

/-- `build_nvs_image` up to the call of `nvs_partition_gen`: the rows it is called with
and the password to print.  `salt` and `tokenUrlsafe` come from `secrets`. -/
def buildNvsImage (sha256 : Digest) (salt : Vector UInt8 authSaltLen) (tokenUrlsafe : PyStr)
    (seed : Seed) : Except String (List CsvRow × Option PyStr) := do
  validate seed
  return (rows sha256 salt tokenUrlsafe seed, generatedPassword tokenUrlsafe seed)

/-! ## nvs_partition_gen -/

/-- The value of a decimal digit. -/
def decimalValue (c : Char) : Option ℕ :=
  if 48 ≤ c.toNat ∧ c.toNat ≤ 57 then some (c.toNat - 48) else none

/-- A decimal number. -/
def decimal (text : PyStr) : Option ℕ :=
  text.foldlM (fun value c => (decimalValue c).map (10 * value + ·)) 0

/-- The value of a hexadecimal digit. -/
def hexValue (c : Char) : Option ℕ :=
  if 48 ≤ c.toNat ∧ c.toNat ≤ 57 then some (c.toNat - 48)
  else if 97 ≤ c.toNat ∧ c.toNat ≤ 102 then some (c.toNat - 87)
  else none

/-- Bytes from their hexadecimal digits. -/
def unhex : PyStr → Option (List UInt8)
  | [] => some []
  | [_] => none
  | a :: b :: rest => do
      let high ← hexValue a
      let low ← hexValue b
      let bytes ← unhex rest
      return UInt8.ofNat (16 * high + low) :: bytes

/-- What a row stores, by its encoding. -/
def CsvRow.nvsValue (row : CsvRow) : Option NvsValue :=
  if row.encoding = "string" then some (.str row.value.encode)
  else if row.encoding = "u8" then (decimal row.value).map fun n => .u8 (UInt8.ofNat n)
  else if row.encoding = "u32" then (decimal row.value).map fun n => .u32 (UInt32.ofNat n)
  else if row.encoding = "hex2bin" then (unhex row.value).map .blob
  else none

/-- The row with this key. -/
def rowOf (rows : List CsvRow) (key : String) : Option CsvRow := rows.find? fun row => row.key = key

/-- `nvs_partition_gen` stores the rows as they are. -/
def StoresRows (nvsPartitionGen : List CsvRow → Nvs) : Prop :=
  ∀ rows, (rows.map CsvRow.key).Nodup → ∀ key,
    nvsPartitionGen rows key = (rowOf rows (NvsKey.name key)).bind CsvRow.nvsValue

end FactoryFlash

end WebTerminal
