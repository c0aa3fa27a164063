import WebTerminal.Config.Nvs
import WebTerminal.Lib.Overlay

/-!
# Loading the configuration

`load_string` and the loads of `config_init`.  Every key is read on its own and
falls back on its own: a missing one gets its default, a string that does not fit
leaves the buffer as it was.  Only the salt and the hash version are not looked
at when the hash itself cannot be read.

`AppConfig.stored` is the configuration the keys hold when the hash can be read;
it is what the round trip through flash is stated with.
-/

set_option autoImplicit false

namespace WebTerminal

/-- How `nvs_get_str` ends. -/
inductive NvsGetStr
  | ok (value : CString)
  | notFound
  | invalidLength

/-- `nvs_get_str` into a buffer of `maxLen` bytes.  A value that does not fit is not
written. -/
def nvsGetStr (nvs : Nvs) (key : NvsKey) (maxLen : ℕ) : NvsGetStr :=
  match nvs key with
  | some (.str value) => if value.length < maxLen then .ok value else .invalidLength
  | _ => .notFound

/-- `nvs_get_u8`, when it succeeds -/
def nvsGetU8 (nvs : Nvs) (key : NvsKey) : Option UInt8 :=
  match nvs key with
  | some (.u8 value) => some value
  | _ => none

/-- `nvs_get_u32`, when it succeeds -/
def nvsGetU32 (nvs : Nvs) (key : NvsKey) : Option UInt32 :=
  match nvs key with
  | some (.u32 value) => some value
  | _ => none

/-- `nvs_get_blob` into the `len` bytes of `buf`, when it succeeds -/
def nvsGetBlob (nvs : Nvs) (key : NvsKey) (len : ℕ) (buf : List UInt8) : Option (List UInt8) :=
  match nvs key with
  | some (.blob bytes) => if bytes.length ≤ len then some (memcpy buf bytes) else none
  | _ => none

/-- `load_string` into the buffer that holds `buf`. -/
def loadString (nvs : Nvs) (key : NvsKey) (maxLen : ℕ) (default' buf : CString) : CString :=
  match nvsGetStr nvs key maxLen with
  | .ok value => ofBuffer value
  | .notFound => strncpy maxLen default'
  | .invalidLength => buf

/-- `CONFIG_DEFAULT_BAUD_RATE` -/
abbrev configDefaultBaudRate : UInt32 := 115200

/-- `CONFIG_DEFAULT_AP_SSID` -/
def configDefaultApSsid : CString := cstr "ESP-Terminal"

/-- `CONFIG_DEFAULT_AP_PASS` -/
def configDefaultApPass : CString := cstr "esp32term"

/-- `CONFIG_DEFAULT_AUTH_USER` -/
def configDefaultAuthUser : CString := cstr "admin"

/-- `CONFIG_DEFAULT_AUTH_PASS` -/
def configDefaultAuthPass : CString := cstr "admin"

/-- `CONFIG_DEFAULT_DEVICE_NAME` -/
def configDefaultDeviceName : CString := cstr "ESP32 Terminal"

/-- `CONFIG_DEFAULT_TIMEZONE` -/
def configDefaultTimezone : CString := cstr "UTC0"

/-- `nvs_get_blob` of the hash succeeds. -/
def hashReadable (nvs : Nvs) : Bool :=
  match nvs .authHash with
  | some (.blob bytes) => decide (bytes.length ≤ configAuthHashLen)
  | _ => false

namespace AppConfig

/-- The loads of `config_init` up to the credentials, on a chip with `serialPortMax` ports. -/
def loadSettings (serialPortMax : ℕ) (nvs : Nvs) (conf : AppConfig) : AppConfig :=
  { conf with
    staSsid := loadString nvs .staSsid (configWifiSsidMaxLen + 1) [] conf.staSsid
    staPass := loadString nvs .staPass (configWifiPassMaxLen + 1) [] conf.staPass
    apSsid := loadString nvs .apSsid (configWifiSsidMaxLen + 1) configDefaultApSsid conf.apSsid
    apPass := loadString nvs .apPass (configWifiPassMaxLen + 1) configDefaultApPass conf.apPass
    authUser :=
      loadString nvs .authUser (configAuthUserMaxLen + 1) configDefaultAuthUser conf.authUser
    deviceName :=
      loadString nvs .devName (configDeviceNameMaxLen + 1) configDefaultDeviceName conf.deviceName
    ntpServer := loadString nvs .ntpSrv (configNtpServerMaxLen + 1) [] conf.ntpServer
    timezone :=
      loadString nvs .timezone (configTimezoneMaxLen + 1) configDefaultTimezone conf.timezone
    baudRate := fun port =>
      if port < serialPortMax then
        (nvsGetU32 nvs (.baudRate port)).getD configDefaultBaudRate
      else conf.baudRate port
    powerOnDefault :=
      match nvsGetU8 nvs .powerOn with
      | some powerOn => decide (powerOn ≠ 0)
      | none => true }

/-- A password hash, as the loads set it. -/
def setHash (salt hash : List UInt8) (ver : UInt8) (conf : AppConfig) : AppConfig :=
  { conf with authSalt := salt, authHash := hash, authHashVer := ver }

/-- The default password under the salt `esp_fill_random` produced. -/
def setDefaultAuth (sha256 : Digest) (salt : Vector UInt8 configAuthSaltLen) (conf : AppConfig) :
    AppConfig :=
  conf.setHash salt.toList (computeHash sha256 configDefaultAuthPass salt.toList) 1

/-- The stored hash, when it can be read into `conf`. -/
def storedHash (nvs : Nvs) (conf : AppConfig) : Option (List UInt8) :=
  nvsGetBlob nvs .authHash configAuthHashLen conf.authHash

/-- `auth_salt` and `hash_ver`, which are read after a hash. -/
def loadSalt (nvs : Nvs) (hash : List UInt8) (conf : AppConfig) : AppConfig :=
  conf.setHash ((nvsGetBlob nvs .authSalt configAuthSaltLen conf.authSalt).getD conf.authSalt) hash
    ((nvsGetU8 nvs .hashVer).getD 0)

/-- The credentials as `config_init` loads them.  A salt is drawn only for the
default password. -/
def loadAuth (sha256 : Digest) (salt : Vector UInt8 configAuthSaltLen) (nvs : Nvs)
    (conf : AppConfig) : AppConfig :=
  match storedHash nvs conf with
  | none => conf.setDefaultAuth sha256 salt
  | some hash => conf.loadSalt nvs hash

/-- `auth_init`, which is read whatever became of the hash. -/
def loadAuthInit (nvs : Nvs) (conf : AppConfig) : AppConfig :=
  { conf with authInitialized := decide ((nvsGetU8 nvs .authInit).getD 0 ≠ 0) }

/-- The branch of `config_init` for an existing namespace. -/
def load (sha256 : Digest) (serialPortMax : ℕ) (salt : Vector UInt8 configAuthSaltLen) (nvs : Nvs)
    (conf : AppConfig) : AppConfig :=
  ((conf.loadSettings serialPortMax nvs).loadAuth sha256 salt nvs).loadAuthInit nvs

/-- The branch of `config_init` for a first boot: `memset`, then the defaults. -/
def firstBoot (sha256 : Digest) (serialPortMax : ℕ) (salt : Vector UInt8 configAuthSaltLen)
    (conf : AppConfig) : AppConfig :=
  setDefaultAuth sha256 salt
    { staSsid := []
      staPass := []
      apSsid := strncpy (configWifiSsidMaxLen + 1) configDefaultApSsid
      apPass := strncpy (configWifiPassMaxLen + 1) configDefaultApPass
      baudRate := fun port =>
        if port < serialPortMax then configDefaultBaudRate else conf.baudRate port
      powerOnDefault := true
      authUser := strncpy (configAuthUserMaxLen + 1) configDefaultAuthUser
      authHash := List.replicate configAuthHashLen 0
      authSalt := List.replicate configAuthSaltLen 0
      authInitialized := false
      authHashVer := 0
      deviceName := strncpy (configDeviceNameMaxLen + 1) configDefaultDeviceName
      ntpServer := []
      timezone := strncpy (configTimezoneMaxLen + 1) configDefaultTimezone }

/-- `s_config` after a reset, before `config_init`. -/
def zero : AppConfig where
  staSsid := []
  staPass := []
  apSsid := []
  apPass := []
  baudRate := fun _ => 0
  powerOnDefault := false
  authUser := []
  authHash := List.replicate configAuthHashLen 0
  authSalt := List.replicate configAuthSaltLen 0
  authInitialized := false
  authHashVer := 0
  deviceName := []
  ntpServer := []
  timezone := []

/-- The two branches agree where both could be taken. -/
theorem firstBoot_eq_load (sha256 : Digest) (serialPortMax : ℕ)
    (salt : Vector UInt8 configAuthSaltLen) (conf : AppConfig) :
    conf.firstBoot sha256 serialPortMax salt =
      conf.load sha256 serialPortMax salt (fun _ => none) := rfl

/-! ## Sizes

Every string fits its buffer, and the two arrays have their length. -/

structure WellFormed (conf : AppConfig) : Prop where
  staSsid : Fits (configWifiSsidMaxLen + 1) conf.staSsid
  staPass : Fits (configWifiPassMaxLen + 1) conf.staPass
  apSsid : Fits (configWifiSsidMaxLen + 1) conf.apSsid
  apPass : Fits (configWifiPassMaxLen + 1) conf.apPass
  authUser : Fits (configAuthUserMaxLen + 1) conf.authUser
  authHash : conf.authHash.length = configAuthHashLen
  authSalt : conf.authSalt.length = configAuthSaltLen
  deviceName : Fits (configDeviceNameMaxLen + 1) conf.deviceName
  ntpServer : Fits (configNtpServerMaxLen + 1) conf.ntpServer
  timezone : Fits (configTimezoneMaxLen + 1) conf.timezone

theorem fits_nil {n : ℕ} (hn : 0 < n) : Fits n [] := ⟨hn, List.not_mem_nil⟩

/-- What `load_string` leaves in a buffer fits it. -/
theorem fits_loadString {nvs : Nvs} {key : NvsKey} {n : ℕ} {default' buf : CString} (hn : 0 < n)
    (hdefault : (0 : UInt8) ∉ default') (hbuf : Fits n buf) :
    Fits n (loadString nvs key n default' buf) := by
  unfold loadString nvsGetStr
  split
  next value heq =>
    refine ⟨(length_ofBuffer_le value).trans_lt ?_, notMem_ofBuffer value⟩
    -- a value that is read fits
    split at heq
    · split at heq
      next hlt => cases heq; exact hlt
      next => cases heq
    · cases heq
  next => exact fits_strncpy hn ⟨default', hdefault⟩
  next => exact hbuf

theorem length_nvsGetBlob {nvs : Nvs} {key : NvsKey} {n : ℕ} {buf bytes : List UInt8}
    (hbuf : buf.length = n) (h : nvsGetBlob nvs key n buf = some bytes) : bytes.length = n := by
  unfold nvsGetBlob at h
  split at h
  · split at h
    next hle =>
      obtain rfl := Option.some.inj h
      rw [length_memcpy (hbuf ▸ hle), hbuf]
    next => cases h
  · cases h

theorem length_pbkdf2Loop (sha256 : Digest) (password salt : List UInt8) (iterations : ℕ)
    (block : UInt32) (left : ℕ) :
    (pbkdf2Loop sha256 password salt iterations block left).length = left := by
  fun_induction pbkdf2Loop sha256 password salt iterations block left with
  | case1 => rfl
  | case2 block left hleft ih =>
      rw [List.length_append, ih, List.length_take, Vector.length_toList]
      simp only [sha256HashSize]
      omega

theorem length_computeHash (sha256 : Digest) (password : CString) (salt : List UInt8) :
    (computeHash sha256 password salt).length = configAuthHashLen :=
  length_pbkdf2Loop sha256 password salt _ _ _

theorem wellFormed_zero : zero.WellFormed where
  staSsid := fits_nil (by decide)
  staPass := fits_nil (by decide)
  apSsid := fits_nil (by decide)
  apPass := fits_nil (by decide)
  authUser := fits_nil (by decide)
  authHash := rfl
  authSalt := rfl
  deviceName := fits_nil (by decide)
  ntpServer := fits_nil (by decide)
  timezone := fits_nil (by decide)

variable {sha256 : Digest} {serialPortMax : ℕ} {salt : Vector UInt8 configAuthSaltLen} {nvs : Nvs}
  {conf : AppConfig}

theorem WellFormed.loadSettings (h : conf.WellFormed) :
    (conf.loadSettings serialPortMax nvs).WellFormed where
  staSsid := fits_loadString (by decide) (by decide) h.staSsid
  staPass := fits_loadString (by decide) (by decide) h.staPass
  apSsid := fits_loadString (by decide) (by decide) h.apSsid
  apPass := fits_loadString (by decide) (by decide) h.apPass
  authUser := fits_loadString (by decide) (by decide) h.authUser
  authHash := h.authHash
  authSalt := h.authSalt
  deviceName := fits_loadString (by decide) (by decide) h.deviceName
  ntpServer := fits_loadString (by decide) (by decide) h.ntpServer
  timezone := fits_loadString (by decide) (by decide) h.timezone

theorem WellFormed.setHash (h : conf.WellFormed) {salt hash : List UInt8} {ver : UInt8}
    (hsalt : salt.length = configAuthSaltLen) (hhash : hash.length = configAuthHashLen) :
    (conf.setHash salt hash ver).WellFormed :=
  { h with authHash := hhash, authSalt := hsalt }

theorem WellFormed.setDefaultAuth (h : conf.WellFormed) :
    (conf.setDefaultAuth sha256 salt).WellFormed :=
  h.setHash Vector.length_toList (length_computeHash sha256 _ _)

theorem WellFormed.loadSalt (h : conf.WellFormed) {hash : List UInt8}
    (hhash : hash.length = configAuthHashLen) : (conf.loadSalt nvs hash).WellFormed := by
  refine h.setHash ?_ hhash
  cases hsalt : nvsGetBlob nvs .authSalt configAuthSaltLen conf.authSalt with
  | none => exact h.authSalt
  | some bytes => exact length_nvsGetBlob h.authSalt hsalt

theorem WellFormed.loadAuthInit (h : conf.WellFormed) : (conf.loadAuthInit nvs).WellFormed :=
  { h with }

/-- Whatever is in flash, `config_init` loads a configuration that fits its buffers. -/
theorem WellFormed.load (h : conf.WellFormed) :
    (conf.load sha256 serialPortMax salt nvs).WellFormed := by
  refine WellFormed.loadAuthInit ?_
  have hsettings : (conf.loadSettings serialPortMax nvs).WellFormed := h.loadSettings
  unfold loadAuth
  cases hhash : storedHash nvs (conf.loadSettings serialPortMax nvs) with
  | none => exact hsettings.setDefaultAuth
  | some hash => exact hsettings.loadSalt (length_nvsGetBlob hsettings.authHash hhash)

/-! ## The round trip -/

/-- The configuration under the keys, when the hash can be read. -/
def stored (serialPortMax : ℕ) (nvs : Nvs) (conf : AppConfig) : AppConfig :=
  ((conf.loadSettings serialPortMax nvs).loadSalt nvs
    ((storedHash nvs conf).getD conf.authHash)).loadAuthInit nvs

theorem isSome_storedHash : (storedHash nvs conf).isSome = hashReadable nvs := by
  unfold storedHash nvsGetBlob hashReadable
  split
  · split <;> simp_all
  · rfl

theorem load_of_readable (h : hashReadable nvs = true) :
    conf.load sha256 serialPortMax salt nvs = conf.stored serialPortMax nvs := by
  have hsome : (storedHash nvs conf).isSome = true := isSome_storedHash.trans h
  obtain ⟨hash, hhash⟩ := Option.isSome_iff_exists.mp hsome
  have hhash' : storedHash nvs (conf.loadSettings serialPortMax nvs) = some hash := hhash
  unfold load loadAuth stored
  rw [hhash', hhash]
  rfl

theorem load_of_unreadable (h : hashReadable nvs = false) :
    conf.load sha256 serialPortMax salt nvs =
      ((conf.loadSettings serialPortMax nvs).setDefaultAuth sha256 salt).loadAuthInit nvs := by
  have hhash : storedHash nvs (conf.loadSettings serialPortMax nvs) = none :=
    Option.isNone_iff_eq_none.mp (Option.isSome_eq_false_iff.mp (isSome_storedHash.trans h))
  unfold load loadAuth
  rw [hhash]

/-- The same configuration, on a chip with `serialPortMax` ports. -/
structure SameConfig (serialPortMax : ℕ) (conf conf' : AppConfig) : Prop where
  rest : conf' = { conf with baudRate := conf'.baudRate }
  baudRate : ∀ port < serialPortMax, conf'.baudRate port = conf.baudRate port

theorem SameConfig.sameCredentials {conf' : AppConfig} (h : SameConfig serialPortMax conf conf') :
    conf.SameCredentials conf' := by
  rw [h.rest]
  exact ⟨rfl, rfl, rfl, rfl, rfl⟩

theorem mem_savedKeys {key : NvsKey} :
    key ∈ savedKeys serialPortMax ↔ ∀ port, key = .baudRate port → port < serialPortMax := by
  cases key <;> simp [savedKeys]

/-- Configurations that are saved alike are the same. -/
theorem sameConfig_iff_saved {conf' : AppConfig} :
    SameConfig serialPortMax conf conf' ↔
      ∀ key ∈ savedKeys serialPortMax, conf'.saved key = conf.saved key := by
  refine ⟨fun h key hkey => ?_, fun h => ⟨?_, fun port hport => ?_⟩⟩
  · cases key with
    | baudRate port =>
        have hport := mem_savedKeys.mp hkey port rfl
        simp [saved, h.baudRate port hport]
    | _ => rw [h.rest]; rfl
  · have hsaved : ∀ key, (∀ port, key ≠ .baudRate port) → conf'.saved key = conf.saved key :=
      fun key hkey => h key (mem_savedKeys.mpr fun port heq => absurd heq (hkey port))
    have hstaSsid := hsaved .staSsid (by simp)
    have hstaPass := hsaved .staPass (by simp)
    have hapSsid := hsaved .apSsid (by simp)
    have hapPass := hsaved .apPass (by simp)
    have hauthUser := hsaved .authUser (by simp)
    have hpowerOn := hsaved .powerOn (by simp)
    have hauthHash := hsaved .authHash (by simp)
    have hauthSalt := hsaved .authSalt (by simp)
    have hauthInit := hsaved .authInit (by simp)
    have hhashVer := hsaved .hashVer (by simp)
    have hdevName := hsaved .devName (by simp)
    have hntpSrv := hsaved .ntpSrv (by simp)
    have htimezone := hsaved .timezone (by simp)
    have hbool : ∀ a b : Bool, (if a then (1 : UInt8) else 0) = (if b then 1 else 0) → a = b := by
      decide
    cases conf
    cases conf'
    simp only [saved, NvsValue.str.injEq, NvsValue.u8.injEq, NvsValue.blob.injEq] at *
    simp only [mk.injEq, true_and]
    exact ⟨hstaSsid, hstaPass, hapSsid, hapPass, hbool _ _ hpowerOn, hauthUser, hauthHash,
      hauthSalt, hbool _ _ hauthInit, hhashVer, hdevName, hntpSrv, htimezone⟩
  · have := h (.baudRate port) (mem_savedKeys.mpr fun p heq => by cases heq; exact hport)
    simpa [saved] using this

/-- A key is read through the value stored under it. -/
theorem nvsGet_congr {nvs' : Nvs} {key : NvsKey} (h : nvs key = nvs' key) :
    (∀ n, nvsGetStr nvs key n = nvsGetStr nvs' key n) ∧ nvsGetU8 nvs key = nvsGetU8 nvs' key ∧
      nvsGetU32 nvs key = nvsGetU32 nvs' key ∧
        ∀ n buf, nvsGetBlob nvs key n buf = nvsGetBlob nvs' key n buf := by
  unfold nvsGetStr nvsGetU8 nvsGetU32 nvsGetBlob
  rw [h]
  exact ⟨fun _ => rfl, rfl, rfl, fun _ _ => rfl⟩

/-- Every key is read on its own. -/
theorem saved_stored_congr {nvs' : Nvs} {key : NvsKey} (h : nvs key = nvs' key) :
    (conf.stored serialPortMax nvs).saved key = (conf.stored serialPortMax nvs').saved key := by
  obtain ⟨hstr, hu8, hu32, hblob⟩ := nvsGet_congr h
  cases key with
  | powerOn =>
      have hfield : (conf.stored serialPortMax nvs).powerOnDefault =
          (conf.stored serialPortMax nvs').powerOnDefault := by
        simp only [stored, loadAuthInit, loadSalt, setHash, loadSettings, hu8]
      simp only [saved, hfield]
  | authInit =>
      have hfield : (conf.stored serialPortMax nvs).authInitialized =
          (conf.stored serialPortMax nvs').authInitialized := by
        simp only [stored, loadAuthInit, hu8]
      simp only [saved, hfield]
  | _ =>
      simp only [saved, stored, loadAuthInit, loadSalt, setHash, loadSettings, loadString,
        storedHash, hstr, hu8, hu32, hblob]

/-- No other key is read. -/
theorem load_congr {nvs' : Nvs} (h : ∀ key ∈ savedKeys serialPortMax, nvs key = nvs' key) :
    conf.load sha256 serialPortMax salt nvs = conf.load sha256 serialPortMax salt nvs' := by
  have hkey : ∀ key, (∀ port, key ≠ .baudRate port) → nvs key = nvs' key :=
    fun key hkey => h key (mem_savedKeys.mpr fun port heq => absurd heq (hkey port))
  have hstr :
      ∀ key n, (∀ port, key ≠ .baudRate port) → nvsGetStr nvs key n = nvsGetStr nvs' key n :=
    fun key n hne => (nvsGet_congr (hkey key hne)).1 n
  have hu8 : ∀ key, (∀ port, key ≠ .baudRate port) → nvsGetU8 nvs key = nvsGetU8 nvs' key :=
    fun key hne => (nvsGet_congr (hkey key hne)).2.1
  have hblob : ∀ key n buf, (∀ port, key ≠ .baudRate port) →
      nvsGetBlob nvs key n buf = nvsGetBlob nvs' key n buf :=
    fun key n buf hne => (nvsGet_congr (hkey key hne)).2.2.2 n buf
  have hbaud : (fun port => if port < serialPortMax then
      (nvsGetU32 nvs (.baudRate port)).getD configDefaultBaudRate else conf.baudRate port) =
      fun port => if port < serialPortMax then
        (nvsGetU32 nvs' (.baudRate port)).getD configDefaultBaudRate else conf.baudRate port := by
    funext port
    split
    next hport =>
      rw [(nvsGet_congr (h (.baudRate port)
        (mem_savedKeys.mpr fun p heq => by cases heq; exact hport))).2.2.1]
    next => rfl
  simp only [load, loadAuth, loadAuthInit, loadSalt, storedHash, loadSettings, loadString, hbaud,
    hstr .staSsid _ (by simp), hstr .staPass _ (by simp), hstr .apSsid _ (by simp),
    hstr .apPass _ (by simp), hstr .authUser _ (by simp), hstr .devName _ (by simp),
    hstr .ntpSrv _ (by simp), hstr .timezone _ (by simp), hu8 .powerOn (by simp),
    hu8 .hashVer (by simp), hu8 .authInit (by simp), hblob .authHash _ _ (by simp),
    hblob .authSalt _ _ (by simp)]

theorem loadString_of_saved {key : NvsKey} {n : ℕ} {default' buf value : CString}
    (h : nvs key = some (.str value)) (hfits : Fits n value) :
    loadString nvs key n default' buf = value := by
  unfold loadString nvsGetStr
  rw [h]
  simp only [hfits.1, if_true]
  exact ofBuffer_eq_self hfits.2

theorem nvsGetBlob_of_saved {key : NvsKey} {n : ℕ} {buf bytes : List UInt8}
    (h : nvs key = some (.blob bytes)) (hbuf : buf.length = n) (hbytes : bytes.length = n) :
    nvsGetBlob nvs key n buf = some bytes := by
  unfold nvsGetBlob
  rw [h]
  simp [hbytes, memcpy, hbuf]

/-- A key that holds a saved value is read as that value. -/
theorem saved_stored_of_saved {key : NvsKey} {saved' : AppConfig} (hconf : conf.WellFormed)
    (hsaved : saved'.WellFormed) (hkey : key ∈ savedKeys serialPortMax)
    (h : nvs key = some (saved'.saved key)) :
    (conf.stored serialPortMax nvs).saved key = saved'.saved key := by
  cases key with
  -- a saved string fits its buffer, so it is read whole
  | staSsid => exact congrArg NvsValue.str (loadString_of_saved h hsaved.staSsid)
  | staPass => exact congrArg NvsValue.str (loadString_of_saved h hsaved.staPass)
  | apSsid => exact congrArg NvsValue.str (loadString_of_saved h hsaved.apSsid)
  | apPass => exact congrArg NvsValue.str (loadString_of_saved h hsaved.apPass)
  | authUser => exact congrArg NvsValue.str (loadString_of_saved h hsaved.authUser)
  | devName => exact congrArg NvsValue.str (loadString_of_saved h hsaved.deviceName)
  | ntpSrv => exact congrArg NvsValue.str (loadString_of_saved h hsaved.ntpServer)
  | timezone => exact congrArg NvsValue.str (loadString_of_saved h hsaved.timezone)
  | baudRate port =>
      -- only the rates of existing ports are read
      have hport := mem_savedKeys.mp hkey port rfl
      have hget : nvsGetU32 nvs (.baudRate port) = some (saved'.baudRate port) := by
        unfold nvsGetU32
        rw [h]
        rfl
      show NvsValue.u32 (if port < serialPortMax then _ else _) = _
      rw [if_pos hport, hget]
      rfl
  | powerOn =>
      -- a flag is stored as 0 or 1
      have hget : nvsGetU8 nvs .powerOn = some (if saved'.powerOnDefault then 1 else 0) := by
        unfold nvsGetU8
        rw [h]
        rfl
      have hfield : (conf.stored serialPortMax nvs).powerOnDefault = saved'.powerOnDefault := by
        simp only [stored, loadAuthInit, loadSalt, setHash, loadSettings, hget]
        cases saved'.powerOnDefault <;> rfl
      simp only [saved, hfield]
  | authHash =>
      have hget : storedHash nvs conf = some saved'.authHash :=
        nvsGetBlob_of_saved h hconf.authHash hsaved.authHash
      show NvsValue.blob ((storedHash nvs conf).getD conf.authHash) = _
      rw [hget]
      rfl
  | authSalt =>
      have hget : nvsGetBlob nvs .authSalt configAuthSaltLen conf.authSalt = some saved'.authSalt :=
        nvsGetBlob_of_saved h hconf.authSalt hsaved.authSalt
      show NvsValue.blob ((nvsGetBlob nvs .authSalt configAuthSaltLen conf.authSalt).getD _) = _
      rw [hget]
      rfl
  | authInit =>
      have hget : nvsGetU8 nvs .authInit = some (if saved'.authInitialized then 1 else 0) := by
        unfold nvsGetU8
        rw [h]
        rfl
      have hfield : (conf.stored serialPortMax nvs).authInitialized = saved'.authInitialized := by
        simp only [stored, loadAuthInit, hget]
        cases saved'.authInitialized <;> rfl
      simp only [saved, hfield]
  | hashVer =>
      have hget : nvsGetU8 nvs .hashVer = some saved'.authHashVer := by
        unfold nvsGetU8
        rw [h]
        rfl
      show NvsValue.u8 ((nvsGetU8 nvs .hashVer).getD 0) = _
      rw [hget]
      rfl

/-- The hash can be read after a save if it was written or could be read before. -/
theorem hashReadable_overlay (written : NvsKey → Bool) {saved' : AppConfig} (old : Nvs)
    (hsaved : saved'.WellFormed) :
    hashReadable (Overlay.overlay written saved'.saved old) =
      (written .authHash || hashReadable old) := by
  cases hwritten : written .authHash with
  | true =>
      have hkey : Overlay.overlay written saved'.saved old .authHash =
          some (.blob saved'.authHash) := Overlay.overlay_of_written hwritten
      unfold hashReadable
      rw [hkey]
      simp [hsaved.authHash]
  | false =>
      unfold hashReadable
      rw [Overlay.overlay_of_lost hwritten]
      rfl

/-- A configuration is loaded whatever salt would be drawn only if the hash can be
read: two salts that differ cannot both be the one in the configuration. -/
theorem hashReadable_of_sameConfig {saved' : AppConfig}
    (h : ∀ salt, SameConfig serialPortMax saved' (conf.load sha256 serialPortMax salt nvs)) :
    hashReadable nvs = true := by
  by_contra hhash
  have hsalt : ∀ salt : Vector UInt8 configAuthSaltLen, salt.toList = saved'.authSalt := by
    intro salt
    have hload := (h salt).sameCredentials.authSalt
    rwa [load_of_unreadable (by simpa using hhash)] at hload
  have hzero := hsalt (Vector.replicate configAuthSaltLen 0)
  have hone := hsalt (Vector.replicate configAuthSaltLen 1)
  rw [← hone] at hzero
  exact absurd hzero (by decide)

/-- What a load makes of a key in a cleared configuration it makes of it in the
configuration that is to be loaded. -/
theorem saved_stored_again {key : NvsKey} (hkey : key ∈ savedKeys serialPortMax)
    (h : (zero.stored serialPortMax nvs).saved key = conf.saved key) :
    (conf.stored serialPortMax nvs).saved key = conf.saved key := by
  have hstr : ∀ {key : NvsKey} {n : ℕ} {default' buf value : CString},
      NvsValue.str (loadString nvs key n default' buf) = .str value →
        NvsValue.str (loadString nvs key n default' value) = .str value := by
    intro key n default' buf value hload
    unfold loadString at hload ⊢
    split at hload
    · exact hload
    · exact hload
    · rfl
  have hblob : ∀ {key : NvsKey} {n : ℕ} {buf value : List UInt8},
      NvsValue.blob ((nvsGetBlob nvs key n buf).getD buf) = .blob value →
        NvsValue.blob ((nvsGetBlob nvs key n value).getD value) = .blob value := by
    intro key n buf value hload
    unfold nvsGetBlob at hload ⊢
    split at hload
    · split at hload
      next hle =>
        -- the bytes behind a short blob are those the value has there
        obtain rfl := NvsValue.blob.inj hload
        simp [hle, memcpy]
      next hle => simp [hle]
    · rfl
  cases key with
  | staSsid | staPass | apSsid | apPass | authUser | devName | ntpSrv | timezone =>
      exact hstr h
  | authHash => exact hblob h
  | authSalt => exact hblob h
  | baudRate port =>
      have hport := mem_savedKeys.mp hkey port rfl
      have hrate : (conf.stored serialPortMax nvs).baudRate port =
          (zero.stored serialPortMax nvs).baudRate port :=
        (if_pos hport).trans (if_pos hport).symm
      exact (congrArg NvsValue.u32 hrate).trans h
  | _ => exact h

/-- What a cleared device loads, a running one loads. -/
theorem sameConfig_load_again
    (h : ∀ salt, SameConfig serialPortMax conf (zero.load sha256 serialPortMax salt nvs))
    (salt : Vector UInt8 configAuthSaltLen) :
    SameConfig serialPortMax conf (conf.load sha256 serialPortMax salt nvs) := by
  have hhash : hashReadable nvs = true := hashReadable_of_sameConfig h
  have hzero := sameConfig_iff_saved.mp (h salt)
  rw [load_of_readable hhash] at hzero ⊢
  exact sameConfig_iff_saved.mpr fun key hkey => saved_stored_again hkey (hzero key hkey)

/-- A configuration is loaded back after a save, whatever salt would be drawn, if
and only if its hash can be read and every key whose write was lost is already
read as the value in the configuration. -/
theorem sameConfig_load_overlay_iff {written : NvsKey → Bool} {saved' : AppConfig} {old : Nvs}
    (hconf : conf.WellFormed) (hsaved : saved'.WellFormed) :
    (∀ salt, SameConfig serialPortMax saved'
        (conf.load sha256 serialPortMax salt (Overlay.overlay written saved'.saved old))) ↔
      (written .authHash = true ∨ hashReadable old = true) ∧
        ∀ key ∈ savedKeys serialPortMax, written key = false →
          (conf.stored serialPortMax old).saved key = saved'.saved key := by
  have hreads := Overlay.reads_overlay_iff written saved'.saved old
    (fun key value => (conf.stored serialPortMax fun _ => value).saved key) saved'.saved
    (· ∈ savedKeys serialPortMax) fun key hkey => saved_stored_of_saved hconf hsaved hkey rfl
  have hlocal : ∀ nvs key, (conf.stored serialPortMax fun _ => nvs key).saved key =
      (conf.stored serialPortMax nvs).saved key := fun nvs key => saved_stored_congr rfl
  simp only [hlocal] at hreads
  rw [← hreads, ← Bool.or_eq_true, ← hashReadable_overlay written old hsaved]
  refine ⟨fun hsame => ?_, fun ⟨hhash, hkeys⟩ salt => ?_⟩
  · have hhash := hashReadable_of_sameConfig hsame
    refine ⟨hhash, ?_⟩
    rw [← load_of_readable hhash]
    exact sameConfig_iff_saved.mp (hsame (.replicate configAuthSaltLen 0))
  · rw [load_of_readable hhash]
    exact sameConfig_iff_saved.mpr hkeys

end AppConfig

end WebTerminal
