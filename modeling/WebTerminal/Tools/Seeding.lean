import WebTerminal.Server.System
import WebTerminal.Tools.SeedImage

/-!
# A board that is flashed with a seed

`config_init` on the image of a seed file.  Every documented key is to come up with
the value the file gives it, and every key it leaves out with the default of the
firmware.  `Seed.Fits` says exactly when that is so.
-/

set_option autoImplicit false

namespace WebTerminal

namespace FactoryFlash

/-! ## Encodings -/

@[simp] theorem PyStr.encode_nil : PyStr.encode [] = [] := rfl

theorem PyStr.encode_eq_nil {s : PyStr} : s.encode = [] ↔ s = [] := by
  unfold PyStr.encode
  cases s with
  | nil => simp
  | cons c s => simp [String.utf8EncodeChar_ne_nil]

theorem PyStr.encode_injective {s t : PyStr} (h : s.encode = t.encode) : s = t := by
  have hbytes : s.utf8Encode = t.utf8Encode := congrArg List.toByteArray h
  rw [← String.toByteArray_ofList, ← String.toByteArray_ofList] at hbytes
  simpa using congrArg String.toList (String.toByteArray_inj.mp hbytes)

theorem encode_admin : PyStr.encode "admin".toList = configDefaultAuthUser := by decide

/-! ## Agreement -/

/-- What a string is to come up as. -/
def documented (value : Option PyStr) (default' : CString) : CString :=
  (value.map PyStr.encode).getD default'

/-- The configuration is the one the seed describes, where `printed` is the password the
tool prints.  Without a password the board comes up for its first-time setup. -/
structure SeedAgrees (sha256 : Digest) (seed : Seed) (printed : Option PyStr) (conf : AppConfig) :
    Prop where
  deviceName : conf.deviceName = documented seed.deviceName configDefaultDeviceName
  staSsid : conf.staSsid = documented seed.staSsid []
  staPass : conf.staPass = documented seed.staPass []
  apSsid : conf.apSsid = documented seed.apSsid configDefaultApSsid
  apPass : conf.apPass = documented seed.apPass configDefaultApPass
  username : conf.authUser = documented seed.username configDefaultAuthUser
  baudRate : ((conf.baudRate 0).toNat : ℤ) = seed.baudRate.getD configDefaultBaudRate.toNat
  powerOnDefault : conf.powerOnDefault = seed.powerOnDefault.getD true
  ntpServer : conf.ntpServer = documented seed.ntpServer []
  timezone : conf.timezone = documented seed.timezone configDefaultTimezone
  password : get seed.password ≠ [] → (0 : UInt8) ∉ (printed.getD (get seed.password)).encode →
    conf.checkPassword sha256 (printed.getD (get seed.password)).encode = true
  forcePasswordChange : get seed.password ≠ [] →
    conf.authInitialized = !seed.forcePasswordChange.getD false
  noPassword : get seed.password = [] →
    conf.checkPassword sha256 configDefaultAuthPass = true ∧ conf.authInitialized = false

/-- A string the firmware reads back: one that is not empty fits its buffer, and an empty
one is the default. -/
def StringFits (maxLen : ℕ) (default' : CString) (value : Option PyStr) : Prop :=
  ∀ text, value = some text →
    if text = [] then default' = [] else WebTerminal.Fits (maxLen + 1) text.encode

/-- The login name is read back: with a password it fits its buffer, without one it is the
default. -/
def UsernameFits (seed : Seed) : Prop :=
  ∀ text, seed.username = some text →
    if get seed.password = [] then text = "admin".toList
    else WebTerminal.Fits (configAuthUserMaxLen + 1) text.encode

/-- A seed that the firmware reads as it is written. -/
structure Seed.Fits (seed : Seed) : Prop where
  deviceName : StringFits configDeviceNameMaxLen configDefaultDeviceName seed.deviceName
  staSsid : StringFits configWifiSsidMaxLen [] seed.staSsid
  staPass : StringFits configWifiPassMaxLen [] seed.staPass
  apSsid : StringFits configWifiSsidMaxLen configDefaultApSsid seed.apSsid
  apPass : StringFits configWifiPassMaxLen configDefaultApPass seed.apPass
  username : UsernameFits seed
  baudRate : seed.baudRate ≠ some 0
  ntpServer : StringFits configNtpServerMaxLen [] seed.ntpServer
  timezone : StringFits configTimezoneMaxLen configDefaultTimezone seed.timezone

/-- A string that is stored whole is read back exactly if it fits. -/
theorem loadString_stored_iff {nvs : Nvs} {key : NvsKey} {n : ℕ} {default' value : CString}
    (h : nvs key = some (.str value)) (hvalue : value ≠ []) :
    loadString nvs key n default' [] = value ↔ WebTerminal.Fits n value := by
  refine ⟨fun hload => ?_, AppConfig.loadString_of_saved h⟩
  unfold loadString nvsGetStr at hload
  rw [h] at hload
  by_cases hlt : value.length < n
  · simp only [hlt, if_true] at hload
    exact ⟨hlt, hload ▸ notMem_ofBuffer value⟩
  · -- the buffer keeps the empty string of a reset
    simp only [hlt, if_false] at hload
    exact absurd hload.symm hvalue

theorem loadString_missing {nvs : Nvs} {key : NvsKey} {n : ℕ} {default' buf : CString}
    (h : nvs key = none) (hdefault : default'.length < n) :
    loadString nvs key n default' buf = default' := by
  unfold loadString nvsGetStr
  rw [h]
  exact strncpy_eq_self hdefault

/-- A string of the seed comes up as documented exactly if it fits. -/
theorem loadString_seeded_iff {nvs : Nvs} {key : NvsKey} {maxLen : ℕ} {default' : CString}
    {value : Option PyStr} (h : nvs key = seededString (get value))
    (hdefault : default'.length < maxLen + 1) :
    loadString nvs key (maxLen + 1) default' [] = documented value default' ↔
      StringFits maxLen default' value := by
  unfold StringFits documented
  cases value with
  | none =>
      rw [loadString_missing h hdefault]
      simp
  | some text =>
      by_cases htext : text = []
      · subst htext
        rw [loadString_missing h hdefault]
        simp
      · have hstored : nvs key = some (.str text.encode) := by
          rw [h]
          exact if_pos htext
        simp only [Option.map_some, Option.getD_some, Option.some.injEq, forall_eq', htext,
          if_false]
        exact loadString_stored_iff hstored (mt PyStr.encode_eq_nil.mp htext)

/-! ## The load of an image -/

section

variable {sha256 : Digest} {serialPortMax : ℕ} {salt : Vector UInt8 authSaltLen}
  {drawn : Vector UInt8 configAuthSaltLen} {tokenUrlsafe : PyStr} {seed : Seed} {nvs : Nvs}

/-- The credentials do not touch the settings. -/
theorem sameSettings_load (conf : AppConfig) :
    (conf.loadSettings serialPortMax nvs).SameSettings
      (conf.load sha256 serialPortMax drawn nvs) := by
  unfold AppConfig.load AppConfig.loadAuth
  split <;> rfl

theorem load_authUser (conf : AppConfig) :
    (conf.load sha256 serialPortMax drawn nvs).authUser =
      loadString nvs .authUser (configAuthUserMaxLen + 1) configDefaultAuthUser conf.authUser := by
  unfold AppConfig.load AppConfig.loadAuth
  split <;> rfl

theorem length_pbkdf2Hmac (password salt : List UInt8) :
    (pbkdf2Hmac sha256 password salt).length = configAuthHashLen := by
  have hlength := AppConfig.length_computeHash sha256 password salt
  unfold computeHash at hlength
  rwa [pbkdf2HmacSha256_eq] at hlength

/-- The hash of the tool is the hash of the firmware. -/
theorem computeHash_eq (password salt : List UInt8) :
    computeHash sha256 password salt = pbkdf2Hmac sha256 password salt :=
  pbkdf2HmacSha256_eq sha256 password salt _ _

/-- `nvs` holds the image of the seed. -/
def HoldsSeed (sha256 : Digest) (salt : Vector UInt8 authSaltLen) (tokenUrlsafe : PyStr)
    (seed : Seed) (nvs : Nvs) : Prop :=
  ∀ key, (∀ port, key ≠ .baudRate (port + 1)) → nvs key = seed.image sha256 salt tokenUrlsafe key

theorem HoldsSeed.credentials (h : HoldsSeed sha256 salt tokenUrlsafe seed nvs)
    (hpass : get seed.password ≠ []) (key : NvsKey) (hkey : key.ofCredentials = true) :
    nvs key = authImage (seed.username.getD "admin".toList)
      (pbkdf2Hmac sha256 (seed.chosenPassword tokenUrlsafe).encode salt.toList) salt.toList
      (seed.forcePasswordChange.getD false) key := by
  cases key with
  | baudRate port => cases hkey
  | _ => first
      | exact (h _ (by simp)).trans (if_pos hpass)
      | exact absurd hkey (by decide)

theorem HoldsSeed.noCredentials (h : HoldsSeed sha256 salt tokenUrlsafe seed nvs)
    (hpass : get seed.password = []) (key : NvsKey) (hkey : key.ofCredentials = true) :
    nvs key = none := by
  cases key with
  | baudRate port => cases hkey
  | _ => first
      | exact (h _ (by simp)).trans (if_neg (not_not_intro hpass))
      | exact absurd hkey (by decide)

/-- The password that was hashed is accepted. -/
theorem checkPassword_of_hash {conf : AppConfig} {password : CString} (hver : conf.authHashVer ≠ 0)
    (hhash : conf.authHash = computeHash sha256 password conf.authSalt) :
    conf.checkPassword sha256 password = true := by
  unfold AppConfig.checkPassword
  simp only [if_neg hver, hhash]
  exact constantTimeCompare_self _ _

/-- A hash that can be read is loaded with its salt. -/
theorem load_storedHash {hash : List UInt8} (hhash : nvs .authHash = some (.blob hash))
    (hlength : hash.length = configAuthHashLen) (hsalt : nvs .authSalt = some (.blob salt.toList))
    (hver : nvs .hashVer = some (.u8 1)) :
    let conf := AppConfig.zero.load sha256 serialPortMax drawn nvs
    conf.authHash = hash ∧ conf.authSalt = salt.toList ∧ conf.authHashVer = 1 := by
  intro conf
  have hstored :
      AppConfig.storedHash nvs (AppConfig.zero.loadSettings serialPortMax nvs) = some hash :=
    AppConfig.nvsGetBlob_of_saved hhash rfl hlength
  have hread :
      nvsGetBlob nvs .authSalt configAuthSaltLen AppConfig.zero.authSalt = some salt.toList :=
    AppConfig.nvsGetBlob_of_saved hsalt rfl Vector.length_toList
  have hu8 : nvsGetU8 nvs .hashVer = some 1 := by
    unfold nvsGetU8
    rw [hver]
  have hconf : conf =
      ((AppConfig.zero.loadSettings serialPortMax nvs).loadSalt nvs hash).loadAuthInit nvs := by
    show AppConfig.zero.load sha256 serialPortMax drawn nvs = _
    unfold AppConfig.load AppConfig.loadAuth
    rw [hstored]
  rw [hconf]
  refine ⟨rfl, ?_, ?_⟩
  · show (nvsGetBlob nvs .authSalt configAuthSaltLen AppConfig.zero.authSalt).getD _ = _
    rw [hread]
    rfl
  · show (nvsGetU8 nvs .hashVer).getD 0 = 1
    rw [hu8]
    rfl

/-- A seeded password is the one that is accepted. -/
theorem HoldsSeed.load_password (h : HoldsSeed sha256 salt tokenUrlsafe seed nvs)
    (hpass : get seed.password ≠ []) :
    let conf := AppConfig.zero.load sha256 serialPortMax drawn nvs
    conf.checkPassword sha256 (seed.chosenPassword tokenUrlsafe).encode = true ∧
      conf.authInitialized = !seed.forcePasswordChange.getD false := by
  intro conf
  obtain ⟨hhash, hsalt, hver⟩ : conf.authHash = _ ∧ conf.authSalt = _ ∧ conf.authHashVer = 1 :=
    load_storedHash (h.credentials hpass .authHash rfl) (length_pbkdf2Hmac _ _)
      (h.credentials hpass .authSalt rfl) (h.credentials hpass .hashVer rfl)
  constructor
  · refine checkPassword_of_hash (by rw [hver]; decide) ?_
    rw [hhash, hsalt, computeHash_eq]
  · have hu8 : nvsGetU8 nvs .authInit =
        some (if seed.forcePasswordChange.getD false then 0 else 1) := by
      unfold nvsGetU8
      rw [h.credentials hpass .authInit rfl]
      rfl
    show decide ((nvsGetU8 nvs .authInit).getD 0 ≠ 0) = _
    rw [hu8]
    cases seed.forcePasswordChange.getD false <;> rfl

/-- Without a password the board comes up for its first-time setup. -/
theorem HoldsSeed.load_noPassword (h : HoldsSeed sha256 salt tokenUrlsafe seed nvs)
    (hpass : get seed.password = []) :
    let conf := AppConfig.zero.load sha256 serialPortMax drawn nvs
    conf.checkPassword sha256 configDefaultAuthPass = true ∧ conf.authInitialized = false := by
  intro conf
  have hunreadable : hashReadable nvs = false := by
    unfold hashReadable
    rw [h.noCredentials hpass _ rfl]
  have hinit : nvsGetU8 nvs .authInit = none := by
    unfold nvsGetU8
    rw [h.noCredentials hpass _ rfl]
  have hconf : conf = ((AppConfig.zero.loadSettings serialPortMax nvs).setDefaultAuth sha256
      drawn).loadAuthInit nvs := AppConfig.load_of_unreadable hunreadable
  rw [hconf]
  constructor
  · exact checkPassword_of_hash (show (1 : UInt8) ≠ 0 by decide) rfl
  · show decide ((nvsGetU8 nvs .authInit).getD 0 ≠ 0) = false
    rw [hinit]
    rfl

/-- The login name comes up as documented exactly if it is read back. -/
theorem HoldsSeed.load_username_iff (h : HoldsSeed sha256 salt tokenUrlsafe seed nvs) :
    (AppConfig.zero.load sha256 serialPortMax drawn nvs).authUser =
      documented seed.username configDefaultAuthUser ↔ UsernameFits seed := by
  rw [load_authUser]
  unfold UsernameFits
  by_cases hpass : get seed.password = []
  · rw [loadString_missing (h.noCredentials hpass .authUser rfl) (by decide)]
    cases seed.username with
    | none => simp [documented]
    | some text =>
        simp only [documented, Option.map_some, Option.getD_some, Option.some.injEq, forall_eq',
          hpass, if_true]
        rw [← encode_admin]
        exact ⟨fun heq => (PyStr.encode_injective heq).symm, fun heq => by rw [heq]⟩
  · have hstored : nvs .authUser = some (.str (seed.username.getD "admin".toList).encode) :=
      h.credentials hpass .authUser rfl
    simp only [hpass, if_false]
    cases huser : seed.username with
    | none =>
        rw [huser] at hstored
        simp only [documented, Option.map_none, Option.getD_none, reduceCtorEq, false_implies,
          implies_true, iff_true]
        rw [Option.getD_none, encode_admin] at hstored
        exact AppConfig.loadString_of_saved hstored ⟨by decide, by decide⟩
    | some text =>
        rw [huser] at hstored
        simp only [documented, Option.map_some, Option.getD_some, Option.some.injEq, forall_eq']
        by_cases htext : text = []
        · subst htext
          have hfits : WebTerminal.Fits (configAuthUserMaxLen + 1) (PyStr.encode []) :=
            AppConfig.fits_nil (by decide)
          exact iff_of_true (AppConfig.loadString_of_saved hstored hfits) hfits
        · exact loadString_stored_iff hstored (mt PyStr.encode_eq_nil.mp htext)

theorem HoldsSeed.load_powerOn (h : HoldsSeed sha256 salt tokenUrlsafe seed nvs) :
    (AppConfig.zero.loadSettings serialPortMax nvs).powerOnDefault =
      seed.powerOnDefault.getD true := by
  have hstored : nvs .powerOn =
      seed.powerOnDefault.map fun powerOn => .u8 (if powerOn then 1 else 0) := h _ (by simp)
  have hget : nvsGetU8 nvs .powerOn =
      seed.powerOnDefault.map fun powerOn => if powerOn then 1 else 0 := by
    unfold nvsGetU8
    rw [hstored]
    cases seed.powerOnDefault <;> rfl
  unfold AppConfig.loadSettings
  simp only [hget]
  rcases seed.powerOnDefault with _ | _ | _ <;> rfl

theorem HoldsSeed.load_baudRate_iff (h : HoldsSeed sha256 salt tokenUrlsafe seed nvs)
    (haccepted : validate seed = .ok ()) (hports : 0 < serialPortMax) :
    (((AppConfig.zero.load sha256 serialPortMax drawn nvs).baudRate 0).toNat : ℤ) =
      seed.baudRate.getD configDefaultBaudRate.toNat ↔ seed.baudRate ≠ some 0 := by
  have hload : (AppConfig.zero.load sha256 serialPortMax drawn nvs).baudRate 0 =
      (nvsGetU32 nvs (.baudRate 0)).getD configDefaultBaudRate := by
    have hsame : (AppConfig.zero.loadSettings serialPortMax nvs).SameSettings
        (AppConfig.zero.load sha256 serialPortMax drawn nvs) := sameSettings_load .zero
    rw [congrArg AppConfig.baudRate hsame]
    exact if_pos hports
  have hstored : nvs (.baudRate 0) = if seed.baudRate.getD 0 ≠ 0 then
      some (.u32 (UInt32.ofNat (seed.baudRate.getD 0).toNat)) else none := h _ (by simp)
  rw [hload]
  unfold nvsGetU32
  cases hbaud : seed.baudRate with
  | none =>
      rw [hbaud] at hstored
      rw [hstored]
      simp
  | some baudRate =>
      rw [hbaud] at hstored
      by_cases hzero : baudRate = 0
      · subst hzero
        rw [hstored]
        decide
      · have hvalid : baudRate ∈ validBauds := by
          have hmem := baudRate_of_accepted haccepted (by rw [hbaud]; exact hzero)
          rwa [hbaud] at hmem
        rw [hstored]
        simp only [validBauds, List.mem_cons, List.not_mem_nil, or_false] at hvalid
        rcases hvalid with rfl | rfl | rfl | rfl | rfl | rfl | rfl | rfl | rfl <;> decide

/-- The image of an accepted seed is read as the seed describes it exactly if it fits. -/
theorem HoldsSeed.agrees_iff (h : HoldsSeed sha256 salt tokenUrlsafe seed nvs)
    (haccepted : validate seed = .ok ()) (hports : 0 < serialPortMax) :
    SeedAgrees sha256 seed (generatedPassword tokenUrlsafe seed)
      (AppConfig.zero.load sha256 serialPortMax drawn nvs) ↔ seed.Fits := by
  have hsame : (AppConfig.zero.loadSettings serialPortMax nvs).SameSettings
      (AppConfig.zero.load sha256 serialPortMax drawn nvs) := sameSettings_load .zero
  -- a text is read as it was seeded exactly if it fits, for every default is shorter
  have hdevice := loadString_seeded_iff (h .devName (by simp))
    (by decide : configDefaultDeviceName.length < configDeviceNameMaxLen + 1)
  have hstaSsid := loadString_seeded_iff (h .staSsid (by simp))
    (by decide : ([] : CString).length < configWifiSsidMaxLen + 1)
  have hstaPass := loadString_seeded_iff (h .staPass (by simp))
    (by decide : ([] : CString).length < configWifiPassMaxLen + 1)
  have hapSsid := loadString_seeded_iff (h .apSsid (by simp))
    (by decide : configDefaultApSsid.length < configWifiSsidMaxLen + 1)
  have hapPass := loadString_seeded_iff (h .apPass (by simp))
    (by decide : configDefaultApPass.length < configWifiPassMaxLen + 1)
  have hntp := loadString_seeded_iff (h .ntpSrv (by simp))
    (by decide : ([] : CString).length < configNtpServerMaxLen + 1)
  have htimezone := loadString_seeded_iff (h .timezone (by simp))
    (by decide : configDefaultTimezone.length < configTimezoneMaxLen + 1)
  have hpower : (AppConfig.zero.loadSettings serialPortMax nvs).powerOnDefault =
      seed.powerOnDefault.getD true := h.load_powerOn
  constructor
  · intro hagrees
    exact {
      deviceName := hdevice.mp ((congrArg AppConfig.deviceName hsame).symm.trans hagrees.deviceName)
      staSsid := hstaSsid.mp ((congrArg AppConfig.staSsid hsame).symm.trans hagrees.staSsid)
      staPass := hstaPass.mp ((congrArg AppConfig.staPass hsame).symm.trans hagrees.staPass)
      apSsid := hapSsid.mp ((congrArg AppConfig.apSsid hsame).symm.trans hagrees.apSsid)
      apPass := hapPass.mp ((congrArg AppConfig.apPass hsame).symm.trans hagrees.apPass)
      username := h.load_username_iff.mp hagrees.username
      baudRate := (h.load_baudRate_iff haccepted hports).mp hagrees.baudRate
      ntpServer := hntp.mp ((congrArg AppConfig.ntpServer hsame).symm.trans hagrees.ntpServer)
      timezone := htimezone.mp ((congrArg AppConfig.timezone hsame).symm.trans hagrees.timezone) }
  · intro hfits
    exact {
      deviceName := (congrArg AppConfig.deviceName hsame).trans (hdevice.mpr hfits.deviceName)
      staSsid := (congrArg AppConfig.staSsid hsame).trans (hstaSsid.mpr hfits.staSsid)
      staPass := (congrArg AppConfig.staPass hsame).trans (hstaPass.mpr hfits.staPass)
      apSsid := (congrArg AppConfig.apSsid hsame).trans (hapSsid.mpr hfits.apSsid)
      apPass := (congrArg AppConfig.apPass hsame).trans (hapPass.mpr hfits.apPass)
      username := h.load_username_iff.mpr hfits.username
      baudRate := (h.load_baudRate_iff haccepted hports).mpr hfits.baudRate
      powerOnDefault := (congrArg AppConfig.powerOnDefault hsame).trans hpower
      ntpServer := (congrArg AppConfig.ntpServer hsame).trans (hntp.mpr hfits.ntpServer)
      timezone := (congrArg AppConfig.timezone hsame).trans (htimezone.mpr hfits.timezone)
      password := fun hpass _ => (h.load_password hpass).1
      forcePasswordChange := fun hpass => (h.load_password hpass).2
      noPassword := h.load_noPassword }

end

/-! ## Flashing a board -/

/-- What `build_nvs_image` returns for a seed it accepts. -/
theorem buildNvsImage_ok {sha256 : Digest} {salt : Vector UInt8 authSaltLen} {tokenUrlsafe : PyStr}
    {seed : Seed} {rows' : List CsvRow} {printed : Option PyStr}
    (h : buildNvsImage sha256 salt tokenUrlsafe seed = .ok (rows', printed)) :
    validate seed = .ok () ∧ rows' = rows sha256 salt tokenUrlsafe seed ∧
      printed = generatedPassword tokenUrlsafe seed := by
  unfold buildNvsImage at h
  cases hvalid : validate seed with
  | error msg =>
      rw [hvalid] at h
      cases h
  | ok =>
      rw [hvalid] at h
      cases h
      exact ⟨rfl, rfl, rfl⟩

/-- A board that is flashed with the image of an accepted seed comes up as the seed describes
it exactly if the seed fits. -/
theorem seed_agrees_iff (pf : Platform) {env : Env} (hok : env.AllOk)
    {nvsPartitionGen : List CsvRow → Nvs} (hgen : StoresRows nvsPartitionGen)
    {salt : Vector UInt8 authSaltLen} {tokenUrlsafe : PyStr} {seed : Seed} {rows' : List CsvRow}
    {printed : Option PyStr}
    (h : buildNvsImage pf.sha256 salt tokenUrlsafe seed = .ok (rows', printed)) {board : Board}
    (hreset : board.config = .zero) (hflashed : board.nvs = nvsPartitionGen rows') :
    ∃ w, configInit pf env board.start = .ok .ok w ∧
      (SeedAgrees pf.sha256 seed printed w.state.config ↔ seed.Fits) := by
  obtain ⟨haccepted, rfl, rfl⟩ := buildNvsImage_ok h
  obtain ⟨w, hinit, hw⟩ := configInit_ok pf hok board
  refine ⟨w, hinit, ?_⟩
  have hseed : HoldsSeed pf.sha256 salt tokenUrlsafe seed board.nvs := by
    intro key hkey
    rw [hflashed]
    exact image_of_rows hgen haccepted key hkey
  have hports : 0 < pf.target.serialPortMax := by
    cases pf.target <;> decide
  rw [hw]
  show SeedAgrees _ _ _ (board.config.load _ _ _ board.nvs) ↔ _
  rw [hreset]
  exact hseed.agrees_iff haccepted hports

/-- An `nvs_partition_gen` that stores the rows as they are. -/
def demoPartitionGen (rows : List CsvRow) : Nvs :=
  fun key => (rowOf rows key.name).bind CsvRow.nvsValue

theorem demoPartitionGen_storesRows : StoresRows demoPartitionGen := fun _ _ _ => rfl

/-- The seed without a key. -/
def emptySeed : Seed where
  deviceName := none
  staSsid := none
  staPass := none
  apSsid := none
  apPass := none
  username := none
  password := none
  forcePasswordChange := none
  baudRate := none
  powerOnDefault := none
  ntpServer := none
  timezone := none

/-- `{"device_name": "rack-pi-01", "sta_ssid": "lab", "baud_rate": 230400, "username": "root",
"password": "hunter2hunter2"}` -/
def demoSeed : Seed :=
  { emptySeed with
    deviceName := some "rack-pi-01".toList
    staSsid := some "lab".toList
    baudRate := some 230400
    username := some "root".toList
    password := some "hunter2hunter2".toList }

theorem demoSeed_fits : demoSeed.Fits where
  deviceName := by rintro text ⟨⟩; exact ⟨by decide, by decide⟩
  staSsid := by rintro text ⟨⟩; exact ⟨by decide, by decide⟩
  staPass := by rintro text ⟨⟩
  apSsid := by rintro text ⟨⟩
  apPass := by rintro text ⟨⟩
  username := by rintro text ⟨⟩; exact ⟨by decide, by decide⟩
  baudRate := by decide
  ntpServer := by rintro text ⟨⟩
  timezone := by rintro text ⟨⟩

/-- After a reset, with these rows in flash. -/
def demoFlashed (rows : List CsvRow) : Board :=
  { demoSystem.device.board with config := .zero, nvs := demoPartitionGen rows }

/-- Such a seed, on a board. -/
theorem seed_agrees_rack :
    ∃ rows' printed w,
      buildNvsImage zeroDigest (Vector.replicate authSaltLen 0) [] demoSeed = .ok (rows', printed) ∧
        configInit (demoPlatform []) (demoEnv 0 []) (demoFlashed rows').start = .ok .ok w ∧
          SeedAgrees zeroDigest demoSeed printed w.state.config := by
  have hbuild :
      buildNvsImage (demoPlatform []).sha256 (Vector.replicate authSaltLen 0) [] demoSeed =
      .ok (rows (demoPlatform []).sha256 (Vector.replicate authSaltLen 0) [] demoSeed,
        generatedPassword [] demoSeed) := by
    unfold buildNvsImage
    rw [show validate demoSeed = .ok () by decide]
    rfl
  obtain ⟨w, hinit, hagrees⟩ :
      ∃ w, configInit (demoPlatform []) (demoEnv 0 []) (demoFlashed _).start =
      .ok .ok w ∧ (SeedAgrees (demoPlatform []).sha256 demoSeed _ w.state.config ↔ demoSeed.Fits) :=
    seed_agrees_iff (demoPlatform []) (fun _ => rfl) demoPartitionGen_storesRows hbuild rfl rfl
  exact ⟨_, _, w, hbuild, hinit, hagrees.mpr demoSeed_fits⟩

/-- `{"ap_pass": ""}`, which asks for an open access point -/
def openApSeed : Seed := { emptySeed with apPass := some [] }

/-- The access point comes up with the default password. -/
theorem seed_agrees_closed_ap :
    ∃ rows' printed w,
      buildNvsImage zeroDigest (Vector.replicate authSaltLen 0) [] openApSeed =
        .ok (rows', printed) ∧
        configInit (demoPlatform []) (demoEnv 0 []) (demoFlashed rows').start = .ok .ok w ∧
          w.state.config.apPass = cstr "esp32term" ∧
            ¬SeedAgrees zeroDigest openApSeed printed w.state.config := by
  obtain ⟨rows', hrows⟩ : ∃ rows', rows' =
      rows zeroDigest (Vector.replicate authSaltLen 0) [] openApSeed := ⟨_, rfl⟩
  have hbuild : buildNvsImage zeroDigest (Vector.replicate authSaltLen 0) [] openApSeed =
      .ok (rows', none) := by
    unfold buildNvsImage
    rw [show validate openApSeed = .ok () by decide, hrows]
    rfl
  obtain ⟨w, hinit, hw⟩ := configInit_ok (demoPlatform []) (fun _ => rfl : (demoEnv 0 []).AllOk)
    (demoFlashed rows')
  -- the empty password got no row
  have hmissing : demoPartitionGen rows' .apPass = none := by
    rw [hrows]
    decide
  have happass : w.state.config.apPass = cstr "esp32term" := by
    rw [hw]
    have hsame : (AppConfig.zero.loadSettings 1 (demoPartitionGen rows')).SameSettings
        (AppConfig.zero.load zeroDigest 1 ((demoEnv 0 []).saltBytes 2) (demoPartitionGen rows')) :=
      sameSettings_load .zero
    exact (congrArg AppConfig.apPass hsame).trans (loadString_missing hmissing (by decide))
  refine ⟨rows', none, w, hbuild, hinit, happass, fun hagrees => ?_⟩
  have hopen : cstr "esp32term" = [] := happass.symm.trans hagrees.apPass
  exact absurd hopen (by decide)

end FactoryFlash

end WebTerminal
