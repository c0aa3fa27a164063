import WebTerminal.Config.AppConfig

/-!
# The stored configuration

The keys of the `webterm` namespace in flash and what `save_to_nvs` stores
under each of them.
-/

set_option autoImplicit false

namespace WebTerminal

/-- The keys of `save_to_nvs`. -/
inductive NvsKey
  | staSsid
  | staPass
  | apSsid
  | apPass
  | authUser
  | baudRate (port : ℕ)
  | powerOn
  | authHash
  | authSalt
  | authInit
  | hashVer
  | devName
  | ntpSrv
  | timezone
  deriving DecidableEq

/-- A key as the source writes it. -/
def NvsKey.name : NvsKey → String
  | staSsid => "sta_ssid"
  | staPass => "sta_pass"
  | apSsid => "ap_ssid"
  | apPass => "ap_pass"
  | authUser => "auth_user"
  | baudRate 0 => "baud_rate"
  | baudRate port => "baud_rate" ++ toString port
  | powerOn => "power_on"
  | authHash => "auth_hash"
  | authSalt => "auth_salt"
  | authInit => "auth_init"
  | hashVer => "hash_ver"
  | devName => "dev_name"
  | ntpSrv => "ntp_srv"
  | timezone => "timezone"

inductive NvsValue
  | str (value : CString)
  | u8 (value : UInt8)
  | u32 (value : UInt32)
  | blob (bytes : List UInt8)
  deriving DecidableEq

/-- The contents of the namespace. -/
abbrev Nvs := NvsKey → Option NvsValue

/-- The value `save_to_nvs` stores under a key. -/
def AppConfig.saved (conf : AppConfig) : NvsKey → NvsValue
  | .staSsid => .str conf.staSsid
  | .staPass => .str conf.staPass
  | .apSsid => .str conf.apSsid
  | .apPass => .str conf.apPass
  | .authUser => .str conf.authUser
  | .baudRate port => .u32 (conf.baudRate port)
  | .powerOn => .u8 (if conf.powerOnDefault then 1 else 0)
  | .authHash => .blob conf.authHash
  | .authSalt => .blob conf.authSalt
  | .authInit => .u8 (if conf.authInitialized then 1 else 0)
  | .hashVer => .u8 conf.authHashVer
  | .devName => .str conf.deviceName
  | .ntpSrv => .str conf.ntpServer
  | .timezone => .str conf.timezone

/-- The keys `save_to_nvs` writes, in order, on a chip with this many ports. -/
def savedKeys (serialPortMax : ℕ) : List NvsKey :=
  [.staSsid, .staPass, .apSsid, .apPass, .authUser] ++
    (List.range serialPortMax).map .baudRate ++
    [.powerOn, .authHash, .authSalt, .authInit, .hashVer, .devName, .ntpSrv, .timezone]

/-- The keys that hold the credentials. -/
def NvsKey.ofCredentials : NvsKey → Bool
  | .authUser | .authHash | .authSalt | .authInit | .hashVer => true
  | _ => false

namespace AppConfig

/-- Two configurations that differ at most in the credentials. -/
def SameSettings (conf conf' : AppConfig) : Prop :=
  conf' = { conf with
    authUser := conf'.authUser, authHash := conf'.authHash, authSalt := conf'.authSalt,
    authInitialized := conf'.authInitialized, authHashVer := conf'.authHashVer }

/-- Two configurations with the same credentials. -/
structure SameCredentials (conf conf' : AppConfig) : Prop where
  authUser : conf'.authUser = conf.authUser
  authHash : conf'.authHash = conf.authHash
  authSalt : conf'.authSalt = conf.authSalt
  authInitialized : conf'.authInitialized = conf.authInitialized
  authHashVer : conf'.authHashVer = conf.authHashVer

theorem SameCredentials.refl (conf : AppConfig) : conf.SameCredentials conf :=
  ⟨rfl, rfl, rfl, rfl, rfl⟩

theorem SameCredentials.trans {a b c : AppConfig} (h : a.SameCredentials b)
    (h' : b.SameCredentials c) : a.SameCredentials c :=
  ⟨h'.1.trans h.1, h'.2.trans h.2, h'.3.trans h.3, h'.4.trans h.4, h'.5.trans h.5⟩

theorem SameSettings.refl (conf : AppConfig) : conf.SameSettings conf := rfl

theorem SameSettings.trans {a b c : AppConfig} (h : a.SameSettings b) (h' : b.SameSettings c) :
    a.SameSettings c := by
  unfold SameSettings at h h' ⊢
  rw [h', h]

/-- Settings that agree are saved alike. -/
theorem SameSettings.saved {conf conf' : AppConfig} (h : conf.SameSettings conf') {key : NvsKey}
    (hkey : key.ofCredentials = false) : conf'.saved key = conf.saved key := by
  unfold SameSettings at h
  rw [h]
  cases key <;> first | rfl | cases hkey

theorem sameSettings_setAuth (sha256 : Digest) (salt : Vector UInt8 configAuthSaltLen)
    (username password : CString) (conf : AppConfig) :
    conf.SameSettings (conf.setAuth sha256 salt username password) := rfl

/-- Credentials that agree are saved alike. -/
theorem SameCredentials.saved {conf conf' : AppConfig} (h : conf.SameCredentials conf')
    {key : NvsKey} (hkey : key.ofCredentials = true) : conf'.saved key = conf.saved key := by
  cases key with
  | authUser => simp [AppConfig.saved, h.authUser]
  | authHash => simp [AppConfig.saved, h.authHash]
  | authSalt => simp [AppConfig.saved, h.authSalt]
  | authInit => simp [AppConfig.saved, h.authInitialized]
  | hashVer => simp [AppConfig.saved, h.authHashVer]
  | _ => cases hkey

/-- The same password opens configurations with the same credentials. -/
theorem SameCredentials.checkPassword {conf conf' : AppConfig} (h : conf.SameCredentials conf')
    (sha256 : Digest) (password : CString) :
    conf'.checkPassword sha256 password = conf.checkPassword sha256 password := by
  unfold AppConfig.checkPassword
  rw [h.authHash, h.authSalt, h.authHashVer]

end AppConfig

end WebTerminal
