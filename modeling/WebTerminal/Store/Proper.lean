import WebTerminal.Server.ConfigPost
import WebTerminal.Store.SetupLock

/-!
# What requests can make of the configuration

`handle_config_post` checks its fields before it hands them to `config.c`.
`ConfigCall.Accepted` is what passes these checks.

Flash is written one key at a time, and any write may be lost, so that what is stored
need not be a configuration that ever was in effect.  But every key holds what some
proper configuration would save there, and so a proper configuration is loaded.
-/

set_option autoImplicit false

namespace WebTerminal

/-- The setters with the arguments that requests reach them with. -/
def ConfigCall.Accepted : ConfigCall → Prop
  | wifiSta ssid password => staRefused ssid password = false ∨ ssid.val = [] ∧ password.val = []
  | wifiAp ssid password => apSsidRefused ssid = false ∧ apPassRefused password = false
  | baudRate _ => False
  | baudRatePort _ rate => rate ∈ validBauds
  | deviceName name => 0 < name.val.length
  | auth username password =>
      (0 < username.val.length ∧ username.val.length ≤ configAuthUserMaxLen) ∧
        minPasswordLen ≤ password.val.length
  | powerOnDefault _ | ntpServer _ | timezone _ => True

/-- A configuration the checks let through. -/
structure AppConfig.Proper (serialPortMax : ℕ) (conf : AppConfig) : Prop where
  wellFormed : conf.WellFormed
  apSsid : apSsidRefused conf.apSsid = false
  apPass : apPassRefused conf.apPass = false
  authUser : conf.authUser ≠ []
  deviceName : conf.deviceName ≠ []
  baudRate : ∀ port < serialPortMax, conf.baudRate port ∈ validBauds

/-- Every key holds what some proper configuration saves under it. -/
def Proper (serialPortMax : ℕ) (nvs : Nvs) : Prop :=
  ∀ key ∈ savedKeys serialPortMax, ∀ value, nvs key = some value →
    ∃ conf : AppConfig, conf.Proper serialPortMax ∧ value = conf.saved key

/-- A new password among these. -/
def ConfigCall.Gives (P : CString → Prop) : ConfigCall → Prop
  | auth _ password => P password.val
  | _ => True

/-- The keys a password is checked with. -/
def passwordKeys : List NvsKey := [.authHash, .authSalt, .hashVer]

/-- The configuration asks for one of these passwords: its hash is that of the password under
its salt, as `config_set_auth` leaves them. -/
def AppConfig.AsksFor (pf : Platform) (P : CString → Prop) (conf : AppConfig) : Prop :=
  ∃ password, P password ∧ minPasswordLen ≤ password.length ∧
    conf.authHash = computeHash pf.sha256 password conf.authSalt ∧ conf.authHashVer = 1

/-- Flash holds hash, salt and version of such a configuration. -/
def StoresPassword (pf : Platform) (P : CString → Prop) (nvs : Nvs) : Prop :=
  ∃ conf : AppConfig, conf.WellFormed ∧ conf.AsksFor pf P ∧
    ∀ key ∈ passwordKeys, nvs key = some (conf.saved key)

section

variable {pf : Platform} {ports : ℕ} {nvs nvs' : Nvs} {conf : AppConfig}

/-! ## Loading -/

theorem proper_erased (ports : ℕ) : Proper ports fun _ => none := fun _ _ _ h => by cases h

theorem Proper.overlay (h : Proper ports nvs) (hconf : conf.Proper ports)
    (written : NvsKey → Bool) :
    Proper ports (Overlay.overlay written conf.saved nvs) := by
  intro key hkey value hvalue
  cases hwritten : written key with
  | true =>
      rw [Overlay.overlay_of_written hwritten] at hvalue
      exact ⟨conf, hconf, (Option.some.inj hvalue).symm⟩
  | false =>
      rw [Overlay.overlay_of_lost hwritten] at hvalue
      exact h key hkey value hvalue

/-- A string that is missing gets its default, and one that is there fits. -/
theorem loadString_cases {key : NvsKey} {n : ℕ} {field : AppConfig → CString}
    (h : Proper ports nvs) (hkey : key ∈ savedKeys ports)
    (hsaved : ∀ conf : AppConfig, conf.saved key = .str (field conf))
    (hfits : ∀ conf : AppConfig, conf.WellFormed → Fits n (field conf)) (default' buf : CString) :
    loadString nvs key n default' buf = strncpy n default' ∨
      ∃ conf : AppConfig, conf.Proper ports ∧
        loadString nvs key n default' buf = field conf := by
  unfold loadString nvsGetStr
  cases hvalue : nvs key with
  | none => exact .inl rfl
  | some value =>
      obtain ⟨conf, hconf, rfl⟩ := h key hkey value hvalue
      have hfield := hfits conf hconf.wellFormed
      rw [hsaved]
      refine .inr ⟨conf, hconf, ?_⟩
      dsimp only
      rw [if_pos hfield.1]
      exact ofBuffer_eq_self hfield.2

/-- The settings of a load. -/
theorem sameSettings_loadSettings (sha256 : Digest) (salt : Vector UInt8 configAuthSaltLen)
    (nvs : Nvs) (conf : AppConfig) : (conf.loadSettings ports nvs).SameSettings
      (conf.load sha256 ports salt nvs) := by
  unfold AppConfig.load AppConfig.loadAuth
  cases AppConfig.storedHash nvs (conf.loadSettings ports nvs) <;> rfl

theorem authUser_load (sha256 : Digest) (salt : Vector UInt8 configAuthSaltLen) (nvs : Nvs)
    (conf : AppConfig) : (conf.load sha256 ports salt nvs).authUser =
      (conf.loadSettings ports nvs).authUser := by
  unfold AppConfig.load AppConfig.loadAuth
  cases AppConfig.storedHash nvs (conf.loadSettings ports nvs) <;> rfl

/-- What is loaded from proper keys is a proper configuration. -/
theorem Proper.load (h : Proper ports nvs) (hconf : conf.WellFormed) (sha256 : Digest)
    (salt : Vector UInt8 configAuthSaltLen) : (conf.load sha256 ports salt nvs).Proper ports := by
  have hsettings : (conf.loadSettings ports nvs).SameSettings (conf.load sha256 ports salt nvs) :=
    sameSettings_loadSettings sha256 salt nvs conf
  -- but for the rates of the ports every key is one that is saved
  have hkey : ∀ key, (∀ port, key ≠ .baudRate port) → key ∈ savedKeys ports := fun key hne =>
    AppConfig.mem_savedKeys.mpr fun port heq => absurd heq (hne port)
  refine ⟨hconf.load, ?_, ?_, ?_, ?_, fun port hport => ?_⟩
  · have hfield : (conf.load sha256 ports salt nvs).apSsid =
        loadString nvs .apSsid (configWifiSsidMaxLen + 1) configDefaultApSsid conf.apSsid := by
      rw [hsettings]
      rfl
    rw [hfield]
    rcases loadString_cases h (hkey .apSsid (by simp)) (fun _ => rfl) (fun _ hwf => hwf.apSsid)
      configDefaultApSsid conf.apSsid with heq | ⟨conf', hproper, heq⟩
    · rw [heq]
      rfl
    · rw [heq]
      exact hproper.apSsid
  · have hfield : (conf.load sha256 ports salt nvs).apPass =
        loadString nvs .apPass (configWifiPassMaxLen + 1) configDefaultApPass conf.apPass := by
      rw [hsettings]
      rfl
    rw [hfield]
    rcases loadString_cases h (hkey .apPass (by simp)) (fun _ => rfl) (fun _ hwf => hwf.apPass)
      configDefaultApPass conf.apPass with heq | ⟨conf', hproper, heq⟩
    · rw [heq]
      rfl
    · rw [heq]
      exact hproper.apPass
  · -- a name that was saved is not empty, and neither is the default
    rw [authUser_load]
    rcases loadString_cases h (hkey .authUser (by simp)) (fun _ => rfl) (fun _ hwf => hwf.authUser)
      configDefaultAuthUser conf.authUser with heq | ⟨conf', hproper, heq⟩
    · exact fun hnil => absurd (heq.symm.trans hnil) (by decide)
    · exact fun hnil => hproper.authUser (heq.symm.trans hnil)
  · have hfield : (conf.load sha256 ports salt nvs).deviceName =
        loadString nvs .devName (configDeviceNameMaxLen + 1) configDefaultDeviceName
          conf.deviceName := by
      rw [hsettings]
      rfl
    rw [hfield]
    rcases loadString_cases h (hkey .devName (by simp)) (fun _ => rfl) (fun _ hwf => hwf.deviceName)
      configDefaultDeviceName conf.deviceName with heq | ⟨conf', hproper, heq⟩
    · exact fun hnil => absurd (heq.symm.trans hnil) (by decide)
    · exact fun hnil => hproper.deviceName (heq.symm.trans hnil)
  · have hfield : (conf.load sha256 ports salt nvs).baudRate port =
        (nvsGetU32 nvs (.baudRate port)).getD configDefaultBaudRate := by
      rw [hsettings]
      exact if_pos hport
    rw [hfield]
    unfold nvsGetU32
    -- a rate under its key was saved, or the default is taken
    cases hvalue : nvs (.baudRate port) with
    | none => decide
    | some value =>
        obtain ⟨conf', hproper, rfl⟩ := h _
          (AppConfig.mem_savedKeys.mpr fun p heq => by cases heq; exact hport) value hvalue
        exact hproper.baudRate port hport

/-! ## Editing -/

theorem strncpy_ne_nil {n : ℕ} {s : CString} (hn : 1 < n) (hs : 0 < s.length) :
    strncpy n s ≠ [] := by
  refine List.ne_nil_of_length_pos ?_
  unfold strncpy
  rw [List.length_take]
  omega

/-- An accepted call leaves a proper configuration proper. -/
theorem AppConfig.Proper.edited (h : conf.Proper ports) {env : Env} {call : ConfigCall}
    (haccepted : call.Accepted) : (call.edited pf env conf).Proper ports := by
  have hwf : (call.edited pf env conf).WellFormed := ConfigCall.edited_wellFormed h.wellFormed
  have hrate : ∀ port (rate : UInt32), rate ∈ validBauds → ∀ p < ports,
      Function.update conf.baudRate port rate p ∈ validBauds := by
    intro port rate hrate p hp
    by_cases heq : p = port
    · rw [heq, Function.update_self]
      exact hrate
    · rw [Function.update_of_ne heq]
      exact h.baudRate p hp
  cases call with
  | wifiSta => exact { h with wellFormed := hwf }
  | wifiAp ssid password =>
      obtain ⟨hssid, hpass⟩ := haccepted
      refine { h with wellFormed := hwf, apSsid := ?_, apPass := ?_ }
      · have hshort : ssid.val.length < configWifiSsidMaxLen + 1 := by
          simp only [apSsidRefused, decide_eq_false_iff_not, not_or] at hssid
          show ssid.val.length < 33
          omega
        show apSsidRefused (strncpy (configWifiSsidMaxLen + 1) ssid.val) = false
        rwa [strncpy_eq_self hshort]
      · -- a password that is cut off is long enough
        show apPassRefused (strncpy (configWifiPassMaxLen + 1) password.val) = false
        have hmax : configWifiPassMaxLen = 64 := rfl
        simp only [apPassRefused, decide_eq_false_iff_not, strncpy, List.length_take] at hpass ⊢
        omega
  | baudRate rate => cases haccepted
  | baudRatePort port rate =>
      exact { h with wellFormed := hwf, baudRate := hrate port.toNat rate haccepted }
  | powerOnDefault => exact { h with wellFormed := hwf }
  | deviceName name =>
      exact { h with wellFormed := hwf, deviceName := strncpy_ne_nil (by decide) haccepted }
  | ntpServer => exact { h with wellFormed := hwf }
  | timezone => exact { h with wellFormed := hwf }
  | auth username password =>
      exact { h with
        wellFormed := hwf, authUser := strncpy_ne_nil (by decide) haccepted.1.1 }

/-! ## Runs -/

/-- An action whose call, if it makes one, is accepted. -/
def ConfigAction.Accepted : ConfigAction → Prop
  | .set _ call => call.Accepted
  | _ => True

/-- What is stored and what is in use are proper. -/
structure ConfigSystem.Proper (pf : Platform) (s : ConfigSystem) : Prop where
  wellFormed : s.board.config.WellFormed
  stored : WebTerminal.Proper pf.target.serialPortMax s.board.nvs
  config : s.up = true → s.board.config.Proper pf.target.serialPortMax

theorem proper_of_erasure {board board' : Board} (h : board' = board ∨ board' = board.erased)
    (hproper : Proper ports board.nvs) :
    Proper ports board'.nvs ∧ board'.config = board.config := by
  rcases h with rfl | rfl
  · exact ⟨hproper, rfl⟩
  · exact ⟨proper_erased ports, rfl⟩

theorem ConfigSystem.Proper.step {s t : ConfigSystem} {a : ConfigAction} {es : List Empty}
    (h : s.Proper pf) (haccepted : a.Accepted)
    (hstep : (configMachine pf).step s a = some (t, es)) :
    t.Proper pf := by
  have hwf := config_wellFormed_step h.wellFormed hstep
  cases configStep_cases hstep with
  | down hboard => exact ⟨hwf, (proper_of_erasure hboard h.stored).1, fun hup => by cases hup⟩
  | loaded hboard =>
      obtain ⟨hstored, hconf⟩ := proper_of_erasure hboard h.stored
      exact ⟨hwf, hstored, fun _ => hstored.load (hconf ▸ h.wellFormed) _ _⟩
  | rejected => exact h
  | @saved env call hup =>
      have hedited : (call.edited pf env s.board.config).Proper pf.target.serialPortMax :=
        (h.config hup).edited haccepted
      exact ⟨hwf, h.stored.overlay hedited _, fun _ => hedited⟩

/-! ## The password -/

/-- A save stores the hash, the salt and the version together or not at all, and the flag only
with them. -/
def Env.KeepsPassword (pf : Platform) (env : Env) : Prop :=
  ∀ n, (∀ key ∈ passwordKeys, env.flashTook pf.target n key = env.flashTook pf.target n .authHash) ∧
    (env.flashTook pf.target n .authInit = true → env.flashTook pf.target n .authHash = true)

/-- The flash of this action does, and the password it sets is among these. -/
def ConfigAction.KeepsPassword (pf : Platform) (P : CString → Prop) : ConfigAction → Prop
  | .set env call => env.KeepsPassword pf ∧ call.Gives P
  | _ => True

variable {P Q : CString → Prop}

/-- Where the flag is on, the password asked for is one that was set. -/
structure ConfigSystem.ChosenInv (pf : Platform) (P : CString → Prop)
    (s : ConfigSystem) : Prop where
  wellFormed : s.board.config.WellFormed
  stored : flagStored s.board.nvs = true → StoresPassword pf P s.board.nvs
  flag : s.up = true → flagStored s.board.nvs = true → s.board.config.authInitialized = true
  chosen : s.up = true → s.board.config.authInitialized = true → s.board.config.AsksFor pf P

theorem AppConfig.AsksFor.mono (h : conf.AsksFor pf P)
    (hsub : ∀ password, P password → Q password) :
    conf.AsksFor pf Q := by
  obtain ⟨password, hpassword, hrest⟩ := h
  exact ⟨password, hsub password hpassword, hrest⟩

/-- A device lets in who knows the password it asks for. -/
theorem AppConfig.AsksFor.accepts (h : conf.AsksFor pf P) :
    ∃ password, P password ∧ conf.checkPassword pf.sha256 password = true := by
  obtain ⟨password, hpassword, -, hhash, hver⟩ := h
  refine ⟨password, hpassword, ?_⟩
  unfold checkPassword
  rw [if_neg (by rw [hver]; decide), hhash]
  exact constantTimeCompare_self _ _

/-- The password in flash is the one asked for after a load. -/
theorem StoresPassword.load (h : StoresPassword pf P nvs) (hconf : conf.WellFormed)
    (salt : Vector UInt8 configAuthSaltLen) :
    (conf.load pf.sha256 ports salt nvs).AsksFor pf P := by
  obtain ⟨conf', hwf, ⟨password, hpassword, hlength, hhash, hver⟩, hstored⟩ := h
  have hreadable : hashReadable nvs = true := by
    unfold hashReadable
    rw [hstored .authHash (by simp [passwordKeys])]
    simp [AppConfig.saved, hwf.authHash]
  have hread : ∀ key ∈ passwordKeys, (conf.stored ports nvs).saved key = conf'.saved key := by
    intro key hkey
    refine AppConfig.saved_stored_of_saved hconf hwf ?_ (hstored key hkey)
    exact AppConfig.mem_savedKeys.mpr fun port heq => by simp [heq, passwordKeys] at hkey
  have hhash' := NvsValue.blob.inj (hread .authHash (by simp [passwordKeys]))
  have hsalt' := NvsValue.blob.inj (hread .authSalt (by simp [passwordKeys]))
  have hver' := NvsValue.u8.inj (hread .hashVer (by simp [passwordKeys]))
  rw [AppConfig.load_of_readable hreadable]
  exact ⟨password, hpassword, hlength, by rw [hhash', hsalt', hhash], hver'.trans hver⟩

theorem ConfigSystem.ChosenInv.step {s t : ConfigSystem} {a : ConfigAction} {es : List Empty}
    (h : s.ChosenInv pf P) (haccepted : a.Accepted) (hkeeps : a.KeepsPassword pf P)
    (hstep : (configMachine pf).step s a = some (t, es)) : t.ChosenInv pf P := by
  have hwf := config_wellFormed_step h.wellFormed hstep
  have hboard : ∀ board, board = s.board ∨ board = s.board.erased → flagStored board.nvs = true →
      StoresPassword pf P board.nvs := by
    rintro board (rfl | rfl) hflag
    · exact h.stored hflag
    · cases hflag
  cases configStep_cases hstep with
  | @down _ board hdown =>
      refine ⟨hwf, hboard board hdown, fun hup => ?_, fun hup _ => ?_⟩
      · cases hup
      · cases hup
  | @loaded env salt board hload =>
      have hconf : board.config.WellFormed := by
        rcases hload with rfl | rfl
        · exact h.wellFormed
        · exact h.wellFormed
      refine ⟨hwf, hboard board hload, fun _ hflag => ?_, fun _ hinit => ?_⟩
      · exact (authInitialized_loaded salt board).trans hflag
      · have hflag : flagStored board.nvs = true :=
          (authInitialized_loaded salt board).symm.trans hinit
        exact (hboard _ hload hflag).load hconf salt
  | rejected => exact h
  | @saved env call hup hrange hopened =>
      have hnvs : flagStored (call.saved pf env s.board).nvs =
          if call.took pf env .authInit then (call.edited pf env s.board.config).authInitialized
          else flagStored s.board.nvs := flagStored_overlay _ _ _
      have hinit : (call.edited pf env s.board.config).authInitialized =
          (call.setsAuth || s.board.config.authInitialized) := call.authInitialized_edited _
      -- the password asked for after the edit is the one just set, or the one before
      have hchosen : (call.edited pf env s.board.config).authInitialized = true →
          (call.edited pf env s.board.config).AsksFor pf P := by
        intro hon
        cases call with
        | auth username password => exact ⟨password, hkeeps.2, haccepted.2, rfl, rfl⟩
        | _ => exact h.chosen hup hon
      have hflag : flagStored (call.saved pf env s.board).nvs = true →
          (call.edited pf env s.board.config).authInitialized = true := by
        intro hstored
        rw [hnvs] at hstored
        split at hstored
        · exact hstored
        · rw [hinit, h.flag hup hstored, Bool.or_true]
      refine ⟨hwf, fun hstored => ?_, fun _ => hflag, fun _ => hchosen⟩
      show StoresPassword pf P (Overlay.overlay (call.took pf env)
        (call.edited pf env s.board.config).saved s.board.nvs)
      obtain ⟨htogether, hlast⟩ := hkeeps.1 (call.opening + 1)
      cases htook : call.took pf env .authHash with
      | true =>
          refine ⟨_, hwf, hchosen (hflag hstored), fun key hkey => ?_⟩
          exact Overlay.overlay_of_written ((htogether key hkey).trans htook)
      | false =>
          -- then nothing of the password was written, and the flag not either
          have hlost : call.took pf env .authInit = false := by
            by_contra hwritten
            have := hlast (Bool.eq_true_of_not_eq_false hwritten)
            cases htook.symm.trans this
          replace hstored := hnvs.symm.trans hstored
          rw [hlost] at hstored
          obtain ⟨conf, hconf, hasks, hkeys⟩ := h.stored hstored
          refine ⟨conf, hconf, hasks, fun key hkey => ?_⟩
          have hkept : call.took pf env key = false := (htogether key hkey).trans htook
          rw [Overlay.overlay_of_lost hkept]
          exact hkeys key hkey

end

end WebTerminal
