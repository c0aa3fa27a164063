import WebTerminal.Store.SetupLock

/-!
# Loading stored strings

A string under a key of flash can be missing, fit its field of `s_config` or be
too long for it.  `load_string` copies the default in the first case only: when
`nvs_get_str` refuses a string that is too long, the field stays as it was, and
at boot it is empty.  For the three fields whose default is the empty string
that is the same; the other five lose their default.
-/

set_option autoImplicit false

namespace WebTerminal

/-- A string field of `app_config_t`: its key, the size of its buffer, its default and
the field itself. -/
structure StringField where
  key : NvsKey
  size : ℕ
  default' : CString
  get : AppConfig → CString

/-- The `load_string` calls of `config_init`. -/
def stringFields : List StringField :=
  [⟨.staSsid, configWifiSsidMaxLen + 1, [], AppConfig.staSsid⟩,
    ⟨.staPass, configWifiPassMaxLen + 1, [], AppConfig.staPass⟩,
    ⟨.apSsid, configWifiSsidMaxLen + 1, configDefaultApSsid, AppConfig.apSsid⟩,
    ⟨.apPass, configWifiPassMaxLen + 1, configDefaultApPass, AppConfig.apPass⟩,
    ⟨.authUser, configAuthUserMaxLen + 1, configDefaultAuthUser, AppConfig.authUser⟩,
    ⟨.devName, configDeviceNameMaxLen + 1, configDefaultDeviceName, AppConfig.deviceName⟩,
    ⟨.ntpSrv, configNtpServerMaxLen + 1, [], AppConfig.ntpServer⟩,
    ⟨.timezone, configTimezoneMaxLen + 1, configDefaultTimezone, AppConfig.timezone⟩]

/-- The field holds what the contents of flash say, as a string that ends inside
its buffer: the stored string if it fits, and the default otherwise. -/
structure StringField.LoadedFrom (field : StringField) (nvs : Nvs) (conf : AppConfig) : Prop where
  terminated : Fits field.size (field.get conf)
  missing : nvs field.key = none → field.get conf = field.default'
  fitting : ∀ value, nvs field.key = some (.str value) → value.length < field.size →
    field.get conf = ofBuffer value
  tooLong : ∀ value, nvs field.key = some (.str value) → field.size ≤ value.length →
    field.get conf = field.default'

/-- What the loads owe any contents of flash: every field is loaded, and the two
that must not be empty are not, unless an empty string is stored. -/
structure ToleratesStrings (nvs : Nvs) (conf : AppConfig) : Prop where
  loaded : ∀ field ∈ stringFields, field.LoadedFrom nvs conf
  authUser : conf.authUser = [] → ∃ value, nvs .authUser = some (.str value) ∧ ofBuffer value = []
  apSsid : conf.apSsid = [] → ∃ value, nvs .apSsid = some (.str value) ∧ ofBuffer value = []

/-- No string is too long for a field that has a default to fall back to. -/
def DefaultsKept (nvs : Nvs) : Prop :=
  ∀ field ∈ stringFields, field.default' ≠ [] →
    ∀ value, nvs field.key = some (.str value) → value.length < field.size

/-! ## One field -/

/-- The loads go through `load_string`, field by field. -/
theorem get_load {field : StringField} (hfield : field ∈ stringFields) (sha256 : Digest)
    (serialPortMax : ℕ) (salt : Vector UInt8 configAuthSaltLen) (nvs : Nvs) :
    field.get (AppConfig.zero.load sha256 serialPortMax salt nvs) =
      loadString nvs field.key field.size field.default' [] := by
  have hsettings : ∀ get ∈ stringFields.map StringField.get,
      get (AppConfig.zero.load sha256 serialPortMax salt nvs) =
        get (AppConfig.zero.loadSettings serialPortMax nvs) := by
    intro get hget
    unfold AppConfig.load AppConfig.loadAuth
    simp only [stringFields, List.map_cons, List.map_nil, List.mem_cons, List.not_mem_nil,
      or_false] at hget
    split <;> rcases hget with rfl | rfl | rfl | rfl | rfl | rfl | rfl | rfl <;> rfl
  rw [hsettings field.get (List.mem_map_of_mem hfield)]
  simp only [stringFields, List.mem_cons, List.not_mem_nil, or_false] at hfield
  rcases hfield with rfl | rfl | rfl | rfl | rfl | rfl | rfl | rfl <;> rfl

/-- Every default fits its field, and every field holds at least the NUL. -/
theorem fits_default' {field : StringField} (hfield : field ∈ stringFields) :
    Fits field.size field.default' := by
  have hall : ∀ f ∈ stringFields, f.default'.length < f.size ∧ (0 : UInt8) ∉ f.default' := by
    decide
  exact hall field hfield

theorem loadedFrom_iff {field : StringField} (hfield : field ∈ stringFields) (sha256 : Digest)
    (serialPortMax : ℕ) (salt : Vector UInt8 configAuthSaltLen) (nvs : Nvs) :
    field.LoadedFrom nvs (AppConfig.zero.load sha256 serialPortMax salt nvs) ↔
      (field.default' ≠ [] → ∀ value, nvs field.key = some (.str value) →
        value.length < field.size) := by
  have hdefault := fits_default' hfield
  have hload := get_load hfield sha256 serialPortMax salt nvs
  constructor
  · intro hloaded hne value hvalue
    by_contra hlong
    have hlost : loadString nvs field.key field.size field.default' [] = [] := by
      simp [loadString, nvsGetStr, hvalue, hlong]
    rw [← hload, hloaded.tooLong value hvalue (by omega)] at hlost
    exact hne hlost
  · intro hkept
    refine ⟨?_, fun hnone => ?_, fun value hvalue hfits => ?_, fun value hvalue hlong => ?_⟩
    · rw [hload]
      have hpos : 0 < field.size := by have := hdefault.1; omega
      exact AppConfig.fits_loadString hpos hdefault.2 (AppConfig.fits_nil hpos)
    · rw [hload]
      simp [loadString, nvsGetStr, hnone, hdefault.strncpy_eq]
    · rw [hload]
      simp [loadString, nvsGetStr, hvalue, hfits]
    · have hempty : field.default' = [] := by
        by_contra hne
        have := hkept hne value hvalue
        omega
      rw [hload, hempty]
      simp [loadString, nvsGetStr, hvalue, Nat.not_lt.mpr hlong]

/-- A field with a default is empty only where a string is stored that is empty or
does not fit. -/
theorem loadString_eq_nil {nvs : Nvs} {key : NvsKey} {n : ℕ} {default' : CString}
    (hdefault : Fits n default') (hne : default' ≠ [])
    (h : loadString nvs key n default' [] = []) :
    ∃ value, nvs key = some (.str value) ∧ (value.length < n → ofBuffer value = []) := by
  unfold loadString nvsGetStr at h
  split at h
  next value heq =>
    split at heq
    next stored hstored =>
      split at heq
      next hlt =>
        obtain rfl := NvsGetStr.ok.inj heq
        exact ⟨stored, hstored, fun _ => h⟩
      next => cases heq
    next => cases heq
  next => exact absurd (hdefault.strncpy_eq.symm.trans h) hne
  next heq =>
    split at heq
    next stored hstored =>
      split at heq
      next => cases heq
      next hlong => exact ⟨stored, hstored, fun hlt => absurd hlt hlong⟩
    next => cases heq

theorem toleratesStrings_load_iff (sha256 : Digest) (serialPortMax : ℕ)
    (salt : Vector UInt8 configAuthSaltLen) (nvs : Nvs) :
    ToleratesStrings nvs (AppConfig.zero.load sha256 serialPortMax salt nvs) ↔
      DefaultsKept nvs := by
  constructor
  · intro h field hfield
    exact (loadedFrom_iff hfield sha256 serialPortMax salt nvs).mp (h.loaded field hfield)
  · intro hkept
    have hnil : ∀ field ∈ stringFields, field.default' ≠ [] →
        field.get (AppConfig.zero.load sha256 serialPortMax salt nvs) = [] →
          ∃ value, nvs field.key = some (.str value) ∧ ofBuffer value = [] := by
      intro field hfield hne hempty
      rw [get_load hfield] at hempty
      obtain ⟨value, hvalue, hstored⟩ := loadString_eq_nil (fits_default' hfield) hne hempty
      exact ⟨value, hvalue, hstored (hkept field hfield hne value hvalue)⟩
    exact ⟨fun field hfield => (loadedFrom_iff hfield sha256 serialPortMax salt nvs).mpr
        (hkept field hfield),
      hnil ⟨.authUser, configAuthUserMaxLen + 1, configDefaultAuthUser, AppConfig.authUser⟩
        (by simp [stringFields]) (by decide),
      hnil ⟨.apSsid, configWifiSsidMaxLen + 1, configDefaultApSsid, AppConfig.apSsid⟩
        (by simp [stringFields]) (by decide)⟩

/-! ## At boot -/

/-- The contents `config_init` reads: a flash it cannot use as it is has been
erased before. -/
def nvsAtInit (env : Env) (nvs : Nvs) : Nvs :=
  if env.err 0 = espErrNvsNoFreePages ∨ env.err 0 = espErrNvsNewVersionFound then fun _ => none
  else nvs

/-- After `nvs_flash_init` the keys are those `config_init` reads. -/
theorem nvsFlashInit_nvs {env : Env} {board : Board} {v : World Board Effect}
    (h : nvsFlashInit env board.start = .ok () v) :
    v.state.nvs = nvsAtInit env board.nvs ∧ v.state.config = board.config := by
  unfold nvsFlashInit at h
  rw [Proc.bind_ok (Proc.ask_apply _ _)] at h
  unfold nvsAtInit
  by_cases hunusable :
      env.err 0 = espErrNvsNoFreePages ∨ env.err 0 = espErrNvsNewVersionFound
  · rw [if_pos hunusable]
    rw [show board.start.asked = 0 from rfl, if_pos hunusable] at h
    obtain ⟨erased, v₁, hask, h⟩ := Proc.of_bind_ok h
    obtain ⟨rfl, rfl⟩ := EStateM.Result.ok.inj hask
    obtain ⟨⟨⟩, v₂, hcheck, h⟩ := Proc.of_bind_ok h
    obtain ⟨-, rfl⟩ := of_espErrorCheck_ok hcheck
    obtain ⟨⟨⟩, v₃, hupdate, h⟩ := Proc.of_bind_ok h
    obtain ⟨-, rfl⟩ := EStateM.Result.ok.inj hupdate
    obtain ⟨again, v₄, hask, h⟩ := Proc.of_bind_ok h
    obtain ⟨rfl, rfl⟩ := EStateM.Result.ok.inj hask
    obtain ⟨-, rfl⟩ := of_espErrorCheck_ok h
    exact ⟨rfl, rfl⟩
  · rw [if_neg hunusable]
    rw [show board.start.asked = 0 from rfl, if_neg hunusable] at h
    obtain ⟨-, rfl⟩ := of_espErrorCheck_ok h
    exact ⟨rfl, rfl⟩

/-- What `config_init` leaves at boot. -/
theorem configInit_boot {pf : Platform} {env : Env} {board : Board} {v : World Board Effect}
    (hboot : board.config = .zero) (h : configInit pf env board.start = .ok .ok v) :
    v.state.nvs = nvsAtInit env board.nvs ∧ ∃ salt, v.state.config =
      AppConfig.zero.load pf.sha256 pf.target.serialPortMax salt (nvsAtInit env board.nvs) := by
  unfold configInit at h
  obtain ⟨⟨⟩, u, hinit, hrest⟩ := Proc.of_bind_ok h
  obtain ⟨hnvs, hconfig⟩ := nvsFlashInit_nvs hinit
  obtain ⟨err, u₁, hopen, hrest'⟩ := Proc.of_bind_ok hrest
  obtain ⟨salt, u₂, hask, hload⟩ := Proc.of_bind_ok hrest'
  obtain ⟨rfl, rfl⟩ := EStateM.Result.ok.inj hask
  have hu₁ : u₁.state = u.state := by
    rw [nvsOpenReadonly_apply] at hopen
    rw [← (EStateM.Result.ok.inj hopen).2]
  have hloaded : v.state = u.state.loaded pf (env.saltBytes u₁.asked) := by
    split at hload
    next hmissing =>
      subst hmissing
      obtain ⟨⟨⟩, u₃, hupdate, hend⟩ := Proc.of_bind_ok hload
      obtain ⟨-, rfl⟩ := EStateM.Result.ok.inj hupdate
      rw [← (EStateM.Result.ok.inj hend).2, ← load_of_missing hopen]
      exact congrArg (Board.firstBooted pf (env.saltBytes u₁.asked)) hu₁
    next =>
      obtain ⟨⟨⟩, u₃, hcheck, hupdate⟩ := Proc.of_bind_ok hload
      obtain ⟨-, rfl⟩ := of_espErrorCheck_ok hcheck
      obtain ⟨⟨⟩, u₄, hupdate, hend⟩ := Proc.of_bind_ok hupdate
      obtain ⟨-, rfl⟩ := EStateM.Result.ok.inj hupdate
      rw [← (EStateM.Result.ok.inj hend).2]
      exact congrArg (Board.loaded pf (env.saltBytes u₁.asked)) hu₁
  rw [hloaded]
  refine ⟨hnvs, env.saltBytes u₁.asked, ?_⟩
  show u.state.config.load _ _ _ u.state.nvs = _
  rw [hconfig, hboot, hnvs]

/-- `config_init` at boot tolerates what it finds in flash exactly if no string
there is too long for one of the five fields with a default. -/
theorem config_init_tolerates_iff {pf : Platform} {env : Env} {board : Board}
    {v : World Board Effect} (hboot : board.config = .zero)
    (hinit : configInit pf env board.start = .ok .ok v) :
    ToleratesStrings (nvsAtInit env board.nvs) v.state.config ↔
      DefaultsKept (nvsAtInit env board.nvs) := by
  obtain ⟨-, salt, hconfig⟩ := configInit_boot hboot hinit
  rw [hconfig]
  exact toleratesStrings_load_iff _ _ salt _

/-- A blank board whose flash holds one string. -/
def boardStoring (key : NvsKey) (value : CString) : Board :=
  { blankConfigSystem.board with nvs := fun k => if k = key then some (.str value) else none }

/-- A timezone of 40 characters is loaded. -/
theorem config_init_tolerates_iff_timezone : ∃ v,
    configInit (demoPlatform []) (demoEnv 0 [])
        (boardStoring .timezone (List.replicate 40 65)).start = .ok .ok v ∧
      (ToleratesStrings
          (nvsAtInit (demoEnv 0 []) (boardStoring .timezone (List.replicate 40 65)).nvs)
          v.state.config ↔
        DefaultsKept
          (nvsAtInit (demoEnv 0 []) (boardStoring .timezone (List.replicate 40 65)).nvs)) := by
  obtain ⟨v, hinit, -⟩ := @configInit_ok (demoPlatform []) (demoEnv 0 []) (fun _ => rfl)
    (boardStoring .timezone (List.replicate 40 65))
  exact ⟨v, hinit, config_init_tolerates_iff rfl hinit⟩

/-- A user name of 33 characters in flash leaves a device without a user name. -/
theorem config_init_loses_user :
    ¬∀ (pf : Platform) (env : Env) (board : Board) (v : World Board Effect),
      board.config = .zero → configInit pf env board.start = .ok .ok v →
        ToleratesStrings (nvsAtInit env board.nvs) v.state.config := by
  intro hall
  obtain ⟨v, hinit, hv⟩ := @configInit_ok (demoPlatform []) (demoEnv 0 []) (fun _ => rfl)
    (boardStoring .authUser (List.replicate 33 65))
  obtain ⟨value, hvalue, hempty⟩ := (hall _ _ _ v rfl hinit).authUser (by rw [hv]; decide +kernel)
  have hstored : nvsAtInit (demoEnv 0 []) (boardStoring .authUser (List.replicate 33 65)).nvs
      .authUser = some (.str (List.replicate 33 65)) := rfl
  obtain rfl := NvsValue.str.inj (Option.some.inj (hstored.symm.trans hvalue))
  exact absurd hempty (by decide)

end WebTerminal
