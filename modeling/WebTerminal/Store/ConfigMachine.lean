import WebTerminal.Config.Load
import WebTerminal.Lib.Machine
import WebTerminal.Server.Board

/-!
# Runs of config.c

`config_init`, the setters and resets, over a flash in which any single write may
be lost.  A failed `ESP_ERROR_CHECK` resets the chip, which clears `s_config` and
leaves flash as it is.

Two history variables go along: whether the hash in `s_config`, and the one in
flash, stem from the default password that `config_init` installs.
-/

set_option autoImplicit false

namespace WebTerminal

open Proc

/-- All drivers accept everything. -/
def Env.AllOk (env : Env) : Prop := ∀ n, env.err n = .ok

/-- `ESP_ERR_NVS_NOT_FOUND` -/
abbrev espErrNvsNotFound : EspErr := .other 0x1102

/-- `ESP_ERR_NVS_NO_FREE_PAGES` -/
abbrev espErrNvsNoFreePages : EspErr := .other 0x110d

/-- `ESP_ERR_NVS_NEW_VERSION_FOUND` -/
abbrev espErrNvsNewVersionFound : EspErr := .other 0x1110

/-- After `nvs_flash_erase`. -/
def Board.erased (board : Board) : Board :=
  { board with nvs := fun _ => none, certs := { cert := none, key := none } }

section

variable (pf : Platform) (env : Env)

/-- `nvs_flash_init`, with the erasure of a flash it cannot use. -/
def nvsFlashInit : BoardM Unit := do
  let err ← ask env.err
  if err = espErrNvsNoFreePages ∨ err = espErrNvsNewVersionFound then do
    let erased ← ask env.err
    espErrorCheck erased
    update Board.erased
    let err ← ask env.err
    espErrorCheck err
  else espErrorCheck err

/-- Some key of the namespace is stored. -/
def Board.namespaceInUse (board : Board) : Bool :=
  (savedKeys pf.target.serialPortMax).any fun key => (board.nvs key).isSome

/-- `nvs_open` for reading.  A namespace that holds a key is there. -/
def nvsOpenReadonly : BoardM EspErr := do
  let err ← ask env.err
  let inUse ← read (Board.namespaceInUse pf)
  return if err = espErrNvsNotFound ∧ inUse = true then .ok else err

/-- The board after the loads of `config_init`. -/
def Board.loaded (salt : Vector UInt8 configAuthSaltLen) (board : Board) : Board :=
  { board with
    config := board.config.load pf.sha256 pf.target.serialPortMax salt board.nvs }

/-- The board after the defaults of a first boot. -/
def Board.firstBooted (salt : Vector UInt8 configAuthSaltLen) (board : Board) : Board :=
  { board with
    config := board.config.firstBoot pf.sha256 pf.target.serialPortMax salt }

/-- `config_init`.  The salt is drawn here even if it is not used. -/
def configInit : BoardM EspErr := do
  nvsFlashInit env
  let err ← nvsOpenReadonly pf env
  let salt ← ask env.saltBytes
  if err = espErrNvsNotFound then do
    update (Board.firstBooted pf salt)
    return .ok
  else do
    espErrorCheck err
    update (Board.loaded pf salt)
    return .ok

end

/-- The setters of `config.c` with their arguments. -/
inductive ConfigCall
  | wifiSta (ssid password : CText)
  | wifiAp (ssid password : CText)
  | baudRate (rate : UInt32)
  | baudRatePort (port : ℤ) (rate : UInt32)
  | powerOnDefault (powerOn : Bool)
  | deviceName (name : CText)
  | ntpServer (server : CText)
  | timezone (tz : CText)
  | auth (username password : CText)

namespace ConfigCall

/-- The setter called. -/
def run (pf : Platform) (env : Env) : ConfigCall → BoardM EspErr
  | wifiSta ssid password => configSetWifiSta pf env ssid password
  | wifiAp ssid password => configSetWifiAp pf env ssid password
  | baudRate rate => configSetBaudRatePort pf env 0 rate
  | baudRatePort port rate => configSetBaudRatePort pf env port rate
  | powerOnDefault powerOn => configSetPowerOnDefault pf env powerOn
  | deviceName name => configSetDeviceName pf env name
  | ntpServer server => configSetNtpServer pf env server
  | timezone tz => configSetTimezone pf env tz
  | auth username password => configSetAuth pf env username password

/-- The call names a port the chip does not have. -/
def outOfRange (serialPortMax : ℕ) : ConfigCall → Bool
  | baudRatePort port _ => decide (port < 0 ∨ (serialPortMax : ℤ) ≤ port)
  | _ => false

/-- The edit of `s_config`, with the salt a new password gets. -/
def edit (sha256 : Digest) (salt : Vector UInt8 configAuthSaltLen) :
    ConfigCall → AppConfig → AppConfig
  | wifiSta ssid password => .setWifiSta ssid password
  | wifiAp ssid password => .setWifiAp ssid password
  | baudRate rate => .setBaudRatePort 0 rate
  | baudRatePort port rate => .setBaudRatePort port.toNat rate
  | powerOnDefault powerOn => .setPowerOnDefault powerOn
  | deviceName name => .setDeviceName name
  | ntpServer server => .setNtpServer server
  | timezone tz => .setTimezone tz
  | auth username password => .setAuth sha256 salt username password

/-- The call replaces the password. -/
def setsAuth : ConfigCall → Bool
  | auth _ _ => true
  | _ => false

/-- The number of the question that opens flash: a salt is drawn before it. -/
def opening (call : ConfigCall) : ℕ := if call.setsAuth then 1 else 0

/-- The call saves the configuration: it is not refused and flash opens. -/
def Saves (pf : Platform) (env : Env) (call : ConfigCall) : Prop :=
  call.outOfRange pf.target.serialPortMax = false ∧ env.err call.opening = .ok

/-- Whether `nvs_set_*` of a key takes effect in the save of this call. -/
def took (pf : Platform) (env : Env) (call : ConfigCall) : NvsKey → Bool :=
  env.flashTook pf.target (call.opening + 1)

/-- The configuration after the edit. -/
def edited (pf : Platform) (env : Env) (call : ConfigCall) : AppConfig → AppConfig :=
  call.edit pf.sha256 (env.saltBytes 0)

/-- What `nvs_commit` answers to the save of this call. -/
def committed (pf : Platform) (env : Env) (call : ConfigCall) : EspErr :=
  env.err (call.opening + 1 + (savedKeys pf.target.serialPortMax).length)

/-- The board after the save of this call. -/
def saved (pf : Platform) (env : Env) (call : ConfigCall) (board : Board) : Board :=
  { board with
    config := call.edited pf env board.config
    nvs := Overlay.overlay (call.took pf env) (call.edited pf env board.config).saved board.nvs }

end ConfigCall

/-- A world at the start of a call. -/
def Board.start (board : Board) : World Board Effect :=
  { state := board, asked := 0, shown := [] }

structure ConfigSystem where
  /-- `config_init` has returned since the last reset -/
  up : Bool
  board : Board
  /-- the hash in `s_config` is the one of the default password -/
  defaultInUse : Bool
  /-- the hash in flash is -/
  defaultStored : Bool

inductive ConfigAction
  | reset
  | init (env : Env)
  | set (env : Env) (call : ConfigCall)

/-- After a reset: `s_config` is cleared. -/
def ConfigSystem.down (s : ConfigSystem) (board : Board) : ConfigSystem :=
  { s with up := false, board := { board with config := .zero } }

section

variable (pf : Platform)

/-- After the save of a call. -/
def ConfigSystem.saved (env : Env) (call : ConfigCall) (s : ConfigSystem) : ConfigSystem where
  up := s.up
  board := call.saved pf env s.board
  defaultInUse := s.defaultInUse && !call.setsAuth
  defaultStored :=
    if call.took pf env .authHash then s.defaultInUse && !call.setsAuth else s.defaultStored

/-- After the loads of `config_init`. -/
def ConfigSystem.loaded (board : Board) (s : ConfigSystem) : ConfigSystem where
  up := true
  board := board
  defaultInUse := !hashReadable board.nvs || s.defaultStored
  defaultStored := s.defaultStored

/-- Where `config_init` ends. -/
def ConfigSystem.afterInit (s : ConfigSystem) :
    EStateM.Result Stop (World Board Effect) EspErr → ConfigSystem
  | .ok _ w => s.loaded w.state
  | .error _ w => s.down w.state

/-- Where a setter ends. -/
def ConfigSystem.afterSet (env : Env) (call : ConfigCall) (s : ConfigSystem) :
    EStateM.Result Stop (World Board Effect) EspErr → ConfigSystem
  | .ok _ w =>
      if call.outOfRange pf.target.serialPortMax then { s with board := w.state }
      else { s.saved pf env call with board := w.state }
  | .error _ w => s.down w.state

def configStep (s : ConfigSystem) : ConfigAction → Option ConfigSystem
  | .reset => some (s.down s.board)
  | .init env => some (s.afterInit (configInit pf env s.board.start))
  | .set env call =>
      if s.up then some (s.afterSet pf env call (call.run pf env s.board.start)) else none

/-- Nothing is shown: everything is in the state. -/
def configMachine : Machine ConfigSystem ConfigAction Empty where
  step s a := (configStep pf s a).map fun t => (t, [])

end

/-! ## What the calls do -/

section

variable {pf : Platform} {env : Env}

/-- How `nvs_flash_init` ends: flash is as it was, or erased. -/
theorem nvsFlashInit_cases (env : Env) (w : World Board Effect) :
    ∃ v, (v.state = w.state ∨ v.state = w.state.erased) ∧
      (nvsFlashInit env w = .ok () v ∨ nvsFlashInit env w = .error .abort v) := by
  unfold nvsFlashInit
  rw [bind_ok (ask_apply _ _)]
  split
  · rw [bind_ok (ask_apply _ _)]
    rcases espErrorCheck_cases (env.err (w.asked + 1)) ⟨w.state, w.asked + 1 + 1, w.shown⟩ with
      hok | habort
    · rw [bind_ok hok, bind_ok (update_apply _ _), bind_ok (ask_apply _ _)]
      exact ⟨⟨w.state.erased, w.asked + 1 + 1 + 1, w.shown⟩, .inr rfl, espErrorCheck_cases _ _⟩
    · exact ⟨⟨w.state, w.asked + 1 + 1, w.shown⟩, .inl rfl, .inr (bind_error habort)⟩
  · exact ⟨⟨w.state, w.asked + 1, w.shown⟩, .inl rfl, espErrorCheck_cases _ _⟩

/-- Where flash accepts everything it is not erased. -/
theorem nvsFlashInit_ok (hok : env.err 0 = .ok) (board : Board) :
    nvsFlashInit env board.start = .ok () { board.start with asked := 1 } := by
  unfold nvsFlashInit
  rw [bind_ok (ask_apply _ _)]
  simp only [Board.start, hok]
  rfl

theorem nvsOpenReadonly_apply (pf : Platform) (env : Env) (w : World Board Effect) :
    nvsOpenReadonly pf env w =
      .ok (if env.err w.asked = espErrNvsNotFound ∧ w.state.namespaceInUse pf = true then .ok
        else env.err w.asked) { w with asked := w.asked + 1 } := rfl

/-- Where a namespace is missing, a load of it would give the defaults. -/
theorem load_of_missing {pf : Platform} {env : Env} {w v : World Board Effect}
    (h : nvsOpenReadonly pf env w = .ok espErrNvsNotFound v)
    (salt : Vector UInt8 configAuthSaltLen) :
    w.state.firstBooted pf salt = w.state.loaded pf salt := by
  unfold Board.firstBooted Board.loaded
  rw [AppConfig.firstBoot_eq_load]
  congr 1
  apply AppConfig.load_congr
  intro key hkey
  symm
  rw [nvsOpenReadonly_apply] at h
  have hmissing := (EStateM.Result.ok.inj h).1
  by_cases hinUse : w.state.namespaceInUse pf = true
  · -- a namespace in use is not missing
    by_cases herr : env.err w.asked = espErrNvsNotFound
    · simp [hinUse, herr] at hmissing
    · simp [herr] at hmissing
  · unfold Board.namespaceInUse at hinUse
    simp only [List.any_eq_true, not_exists, not_and, Bool.not_eq_true, Option.isSome_eq_false_iff,
      Option.isNone_iff_eq_none] at hinUse
    exact hinUse key hkey

/-- How `config_init` ends: it resets the chip, or loads what is in flash. -/
theorem configInit_cases (pf : Platform) (env : Env) (w : World Board Effect) :
    ∃ board, (board = w.state ∨ board = w.state.erased) ∧
      ((∃ v, configInit pf env w = .error .abort v ∧ v.state = board) ∨
        ∃ v salt, configInit pf env w = .ok .ok v ∧ v.state = board.loaded pf salt) := by
  obtain ⟨u, hu, hinit | hinit⟩ := nvsFlashInit_cases env w
  · refine ⟨u.state, hu, ?_⟩
    unfold configInit
    rw [bind_ok hinit]
    obtain ⟨err, hopen⟩ :
        ∃ err, nvsOpenReadonly pf env u = .ok err ⟨u.state, u.asked + 1, u.shown⟩ :=
      ⟨_, rfl⟩
    rw [bind_ok hopen, bind_ok (ask_apply _ _)]
    split
    next hmissing =>
      subst hmissing
      exact .inr ⟨⟨u.state.firstBooted pf (env.saltBytes (u.asked + 1)), u.asked + 2, u.shown⟩,
        env.saltBytes (u.asked + 1), rfl, load_of_missing hopen _⟩
    next =>
      rcases espErrorCheck_cases err ⟨u.state, u.asked + 2, u.shown⟩ with hok | habort
      · exact .inr ⟨⟨u.state.loaded pf (env.saltBytes (u.asked + 1)), u.asked + 2, u.shown⟩,
          env.saltBytes (u.asked + 1), bind_ok hok, rfl⟩
      · exact .inl ⟨⟨u.state, u.asked + 2, u.shown⟩, bind_error habort, rfl⟩
  · refine ⟨u.state, hu, .inl ⟨u, ?_, rfl⟩⟩
    unfold configInit
    exact bind_error hinit

/-- Where flash accepts everything it loads what is there. -/
theorem configInit_ok (pf : Platform) {env : Env} (hok : ∀ n, env.err n = .ok) (board : Board) :
    ∃ v, configInit pf env board.start = .ok .ok v ∧
      v.state = board.loaded pf (env.saltBytes 2) := by
  refine ⟨⟨board.loaded pf (env.saltBytes 2), 3, []⟩, ?_, rfl⟩
  unfold configInit
  rw [bind_ok (nvsFlashInit_ok (hok 0) board), bind_ok (nvsOpenReadonly_apply _ _ _)]
  simp only [hok, reduceCtorEq, false_and, if_false]
  rfl

theorem ConfigCall.run_outOfRange {call : ConfigCall} (board : Board)
    (h : call.outOfRange pf.target.serialPortMax = true) :
    call.run pf env board.start = .ok .invalidArg board.start := by
  cases call with
  | baudRatePort port rate => exact congrFun (if_pos (of_decide_eq_true h)) board.start
  | _ => cases h

/-- A setter whose arguments are in range edits the configuration and saves it. -/
theorem ConfigCall.run_inRange {call : ConfigCall} (board : Board)
    (h : call.outOfRange pf.target.serialPortMax = false) :
    call.run pf env board.start = saveToNvs pf env
      { state := { board with config := call.edited pf env board.config }
        asked := call.opening, shown := [] } := by
  cases call with
  | baudRatePort port rate => exact congrFun (if_neg (of_decide_eq_false h)) board.start
  | baudRate rate =>
      have hport : ¬((0 : ℤ) < 0 ∨ (pf.target.serialPortMax : ℤ) ≤ 0) := by
        cases pf.target <;> decide
      exact congrFun (if_neg hport) board.start
  | _ => rfl

/-- How a setter whose arguments are in range ends: it resets the chip when flash
does not open. -/
theorem ConfigCall.run_cases (pf : Platform) (env : Env) {call : ConfigCall} (board : Board)
    (h : call.outOfRange pf.target.serialPortMax = false) :
    (env.err call.opening = .ok ∧ ∃ v, call.run pf env board.start = .ok (call.committed pf env) v ∧
        v.state = call.saved pf env board) ∨
      env.err call.opening ≠ .ok ∧ ∃ v, call.run pf env board.start = .error .abort v ∧
        v.state = { board with config := call.edited pf env board.config } := by
  rw [call.run_inRange board h]
  by_cases hopened : env.err call.opening = .ok
  · exact .inl ⟨hopened, _, saveToNvs_apply pf env hopened, rfl⟩
  · refine .inr ⟨hopened, ⟨{ board with config := call.edited pf env board.config },
      call.opening + 1, []⟩, ?_, rfl⟩
    unfold saveToNvs
    rw [bind_ok (ask_apply _ _)]
    apply bind_error
    unfold espErrorCheck
    rw [if_neg hopened]
    rfl

/-- What a step does. -/
inductive ConfigCase (pf : Platform) (s : ConfigSystem) : ConfigAction → ConfigSystem → Prop
  /-- a reset, or a failed `ESP_ERROR_CHECK` -/
  | down {a : ConfigAction} {board : Board}
      (hboard : board = s.board ∨ board = s.board.erased)
      (hclosed : ∀ env call, a = .set env call →
        call.outOfRange pf.target.serialPortMax = false ∧ env.err call.opening ≠ .ok) :
      ConfigCase pf s a (s.down board)
  | loaded {env : Env} {salt : Vector UInt8 configAuthSaltLen} {board : Board}
      (hboard : board = s.board ∨ board = s.board.erased) :
      ConfigCase pf s (.init env) (s.loaded (board.loaded pf salt))
  | rejected {env : Env} {call : ConfigCall} (hup : s.up = true)
      (hrange : call.outOfRange pf.target.serialPortMax = true) : ConfigCase pf s (.set env call) s
  | saved {env : Env} {call : ConfigCall} (hup : s.up = true)
      (hrange : call.outOfRange pf.target.serialPortMax = false)
      (hopened : env.err call.opening = .ok) :
      ConfigCase pf s (.set env call) (s.saved pf env call)

theorem configStep_cases {s t : ConfigSystem} {a : ConfigAction} {es : List Empty}
    (h : (configMachine pf).step s a = some (t, es)) : ConfigCase pf s a t := by
  have hstep : configStep pf s a = some t := by
    obtain ⟨u, hu, heq⟩ := Option.map_eq_some_iff.mp h
    rw [hu, (Prod.mk.inj heq).1]
  cases a with
  | reset =>
      obtain rfl := Option.some.inj hstep
      exact .down (.inl rfl) (by simp)
  | init env =>
      obtain rfl := Option.some.inj hstep
      obtain ⟨board, hboard, ⟨v, hrun, hv⟩ | ⟨v, salt, hrun, hv⟩⟩ :=
        configInit_cases pf env s.board.start
      · rw [hrun]
        exact .down (hv ▸ hboard) (by simp)
      · rw [hrun]
        show ConfigCase pf s _ (s.loaded v.state)
        rw [hv]
        exact .loaded hboard
  | set env call =>
      by_cases hup : s.up = true
      · obtain rfl := Option.some.inj ((if_pos hup).symm.trans hstep)
        cases hrange : call.outOfRange pf.target.serialPortMax with
        | true =>
            rw [call.run_outOfRange s.board hrange]
            show ConfigCase pf s _ (if _ then _ else _)
            rw [if_pos hrange]
            exact .rejected hup hrange
        | false =>
            rcases call.run_cases pf env s.board hrange with
              ⟨hopened, v, hrun, hv⟩ | ⟨hclosed, v, hrun, hv⟩
            · rw [hrun]
              show ConfigCase pf s _ (if _ then _ else _)
              rw [if_neg (by simp [hrange]), hv]
              exact .saved hup hrange hopened
            · rw [hrun]
              -- the edit is lost with the rest of `s_config`
              have hdown : s.down v.state = s.down s.board := by rw [hv]; rfl
              show ConfigCase pf s _ (s.down v.state)
              rw [hdown]
              refine .down (.inl rfl) fun env' call' heq => ?_
              cases heq
              exact ⟨hrange, hclosed⟩
      · cases (if_neg hup).symm.trans hstep

/-- A reset is always possible. -/
theorem configStep_reset (pf : Platform) (s : ConfigSystem) :
    (configMachine pf).step s .reset = some (s.down s.board, []) := rfl

/-- With flash that accepts everything the device comes up. -/
theorem configStep_init (pf : Platform) (s : ConfigSystem) (hok : ∀ n, env.err n = .ok) :
    (configMachine pf).step s (.init env) =
      some (s.loaded (s.board.loaded pf (env.saltBytes 2)), []) := by
  obtain ⟨v, hrun, hv⟩ := configInit_ok pf hok s.board
  show some (s.afterInit (configInit pf env s.board.start), []) = _
  rw [hrun, ← hv]
  rfl

/-- A call that saves does so. -/
theorem configStep_set {s : ConfigSystem} {call : ConfigCall} (hup : s.up = true)
    (hsaves : call.Saves pf env) :
    (configMachine pf).step s (.set env call) = some (s.saved pf env call, []) := by
  have hstep : configStep pf s (.set env call) =
      some (s.afterSet pf env call (call.run pf env s.board.start)) := if_pos hup
  show (configStep pf s (.set env call)).map _ = _
  rcases call.run_cases pf env s.board hsaves.1 with ⟨-, v, hrun, hv⟩ | ⟨hclosed, -⟩
  · have hafter : s.afterSet pf env call (.ok (call.committed pf env) v) = s.saved pf env call := by
      show (if _ then _ else _) = _
      rw [if_neg (by simp [hsaves.1]), hv]
      rfl
    rw [hstep, hrun, hafter]
    rfl
  · exact absurd hsaves.2 hclosed

/-! ## Sizes -/

theorem ConfigCall.edited_wellFormed {call : ConfigCall} {conf : AppConfig} (h : conf.WellFormed) :
    (call.edited pf env conf).WellFormed := by
  cases call with
  | wifiSta ssid password =>
      exact { h with
        staSsid := fits_strncpy (by decide) ssid, staPass := fits_strncpy (by decide) password }
  | wifiAp ssid password =>
      exact { h with
        apSsid := fits_strncpy (by decide) ssid, apPass := fits_strncpy (by decide) password }
  | deviceName name => exact { h with deviceName := fits_strncpy (by decide) name }
  | ntpServer server => exact { h with ntpServer := fits_strncpy (by decide) server }
  | timezone tz => exact { h with timezone := fits_strncpy (by decide) tz }
  | auth username password =>
      exact { h with
        authUser := fits_strncpy (by decide) username
        authHash := AppConfig.length_computeHash pf.sha256 _ _
        authSalt := Vector.length_toList }
  | _ => exact { h with }

/-- At power-on: `s_config` is cleared and the device is not up. -/
structure ConfigSystem.PowerOn (s : ConfigSystem) : Prop where
  up : s.up = false
  config : s.board.config = .zero

theorem config_wellFormed_step {s t : ConfigSystem} {a : ConfigAction} {es : List Empty}
    (hwf : s.board.config.WellFormed) (hstep : (configMachine pf).step s a = some (t, es)) :
    t.board.config.WellFormed := by
  cases configStep_cases hstep with
  | down => exact AppConfig.wellFormed_zero
  | @loaded env salt board hboard =>
      have hboard' : board.config = s.board.config := by rcases hboard with rfl | rfl <;> rfl
      exact (hboard' ▸ hwf).load
  | rejected => exact hwf
  | saved => exact ConfigCall.edited_wellFormed hwf

/-- In every state a run reaches, `s_config` fits its buffers. -/
theorem config_wellFormed {s t : ConfigSystem} {as : List ConfigAction} {es : List Empty}
    (hs : s.PowerOn) (h : (configMachine pf).Run s as es t) : t.board.config.WellFormed :=
  h.invariant (I := fun t => t.board.config.WellFormed) (hs.config ▸ AppConfig.wellFormed_zero)
    fun _ _ _ _ hwf hstep => config_wellFormed_step hwf hstep

end

end WebTerminal
