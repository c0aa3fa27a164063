import WebTerminal.Server.System
import WebTerminal.Store.ConfigMachine

/-!
# The setup lock

`auth_init` and `auth_hash` are separate keys, and what becomes of one write says
nothing about the other.  As long as no save stores the flag while it loses the
hash, the flag in flash always stands beside a hash that somebody set, and a
device that comes up with the default password is locked.
-/

set_option autoImplicit false

namespace WebTerminal

variable {pf : Platform}

/-- The flag in flash is on. -/
def flagStored (nvs : Nvs) : Bool := decide ((nvsGetU8 nvs .authInit).getD 0 ≠ 0)

/-- The hash in flash was set by `config_set_auth`. -/
def ConfigSystem.hashSet (s : ConfigSystem) : Bool :=
  hashReadable s.board.nvs && !s.defaultStored

/-- A save that stores the flag does not lose the hash, unless flash holds a hash
that was set before. -/
def FlagWithHash (pf : Platform) (s : ConfigSystem) : ConfigAction → Prop
  | .set env call =>
      call.Saves pf env → (call.edited pf env s.board.config).authInitialized = true →
        call.took pf env .authInit = true →
          call.took pf env .authHash = true ∨ s.hashSet = true
  | _ => True

/-- The published password works because the default hash was installed, and yet
the device is not locked. -/
def ConfigSystem.Unlocked (pf : Platform) (s : ConfigSystem) : Prop :=
  s.up = true ∧ s.defaultInUse = true ∧
    s.board.config.checkPassword pf.sha256 configDefaultAuthPass = true ∧
      s.board.config.authInitialized = true

/-- The flag and the hash belong together, in flash and in `s_config`. -/
structure ConfigSystem.FlagInv (s : ConfigSystem) : Prop where
  stored : flagStored s.board.nvs = true → s.hashSet = true
  origin : s.up = true → s.defaultInUse = true → s.hashSet = false
  locked : s.up = true → s.defaultInUse = true → s.board.config.authInitialized = false

/-- The flag in flash after a save. -/
theorem flagStored_overlay (written : NvsKey → Bool) (conf : AppConfig) (old : Nvs) :
    flagStored (Overlay.overlay written conf.saved old) =
      if written .authInit then conf.authInitialized else flagStored old := by
  unfold flagStored nvsGetU8
  cases hwritten : written .authInit with
  | true =>
      rw [Overlay.overlay_of_written hwritten]
      cases hinit : conf.authInitialized <;> simp [AppConfig.saved, hinit]
  | false => rw [Overlay.overlay_of_lost hwritten]; rfl

theorem authInitialized_loaded (salt : Vector UInt8 configAuthSaltLen) (board : Board) :
    (board.loaded pf salt).config.authInitialized = flagStored board.nvs := rfl

/-- A reset loses what `s_config` holds and may blank flash. -/
theorem ConfigSystem.FlagInv.down {s : ConfigSystem} (h : s.FlagInv) {board : Board}
    (hboard : board = s.board ∨ board = s.board.erased) : (s.down board).FlagInv where
  stored hflag := by
    rcases hboard with rfl | rfl
    · exact h.stored hflag
    · cases hflag
  origin hup := by cases hup
  locked hup := by cases hup

/-- A load takes the default password exactly if no hash that was set can be read. -/
theorem ConfigSystem.FlagInv.loaded {s : ConfigSystem} (h : s.FlagInv) {board : Board}
    {salt : Vector UInt8 configAuthSaltLen} (hboard : board = s.board ∨ board = s.board.erased) :
    (s.loaded (board.loaded pf salt)).FlagInv := by
  have hstored :
      flagStored board.nvs = true → (hashReadable board.nvs && !s.defaultStored) = true := by
    rcases hboard with rfl | rfl
    · exact h.stored
    · intro hflag
      cases hflag
  have hinUse : (!hashReadable board.nvs || s.defaultStored) = true →
      (hashReadable board.nvs && !s.defaultStored) = false := by
    cases hashReadable board.nvs <;> cases s.defaultStored <;> decide
  refine ⟨hstored, fun _ => hinUse, fun _ huse => ?_⟩
  show (board.loaded pf salt).config.authInitialized = false
  rw [authInitialized_loaded]
  by_contra hflag
  have hset := hstored (by simpa using hflag)
  rw [hinUse huse] at hset
  cases hset

/-- The hash in flash after a save. -/
theorem ConfigSystem.hashSet_saved {s : ConfigSystem} (env : Env) (call : ConfigCall)
    (hwf : s.board.config.WellFormed) :
    (s.saved pf env call).hashSet =
      if call.took pf env .authHash then !(s.defaultInUse && !call.setsAuth) else s.hashSet := by
  have hreadable : hashReadable (call.saved pf env s.board).nvs =
      (call.took pf env .authHash || hashReadable s.board.nvs) :=
    AppConfig.hashReadable_overlay _ _ (ConfigCall.edited_wellFormed hwf)
  unfold hashSet
  show (hashReadable (call.saved pf env s.board).nvs && _) = _
  rw [hreadable]
  cases htook : call.took pf env .authHash <;> simp [ConfigSystem.saved, htook]

/-- Only `config_set_auth` touches the flag in `s_config`. -/
theorem ConfigCall.authInitialized_edited {env : Env} {call : ConfigCall} (conf : AppConfig) :
    (call.edited pf env conf).authInitialized = (call.setsAuth || conf.authInitialized) := by
  cases call <;> rfl

/-- A save keeps the flag with its hash if it meets the condition. -/
theorem ConfigSystem.FlagInv.saved {s : ConfigSystem} (h : s.FlagInv)
    (hwf : s.board.config.WellFormed) {env : Env} {call : ConfigCall} (hup : s.up = true)
    (hsaves : call.Saves pf env) (hflag : FlagWithHash pf s (.set env call)) :
    (s.saved pf env call).FlagInv := by
  have hnvs : flagStored (call.saved pf env s.board).nvs =
      if call.took pf env .authInit then (call.edited pf env s.board.config).authInitialized
      else flagStored s.board.nvs := flagStored_overlay _ _ _
  have hinit : (call.edited pf env s.board.config).authInitialized =
      (call.setsAuth || s.board.config.authInitialized) := call.authInitialized_edited _
  have hset : (s.saved pf env call).hashSet = _ := ConfigSystem.hashSet_saved env call hwf
  refine ⟨fun hstored => ?_, fun _ huse => ?_, fun _ huse => ?_⟩
  · replace hstored := hnvs.symm.trans hstored
    -- whoever sets the flag does not have the default hash in use
    have hnotDefault : (call.edited pf env s.board.config).authInitialized = true →
        (s.defaultInUse && !call.setsAuth) = false := by
      intro hon
      cases huse : s.defaultInUse with
      | false => rfl
      | true =>
          have hlocked := h.locked hup huse
          rw [hinit, hlocked] at hon
          simpa using hon
    rw [hset]
    split at hstored
    next hwritten =>
      split
      · rw [hnotDefault hstored]
        rfl
      next hlost => exact (hflag hsaves hstored hwritten).resolve_left (by simpa using hlost)
    next =>
      split
      · cases huse : s.defaultInUse with
        | false => rfl
        | true =>
            have hnotSet := h.origin hup huse
            rw [h.stored hstored] at hnotSet
            cases hnotSet
      · exact h.stored hstored
  · have huse' : s.defaultInUse = true ∧ call.setsAuth = false := by
      simpa [ConfigSystem.saved] using huse
    rw [hset]
    split
    · simp [huse']
    · exact h.origin hup huse'.1
  · have huse' : s.defaultInUse = true ∧ call.setsAuth = false := by
      simpa [ConfigSystem.saved] using huse
    show (call.edited pf env s.board.config).authInitialized = false
    rw [hinit, huse'.2, h.locked hup huse'.1]
    rfl

/-- Flash holds no flag without a hash that was set: nothing at all, or what a
seed with a password put there. -/
structure ConfigSystem.Fresh (s : ConfigSystem) : Prop extends s.PowerOn where
  stored : flagStored s.board.nvs = true → s.hashSet = true

theorem ConfigSystem.Fresh.flagInv {s : ConfigSystem} (h : s.Fresh) : s.FlagInv where
  stored := h.stored
  origin hup := by cases h.up.symm.trans hup
  locked hup := by cases h.up.symm.trans hup

/-- The invariant over a run. -/
theorem config_flagInv {s t : ConfigSystem} {as : List ConfigAction} {es : List Empty}
    (hs : s.Fresh) (h : (configMachine pf).Run s as es t)
    (hflag : ∀ u a, (configMachine pf).Takes s as u a → FlagWithHash pf u a) : t.FlagInv := by
  have hinv : t.FlagInv ∧ t.board.config.WellFormed := by
    refine h.invariant_taking (I := fun t => t.FlagInv ∧ t.board.config.WellFormed) hflag
      ⟨hs.flagInv, hs.config ▸ AppConfig.wellFormed_zero⟩ ?_
    intro u a v fs hcond ⟨hinv, hwf⟩ hstep
    refine ⟨?_, config_wellFormed_step hwf hstep⟩
    cases configStep_cases hstep with
    | down hboard => exact hinv.down hboard
    | loaded hboard => exact hinv.loaded hboard
    | rejected => exact hinv
    | saved hup hrange hopened => exact hinv.saved hwf hup ⟨hrange, hopened⟩ hcond
  exact hinv.1

/-- In a run whose saves keep the flag with the hash, the setup lock is never off
while the published password works. -/
theorem setup_lock {s t : ConfigSystem} {as : List ConfigAction} {es : List Empty} (hs : s.Fresh)
    (h : (configMachine pf).Run s as es t)
    (hflag : ∀ u a, (configMachine pf).Takes s as u a → FlagWithHash pf u a) : ¬t.Unlocked pf := by
  rintro ⟨hup, huse, -, hinit⟩
  have hlocked := (config_flagInv hs h hflag).locked hup huse
  rw [hinit] at hlocked
  cases hlocked

/-- A save that stores the flag and loses the only hash is followed, after a
reboot, by an unlocked device with the published password. -/
theorem unlocked_of_lost_hash (pf : Platform) {s : ConfigSystem} (env env' : Env)
    (call : ConfigCall) (hup : s.up = true) (hsaves : call.Saves pf env)
    (hinit : (call.edited pf env s.board.config).authInitialized = true)
    (hflag : call.took pf env .authInit = true) (hlost : call.took pf env .authHash = false)
    (hnone : hashReadable s.board.nvs = false) (hok : ∀ n, env'.err n = .ok) :
    ∃ t, (configMachine pf).Run s [.set env call, .reset, .init env'] [] t ∧ t.Unlocked pf := by
  let u := (s.saved pf env call).down (call.saved pf env s.board)
  have hload := configStep_init pf u hok
  have hunreadable : hashReadable u.board.nvs = false := by
    show hashReadable (Overlay.overlay _ _ _) = false
    unfold hashReadable at hnone ⊢
    rwa [Overlay.overlay_of_lost hlost]
  refine ⟨_, .cons (configStep_set hup hsaves) (.cons (configStep_reset pf _) (.single hload)), rfl,
    ?_, ?_, ?_⟩
  · show (!hashReadable u.board.nvs || _) = true
    rw [hunreadable]
    rfl
  · show (u.board.config.load _ _ _ u.board.nvs).checkPassword _ _ = true
    rw [AppConfig.load_of_unreadable hunreadable]
    exact constantTimeCompare_self _ _
  · show flagStored (Overlay.overlay _ _ _) = true
    rw [flagStored_overlay, if_pos hflag, hinit]

/-- Flash in which the write of question `n` is lost. -/
def demoLossyEnv (n : ℕ) : Env := { demoEnv 0 [] with err := fun k => if k = n then .fail else .ok }

/-- A blank board. -/
def blankConfigSystem : ConfigSystem where
  up := false
  board := { demoSystem.device.board with config := .zero }
  defaultInUse := false
  defaultStored := false

theorem blankConfigSystem_fresh : blankConfigSystem.Fresh := ⟨⟨rfl, rfl⟩, by decide⟩

/-- `config_set_auth("admin", "longer-pass")` -/
def demoSetAuth : ConfigCall :=
  .auth ⟨cstr "admin", by decide⟩ ⟨cstr "longer-pass", by decide⟩

/-- The first boot, a new password and a reboot, with flash that keeps everything. -/
def demoPasswordRun : List ConfigAction :=
  [.init (demoEnv 0 []), .set (demoEnv 0 []) demoSetAuth, .reset, .init (demoEnv 0 [])]

/-- After that run the lock and the password agree. -/
theorem setup_lock_kept :
    ∃ t es, (configMachine (demoPlatform [])).Run blankConfigSystem demoPasswordRun es t ∧
      t.up = true ∧ ¬t.Unlocked (demoPlatform []) := by
  obtain ⟨t, es, hrun, hup⟩ := Machine.Run.exists_of_exec
    (M := configMachine (demoPlatform [])) (s := blankConfigSystem) (p := fun t _ => t.up)
    (show ((configMachine (demoPlatform [])).exec blankConfigSystem demoPasswordRun).any
      (fun r => _) = true by decide +kernel)
  refine ⟨t, es, hrun, hup, setup_lock blankConfigSystem_fresh hrun fun u a htakes => ?_⟩
  obtain ⟨bs, cs, -, hsplit, -⟩ := htakes
  have ha : a ∈ demoPasswordRun := hsplit ▸ by simp
  simp only [demoPasswordRun, List.mem_cons, List.not_mem_nil, or_false] at ha
  rcases ha with rfl | rfl | rfl | rfl
  · trivial
  · exact fun _ _ _ => .inl (by decide)
  · trivial
  · trivial

/-- With the write of the hash lost, the published password opens an unlocked
device after a reboot. -/
theorem setup_lock_lost_hash :
    ¬∀ (s t : ConfigSystem) (as : List ConfigAction) (es : List Empty), s.Fresh →
      (configMachine (demoPlatform [])).Run s as es t → ¬t.Unlocked (demoPlatform []) := by
  intro hclaim
  obtain ⟨s, es, hboot, htest⟩ := Machine.Run.exists_of_exec
    (M := configMachine (demoPlatform [])) (s := blankConfigSystem)
    (p := fun s _ => s.up && !hashReadable s.board.nvs)
    (show ((configMachine (demoPlatform [])).exec blankConfigSystem [.init (demoEnv 0 [])]).any
      (fun r => _) = true by decide +kernel)
  simp only [Bool.and_eq_true, Bool.not_eq_true'] at htest
  -- the write of `auth_hash` is the ninth question after the salt
  obtain ⟨t, hrun, hunlocked⟩ := unlocked_of_lost_hash (demoPlatform []) (demoLossyEnv 9)
    (demoEnv 0 []) demoSetAuth htest.1 ⟨rfl, rfl⟩ rfl (by decide) (by decide) htest.2 fun _ => rfl
  exact hclaim _ _ _ _ blankConfigSystem_fresh (hboot.append hrun) hunlocked

end WebTerminal
