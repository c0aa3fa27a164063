import WebTerminal.Store.SetupLock

/-!
# The configuration through flash

What a following `config_init` finds of `s_config`.  Where flash keeps every write,
one setter that saves is enough: it stores all fields, and the reader recognises
each of them.  Where single writes are lost, a setter that returned `ESP_OK` has
persisted the configuration exactly if the keys it lost held their value already.
-/

set_option autoImplicit false

namespace WebTerminal

open Machine

variable {pf : Platform}

/-- Flash holds the configuration in effect. -/
def Board.Stored (pf : Platform) (board : Board) : Prop :=
  ∀ key ∈ savedKeys pf.target.serialPortMax, board.nvs key = some (board.config.saved key)

/-- A configuration that is stored is loaded. -/
theorem sameConfig_loaded {board : Board} (hstored : board.Stored pf)
    (hwf : board.config.WellFormed) {conf : AppConfig} (hconf : conf.WellFormed)
    (salt : Vector UInt8 configAuthSaltLen) :
    AppConfig.SameConfig pf.target.serialPortMax board.config
      (conf.load pf.sha256 pf.target.serialPortMax salt board.nvs) := by
  have hhash : board.nvs .authHash = some (.blob board.config.authHash) :=
    hstored .authHash (AppConfig.mem_savedKeys.mpr (by simp))
  have hreadable : hashReadable board.nvs = true := by
    unfold hashReadable
    rw [hhash]
    simp [hwf.authHash]
  rw [AppConfig.load_of_readable hreadable, AppConfig.sameConfig_iff_saved]
  exact fun key hkey => AppConfig.saved_stored_of_saved hconf hwf hkey (hstored key hkey)

/-- A call on flash that keeps everything. -/
def KeptSet (a : ConfigAction) : Prop := ∃ env call, a = .set env call ∧ env.AllOk

/-- A call with a port the chip has. -/
def InRange (pf : Platform) (a : ConfigAction) : Prop :=
  ∃ env call, a = .set env call ∧ call.outOfRange pf.target.serialPortMax = false

/-- After a save that flash kept, everything is stored. -/
theorem stored_saved {s : ConfigSystem} {env : Env} (call : ConfigCall) (hok : env.AllOk) :
    (s.saved pf env call).board.Stored pf := by
  intro key hkey
  have htook : call.took pf env key = true := by
    unfold ConfigCall.took
    rw [Env.flashTook_of_ok hok]
    simpa using hkey
  exact Overlay.overlay_of_written htook

/-- Once one of the calls was in range everything is stored. -/
theorem stored_sets {t u : ConfigSystem} {sets : List ConfigAction} {es : List Empty}
    (h : (configMachine pf).Run t sets es u) (hkept : ∀ a ∈ sets, KeptSet a)
    (hrange : ∃ a ∈ sets, InRange pf a) : u.board.Stored pf := by
  induction h with
  | nil => simp at hrange
  | @snoc sets es fs t' u a hrun hstep ih =>
      obtain ⟨env, call, rfl, hok⟩ := hkept a (by simp)
      cases configStep_cases hstep with
      | down hboard hclosed => exact absurd (hok _) (hclosed env call rfl).2
      | rejected hup hout =>
          refine ih (fun a ha => hkept a (by simp [ha])) ?_
          obtain ⟨a, ha, env', call', rfl, hin⟩ := hrange
          rcases List.mem_append.mp ha with ha | ha
          · exact ⟨_, ha, env', call', rfl, hin⟩
          · -- the last call was not in range
            cases List.mem_singleton.mp ha
            cases hout.symm.trans hin
      | saved hup hin hopened => exact stored_saved call hok

/-- `config_init`, called again or after a reset. -/
inductive Reinit (env : Env) : List ConfigAction → Prop
  | again : Reinit env [.init env]
  | rebooted : Reinit env [.reset, .init env]

/-- A following `config_init` loads flash into what `s_config` holds by then. -/
theorem reinit_loaded {u v : ConfigSystem} {env : Env} {restart : List ConfigAction}
    {es : List Empty} (hok : env.AllOk) (hrestart : Reinit env restart)
    (h : (configMachine pf).Run u restart es v) :
    ∃ conf salt, (conf = u.board.config ∨ conf = .zero) ∧
      v.board.config = conf.load pf.sha256 pf.target.serialPortMax salt u.board.nvs := by
  cases hrestart with
  | again =>
      obtain ⟨-, rfl⟩ := h.det (.single (configStep_init pf u hok))
      exact ⟨_, _, .inl rfl, rfl⟩
  | rebooted =>
      have hinit := configStep_init pf (u.down u.board) hok
      obtain ⟨-, rfl⟩ := h.det (.cons (configStep_reset pf u) (.single hinit))
      exact ⟨_, _, .inr rfl, rfl⟩

/-- Whatever was in flash at power-on and whatever became of it since: once a setter
has saved, a following `config_init` reproduces the configuration. -/
theorem config_round_trip {s t u v : ConfigSystem} {as sets restart : List ConfigAction}
    {es fs gs : List Empty} {env : Env} (hs : s.PowerOn) (ht : (configMachine pf).Run s as es t)
    (hu : (configMachine pf).Run t sets fs u) (hkept : ∀ a ∈ sets, KeptSet a)
    (hrange : ∃ a ∈ sets, InRange pf a) (hok : env.AllOk) (hrestart : Reinit env restart)
    (hv : (configMachine pf).Run u restart gs v) :
    AppConfig.SameConfig pf.target.serialPortMax u.board.config v.board.config ∧
      ∀ password, v.board.config.checkPassword pf.sha256 password =
        u.board.config.checkPassword pf.sha256 password := by
  have hwf : u.board.config.WellFormed := config_wellFormed hs (ht.append hu)
  obtain ⟨conf, salt, hconf, hload⟩ := reinit_loaded hok hrestart hv
  have hconf' : conf.WellFormed := by
    rcases hconf with rfl | rfl
    · exact hwf
    · exact AppConfig.wellFormed_zero
  have hsame : AppConfig.SameConfig pf.target.serialPortMax u.board.config v.board.config := by
    rw [hload]
    exact sameConfig_loaded (stored_sets hu hkept hrange) hwf hconf' salt
  exact ⟨hsame, fun password => hsame.sameCredentials.checkPassword pf.sha256 password⟩

/-- `config_set_device_name("bench")` -/
def demoSetName : ConfigCall := .deviceName ⟨cstr "bench", by decide⟩

/-- A first boot, a new name and a reboot. -/
theorem config_round_trip_name :
    ∃ t u v, (configMachine (demoPlatform [])).Run blankConfigSystem [.init (demoEnv 0 [])] [] t ∧
      (configMachine (demoPlatform [])).Run t [.set (demoEnv 0 []) demoSetName] [] u ∧
      (configMachine (demoPlatform [])).Run u [.reset, .init (demoEnv 0 [])] [] v ∧
      AppConfig.SameConfig 1 u.board.config v.board.config := by
  have hok : (demoEnv 0 []).AllOk := fun _ => rfl
  let t := blankConfigSystem.loaded
    (blankConfigSystem.board.loaded (demoPlatform []) ((demoEnv 0 []).saltBytes 2))
  let u := t.saved (demoPlatform []) (demoEnv 0 []) demoSetName
  have ht := configStep_init (demoPlatform []) blankConfigSystem hok
  have hu : (configMachine (demoPlatform [])).step t (.set (demoEnv 0 []) demoSetName) =
      some (u, []) := configStep_set rfl ⟨rfl, rfl⟩
  have hv := configStep_init (demoPlatform []) (u.down u.board) hok
  have hrestart := Machine.Run.cons (configStep_reset (demoPlatform []) u) (.single hv)
  have hkept : ∀ a ∈ [ConfigAction.set (demoEnv 0 []) demoSetName], KeptSet a := by
    simp [KeptSet, hok]
  exact ⟨t, u, _, .single ht, .single hu, hrestart,
    (config_round_trip ⟨rfl, rfl⟩ (.single ht) (.single hu) hkept
      ⟨_, List.mem_singleton_self _, _, _, rfl, rfl⟩ hok .rebooted hrestart).1⟩

/-- The answers of `demoEnv`, with this salt. -/
def demoSaltEnv (salt : Vector UInt8 configAuthSaltLen) : Env :=
  { demoEnv 0 [] with saltBytes := fun _ => salt }

/-- A refused call saves nothing, so the salt of the default password is drawn anew. -/
theorem config_round_trip_refused :
    ¬∀ (s t u v : ConfigSystem) (as sets restart : List ConfigAction) (es fs gs : List Empty)
      (env : Env), s.PowerOn → (configMachine (demoPlatform [])).Run s as es t →
      (configMachine (demoPlatform [])).Run t sets fs u → (∀ a ∈ sets, KeptSet a) → sets ≠ [] →
      env.AllOk → Reinit env restart → (configMachine (demoPlatform [])).Run u restart gs v →
      AppConfig.SameConfig 1 u.board.config v.board.config ∧
        ∀ password, v.board.config.checkPassword zeroDigest password =
          u.board.config.checkPassword zeroDigest password := by
  intro hclaim
  let refused : ConfigAction := .set (demoEnv 0 []) (.baudRatePort (-1) 9600)
  obtain ⟨u, es, v, gs, hu, hv, htest, htest'⟩ := Machine.Run.exists_of_exec_exec
    (M := configMachine (demoPlatform [])) (s := blankConfigSystem)
    (p := fun u _ => u.board.config.authSalt == List.replicate 16 0)
    (q := fun v _ => v.board.config.authSalt == List.replicate 16 1)
    (show ((configMachine (demoPlatform [])).exec blankConfigSystem
      [.init (demoEnv 0 []), refused]).any (fun r => _ &&
        ((configMachine (demoPlatform [])).exec r.1 [.init (demoSaltEnv (.replicate _ 1))]).any
          _) = true by
      decide +kernel)
  rw [← List.singleton_append] at hu
  obtain ⟨t, es, fs, ht, hu, -⟩ := hu.split
  obtain ⟨hsame, -⟩ := hclaim _ _ _ _ _ _ _ _ _ _ (demoSaltEnv _) ⟨rfl, rfl⟩ ht hu
    (fun a ha => ⟨demoEnv 0 [], _, List.mem_singleton.mp ha, fun _ => rfl⟩) (by simp) (fun _ => rfl)
    .again hv
  have hsalt := hsame.sameCredentials.authSalt
  rw [beq_iff_eq.mp htest, beq_iff_eq.mp htest'] at hsalt
  exact absurd hsalt (by decide)

/-! ## Setters that report success -/

/-- Every `config_init` to come loads the configuration in effect. -/
def ConfigSystem.Reloads (pf : Platform) (u : ConfigSystem) : Prop :=
  ∀ env restart gs v, env.AllOk → Reinit env restart → (configMachine pf).Run u restart gs v →
    AppConfig.SameConfig pf.target.serialPortMax u.board.config v.board.config

/-- The result of a setter says what became of the configuration: after `ESP_OK` it
is what a following `config_init` loads, after an error it is what it was. -/
def Faithful (pf : Platform) (env : Env) (call : ConfigCall) (s : ConfigSystem) : Prop :=
  ∀ err w, call.run pf env s.board.start = .ok err w →
    (err = .ok → ConfigSystem.Reloads pf { s with board := w.state }) ∧
      (err ≠ .ok → AppConfig.SameConfig pf.target.serialPortMax s.board.config w.state.config)

/-- Flash already has what a save would put there: under every key whose write is
lost it is read as the value to be stored, and there is a hash to read. -/
structure ConfigCall.LostOnlyStored (pf : Platform) (env : Env) (call : ConfigCall)
    (board : Board) : Prop where
  hash : call.took pf env .authHash = true ∨ hashReadable board.nvs = true
  keys : ∀ key ∈ savedKeys pf.target.serialPortMax, call.took pf env key = false →
    (AppConfig.zero.stored pf.target.serialPortMax board.nvs).saved key =
      (call.edited pf env board.config).saved key

/-- What keeps a setter honest: where `nvs_commit` succeeds it loses only writes of
what flash has already, and where it fails the call changes nothing. -/
def ConfigCall.Persists (pf : Platform) (env : Env) (call : ConfigCall) (board : Board) : Prop :=
  call.Saves pf env →
    if call.committed pf env = .ok then call.LostOnlyStored pf env board
    else AppConfig.SameConfig pf.target.serialPortMax board.config
      (call.edited pf env board.config)

theorem AppConfig.SameConfig.refl (serialPortMax : ℕ) (conf : AppConfig) :
    AppConfig.SameConfig serialPortMax conf conf := ⟨rfl, fun _ _ => rfl⟩

/-- It is enough to look at a cleared device, under every salt it could draw. -/
theorem ConfigSystem.reloads_iff {u : ConfigSystem} : u.Reloads pf ↔
    ∀ salt, AppConfig.SameConfig pf.target.serialPortMax u.board.config
      (AppConfig.zero.load pf.sha256 pf.target.serialPortMax salt u.board.nvs) := by
  refine ⟨fun h salt => ?_, fun h env restart gs v hok hrestart hrun => ?_⟩
  · have hinit := configStep_init pf (u.down u.board) (fun _ => rfl : (demoSaltEnv salt).AllOk)
    exact h (demoSaltEnv salt) _ _ _ (fun _ => rfl) .rebooted
      (.cons (configStep_reset pf u) (.single hinit))
  · obtain ⟨conf, salt, rfl | rfl, hload⟩ := reinit_loaded hok hrestart hrun
    · rw [hload]
      exact AppConfig.sameConfig_load_again h salt
    · rw [hload]
      exact h salt

/-- A setter is faithful exactly if it loses only what flash has already. -/
theorem faithful_iff {s : ConfigSystem} (hwf : s.board.config.WellFormed) (env : Env)
    (call : ConfigCall) : Faithful pf env call s ↔ call.Persists pf env s.board := by
  cases hrange : call.outOfRange pf.target.serialPortMax with
  | true =>
      -- a refused call neither saves nor edits
      refine ⟨fun _ hsaves => ?_, fun _ err w hrun => ?_⟩
      · cases hrange.symm.trans hsaves.1
      · cases (call.run_outOfRange s.board hrange).symm.trans hrun
        exact ⟨fun herr => (by cases herr), fun _ => AppConfig.SameConfig.refl _ _⟩
  | false =>
      rcases call.run_cases pf env s.board hrange with
        ⟨hopened, v, hrun, hv⟩ | ⟨hclosed, v, hrun, -⟩
      · have hfaithful : Faithful pf env call s ↔
            (call.committed pf env = .ok →
              ConfigSystem.Reloads pf { s with board := call.saved pf env s.board }) ∧
            (call.committed pf env ≠ .ok → AppConfig.SameConfig pf.target.serialPortMax
              s.board.config (call.edited pf env s.board.config)) := by
          refine ⟨fun h => ?_, fun h err w hrun' => ?_⟩
          · have hresult := h _ _ hrun
            rwa [hv] at hresult
          · cases hrun.symm.trans hrun'
            rw [hv]
            exact h
        have hreloads : ConfigSystem.Reloads pf { s with board := call.saved pf env s.board } ↔
            call.LostOnlyStored pf env s.board := by
          rw [ConfigSystem.reloads_iff]
          refine (AppConfig.sameConfig_load_overlay_iff AppConfig.wellFormed_zero
            (ConfigCall.edited_wellFormed hwf)).trans ?_
          exact ⟨fun h => ⟨h.1, h.2⟩, fun h => ⟨h.hash, h.keys⟩⟩
        rw [hfaithful, hreloads]
        unfold ConfigCall.Persists
        by_cases hcommitted : call.committed pf env = .ok
        · simp [hcommitted, ConfigCall.Saves, hrange, hopened]
        · simp [hcommitted, ConfigCall.Saves, hrange, hopened]
      · -- the chip resets, and nothing is reported
        refine ⟨fun _ hsaves => absurd hsaves.2 hclosed, fun _ err w hrun' => ?_⟩
        cases hrun.symm.trans hrun'

/-- In every reachable state a setter is faithful exactly if it loses only what flash
has already and fails only where it changes nothing. -/
theorem setter_faithful_iff {s t : ConfigSystem} {as : List ConfigAction} {es : List Empty}
    (hs : s.PowerOn) (ht : (configMachine pf).Run s as es t) (env : Env) (call : ConfigCall) :
    Faithful pf env call t ↔ call.Persists pf env t.board :=
  faithful_iff (config_wellFormed hs ht) env call

/-- Where flash keeps everything, a new name after a first boot is persisted. -/
theorem setter_faithful_name :
    ∃ t, (configMachine (demoPlatform [])).Run blankConfigSystem [.init (demoEnv 0 [])] [] t ∧
      Faithful (demoPlatform []) (demoEnv 0 []) demoSetName t := by
  have ht := configStep_init (demoPlatform []) blankConfigSystem
    (fun _ => rfl : (demoEnv 0 []).AllOk)
  refine ⟨_, .single ht, (setter_faithful_iff ⟨rfl, rfl⟩ (.single ht) _ _).mpr fun _ => ?_⟩
  have htook :
      ∀ key ∈ savedKeys 1, demoSetName.took (demoPlatform []) (demoEnv 0 []) key = true := by
    decide
  refine ⟨.inl (htook _ (by decide)), fun key hkey hlost => ?_⟩
  cases (htook key hkey).symm.trans hlost

/-- A name whose write is lost is reported as stored. -/
theorem setter_faithful_lost_name :
    ¬∀ (s t : ConfigSystem) (as : List ConfigAction) (es : List Empty) (env : Env)
      (call : ConfigCall), s.PowerOn → (configMachine (demoPlatform [])).Run s as es t →
      t.up = true → Faithful (demoPlatform []) env call t := by
  intro hclaim
  have ht := configStep_init (demoPlatform []) blankConfigSystem
    (fun _ => rfl : (demoEnv 0 []).AllOk)
  have hfaithful := hclaim _ _ _ _ (demoLossyEnv 12) demoSetName ⟨rfl, rfl⟩ (.single ht) rfl
  have hpersists := (faithful_iff (config_wellFormed ⟨rfl, rfl⟩ (.single ht)) _ _).mp hfaithful
    ⟨rfl, rfl⟩
  rw [if_pos (show demoSetName.committed (demoPlatform []) (demoLossyEnv 12) = .ok from rfl)]
    at hpersists
  -- the namespace is empty, so the default name is read
  have hname := hpersists.keys .devName (by decide) (by decide)
  exact absurd hname (by decide)

end WebTerminal
