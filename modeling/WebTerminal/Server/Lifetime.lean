import WebTerminal.Lib.Alike
import WebTerminal.Server.ConfigCalls
import WebTerminal.Server.LoginBody
import WebTerminal.Server.SessionLife
import WebTerminal.Server.SetupMode
import WebTerminal.Store.Certs

/-!
# A device over its lifetime

`app_main`, and runs that go through any number of resets.  A reset comes at any time
between two calls, be it `esp_restart`, a failed check or the power; a cut in the middle
of a save is one whose later writes are lost, followed by a reset.  The firmware stays the
same.

Whatever happens, the configuration and its copy in flash go through a run of the machine
of `config.c` whose calls are all accepted ones.
-/

set_option autoImplicit false

namespace WebTerminal

open Proc

/-- `memset(&s_ws_clients[i], 0, ...)` -/
def WsClient.zero : WsClient := ⟨0, false, 0, [], 0⟩

section

variable (pf : Platform) (env : Env)

/-- `auth_init` -/
def initAuth : Handler EspErr := do
  update fun d => { d with auth := authInit }
  return .ok

/-- `web_server_init`, and the certificate and key it leaves in place. -/
def webServerInit (embedded uninit : TlsPair) : Handler CertPems := do
  update fun d => d.setClients fun _ => .zero
  let mutex ← ask env.found
  -- `assert(s_ws_mutex)`
  if mutex then onBoard (loadOrSaveCerts env embedded uninit) else stop .abort

/-- `web_server_start`: the pair it serves, if the server starts. -/
def webServerStart (embedded : TlsPair) (pems : CertPems) : Handler TlsPair := do
  let err ← ask env.err
  espErrorCheck err
  return pems.inUse embedded

/-- The end of `app_main`: whether it marks the image as valid. -/
def confirmImage : Handler Bool := do
  let err ← ask env.err
  let pendingVerify ← ask env.found
  return decide (err = .ok) && pendingVerify

/-- `app_main` after `config_init`. -/
def appMainConfigured (embedded uninit : TlsPair) : Handler (TlsPair × Bool) := do
  let err ← initAuth
  espErrorCheck err
  let err ← onBoard (gpioControlInit env)
  espErrorCheck err
  onBoard ntpInit
  let err ← onBoard (wifiManagerInit pf env)
  espErrorCheck err
  let err ← onBoard (serialPortInitAll pf env)
  espErrorCheck err
  let pems ← webServerInit env embedded uninit
  let pair ← webServerStart env embedded pems
  let confirmed ← confirmImage env
  return (pair, confirmed)

/-- `app_main`: the pair the server serves, and whether the image is marked as valid. -/
def appMain (embedded uninit : TlsPair) : Handler (TlsPair × Bool) := do
  let err ← onBoard (configInit pf env)
  espErrorCheck err
  appMainConfigured pf env embedded uninit

end

/-- After a reset: what is not in flash is cleared. -/
def Device.reset (d : Device) : Device where
  auth := authInit
  clients := fun _ => .zero
  board := d.board.reset

inductive LifeAction
  | call (a : Action)
  /-- a reset and the start after it, with what freshly allocated memory holds -/
  | reset (env : Env) (uninit : TlsPair)

inductive LifeEvent
  | shown (e : Event)
  | serving (pair : TlsPair)
  /-- `esp_ota_mark_app_valid_cancel_rollback` -/
  | confirmed
  deriving DecidableEq

/-- Where a start ends.  The clock starts anew as well. -/
def System.afterReset (now : ℕ) :
    EStateM.Result Stop (World Device Event) (TlsPair × Bool) → System × List LifeEvent
  | .ok result w =>
      (⟨now, true, w.state⟩, w.shown.map .shown ++ .serving result.1 ::
        if result.2 then [.confirmed] else [])
  | .error _ w => (⟨now, false, w.state⟩, w.shown.map .shown)

def lifeStep (pf : Platform) (embedded : TlsPair) (s : System) :
    LifeAction → Option (System × List LifeEvent)
  | .call a => (systemStep pf s a).map fun r => (r.1, r.2.map .shown)
  | .reset env uninit =>
      some (System.afterReset env.now (appMain pf env embedded uninit s.device.reset.start))

/-- A device with this pair in its image. -/
def lifeMachine (pf : Platform) (embedded : TlsPair) : Machine System LifeAction LifeEvent where
  step := lifeStep pf embedded

/-- The answers to an action. -/
def LifeAction.env : LifeAction → Env
  | .call a => a.env
  | .reset env _ => env

/-- The action is a request that sets this password. -/
def LifeAction.Sets (pf : Platform) (d : Device) (password : CString) : LifeAction → Prop
  | .call a => ∃ req, a.call = .request req ∧ req.route = .configPost ∧ req.Sets pf a.env d password
  | .reset _ _ => False

section

variable {pf : Platform} {F : Env → Prop} {P : CString → Prop} {env : Env}
  {embedded uninit : TlsPair}

/-! ## The start -/

/-- The parts of the board `config.c` knows are the same. -/
def SameStore (board board' : Board) : Prop := board.config = board'.config ∧ board.nvs = board'.nvs

theorem alike_espErrorCheck {σ τ ε δ : Type} {P : σ → τ → Prop} (err : EspErr) :
    Alike P P (espErrorCheck err : Proc σ ε Stop Unit) (espErrorCheck err : Proc τ δ Stop Unit) :=
  .ite (fun _ => alike_pure (fun _ _ h => h) _) fun _ => alike_stop (fun _ _ h => h) _

/-- `config_init` looks at the configuration and at flash. -/
theorem alike_configInit (pf : Platform) (env : Env) :
    Alike SameStore SameStore (configInit pf env) (configInit pf env) := by
  have hid : ∀ board board', SameStore board board' → SameStore board board' := fun _ _ h => h
  refine .bind ?_ hid fun _ => .bind (Q := SameStore) ?_ hid fun err =>
    (alike_ask _).bind hid fun salt => ?_
  · refine (alike_ask _).bind hid fun err => .ite (fun _ => ?_) fun _ => alike_espErrorCheck _
    refine (alike_ask _).bind hid fun erased => (alike_espErrorCheck _).bind hid fun _ => ?_
    refine (alike_update fun _ _ h => ⟨h.1, rfl⟩).bind hid fun _ => ?_
    exact (alike_ask _).bind hid fun _ => alike_espErrorCheck _
  · refine (alike_ask _).bind hid fun err => alike_read_bind fun board board' h => ?_
    have hinUse : board.namespaceInUse pf = board'.namespaceInUse pf := by
      unfold Board.namespaceInUse
      rw [h.2]
    rw [hinUse]
    exact alike_pure hid _
  · refine .ite (fun _ => ?_) fun _ => (alike_espErrorCheck _).bind hid fun _ => ?_
    · refine (alike_update fun _ _ h => ⟨?_, h.2⟩).bind hid fun _ => alike_pure hid _
      exact congrArg (AppConfig.firstBoot pf.sha256 pf.target.serialPortMax salt) h.1
    · refine (alike_update fun board board' h => ⟨?_, h.2⟩).bind hid fun _ => alike_pure hid _
      show board.config.load _ _ _ board.nvs = board'.config.load _ _ _ board'.nvs
      rw [h.1, h.2]

theorem follows_gpioControlInit : Follows pf F P (gpioControlInit env) := by
  refine (drives_emit _).bind fun _ => (drives_ask _).bind fun err => ?_
  refine (follows_espErrorCheck _).bind fun _ => (drives_emit _).bind fun _ => ?_
  refine (drives_ask _).bind fun err => (follows_espErrorCheck _).bind fun _ => ?_
  refine (drives_read _).bind fun conf => (drives_emit _).bind fun _ => ?_
  exact (drives_update fun _ _ h => h.congr rfl rfl).bind fun _ => drives_pure _

theorem follows_checkedCall (call : WifiCall) : Follows pf F P (checkedCall env call) :=
  (follows_wifiCall _).bind fun _ => follows_espErrorCheck _

theorem follows_wifiManagerInit : Follows pf F P (wifiManagerInit pf env) := by
  refine (follows_wifiUpdate _).bind fun _ => .bind (Q := BoardUp pf) ?_ fun _ => ?_
  · exact drives_forM fun _ _ => (drives_ask _).bind fun _ => follows_espErrorCheck _
  · refine (drives_read _).bind fun conf => (follows_updateHostname _).bind fun _ => ?_
    refine .bind (Q := BoardUp pf) ?_ fun _ => .ite (fun _ => ?_) fun _ => ?_
    · refine (drives_ask _).bind fun _ => (follows_wifiCall _).bind fun _ => ?_
      refine (follows_wifiCall _).bind fun _ => (follows_wifiCall _).bind fun _ => ?_
      exact drives_pure _
    · refine .bind (Q := BoardUp pf) ?_ fun _ => drives_pure _
      refine (follows_checkedCall _).bind fun _ => (follows_wifiUpdate _).bind fun _ => ?_
      refine follows_startStoredAp.bind fun _ => (drives_read _).bind fun conf => ?_
      exact (follows_wifiCall _).bind fun err => (follows_wifiUpdate _).bind fun _ =>
        follows_checkedCall _
    · refine .bind (Q := BoardUp pf) ?_ fun _ => drives_pure _
      refine (follows_checkedCall _).bind fun _ => (follows_wifiUpdate _).bind fun _ => ?_
      exact follows_startStoredAp.bind fun _ => follows_checkedCall _

theorem follows_startPort {init start : BoardM EspErr} (hinit : Follows pf F P init)
    (hstart : Follows pf F P start) : Follows pf F P (startPort init start) :=
  hinit.bind fun _ => .ite (fun _ => drives_pure _) fun _ => hstart

theorem follows_serialPortInitAll : Follows pf F P (serialPortInitAll pf env) := by
  have huart : ∀ rate, Follows pf F P (uartBridgeInit env rate) := by
    intro rate
    refine (drives_ask _).bind fun _ => (follows_espErrorCheck _).bind fun _ => ?_
    refine (drives_ask _).bind fun _ => (follows_espErrorCheck _).bind fun _ => ?_
    refine (drives_update fun _ _ h => h.congr rfl rfl).bind fun _ =>
      (drives_ask _).bind fun _ => ?_
    exact (follows_espErrorCheck _).bind fun _ => drives_pure _
  have husb : ∀ rate, Follows pf F P (usbCdcInit env rate) := by
    intro rate
    refine (drives_update fun _ _ h => h.congr rfl rfl).bind fun _ =>
      (drives_ask _).bind fun _ => ?_
    refine .ite (fun _ => drives_pure _) fun _ => (drives_ask _).bind fun _ => ?_
    refine .ite (fun _ => drives_pure _) fun _ => ?_
    exact (drives_update fun _ _ h => h.congr rfl rfl).bind fun _ => drives_pure _
  have husbStart : Follows pf F P (usbCdcStart env) := by
    refine (drives_ask _).bind fun _ => .ite (fun _ => drives_pure _) fun _ => ?_
    refine (drives_ask _).bind fun _ => .ite (fun _ => drives_pure _) fun _ => ?_
    exact (drives_ask _).bind fun _ => drives_pure _
  refine (drives_read _).bind fun conf => .bind (Q := BoardUp pf) ?_ fun err => ?_
  · exact follows_startPort (huart _) ((drives_ask _).bind fun _ => drives_pure _)
  · refine .ite (fun _ => drives_pure _) fun _ => .bind (Q := BoardUp pf) ?_ fun _ => drives_pure _
    exact .onlyIf fun _ => follows_startPort (husb _) husbStart

theorem follows_certsSave (edit : TlsCerts → TlsCerts) : Follows pf F P (certsSave env edit) := by
  refine (drives_ask _).bind fun err => drives_update fun _ _ h => ?_
  split
  · exact h.congr rfl rfl
  · exact h

theorem follows_loadOrSaveCerts : Follows pf F P (loadOrSaveCerts env embedded uninit) := by
  have hget : ∀ half len, Follows pf F P (certsGet env half len) := fun _ _ =>
    (drives_ask _).bind fun _ => (drives_read _).bind fun _ => drives_pure _
  have hsave : Follows pf F P (saveEmbedded env embedded uninit) := by
    refine .bind (Q := BoardUp pf) ?_ fun _ => (drives_ask _).bind fun _ =>
      (drives_ask _).bind fun _ => (drives_ask _).bind fun _ => drives_pure _
    exact (follows_certsSave _).bind fun _ => follows_certsSave _
  have hload : ∀ len, Follows pf F P (loadCerts env len) := by
    intro len
    refine (drives_ask _).bind fun _ => (drives_ask _).bind fun _ =>
      .ite (fun _ => drives_pure _) fun _ => (hget _ _).bind fun cert => ?_
    cases cert with
    | none => exact drives_pure _
    | some cert =>
        refine (hget _ _).bind fun key => ?_
        cases key with
        | none => exact drives_pure _
        | some key => exact drives_pure _
  refine (drives_ask _).bind fun _ => .ite (fun _ => drives_pure _) fun _ =>
    (drives_ask _).bind fun err => (drives_read _).bind fun certs => ?_
  cases certs.cert with
  | none => exact hsave
  | some cert => exact .ite (fun _ => hload _) fun _ => hsave

theorem follows_ntpInit : Follows pf F P ntpInit := drives_update fun _ _ h => h.congr rfl rfl

theorem followsDevice_update {f : Device → Device} (h : ∀ d, (f d).board = d.board) :
    FollowsDevice pf F P (update f) := by
  refine drives_update fun d c hup => ?_
  show BoardUp pf (f d).board c
  rwa [h]

theorem followsDevice_espErrorCheck (err : EspErr) : FollowsDevice pf F P (espErrorCheck err) :=
  .ite (fun _ => drives_pure _) fun _ => drives_stop (stops_ofBoard pf F P) _

/-- The machine follows `app_main` once it is up. -/
theorem followsDevice_appMainConfigured :
    FollowsDevice pf F P (appMainConfigured pf env embedded uninit) := by
  refine .bind (Q := OfBoard (BoardUp pf)) ?_ fun err => (followsDevice_espErrorCheck _).bind
    fun _ => ?_
  · exact .bind (followsDevice_update fun _ => rfl) fun _ => drives_pure _
  refine (followsDevice_onBoard follows_gpioControlInit).bind fun err => ?_
  refine (followsDevice_espErrorCheck _).bind fun _ => ?_
  refine (followsDevice_onBoard follows_ntpInit).bind fun _ => ?_
  refine (followsDevice_onBoard follows_wifiManagerInit).bind fun err => ?_
  refine (followsDevice_espErrorCheck _).bind fun _ => ?_
  refine (followsDevice_onBoard follows_serialPortInitAll).bind fun err => ?_
  refine (followsDevice_espErrorCheck _).bind fun _ => .bind (Q := OfBoard (BoardUp pf)) ?_
    fun pems => .bind (Q := OfBoard (BoardUp pf)) ?_ fun pair => ?_
  · refine .bind (followsDevice_update fun _ => rfl) fun _ => ?_
    refine (drives_ask _).bind fun mutex => ?_
    exact .ite (fun _ => followsDevice_onBoard follows_loadOrSaveCerts) fun _ =>
      drives_stop (stops_ofBoard pf F P) _
  · exact (drives_ask _).bind fun _ => (followsDevice_espErrorCheck _).bind fun _ => drives_pure _
  · refine .bind (Q := OfBoard (BoardUp pf)) ?_ fun _ => drives_pure _
    exact (drives_ask _).bind fun _ => (drives_ask _).bind fun _ => drives_pure _

/-! ## Runs -/

/-- The machine of `config.c` against the device. -/
structure System.InStep (pf : Platform) (s : System) (c : ConfigSystem) : Prop where
  up : c.up = s.running
  config : s.running = true → c.board.config = s.device.board.config
  nvs : c.board.nvs = s.device.board.nvs
  proper : c.Proper pf

variable {s t : System} {c : ConfigSystem}

theorem BoardUp.inStep (h : BoardUp pf s.device.board c) (hrunning : s.running = true) :
    s.InStep pf c := ⟨h.up.trans hrunning.symm, fun _ => h.config, h.nvs, h.proper⟩

theorem BoardDown.inStep (h : BoardDown pf s.device.board c) (hstopped : s.running = false) :
    s.InStep pf c :=
  ⟨h.up.trans hstopped.symm, fun hrunning => absurd (hstopped.symm.trans hrunning) (by decide),
    h.nvs, h.proper⟩

theorem System.InStep.boardUp (h : s.InStep pf c) (hrunning : s.running = true) :
    BoardUp pf s.device.board c := ⟨h.up.trans hrunning, h.config hrunning, h.nvs, h.proper⟩

/-- The machine does in steps what one action of the device does. -/
def Catches (pf : Platform) (F : Env → Prop) (P : CString → Prop) (c : ConfigSystem)
    (t : System) : Prop :=
  ∃ bs gs c', (configMachine pf).Run c bs gs c' ∧ (∀ b ∈ bs, b.Within F P) ∧ t.InStep pf c'

theorem Catches.after {c' : ConfigSystem} {bs : List ConfigAction} {gs : List Empty}
    (hrun : (configMachine pf).Run c bs gs c') (hbs : ∀ b ∈ bs, b.Within F P)
    (h : Catches pf F P c' t) : Catches pf F P c t := by
  obtain ⟨bs', gs', c'', hrun', hbs', ht⟩ := h
  refine ⟨bs ++ bs', gs ++ gs', c'', hrun.append hrun', fun b hb => ?_, ht⟩
  exact (List.mem_append.mp hb).elim (hbs b) (hbs' b)

/-- A call. -/
theorem catches_call (hparse : pf.ParsesText) (hF : Lasts F) {a : Action} (henv : F a.env)
    (hset : ∀ password, (LifeAction.call a).Sets pf s.device password → P password)
    {es : List Event} (hstep : systemStep pf s a = some (t, es)) (h : s.InStep pf c) :
    Catches pf F P c t := by
  obtain ⟨hrunning, -, -, hstays, hdevice, -⟩ := systemStep_some hstep
  obtain ⟨bs, gs, c', hrun, hbs, hlands⟩ :=
    followsAt_call hparse hF henv (h.boardUp hrunning) fun req hcall hroute password hsets =>
      hset password ⟨req, hcall, hroute, hsets⟩
  refine ⟨bs, gs, c', hrun, hbs, ?_⟩
  cases hend : callHandler pf a.env a.call s.device.start with
  | ok response w =>
      rw [hend] at hlands hstays
      rw [final_of_ok hend] at hdevice
      exact BoardUp.inStep (hdevice ▸ hlands) hstays
  | error r w =>
      rw [hend] at hlands hstays
      rw [final_of_error hend] at hdevice
      cases r with
      | respond response => exact BoardUp.inStep (hdevice ▸ hlands) hstays
      | restart => exact BoardDown.inStep (hdevice ▸ hlands) hstays
      | abort => exact BoardDown.inStep (hdevice ▸ hlands) hstays

/-- The start after `config_init`. -/
theorem catches_appMainConfigured {err : EspErr} (w : World Device Event) {now : ℕ}
    (h : BoardUp pf w.state.board c) : Catches pf F P c (System.afterReset now
      ((espErrorCheck err >>= fun _ => appMainConfigured pf env embedded uninit) w)).1 := by
  obtain ⟨bs, gs, c', hrun, hbs, hlands⟩ :=
    ((followsDevice_espErrorCheck err).bind fun _ => followsDevice_appMainConfigured) w c h
  refine .after hrun hbs ?_
  generalize (espErrorCheck err >>= fun _ => appMainConfigured pf env embedded uninit) w = final
    at hlands ⊢
  cases final with
  | ok pair w => exact ⟨[], [], _, .nil, by simp, BoardUp.inStep hlands rfl⟩
  | error r w =>
      cases r with
      | respond =>
          obtain ⟨hrun, hdown⟩ := BoardUp.reset hlands
          exact ⟨[.reset], [], _, hrun, fun b hb => List.mem_singleton.mp hb ▸ trivial,
            BoardDown.inStep hdown rfl⟩
      | restart => exact ⟨[], [], _, .nil, by simp, BoardDown.inStep hlands rfl⟩
      | abort => exact ⟨[], [], _, .nil, by simp, BoardDown.inStep hlands rfl⟩

/-- A reset and the start after it. -/
theorem catches_reset (henv : F env) (d : Device) {now : ℕ} (h : c.Proper pf)
    (hnvs : c.board.nvs = d.board.nvs) :
    Catches pf F P c (System.afterReset now (appMain pf env embedded uninit d.reset.start)).1 := by
  -- the machine goes down, then through the same `config_init`
  have hreset := configStep_reset pf c
  have hdown := h.step (a := .reset) trivial hreset
  refine .after (.single hreset) (fun b hb => List.mem_singleton.mp hb ▸ trivial) ?_
  have hinit : (configMachine pf).step (c.down c.board) (.init env) =
      some ((c.down c.board).afterInit (configInit pf env (c.down c.board).board.start), []) := rfl
  have hloaded := hdown.step (a := .init env) trivial hinit
  refine .after (.single hinit) (fun b hb => List.mem_singleton.mp hb ▸ henv) ?_
  have halike := alike_configInit pf env d.board.reset.start (c.down c.board).board.start
    ⟨rfl, hnvs.symm⟩ rfl
  unfold appMain
  generalize configInit pf env (c.down c.board).board.start = result' at halike hloaded ⊢
  cases hfirst : configInit pf env d.board.reset.start with
  | error r v =>
      rw [hfirst] at halike
      have hfails : onBoard (configInit pf env) d.reset.start = _ := onBoard_error hfirst
      rw [bind_error hfails]
      cases halike with
      | error hsame =>
          have hdown : BoardDown pf v.state ((c.down c.board).down _) :=
            ⟨rfl, hsame.2.symm, hloaded⟩
          exact ⟨[], [], _, .nil, by simp, BoardDown.inStep hdown rfl⟩
  | ok err v =>
      rw [hfirst] at halike
      have hpasses : onBoard (configInit pf env) d.reset.start = _ := onBoard_ok hfirst
      rw [bind_ok hpasses]
      cases halike with
      | @ok _ _ v' hsame =>
          have hup : BoardUp pf v.state ((c.down c.board).loaded v'.state) :=
            ⟨rfl, hsame.1.symm, hsame.2.symm, hloaded⟩
          exact catches_appMainConfigured _ hup

/-- Every step of the device is a run of the machine. -/
theorem life_step (hparse : pf.ParsesText) (hF : Lasts F) {a : LifeAction} {es : List LifeEvent}
    (hstep : (lifeMachine pf embedded).step s a = some (t, es)) (henv : F a.env)
    (hset : ∀ password, a.Sets pf s.device password → P password) (h : s.InStep pf c) :
    Catches pf F P c t := by
  cases a with
  | call a =>
      obtain ⟨⟨t', es'⟩, hcall, heq⟩ := Option.map_eq_some_iff.mp hstep
      cases heq
      exact catches_call hparse hF henv hset hcall h
  | reset env uninit =>
      have ht :
          t = (System.afterReset env.now (appMain pf env embedded uninit s.device.reset.start)).1 :=
        (congrArg Prod.fst (Option.some.inj hstep)).symm
      rw [ht]
      exact catches_reset henv s.device h.proper h.nvs

/-- Every run of the device is a run of the machine. -/
theorem life_run (hparse : pf.ParsesText) (hF : Lasts F) {as : List LifeAction}
    {es : List LifeEvent} (hrun : (lifeMachine pf embedded).Run s as es t)
    (hanswers : ∀ a ∈ as, F a.env)
    (hset : ∀ u a, (lifeMachine pf embedded).Takes s as u a →
      ∀ password, a.Sets pf u.device password → P password)
    (h : s.InStep pf c) : Catches pf F P c t := by
  have hallowed : ∀ u a, (lifeMachine pf embedded).Takes s as u a →
      F a.env ∧ ∀ password, a.Sets pf u.device password → P password := fun u a htakes =>
    ⟨hanswers a htakes.mem, hset u a htakes⟩
  have hsteps : ∀ u v a fs c, (lifeMachine pf embedded).step u a = some (v, fs) →
      (F a.env ∧ ∀ password, a.Sets pf u.device password → P password) → u.InStep pf c →
        Catches pf F P c v := fun _ _ _ _ _ hstep ⟨henv, hset⟩ hu =>
    life_step hparse hF hstep henv hset hu
  exact hrun.simulated (S := fun s c => s.InStep pf c) h hallowed hsteps

/-! ## Sessions -/

/-- Every session there is was handed out in this history. -/
def IssuedSince (h : List Event) (d : Device) : Prop :=
  ∀ i, (d.auth.sessions i).active = true → (d.auth.sessions i).token ∈ issuedTokens h

theorem IssuedSince.append {h : List Event} {d : Device} (hd : IssuedSince h d) (es : List Event) :
    IssuedSince (h ++ es) d := by
  intro i hi
  rw [issuedTokens_append]
  exact List.mem_append_left _ (hd i hi)

theorem CallCase.issuedSince {d d' : Device} {call : Call} {h es : List Event}
    (hcase : CallCase pf env d call d' es) (hd : IssuedSince h d) : IssuedSince (h ++ es) d' := by
  intro i hi
  rcases hcase.table with ⟨random, rfl, hopened⟩ | ⟨-, hsame⟩
  · obtain ⟨slot, htaken, hothers⟩ := openSession_slots env.monoNow random d.auth.sessions
    rw [← hopened] at htaken hothers
    rw [issuedTokens_append]
    by_cases hslot : i = slot
    · rw [hslot, htaken]
      exact List.mem_append_right _ (List.mem_singleton_self _)
    · have hold := hothers i hslot hi
      rw [hold] at hi ⊢
      exact List.mem_append_left _ (hd i hi)
  · obtain ⟨hi', htoken⟩ := hsame i hi
    rw [htoken, issuedTokens_append]
    exact List.mem_append_left _ (hd i hi')

theorem system_issuedSince {as : List Action} {es : List Event}
    (hrun : (systemMachine pf).Run s as es t) (hs : IssuedSince [] s.device) :
    IssuedSince es t.device := by
  induction hrun with
  | nil => exact hs
  | snoc hrun hstep ih =>
      obtain ⟨-, -, -, shown, answer, rfl, hcase⟩ := systemStep_cases hstep
      rw [← List.append_assoc]
      exact (hcase.issuedSince ih).append _

/-- Calls of the device are calls of the system. -/
theorem life_calls {as : List Action} {es : List LifeEvent}
    (hrun : (lifeMachine pf embedded).Run s (as.map .call) es t) :
    ∃ fs, (systemMachine pf).Run s as fs t ∧ es = fs.map .shown := by
  generalize hbs : as.map LifeAction.call = bs at hrun
  induction hrun generalizing as with
  | nil =>
      obtain rfl := List.map_eq_nil_iff.mp hbs
      exact ⟨[], .nil, rfl⟩
  | @snoc bs es gs u v b hrun hstep ih =>
      obtain ⟨as', last, rfl, rfl, hlast⟩ := List.map_eq_append_iff.mp hbs
      obtain ⟨a, rfl, rfl⟩ := List.map_eq_singleton_iff.mp hlast
      obtain ⟨fs, hsystem, rfl⟩ := ih rfl
      obtain ⟨⟨v', fs'⟩, hcall, heq⟩ := Option.map_eq_some_iff.mp hstep
      obtain ⟨rfl, rfl⟩ := Prod.mk.inj heq
      exact ⟨fs ++ fs', hsystem.snoc hcall, List.map_append.symm⟩

/-- No session and no socket. -/
def Device.Fresh (d : Device) : Prop := d.auth = authInit ∧ ∀ i, (d.clients i).active = false

def StaysFresh (d : Device) (_ : List Event) (d' : Device) : Prop := d.Fresh → d'.Fresh

theorem staysFresh_composes : Composes StaysFresh where
  refl _ h := h
  trans h h' hfresh := h' (h hfresh)

/-- The start makes no session. -/
theorem appMain_staysFresh (pf : Platform) (env : Env) (embedded uninit : TlsPair) :
    Does StaysFresh (appMain pf env embedded uninit) := by
  have hR := staysFresh_composes
  have hboard : ∀ {α : Type} (m : BoardM α), Does StaysFresh (onBoard m) := fun m =>
    does_onBoard_of (fun _ _ _ h => h) m
  have hcheck : ∀ err, Does StaysFresh (espErrorCheck err : Handler Unit) := fun err =>
    does_espErrorCheck hR err
  refine (hboard _).bind hR fun _ => (hcheck _).bind hR fun _ => .bind hR ?_ fun _ => ?_
  · exact .bind hR (does_update fun d h => ⟨rfl, h.2⟩) fun _ => does_pure hR _
  refine (hcheck _).bind hR fun _ => (hboard _).bind hR fun _ => (hcheck _).bind hR fun _ => ?_
  refine (hboard _).bind hR fun _ => (hboard _).bind hR fun _ => (hcheck _).bind hR fun _ => ?_
  refine (hboard _).bind hR fun _ => (hcheck _).bind hR fun _ => .bind hR ?_ fun pems => ?_
  · refine .bind hR (does_update fun d h => ⟨h.1, fun _ => rfl⟩) fun _ => ?_
    exact (does_ask hR _).bind hR fun _ => .ite (fun _ => hboard _) fun _ => does_stop hR _
  refine .bind hR ?_ fun pair => .bind hR ?_ fun _ => does_pure hR _
  · exact (does_ask hR _).bind hR fun _ => (hcheck _).bind hR fun _ => does_pure hR _
  · exact (does_ask hR _).bind hR fun _ => (does_ask hR _).bind hR fun _ => does_pure hR _

/-- After a reset, whether the device came up or not, there is no session. -/
theorem reset_fresh {es : List LifeEvent}
    (hstep : (lifeMachine pf embedded).step s (.reset env uninit) = some (t, es)) :
    t.device.Fresh := by
  obtain ⟨gs, -, hstays⟩ := appMain_staysFresh pf env embedded uninit s.device.reset.start
  have hfresh := hstays ⟨rfl, fun _ => rfl⟩
  have ht :
      (System.afterReset env.now (appMain pf env embedded uninit s.device.reset.start)).1 = t :=
    congrArg Prod.fst (Option.some.inj hstep)
  rw [← ht]
  cases hend : appMain pf env embedded uninit s.device.reset.start with
  | ok pair w =>
      rw [final_of_ok hend] at hfresh
      exact hfresh
  | error r w =>
      rw [final_of_error hend] at hfresh
      exact hfresh

theorem issuedSince_of_fresh {d : Device} (h : d.Fresh) : IssuedSince [] d := by
  intro i hi
  rw [h.1] at hi
  cases hi

end

/-! ## Over a lifetime -/

theorem demoSetter_parsesText : demoSetter.ParsesText := by
  have hobject : ∀ members : List (CString × CJson), (∀ member ∈ members, ∀ value,
      member.2 = .string value → value.all (· != 0) = true) → TextFields (.object members) := by
    refine fun members h => textFields_object fun member hmem value hvalue hnul => ?_
    have hall := List.all_eq_true.mp (h member hmem value hvalue) 0 hnul
    cases hall
  intro body json hparse
  obtain ⟨entry, hfind, rfl⟩ := Option.map_eq_some_iff.mp hparse
  have hmem := List.mem_of_find?_eq_some hfind
  simp only [List.mem_cons, List.not_mem_nil, or_false] at hmem
  have hpair : ∀ a b : CString × CJson, ∀ s t : CString, a.2 = .string s → b.2 = .string t →
      s.all (· != 0) = true → t.all (· != 0) = true → TextFields (.object [a, b]) := by
    intro a b s t ha hb hs ht
    refine hobject _ fun member hmember value hvalue => ?_
    simp only [List.mem_cons, List.not_mem_nil, or_false] at hmember
    rcases hmember with rfl | rfl
    · cases ha.symm.trans hvalue
      exact hs
    · cases hb.symm.trans hvalue
      exact ht
  rcases hmem with rfl | rfl | rfl
  · exact hpair _ _ _ _ rfl rfl (by decide) (by decide)
  · exact hpair _ _ _ _ rfl rfl (by decide) (by decide)
  · refine hobject _ fun member hmember value hvalue => ?_
    obtain rfl := List.mem_singleton.mp hmember
    cases hvalue

/-- A device that is off, with the settings of `demoShipped` in flash. -/
def demoUnused : System :=
  { demoShipped with
    running := false
    device := demoShipped.device.setBoard { demoShipped.device.board with
      config := .zero, nvs := fun key => some (demoShipped.device.board.config.saved key) } }

theorem demoUnused_proper : Proper demoSetter.target.serialPortMax demoUnused.device.board.nvs := by
  intro key _ value hvalue
  have hwf : demoShipped.device.board.config.WellFormed := { adminConfig_wellFormed with }
  have hrate : (115200 : UInt32) ∈ validBauds := by decide
  exact ⟨demoShipped.device.board.config, ⟨hwf, rfl, rfl, by decide, by decide, fun _ _ => hrate⟩,
    (Option.some.inj hvalue).symm⟩

def demoReset : LifeAction := .reset (demoEnv 0 []) demoEmbedded

/-- A start, a login and a new password. -/
def demoLife : List LifeAction :=
  [demoReset, .call (demoLogin 10), .call (demoConfigPost 20 setupJson)]

/-- Afterwards the device is out of setup mode. -/
theorem demoLife_run : ∃ t es, (lifeMachine demoSetter demoEmbedded).Run demoUnused demoLife es t ∧
    t.running = true ∧ t.device.board.config.authInitialized = true := by
  obtain ⟨t, es, hrun, hend⟩ := Machine.Run.exists_of_exec
    (M := lifeMachine demoSetter demoEmbedded) (s := demoUnused)
    (p := fun t _ => t.running && t.device.board.config.authInitialized)
    (show ((lifeMachine demoSetter demoEmbedded).exec demoUnused demoLife).any _ = true by
      decide +kernel)
  rw [Bool.and_eq_true] at hend
  exact ⟨t, es, hrun, hend⟩

/-- Whatever happens to a device, the configuration and flash go through a run of `config.c`
that makes accepted calls only. -/
theorem lifetime_refines_config {pf : Platform} {embedded : TlsPair} {s t : System}
    {as : List LifeAction} {es : List LifeEvent} {c : ConfigSystem} (hparse : pf.ParsesText)
    (hrun : (lifeMachine pf embedded).Run s as es t) (hs : s.InStep pf c) :
    ∃ bs gs c', (configMachine pf).Run c bs gs c' ∧ (∀ b ∈ bs, b.Accepted) ∧ t.InStep pf c' := by
  obtain ⟨bs, gs, c', hruns, hbs, ht⟩ :=
    life_run (P := fun _ => True) hparse lasts_true hrun (fun _ _ => trivial)
      (fun _ _ _ _ _ => trivial) hs
  refine ⟨bs, gs, c', hruns, fun b hb => ?_, ht⟩
  have hwithin := hbs b hb
  cases b with
  | set env call => exact hwithin.1
  | init env => trivial
  | reset => trivial

/-- The machine of `config.c` for a device that is off. -/
def System.switchedOff (s : System) : ConfigSystem :=
  ⟨false, { s.device.board with config := .zero }, false, false⟩

theorem System.switchedOff_inStep {pf : Platform} {s : System} (hoff : s.running = false)
    (hstored : Proper pf.target.serialPortMax s.device.board.nvs) : s.InStep pf s.switchedOff where
  up := hoff.symm
  config hrunning := absurd (hoff.symm.trans hrunning) (by decide)
  nvs := rfl
  proper := ⟨AppConfig.wellFormed_zero, hstored, fun hup => (by cases hup)⟩

theorem lifetime_refines_config_demo : ∃ t es,
    (lifeMachine demoSetter demoEmbedded).Run demoUnused demoLife es t ∧
      ∃ bs gs c', (configMachine demoSetter).Run demoUnused.switchedOff bs gs c' ∧
        (∀ b ∈ bs, b.Accepted) ∧ t.InStep demoSetter c' := by
  obtain ⟨t, es, hrun, -⟩ := demoLife_run
  exact ⟨t, es, hrun, lifetime_refines_config demoSetter_parsesText hrun
    (System.switchedOff_inStep rfl demoUnused_proper)⟩

/-- Over the whole life of a device, through writes that are lost and cuts of the power, what
is stored and what is in use are settings a request may set.  The device starts switched off,
and what its flash holds then are such settings already (`hstored`). -/
theorem lifetime_settings_proper {pf : Platform} {embedded : TlsPair} {s t : System}
    {as : List LifeAction} {es : List LifeEvent} (hparse : pf.ParsesText) (hoff : s.running = false)
    (hstored : Proper pf.target.serialPortMax s.device.board.nvs)
    (hrun : (lifeMachine pf embedded).Run s as es t) :
    Proper pf.target.serialPortMax t.device.board.nvs ∧
      (t.running = true → t.device.board.config.Proper pf.target.serialPortMax) := by
  obtain ⟨bs, gs, c', -, -, ht⟩ := life_run (P := fun _ => True) hparse lasts_true hrun
    (fun _ _ => trivial) (fun _ _ _ _ _ => trivial) (System.switchedOff_inStep hoff hstored)
  refine ⟨ht.nvs ▸ ht.proper.stored, fun hrunning => ?_⟩
  exact ht.config hrunning ▸ ht.proper.config (ht.up.trans hrunning)

theorem lifetime_settings_proper_demo : ∃ t es,
    (lifeMachine demoSetter demoEmbedded).Run demoUnused demoLife es t ∧
      t.device.board.config.Proper demoSetter.target.serialPortMax := by
  obtain ⟨t, es, hrun, hrunning, -⟩ := demoLife_run
  exact ⟨t, es, hrun,
    (lifetime_settings_proper demoSetter_parsesText rfl demoUnused_proper hrun).2 hrunning⟩

theorem lasts_keepsPassword (pf : Platform) : Lasts (Env.KeepsPassword pf) := by
  intro env n hkeeps k
  have hlater := hkeeps (n + k)
  rw [← flashTook_later] at hlater
  exact hlater

/-- Over the whole life of a device whose flash keeps the hash, the salt and the version of a
save together or not at all, and the flag only with them: one that is out of setup mode asks
for a password that a request set or that was `known` at the start, when the device was
switched off and its flash held settings a request may set (`hstored`) and, if the flag was on
there, what `config_set_auth` stores for such a password (`hflag`). -/
theorem lifetime_password_chosen {pf : Platform} {embedded : TlsPair} {s t : System}
    {as : List LifeAction} {es : List LifeEvent} {known : CString → Prop} (hparse : pf.ParsesText)
    (hoff : s.running = false) (hstored : Proper pf.target.serialPortMax s.device.board.nvs)
    (hflag : flagStored s.device.board.nvs = true → StoresPassword pf known s.device.board.nvs)
    (hrun : (lifeMachine pf embedded).Run s as es t) (hkeeps : ∀ a ∈ as, a.env.KeepsPassword pf)
    (hrunning : t.running = true) (hinit : t.device.board.config.authInitialized = true) :
    t.device.board.config.AsksFor pf fun password => known password ∨
      ∃ u a, (lifeMachine pf embedded).Takes s as u a ∧ a.Sets pf u.device password := by
  let P : CString → Prop := fun password => known password ∨
    ∃ u a, (lifeMachine pf embedded).Takes s as u a ∧ a.Sets pf u.device password
  obtain ⟨bs, gs, c', hruns, hbs, ht⟩ :=
    life_run (P := P) hparse (lasts_keepsPassword pf) hrun hkeeps
    (fun u a htakes password hsets => .inr ⟨u, a, htakes, hsets⟩)
    (System.switchedOff_inStep hoff hstored)
  have hstart : s.switchedOff.ChosenInv pf P := by
    refine ⟨AppConfig.wellFormed_zero, fun hon => ?_, fun hup => (by cases hup),
      fun hup => (by cases hup)⟩
    obtain ⟨conf, hwf, hasks, hkeys⟩ := hflag hon
    exact ⟨conf, hwf, hasks.mono fun _ => .inl, hkeys⟩
  have hinv : c'.ChosenInv pf P := by
    refine hruns.invariant_of (I := fun c => c.ChosenInv pf P) hbs hstart ?_
    intro u b v fs hwithin hu hstep
    cases b with
    | set env call =>
        exact hu.step (a := .set env call) hwithin.1 ⟨hwithin.2.2, hwithin.2.1⟩ hstep
    | init env => exact hu.step (a := .init env) trivial trivial hstep
    | reset => exact hu.step (a := .reset) trivial trivial hstep
  rw [← ht.config hrunning]
  exact hinv.chosen (ht.up.trans hrunning) ((ht.config hrunning).symm ▸ hinit)

theorem demoLife_keepsPassword : ∀ a ∈ demoLife, a.env.KeepsPassword demoSetter := by
  have hkeeps : ∀ env : Env, env.AllOk → env.KeepsPassword demoSetter := by
    intro env hok n
    simp only [Env.flashTook_of_ok hok]
    decide
  intro a ha
  simp only [demoLife, List.mem_cons, List.not_mem_nil, or_false] at ha
  rcases ha with rfl | rfl | rfl
  · exact hkeeps _ fun _ => rfl
  · exact hkeeps _ fun _ => rfl
  · exact hkeeps _ fun _ => rfl

/-- A device that starts in setup mode lets in who knows the password that a request set. -/
theorem lifetime_password_chosen_demo : ∃ t es password u a,
    (lifeMachine demoSetter demoEmbedded).Run demoUnused demoLife es t ∧
      (lifeMachine demoSetter demoEmbedded).Takes demoUnused demoLife u a ∧
      a.Sets demoSetter u.device password ∧
      t.device.board.config.checkPassword demoSetter.sha256 password = true := by
  obtain ⟨t, es, hrun, hrunning, hinit⟩ := demoLife_run
  have hflag : flagStored demoUnused.device.board.nvs = true →
      StoresPassword demoSetter (fun _ => False) demoUnused.device.board.nvs :=
    fun hflag => (by cases hflag)
  have hasks := lifetime_password_chosen demoSetter_parsesText rfl demoUnused_proper hflag hrun
    demoLife_keepsPassword hrunning hinit
  obtain ⟨password, hfalse | ⟨u, a, htakes, hsets⟩, hcheck⟩ := hasks.accepts
  · exact hfalse.elim
  · exact ⟨t, es, password, u, a, hrun, htakes, hsets, hcheck⟩

/-- Only tokens that were handed out since the last reset are accepted. -/
theorem reset_ends_sessions {pf : Platform} {embedded uninit : TlsPair} {s t : System}
    {env env' : Env}
    {as : List Action} {es : List LifeEvent} {req : Request} {w : World Device Event}
    (hrun : (lifeMachine pf embedded).Run s (.reset env uninit :: as.map .call) es t)
    (hauth : requireAuth env' req t.device.start = .ok () w) :
    ∃ token time, authGetTokenFromRequest env'.heapTail req = some token ∧
      .shown (.issued token time) ∈ es := by
  obtain ⟨u, fs, gs, hreset, hcalls, rfl⟩ := hrun.cons_inv
  obtain ⟨hs, hsystem, rfl⟩ := life_calls hcalls
  have hissued := system_issuedSince hsystem (issuedSince_of_fresh (reset_fresh hreset))
  have hcases := requireAuth_cases env' req t.device.start
  rw [hauth] at hcases
  cases hcases with
  | @valid token htoken hvalid =>
      have hvalidated := authValidateSession_cases env'.monoNow token t.device.auth.sessions
      have hok : (authValidateSession env'.monoNow token t.device.auth.sessions).2 = true := hvalid
      generalize (authValidateSession env'.monoNow token t.device.auth.sessions).1 = sessions
        at hvalidated
      rw [hok] at hvalidated
      cases hvalidated with
      | accepted _ hi htoken' =>
          obtain ⟨time, hmem⟩ := mem_issuedTokens.mp (htoken' ▸ hissued _ hi)
          refine ⟨token, time, htoken, List.mem_append_right _ ?_⟩
          exact List.mem_map.mpr ⟨_, hmem, rfl⟩

/-- The token of a login after the reset. -/
theorem reset_ends_sessions_login : ∃ t es, (lifeMachine demoSetter demoEmbedded).Run demoUnused
    (demoReset :: [demoLogin 10].map .call) es t ∧
      ∃ token time, .shown (.issued token time) ∈ es := by
  let probe : Request := { demoRequest .sysinfo 0 with authorization := some demoBearer }
  obtain ⟨t, es, hrun, hopens⟩ := Machine.Run.exists_of_exec
    (M := lifeMachine demoSetter demoEmbedded) (s := demoUnused)
    (p := fun t _ => t.device.validates (demoEnv 20 []) demoToken)
    (show ((lifeMachine demoSetter demoEmbedded).exec demoUnused
      (demoReset :: [demoLogin 10].map .call)).any _ = true by decide +kernel)
  have hcases := requireAuth_cases (demoEnv 20 []) probe t.device.start
  have htoken : authGetTokenFromRequest (demoEnv 20 []).heapTail probe = some demoToken := by
    decide +kernel
  generalize hend : requireAuth (demoEnv 20 []) probe t.device.start = result at hcases
  cases hcases with
  | absent hnone => cases htoken.symm.trans hnone
  | invalid htoken' hinvalid =>
      obtain rfl := Option.some.inj (htoken.symm.trans htoken')
      cases hopens.symm.trans hinvalid
  | valid =>
      obtain ⟨token, time, -, hmem⟩ := reset_ends_sessions hrun hend
      exact ⟨t, es, hrun, token, time, hmem⟩

end WebTerminal
