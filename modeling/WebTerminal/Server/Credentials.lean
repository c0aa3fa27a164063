import WebTerminal.Server.IdleExpiry

/-!
# Changing the credentials

A credential change is made on three conditions and is then complete: the new
credentials are what a login is compared with, and nothing that was opened with
the old ones is left.  When a condition fails nobody notices the attempt.
-/

set_option autoImplicit false

namespace WebTerminal

open Proc

/-- The body asks for a change to `newPass` and is entitled to it. -/
structure EntitledChange (pf : Platform) (json : CJson) (conf : AppConfig) (newPass : CString) :
    Prop where
  password : stringField json "new_password" = some newPass
  long : minPasswordLen ≤ newPass.length
  current : ∃ current, stringField json "current_password" = some current ∧
    conf.checkPassword pf.sha256 current = true
  username : ∀ username, stringField json "username" = some username →
    1 ≤ username.length ∧ username.length ≤ configAuthUserMaxLen

/-- The device knows only the new credentials. -/
structure CredentialsReplaced (pf : Platform) (env : Env) (username newPass : CString)
    (t : System) : Prop where
  config : ∃ salt : Vector UInt8 configAuthSaltLen,
    t.device.board.config.authUser = username ∧ t.device.board.config.authSalt = salt.toList ∧
      t.device.board.config.authHash = computeHash pf.sha256 newPass salt.toList
  initialized : t.device.board.config.authInitialized = true
  version : t.device.board.config.authHashVer = 1
  /-- unless the flash driver refuses -/
  stored : (∀ n, env.err n = .ok) → ∀ key ∈ savedKeys pf.target.serialPortMax,
    t.device.board.nvs key = some (t.device.board.config.saved key)
  login : ∀ now random ip, (authIsLockedOut now ip t.device.auth.hosts).2 = false →
    (authLogin pf.sha256 t.device.board.config now random username newPass ip t.device.auth).2 =
      some (generateToken random)
  clients : ∀ i, (t.device.clients i).active = false
  /-- no token validates again before it is issued again -/
  tokens : ∀ token as es u, (systemMachine pf).Run t as es u → (∀ time, .issued token time ∉ es) →
    ∀ env, u.device.validates env token = false

/-- Nothing has come of an attempt, apart from the check of the caller's token. -/
structure CredentialsUnaffected (env : Env) (d d' : Device) : Prop where
  kept : KeepsCredentials d.board [] d'.board
  auth : ∃ token, d.validates env token = true ∧ d'.auth = (d.checked env token).auth
  valid : ∀ token, d'.validates env token = d.validates env token
  clients : d'.clients = d.clients

/-- What a request that reaches the credentials does about them. -/
structure CredentialChange (pf : Platform) (env : Env) (json : CJson) (s : System)
    (es : List Event) (t : System) : Prop where
  replaced : ∀ newPass, EntitledChange pf json s.device.board.config newPass →
    t.running = true → .credentialsChanged ∈ es ∧
      CredentialsReplaced pf env (newUsername json s.device.board.config) newPass t
  /-- flash does not open and the device resets: it boots with the old credentials -/
  interrupted : ∀ newPass, EntitledChange pf json s.device.board.config newPass →
    t.running = false → ∀ key : NvsKey, key.ofCredentials = true →
      t.device.board.nvs key = s.device.board.nvs key ∨
        t.device.board.nvs key = some (s.device.board.config.saved key)
  unaffected : (∀ newPass, ¬EntitledChange pf json s.device.board.config newPass) →
    .credentialsChanged ∉ es ∧ CredentialsUnaffected env s.device t.device

theorem currentPasswordOk_iff {pf : Platform} {json : CJson} {conf : AppConfig} :
    currentPasswordOk pf json conf = true ↔ ∃ current,
      stringField json "current_password" = some current ∧
        conf.checkPassword pf.sha256 current = true := by
  unfold currentPasswordOk
  cases stringField json "current_password" <;> simp

theorem usernameRefused_iff {json : CJson} :
    usernameRefused json = false ↔ ∀ username, stringField json "username" = some username →
      1 ≤ username.length ∧ username.length ≤ configAuthUserMaxLen := by
  unfold usernameRefused
  cases stringField json "username" with
  | none => simp
  | some username =>
      simp only [decide_eq_false_iff_not, Option.some.injEq, forall_eq']
      omega

/-- The checks of the handler are the conditions of the change. -/
theorem entitledChange_iff {pf : Platform} {json : CJson} {conf : AppConfig} {newPass : CString} :
    EntitledChange pf json conf newPass ↔ credentialsAccepted pf json conf = true ∧
      stringField json "new_password" = some newPass := by
  constructor
  · intro h
    exact ⟨(credentialsAccepted_iff h.password).mpr
      ⟨h.long, currentPasswordOk_iff.mpr h.current, usernameRefused_iff.mpr h.username⟩, h.password⟩
  · rintro ⟨haccepted, hpass⟩
    obtain ⟨hlong, hcurrent, hname⟩ := (credentialsAccepted_iff hpass).mp haccepted
    exact ⟨hpass, hlong, currentPasswordOk_iff.mp hcurrent, usernameRefused_iff.mp hname⟩

/-- The conditions are the same under the same credentials. -/
theorem credentialsAccepted_congr {pf : Platform} {json : CJson} {conf conf' : AppConfig}
    (h : conf.SameCredentials conf') :
    credentialsAccepted pf json conf' = credentialsAccepted pf json conf := by
  unfold credentialsAccepted currentPasswordOk
  simp only [h.checkPassword]

/-! ## The user name fits its buffer -/

/-- The user name of an entitled change. -/
theorem length_newUsername {pf : Platform} {json : CJson} {conf : AppConfig} {newPass : CString}
    (h : EntitledChange pf json conf newPass)
    (hnamed : conf.authUser.length ≤ configAuthUserMaxLen) :
    (newUsername json conf).length ≤ configAuthUserMaxLen := by
  unfold newUsername
  cases husername : stringField json "username" with
  | none => exact hnamed
  | some username => exact (h.username username husername).2

theorem CallCase.named {pf : Platform} {env : Env} {d d' : Device} {call : Call} {es : List Event}
    (hcase : CallCase pf env d call d' es)
    (hnamed : d.board.config.authUser.length ≤ configAuthUserMaxLen) :
    d'.board.config.authUser.length ≤ configAuthUserMaxLen := by
  cases hcase with
  | checked hpre => exact hpre.board ▸ hnamed
  | worked _ _ hworked => exact hworked.named hnamed
  | revoked _ _ hworked => exact hworked.named hnamed
  | registered hpre => exact hpre.board ▸ hnamed
  | relayed _ _ hkeeps => exact hkeeps.config.authUser ▸ hnamed
  | flushed => exact flush_board env _ d ▸ hnamed
  | _ => exact hnamed

theorem named_run {pf : Platform} {s t : System} {as : List Action} {es : List Event}
    (hs : s.Init) (hrun : (systemMachine pf).Run s as es t) :
    t.device.board.config.authUser.length ≤ configAuthUserMaxLen :=
  hrun.invariant (I := fun t => t.device.board.config.authUser.length ≤ configAuthUserMaxLen)
    hs.named fun u a v fs hu hstep => by
      obtain ⟨-, -, -, shown, answer, -, hcase⟩ := systemStep_cases hstep
      exact hcase.named hu

/-! ## Tokens -/

/-- The refresh of one session does not change whose turn it is. -/
theorem findToken_refresh (token : CString) (i : Fin authMaxSessions) (now : ℕ)
    (sessions : Sessions) :
    findToken token (Function.update sessions i { sessions i with lastActivity := now }) =
      findToken token sessions := by
  unfold findToken
  congr 1
  funext j
  by_cases hj : j = i
  · subst hj
    simp
  · rw [Function.update_of_ne hj]

/-- After a token was accepted the same tokens validate. -/
theorem validates_checked {env : Env} {token : CString} {d : Device}
    (hvalid : d.validates env token = true) (other : CString) :
    (d.checked env token).validates env other = d.validates env other := by
  have hcases := authValidateSession_cases env.monoNow token d.auth.sessions
  unfold Device.validates Device.checked at *
  rw [Device.setSessions_sessions]
  rw [hvalid] at hcases
  generalize (authValidateSession env.monoNow token d.auth.sessions).1 = sessions at hcases
  cases hcases with
  | @accepted i _ hi htoken hidle =>
      unfold authValidateSession
      rw [findToken_refresh]
      split
      · rfl
      cases hfind : findToken other d.auth.sessions with
      | none => rfl
      | some j =>
          by_cases hj : j = i
          · subst hj
            have hfresh : Session.idle env.monoNow
                { d.auth.sessions j with lastActivity := env.monoNow } = false := by
              simp [Session.idle]
            simp [hidle, hfresh]
          · simp only [Function.update_of_ne hj]
            split <;> rfl

/-- No active session has the token. -/
def Gone (token : CString) (d : Device) : Prop :=
  ∀ i, (d.auth.sessions i).active = true → (d.auth.sessions i).token ≠ token

theorem Gone.dead {token : CString} {d : Device} (h : Gone token d) (env : Env) :
    ¬d.lives env token := by
  rintro ⟨i, htoken, hlive⟩
  simp only [Session.live, Bool.and_eq_true] at hlive
  exact h i hlive.1 htoken

theorem gone_revoked (token : CString) (d : Device) : Gone token d.revoked := by
  intro i hi
  simp [Device.revoked, authInvalidateAllSessions] at hi

/-- A token that is gone comes back only by being issued. -/
theorem gone_run {pf : Platform} {s t u : System} {pre as : List Action} {h es : List Event}
    {token : CString} (hs : s.Init) (hpre : (systemMachine pf).Run s pre h t)
    (hrun : (systemMachine pf).Run t as es u) (hgone : Gone token t.device)
    (hissued : ∀ time, .issued token time ∉ es) : Gone token u.device := by
  induction hrun with
  | nil => exact hgone
  | @snoc as es fs v u a hrun hstep ih =>
      have hv := ih fun time hmem => hissued time (List.mem_append_left _ hmem)
      obtain ⟨-, -, -, shown, answer, rfl, hcase⟩ := systemStep_cases hstep
      have hspared : Spares pf a.env token v.device a.call :=
        ⟨fun hlives => absurd hlives (hv.dead _), fun hlives => absurd hlives (hv.dead _)⟩
      have hunused := hcase.unused hspared fun time hmem => hissued time (by simp [hmem])
      intro i hi htoken
      rcases (hcase.kept (SocketsInv.run hs (hpre.append hrun)).tokens).sessions i hi with
        heq | ⟨-, haccepted | hissued⟩
      · rw [heq] at hi htoken
        exact hv i hi htoken
      · exact (hunused _).1 (htoken ▸ haccepted)
      · exact (hunused _).2 (htoken ▸ hissued)

/-! ## The request -/

/-- A request that reaches the credentials carried a valid token, and up to there
it has done something to the board at most. -/
theorem configPostUpToCredentials_ok {pf : Platform} {env : Env} {req : Request} {d : Device}
    {json : CJson} {w : World Device Event}
    (h : configPostUpToCredentials pf env req d.start = .ok json w) :
    ∃ token board effects, d.validates env token = true ∧
      w.state = (d.checked env token).setBoard board ∧
      w.shown = .accepted token env.now :: effects.map .effect ∧
      KeepsCredentials d.board effects board := by
  obtain ⟨json', v, hread, hrest⟩ := of_bind_ok h
  obtain ⟨_, w', happly, hpure⟩ := of_bind_ok hrest
  cases hpure
  have hcases := readConfigBody_cases pf env req d.start
  rw [hread] at hcases
  cases hcases with
  | @complete token _ _ htoken hvalid hstate hshown =>
      obtain ⟨board, effects, hset, heffects, hkeeps⟩ :=
        onBoard_final (applySettings_keeps pf env json) v
      rw [final_of_ok happly, hstate] at hset
      rw [final_of_ok happly, hshown] at heffects
      rw [hstate] at hkeeps
      exact ⟨token, board, effects, hvalid, hset, heffects, hkeeps⟩

/-- The credentials just set are accepted. -/
theorem credentialsOk_setAuth {username : CString} (hname : username.length ≤ configAuthUserMaxLen)
    (sha256 : Digest) (salt : Vector UInt8 configAuthSaltLen) (password : CString)
    (conf : AppConfig) :
    credentialsOk sha256 (conf.setAuth sha256 salt username password) username password = true := by
  have huser : (conf.setAuth sha256 salt username password).authUser = username :=
    strncpy_eq_self (by omega)
  simp [credentialsOk, huser, AppConfig.checkPassword_setAuth]

/-- New credentials open a session from everywhere but an address that is locked out. -/
theorem authLogin_setAuth {sha256 : Digest} {conf : AppConfig}
    {salt : Vector UInt8 configAuthSaltLen} {username password : CString} {auth : AuthTables}
    (hname : username.length ≤ configAuthUserMaxLen) (now : ℕ)
    (random : Vector UInt8 authSessionTokenLen) (ip : Option CString)
    (hlocked : (authIsLockedOut now ip auth.hosts).2 = false) :
    (authLogin sha256 (conf.setAuth sha256 salt username password) now random username password ip
      auth).2 = some (generateToken random) := by
  have hcases := authLogin_cases sha256 (conf.setAuth sha256 salt username password) now random
    username password ip auth
  generalize (authLogin sha256 (conf.setAuth sha256 salt username password) now random username
    password ip auth).1 = auth' at hcases
  generalize (authLogin sha256 (conf.setAuth sha256 salt username password) now random username
    password ip auth).2 = token at hcases ⊢
  cases hcases with
  | refused h => rw [hlocked] at h; cases h
  | failed _ h => rw [credentialsOk_setAuth hname] at h; cases h
  | accepted => rfl

/-- The credentials of the new configuration. -/
theorem credentialsReplaced {pf : Platform} {env : Env} {s₀ t : System} {as : List Action}
    {h : List Event} {d : Device} {conf : AppConfig} {board : Board} {username newPass : CString}
    {salt : Vector UInt8 configAuthSaltLen} (hs : s₀.Init)
    (hrun : (systemMachine pf).Run s₀ as h t) (hname : username.length ≤ configAuthUserMaxLen)
    (hconf : board.config = conf.setAuth pf.sha256 salt username newPass)
    (hstored : (∀ n, env.err n = .ok) → ∀ key ∈ savedKeys pf.target.serialPortMax,
      board.nvs key = some (board.config.saved key))
    (hstate : t.device = (d.setBoard board).revoked) :
    CredentialsReplaced pf env username newPass t where
  config := by
    refine ⟨salt, ?_⟩
    rw [hstate]
    simp only [Device.revoked, Device.setBoard_board, hconf]
    exact ⟨strncpy_eq_self (by omega), rfl, rfl⟩
  initialized := by
    rw [hstate]
    exact congrArg AppConfig.authInitialized hconf
  version := by
    rw [hstate]
    exact congrArg AppConfig.authHashVer hconf
  stored := by
    rw [hstate]
    exact hstored
  login now random ip hlocked := by
    have hboard : t.device.board.config = conf.setAuth pf.sha256 salt username newPass := by
      rw [hstate]
      exact hconf
    rw [hboard]
    exact authLogin_setAuth hname now random ip hlocked
  clients i := by
    rw [hstate]
    rfl
  tokens token bs es u hafter hissued env' := by
    have hgone : Gone token t.device := hstate ▸ gone_revoked token _
    exact not_validates_of_dead ((gone_run hs hrun hafter hgone hissued).dead env')

/-- A request that reaches the credentials replaces them exactly when it is
entitled to, and then revokes everything they had opened. -/
theorem credential_change {pf : Platform} {s₀ s t : System} {as : List Action}
    {h es : List Event} {a : Action} {req : Request} {json : CJson} {w : World Device Event}
    (hs : s₀.Init) (hrun : (systemMachine pf).Run s₀ as h s)
    (hstep : (systemMachine pf).step s a = some (t, es)) (hcall : a.call = .request req)
    (hroute : req.route = .configPost)
    (hreach : configPostUpToCredentials pf a.env req s.device.start = .ok json w) :
    CredentialChange pf a.env json s es t := by
  obtain ⟨token, board, effects, hvalid, hstate, hshown, hkeeps⟩ :=
    configPostUpToCredentials_ok hreach
  have hhandler : callHandler pf a.env a.call s.device.start =
      (changeCredentials pf a.env json >>= fun _ =>
        (pure (.ok okBody none) : Handler Response)) w := by
    rw [hcall, callHandler_configPost pf a.env hroute]
    exact bind_ok hreach
  obtain ⟨-, -, -, hrunning, hdevice, hes⟩ := systemStep_some hstep
  unfold final at hdevice hes
  rw [hhandler] at hrunning hdevice hes
  -- the credentials checked are those before the request
  have hconf : s.device.board.config.SameCredentials w.state.board.config := by
    rw [hstate]
    exact hkeeps.config
  have hname : newUsername json w.state.board.config = newUsername json s.device.board.config := by
    unfold newUsername
    rw [hconf.authUser]
  have hentitled : ∀ newPass, EntitledChange pf json s.device.board.config newPass ↔
      credentialsAccepted pf json w.state.board.config = true ∧
        stringField json "new_password" = some newPass := by
    intro newPass
    rw [credentialsAccepted_congr hconf]
    exact entitledChange_iff
  have hunaffected : CredentialsUnaffected a.env s.device w.state := by
    rw [hstate]
    exact ⟨⟨hkeeps.config, hkeeps.stored⟩, ⟨token, hvalid, rfl⟩, validates_checked hvalid, rfl⟩
  have hquiet : .credentialsChanged ∉ w.shown := by
    rw [hshown]
    simp
  have hcases := changeCredentials_cases pf a.env json w
  generalize hchange : changeCredentials pf a.env json w = result at hcases
  cases hcases with
  | absent hnone =>
      rw [bind_ok hchange] at hrunning hdevice hes
      refine ⟨fun newPass hchange => ?_, fun newPass hchange => ?_, fun _ => ⟨?_, ?_⟩⟩
      · cases hnone.symm.trans hchange.password
      · cases hnone.symm.trans hchange.password
      · simp [hes, hquiet]
      · rw [hdevice]
        exact hunaffected
  | refused hrefused status message =>
      rw [bind_error hchange] at hrunning hdevice hes
      have hnot : ∀ newPass, ¬EntitledChange pf json s.device.board.config newPass := by
        intro newPass hchange
        cases hrefused.symm.trans ((hentitled newPass).mp hchange).1
      refine ⟨fun newPass hchange => absurd hchange (hnot newPass),
        fun newPass hchange => absurd hchange (hnot newPass), fun _ => ⟨?_, ?_⟩⟩
      · simp [hes, hquiet]
      · rw [hdevice]
        exact hunaffected
  | @aborted v board' newPass salt haccepted hpass honly hnvs hset hv hw =>
      rw [bind_error hchange] at hrunning hdevice hes
      refine ⟨fun _ _ hrun => ?_, fun _ _ _ key hkey => ?_, fun hnot => ?_⟩
      · cases hrunning.symm.trans hrun
      · have hkept := hunaffected.kept.stored key hkey
        have hnvs' : t.device.board.nvs = w.state.board.nvs := by
          rw [hdevice]
          show v.state.board.nvs = _
          rw [hv]
          exact hnvs
        rwa [hnvs']
      · exact absurd ((hentitled newPass).mpr ⟨haccepted, hpass⟩) (hnot newPass)
  | @changed v board' newPass salt haccepted hpass honly hset hstored hv hw =>
      rw [bind_ok hchange] at hrunning hdevice hes
      refine ⟨fun newPass' hchange _ => ⟨?_, ?_⟩, fun _ _ hrun => ?_, fun hnot => ?_⟩
      · rw [hes]
        show _ ∈ v.shown ++ _
        simp [hw]
      · obtain rfl := Option.some.inj (hpass.symm.trans hchange.password)
        have hlength : (newUsername json w.state.board.config).length ≤ configAuthUserMaxLen := by
          rw [hname]
          exact length_newUsername hchange (named_run hs hrun)
        rw [hname] at hset hlength
        exact credentialsReplaced hs (hrun.snoc hstep) hlength hset hstored (hdevice.trans hv)
      · cases hrunning.symm.trans hrun
      · exact absurd ((hentitled newPass).mpr ⟨haccepted, hpass⟩) (hnot newPass)

/-- The body of a credential change. -/
def changeJson : CString :=
  cstr "\x7b\"new_password\":\"new-pass\",\"current_password\":\"admin-pass\"\x7d"

/-- `changeJson`, parsed. -/
def changeFields : CJson :=
  .object [(cstr "new_password", .string (cstr "new-pass")),
    (cstr "current_password", .string (cstr "admin-pass"))]

/-- A platform that parses logins and this change. -/
def demoChanger : Platform := demoPlatform [(loginJson, loginFields), (changeJson, changeFields)]

/-- The change is made in a run. -/
theorem credential_change_admin :
    ∃ h s es t json, (systemMachine demoChanger).Run demoSystem [demoLogin 10] h s ∧
      (systemMachine demoChanger).step s (demoConfigPost 20 changeJson) = some (t, es) ∧
      t.running = true ∧ .credentialsChanged ∈ es ∧
      CredentialChange demoChanger (demoEnv 20 changeJson) json s es t := by
  obtain ⟨s, h, t, es, hlogin, hpost, hstart, hend⟩ := Machine.Run.exists_of_exec_exec
    (M := systemMachine demoChanger) (s := demoSystem)
    (p := fun s _ =>
      match configPostUpToCredentials demoChanger (demoEnv 20 changeJson)
        { demoRequest .configPost changeJson.length with authorization := some demoBearer }
        s.device.start with
      | .ok _ _ => true
      | .error _ _ => false)
    (q := fun t es => t.running && decide (.credentialsChanged ∈ es))
    (show ((systemMachine demoChanger).exec demoSystem [demoLogin 10]).any (fun r => _ &&
      ((systemMachine demoChanger).exec r.1 [demoConfigPost 20 changeJson]).any _) = true by
      decide +kernel)
  simp only [Bool.and_eq_true, decide_eq_true_eq] at hend
  cases hreach : configPostUpToCredentials demoChanger (demoEnv 20 changeJson)
      { demoRequest .configPost changeJson.length with authorization := some demoBearer }
      s.device.start with
  | error stop w => simp [hreach] at hstart
  | ok json w =>
      have hstep := hpost.single_inv
      exact ⟨h, s, es, t, json, hlogin, hstep, hend.1, hend.2,
        credential_change demoSystem_init hlogin hstep rfl rfl hreach⟩

end WebTerminal
