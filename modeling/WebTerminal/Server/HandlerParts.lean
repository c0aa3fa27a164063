import WebTerminal.Server.Keeps

/-!
# Parts of handlers

What the pieces that handlers are made of do to the device: the checks at their
start, the board procedures inside them, a login, and the two ends of
`handle_config_post`.
-/

set_option autoImplicit false

namespace WebTerminal

open Proc

/-- `auth_validate_session(token)` would return true. -/
def Device.validates (env : Env) (token : CString) (d : Device) : Bool :=
  (authValidateSession env.monoNow token d.auth.sessions).2

/-- After `auth_validate_session(token)`. -/
def Device.checked (env : Env) (token : CString) (d : Device) : Device :=
  d.setSessions (authValidateSession env.monoNow token d.auth.sessions).1

/-- After a credential change. -/
def Device.revoked (d : Device) : Device where
  auth := { d.auth with sessions := authInvalidateAllSessions d.auth.sessions }
  clients := fun i => { d.clients i with active := false }
  board := d.board

@[simp] theorem Device.checked_board (env : Env) (token : CString) (d : Device) :
    (d.checked env token).board = d.board := rfl

@[simp] theorem Device.checked_clients (env : Env) (token : CString) (d : Device) :
    (d.checked env token).clients = d.clients := rfl

@[simp] theorem Device.checked_setClients (env : Env) (token : CString) (clients : WsClients)
    (d : Device) :
    (d.setClients clients).checked env token = (d.checked env token).setClients clients := rfl

/-- The tokens a request is checked with. -/
def Request.offers (pf : Platform) (env : Env) (req : Request) (token : CString) : Prop :=
  authGetTokenFromRequest env.heapTail req = some token ∨
    req.route = .ws ∧ req.queryToken pf = some token

/-- A board on which at most the credentials have changed.  The stored copy of
another setting is as before or holds the setting in effect. -/
structure CredentialsOnly (board board' : Board) : Prop where
  rest : board' = { board with config := board'.config, nvs := board'.nvs }
  settings : board.config.SameSettings board'.config
  stored : ∀ key : NvsKey, key.ofCredentials = false →
    board'.nvs key = board.nvs key ∨ board'.nvs key = some (board.config.saved key)

/-! ## Quiet parts -/

/-- Nothing is changed and nothing is shown. -/
def Quiet {σ ε : Type} (s : σ) (es : List ε) (t : σ) : Prop := t = s ∧ es = []

theorem quiet_composes {σ ε : Type} : Composes (Quiet (σ := σ) (ε := ε)) where
  refl s := ⟨rfl, rfl⟩
  trans h h' := ⟨h'.1.trans h.1, by rw [h.2, h'.2]; rfl⟩

/-- Where a quiet procedure ends differs only in the questions asked. -/
theorem Quiet.final {σ ε ρ α : Type} {m : Proc σ ε ρ α} (h : Does Quiet m) (w : World σ ε) :
    (m.final w).state = w.state ∧ (m.final w).shown = w.shown := by
  obtain ⟨es, hes, hstate, hnone⟩ := h w
  exact ⟨hstate, by rw [hes, hnone, List.append_nil]⟩

/-- The world after a validation. -/
def checkedWorld (env : Env) (token : CString) (w : World Device Event) : World Device Event :=
  { state := w.state.checked env token, asked := w.asked,
    shown := w.shown ++ [validation token env.now (w.state.validates env token)] }

theorem validateSession_apply (env : Env) (token : CString) (w : World Device Event) :
    validateSession env token w = .ok (w.state.validates env token) (checkedWorld env token w) :=
  rfl

/-- How `require_auth` ends. -/
inductive AuthCase (env : Env) (req : Request) (w : World Device Event) :
    EStateM.Result Stop (World Device Event) Unit → Prop
  | absent (hnone : authGetTokenFromRequest env.heapTail req = none) (stop : Stop) :
      AuthCase env req w (.error stop w)
  | invalid {token : CString} (htoken : authGetTokenFromRequest env.heapTail req = some token)
      (hinvalid : w.state.validates env token = false) (stop : Stop) :
      AuthCase env req w (.error stop (checkedWorld env token w))
  | valid {token : CString} (htoken : authGetTokenFromRequest env.heapTail req = some token)
      (hvalid : w.state.validates env token = true) :
      AuthCase env req w (.ok () (checkedWorld env token w))

theorem requireAuth_cases (env : Env) (req : Request) (w : World Device Event) :
    AuthCase env req w (requireAuth env req w) := by
  unfold requireAuth authCheckRequest
  cases htoken : authGetTokenFromRequest env.heapTail req with
  | none => exact .absent htoken _
  | some token =>
      rw [bind_ok (validateSession_apply env token w)]
      cases hvalid : w.state.validates env token with
      | true => exact .valid htoken hvalid
      | false => exact .invalid htoken hvalid _

theorem requirePasswordChanged_apply (w : World Device Event) :
    requirePasswordChanged w =
      if w.state.board.config.authInitialized then .ok () w
      else .error (.respond (.error 403 setupLockedMsg)) w := by
  unfold requirePasswordChanged
  rw [bind_ok (read_apply _ _)]
  split <;> rfl

/-- A procedure of the board inside the device changes nothing but the board. -/
theorem does_onBoard {α : Type} {m : BoardM α} {Q : Board → List Effect → Board → Prop}
    (hm : Does Q m) :
    Does (fun d es d' => ∃ board effects, es = effects.map Event.effect ∧ d' = d.setBoard board ∧
      Q d.board effects board) (onBoard m) :=
  Does.zoom hm fun _ effects board h => ⟨board, effects, rfl, rfl, h⟩

theorem onBoard_ok {α : Type} {m : BoardM α} {w : World Device Event} {v : World Board Effect}
    {a : α} (h : m ⟨w.state.board, w.asked, []⟩ = .ok a v) :
    onBoard m w = .ok a
      ⟨w.state.setBoard v.state, v.asked, w.shown ++ v.shown.map .effect⟩ := by
  unfold onBoard zoom
  rw [h]

theorem onBoard_error {α : Type} {m : BoardM α} {w : World Device Event} {v : World Board Effect}
    {r : Stop} (h : m ⟨w.state.board, w.asked, []⟩ = .error r v) :
    onBoard m w = .error r
      ⟨w.state.setBoard v.state, v.asked, w.shown ++ v.shown.map .effect⟩ := by
  unfold onBoard zoom
  rw [h]

theorem onBoard_final {α : Type} {m : BoardM α} {Q : Board → List Effect → Board → Prop}
    (hm : Does Q m) (w : World Device Event) :
    ∃ board effects, ((onBoard m).final w).state = w.state.setBoard board ∧
      ((onBoard m).final w).shown = w.shown ++ effects.map .effect ∧
      Q w.state.board effects board := by
  obtain ⟨es, hes, board, effects, rfl, hstate, hQ⟩ := does_onBoard hm w
  exact ⟨board, effects, hstate, hes, hQ⟩

/-- After a quiet part of a handler the world is as it was, stopped or not. -/
theorem Quiet.bind_cases {σ ε ρ α β : Type} {m : Proc σ ε ρ α} (h : Does Quiet m)
    (f : α → Proc σ ε ρ β) (w : World σ ε) :
    ∃ v, v.state = w.state ∧ v.shown = w.shown ∧
      (Proc.final (m >>= f) w = v ∨
        ∃ a, m w = .ok a v ∧ Proc.final (m >>= f) w = (f a).final v) := by
  have hfinal := Quiet.final h w
  rcases final_bind_cases m f w with ⟨r, v, hrun, heq⟩ | ⟨a, v, hrun, heq⟩
  · rw [final_of_error hrun] at hfinal
    exact ⟨v, hfinal.1, hfinal.2, .inl heq⟩
  · rw [final_of_ok hrun] at hfinal
    exact ⟨v, hfinal.1, hfinal.2, .inr ⟨a, hrun, heq⟩⟩

/-- A login either fails, which concerns the failed-login counters alone, or
opens a session. -/
theorem loginSession_cases (pf : Platform) (env : Env)
    (random : Vector UInt8 authSessionTokenLen) (username password : CString)
    (ip : Option CString) (w : World Device Event) :
    ∃ token v, loginSession pf env random username password ip w = .ok token v ∧
      ((∃ hosts, v.state = w.state.setHosts hosts ∧ v.shown = w.shown) ∨
        token.isSome = true ∧ ∃ hosts, v.state = (w.state.setHosts hosts).setSessions
            (openSession env.monoNow random w.state.auth.sessions).1 ∧
          v.shown = w.shown ++ [.issued (generateToken random) env.now]) := by
  have hcases := authLogin_cases pf.sha256 w.state.board.config env.monoNow random username
    password ip w.state.auth
  cases hlogin : authLogin pf.sha256 w.state.board.config env.monoNow random username password ip
      w.state.auth with
  | mk auth token =>
      rw [hlogin] at hcases
      refine ⟨token, ⟨{ w.state with auth := auth }, w.asked,
        w.shown ++ token.toList.map (.issued · env.now)⟩, ?_, ?_⟩
      · unfold loginSession
        rw [act_apply]
        simp only [hlogin]
      · cases hcases with
        | refused => exact .inl ⟨_, rfl, by simp⟩
        | failed => exact .inl ⟨_, rfl, by simp⟩
        | accepted => exact .inr ⟨rfl, _, rfl, rfl⟩

/-! ## Changing the credentials -/

theorem CredentialsOnly.refl (board : Board) : CredentialsOnly board board :=
  ⟨rfl, .refl board.config, fun _ _ => .inl rfl⟩

theorem CredentialsOnly.trans {a b c : Board} (h : CredentialsOnly a b)
    (h' : CredentialsOnly b c) : CredentialsOnly a c := by
  refine ⟨by rw [h'.rest, h.rest], h.settings.trans h'.settings, fun key hkey => ?_⟩
  rcases h'.stored key hkey with hstored | hstored
  · rw [hstored]
    exact h.stored key hkey
  · rw [hstored, h.settings.saved hkey]
    exact .inr rfl

theorem CredentialsOnly.wifi {board board' : Board} (honly : CredentialsOnly board board') :
    board'.wifi = board.wifi := by
  rw [honly.rest]

theorem CredentialsOnly.tz {board board' : Board} (honly : CredentialsOnly board board') :
    board'.tz = board.tz := by
  rw [honly.rest]

/-- Saving a configuration with the same settings changes at most the credentials. -/
theorem Saved.credentialsOnly {board board' : Board} {conf : AppConfig} {es : List Effect}
    (h : Saved { board with config := conf } es board') (hsame : board.config.SameSettings conf) :
    CredentialsOnly board board' ∧ board'.config = conf := by
  have hconf : board'.config = conf := congrArg Board.config h.rest
  refine ⟨⟨?_, hconf ▸ hsame, fun key hkey => ?_⟩, hconf⟩
  · calc
      board' = { board with config := conf, nvs := board'.nvs } := h.rest
      _ = { board with config := board'.config, nvs := board'.nvs } := by rw [hconf]
  · rcases h.keys key with hstored | hstored
    · exact .inl hstored
    · exact .inr (hstored.trans (congrArg some (hsame.saved hkey)))

/-- How `config_set_auth` ends: it installs the credentials, and aborts when flash
does not open. -/
theorem configSetAuth_cases (pf : Platform) (env : Env) (username password : CString)
    (w : World Board Effect) :
    ∃ salt v, v.shown = w.shown ∧ CredentialsOnly w.state v.state ∧
      v.state.config = w.state.config.setAuth pf.sha256 salt username password ∧
      ((∀ n, env.err n = .ok) → ∀ key ∈ savedKeys pf.target.serialPortMax,
        v.state.nvs key = some (v.state.config.saved key)) ∧
      (configSetAuth pf env username password w = .error .abort v ∧ v.state.nvs = w.state.nvs ∨
        ∃ err, configSetAuth pf env username password w = .ok err v) := by
  let conf := w.state.config.setAuth pf.sha256 (env.saltBytes w.asked) username password
  let w₁ : World Board Effect := ⟨{ w.state with config := conf }, w.asked + 1, w.shown⟩
  have hset : configSetAuth pf env username password w = saveToNvs pf env w₁ := rfl
  obtain ⟨es, hes, hsaved⟩ := saveToNvs_does pf env w₁
  obtain ⟨honly, hconf⟩ := hsaved.credentialsOnly
    (AppConfig.sameSettings_setAuth pf.sha256 _ username password w.state.config)
  rw [hsaved.silent, List.append_nil] at hes
  refine ⟨env.saltBytes w.asked, (saveToNvs pf env).final w₁, hes, honly, hconf,
    fun hok key hkey => ?_, ?_⟩
  · rw [hconf]
    exact saveToNvs_stored pf hok w₁ key hkey
  · rw [hset]
    rcases saveToNvs_cases pf env w₁ with ⟨v, hrun, hstate⟩ | ⟨err, v, hrun⟩
    · rw [final_of_error hrun]
      exact .inl ⟨hrun, by rw [hstate]⟩
    · rw [final_of_ok hrun]
      exact .inr ⟨err, hrun⟩

/-- What `handle_config_post` demands of a credential change. -/
def credentialsAccepted (pf : Platform) (json : CJson) (conf : AppConfig) : Bool :=
  match stringField json "new_password" with
  | none => false
  | some newPass =>
      decide (minPasswordLen ≤ newPass.length) && currentPasswordOk pf json conf &&
        !usernameRefused json

/-- How the end of `handle_config_post` ends. -/
inductive ChangeCase (pf : Platform) (env : Env) (json : CJson) (w : World Device Event) :
    EStateM.Result Stop (World Device Event) Unit → Prop
  | absent (hnone : stringField json "new_password" = none) : ChangeCase pf env json w (.ok () w)
  | refused (hrefused : credentialsAccepted pf json w.state.board.config = false) (status : ℕ)
      (message : String) : ChangeCase pf env json w (.error (.respond (.error status message)) w)
  /-- flash could not be opened: the device resets before it gets to the sessions -/
  | aborted {v : World Device Event} {board : Board} {newPass : CString}
      {salt : Vector UInt8 configAuthSaltLen}
      (haccepted : credentialsAccepted pf json w.state.board.config = true)
      (hpass : stringField json "new_password" = some newPass)
      (honly : CredentialsOnly w.state.board board) (hnvs : board.nvs = w.state.board.nvs)
      (hconf : board.config = w.state.board.config.setAuth pf.sha256 salt
        (newUsername json w.state.board.config) newPass)
      (hstate : v.state = w.state.setBoard board) (hshown : v.shown = w.shown) :
      ChangeCase pf env json w (.error .abort v)
  | changed {v : World Device Event} {board : Board} {newPass : CString}
      {salt : Vector UInt8 configAuthSaltLen}
      (haccepted : credentialsAccepted pf json w.state.board.config = true)
      (hpass : stringField json "new_password" = some newPass)
      (honly : CredentialsOnly w.state.board board)
      (hconf : board.config = w.state.board.config.setAuth pf.sha256 salt
        (newUsername json w.state.board.config) newPass)
      (hstored : (∀ n, env.err n = .ok) → ∀ key ∈ savedKeys pf.target.serialPortMax,
        board.nvs key = some (board.config.saved key))
      (hstate : v.state = (w.state.setBoard board).revoked)
      (hshown : v.shown =
        w.shown ++ ((activeSlots w.state.clients).map .evicted ++ [.credentialsChanged])) :
      ChangeCase pf env json w (.ok () v)

theorem credentialsAccepted_iff {pf : Platform} {json : CJson} {conf : AppConfig}
    {newPass : CString} (hpass : stringField json "new_password" = some newPass) :
    credentialsAccepted pf json conf = true ↔ minPasswordLen ≤ newPass.length ∧
      currentPasswordOk pf json conf = true ∧ usernameRefused json = false := by
  unfold credentialsAccepted
  simp only [hpass, Bool.and_eq_true, decide_eq_true_eq, Bool.not_eq_true', and_assoc]

/-- A body that is entitled to a change gets to `config_set_auth`. -/
theorem changeCredentials_accepted {pf : Platform} {env : Env} {json : CJson} {newPass : CString}
    {w : World Device Event}
    (haccepted : credentialsAccepted pf json w.state.board.config = true)
    (hpass : stringField json "new_password" = some newPass) :
    changeCredentials pf env json w = (do
      let _ ← onBoard (configSetAuth pf env (newUsername json w.state.board.config) newPass)
      revokeAll : Handler Unit) w := by
  obtain ⟨hlong, hcurrent, hname⟩ := (credentialsAccepted_iff hpass).mp haccepted
  unfold changeCredentials
  rw [hpass]
  show (rejectIf (newPass.length < minPasswordLen) 400 _ >>= fun _ => _ : Handler Unit) w = _
  rw [bind_ok ((rejectIf_apply _ _ _ _).trans (if_neg (Nat.not_lt.mpr hlong))),
    bind_ok (read_apply _ _),
    bind_ok ((rejectIf_apply _ _ _ _).trans (if_neg (by simp [hcurrent]))),
    bind_ok ((rejectIf_apply _ _ _ _).trans (if_neg (by simp [hname])))]

/-- A body that is not gets an error and nothing else. -/
theorem changeCredentials_refused {pf : Platform} (env : Env) {json : CJson} {newPass : CString}
    {w : World Device Event}
    (hrefused : credentialsAccepted pf json w.state.board.config = false)
    (hpass : stringField json "new_password" = some newPass) :
    ∃ status message,
      changeCredentials pf env json w = .error (.respond (.error status message)) w := by
  unfold changeCredentials
  rw [hpass]
  show ∃ status message, (rejectIf (newPass.length < minPasswordLen) 400 _ >>= fun _ => _ :
    Handler Unit) w = .error (.respond (.error status message)) w
  -- the three checks, in the order of the source
  by_cases hshort : newPass.length < minPasswordLen
  · exact ⟨_, _, bind_error ((rejectIf_apply _ _ _ _).trans (if_pos hshort))⟩
  rw [bind_ok ((rejectIf_apply _ _ _ _).trans (if_neg hshort)), bind_ok (read_apply _ _)]
  by_cases hwrong : currentPasswordOk pf json w.state.board.config = false
  · exact ⟨_, _, bind_error ((rejectIf_apply _ _ _ _).trans (if_pos hwrong))⟩
  rw [bind_ok ((rejectIf_apply _ _ _ _).trans (if_neg hwrong))]
  by_cases hname : usernameRefused json = true
  · exact ⟨_, _, bind_error ((rejectIf_apply _ _ _ _).trans (if_pos hname))⟩
  have haccepted : credentialsAccepted pf json w.state.board.config = true :=
    (credentialsAccepted_iff hpass).mpr
      ⟨Nat.not_lt.mp hshort, Bool.not_eq_false _ ▸ hwrong, Bool.not_eq_true _ ▸ hname⟩
  cases hrefused.symm.trans haccepted

theorem changeCredentials_cases (pf : Platform) (env : Env) (json : CJson)
    (w : World Device Event) : ChangeCase pf env json w (changeCredentials pf env json w) := by
  cases hpass : stringField json "new_password" with
  | none =>
      unfold changeCredentials
      rw [hpass]
      exact .absent hpass
  | some newPass =>
      cases haccepted : credentialsAccepted pf json w.state.board.config with
      | false =>
          obtain ⟨status, message, hrun⟩ := changeCredentials_refused env haccepted hpass
          rw [hrun]
          exact .refused haccepted status message
      | true =>
          rw [changeCredentials_accepted haccepted hpass]
          obtain ⟨salt, v, hshown, honly, hconf, hstored, ⟨hrun, hnvs⟩ | ⟨err, hrun⟩⟩ :=
            configSetAuth_cases pf env (newUsername json w.state.board.config) newPass
              ⟨w.state.board, w.asked, []⟩
          · rw [bind_error (onBoard_error hrun)]
            exact .aborted haccepted hpass honly hnvs hconf rfl (by simp [hshown])
          · rw [bind_ok (onBoard_ok hrun)]
            refine .changed haccepted hpass honly hconf hstored rfl ?_
            simp [hshown]

/-- How `handle_config_post` gets to its first field, or does not. -/
inductive ReadCase (pf : Platform) (env : Env) (req : Request) (w : World Device Event) :
    EStateM.Result Stop (World Device Event) CJson → Prop
  | absent (hnone : authGetTokenFromRequest env.heapTail req = none) (stop : Stop) :
      ReadCase pf env req w (.error stop w)
  | invalid {token : CString} (htoken : authGetTokenFromRequest env.heapTail req = some token)
      (hinvalid : w.state.validates env token = false) (stop : Stop) :
      ReadCase pf env req w (.error stop (checkedWorld env token w))
  | refused {token : CString} {v : World Device Event}
      (htoken : authGetTokenFromRequest env.heapTail req = some token)
      (hvalid : w.state.validates env token = true) (hstate : v.state = w.state.checked env token)
      (hshown : v.shown = w.shown ++ [.accepted token env.now]) (stop : Stop) :
      ReadCase pf env req w (.error stop v)
  | complete {token : CString} {json : CJson} {v : World Device Event}
      (htoken : authGetTokenFromRequest env.heapTail req = some token)
      (hvalid : w.state.validates env token = true) (hstate : v.state = w.state.checked env token)
      (hshown : v.shown = w.shown ++ [.accepted token env.now])
      (hunlocked : w.state.board.config.authInitialized = true ∨ onlyCredentials json = true) :
      ReadCase pf env req w (.ok json v)

theorem readConfigBody_cases (pf : Platform) (env : Env) (req : Request)
    (w : World Device Event) : ReadCase pf env req w (readConfigBody pf env req w) := by
  have hcases := requireAuth_cases env req w
  generalize hrun : requireAuth env req w = result at hcases
  unfold readConfigBody
  cases hcases with
  | absent hnone stop =>
      rw [bind_error hrun]
      exact .absent hnone stop
  | invalid htoken hinvalid stop =>
      rw [bind_error hrun]
      exact .invalid htoken hinvalid stop
  | @valid token htoken hvalid =>
      rw [bind_ok hrun]
      have hshown₀ : (checkedWorld env token w).shown = w.shown ++ [.accepted token env.now] := by
        simp [checkedWorld, validation, hvalid]
      have hquiet := Quiet.final (does_readJson env quiet_composes pf req 512)
        (checkedWorld env token w)
      cases hjson : readJson env pf req 512 (checkedWorld env token w) with
      | error stop v =>
          rw [final_of_error hjson] at hquiet
          rw [bind_error hjson]
          exact .refused htoken hvalid hquiet.1 (hquiet.2.trans hshown₀) stop
      | ok json v =>
          rw [final_of_ok hjson] at hquiet
          rw [bind_ok hjson, bind_ok (read_apply _ _)]
          have hboard : v.state.board = w.state.board := by rw [hquiet.1]; rfl
          by_cases hlocked : v.state.board.config.authInitialized = false ∧
              onlyCredentials json = false
          · rw [bind_error ((rejectIf_apply _ _ _ _).trans (if_pos hlocked))]
            exact .refused htoken hvalid hquiet.1 (hquiet.2.trans hshown₀) _
          · rw [bind_ok ((rejectIf_apply _ _ _ _).trans (if_neg hlocked))]
            refine .complete htoken hvalid hquiet.1 (hquiet.2.trans hshown₀) ?_
            rw [hboard] at hlocked
            cases hinit : w.state.board.config.authInitialized with
            | true => exact .inl rfl
            | false => exact .inr (by simpa [hinit] using hlocked)

end WebTerminal
