import WebTerminal.Server.HandlerParts
import WebTerminal.Server.System

/-!
# What a call can do

`CallCase` lists everything a call into the firmware can do to the session
table, the sockets and the board, with the checks it passed on the way.  Every
invariant of a run is a case analysis over it.
-/

set_option autoImplicit false

namespace WebTerminal

open Proc

/-- The tokens a call carries: in a header or, for a handshake, in the query
string; for a data frame the one its socket was registered with. -/
def Call.carries (pf : Platform) (d : Device) (token : CString) : Call → Prop
  | .request req =>
      req.headerToken = some token ∨ req.route = .ws ∧ req.queryToken pf = some token
  | .frame fd _ => ∃ i, findFd fd d.clients = some i ∧ (d.clients i).token = token
  | _ => False

/-- The scan for the session cookie stays inside the header. -/
def Call.ScanInside : Call → Prop
  | .request req => req.ScanInside
  | _ => True

/-- As long as the scan stays inside, a request is checked with what it carries. -/
theorem carries_of_offers {pf : Platform} {env : Env} {req : Request} {token : CString}
    (hinside : req.ScanInside) (hoffers : req.offers pf env token) (d : Device) :
    Call.carries pf d token (.request req) := by
  unfold Request.offers at hoffers
  rwa [authGetTokenFromRequest_inside hinside] at hoffers

/-- What a board procedure may have done: anything with the setup lock off, the
credentials alone with the lock on. -/
structure Worked (req : Request) (board : Board) (effects : List Effect) (board' : Board) :
    Prop where
  allowed : board.config.authInitialized = true ∨
    req.route = .configPost ∧ CredentialsOnly board board' ∧ effects = []
  unlocked : board.config.authInitialized = true → board'.config.authInitialized = true
  named : board.config.authUser.length ≤ configAuthUserMaxLen →
    board'.config.authUser.length ≤ configAuthUserMaxLen
  kept : board.config.SameCredentials board'.config ∨ req.route = .configPost

/-- What a handshake did before the token it is judged by: nothing, or it tried
another token in vain. -/
inductive Precheck (pf : Platform) (env : Env) (req : Request) (d : Device) :
    Device → List Event → Prop
  | none : Precheck pf env req d d []
  | rejected {token : CString} (hoffers : req.offers pf env token)
      (hinvalid : d.validates env token = false) :
      Precheck pf env req d (d.checked env token) [.rejected token env.now]

inductive CallCase (pf : Platform) (env : Env) (d : Device) : Call → Device → List Event → Prop
  | idle {call : Call} : CallCase pf env d call d []
  | checked {req : Request} {d₁ : Device} {es : List Event} {token : CString}
      (hpre : Precheck pf env req d d₁ es) (hoffers : req.offers pf env token) :
      CallCase pf env d (.request req) (d₁.checked env token)
        (es ++ [validation token env.now (d₁.validates env token)])
  | worked {req : Request} {token : CString} {board : Board} {effects : List Effect}
      (hoffers : req.offers pf env token) (hvalid : d.validates env token = true)
      (hworked : Worked req d.board effects board) :
      CallCase pf env d (.request req) ((d.checked env token).setBoard board)
        (.accepted token env.now :: effects.map .effect)
  | revoked {req : Request} {token : CString} {board : Board} {effects : List Effect}
      (hoffers : req.offers pf env token) (hvalid : d.validates env token = true)
      (hworked : Worked req d.board effects board) :
      CallCase pf env d (.request req) ((d.checked env token).setBoard board).revoked
        (.accepted token env.now :: effects.map .effect ++
          ((activeSlots d.clients).map .evicted ++ [.credentialsChanged]))
  | reissued {req : Request} {token : CString} (hoffers : req.offers pf env token)
      (hvalid : d.validates env token = true) (hunlocked : d.board.config.authInitialized = true) :
      CallCase pf env d (.request req) (d.checked env token)
        [.accepted token env.now, .reissued token]
  | hosts {req : Request} {hosts : Hosts} :
      CallCase pf env d (.request req) (d.setHosts hosts) []
  | loggedIn {req : Request} {hosts : Hosts} {random : Vector UInt8 authSessionTokenLen} :
      CallCase pf env d (.request req)
        ((d.setHosts hosts).setSessions (openSession env.monoNow random d.auth.sessions).1)
        [.issued (generateToken random) env.now]
  | loggedOut {req : Request} {token : CString} (hoffers : req.offers pf env token) :
      CallCase pf env d (.request req) (d.setSessions (authLogout token d.auth.sessions)) []
  | registered {req : Request} {d₁ : Device} {es : List Event} {token : CString}
      {i : Fin maxWsClients} {clients : WsClients} (hpre : Precheck pf env req d d₁ es)
      (hoffers : req.offers pf env token) (hvalid : d₁.validates env token = true)
      (hunlocked : d.board.config.authInitialized = true)
      (hadd : wsAddClient env.now req.fd (req.queryPort pf) (copyToken token) d.clients =
        (clients, some i)) :
      CallCase pf env d (.request req) ((d₁.checked env token).setClients clients)
        (es ++ [.accepted token env.now, .registered i req.fd (copyToken token)])
  | socketEvicted {fd : ℤ} {frame : WsFrame} {i : Fin maxWsClients}
      (hfind : findFd fd d.clients = some i)
      (hinvalid : d.validates env (d.clients i).token = false) :
      CallCase pf env d (.frame fd frame)
        ((d.checked env (d.clients i).token).setClients (deactivate i d.clients))
        [.rejected (d.clients i).token env.now, .evicted i]
  | socketKept {fd : ℤ} {frame : WsFrame} {i : Fin maxWsClients}
      (hfind : findFd fd d.clients = some i)
      (hvalid : d.validates env (d.clients i).token = true) :
      CallCase pf env d (.frame fd frame) (d.checked env (d.clients i).token)
        [.accepted (d.clients i).token env.now]
  | socketRemoved {fd : ℤ} {frame : WsFrame} {i : Fin maxWsClients}
      (hfind : findFd fd d.clients = some i)
      (hvalid : d.validates env (d.clients i).token = true) :
      CallCase pf env d (.frame fd frame)
        ((d.checked env (d.clients i).token).setClients (wsRemoveClient fd d.clients))
        [.accepted (d.clients i).token env.now]
  | relayed {fd : ℤ} {frame : WsFrame} {i : Fin maxWsClients} {board : Board}
      {effects : List Effect} (hfind : findFd fd d.clients = some i)
      (hvalid : d.validates env (d.clients i).token = true)
      (hkeeps : KeepsCredentials d.board effects board) :
      CallCase pf env d (.frame fd frame) ((d.checked env (d.clients i).token).setBoard board)
        (.accepted (d.clients i).token env.now ::
          .relayed fd (d.clients i).portIndex frame.payload :: effects.map .effect)
  | closed {fd : ℤ} :
      CallCase pf env d (.close fd) (d.setClients (wsRemoveClient fd d.clients)) []
  | flushed {frames : List (Frame × (Fin maxWsClients → Bool))} :
      CallCase pf env d (.flush frames) ((flushWork env frames).final d.start).state
        ((flushWork env frames).final d.start).shown
  | background {wifi : Wifi} {serial : Serial} :
      CallCase pf env d (.background wifi serial)
        (d.setBoard { d.board with wifi := wifi, serial := serial }) []

/-- A request that was checked shows its tokens, accepted or rejected. -/
theorem Precheck.shown_checked {pf : Platform} {env : Env} {req : Request} {d d₁ : Device}
    {es : List Event} (hpre : Precheck pf env req d d₁ es) (token : CString) (ok : Bool) {e : Event}
    (he : e ∈ es ++ [validation token env.now ok]) :
    ∃ token', e = .accepted token' env.now ∨ e = .rejected token' env.now := by
  rcases List.mem_append.mp he with he | he
  · cases hpre with
    | none => cases he
    | rejected => exact ⟨_, .inr (List.mem_singleton.mp he)⟩
  · rw [List.mem_singleton.mp he]
    cases ok with
    | true => exact ⟨token, .inl rfl⟩
    | false => exact ⟨token, .inr rfl⟩

theorem KeepsCredentials.worked {req : Request} {board board' : Board} {effects : List Effect}
    (h : KeepsCredentials board effects board')
    (hunlocked : board.config.authInitialized = true) : Worked req board effects board' :=
  ⟨.inl hunlocked, fun hinit => h.config.authInitialized.trans hinit,
    fun hnamed => h.config.authUser ▸ hnamed, .inl h.config⟩

/-! ## The handlers -/

/-- A handler ends in one of the cases. -/
def Ends (pf : Platform) (env : Env) (d : Device) (call : Call) (w : World Device Event) : Prop :=
  CallCase pf env d call w.state w.shown

section

variable (pf : Platform) (env : Env) {req : Request} {d : Device}

/-- A request that was authenticated and did nothing more. -/
theorem ends_checked {token : CString}
    (htoken : authGetTokenFromRequest env.heapTail req = some token) :
    Ends pf env d (.request req) (checkedWorld env token d.start) :=
  .checked .none (.inl htoken)

/-- A handler that starts with `require_auth`. -/
theorem ends_requireAuth {rest : Handler Response}
    (h : ∀ token, authGetTokenFromRequest env.heapTail req = some token →
      d.validates env token = true →
      Ends pf env d (.request req) (rest.final (checkedWorld env token d.start))) :
    Ends pf env d (.request req) (final (requireAuth env req >>= fun _ => rest) d.start) := by
  have hcases := requireAuth_cases env req d.start
  generalize hrun : requireAuth env req d.start = result at hcases
  cases hcases with
  | absent hnone stop =>
      rw [final_bind_of_error hrun]
      exact .idle
  | invalid htoken hinvalid stop =>
      rw [final_bind_of_error hrun]
      exact ends_checked pf env htoken
  | @valid token htoken hvalid =>
      rw [final_bind_of_ok hrun]
      exact h token htoken hvalid

theorem ends_whenUnlocked {body : BoardM Response} (hbody : Keeps body) :
    Ends pf env d (.request req) (final (whenUnlocked env req body) d.start) := by
  apply ends_requireAuth
  intro token htoken hvalid
  by_cases hunlocked : d.board.config.authInitialized = true
  · rw [final_bind_of_ok ((requirePasswordChanged_apply _).trans (if_pos hunlocked))]
    obtain ⟨board, effects, hstate, hshown, hkeeps⟩ :=
      onBoard_final hbody (checkedWorld env token d.start)
    unfold Ends
    rw [hstate, hshown]
    simpa [checkedWorld, Device.start, validation, hvalid] using
      CallCase.worked (.inl htoken) hvalid (hkeeps.worked hunlocked)
  · rw [final_bind_of_error ((requirePasswordChanged_apply _).trans (if_neg hunlocked))]
    exact ends_checked pf env htoken

theorem ends_handleSysinfo :
    Ends pf env d (.request req) (final (handleSysinfo env req) d.start) :=
  ends_requireAuth pf env fun _ htoken _ => ends_checked pf env htoken

theorem ends_handleConfigGet :
    Ends pf env d (.request req) (final (handleConfigGet env req) d.start) :=
  ends_requireAuth pf env fun _ htoken _ => ends_checked pf env htoken

theorem ends_handleLogout :
    Ends pf env d (.request req) (final (handleLogout env req) d.start) := by
  unfold handleLogout
  cases htoken : authGetTokenFromRequest env.heapTail req with
  | none => exact .idle
  | some token => exact .loggedOut (.inl htoken)

theorem ends_handleGetToken :
    Ends pf env d (.request req) (final (handleGetToken env req) d.start) := by
  unfold handleGetToken
  by_cases hunlocked : d.board.config.authInitialized = true
  · rw [final_bind_of_ok ((requirePasswordChanged_apply _).trans (if_pos hunlocked))]
    cases htoken : authGetTokenFromRequest env.heapTail req with
    | none => exact .idle
    | some token =>
        show Ends pf env d _ (final (validateSession env token >>= _) d.start)
        rw [final_bind_of_ok (validateSession_apply env token d.start)]
        cases hvalid : d.validates env token with
        | false =>
            have hstart : d.start.state.validates env token = false := hvalid
            rw [hstart]
            exact ends_checked pf env htoken
        | true =>
            have hstart : d.start.state.validates env token = true := hvalid
            rw [hstart]
            have hcase : CallCase pf env d (.request req) _ _ :=
              .reissued (.inl htoken) hvalid hunlocked
            simpa [Ends, final, checkedWorld, Device.start, validation, hvalid, bind_apply]
              using hcase
  · rw [final_bind_of_error ((requirePasswordChanged_apply _).trans (if_neg hunlocked))]
    exact .idle

theorem ends_handleLogin :
    Ends pf env d (.request req) (final (handleLogin pf env req) d.start) := by
  unfold handleLogin
  generalize hlocked : authIsLockedOut env.monoNow req.peer d.auth.hosts = result
  have hrun : isLockedOut env req.peer d.start =
      .ok result.2 { d.start with state := d.setHosts result.1 } := by
    rw [← hlocked]
    rfl
  rw [final_bind_of_ok hrun]
  -- up to the credentials nothing else happens
  have hends : ∀ w : World Device Event, w.state = d.setHosts result.1 → w.shown = [] →
      Ends pf env d (.request req) w := by
    intro w hstate hshown
    unfold Ends
    rw [hstate, hshown]
    exact .hosts
  obtain ⟨w, hstate, hshown, heq | ⟨_, -, heq⟩⟩ :=
    Quiet.bind_cases (does_rejectIf quiet_composes (result.2 = true) 429 _) _
      { d.start with state := d.setHosts result.1 }
  · rw [heq]
    exact hends w hstate hshown
  rw [heq]
  obtain ⟨w', hstate', hshown', heq | ⟨json, -, heq⟩⟩ :=
    Quiet.bind_cases (does_readJson env quiet_composes pf req 256) _ w
  · rw [heq]
    exact hends w' (hstate'.trans hstate) (hshown'.trans hshown)
  rw [heq]
  have hstate₂ := hstate'.trans hstate
  have hshown₂ := hshown'.trans hshown
  split
  next username password _ _ =>
    rw [final_bind_of_ok (ask_apply _ _)]
    obtain ⟨token, v, hlogin, hcase⟩ := loginSession_cases pf env (env.tokenBytes w'.asked) username
      password req.peer { w' with asked := w'.asked + 1 }
    rw [final_bind_of_ok hlogin]
    have hv : Ends pf env d (.request req) v := by
      unfold Ends
      rcases hcase with ⟨hosts, hv, hw⟩ | ⟨-, hosts, hv, hw⟩
      · rw [hv, hw, hstate₂, hshown₂]
        exact .hosts
      · rw [hv, hw, hstate₂, hshown₂]
        exact .loggedIn
    cases token with
    | none => exact hv
    | some token => exact hv
  next => exact hends w' hstate₂ hshown₂

/-! ### POST /api/config -/

theorem Worked.setAuth {board board' board'' : Board} {effects : List Effect} {sha256 : Digest}
    {salt : Vector UInt8 configAuthSaltLen} {username password : CString}
    (h : Worked req board effects board') (hroute : req.route = .configPost)
    (honly : CredentialsOnly board' board'')
    (hconf : board''.config = board'.config.setAuth sha256 salt username password) :
    Worked req board effects board'' where
  allowed := h.allowed.imp id fun ⟨hroute, hsame, hnone⟩ => ⟨hroute, hsame.trans honly, hnone⟩
  unlocked _ := by rw [hconf]; rfl
  named _ := by
    rw [hconf]
    exact Nat.le_of_lt_succ (length_strncpy_lt (by omega) username)
  kept := .inr hroute

/-- The settings are applied with the setup lock off, or not at all. -/
theorem applySettings_worked {json : CJson} (hroute : req.route = .configPost)
    {w : World Device Event}
    (hbody : w.state.board.config.authInitialized = true ∨ onlyCredentials json = true) :
    ∃ board effects,
      ((onBoard (applySettings pf env json)).final w).state = w.state.setBoard board ∧
      ((onBoard (applySettings pf env json)).final w).shown = w.shown ++ effects.map .effect ∧
      Worked req w.state.board effects board := by
  rcases hbody with hunlocked | honly
  · obtain ⟨board, effects, hstate, hshown, hkeeps⟩ :=
      onBoard_final (applySettings_keeps pf env json) w
    exact ⟨board, effects, hstate, hshown, hkeeps.worked hunlocked⟩
  · rw [applySettings_of_onlyCredentials honly]
    exact ⟨w.state.board, [], rfl, by simp [onBoard, zoom, final],
      .inr ⟨hroute, .refl _, rfl⟩, id, id, .inl (.refl _)⟩

/-- The end of the handler, on a device that has applied the settings. -/
theorem ends_changeCredentials {token : CString} {board : Board} {effects : List Effect}
    (hroute : req.route = .configPost)
    (htoken : authGetTokenFromRequest env.heapTail req = some token)
    (hvalid : d.validates env token = true) (hworked : Worked req d.board effects board)
    (json : CJson) {w : World Device Event}
    (hstate : w.state = (d.checked env token).setBoard board)
    (hshown : w.shown = .accepted token env.now :: effects.map .effect) :
    Ends pf env d (.request req) ((changeCredentials pf env json).final w) := by
  have hcases := changeCredentials_cases pf env json w
  unfold Ends final
  generalize changeCredentials pf env json w = result at hcases
  have hunchanged : CallCase pf env d (.request req) w.state w.shown := by
    rw [hstate, hshown]
    exact .worked (.inl htoken) hvalid hworked
  cases hcases with
  | absent => exact hunchanged
  | refused => exact hunchanged
  | aborted _ _ honly _ hconf hv hw =>
      simp only [hv, hw, hstate, hshown] at honly hconf ⊢
      exact .worked (.inl htoken) hvalid (hworked.setAuth hroute honly hconf)
  | changed _ _ honly hconf _ hv hw =>
      simp only [hv, hw, hstate, hshown] at honly hconf ⊢
      exact .revoked (.inl htoken) hvalid (hworked.setAuth hroute honly hconf)

theorem ends_handleConfigPost (hroute : req.route = .configPost) :
    Ends pf env d (.request req) (final (handleConfigPost pf env req) d.start) := by
  unfold handleConfigPost configPostUpToCredentials
  simp only [bind_assoc]
  have hcases := readConfigBody_cases pf env req d.start
  generalize hrun : readConfigBody pf env req d.start = result at hcases
  cases hcases with
  | absent =>
      rw [final_bind_of_error hrun]
      exact .idle
  | invalid htoken hinvalid stop =>
      rw [final_bind_of_error hrun]
      exact ends_checked pf env htoken
  | refused htoken hvalid hstate hshown stop =>
      rw [final_bind_of_error hrun]
      have hcase : CallCase pf env d (.request req) _ _ := .checked .none (.inl htoken)
      rw [show d.validates env _ = true from hvalid] at hcase
      unfold Ends
      rw [hstate, hshown]
      exact hcase
  | @complete token json w htoken hvalid hstate hshown hbody =>
      rw [final_bind_of_ok hrun]
      have hboard : w.state.board = d.board := by rw [hstate]; rfl
      obtain ⟨board, effects, hset, heffects, hworked⟩ :=
        applySettings_worked pf env (w := w) hroute (hboard ▸ hbody)
      rw [hstate] at hset hworked
      rw [hshown] at heffects
      rcases final_bind_cases (onBoard (applySettings pf env json)) _ w with
        ⟨r, v, happly, heq⟩ | ⟨_, v, happly, heq⟩
      · rw [final_of_error happly] at hset heffects
        rw [heq]
        unfold Ends
        rw [hset, heffects]
        exact .worked (.inl htoken) hvalid hworked
      · rw [final_of_ok happly] at hset heffects
        rw [heq, final_bind_of_ok (pure_apply _ _)]
        rw [final_bind_pure]
        exact ends_changeCredentials pf env hroute htoken hvalid hworked json hset heffects

/-! ### WebSockets -/

/-- How a handshake has looked for a token it can let in. -/
inductive HandshakeCase (pf : Platform) (env : Env) (req : Request) (d : Device)
    (w : World Device Event) : Option CString → Prop
  | refused (hends : Ends pf env d (.request req) w) : HandshakeCase pf env req d w none
  | admitted {d₁ : Device} {es : List Event} {token : CString} (hpre : Precheck pf env req d d₁ es)
      (hoffers : req.offers pf env token) (hvalid : d₁.validates env token = true)
      (hstate : w.state = d₁.checked env token)
      (hshown : w.shown = es ++ [.accepted token env.now]) :
      HandshakeCase pf env req d w (some token)

/-- One token of a handshake, after the tokens tried before. -/
theorem tryToken_cases {d₁ : Device} {es : List Event} (hpre : Precheck pf env req d d₁ es)
    {offered : Option CString} (hoffers : ∀ token, offered = some token → req.offers pf env token)
    {w : World Device Event} (hstate : w.state = d₁) (hshown : w.shown = es)
    (hends : offered = none → Ends pf env d (.request req) w) :
    ∃ token v, tryToken env offered w = .ok token v ∧ HandshakeCase pf env req d v token := by
  cases offered with
  | none => exact ⟨none, w, rfl, .refused (hends rfl)⟩
  | some token =>
      have htoken := hoffers token rfl
      show ∃ found v, (validateSession env token >>= _) w = .ok found v ∧ _
      rw [bind_ok (validateSession_apply env token w)]
      refine ⟨_, _, rfl, ?_⟩
      cases hvalid : w.state.validates env token with
      | true =>
          refine .admitted hpre htoken (hstate ▸ hvalid) ?_ ?_
          · simp [checkedWorld, hstate]
          · simp [checkedWorld, hshown, validation, hvalid]
      | false =>
          refine .refused ?_
          have hcase : CallCase pf env d (.request req) _ _ := .checked hpre htoken
          simpa [Ends, checkedWorld, hstate, hshown] using hcase

theorem handshakeToken_cases (hroute : req.route = .ws) :
    ∃ token w, handshakeToken pf env req d.start = .ok token w ∧
      HandshakeCase pf env req d w token := by
  unfold handshakeToken
  have hempty : Ends pf env d (.request req) d.start := .idle
  obtain ⟨first, w, hfirst, hcase⟩ := tryToken_cases pf env (w := d.start) .none
    (fun token (h : authGetTokenFromRequest env.heapTail req = some token) => .inl h) rfl rfl
    fun _ => hempty
  rw [bind_ok hfirst]
  cases hcase with
  | admitted hpre hoffers hvalid hstate hshown =>
      exact ⟨_, w, rfl, .admitted hpre hoffers hvalid hstate hshown⟩
  | refused hends =>
      -- the token in the headers was missing or rejected
      have hpre : ∃ d₁ es, Precheck pf env req d d₁ es ∧ w.state = d₁ ∧ w.shown = es := by
        unfold tryToken at hfirst
        cases htoken : authGetTokenFromRequest env.heapTail req with
        | none =>
          rw [htoken] at hfirst
          cases hfirst
          exact ⟨d, [], .none, rfl, rfl⟩
        | some token =>
          simp only [htoken] at hfirst
          rw [bind_ok (validateSession_apply env token d.start)] at hfirst
          cases hvalid : d.validates env token with
          | true =>
              have hstart : d.start.state.validates env token = true := hvalid
              simp only [hstart] at hfirst
              cases hfirst
          | false =>
              have hstart : d.start.state.validates env token = false := hvalid
              simp only [hstart] at hfirst
              cases hfirst
              exact ⟨_, _, .rejected (.inl htoken) hvalid, rfl,
                by simp [checkedWorld, Device.start, validation, hvalid]⟩
      obtain ⟨d₁, es, hpre, hstate, hshown⟩ := hpre
      exact tryToken_cases pf env hpre (fun token h => .inr ⟨hroute, h⟩) hstate hshown
        fun _ => hends

/-- `ws_add_client` on a full table leaves it alone. -/
theorem wsAddClient_none {now : ℕ} {fd port : ℤ} {token : CString} {clients clients' : WsClients}
    (h : wsAddClient now fd port token clients = (clients', none)) : clients' = clients := by
  unfold wsAddClient at h
  split at h
  next => simp at h
  next => exact (Prod.mk.inj h).1.symm

theorem ends_handleWsHandshake (hroute : req.route = .ws) :
    Ends pf env d (.request req) (final (handleWsHandshake pf env req) d.start) := by
  unfold handleWsHandshake
  obtain ⟨token, w, hrun, hcase⟩ := handshakeToken_cases pf env (d := d) hroute
  rw [final_bind_of_ok hrun, final_bind_of_ok (read_apply _ _)]
  cases hcase with
  | refused hends => exact hends
  | @admitted d₁ es token hpre hoffers hvalid hstate hshown =>
      have hboard : w.state.board = d.board := by
        rw [hstate]
        cases hpre <;> rfl
      have hclients : w.state.clients = d.clients := by
        rw [hstate]
        cases hpre <;> rfl
      -- refused behind the check, the handshake has done nothing but check
      have hchecked : Ends pf env d (.request req) w := by
        have hcase : CallCase pf env d (.request req) _ _ := .checked hpre hoffers
        simpa [Ends, hstate, hshown, validation, hvalid] using hcase
      show Ends pf env d _ (final (if w.state.board.config.authInitialized = true then _ else _) w)
      split
      next hunlocked =>
        rw [hboard] at hunlocked
        cases hadd : wsAddClient env.now req.fd (req.queryPort pf) (copyToken token) d.clients with
        | mk clients slot =>
            have hrun : addClient env req.fd (req.queryPort pf) (copyToken token) w =
                .ok slot.isSome { w with
                  state := w.state.setClients clients
                  shown := w.shown ++
                    slot.toList.map (.registered · req.fd (copyToken token)) } := by
              unfold addClient
              rw [act_apply, hclients, hadd]
            rw [final_bind_of_ok hrun]
            cases slot with
            | some i =>
                have hcase : CallCase pf env d (.request req) _ _ :=
                  .registered hpre hoffers hvalid hunlocked hadd
                simpa [Ends, final, hstate, hshown] using hcase
            | none =>
                -- a full table stays as it was
                have hid : w.state.setClients clients = w.state := by
                  rw [wsAddClient_none hadd, ← hclients]
                  rfl
                simpa [Ends, final, hid] using hchecked
      next => exact hchecked

/-- How a data frame finds its socket. -/
inductive TouchCase (d : Device) (fd : ℤ) (w : World Device Event) : Option ℤ → Prop
  | unknown (hstate : w.state = d) (hshown : w.shown = []) : TouchCase d fd w none
  | evicted {i : Fin maxWsClients} (hfind : findFd fd d.clients = some i)
      (hinvalid : d.validates env (d.clients i).token = false)
      (hstate : w.state =
        (d.checked env (d.clients i).token).setClients (deactivate i d.clients))
      (hshown : w.shown = [.rejected (d.clients i).token env.now, .evicted i]) :
      TouchCase d fd w none
  | touched {i : Fin maxWsClients} (hfind : findFd fd d.clients = some i)
      (hvalid : d.validates env (d.clients i).token = true)
      (hstate : w.state = d.checked env (d.clients i).token)
      (hshown : w.shown = [.accepted (d.clients i).token env.now]) :
      TouchCase d fd w (some (d.clients i).portIndex)

theorem touchClient_cases (fd : ℤ) :
    ∃ port w, touchClient env fd d.start = .ok port w ∧ TouchCase env d fd w port := by
  unfold touchClient
  rw [bind_ok (read_apply _ _)]
  cases hfind : findFd fd d.clients with
  | none =>
      have hstart : findFd fd d.start.state.clients = none := hfind
      simp only [hstart]
      exact ⟨none, d.start, rfl, .unknown rfl rfl⟩
  | some i =>
      have hstart : findFd fd d.start.state.clients = some i := hfind
      simp only [hstart]
      rw [bind_ok (validateSession_apply env _ d.start)]
      cases hvalid : d.validates env (d.clients i).token with
      | true =>
          have hok : d.start.state.validates env (d.start.state.clients i).token = true := hvalid
          simp only [hok]
          exact ⟨_, _, rfl, .touched hfind hvalid rfl (by simp [checkedWorld, Device.start,
            validation, hvalid])⟩
      | false =>
          have hbad : d.start.state.validates env (d.start.state.clients i).token = false := hvalid
          simp only [hbad]
          exact ⟨_, _, rfl, .evicted hfind hvalid rfl (by simp [checkedWorld, Device.start,
            validation, hvalid])⟩

/-- A procedure that asks one question changes nothing by asking. -/
theorem ends_ask {call : Call} {α : Type} {answer : ℕ → α} {f : α → Handler Response}
    {w : World Device Event}
    (h : ∀ a, Ends pf env d call ((f a).final { w with asked := w.asked + 1 })) :
    Ends pf env d call (final (ask answer >>= f) w) := by
  rw [final_bind_of_ok (ask_apply _ _)]
  exact h _

theorem ends_handleWsFrame (fd : ℤ) (frame : WsFrame) :
    Ends pf env d (.frame fd frame) (final (handleWsFrame pf env fd frame) d.start) := by
  unfold handleWsFrame
  obtain ⟨port, w, hrun, hcase⟩ := touchClient_cases env (d := d) fd
  rw [final_bind_of_ok hrun]
  cases hcase with
  | unknown hstate hshown =>
      show Ends pf env d _ w
      unfold Ends
      rw [hstate, hshown]
      exact .idle
  | evicted hfind hinvalid hstate hshown =>
      show Ends pf env d _ w
      unfold Ends
      rw [hstate, hshown]
      exact .socketEvicted hfind hinvalid
  | @touched i hfind hvalid hstate hshown =>
      -- what is left does not depend on how many questions were asked
      have hkept : ∀ asked, Ends pf env d (.frame fd frame) { w with asked := asked } := by
        intro asked
        unfold Ends
        rw [hstate, hshown]
        exact .socketKept hfind hvalid
      have hremoved : ∀ asked, Ends pf env d (.frame fd frame)
          { w with state := w.state.setClients (wsRemoveClient fd w.state.clients),
                   asked := asked, shown := w.shown ++ [] } := by
        intro asked
        unfold Ends
        rw [hstate, hshown]
        exact .socketRemoved hfind hvalid
      have hrelayed : ∀ asked, Ends pf env d (.frame fd frame) (final (do
          emit (.relayed fd (d.clients i).portIndex frame.payload)
          let _ ← onBoard (serialPortSend pf env (d.clients i).portIndex frame.payload)
          return Response.accepted) { w with asked := asked }) := by
        intro asked
        rw [final_bind_of_ok (emit_apply _ _), final_bind_pure]
        obtain ⟨board, effects, hboard, heffects, hkeeps⟩ := onBoard_final
          (serialPortSend_peripheral pf env (d.clients i).portIndex frame.payload).keeps
          ⟨w.state, asked, w.shown ++ [.relayed fd (d.clients i).portIndex frame.payload]⟩
        have hcase : CallCase pf env d (.frame fd frame) _ _ :=
          .relayed hfind hvalid (hstate ▸ hkeeps)
        unfold Ends
        rw [hboard, heffects]
        simpa [hstate, hshown] using hcase
      refine ends_ask pf env fun header => ?_
      split
      · exact hkept _
      split
      · exact hkept _
      split
      · exact hremoved _
      refine ends_ask pf env fun received => ?_
      split
      · exact hkept _
      cases frame.type with
      | close => exact hremoved _
      | other => exact hkept _
      | text => exact hrelayed _
      | binary => exact hrelayed _

/-! ## All calls -/

theorem ends_handler (req : Request) :
    Ends pf env d (.request req) ((handler pf env req).final d.start) := by
  unfold handler
  cases hroute : req.route with
  | root => exact .idle
  | xterm => exact .idle
  | notFound => exact .idle
  | login => exact ends_handleLogin pf env
  | logout => exact ends_handleLogout pf env
  | token => exact ends_handleGetToken pf env
  | sysinfo => exact ends_handleSysinfo pf env
  | configGet => exact ends_handleConfigGet pf env
  | configPost => exact ends_handleConfigPost pf env hroute
  | ws => exact ends_handleWsHandshake pf env hroute
  | reset => exact ends_whenUnlocked pf env (resetBody_peripheral env).keeps
  | power => exact ends_whenUnlocked pf env (powerBody_peripheral pf env req).keeps
  | ota => exact ends_whenUnlocked pf env (otaBody_peripheral env req).keeps
  | wifiScan => exact ends_whenUnlocked pf env (wifiScanBody_keeps env)
  | otaCheck => exact ends_whenUnlocked pf env (otaCheckBody_peripheral pf env).keeps
  | otaGithub => exact ends_whenUnlocked pf env (otaGithubBody_peripheral pf env).keeps
  | tls => exact ends_whenUnlocked pf env (tlsBody_peripheral pf env req).keeps
  | reboot => exact ends_whenUnlocked pf env espRestart_peripheral.keeps

/-- A settings request runs `handle_config_post`. -/
theorem callHandler_configPost {req : Request} (hroute : req.route = .configPost) :
    callHandler pf env (.request req) = handleConfigPost pf env req := by
  show handler pf env req = _
  unfold handler
  rw [hroute]

theorem ends_callHandler (d : Device) (call : Call) :
    Ends pf env d call ((callHandler pf env call).final d.start) := by
  cases call with
  | request req => exact ends_handler pf env req
  | frame fd frame => exact ends_handleWsFrame pf env fd frame
  | close fd => exact .closed
  | flush frames =>
      show Ends pf env d _
        (final (flushWork env frames >>= fun _ => pure Response.accepted) d.start)
      rw [final_bind_pure]
      exact .flushed
  | background wifi serial => exact .background

end

/-- A step of the machine is one of the cases, followed by the answer. -/
theorem systemStep_cases {pf : Platform} {s t : System} {a : Action} {es : List Event}
    (h : (systemMachine pf).step s a = some (t, es)) :
    s.running = true ∧ s.now ≤ a.env.now ∧ t.now = a.env.now ∧
      ∃ shown, ∃ answer : Option Response, es = shown ++ answer.toList.map .answered ∧
        CallCase pf a.env s.device a.call t.device shown := by
  obtain ⟨hrunning, htime, hnow, -, hdevice, hes⟩ := systemStep_some h
  refine ⟨hrunning, htime, hnow, _, _, hes, ?_⟩
  · rw [hdevice]
    exact ends_callHandler pf a.env s.device a.call

end WebTerminal
