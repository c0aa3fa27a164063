import WebTerminal.Lib.Alike
import WebTerminal.Server.IdleExpiry
import WebTerminal.Server.RouteRules

/-!
# What strangers see

A stranger holds no live token and no registered socket.  What the device answers a
stranger depends on three things: the failed logins on record, whether the password
was changed, and whether a guess at the credentials is right.  `Front` is a machine
that knows these and nothing else.  The device answers strangers as its front does,
whatever its settings and secrets are and whatever everybody else does meanwhile that
leaves these three things as they are: the record of failed logins, which only a login
may change, and the credentials.
-/

set_option autoImplicit false

namespace WebTerminal

open Proc

/-- The part of the device strangers deal with. -/
structure Front where
  hosts : Hosts
  /-- `auth_initialized` -/
  passwordChanged : Bool
  /-- the answer to a guess at user name and password -/
  accepts : CString → CString → Bool

abbrev FrontM := Proc Front Empty Stop

def Device.front (pf : Platform) (d : Device) : Front where
  hosts := d.auth.hosts
  passwordChanged := d.board.config.authInitialized
  accepts := credentialsOk pf.sha256 d.board.config

namespace Front

section

variable (pf : Platform) (env : Env) (req : Request)

/-- `auth_is_locked_out` -/
def isLockedOut (ip : Option CString) : FrontM Bool :=
  act fun f =>
    let result := authIsLockedOut env.monoNow ip f.hosts
    (result.2, { f with hosts := result.1 }, [])

/-- `auth_login`, without the session it opens. -/
def judge (random : Vector UInt8 authSessionTokenLen) (username password : CString)
    (ip : Option CString) (f : Front) : Option CString × Front :=
  match authIsLockedOut env.monoNow ip f.hosts with
  | (hosts, true) => (none, { f with hosts := hosts })
  | (hosts, false) =>
      if f.accepts username password then
        (some (generateToken random), { f with hosts := clearFailures ip hosts })
      else (none, { f with hosts := recordFailure env.monoNow ip hosts })

def guess (random : Vector UInt8 authSessionTokenLen) (username password : CString)
    (ip : Option CString) : FrontM (Option CString) :=
  act fun f =>
    let result := judge env random username password ip f
    (result.1, result.2, [])

/-- A login, from the body on. -/
def tryCredentials (json : CJson) : FrontM Response :=
  match CJson.string? (json.getObjectItem (cstr "username")),
      CJson.string? (json.getObjectItem (cstr "password")) with
  | some username, some password => do
      let random ← ask env.tokenBytes
      let token ← guess env random username password req.peer
      match token with
      | none => sendJsonError 401 "Invalid credentials"
      | some token => do
          let changed ← read passwordChanged
          return .ok (loginBody (!changed) token) (some (sessionCookie token))
  | _, _ => sendJsonError 400 "Missing username or password"

/-- A login. -/
def login : FrontM Response := do
  let locked ← isLockedOut env req.peer
  rejectIf (locked = true) 429 "Too many failed attempts. Try again later."
  let json ← readJson env pf req 256
  tryCredentials env req json

/-- `GET /api/token`, which tells a device in setup mode from others. -/
def getToken : FrontM Response := do
  let changed ← read passwordChanged
  if changed then sendJsonError 401 "Unauthorized" else sendJsonError 403 setupLockedMsg

/-- What a stranger's request is answered. -/
def request : FrontM Response :=
  match req.route with
  | .root | .xterm => return .report
  | .notFound => return .redirect (captiveLocation req.host)
  | .login => login pf env req
  | .logout => return .ok okBody (some clearedCookie)
  | .token => getToken
  | .ws => return .close
  | _ => sendJsonError 401 "Authentication required"

/-- What a stranger's call is answered. -/
def call : Call → FrontM Response
  | .request req => request pf env req
  | .frame .. => return .close
  | _ => return .accepted

end

def start (f : Front) : World Front Empty := { state := f, asked := 0, shown := [] }

/-- The answer of the front. -/
def replyOf : EStateM.Result Stop (World Front Empty) Response → Option Response
  | .ok response _ => some response
  | .error (.respond response) _ => some response
  | .error .restart _ => none
  | .error .abort _ => none

/-- The answers of the front to these calls. -/
def answers (pf : Platform) : Front → List Action → List (Option Response)
  | _, [] => []
  | f, a :: as =>
      replyOf (call pf a.env a.call f.start) ::
        answers pf ((call pf a.env a.call).final f.start).state as

end Front

/-- The call is one of a stranger. -/
def Call.ofStranger (pf : Platform) (env : Env) (d : Device) : Call → Prop
  | .request req => ∀ token, req.offers pf env token → ¬d.lives env token
  | .frame fd _ | .close fd => findFd fd d.clients = none
  | _ => False

/-- The answers to the calls that are `mine`, in a run from `s`. -/
def answersTo (pf : Platform) (mine : Action → Bool) :
    System → List Action → List (Option Response)
  | _, [] => []
  | s, a :: as =>
      match systemStep pf s a with
      | none => []
      | some (t, _) =>
          if mine a then
            responseOf (callHandler pf a.env a.call s.device.start) :: answersTo pf mine t as
          else answersTo pf mine t as

/-! ## Reading a body -/

section

variable {σ τ ε δ : Type} {P : σ → τ → Prop}

theorem alike_rejectIf (p : Prop) [Decidable p] (status : ℕ) (message : String) :
    Alike P P (rejectIf p status message : Proc σ ε Stop Unit)
      (rejectIf p status message : Proc τ δ Stop Unit) :=
  .ite (fun _ => alike_stop (fun _ _ h => h) _) fun _ => alike_pure (fun _ _ h => h) _

theorem alike_readBodyLoop (env : Env) (fuel remaining : ℕ) (body : List UInt8) :
    Alike P P (readBodyLoop env fuel remaining body : Proc σ ε Stop _)
      (readBodyLoop env fuel remaining body : Proc τ δ Stop _) := by
  induction fuel generalizing remaining body with
  | zero => exact alike_pure (fun _ _ h => h) _
  | succ fuel ih =>
      refine .ite (fun _ => alike_pure (fun _ _ h => h) _) fun _ => ?_
      refine (alike_ask _).bind (fun _ _ h => h) fun received => ?_
      cases received with
      | bytes data => exact .ite (fun _ => alike_pure (fun _ _ h => h) _) fun _ => ih _ _
      | timeout => exact alike_pure (fun _ _ h => h) _
      | failed => exact alike_pure (fun _ _ h => h) _

/-- What a body says does not depend on the state it is read in. -/
theorem alike_readJson (pf : Platform) (env : Env) (req : Request) (bufLen : ℕ) :
    Alike P P (readJson env pf req bufLen : Proc σ ε Stop CJson)
      (readJson env pf req bufLen : Proc τ δ Stop CJson) := by
  refine .bind (Q := P) ?_ (fun _ _ h => h) fun body => ?_
  · refine .ite (fun _ => alike_pure (fun _ _ h => h) _) fun _ => ?_
    refine .ite (fun _ => alike_pure (fun _ _ h => h) _) fun _ => ?_
    exact (alike_readBodyLoop env _ _ _).bind (fun _ _ h => h)
      fun _ => alike_pure (fun _ _ h => h) _
  · cases body with
    | absent => exact alike_stop (fun _ _ h => h) _
    | failed => exact alike_stop (fun _ _ h => h) _
    | complete bytes =>
        dsimp only
        cases pf.cJSONParse (ofBuffer bytes) with
        | none => exact alike_stop (fun _ _ h => h) _
        | some json => exact alike_pure (fun _ _ h => h) _

end

/-! ## The device behind its front -/

section

variable {pf : Platform} {env : Env} {req : Request} {d d' : Device}

/-- The device has this front. -/
def Faces (pf : Platform) (d : Device) (f : Front) : Prop := d.front pf = f

/-- It has this front, and none of the tokens of the request is live. -/
def FacesStranger (pf : Platform) (env : Env) (req : Request) (d : Device) (f : Front) : Prop :=
  Faces pf d f ∧ ∀ token, req.offers pf env token → ¬d.lives env token

theorem FacesStranger.faces {f : Front} (h : FacesStranger pf env req d f) : Faces pf d f := h.1

/-- A token that is refused leaves the other tokens of a stranger as dead as they were. -/
theorem FacesStranger.checked {f : Front} (h : FacesStranger pf env req d f) {token : CString}
    (hoffers : req.offers pf env token) : FacesStranger pf env req (d.checked env token) f := by
  refine ⟨h.1, fun token' hoffers' hlives => h.2 token' hoffers' ?_⟩
  have hrejected := kept_rejected (not_validates_of_dead (h.2 token hoffers))
  exact hrejected.lives (by simp [Unused]) hlives

/-- A stranger's token is refused. -/
theorem alike_tryToken {token : Option CString} (hoffers : ∀ t ∈ token, req.offers pf env t) :
    Alike (FacesStranger pf env req) (FacesStranger pf env req) (tryToken env token)
      (pure none : FrontM (Option CString)) := by
  cases token with
  | none => exact alike_pure (fun _ _ h => h) _
  | some token =>
      have hoffer := hoffers token rfl
      refine .act_left (fun _ _ h => h.checked hoffer) fun d f h => ?_
      show Alike _ _ (pure (if d.validates env token then some token else none) : Handler _) _
      rw [not_validates_of_dead (h.2 token hoffer)]
      exact alike_pure (fun _ _ h => h) _

/-- A handler that needs a session refuses a stranger. -/
theorem alike_requireAuth {α : Type} (rest : Unit → Handler α) :
    Alike (FacesStranger pf env req) (Faces pf) (requireAuth env req >>= rest)
      (sendJsonError 401 "Authentication required" : FrontM α) := by
  intro w w' hface hasked
  have hchecked : ∃ v, authCheckRequest env req w = .ok false v ∧ Faces pf v.state w'.state ∧
      v.asked = w'.asked := by
    unfold authCheckRequest
    cases htoken : authGetTokenFromRequest env.heapTail req with
    | none => exact ⟨w, rfl, hface.1, hasked⟩
    | some token =>
        have hoffers : req.offers pf env token := .inl htoken
        refine ⟨⟨w.state.checked env token, w.asked, w.shown ++ [validation token env.now
          (authValidateSession env.monoNow token w.state.auth.sessions).2]⟩,
        ?_, (hface.checked hoffers).1, hasked⟩
        show EStateM.Result.ok (w.state.validates env token) _ = _
        rw [not_validates_of_dead (hface.2 token hoffers)]
        rfl
  obtain ⟨v, hrun, hv, hvasked⟩ := hchecked
  have hrefused : requireAuth env req w =
      .error (.respond (.error 401 "Authentication required")) v := bind_ok hrun
  rw [bind_error hrefused]
  exact .error hv hvasked

theorem alike_isLockedOut (ip : Option CString) :
    Alike (Faces pf) (Faces pf) (isLockedOut env ip) (Front.isLockedOut env ip) := by
  refine alike_act (fun d f h => ?_) fun d f h => ?_
  · rw [← h]
    rfl
  · rw [← h]
    rfl

/-- `auth_login` moves the front as a guess does. -/
theorem judge_front (random : Vector UInt8 authSessionTokenLen) (username password : CString)
    (ip : Option CString) (d : Device) :
    Front.judge env random username password ip (d.front pf) =
      ((authLogin pf.sha256 d.board.config env.monoNow random username password ip d.auth).2,
        Device.front pf { d with auth :=
          (authLogin pf.sha256 d.board.config env.monoNow random username password
            ip d.auth).1 }) := by
  have hhosts : (d.front pf).hosts = d.auth.hosts := rfl
  unfold Front.judge authLogin
  rw [hhosts]
  rcases authIsLockedOut env.monoNow ip d.auth.hosts with ⟨hosts, locked⟩
  cases locked with
  | true => rfl
  | false =>
      have haccepts : (d.front pf).accepts username password =
        credentialsOk pf.sha256 d.board.config username password := rfl
      dsimp only
      rw [haccepts]
      cases credentialsOk pf.sha256 d.board.config username password <;> rfl

theorem alike_guess (random : Vector UInt8 authSessionTokenLen) (username password : CString)
    (ip : Option CString) : Alike (Faces pf) (Faces pf)
      (loginSession pf env random username password ip)
      (Front.guess env random username password ip) := by
  refine alike_act (fun d f h => ?_) fun d f h => ?_
  · rw [← h, judge_front]
  · rw [← h, judge_front]
    rfl

theorem alike_login : Alike (Faces pf) (Faces pf) (handleLogin pf env req)
    (Front.login pf env req) := by
  refine (alike_isLockedOut _).bind (fun _ _ h => h) fun locked => ?_
  refine (alike_rejectIf _ _ _).bind (fun _ _ h => h) fun _ => ?_
  refine (alike_readJson pf env req 256).bind (fun _ _ h => h) fun json => ?_
  unfold Front.tryCredentials
  generalize CJson.string? (json.getObjectItem (cstr "username")) = username
  generalize CJson.string? (json.getObjectItem (cstr "password")) = password
  rcases username with - | username
  · exact alike_stop (fun _ _ h => h) _
  rcases password with - | password
  · exact alike_stop (fun _ _ h => h) _
  · refine (alike_ask _).bind (fun _ _ h => h) fun random => ?_
    refine (alike_guess _ _ _ _).bind (fun _ _ h => h) fun token => ?_
    cases token with
    | none => exact alike_stop (fun _ _ h => h) _
    | some token =>
        refine alike_read_bind fun d f h => ?_
        rw [← h]
        exact alike_pure (fun _ _ h => h) _

theorem alike_logout : Alike (FacesStranger pf env req) (Faces pf) (handleLogout env req)
    (pure (.ok okBody (some clearedCookie)) : FrontM Response) := by
  unfold handleLogout
  cases authGetTokenFromRequest env.heapTail req with
  | none => exact alike_pure (fun _ _ h => h.faces) _
  | some token =>
      exact .act_left (Q := Faces pf) (fun _ _ h => h.faces)
        fun _ _ _ => alike_pure (fun _ _ h => h) _

theorem alike_getToken : Alike (FacesStranger pf env req) (Faces pf) (handleGetToken env req)
    Front.getToken := by
  intro w w' hface hasked
  have hchanged : w'.state.passwordChanged = w.state.board.config.authInitialized := by
    rw [← hface.faces]
    rfl
  unfold Front.getToken
  rw [bind_ok (read_apply w' _), hchanged]
  cases hinit : w.state.board.config.authInitialized with
  | false =>
      have hlocked :
          requirePasswordChanged w = .error (.respond (.error 403 setupLockedMsg)) w := by
        unfold requirePasswordChanged
        rw [bind_ok (read_apply w _), hinit]
        rfl
      unfold handleGetToken
      rw [bind_error hlocked]
      exact .error hface.faces hasked
  | true =>
      have hopen : requirePasswordChanged w = .ok () w := by
        unfold requirePasswordChanged
        rw [bind_ok (read_apply w _), hinit]
        rfl
      unfold handleGetToken
      rw [bind_ok hopen]
      cases htoken : authGetTokenFromRequest env.heapTail req with
      | none => exact .error hface.faces hasked
      | some token =>
          have hoffers : req.offers pf env token := .inl htoken
          refine Alike.act_left (Q := FacesStranger pf env req) (R := Faces pf)
            (fun _ _ h => h.checked hoffers) (fun d f h => ?_) w w' hface hasked
          show Alike _ _ (if d.validates env token then _ else _) _
          rw [not_validates_of_dead (h.2 token hoffers)]
          exact alike_stop (fun _ _ h => h.faces) _

theorem alike_handshake (hroute : req.route = .ws) :
    Alike (FacesStranger pf env req) (Faces pf) (handleWsHandshake pf env req)
      (pure .close : FrontM Response) := by
  refine .bind_pure (a := none) (Q := FacesStranger pf env req) ?_ ?_
  · refine .bind_pure (alike_tryToken fun t ht => .inl ht) ?_
    exact alike_tryToken fun t ht => .inr ⟨hroute, ht⟩
  · exact .read_left fun _ _ _ => alike_pure (fun _ _ h => h.faces) _

/-- A stranger's request is answered as the front answers it. -/
theorem alike_handler :
    Alike (FacesStranger pf env req) (Faces pf) (handler pf env req)
      (Front.request pf env req) := by
  unfold handler Front.request
  cases hroute : req.route with
  | root => exact alike_pure (fun _ _ h => h.faces) _
  | xterm => exact alike_pure (fun _ _ h => h.faces) _
  | notFound => exact alike_pure (fun _ _ h => h.faces) _
  | login => exact alike_login.pre fun _ _ h => h.faces
  | logout => exact alike_logout
  | token => exact alike_getToken
  | ws => exact alike_handshake hroute
  | configPost =>
      unfold handleConfigPost configPostUpToCredentials readConfigBody
      rw [bind_assoc, bind_assoc]
      exact alike_requireAuth _
  | _ => exact alike_requireAuth _

theorem alike_call {call : Call} (hstranger : call.ofStranger pf env d) :
    SameEnd (Faces pf) (callHandler pf env call d.start)
      (Front.call pf env call (d.front pf).start) := by
  cases call with
  | request req => exact alike_handler _ _ ⟨rfl, hstranger⟩ rfl
  | frame fd frame =>
      have hnobody : touchClient env fd d.start = .ok none d.start := by
        have hfind : findFd fd d.start.state.clients = none := hstranger
        unfold touchClient
        rw [bind_ok (read_apply _ _), hfind]
        rfl
      show SameEnd _ (handleWsFrame pf env fd frame d.start) _
      unfold handleWsFrame
      rw [bind_ok hnobody]
      exact .ok rfl rfl
  | close fd => exact .ok rfl rfl
  | flush frames => exact hstranger.elim
  | background wifi serial => exact hstranger.elim

end

/-! ## What everybody else does -/

/-- The record of failed logins is as it was. -/
def KeepsHosts (d : Device) (_ : List Event) (d' : Device) : Prop :=
  d'.auth.hosts = d.auth.hosts

theorem keepsHosts_composes : Composes KeepsHosts where
  refl _ := rfl
  trans h h' := h'.trans h

section

variable (pf : Platform) (env : Env) (req : Request)

theorem keepsHosts_rules : RouteRules env KeepsHosts where
  composes := keepsHosts_composes
  validate _ := does_act fun _ => rfl
  board _ _ _ := rfl
  reissue _ _ := rfl

/-- Only a login touches the record of failed logins. -/
theorem handler_keepsHosts (hroute : req.route ≠ .login) :
    Does KeepsHosts (handler pf env req) := by
  have hrules := keepsHosts_rules env
  have hlogout : ∀ token, Does KeepsHosts (logoutSession token) := fun _ => does_act fun _ => rfl
  have hrevoke : Does KeepsHosts revokeAll := does_act fun _ => rfl
  have hadd : ∀ fd port token, Does KeepsHosts (addClient env fd port token) :=
    fun _ _ _ => does_act fun _ => rfl
  exact hrules.handler (fun hlogin => absurd hlogin hroute) (fun _ => hrules.handleLogout hlogout)
    (fun _ => hrules.handleConfigPost hrevoke) fun _ => hrules.handleWsHandshake hadd

theorem flushWork_keepsHosts (frames : List (Frame × (Fin maxWsClients → Bool))) :
    Does KeepsHosts (flushWork env frames) :=
  does_flushWork keepsHosts_composes (keepsHosts_rules env).validate (fun _ _ => rfl)
    (fun _ => does_act fun _ => rfl) (fun _ _ => does_act fun _ => rfl) frames

/-- A call that is no login leaves the record of failed logins alone. -/
theorem callHandler_keepsHosts {d : Device} {call : Call}
    (hcall : ∀ req, call = .request req → req.route ≠ .login) :
    ((callHandler pf env call).final d.start).state.auth.hosts = d.auth.hosts := by
  have hdoes : ∀ {m : Handler Response}, Does KeepsHosts m →
      (m.final d.start).state.auth.hosts = d.auth.hosts := by
    intro m hm
    obtain ⟨es, -, hkeeps⟩ := hm d.start
    exact hkeeps
  have hends := ends_callHandler pf env d call
  cases call with
  | request req => exact hdoes (handler_keepsHosts pf env req (hcall req rfl))
  | flush frames => exact hdoes ((flushWork_keepsHosts env frames).bind keepsHosts_composes
      fun _ => does_pure keepsHosts_composes _)
  | close fd => rfl
  | background wifi serial => rfl
  | frame fd frame =>
      unfold Ends at hends
      generalize (callHandler pf env (.frame fd frame)).final d.start = w at hends ⊢
      rcases w with ⟨d', asked, shown⟩
      cases hends <;> rfl

end

/-! ## Runs -/

section

variable {pf : Platform} {mine : Action → Bool} {s t : System} {as : List Action}
  {es : List Event}

/-- The call leaves the record of failed logins as it is. -/
def Action.SparesRecord (pf : Platform) (a : Action) (d : Device) : Prop :=
  ((callHandler pf a.env a.call).final d.start).state.auth.hosts = d.auth.hosts

instance (pf : Platform) (a : Action) (d : Device) : Decidable (a.SparesRecord pf d) :=
  decidable_of_iff (∀ i, ((callHandler pf a.env a.call).final d.start).state.auth.hosts i =
    d.auth.hosts i) funext_iff.symm

/-- The calls that are `mine` in a run are those of strangers.  The others leave the record of
failed logins and the credentials as they are. -/
structure Strangers (pf : Platform) (mine : Action → Bool) (s : System) (as : List Action)
    (es : List Event) : Prop where
  strangers : ∀ u a, (systemMachine pf).Takes s as u a → mine a = true →
    a.call.ofStranger pf a.env u.device
  others : ∀ u a, (systemMachine pf).Takes s as u a → mine a = false → a.SparesRecord pf u.device
  kept : .credentialsChanged ∉ es

/-- The same credentials make the same front. -/
theorem front_congr {d d' : Device} (hhosts : d'.auth.hosts = d.auth.hosts)
    (hsame : d.board.config.SameCredentials d'.board.config) : d'.front pf = d.front pf := by
  unfold Device.front credentialsOk
  rw [hhosts, hsame.authInitialized, hsame.authUser]
  congr 1
  funext username password
  rw [hsame.checkPassword]

/-- Only a login may change the record. -/
theorem sparesRecord_of_not_login {a : Action} {d : Device}
    (hcall : ∀ req, a.call = .request req → req.route ≠ .login) : a.SparesRecord pf d :=
  callHandler_keepsHosts pf a.env hcall

/-- What others do leaves the front as it is. -/
theorem front_of_others {a : Action} (hstep : (systemMachine pf).step s a = some (t, es))
    (hspares : a.SparesRecord pf s.device) (hkept : .credentialsChanged ∉ es)
    (hrunning : t.running = true) :
    t.device.front pf = s.device.front pf := by
  obtain ⟨-, -, -, -, hdevice, -⟩ := systemStep_some hstep
  refine front_congr ?_ ((step_credentials hstep hrunning).resolve_right hkept)
  rw [hdevice]
  exact hspares

/-- A stranger's call is answered by the front and moves it. -/
theorem front_of_mine {a : Action} (hstep : (systemMachine pf).step s a = some (t, es))
    (hstranger : a.call.ofStranger pf a.env s.device) :
    responseOf (callHandler pf a.env a.call s.device.start) =
        Front.replyOf (Front.call pf a.env a.call (s.device.front pf).start) ∧
      t.device.front pf = ((Front.call pf a.env a.call).final (s.device.front pf).start).state := by
  obtain ⟨-, -, -, -, hdevice, -⟩ := systemStep_some hstep
  rw [hdevice]
  have hsame := alike_call hstranger
  unfold final
  generalize callHandler pf a.env a.call s.device.start = r at hsame ⊢
  generalize Front.call pf a.env a.call (s.device.front pf).start = r' at hsame ⊢
  cases hsame with
  | ok hstate => exact ⟨rfl, hstate⟩
  | @error stop _ _ hstate =>
      refine ⟨?_, hstate⟩
      cases stop <;> rfl

theorem Strangers.tail {u : System} {a : Action} {es₁ es₂ : List Event}
    (h : Strangers pf mine s (a :: as) (es₁ ++ es₂))
    (hstep : (systemMachine pf).step s a = some (u, es₁)) : Strangers pf mine u as es₂ where
  strangers v b htakes := h.strangers v b (htakes.cons hstep)
  others v b htakes := h.others v b (htakes.cons hstep)
  kept hmem := h.kept (List.mem_append_right _ hmem)

/-- In every run the device answers strangers as its front does. -/
theorem answersTo_eq_front (hrun : (systemMachine pf).Run s as es t)
    (h : Strangers pf mine s as es) :
    answersTo pf mine s as = (s.device.front pf).answers pf (as.filter mine) := by
  induction as generalizing s es with
  | nil => rfl
  | cons a as ih =>
      obtain ⟨u, es₁, es₂, hstep, hrest, rfl⟩ := hrun.cons_inv
      have hanswers := ih hrest (h.tail hstep)
      have htaken : answersTo pf mine s (a :: as) =
          if mine a then responseOf (callHandler pf a.env a.call s.device.start) ::
            answersTo pf mine u as
          else answersTo pf mine u as := by
        have hstep' : systemStep pf s a = some (u, es₁) := hstep
        rw [answersTo, hstep']
      rw [htaken, hanswers]
      cases hmine : mine a with
      | true =>
          obtain ⟨hreply, hfront⟩ :=
            front_of_mine hstep (h.strangers s a ⟨[], as, [], rfl, .nil⟩ hmine)
          rw [List.filter_cons_of_pos hmine, hreply, hfront]
          rfl
      | false =>
          rw [List.filter_cons_of_neg (by simp [hmine]), if_neg (by simp)]
          -- the last step of a run may stop the device, but then nobody asks any more
          cases as with
          | nil => rfl
          | cons b bs =>
              obtain ⟨v, es₃, es₄, hnext, -, -⟩ := hrest.cons_inv
              rw [front_of_others hstep (h.others s a ⟨[], _, [], rfl, .nil⟩ hmine)
                (fun hmem => h.kept (List.mem_append_left _ hmem)) (systemStep_some hnext).1]

end

/-! ## Two devices -/

/-- The user name and the password a body holds. -/
def credentialsOf (json : CJson) : Option (CString × CString) :=
  match CJson.string? (json.getObjectItem (cstr "username")),
      CJson.string? (json.getObjectItem (cstr "password")) with
  | some username, some password => some (username, password)
  | _, _ => none

/-- The credentials a call tries. -/
def Action.guess (pf : Platform) (a : Action) : Option (CString × CString) :=
  match a.call with
  | .request req =>
      if req.route = .login then
        match (readJson a.env pf req 256 : Proc Unit Empty Stop CJson) ⟨(), 0, []⟩ with
        | .ok json _ => credentialsOf json
        | .error _ _ => none
      else none
  | _ => none

/-- Two fronts that agree on everything but guesses outside of `tried`. -/
structure Front.Agree (tried : CString → CString → Prop) (f f' : Front) : Prop where
  hosts : f.hosts = f'.hosts
  passwordChanged : f.passwordChanged = f'.passwordChanged
  accepts : ∀ username password, tried username password →
    f.accepts username password = f'.accepts username password

section

variable {pf : Platform} {env : Env} {req : Request} {tried : CString → CString → Prop}
  {f f' : Front}

theorem Front.Agree.setHosts (h : f.Agree tried f') (hosts : Hosts) :
    Front.Agree tried { f with hosts := hosts } { f' with hosts := hosts } :=
  ⟨rfl, h.passwordChanged, h.accepts⟩

theorem agree_judge (h : f.Agree tried f') (random : Vector UInt8 authSessionTokenLen)
    {username password : CString} (htried : tried username password) (ip : Option CString) :
    (Front.judge env random username password ip f).1 =
        (Front.judge env random username password ip f').1 ∧
      (Front.judge env random username password ip f).2.Agree tried
        (Front.judge env random username password ip f').2 := by
  unfold Front.judge
  rw [h.hosts, h.accepts _ _ htried]
  rcases authIsLockedOut env.monoNow ip f'.hosts with ⟨hosts, locked⟩
  cases locked with
  | true => exact ⟨rfl, h.setHosts hosts⟩
  | false =>
      dsimp only
      split
      · exact ⟨rfl, h.setHosts _⟩
      · exact ⟨rfl, h.setHosts _⟩

/-- After the body was read two fronts go on alike that agree on the credentials in it. -/
theorem agree_tryCredentials {json : CJson}
    (htried : ∀ username password, credentialsOf json = some (username, password) →
      tried username password) :
    Alike (Front.Agree tried) (Front.Agree tried) (Front.tryCredentials env req json)
      (Front.tryCredentials env req json) := by
  unfold Front.tryCredentials
  unfold credentialsOf at htried
  generalize CJson.string? (json.getObjectItem (cstr "username")) = username at htried
  generalize CJson.string? (json.getObjectItem (cstr "password")) = password at htried
  rcases username with - | username
  · exact alike_stop (fun _ _ h => h) _
  rcases password with - | password
  · exact alike_stop (fun _ _ h => h) _
  refine (alike_ask _).bind (fun _ _ h => h) fun random => ?_
  refine .bind (Q := Front.Agree tried) ?_ (fun _ _ h => h) fun token => ?_
  · have htry := htried username password rfl
    exact alike_act (fun f f' h => (agree_judge h random htry req.peer).1)
      fun f f' h => (agree_judge h random htry req.peer).2
  · cases token with
    | none => exact alike_stop (fun _ _ h => h) _
    | some token =>
        refine alike_read_bind fun f f' h => ?_
        rw [h.passwordChanged]
        exact alike_pure (fun _ _ h => h) _

/-- Two fronts answer a login alike that agree on the credentials it tries. -/
theorem agree_login (h : f.Agree tried f')
    (htried : ∀ json v,
      (readJson env pf req 256 : Proc Unit Empty Stop CJson) ⟨(), 0, []⟩ = .ok json v →
      ∀ username password, credentialsOf json = some (username, password) →
        tried username password) :
    SameEnd (Front.Agree tried) (Front.login pf env req f.start)
      (Front.login pf env req f'.start) := by
  have hcheck : ∀ g : Front, Front.isLockedOut env req.peer g.start =
      .ok (authIsLockedOut env.monoNow req.peer g.hosts).2
        ⟨{ g with hosts := (authIsLockedOut env.monoNow req.peer g.hosts).1 }, 0, []⟩ :=
    fun _ => rfl
  unfold Front.login
  rw [bind_ok (hcheck f), bind_ok (hcheck f'), h.hosts]
  rcases authIsLockedOut env.monoNow req.peer f'.hosts with ⟨hosts, locked⟩
  have hagree := h.setHosts hosts
  cases locked with
  | true => exact .error hagree rfl
  | false =>
      -- the body is the same for a reader that knows nothing
      have hboth := alike_readJson pf env req 256
        (⟨{ f with hosts := hosts }, 0, []⟩ : World Front Empty)
        (⟨{ f' with hosts := hosts }, 0, []⟩ : World Front Empty) hagree rfl
      have hblind := alike_readJson (P := fun _ _ => True) pf env req 256
        (⟨{ f with hosts := hosts }, 0, []⟩ : World Front Empty)
        (⟨(), 0, []⟩ : World Unit Empty) trivial rfl
      show SameEnd _ ((readJson env pf req 256 >>= Front.tryCredentials env req) _)
        ((readJson env pf req 256 >>= Front.tryCredentials env req) _)
      rw [bind_apply, bind_apply]
      generalize readJson env pf req 256 (⟨{ f with hosts := hosts }, 0, []⟩ : World Front Empty) =
        r at hboth hblind ⊢
      generalize readJson env pf req 256 (⟨{ f' with hosts := hosts }, 0, []⟩ : World Front Empty) =
        r' at hboth ⊢
      generalize hunit : (readJson env pf req 256 : Proc Unit Empty Stop CJson) ⟨(), 0, []⟩ =
        r'' at hblind
      cases hboth with
      | error hstate hasked => exact .error hstate hasked
      | ok hstate hasked =>
          cases hblind with
          | ok => exact agree_tryCredentials (htried _ _ hunit) _ _ hstate hasked

/-- Two fronts that agree on the credentials a call tries answer it alike. -/
theorem agree_call {a : Action} (h : f.Agree tried f')
    (htried : ∀ username password, a.guess pf = some (username, password) →
      tried username password) :
    SameEnd (Front.Agree tried) (Front.call pf a.env a.call f.start)
      (Front.call pf a.env a.call f'.start) := by
  cases hcall : a.call with
  | request req =>
      show SameEnd _ (Front.request pf a.env req f.start) (Front.request pf a.env req f'.start)
      unfold Front.request
      cases hroute : req.route with
      | login =>
          refine agree_login h fun json v hrun username password hcred => ?_
          refine htried username password ?_
          unfold Action.guess
          rw [hcall]
          dsimp only
          rw [if_pos hroute, hrun]
          exact hcred
      | token =>
          show SameEnd _ (Front.getToken f.start) (Front.getToken f'.start)
          refine alike_read_bind (P := Front.Agree tried) (fun g g' hg => ?_) _ _ h rfl
          rw [hg.passwordChanged]
          exact .ite (fun _ => alike_stop (fun _ _ h => h) _) fun _ => alike_stop (fun _ _ h => h) _
      | root => exact .ok h rfl
      | xterm => exact .ok h rfl
      | notFound => exact .ok h rfl
      | logout => exact .ok h rfl
      | ws => exact .ok h rfl
      | _ => exact .error h rfl
  | _ => exact .ok h rfl

/-- The answers to calls that only try credentials the fronts agree on. -/
theorem agree_answers {as : List Action} (h : f.Agree tried f')
    (htried : ∀ a ∈ as, ∀ username password, a.guess pf = some (username, password) →
      tried username password) : f.answers pf as = f'.answers pf as := by
  induction as generalizing f f' with
  | nil => rfl
  | cons a as ih =>
      have hcall := agree_call h (htried a (by simp))
      have hend : Front.replyOf (Front.call pf a.env a.call f.start) =
            Front.replyOf (Front.call pf a.env a.call f'.start) ∧
          Front.Agree tried ((Front.call pf a.env a.call).final f.start).state
            ((Front.call pf a.env a.call).final f'.start).state := by
        unfold final
        generalize Front.call pf a.env a.call f.start = r at hcall ⊢
        generalize Front.call pf a.env a.call f'.start = r' at hcall ⊢
        cases hcall with
        | ok hstate => exact ⟨rfl, hstate⟩
        | @error stop _ _ hstate => exact ⟨by cases stop <;> rfl, hstate⟩
      rw [Front.answers, Front.answers, hend.1,
        ih hend.2 fun b hb => htried b (List.mem_cons_of_mem _ hb)]

end

/-- A stranger cannot tell two devices apart that have the same failed logins on record,
are both in setup mode or both not, and find the same guesses right: not by their
settings and secrets, their sessions and sockets, nor by what others do meanwhile, if that
leaves the record of failed logins and the credentials as they are. -/
theorem strangers_cannot_tell {pf : Platform} {mine : Action → Bool} {s s' t t' : System}
    {as as' : List Action} {es es' : List Event} (hrun : (systemMachine pf).Run s as es t)
    (hrun' : (systemMachine pf).Run s' as' es' t') (hsame : as.filter mine = as'.filter mine)
    (h : Strangers pf mine s as es) (h' : Strangers pf mine s' as' es')
    (hhosts : s.device.auth.hosts = s'.device.auth.hosts)
    (hsetup : s.device.board.config.authInitialized = s'.device.board.config.authInitialized)
    (hguesses : ∀ a ∈ as.filter mine, ∀ username password,
      a.guess pf = some (username, password) →
        credentialsOk pf.sha256 s.device.board.config username password =
          credentialsOk pf.sha256 s'.device.board.config username password) :
    answersTo pf mine s as = answersTo pf mine s' as' := by
  have hagree : Front.Agree (fun username password => ∃ a ∈ as.filter mine,
      a.guess pf = some (username, password)) (s.device.front pf) (s'.device.front pf) :=
    ⟨hhosts, hsetup, fun username password ⟨a, ha, hguess⟩ => hguesses a ha _ _ hguess⟩
  calc answersTo pf mine s as
      = (s.device.front pf).answers pf (as.filter mine) := answersTo_eq_front hrun h
    _ = (s'.device.front pf).answers pf (as.filter mine) :=
        agree_answers hagree fun a ha _ _ hguess => ⟨a, ha, hguess⟩
    _ = (s'.device.front pf).answers pf (as'.filter mine) := by rw [hsame]
    _ = answersTo pf mine s' as' := (answersTo_eq_front hrun' h').symm

/-- A guess at the credentials. -/
def guessJson : CString := cstr "\x7b\"username\":\"root\",\"password\":\"root-pass\"\x7d"

/-- A platform that parses logins and the guess. -/
def demoGuessParser : Platform :=
  demoPlatform [(loginJson, loginFields), (guessJson, .object
    [(cstr "username", .string (cstr "root")), (cstr "password", .string (cstr "root-pass"))])]

/-- The guess, over the socket 7. -/
def demoGuess (now : ℕ) : Action :=
  ⟨demoEnv now guessJson, .request { demoRequest .login guessJson.length with fd := 7 }⟩

/-- The requests over that socket. -/
def overSocket (a : Action) : Bool :=
  match a.call with
  | .request req => req.fd == 7
  | _ => false

/-- Another device, with another user and another name. -/
def demoOtherSystem : System :=
  { demoSystem with
    device := demoSystem.device.setBoard { demoSystem.device.board with
      config := { demoSystem.device.board.config with
        authUser := cstr "operator", deviceName := cstr "basement" } } }

/-- On the first device somebody else logs in and the ring is flushed before the guess. -/
def demoGuessed : List Action := [demoLogin 10, demoFlush 20, demoGuess 30]

theorem demoGuess_strangers {s : System} {as : List Action} {es : List Event}
    (has : ∀ a ∈ as, a = demoLogin 10 ∨ a = demoFlush 20 ∨ a = demoGuess 30)
    (hspares : (systemMachine demoGuessParser).checks
      (fun u a => overSocket a || decide (a.SparesRecord demoGuessParser u.device)) s as = true)
    (hkept : .credentialsChanged ∉ es) :
    Strangers demoGuessParser overSocket s as es where
  strangers u a htakes hmine := by
    rcases has a htakes.mem with rfl | rfl | rfl
    · cases hmine
    · cases hmine
    · intro token hoffers
      rcases hoffers with hheader | ⟨hroute, -⟩
      · cases hheader
      · cases hroute
  others u a htakes hmine := by
    rcases has a htakes.mem with rfl | rfl | rfl
    · exact of_decide_eq_true (htakes.of_checks hspares)
    · exact sparesRecord_of_not_login nofun
    · cases hmine
  kept := hkept

/-- A wrong guess is answered alike by two devices, of which one has just let somebody in and
flushed its ring. -/
theorem strangers_cannot_tell_guess :
    answersTo demoGuessParser overSocket demoSystem demoGuessed =
        answersTo demoGuessParser overSocket demoOtherSystem [demoGuess 30] ∧
      answersTo demoGuessParser overSocket demoOtherSystem [demoGuess 30] =
        [some (.error 401 "Invalid credentials")] := by
  obtain ⟨t, es, hrun, hkept⟩ := Machine.Run.exists_of_exec (M := systemMachine demoGuessParser)
    (s := demoSystem) (p := fun _ es => decide (.credentialsChanged ∉ es))
    (show ((systemMachine demoGuessParser).exec demoSystem demoGuessed).any _ = true by
      decide +kernel)
  obtain ⟨t', es', hrun', hkept'⟩ := Machine.Run.exists_of_exec
    (M := systemMachine demoGuessParser) (s := demoOtherSystem)
    (p := fun _ es => decide (.credentialsChanged ∉ es))
    (show ((systemMachine demoGuessParser).exec demoOtherSystem [demoGuess 30]).any _ = true by
      decide +kernel)
  refine ⟨strangers_cannot_tell hrun hrun' rfl
    (demoGuess_strangers ?_ (by decide +kernel) (of_decide_eq_true hkept))
    (demoGuess_strangers ?_ (by decide +kernel) (of_decide_eq_true hkept')) rfl rfl ?_,
    by decide +kernel⟩
  · intro a ha
    simpa [demoGuessed] using ha
  · intro a ha
    exact .inr (.inr (List.mem_singleton.mp ha))
  · intro a ha username password hguess
    obtain rfl : a = demoGuess 30 := List.mem_singleton.mp ha
    have htried : (demoGuess 30).guess demoGuessParser = some (cstr "root", cstr "root-pass") := by
      decide +kernel
    obtain ⟨rfl, rfl⟩ := Prod.mk.inj (Option.some.inj (hguess.symm.trans htried))
    decide +kernel

end WebTerminal
