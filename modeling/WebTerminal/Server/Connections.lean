import WebTerminal.Server.HandlerRules
import WebTerminal.Server.Sockets

/-!
# Connections and the client table

The HTTP server opens and closes connections, and hands the calls on them to the
firmware.  A descriptor is used again only after `close_fn` has run for the
connection that had it, and there is one handshake on a connection at most.  Then
the active clients are open connections, each with what its handshake established.
-/

set_option autoImplicit false

namespace WebTerminal

open Proc

/-- A descriptor, as the HTTP server sees it. -/
inductive Conn
  | closed
  /-- accepted, and no handshake so far -/
  | opened
  | handshaken
  deriving DecidableEq

structure HttpServer where
  system : System
  conns : ℤ → Conn

inductive ServerAction
  /-- a new connection gets this descriptor -/
  | accept (fd : ℤ)
  | call (a : Action)

/-- The HTTP server makes this call. -/
def Call.Dispatched (conns : ℤ → Conn) : Call → Prop
  | .request req => if req.route = .ws then conns req.fd = .opened else conns req.fd ≠ .closed
  | .frame fd _ => conns fd ≠ .closed
  | .close fd => conns fd ≠ .closed
  | .flush _ => True
  | .background _ _ => True

instance (conns : ℤ → Conn) (call : Call) : Decidable (call.Dispatched conns) := by
  unfold Call.Dispatched
  split <;> infer_instance

/-- The connections after a call. -/
def Call.conns (conns : ℤ → Conn) : Call → ℤ → Conn
  | .request req => if req.route = .ws then Function.update conns req.fd .handshaken else conns
  | .close fd => Function.update conns fd .closed
  | .frame _ _ => conns
  | .flush _ => conns
  | .background _ _ => conns

def serverStep (pf : Platform) (s : HttpServer) : ServerAction → Option (HttpServer × List Event)
  | .accept fd =>
      if s.conns fd = .closed then
        some (⟨s.system, Function.update s.conns fd .opened⟩, [])
      else none
  | .call a =>
      if a.call.Dispatched s.conns then
        (systemStep pf s.system a).map fun result => (⟨result.1, a.call.conns s.conns⟩, result.2)
      else none

def serverMachine (pf : Platform) : Machine HttpServer ServerAction Event where
  step := serverStep pf

/-- After boot, before the first connection. -/
structure HttpServer.Init (s : HttpServer) : Prop where
  system : s.system.Init
  conns : ∀ fd, s.conns fd = .closed

/-! ## Entries of the table -/

/-- What the table knows of an active client. -/
structure WsEntry where
  fd : ℤ
  portIndex : ℤ
  token : CString

def WsClient.entry (client : WsClient) : Option WsEntry :=
  if client.active then some ⟨client.fd, client.portIndex, client.token⟩ else none

theorem WsClient.entry_of_active {client : WsClient} (h : client.active = true) :
    client.entry = some ⟨client.fd, client.portIndex, client.token⟩ := if_pos h

theorem WsClient.active_of_entry {client : WsClient} {e : WsEntry} (h : client.entry = some e) :
    client.active = true ∧ e = ⟨client.fd, client.portIndex, client.token⟩ := by
  unfold entry at h
  split at h
  next hactive => exact ⟨hactive, (Option.some.inj h).symm⟩
  next => cases h

/-- Every entry of the table was there before. -/
def NoneAdded (d : Device) (_ : List Event) (d' : Device) : Prop :=
  ∀ i e, (d'.clients i).entry = some e → (d.clients i).entry = some e

theorem noneAdded_composes : Composes NoneAdded where
  refl _ _ _ h := h
  trans h h' i e he := h i e (h' i e he)

theorem noneAdded_of_eq {d d' : Device} {es : List Event}
    (h : ∀ i, (d'.clients i).active = true → d'.clients i = d.clients i) : NoneAdded d es d' := by
  intro i e he
  rwa [← h i (WsClient.active_of_entry he).1]

/-- The operations handlers are made of add nobody. -/
theorem handlerRules_noneAdded (pf : Platform) (env : Env) : HandlerRules pf env NoneAdded where
  composes := noneAdded_composes
  validate _ := does_act fun _ _ _ h => h
  lockout _ := does_act fun _ _ _ h => h
  login _ _ _ _ := does_act fun _ _ _ h => h
  logout _ := does_act fun _ _ _ h => h
  reissue _ _ _ _ h := h
  board h := Does.zoom h fun _ _ _ _ _ _ he => he

theorem noneAdded_onBoard {α : Type} {R : Board → List Effect → Board → Prop} {m : BoardM α}
    (h : Does R m) : Does NoneAdded (onBoard m) :=
  Does.zoom h fun _ _ _ _ _ _ he => he

theorem evictClient_noneAdded (i : Fin maxWsClients) : Does NoneAdded (evictClient i) :=
  does_act fun _ => noneAdded_of_eq fun _ => deactivate_eq_of_active

theorem removeClient_noneAdded (fd : ℤ) : Does NoneAdded (removeClient fd) :=
  does_act fun _ => noneAdded_of_eq fun _ => wsRemoveClient_eq_of_active

theorem revokeAll_noneAdded : Does NoneAdded revokeAll :=
  does_act fun _ => noneAdded_of_eq fun _ h => by cases h

theorem configSetAuth_noneAdded (pf : Platform) (env : Env) (username password : CString) :
    Does NoneAdded (onBoard (configSetAuth pf env username password)) := by
  have hcomposes : Composes fun (_ : Board) (_ : List Effect) (_ : Board) => True :=
    ⟨fun _ => trivial, fun _ _ => trivial⟩
  refine noneAdded_onBoard (Does.bind hcomposes (does_ask hcomposes _) fun salt => ?_)
  exact (configSet_does pf env _).mono fun _ _ _ _ => trivial

theorem handleConfigPost_noneAdded (pf : Platform) (env : Env) (req : Request) :
    Does NoneAdded (handleConfigPost pf env req) := by
  refine .bind noneAdded_composes ?_ fun json => ?_
  · refine (handlerRules_noneAdded pf env).readConfigBody.bind noneAdded_composes fun json => ?_
    exact (noneAdded_onBoard (applySettings_keeps pf env json)).bind noneAdded_composes fun _ =>
      does_pure noneAdded_composes _
  · refine .bind noneAdded_composes ?_ fun _ => does_pure noneAdded_composes _
    unfold changeCredentials
    split
    next => exact does_pure noneAdded_composes _
    next newPass _ =>
      refine (does_rejectIf noneAdded_composes _ _ _).bind noneAdded_composes fun _ => ?_
      refine (does_read noneAdded_composes _).bind noneAdded_composes fun board => ?_
      refine (does_rejectIf noneAdded_composes _ _ _).bind noneAdded_composes fun _ => ?_
      refine (does_rejectIf noneAdded_composes _ _ _).bind noneAdded_composes fun _ => ?_
      exact (configSetAuth_noneAdded pf env _ newPass).bind noneAdded_composes fun _ =>
        revokeAll_noneAdded

theorem flushWork_noneAdded (env : Env) (frames : List (Frame × (Fin maxWsClients → Bool))) :
    Does NoneAdded (flushWork env frames) := by
  refine .bind noneAdded_composes ?_ fun _ => ?_
  · refine does_forM noneAdded_composes (fun i => ?_) _
    refine (revalidateClient_does env i).mono fun d es d' hcase => ?_
    cases hcase with
    | skipped => exact noneAdded_composes.refl d
    | accepted hi =>
        intro j e he
        by_cases hji : j = i
        · subst hji
          simpa [WsClient.entry] using he
        · simpa [Function.update_of_ne hji] using he
    | rejected hi =>
        intro j e he
        by_cases hji : j = i
        · subst hji
          simp [WsClient.entry] at he
        · simpa [Function.update_of_ne hji] using he
  · refine does_forM noneAdded_composes (fun frame => ?_) _
    exact (pushFrame_does env frame).mono fun _ _ _ hlink => noneAdded_of_eq fun _ => hlink.clients

/-- A call that is no handshake adds nobody. -/
theorem callHandler_noneAdded (pf : Platform) (env : Env) {call : Call}
    (h : ∀ req, call = .request req → req.route ≠ .ws) :
    Does NoneAdded (callHandler pf env call) := by
  have hrules := handlerRules_noneAdded pf env
  cases call with
  | request req =>
      refine hrules.handler (fun _ => handleConfigPost_noneAdded pf env req) (fun _ => ?_)
        fun hroute => absurd hroute (h req rfl)
      exact hrules.whenUnlocked (noneAdded_onBoard (wifiScanBody_keeps env))
  | frame fd frame =>
      exact hrules.handleWsFrame evictClient_noneAdded (removeClient_noneAdded fd)
        (fun _ _ _ _ he => he)
        fun port => noneAdded_onBoard (serialPortSend_peripheral pf env port frame.payload)
  | close fd =>
      exact (removeClient_noneAdded fd).bind noneAdded_composes fun _ =>
        does_pure noneAdded_composes _
  | flush frames =>
      exact (flushWork_noneAdded env frames).bind noneAdded_composes fun _ =>
        does_pure noneAdded_composes _
  | background wifi serial =>
      exact .bind noneAdded_composes (does_update fun _ _ _ he => he) fun _ =>
        does_pure noneAdded_composes _

/-! ## Handshakes -/

theorem Request.queryPort_bounds (pf : Platform) (req : Request) :
    0 ≤ req.queryPort pf ∧ req.queryPort pf < pf.target.serialPortMax := by
  have hzero : (0 : ℤ) < pf.target.serialPortMax := by
    cases pf.target <;> decide
  unfold queryPort
  split
  · exact ⟨le_rfl, hzero⟩
  · simp only
    split
    next hport => exact hport
    next => exact ⟨le_rfl, hzero⟩

/-- A handshake that is let in establishes this entry. -/
inductive LetIn (pf : Platform) (d : Device) : ServerAction → WsEntry → Prop
  | handshake {env : Env} {req : Request} {token : CString} {d₁ : Device} {es : List Event}
      {w : World Device Event} (hroute : req.route = .ws) (hpre : Precheck pf env req d d₁ es)
      (hoffers : req.offers pf env token) (hvalid : d₁.validates env token = true)
      (hunlocked : d.board.config.authInitialized = true)
      (hanswer : handleWsHandshake pf env req d.start = .ok .accepted w) :
      LetIn pf d (.call ⟨env, .request req⟩) ⟨req.fd, req.queryPort pf, token⟩

/-- A handshake adds nobody, or what it establishes. -/
theorem handshake_added (pf : Platform) (env : Env) {req : Request} {d : Device}
    (hroute : req.route = .ws) (htokens : SessionTokens d) :
    NoneAdded d [] ((handleWsHandshake pf env req).final d.start).state ∨
      ∃ i e, LetIn pf d (.call ⟨env, .request req⟩) e ∧
        (((handleWsHandshake pf env req).final d.start).state.clients i).entry = some e ∧
          ∀ j, j ≠ i → ((handleWsHandshake pf env req).final d.start).state.clients j =
            d.clients j := by
  obtain ⟨token, w, hrun, hcase⟩ := handshakeToken_cases pf env (d := d) hroute
  obtain ⟨es, -, hnone⟩ :
      ∃ es, _ ∧ NoneAdded d es ((handshakeToken pf env req).final d.start).state :=
    (handlerRules_noneAdded pf env).handshakeToken d.start
  rw [final_of_ok hrun] at hnone
  unfold handleWsHandshake
  rw [final_bind_of_ok hrun, final_bind_of_ok (read_apply _ _)]
  cases hcase with
  -- without a token that is let in nobody is added
  | refused => exact .inl hnone
  | @admitted d₁ es token hpre hoffers hvalid hstate hshown =>
      have htokens₁ : SessionTokens d₁ := by
        cases hpre with
        | none => exact htokens
        | rejected => exact htokens.checked env _
      have hboard : w.state.board = d.board := by rw [hstate, Device.checked_board, hpre.board]
      have hclients : w.state.clients = d.clients := by
        rw [hstate, Device.checked_clients, hpre.clients]
      -- before the setup is over the handshake is refused behind its check
      by_cases hunlocked : w.state.board.config.authInitialized = true
      swap
      · simp only [if_neg hunlocked, pure_final]
        exact .inl hnone
      simp only [if_pos hunlocked]
      have hrest : ∀ (clients : WsClients) (slot : Option (Fin maxWsClients)),
          wsAddClient env.now req.fd (req.queryPort pf) (copyToken token) d.clients =
            (clients, slot) →
            ∃ v, addClient env req.fd (req.queryPort pf) (copyToken token) w = .ok slot.isSome v ∧
              v.state.clients = clients := by
        intro clients slot hadd
        refine ⟨_, by unfold addClient; rw [act_apply, hclients, hadd], rfl⟩
      cases hadd : wsAddClient env.now req.fd (req.queryPort pf) (copyToken token) d.clients with
      | mk clients slot =>
          obtain ⟨v, hrun', hv⟩ := hrest clients slot hadd
          rw [final_bind_of_ok hrun']
          cases slot with
          -- the table is full
          | none =>
              refine .inl (noneAdded_of_eq fun i _ => ?_)
              simp only [Option.isSome_none, Bool.false_eq_true, if_false, pure_final]
              rw [hv, wsAddClient_none hadd]
          | some i =>
              -- the client has its slot, and the handshake is what let it in
              have hanswer : handleWsHandshake pf env req d.start = .ok .accepted v := by
                unfold handleWsHandshake
                rw [bind_ok hrun, bind_ok (read_apply _ _)]
                simp only [if_pos hunlocked]
                rw [bind_ok hrun']
                rfl
              obtain ⟨hnew, hold⟩ := wsAddClient_some hadd
              rw [htokens₁.copyToken hvalid, htokens₁.copyToken hvalid] at hnew
              have hletIn := LetIn.handshake hroute hpre hoffers hvalid (hboard ▸ hunlocked) hanswer
              refine .inr ⟨i, _, hletIn, ?_⟩
              simp only [Option.isSome_some, if_true, pure_final]
              rw [hv, hnew]
              exact ⟨rfl, hold⟩

/-! ## Runs -/

def ServerAction.Closes (fd : ℤ) : ServerAction → Prop
  | .call ⟨_, .close fd'⟩ => fd' = fd
  | _ => False

/-- The run along `as` let the client of this entry in, and has not closed its connection
since. -/
def Established (pf : Platform) (s : HttpServer) (as : List ServerAction) (e : WsEntry) : Prop :=
  ∃ bs b cs u es, as = bs ++ b :: cs ∧ (serverMachine pf).Run s bs es u ∧
    LetIn pf u.system.device b e ∧ ∀ c ∈ cs, ¬c.Closes e.fd

theorem Established.snoc {pf : Platform} {s : HttpServer} {as : List ServerAction} {e : WsEntry}
    (h : Established pf s as e) {a : ServerAction} (ha : ¬a.Closes e.fd) :
    Established pf s (as ++ [a]) e := by
  obtain ⟨bs, b, cs, u, es, rfl, hrun, hletIn, hopen⟩ := h
  refine ⟨bs, b, cs ++ [a], u, es, by simp, hrun, hletIn, fun c hc => ?_⟩
  rcases List.mem_append.mp hc with hc | hc
  · exact hopen c hc
  · exact List.mem_singleton.mp hc ▸ ha

/-- No two entries have one descriptor. -/
def DistinctFds (clients : WsClients) : Prop :=
  ∀ i j e e', (clients i).entry = some e → (clients j).entry = some e' → e.fd = e'.fd → i = j

/-- What holds after the run along `as`. -/
structure TableSound (pf : Platform) (s : HttpServer) (as : List ServerAction) (es : List Event)
    (t : HttpServer) : Prop where
  sockets : SocketsInv t.system.now es t.system.device
  distinct : DistinctFds t.system.device.clients
  handshaken : ∀ i e, (t.system.device.clients i).entry = some e → t.conns e.fd = .handshaken
  established : ∀ i e, (t.system.device.clients i).entry = some e → Established pf s as e

/-- `ws_remove_client` leaves no entry with the descriptor. -/
theorem wsRemoveClient_entry {clients : WsClients} (h : DistinctFds clients) {fd : ℤ}
    {i : Fin maxWsClients} {e : WsEntry} (he : (wsRemoveClient fd clients i).entry = some e) :
    e.fd ≠ fd := by
  intro hfd
  obtain ⟨hactive, -⟩ := WsClient.active_of_entry he
  have hkept := wsRemoveClient_eq_of_active hactive
  rw [hkept] at he hactive
  obtain ⟨-, rfl⟩ := WsClient.active_of_entry he
  cases hfind : findFd fd clients with
  | none =>
      have hi := Fin.eq_false_of_find?_eq_none hfind i
      simp only [hactive, Bool.true_and, beq_eq_false_iff_ne] at hi
      exact hi hfd
  | some j =>
      obtain ⟨hj, hjfd⟩ := findFd_spec hfind
      obtain rfl := h i j _ _ he (WsClient.entry_of_active hj) (hfd.trans hjfd.symm)
      unfold wsRemoveClient at hkept
      rw [hfind] at hkept
      rw [← hkept, deactivate_self] at hactive
      cases hactive

namespace TableSound

variable {pf : Platform} {s t u : HttpServer} {as : List ServerAction} {es fs : List Event}
  {a : ServerAction}

theorem init (hs : s.Init) : TableSound pf s [] [] s := by
  have hnone : ∀ i e, (s.system.device.clients i).entry ≠ some e := by
    intro i e he
    obtain ⟨hactive, -⟩ := WsClient.active_of_entry he
    rw [hs.system.clients] at hactive
    cases hactive
  exact ⟨.init hs.system, fun i _ e _ he => absurd he (hnone i e),
    fun i e he => absurd he (hnone i e), fun i e he => absurd he (hnone i e)⟩

/-- A step that adds nobody, and closes no connection without forgetting its client. -/
theorem keep (h : TableSound pf s as es t) (hsockets : SocketsInv u.system.now fs u.system.device)
    (hnone : NoneAdded t.system.device [] u.system.device)
    (hconns : ∀ i e, (u.system.device.clients i).entry = some e → t.conns e.fd = .handshaken →
      u.conns e.fd = .handshaken ∧ ¬a.Closes e.fd) : TableSound pf s (as ++ [a]) fs u where
  sockets := hsockets
  distinct i j e e' he he' := h.distinct i j e e' (hnone i e he) (hnone j e' he')
  handshaken i e he := (hconns i e he (h.handshaken i e (hnone i e he))).1
  established i e he :=
    (h.established i e (hnone i e he)).snoc (hconns i e he (h.handshaken i e (hnone i e he))).2

/-- A handshake that lets a client in. -/
theorem letIn (h : TableSound pf s as es t) (hrun : (serverMachine pf).Run s as es t)
    (hsockets : SocketsInv u.system.now fs u.system.device) {i : Fin maxWsClients} {e : WsEntry}
    (hletIn : LetIn pf t.system.device a e) (hfresh : t.conns e.fd = .opened)
    (hconns : u.conns = Function.update t.conns e.fd .handshaken)
    (hnew : (u.system.device.clients i).entry = some e)
    (hold : ∀ j, j ≠ i → u.system.device.clients j = t.system.device.clients j) :
    TableSound pf s (as ++ [a]) fs u := by
  have hopen : ∀ fd, ¬a.Closes fd := by
    cases hletIn
    exact fun _ => id
  -- the other entries have other descriptors: there was no handshake on this one
  have hother : ∀ j e', j ≠ i → (u.system.device.clients j).entry = some e' →
      (t.system.device.clients j).entry = some e' ∧ e'.fd ≠ e.fd := by
    intro j e' hj he'
    rw [hold j hj] at he'
    refine ⟨he', fun hfd => ?_⟩
    have hhandshaken := h.handshaken j e' he'
    rw [hfd, hfresh] at hhandshaken
    cases hhandshaken
  refine ⟨hsockets, fun j k e₁ e₂ he₁ he₂ hfd => ?_, fun j e' he' => ?_, fun j e' he' => ?_⟩
  · by_cases hj : j = i
    · subst hj
      obtain rfl := Option.some.inj (hnew.symm.trans he₁)
      by_contra hjk
      exact (hother k e₂ (Ne.symm hjk) he₂).2 hfd.symm
    · obtain ⟨hold₁, hne₁⟩ := hother j e₁ hj he₁
      by_cases hk : k = i
      · subst hk
        obtain rfl := Option.some.inj (hnew.symm.trans he₂)
        exact absurd hfd hne₁
      · exact h.distinct j k e₁ e₂ hold₁ (hother k e₂ hk he₂).1 hfd
  · rw [hconns]
    by_cases hj : j = i
    · subst hj
      obtain rfl := Option.some.inj (hnew.symm.trans he')
      exact Function.update_self ..
    · obtain ⟨hold', hne⟩ := hother j e' hj he'
      rw [Function.update_of_ne hne]
      exact h.handshaken j e' hold'
  · by_cases hj : j = i
    · subst hj
      obtain rfl := Option.some.inj (hnew.symm.trans he')
      exact ⟨as, a, [], t, es, rfl, hrun, hletIn, fun _ hc => by cases hc⟩
    · exact (h.established j e' (hother j e' hj he').1).snoc (hopen _)

/-- A call. -/
theorem call (h : TableSound pf s as es t) (hrun : (serverMachine pf).Run s as es t) {env : Env}
    {call : Call} (hdispatched : call.Dispatched t.conns)
    (hsockets : SocketsInv u.system.now fs u.system.device)
    (hdevice : u.system.device = ((callHandler pf env call).final t.system.device.start).state)
    (hconns : u.conns = call.conns t.conns) :
    TableSound pf s (as ++ [.call ⟨env, call⟩]) fs u := by
  -- only a handshake adds a client
  have hnone : (∀ req, call = .request req → req.route ≠ .ws) →
      NoneAdded t.system.device [] u.system.device := by
    intro hcall
    obtain ⟨_, -, hnone⟩ := callHandler_noneAdded pf env hcall t.system.device.start
    rwa [hdevice]
  cases call with
  | request req =>
      by_cases hroute : req.route = .ws
      · -- the connection is opened and has no client, so the entry of no other one changes
        have hopened : t.conns req.fd = .opened := (if_pos hroute).mp hdispatched
        have hmarked : u.conns = Function.update t.conns req.fd .handshaken :=
          hconns.trans (if_pos hroute)
        have hhandler : callHandler pf env (.request req) = handleWsHandshake pf env req := by
          show handler pf env req = _
          unfold handler
          rw [hroute]
        rw [hhandler] at hdevice
        rcases handshake_added pf env hroute h.sockets.tokens with hnone | hadded
        · rw [← hdevice] at hnone
          refine h.keep hsockets hnone fun i e _ hopen => ⟨?_, id⟩
          rw [hmarked]
          by_cases hfd : e.fd = req.fd
          · rw [hfd, Function.update_self]
          · rw [Function.update_of_ne hfd, hopen]
        · rw [← hdevice] at hadded
          obtain ⟨i, e, hletIn, hnew, hold⟩ := hadded
          have hfd : e.fd = req.fd := by
            cases hletIn
            rfl
          exact h.letIn hrun hsockets hletIn (hfd ▸ hopened) (hfd ▸ hmarked) hnew hold
      · refine h.keep hsockets (hnone fun req' heq => ?_) fun i e _ hopen => ⟨?_, id⟩
        · cases heq
          exact hroute
        · rw [hconns, show (Call.request req).conns t.conns = t.conns from if_neg hroute, hopen]
  | frame fd frame =>
      exact h.keep hsockets (hnone fun _ heq => by cases heq) fun i e _ hopen =>
        ⟨hconns ▸ hopen, id⟩
  | flush frames =>
      exact h.keep hsockets (hnone fun _ heq => by cases heq) fun i e _ hopen =>
        ⟨hconns ▸ hopen, id⟩
  | background wifi serial =>
      exact h.keep hsockets (hnone fun _ heq => by cases heq) fun i e _ hopen =>
        ⟨hconns ▸ hopen, id⟩
  | close fd =>
      -- the client of the connection goes with it, so whoever is left is on another one
      refine h.keep hsockets (hnone fun _ heq => by cases heq) fun i e he hopen => ?_
      have hne : e.fd ≠ fd := by
        rw [hdevice] at he
        exact wsRemoveClient_entry h.distinct he
      refine ⟨?_, fun hcloses => hne hcloses.symm⟩
      rw [hconns]
      exact (Function.update_of_ne hne _ _).trans hopen

theorem step (h : TableSound pf s as es t) (hrun : (serverMachine pf).Run s as es t)
    (hstep : (serverMachine pf).step t a = some (u, fs)) :
    TableSound pf s (as ++ [a]) (es ++ fs) u := by
  cases a with
  | accept fd =>
      have hfd : t.conns fd = .closed := by
        by_contra hne
        simp [serverMachine, serverStep, hne] at hstep
      simp only [serverMachine, serverStep, hfd, if_true, Option.some.injEq, Prod.mk.injEq] at hstep
      obtain ⟨rfl, rfl⟩ := hstep
      refine h.keep (by simpa using h.sockets) (noneAdded_composes.refl _) fun i e he hopen => ?_
      have hne : e.fd ≠ fd := by
        intro heq
        rw [heq, hfd] at hopen
        cases hopen
      exact ⟨(Function.update_of_ne hne _ _).trans hopen, id⟩
  | call a =>
      have hdispatched : a.call.Dispatched t.conns := by
        by_contra hnot
        simp [serverMachine, serverStep, hnot] at hstep
      simp only [serverMachine, serverStep, hdispatched, if_true, Option.map_eq_some_iff,
        Prod.mk.injEq] at hstep
      obtain ⟨⟨u', fs'⟩, hsystem, rfl, rfl⟩ := hstep
      obtain ⟨-, -, -, -, hdevice, -⟩ := systemStep_some hsystem
      exact h.call hrun hdispatched (h.sockets.step hsystem) hdevice rfl

theorem run (hs : s.Init) (hrun : (serverMachine pf).Run s as es t) : TableSound pf s as es t := by
  induction hrun with
  | nil => exact .init hs
  | snoc hrun hstep ih => exact ih.step hrun hstep

end TableSound

theorem Established.port {pf : Platform} {s : HttpServer} {as : List ServerAction} {e : WsEntry}
    (h : Established pf s as e) : 0 ≤ e.portIndex ∧ e.portIndex < pf.target.serialPortMax := by
  obtain ⟨bs, b, cs, u, es, -, -, hletIn, -⟩ := h
  cases hletIn with
  | handshake => exact Request.queryPort_bounds pf _

/-- The active clients have distinct descriptors.  Each is a connection that is open, and
has been since a handshake on it was let in with the client's token, for its port. -/
theorem client_table_sound {pf : Platform} {s t : HttpServer} {as : List ServerAction}
    {es : List Event} (hs : s.Init) (hrun : (serverMachine pf).Run s as es t) :
    (∀ i j, (t.system.device.clients i).active = true → (t.system.device.clients j).active = true →
      (t.system.device.clients i).fd = (t.system.device.clients j).fd → i = j) ∧
    ∀ i, (t.system.device.clients i).active = true →
      t.conns (t.system.device.clients i).fd ≠ .closed ∧
      0 ≤ (t.system.device.clients i).portIndex ∧
      (t.system.device.clients i).portIndex < pf.target.serialPortMax ∧
      Established pf s as ⟨(t.system.device.clients i).fd, (t.system.device.clients i).portIndex,
        (t.system.device.clients i).token⟩ := by
  have h := TableSound.run hs hrun
  refine ⟨fun i j hi hj hfd => ?_, fun i hi => ?_⟩
  · exact h.distinct i j _ _ (WsClient.entry_of_active hi) (WsClient.entry_of_active hj) hfd
  · have he := WsClient.entry_of_active hi
    have hestablished := h.established i _ he
    obtain ⟨hlow, hhigh⟩ := hestablished.port
    have hopen : t.conns (t.system.device.clients i).fd = .handshaken := h.handshaken i _ he
    exact ⟨by rw [hopen]; decide, hlow, hhigh, hestablished⟩

/-- `demoSystem` before the first connection. -/
def demoServer : HttpServer := ⟨demoSystem, fun _ => .closed⟩

theorem demoServer_init : demoServer.Init := ⟨demoSystem_init, fun _ => rfl⟩

/-- A login and a handshake on one connection. -/
def demoClients : List ServerAction :=
  [.accept 54, .call (demoLogin 1000000), .call (demoHandshake 2000000)]

theorem client_table_sound_first :
    ∃ es t, (serverMachine demoParser).Run demoServer demoClients es t ∧
      (t.system.device.clients 0).active = true ∧
      t.conns (t.system.device.clients 0).fd ≠ .closed := by
  obtain ⟨t, es, hrun, htaken⟩ := Machine.Run.exists_of_exec (M := serverMachine demoParser)
    (s := demoServer) (p := fun t _ => (t.system.device.clients 0).active)
    (show ((serverMachine demoParser).exec demoServer demoClients).any _ = true by decide +kernel)
  obtain ⟨-, hsound⟩ := client_table_sound demoServer_init hrun
  exact ⟨es, t, hrun, htaken, (hsound 0 htaken).1⟩

end WebTerminal
