import WebTerminal.Server.ConfigPost
import WebTerminal.Server.Keeps
import WebTerminal.Server.System

/-!
# What the routes have in common

A relation between devices that holds across the check of a token, and across whatever
a procedure does to the board, holds across every handler.  What a login, a logout, a
change of the credentials and a handshake do besides is asked about one by one, so that
a relation may also be proved for all routes but one.
-/

set_option autoImplicit false

namespace WebTerminal

open Proc

/-- The relation holds across what all the handlers do. -/
structure RouteRules (env : Env) (R : Device → List Event → Device → Prop) : Prop where
  composes : Composes R
  validate : ∀ token, Does R (validateSession env token)
  board : ∀ (d : Device) (effects : List Effect) (board : Board),
    R d (effects.map .effect) (d.setBoard board)
  reissue : ∀ token d, R d [.reissued token] d

/-- A procedure of the board touches nothing else. -/
theorem does_onBoard_of {R : Device → List Event → Device → Prop}
    (hboard : ∀ d (effects : List Effect) board, R d (effects.map .effect) (d.setBoard board))
    {α : Type} (m : BoardM α) : Does R (onBoard m) := by
  intro w
  unfold final onBoard zoom
  cases m { state := w.state.board, asked := w.asked, shown := [] } with
  | ok a v => exact ⟨v.shown.map .effect, rfl, hboard _ _ _⟩
  | error r v => exact ⟨v.shown.map .effect, rfl, hboard _ _ _⟩

/-- `ws_flush_work` checks tokens, and edits the slots of the sockets. -/
theorem does_flushWork {env : Env} {R : Device → List Event → Device → Prop} (hR : Composes R)
    (hvalidate : ∀ token, Does R (validateSession env token))
    (hstamp : ∀ (d : Device) (clients : WsClients), R d [] (d.setClients clients))
    (hevict : ∀ i, Does R (evictClient i)) (hpush : ∀ frame sent, Does R (pushFrame env frame sent))
    (frames : List (Frame × (Fin maxWsClients → Bool))) : Does R (flushWork env frames) := by
  have hround : ∀ i, Does R (revalidateClient env i) := by
    intro i
    refine (does_read hR _).bind hR fun clients => .ite (fun _ => ?_) fun _ => does_pure hR _
    refine (does_update fun d => hstamp d _).bind hR fun _ => (hvalidate _).bind hR fun ok => ?_
    exact .ite (fun _ => does_pure hR _) fun _ => hevict i
  have hframe : ∀ frame : Frame × (Fin maxWsClients → Bool),
      Does R (pushFrame env frame.1 frame.2) := fun frame => hpush frame.1 frame.2
  exact (does_forM hR hround _).bind hR fun _ => does_forM hR hframe _

namespace RouteRules

variable {pf : Platform} {env : Env} {R : Device → List Event → Device → Prop}
  (h : RouteRules env R) {req : Request}

include h

theorem onBoard {α : Type} (m : BoardM α) : Does R (onBoard m) := does_onBoard_of h.board m

theorem requireAuth : Does R (requireAuth env req) := by
  refine .bind h.composes ?_ fun ok => ?_
  · unfold authCheckRequest
    split
    · exact does_pure h.composes _
    · exact h.validate _
  · exact .ite (fun _ => does_pure h.composes _) fun _ => does_stop h.composes _

theorem requirePasswordChanged : Does R requirePasswordChanged := by
  refine (does_read h.composes _).bind h.composes fun board => ?_
  exact .ite (fun _ => does_pure h.composes _) fun _ => does_stop h.composes _

theorem whenUnlocked (body : BoardM Response) : Does R (whenUnlocked env req body) :=
  h.requireAuth.bind h.composes fun _ =>
    h.requirePasswordChanged.bind h.composes fun _ => h.onBoard body

theorem handleLogin (hlockout : ∀ ip, Does R (isLockedOut env ip))
    (hlogin : ∀ random username password ip,
      Does R (loginSession pf env random username password ip)) :
    Does R (handleLogin pf env req) := by
  refine (hlockout _).bind h.composes fun locked => ?_
  refine (does_rejectIf h.composes _ _ _).bind h.composes fun _ => ?_
  refine (does_readJson env h.composes pf req 256).bind h.composes fun json => ?_
  split
  · refine (does_ask h.composes _).bind h.composes fun random => ?_
    refine (hlogin _ _ _ _).bind h.composes fun token => ?_
    cases token with
    | none => exact does_stop h.composes _
    | some token =>
        exact (does_read h.composes _).bind h.composes fun _ => does_pure h.composes _
  · exact does_stop h.composes _

theorem handleLogout (hlogout : ∀ token, Does R (logoutSession token)) :
    Does R (handleLogout env req) := by
  unfold WebTerminal.handleLogout
  split
  · exact does_pure h.composes _
  · exact (hlogout _).bind h.composes fun _ => does_pure h.composes _

theorem handleGetToken : Does R (handleGetToken env req) := by
  refine h.requirePasswordChanged.bind h.composes fun _ => ?_
  split
  · exact does_stop h.composes _
  · refine (h.validate _).bind h.composes fun ok => .ite (fun _ => ?_)
      fun _ => does_stop h.composes _
    exact .bind h.composes (does_emit fun d => h.reissue _ d) fun _ => does_pure h.composes _

theorem changeCredentials (hrevoke : Does R revokeAll) (json : CJson) :
    Does R (changeCredentials pf env json) := by
  unfold WebTerminal.changeCredentials
  split
  · exact does_pure h.composes _
  · refine (does_rejectIf h.composes _ _ _).bind h.composes fun _ => ?_
    refine (does_read h.composes _).bind h.composes fun board => ?_
    refine (does_rejectIf h.composes _ _ _).bind h.composes fun _ => ?_
    refine (does_rejectIf h.composes _ _ _).bind h.composes fun _ => ?_
    exact (h.onBoard _).bind h.composes fun _ => hrevoke

theorem handleConfigPost (hrevoke : Does R revokeAll) : Does R (handleConfigPost pf env req) := by
  refine .bind h.composes ?_ fun json => (h.changeCredentials hrevoke json).bind h.composes
    fun _ => does_pure h.composes _
  refine .bind h.composes ?_ fun json =>
    (h.onBoard _).bind h.composes fun _ => does_pure h.composes _
  refine h.requireAuth.bind h.composes fun _ => ?_
  refine (does_readJson env h.composes pf req 512).bind h.composes fun json => ?_
  refine (does_read h.composes _).bind h.composes fun board => ?_
  exact (does_rejectIf h.composes _ _ _).bind h.composes fun _ => does_pure h.composes _

theorem tryToken (token : Option CString) : Does R (tryToken env token) := by
  cases token with
  | none => exact does_pure h.composes _
  | some token => exact (h.validate token).bind h.composes fun _ => does_pure h.composes _

theorem handleWsHandshake (hadd : ∀ fd port token, Does R (addClient env fd port token)) :
    Does R (handleWsHandshake pf env req) := by
  refine .bind h.composes ?_ fun token => ?_
  · refine (h.tryToken _).bind h.composes fun token => ?_
    cases token with
    | none => exact h.tryToken _
    | some token => exact does_pure h.composes _
  · refine (does_read h.composes _).bind h.composes fun board => ?_
    cases token with
    | none => exact does_pure h.composes _
    | some token =>
        refine .ite (fun _ => ?_) fun _ => does_pure h.composes _
        exact (hadd _ _ _).bind h.composes fun _ => does_pure h.composes _

/-- All routes, with the four that are asked about. -/
theorem handler (hlogin : req.route = .login → Does R (WebTerminal.handleLogin pf env req))
    (hlogout : req.route = .logout → Does R (WebTerminal.handleLogout env req))
    (hpost : req.route = .configPost → Does R (WebTerminal.handleConfigPost pf env req))
    (hws : req.route = .ws → Does R (WebTerminal.handleWsHandshake pf env req)) :
    Does R (handler pf env req) := by
  have hreport : Does R (WebTerminal.requireAuth env req >>= fun _ =>
      (pure .report : Handler Response)) :=
    h.requireAuth.bind h.composes fun _ => does_pure h.composes _
  unfold WebTerminal.handler
  cases hroute : req.route with
  | root => exact does_pure h.composes _
  | xterm => exact does_pure h.composes _
  | notFound => exact does_pure h.composes _
  | login => exact hlogin hroute
  | logout => exact hlogout hroute
  | configPost => exact hpost hroute
  | ws => exact hws hroute
  | token => exact h.handleGetToken
  | configGet => exact hreport
  | sysinfo => exact hreport
  | _ => exact h.whenUnlocked _

end RouteRules

end WebTerminal
