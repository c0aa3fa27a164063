import WebTerminal.Server.ConfigPost
import WebTerminal.Server.Peripherals
import WebTerminal.Server.System

/-!
# What the handlers are made of

A relation between devices that holds across the operations on the tables, and across
every procedure of the board that leaves the settings alone, holds across every handler
that is made of these.  The handlers that do something else besides are parameters.
-/

set_option autoImplicit false

namespace WebTerminal

open Proc

/-- The relation holds across the operations handlers are made of. -/
structure HandlerRules (pf : Platform) (env : Env) (R : Device → List Event → Device → Prop) :
    Prop where
  composes : Composes R
  validate : ∀ token, Does R (validateSession env token)
  lockout : ∀ ip, Does R (isLockedOut env ip)
  login : ∀ random username password ip, Does R (loginSession pf env random username password ip)
  logout : ∀ token, Does R (logoutSession token)
  reissue : ∀ token d, R d [.reissued token] d
  board : ∀ {body : BoardM Response}, Peripheral body → Does R (onBoard body)

namespace HandlerRules

variable {pf : Platform} {env : Env} {R : Device → List Event → Device → Prop}
  (h : HandlerRules pf env R) {req : Request}

include h

theorem requireAuth : Does R (requireAuth env req) := by
  refine .bind h.composes ?_ fun ok => ?_
  · unfold authCheckRequest
    split
    · exact does_pure h.composes _
    · exact h.validate _
  · exact .ite (fun _ => does_pure h.composes _) fun _ => does_stop h.composes _

theorem requirePasswordChanged : Does R requirePasswordChanged := by
  refine (does_read h.composes _).bind h.composes fun board => ?_
  exact .ite (fun _ => does_pure h.composes _) fun _ => does_stop h.composes _

theorem whenUnlocked {body : BoardM Response} (hbody : Does R (onBoard body)) :
    Does R (whenUnlocked env req body) :=
  h.requireAuth.bind h.composes fun _ =>
    h.requirePasswordChanged.bind h.composes fun _ => hbody

theorem handleLogin : Does R (handleLogin pf env req) := by
  refine (h.lockout _).bind h.composes fun locked => ?_
  refine (does_rejectIf h.composes _ _ _).bind h.composes fun _ => ?_
  refine (does_readJson env h.composes pf req 256).bind h.composes fun json => ?_
  split
  · refine (does_ask h.composes _).bind h.composes fun random => ?_
    refine (h.login _ _ _ _).bind h.composes fun token => ?_
    cases token with
    | none => exact does_stop h.composes _
    | some token =>
        exact (does_read h.composes _).bind h.composes fun _ => does_pure h.composes _
  · exact does_stop h.composes _

theorem handleLogout : Does R (handleLogout env req) := by
  unfold WebTerminal.handleLogout
  split
  · exact does_pure h.composes _
  · exact (h.logout _).bind h.composes fun _ => does_pure h.composes _

theorem handleGetToken : Does R (handleGetToken env req) := by
  refine h.requirePasswordChanged.bind h.composes fun _ => ?_
  split
  · exact does_stop h.composes _
  · refine (h.validate _).bind h.composes fun ok => .ite (fun _ => ?_)
      fun _ => does_stop h.composes _
    exact .bind h.composes (does_emit fun d => h.reissue _ d) fun _ => does_pure h.composes _

theorem tryToken (token : Option CString) : Does R (tryToken env token) := by
  cases token with
  | none => exact does_pure h.composes _
  | some token => exact (h.validate token).bind h.composes fun _ => does_pure h.composes _

theorem handshakeToken : Does R (handshakeToken pf env req) := by
  refine (h.tryToken _).bind h.composes fun token => ?_
  cases token with
  | none => exact h.tryToken _
  | some token => exact does_pure h.composes _

theorem handleWsHandshake (hadd : ∀ fd port token, Does R (addClient env fd port token)) :
    Does R (handleWsHandshake pf env req) := by
  refine h.handshakeToken.bind h.composes fun token => ?_
  refine (does_read h.composes _).bind h.composes fun board => ?_
  cases token with
  | none => exact does_pure h.composes _
  | some token =>
      refine .ite (fun _ => ?_) fun _ => does_pure h.composes _
      exact (hadd _ _ _).bind h.composes fun _ => does_pure h.composes _

theorem handleWsFrame {fd : ℤ} {frame : WsFrame} (hevict : ∀ i, Does R (evictClient i))
    (hremove : Does R (removeClient fd)) (hrelay : ∀ port d, R d [.relayed fd port frame.payload] d)
    (hsend : ∀ port, Does R (onBoard (serialPortSend pf env port frame.payload))) :
    Does R (handleWsFrame pf env fd frame) := by
  refine .bind h.composes ?_ fun port => ?_
  · refine (does_read h.composes _).bind h.composes fun clients => ?_
    split
    · exact does_pure h.composes _
    · refine (h.validate _).bind h.composes fun ok => ?_
      refine .ite (fun _ => does_pure h.composes _) fun _ => ?_
      exact (hevict _).bind h.composes fun _ => does_pure h.composes _
  · cases port with
    | none => exact does_pure h.composes _
    | some port =>
        refine (does_ask h.composes _).bind h.composes fun header => ?_
        refine .ite (fun _ => does_pure h.composes _) fun _ => ?_
        refine .ite (fun _ => does_pure h.composes _) fun _ => ?_
        refine .ite (fun _ => hremove.bind h.composes fun _ => does_pure h.composes _) fun _ => ?_
        refine (does_ask h.composes _).bind h.composes fun received => ?_
        refine .ite (fun _ => does_pure h.composes _) fun _ => ?_
        have hrelayed : Does R (do
            emit (.relayed fd port frame.payload)
            let _ ← onBoard (serialPortSend pf env port frame.payload)
            return Response.accepted) :=
          .bind h.composes (does_emit fun d => hrelay port d) fun _ =>
            (hsend port).bind h.composes fun _ => does_pure h.composes _
        cases frame.type with
        | text => exact hrelayed
        | binary => exact hrelayed
        | close => exact hremove.bind h.composes fun _ => does_pure h.composes _
        | other => exact does_pure h.composes _

theorem readConfigBody : Does R (readConfigBody pf env req) := by
  refine h.requireAuth.bind h.composes fun _ => ?_
  refine (does_readJson env h.composes pf req 512).bind h.composes fun json => ?_
  refine (does_read h.composes _).bind h.composes fun board => ?_
  exact (does_rejectIf h.composes _ _ _).bind h.composes fun _ => does_pure h.composes _

/-- All handlers but the three that are asked about. -/
theorem handler (hpost : req.route = .configPost → Does R (handleConfigPost pf env req))
    (hscan : req.route = .wifiScan → Does R (handleWifiScan env req))
    (hws : req.route = .ws → Does R (WebTerminal.handleWsHandshake pf env req)) :
    Does R (handler pf env req) := by
  have hreport : Does R (WebTerminal.requireAuth env req >>= fun _ =>
      (pure .report : Handler Response)) :=
    h.requireAuth.bind h.composes fun _ => does_pure h.composes _
  unfold WebTerminal.handler
  cases hroute : req.route with
  | root => exact does_pure h.composes _
  | xterm => exact does_pure h.composes _
  | login => exact h.handleLogin
  | logout => exact h.handleLogout
  | token => exact h.handleGetToken
  | configGet => exact hreport
  | configPost => exact hpost hroute
  | reset => exact h.whenUnlocked (h.board (resetBody_peripheral env))
  | power => exact h.whenUnlocked (h.board (powerBody_peripheral pf env req))
  | ota => exact h.whenUnlocked (h.board (otaBody_peripheral env req))
  | sysinfo => exact hreport
  | wifiScan => exact hscan hroute
  | otaCheck => exact h.whenUnlocked (h.board (otaCheckBody_peripheral pf env))
  | otaGithub => exact h.whenUnlocked (h.board (otaGithubBody_peripheral pf env))
  | tls => exact h.whenUnlocked (h.board (tlsBody_peripheral pf env req))
  | reboot => exact h.whenUnlocked (h.board espRestart_peripheral)
  | ws => exact hws hroute
  | notFound => exact does_pure h.composes _

end HandlerRules

end WebTerminal
