import WebTerminal.Auth.Login
import WebTerminal.Server.Request
import WebTerminal.Ws.Client

/-!
# The device

The board together with the session table and the WebSocket clients, all of
which are touched on the httpd task only.  The operations of `auth.c` and of the
client table are actions on it that show what they did; a procedure over the
board runs inside the device and leaves the tables alone.
-/

set_option autoImplicit false

namespace WebTerminal

open Proc

/-- `WS_AUTH_RECHECK_US` -/
abbrev wsAuthRecheckUs : ℕ := 1000000

structure Device where
  auth : AuthTables
  clients : WsClients
  board : Board

/-- What the device shows.  Times are microseconds. -/
inductive Event
  | effect (effect : Effect)
  /-- `auth_validate_session` returned true -/
  | accepted (token : CString) (time : ℕ)
  | rejected (token : CString) (time : ℕ)
  /-- a login returned this token -/
  | issued (token : CString) (time : ℕ)
  /-- `GET /api/token` sent this token back -/
  | reissued (token : CString)
  | registered (slot : Fin maxWsClients) (fd : ℤ) (token : CString)
  /-- `ws_evict_client` -/
  | evicted (slot : Fin maxWsClients)
  /-- the credentials were replaced and everything they had opened was closed -/
  | credentialsChanged
  /-- a data frame of this socket is handed to `serial_port_send` -/
  | relayed (fd : ℤ) (port : ℤ) (data : List UInt8)
  /-- a serial frame is handed to `httpd_ws_send_frame_async` -/
  | sent (slot : Fin maxWsClients) (token : CString) (frame : Frame) (time : ℕ)
  | answered (response : Response)
  deriving DecidableEq

abbrev Handler := Proc Device Event Stop

namespace Device

def setBoard (board : Board) (device : Device) : Device := { device with board := board }

def setSessions (sessions : Sessions) (device : Device) : Device :=
  { device with auth := { device.auth with sessions := sessions } }

def setHosts (hosts : Hosts) (device : Device) : Device :=
  { device with auth := { device.auth with hosts := hosts } }

def setClients (clients : WsClients) (device : Device) : Device :=
  { device with clients := clients }

@[simp] theorem setBoard_board (board : Board) (d : Device) :
    (d.setBoard board).board = board := rfl

@[simp] theorem setBoard_auth (board : Board) (d : Device) : (d.setBoard board).auth = d.auth := rfl

@[simp] theorem setBoard_clients (board : Board) (d : Device) :
    (d.setBoard board).clients = d.clients := rfl

@[simp] theorem setSessions_board (sessions : Sessions) (d : Device) :
    (d.setSessions sessions).board = d.board := rfl

@[simp] theorem setSessions_sessions (sessions : Sessions) (d : Device) :
    (d.setSessions sessions).auth.sessions = sessions := rfl

@[simp] theorem setSessions_hosts (sessions : Sessions) (d : Device) :
    (d.setSessions sessions).auth.hosts = d.auth.hosts := rfl

@[simp] theorem setSessions_clients (sessions : Sessions) (d : Device) :
    (d.setSessions sessions).clients = d.clients := rfl

@[simp] theorem setHosts_board (hosts : Hosts) (d : Device) :
    (d.setHosts hosts).board = d.board := rfl

@[simp] theorem setHosts_sessions (hosts : Hosts) (d : Device) :
    (d.setHosts hosts).auth.sessions = d.auth.sessions := rfl

@[simp] theorem setHosts_clients (hosts : Hosts) (d : Device) :
    (d.setHosts hosts).clients = d.clients := rfl

@[simp] theorem setClients_board (clients : WsClients) (d : Device) :
    (d.setClients clients).board = d.board := rfl

@[simp] theorem setClients_auth (clients : WsClients) (d : Device) :
    (d.setClients clients).auth = d.auth := rfl

@[simp] theorem setClients_clients (clients : WsClients) (d : Device) :
    (d.setClients clients).clients = clients := rfl

@[simp] theorem setClients_setClients (clients clients' : WsClients) (d : Device) :
    (d.setClients clients').setClients clients = d.setClients clients := rfl

end Device

/-- Run a procedure of the board inside the device. -/
def onBoard {α : Type} (m : BoardM α) : Handler α :=
  zoom Device.board Device.setBoard Event.effect m

/-- `mono_now` -/
def Env.monoNow (env : Env) : ℕ := env.now / 1000000

section

variable (pf : Platform) (env : Env)

/-! ## Sessions -/

/-- What `auth_validate_session` shows. -/
def validation (token : CString) (now : ℕ) (ok : Bool) : Event :=
  if ok then .accepted token now else .rejected token now

/-- `auth_validate_session` -/
def validateSession (token : CString) : Handler Bool :=
  act fun d =>
    let result := authValidateSession env.monoNow token d.auth.sessions
    (result.2, d.setSessions result.1, [validation token env.now result.2])

/-- `auth_logout` -/
def logoutSession (token : CString) : Handler Unit :=
  act fun d => ((), d.setSessions (authLogout token d.auth.sessions), [])

/-- `auth_is_locked_out` -/
def isLockedOut (ip : Option CString) : Handler Bool :=
  act fun d =>
    let result := authIsLockedOut env.monoNow ip d.auth.hosts
    (result.2, d.setHosts result.1, [])

/-- `auth_login`, with the token bytes `random`. -/
def loginSession (random : Vector UInt8 authSessionTokenLen) (username password : CString)
    (ip : Option CString) : Handler (Option CString) :=
  act fun d =>
    let result :=
      authLogin pf.sha256 d.board.config env.monoNow random username password ip d.auth
    (result.2, { d with auth := result.1 },
      result.2.toList.map fun token => .issued token env.now)

/-- The active slots. -/
def activeSlots (clients : WsClients) : List (Fin maxWsClients) :=
  (List.finRange maxWsClients).filter fun i => (clients i).active

/-- `auth_invalidate_all_sessions` and `web_server_ws_close_all`, the end of a
credential change. -/
def revokeAll : Handler Unit :=
  act fun d =>
    ((), { d with
        auth := { d.auth with sessions := authInvalidateAllSessions d.auth.sessions }
        clients := fun i => { d.clients i with active := false } },
      (activeSlots d.clients).map .evicted ++ [.credentialsChanged])

/-! ## Sockets -/

/-- `ws_add_client` -/
def addClient (fd port : ℤ) (token : CString) : Handler Bool :=
  act fun d =>
    let result := wsAddClient env.now fd port token d.clients
    (result.2.isSome, d.setClients result.1,
      result.2.toList.map fun i => .registered i fd token)

/-- `ws_remove_client` -/
def removeClient (fd : ℤ) : Handler Unit :=
  act fun d => ((), d.setClients (wsRemoveClient fd d.clients), [])

/-- `ws_evict_client` -/
def evictClient (i : Fin maxWsClients) : Handler Unit :=
  act fun d => ((), d.setClients (deactivate i d.clients), [.evicted i])

/-- `ws_touch_client`: the port of the socket, if it may talk. -/
def touchClient (fd : ℤ) : Handler (Option ℤ) := do
  let clients ← read Device.clients
  match findFd fd clients with
  | none => return none
  | some i => do
      let ok ← validateSession env (clients i).token
      if ok then return some (clients i).portIndex
      else do
        evictClient i
        return none

/-- One round of the loop of `ws_revalidate_locked`. -/
def revalidateClient (i : Fin maxWsClients) : Handler Unit := do
  let clients ← read Device.clients
  if (clients i).active && decide ((clients i).lastAuthUs + wsAuthRecheckUs ≤ env.now) then do
    update fun d => d.setClients
      (Function.update d.clients i { d.clients i with lastAuthUs := env.now })
    let ok ← validateSession env (clients i).token
    if ok then return () else evictClient i
  else return ()

/-- `ws_revalidate_locked` -/
def revalidateClients : Handler Unit :=
  (List.finRange maxWsClients).forM fun i => revalidateClient env i

/-- One frame popped from the ring, handed to every client that is to get it. -/
def pushFrame (frame : Frame) (delivered : Fin maxWsClients → Bool) : Handler Unit :=
  act fun d =>
    let result := sendFrame frame delivered d.clients
    ((), d.setClients result.1,
      result.2.map fun i => .sent i (d.clients i).token frame env.now)

/-- `ws_flush_work` on a ring that holds `frames`, each with the answers of the
driver to its sends. -/
def flushWork (frames : List (Frame × (Fin maxWsClients → Bool))) : Handler Unit := do
  revalidateClients env
  frames.forM fun frame => pushFrame env frame.1 frame.2

end

end WebTerminal
