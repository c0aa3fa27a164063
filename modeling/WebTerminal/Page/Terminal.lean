import WebTerminal.Lib.FreshTable
import WebTerminal.Lib.Machine
import WebTerminal.Page.Text

/-!
# The terminal of the served page

The script of `index.html` as far as it opens, closes and writes to WebSockets.  Its
handlers run one at a time; what they leave behind in the browser is here as well:
the sockets, the timers and the requests that are under way.  The browser decides
which of them reports next, so a step is one handler, in any order.

A socket keeps two records that the script has no access to: the bytes that were
sent on it and the bytes that were entered while it was the one the page sends on,
each byte with the number of the input it belongs to.  What the page only displays is
left out.
-/

set_option autoImplicit false

namespace WebTerminal

/-! ## What the browser keeps -/

inductive ReadyState
  | connecting
  | open
  | closing
  | closed
  deriving DecidableEq

structure PageSocket where
  token : CString
  port : ℕ
  readyState : ReadyState
  /-- `onclose` is still attached; `onmessage` is never detached -/
  onclose : Bool
  sent : List (ℕ × UInt8)
  entered : List (ℕ × UInt8)

/-- The closure `sendChunk` of one input: what it sends, and from where on. -/
structure Chunks where
  input : ℕ
  /-- the socket the input was entered on -/
  socket : ℕ
  encoded : List UInt8
  i : ℕ

/-- What a timer calls. -/
inductive PageTimer
  /-- the next probe, after the delay of the last one -/
  | scheduleReconnect (delay : ℕ)
  /-- the next bytes of a paste, after 10 ms -/
  | sendChunk (chunks : Chunks)
  /-- the way back to the login form, 1.5 s after a change of password -/
  | loggedOut

/-- A request of `api` whose answer is used for the terminal, by its callback. -/
inductive Xhr
  | startConfig
  | startToken
  | login
  | logout
  | loadConfig
  | password
  /-- the probe of `scheduleReconnect`, with the delay it was started with -/
  | probe (delay : ℕ)

/-- The members of a response that the callbacks read.  A token is absent if it is
missing or empty. -/
structure PageData where
  token : Option CString
  mustChangePassword : Bool
  authInitialized : Option Bool
  ok : Bool

/-- How a request ends: with a network error or a text that is not JSON, or with a
status and a value, `none` for `null`. -/
inductive PageAnswer
  | failed
  | json (status : ℕ) (data : Option PageData)

/-- The variables of the script, and what it has left in the browser. -/
structure Page where
  ws : Option ℕ
  term : Bool
  sessionToken : Option CString
  setupLocked : Bool
  reconnectTimer : Option ℕ
  reconnectDelay : ℕ
  currentPort : ℕ
  sockets : FreshTable PageSocket
  timers : FreshTable PageTimer
  requests : FreshTable Xhr
  /-- the number of inputs so far -/
  inputs : ℕ

/-- A socket on which messages arrive now or later. -/
def PageSocket.live (s : PageSocket) : Bool :=
  s.readyState = .connecting || s.readyState = .open

/-- `ws.close()`. -/
def PageSocket.close (s : PageSocket) : PageSocket :=
  if s.live then { s with readyState := .closing } else s

theorem PageSocket.not_live_close (s : PageSocket) : s.close.live = false := by
  unfold PageSocket.close
  split
  next => rfl
  next h => exact Bool.eq_false_iff.mpr h

namespace Page

/-- `api(…)` for a request whose answer is used. -/
def api (p : Page) (request : Xhr) : Page := { p with requests := p.requests.insert request }

def setTimeout (p : Page) (timer : PageTimer) : Page := { p with timers := p.timers.insert timer }

/-- What a method call on `ws` does to its socket. -/
def onWs (p : Page) (f : PageSocket → PageSocket) : Page :=
  match p.ws with
  | none => p
  | some i => { p with sockets := p.sockets.modify i f }

theorem onWs_of_some {p : Page} {f : PageSocket → PageSocket} {i : ℕ} (hws : p.ws = some i) :
    p.onWs f = { p with sockets := p.sockets.modify i f } := by
  unfold onWs
  split
  next hnone => cases hws.symm.trans hnone
  next j hj =>
    obtain rfl := Option.some.inj (hws.symm.trans hj)
    rfl

/-- The socket the page sends on. -/
def current (p : Page) : Option PageSocket := p.ws.bind p.sockets.get

/-! ## Connecting -/

/-- `if (reconnectTimer) { clearTimeout(reconnectTimer); reconnectTimer = null; }` -/
def clearReconnect (p : Page) : Page :=
  match p.reconnectTimer with
  | none => p
  | some h => { p with timers := p.timers.erase h, reconnectTimer := none }

/-- Only the timer is touched. -/
theorem clearReconnect_eq (p : Page) : p.clearReconnect =
    { p with timers := p.clearReconnect.timers, reconnectTimer := none } := by
  unfold clearReconnect
  cases hhandle : p.reconnectTimer with
  | none => simp [← hhandle]
  | some handle => rfl

section

variable {p : Page}

@[simp] theorem clearReconnect_sockets : p.clearReconnect.sockets = p.sockets := by
  rw [clearReconnect_eq]

@[simp] theorem clearReconnect_ws : p.clearReconnect.ws = p.ws := by
  rw [clearReconnect_eq]

@[simp] theorem clearReconnect_term : p.clearReconnect.term = p.term := by
  rw [clearReconnect_eq]

@[simp] theorem clearReconnect_requests : p.clearReconnect.requests = p.requests := by
  rw [clearReconnect_eq]

@[simp] theorem clearReconnect_sessionToken : p.clearReconnect.sessionToken = p.sessionToken := by
  rw [clearReconnect_eq]

@[simp] theorem clearReconnect_setupLocked : p.clearReconnect.setupLocked = p.setupLocked := by
  rw [clearReconnect_eq]

end

/-- `new WebSocket(…)`, and `ws` is the new socket. -/
def openSocket (p : Page) (token : CString) : Page :=
  { p with
    ws := some p.sockets.next
    sockets := p.sockets.insert ⟨token, p.currentPort, .connecting, true, [], []⟩ }

def connectWs (p : Page) : Page :=
  let p := p.clearReconnect
  match p.sessionToken with
  | none => p
  | some token => if !p.term || p.setupLocked then p else p.openSocket token

def scheduleReconnect (p : Page) : Page :=
  let p := p.clearReconnect
  match p.sessionToken with
  | none => p
  | some _ =>
      { p with reconnectDelay := min (p.reconnectDelay * 2) 15000 }.api (.probe p.reconnectDelay)

section

variable {p : Page}

theorem scheduleReconnect_of_none (h : p.sessionToken = none) :
    p.scheduleReconnect = p.clearReconnect := by
  unfold scheduleReconnect
  dsimp only
  rw [clearReconnect_sessionToken, h]

theorem scheduleReconnect_of_some {token : CString} (h : p.sessionToken = some token) :
    p.scheduleReconnect = { p.clearReconnect with
      reconnectDelay := min (p.clearReconnect.reconnectDelay * 2) 15000
      requests := p.requests.insert (.probe p.clearReconnect.reconnectDelay) } := by
  unfold scheduleReconnect
  dsimp only
  rw [clearReconnect_sessionToken, h]
  simp only [Page.api, clearReconnect_requests]

end

/-- The callback of the probe. -/
def probeAnswered (p : Page) (delay : ℕ) (answer : PageAnswer) : Page :=
  let retry : Page :=
    { p.setTimeout (.scheduleReconnect delay) with reconnectTimer := some p.timers.next }
  let expired : Page := { p with sessionToken := none, reconnectDelay := 1000 }
  match answer with
  | .failed => retry
  | .json status data =>
      if status = 429 then retry
      else
        match if status = 200 then data.bind PageData.token else none with
        | some token => connectWs { p with sessionToken := some token }
        | none => expired

def updateSetupLock (p : Page) (conf : PageData) : Page :=
  let p := { p with setupLocked := conf.authInitialized = some false }
  if !p.setupLocked then p
  else
    let p := p.clearReconnect
    { p.onWs fun s => { s with onclose := false }.close with ws := none }

/-! ## Sessions -/

def onLoginSuccess (p : Page) (data : PageData) : Page :=
  let p := { p with sessionToken := data.token, setupLocked := data.mustChangePassword }
  let p := p.api .loadConfig
  if p.term then p.connectWs else p

/-- The session is over, for a logout and after a change of password. -/
def endSession (p : Page) : Page := { p with sessionToken := none }.onWs PageSocket.close

/-- The callback of a request that is not the probe. -/
def answered (p : Page) (answer : PageAnswer) : Xhr → Page
  | .probe delay => p.probeAnswered delay answer
  | .logout => p.endSession
  | .startConfig =>
      match answer with
      | .json 200 (some conf) => (p.updateSetupLock conf).api .startToken
      | _ => p
  | .startToken =>
      match answer with
      | .json _ (some data) =>
          match data.token with
          | none => p
          | some token =>
              let p := { p with sessionToken := some token }
              if p.term && p.ws.isNone then p.connectWs else p
      | _ => p
  | .login =>
      match answer with
      | .json 200 (some data) => p.onLoginSuccess data
      | _ => p
  | .loadConfig =>
      match answer with
      | .json _ (some conf) => p.updateSetupLock conf
      | _ => p
  | .password =>
      match answer with
      | .json _ (some data) => if data.ok then p.setTimeout .loggedOut else p
      | _ => p

/-- The listener of the port selector. -/
def selectPort (p : Page) (newPort : ℕ) : Page :=
  if newPort = p.currentPort then p
  else
    let p := { p with currentPort := newPort }
    (p.onWs fun s => { s with onclose := false }.close).connectWs

def initTerminal (p : Page) : Page :=
  if p.term then p
  else
    let p := { p with term := true }
    if p.sessionToken.isSome then p.connectWs else p

/-! ## Sending -/

/-- `ws.send(bytes)` on an open socket. -/
def send (p : Page) (input : ℕ) (bytes : List UInt8) : Page :=
  p.onWs fun s => { s with sent := s.sent ++ bytes.map fun b => (input, b) }

/-- `sendChunk`.  Without a socket and on one that is connecting `ws.send` throws, which
ends the paste; on one that is closing or closed it drops the bytes. -/
def sendChunk (p : Page) (chunks : Chunks) : Page :=
  if chunks.encoded.length ≤ chunks.i then p
  else
    let next := PageTimer.sendChunk { chunks with i := chunks.i + 64 }
    match p.current.map PageSocket.readyState with
    | none | some .connecting => p
    | some .open => (p.send chunks.input ((chunks.encoded.drop chunks.i).take 64)).setTimeout next
    | some .closing | some .closed => p.setTimeout next

/-- The record of an input on the current socket. -/
def enter (p : Page) (encoded : List UInt8) : Page :=
  { p.onWs fun s => { s with entered := s.entered ++ encoded.map fun b => (p.inputs, b) } with
    inputs := p.inputs + 1 }

/-- The listener of `term.onData`. -/
def onData (p : Page) (data : JsString) : Page :=
  match p.ws with
  | none => p
  | some socket =>
      if p.current.map PageSocket.readyState = some .open then
        let encoded := data.utf8
        let q := p.enter encoded
        if encoded.length ≤ 64 then q.send p.inputs encoded
        else q.sendChunk ⟨p.inputs, socket, encoded, 0⟩
      else p

end Page

/-! ## Steps -/

inductive PageAction
  | terminalLoaded
  | input (data : JsString)
  | selectPort (port : ℕ)
  | submitLogin
  | clickLogout
  | savePassword
  /-- the handshake of a socket succeeded -/
  | opened (socket : ℕ)
  /-- `onerror`, which only writes the status line -/
  | failed (socket : ℕ)
  /-- the other end started to close a socket -/
  | closing (socket : ℕ)
  | closed (socket : ℕ)
  | answer (request : ℕ) (answer : PageAnswer)
  | fire (timer : ℕ)

namespace Page

def setReadyState (p : Page) (socket : ℕ) (state : ReadyState) : Page :=
  { p with sockets := p.sockets.modify socket fun s => { s with readyState := state } }

/-- What a timer calls. -/
def fired (p : Page) : PageTimer → Page
  | .scheduleReconnect _ => p.scheduleReconnect
  | .sendChunk chunks => p.sendChunk chunks
  | .loggedOut => p.endSession

theorem guard_bind_eq_some {P : Prop} [Decidable P] {o : Option Page} {q : Page}
    (h : (guard P >>= fun _ => o) = some q) : P ∧ o = some q := by
  by_cases hP : P
  · exact ⟨hP, by simpa [guard, hP] using h⟩
  · simp [guard, hP] at h

def step (p : Page) : PageAction → Option Page
  | .terminalLoaded => some p.initTerminal
  | .input data => if p.term then some (p.onData data) else none
  | .selectPort port => some (p.selectPort port)
  | .submitLogin => some (p.api .login)
  | .clickLogout => some (p.api .logout)
  | .savePassword => some (p.api .password)
  | .opened i => do
      let s ← p.sockets.get i
      guard (s.readyState = .connecting)
      return { p.setReadyState i .open with reconnectDelay := 1000 }
  | .failed i => do
      let s ← p.sockets.get i
      guard (s.readyState ≠ .closed)
      return p
  | .closing i => do
      let s ← p.sockets.get i
      guard (s.readyState = .open)
      return p.setReadyState i .closing
  | .closed i => do
      let s ← p.sockets.get i
      guard (s.readyState ≠ .closed)
      let p := p.setReadyState i .closed
      return if s.onclose && p.sessionToken.isSome then p.scheduleReconnect else p
  | .answer k answer => do
      let request ← p.requests.get k
      return { p with requests := p.requests.erase k }.answered answer request
  | .fire h => do
      let timer ← p.timers.get h
      return { p with timers := p.timers.erase h }.fired timer

/-- What a step can do. -/
inductive Stepped (p : Page) : PageAction → Page → Prop
  | terminalLoaded : Stepped p .terminalLoaded p.initTerminal
  | input {data : JsString} (hterm : p.term = true) : Stepped p (.input data) (p.onData data)
  | selectPort {port : ℕ} : Stepped p (.selectPort port) (p.selectPort port)
  | submitLogin : Stepped p .submitLogin (p.api .login)
  | clickLogout : Stepped p .clickLogout (p.api .logout)
  | savePassword : Stepped p .savePassword (p.api .password)
  | opened {i : ℕ} {s : PageSocket} (hsocket : p.sockets.get i = some s)
      (hstate : s.readyState = .connecting) :
      Stepped p (.opened i) { p.setReadyState i .open with reconnectDelay := 1000 }
  | failed {i : ℕ} {s : PageSocket} (hsocket : p.sockets.get i = some s)
      (hstate : s.readyState ≠ .closed) : Stepped p (.failed i) p
  | closing {i : ℕ} {s : PageSocket} (hsocket : p.sockets.get i = some s)
      (hstate : s.readyState = .open) : Stepped p (.closing i) (p.setReadyState i .closing)
  | lost {i : ℕ} {s : PageSocket} (hsocket : p.sockets.get i = some s)
      (hstate : s.readyState ≠ .closed) (honclose : s.onclose = true)
      (htoken : p.sessionToken.isSome = true) :
      Stepped p (.closed i) (p.setReadyState i .closed).scheduleReconnect
  | closed {i : ℕ} {s : PageSocket} (hsocket : p.sockets.get i = some s)
      (hstate : s.readyState ≠ .closed)
      (hquiet : ¬(s.onclose = true ∧ p.sessionToken.isSome = true)) :
      Stepped p (.closed i) (p.setReadyState i .closed)
  | answered {k : ℕ} {answer : PageAnswer} {request : Xhr}
      (hrequest : p.requests.get k = some request) :
      Stepped p (.answer k answer)
        (answered { p with requests := p.requests.erase k } answer request)
  | fired {h : ℕ} {timer : PageTimer} (htimer : p.timers.get h = some timer) :
      Stepped p (.fire h) (fired { p with timers := p.timers.erase h } timer)

theorem step_cases {p q : Page} {a : PageAction} (h : p.step a = some q) : Stepped p a q := by
  cases a with
  | terminalLoaded =>
      obtain rfl := Option.some.inj h
      exact .terminalLoaded
  | input data =>
      simp only [step, Option.ite_none_right_eq_some] at h
      obtain ⟨hterm, h⟩ := h
      obtain rfl := Option.some.inj h
      exact .input hterm
  | selectPort port =>
      obtain rfl := Option.some.inj h
      exact .selectPort
  | submitLogin =>
      obtain rfl := Option.some.inj h
      exact .submitLogin
  | clickLogout =>
      obtain rfl := Option.some.inj h
      exact .clickLogout
  | savePassword =>
      obtain rfl := Option.some.inj h
      exact .savePassword
  | opened i =>
      -- the browser opens a socket that is connecting
      obtain ⟨s, hs, h⟩ := Option.bind_eq_some_iff.mp h
      obtain ⟨hstate, h⟩ := guard_bind_eq_some h
      obtain rfl := Option.some.inj h
      exact .opened hs hstate
  | failed i =>
      obtain ⟨s, hs, h⟩ := Option.bind_eq_some_iff.mp h
      obtain ⟨hstate, h⟩ := guard_bind_eq_some h
      obtain rfl := Option.some.inj h
      exact .failed hs hstate
  | closing i =>
      obtain ⟨s, hs, h⟩ := Option.bind_eq_some_iff.mp h
      obtain ⟨hstate, h⟩ := guard_bind_eq_some h
      obtain rfl := Option.some.inj h
      exact .closing hs hstate
  | closed i =>
      -- `onclose` reconnects unless it was taken off or the page has logged out
      obtain ⟨s, hs, h⟩ := Option.bind_eq_some_iff.mp h
      obtain ⟨hstate, h⟩ := guard_bind_eq_some h
      obtain rfl := Option.some.inj h
      split
      next hlost =>
        obtain ⟨honclose, htoken⟩ := Bool.and_eq_true_iff.mp hlost
        exact .lost hs hstate honclose htoken
      next hquiet => exact .closed hs hstate fun hlost => hquiet (Bool.and_eq_true_iff.mpr hlost)
  | answer k answer =>
      obtain ⟨request, hk, h⟩ := Option.bind_eq_some_iff.mp h
      obtain rfl := Option.some.inj h
      exact .answered hk
  | fire t =>
      obtain ⟨timer, ht, h⟩ := Option.bind_eq_some_iff.mp h
      obtain rfl := Option.some.inj h
      exact .fired ht

/-- The page after its script has run: the first request is under way. -/
def loaded : Page where
  ws := none
  term := false
  sessionToken := none
  setupLocked := false
  reconnectTimer := none
  reconnectDelay := 1000
  currentPort := 0
  sockets := .empty
  timers := .empty
  requests := FreshTable.empty.insert .startConfig
  inputs := 0

end Page

/-- The page in its browser. -/
def pageMachine : Machine Page PageAction Empty where
  step p a := (p.step a).map fun q => (q, [])

theorem pageMachine_step {p q : Page} {a : PageAction} {es : List Empty}
    (h : pageMachine.step p a = some (q, es)) : Page.Stepped p a q := by
  obtain ⟨q', hq, heq⟩ := Option.map_eq_some_iff.mp h
  obtain ⟨rfl, -⟩ := Prod.mk.inj heq
  exact Page.step_cases hq

end WebTerminal
