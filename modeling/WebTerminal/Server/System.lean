import WebTerminal.Auth.AuthMachine
import WebTerminal.Lib.Machine
import WebTerminal.Server.Keeps

/-!
# Runs of the device

One power cycle of the device: calls into the firmware on the httpd task, each
one atomic and at one reading of the clock, until the device restarts.  Other
tasks change the state of the radio and of the serial ports between calls.
-/

set_option autoImplicit false

namespace WebTerminal

open Proc

structure System where
  now : ℕ
  running : Bool
  device : Device

inductive Call
  /-- an HTTP request, or the handshake of a WebSocket -/
  | request (req : Request)
  /-- a data frame on a WebSocket -/
  | frame (fd : ℤ) (frame : WsFrame)
  /-- `on_close` -/
  | close (fd : ℤ)
  /-- `ws_flush_work` on a ring that holds these frames -/
  | flush (frames : List (Frame × (Fin maxWsClients → Bool)))
  | background (wifi : Wifi) (serial : Serial)

structure Action where
  env : Env
  call : Call

section

variable (pf : Platform) (env : Env)

/-- The handler registered for a route. -/
def handler (req : Request) : Handler Response :=
  match req.route with
  | .root => handleRoot
  | .xterm => handleXtermJs
  | .login => handleLogin pf env req
  | .logout => handleLogout env req
  | .token => handleGetToken env req
  | .configGet => handleConfigGet env req
  | .configPost => handleConfigPost pf env req
  | .reset => handleReset env req
  | .power => handlePower pf env req
  | .ota => handleOta env req
  | .sysinfo => handleSysinfo env req
  | .wifiScan => handleWifiScan env req
  | .otaCheck => handleOtaCheck pf env req
  | .otaGithub => handleOtaGithub pf env req
  | .tls => handleTlsUpload pf env req
  | .reboot => handleEspReboot env req
  | .ws => handleWsHandshake pf env req
  | .notFound => handle404 req

/-- What a call runs. -/
def callHandler : Call → Handler Response
  | .request req => handler pf env req
  | .frame fd frame => handleWsFrame pf env fd frame
  | .close fd => do
      removeClient fd
      return .accepted
  | .flush frames => do
      flushWork env frames
      return .accepted
  | .background wifi serial => do
      update fun d => d.setBoard { d.board with wifi := wifi, serial := serial }
      return .accepted

end

/-- The response a handler sent, if it did not reset the device. -/
def responseOf : EStateM.Result Stop (World Device Event) Response → Option Response
  | .ok response _ => some response
  | .error (.respond response) _ => some response
  | .error .restart _ => none
  | .error .abort _ => none

/-- The world a call starts in. -/
def Device.start (device : Device) : World Device Event :=
  { state := device, asked := 0, shown := [] }

def systemStep (pf : Platform) (s : System) (a : Action) : Option (System × List Event) :=
  if s.running = false ∨ a.env.now < s.now then none
  else
    let m := callHandler pf a.env a.call
    let response := responseOf (m s.device.start)
    let w := m.final s.device.start
    some ({ now := a.env.now, running := response.isSome, device := w.state },
      w.shown ++ response.toList.map .answered)

def systemMachine (pf : Platform) : Machine System Action Event where
  step := systemStep pf

/-- After boot: the tables are empty, the user name fits its buffer and everything
else is as it may be. -/
structure System.Init (s : System) : Prop where
  running : s.running = true
  named : s.device.board.config.authUser.length ≤ configAuthUserMaxLen
  auth : s.device.auth = authInit
  clients : ∀ i, (s.device.clients i).active = false

/-- What a step does, by what its call does. -/
theorem systemStep_some {pf : Platform} {s t : System} {a : Action} {es : List Event}
    (h : systemStep pf s a = some (t, es)) :
    s.running = true ∧ s.now ≤ a.env.now ∧ t.now = a.env.now ∧
      t.running = (responseOf (callHandler pf a.env a.call s.device.start)).isSome ∧
      t.device = ((callHandler pf a.env a.call).final s.device.start).state ∧
      es = ((callHandler pf a.env a.call).final s.device.start).shown ++
        (responseOf (callHandler pf a.env a.call s.device.start)).toList.map .answered := by
  unfold systemStep at h
  split at h
  next => cases h
  next hrun =>
    obtain ⟨rfl, rfl⟩ := Prod.mk.inj (Option.some.inj h)
    simp only [not_or, Bool.not_eq_false] at hrun
    exact ⟨hrun.1, by omega, rfl, rfl, rfl, rfl⟩

section

variable {pf : Platform} {s : System} {a : Action} {w : World Device Event}

theorem systemStep_eq (hrunning : s.running = true) (htime : s.now ≤ a.env.now) :
    systemStep pf s a =
      let m := callHandler pf a.env a.call
      let response := responseOf (m s.device.start)
      some (⟨a.env.now, response.isSome, (m.final s.device.start).state⟩,
        (m.final s.device.start).shown ++ response.toList.map .answered) := by
  have htakes : ¬(s.running = false ∨ a.env.now < s.now) := by
    rintro (hstopped | hpast)
    · cases hrunning.symm.trans hstopped
    · omega
  exact if_neg htakes

/-- A call that returns its answer. -/
theorem systemStep_of_ok (hrunning : s.running = true) (htime : s.now ≤ a.env.now)
    {response : Response}
    (hcall : callHandler pf a.env a.call s.device.start = .ok response w) :
    (systemMachine pf).step s a =
      some (⟨a.env.now, true, w.state⟩, w.shown ++ [.answered response]) := by
  refine (systemStep_eq hrunning htime).trans ?_
  dsimp only
  rw [hcall, final_of_ok hcall]
  rfl

/-- A call that restarts the device. -/
theorem systemStep_of_restart (hrunning : s.running = true) (htime : s.now ≤ a.env.now)
    (hcall : callHandler pf a.env a.call s.device.start = .error .restart w) :
    (systemMachine pf).step s a = some (⟨a.env.now, false, w.state⟩, w.shown) := by
  refine (systemStep_eq hrunning htime).trans ?_
  dsimp only
  rw [hcall, final_of_error hcall]
  exact congrArg some (congrArg _ (List.append_nil _))

end

/-! ## A device to run -/

/-- A platform that parses the given bodies. -/
def demoPlatform (bodies : List (CString × CJson)) : Platform where
  target := .esp32c6
  sha256 := zeroDigest
  cJSONParse := fun body => (bodies.find? fun entry => entry.1 == body).map Prod.snd
  toUInt32 := fun value => if value = 0x40c2c00000000000 then 9600 else 0
  toInt := fun _ => 0
  queryValue := fun _ _ => none
  mac := (0x12, 0x34)
  x509CrtParse := fun _ => 0
  pkParseKey := fun _ => 0
  pkCheckPair := fun _ _ => 0
  version := cstr "1.0.0"
  scanBeyond := fun _ => (0, 0, 0)

/-- The answers of drivers that accept everything, with a body that arrives at once. -/
def demoEnv (now : ℕ) (body : CString) : Env where
  now := now
  err := fun _ => .ok
  recv := fun _ => .bytes body
  tokenBytes := fun _ => Vector.replicate authSessionTokenLen 0
  saltBytes := fun _ => Vector.replicate configAuthSaltLen 0
  httpHeaders := fun _ => (200, 0)
  scanResult := fun _ => []
  found := fun _ => true
  heapTail := []

/-- A device that runs as an access point with the configuration `adminConfig`. -/
def demoSystem : System where
  now := 0
  running := true
  device :=
    { auth := authInit
      clients := fun _ => { fd := 0, active := false, portIndex := 0, token := [], lastAuthUs := 0 }
      board :=
        { config := adminConfig
          nvs := fun _ => none
          certs := { cert := none, key := none }
          gpio := { powerOn := true, lastResetTime := 0, lastPowerToggle := 0 }
          wifi :=
            { mode := .ap, staConnected := false, retryCount := 0, scanning := false
              reconnectTimer := false, driverMode := .ap, driverStarted := true
              apConfig := ⟨[], 0, [], true⟩, staConfig := ⟨[], []⟩, hostname := []
              mdnsHostname := [], mdnsInstance := [], mdnsService := [] }
          serial :=
            { uartRate := 115200, usbReady := false, usbOpen := false, usbRate := 115200
              lineCoding := 115200 }
          tz := cstr "UTC0" } }

theorem demoSystem_init : demoSystem.Init := ⟨rfl, by decide, rfl, fun _ => rfl⟩

/-- A request with a body of this length and no headers. -/
def demoRequest (route : Route) (contentLen : ℕ) : Request where
  route := route
  fd := 54
  contentLen := contentLen
  cookie := none
  authorization := none
  host := none
  query := none
  peer := some (cstr "192.168.4.2")

/-- The body of a login. -/
def loginJson : CString := cstr "\x7b\"username\":\"admin\",\"password\":\"admin-pass\"\x7d"

/-- `loginJson`, parsed. -/
def loginFields : CJson :=
  .object [(cstr "username", .string (cstr "admin")),
    (cstr "password", .string (cstr "admin-pass"))]

/-- A platform that parses logins. -/
def demoParser : Platform := demoPlatform [(loginJson, loginFields)]

/-- A login at this time. -/
def demoLogin (now : ℕ) : Action :=
  ⟨demoEnv now loginJson, .request (demoRequest .login loginJson.length)⟩

/-- The token the random generator of `demoEnv` yields. -/
def demoToken : CString := generateToken (Vector.replicate authSessionTokenLen 0)

/-- The `Authorization` header with that token. -/
def demoBearer : CString := bearerPrefix ++ demoToken

/-- A handshake with that token. -/
def demoHandshake (now : ℕ) : Action :=
  ⟨demoEnv now [], .request { demoRequest .ws 0 with authorization := some demoBearer }⟩

/-- A flush of one byte of serial output that every client takes. -/
def demoFlush (now : ℕ) : Action :=
  ⟨demoEnv now [], .flush [(⟨0, [0x41]⟩, fun _ => true)]⟩

/-- That byte goes to a client with the token. -/
def demoSent (slot : Fin maxWsClients) (time : ℕ) : Event := .sent slot demoToken ⟨0, [0x41]⟩ time

/-- A settings request with that token and this body. -/
def demoConfigPost (now : ℕ) (body : CString) : Action :=
  ⟨demoEnv now body,
    .request { demoRequest .configPost body.length with authorization := some demoBearer }⟩

end WebTerminal
