import WebTerminal.Server.Device
import WebTerminal.Server.OtaGithub
import WebTerminal.Server.Wifi

/-!
# The handlers of web_server.c

One definition for each handler.  The handlers that need a session and a changed
password before anything else share `whenUnlocked`; what they do then concerns
the board alone.  `POST /api/config` is in `Server/ConfigPost.lean`.

Bodies that only report state are not modelled.
-/

set_option autoImplicit false

namespace WebTerminal

open Proc

/-- `SETUP_LOCKED_MSG` -/
def setupLockedMsg : String := "Change the default password in Settings before using this"

section

variable (pf : Platform) (env : Env) (req : Request)

/-- `auth_check_request` -/
def authCheckRequest : Handler Bool :=
  match authGetTokenFromRequest env.heapTail req with
  | none => return false
  | some token => validateSession env token

/-- `require_auth`, and the return of the handler when it fails. -/
def requireAuth : Handler Unit := do
  let ok ← authCheckRequest env req
  if ok then return () else sendJsonError 401 "Authentication required"

/-- `require_password_changed`, and the return of the handler when it fails. -/
def requirePasswordChanged : Handler Unit := do
  let board ← read Device.board
  if board.config.authInitialized then return () else sendJsonError 403 setupLockedMsg

/-- The checks at the start of most handlers. -/
def whenUnlocked (body : BoardM Response) : Handler Response := do
  requireAuth env req
  requirePasswordChanged
  onBoard body

/-! ## Static files -/

/-- `handle_root` -/
def handleRoot : Handler Response := return .report

/-- `handle_xterm_js` -/
def handleXtermJs : Handler Response := return .report

/-- The host without the port, as `handle_404` strips it. -/
def stripPort (host : CString) : CString :=
  if host.head? = some 91 ∧ 93 ∈ host then
    host.takeWhile (· ≠ 93) ++ (host.dropWhile (· ≠ 93)).takeWhile (· ≠ 58)
  else host.takeWhile (· ≠ 58)

/-- The `Location` of `handle_404`. -/
def captiveLocation (host : Option CString) : CString :=
  let fallback := cstr "https://192.168.4.1/"
  match host with
  | none => fallback
  | some host =>
      if 0 < host.length ∧ host.length < 128 ∧ stripPort host ≠ [] then
        strncpy 160 (cstr "https://" ++ stripPort host ++ cstr "/")
      else fallback

/-- `handle_404` -/
def handle404 : Handler Response := return .redirect (captiveLocation req.host)

/-! ## Sessions -/

/-- The body of the response to a login. -/
def loginBody (mustChange : Bool) (token : CString) : CString :=
  cstr "\x7b\"ok\":true,\"must_change_password\":" ++
    (if mustChange then cstr "true" else cstr "false") ++ cstr ",\"token\":\"" ++ token ++
    cstr "\"\x7d"

/-- The cookie a login sets. -/
def sessionCookie (token : CString) : CString :=
  cstr "session=" ++ token ++ cstr "; Path=/; HttpOnly; Secure; SameSite=Strict"

/-- The cookie a logout sets. -/
def clearedCookie : CString :=
  cstr "session=; Path=/; Max-Age=0; HttpOnly; Secure; SameSite=Strict"

/-- `handle_login` -/
def handleLogin : Handler Response := do
  let locked ← isLockedOut env req.peer
  rejectIf (locked = true) 429 "Too many failed attempts. Try again later."
  let json ← readJson env pf req 256
  match CJson.string? (json.getObjectItem (cstr "username")),
      CJson.string? (json.getObjectItem (cstr "password")) with
  | some username, some password => do
      let random ← ask env.tokenBytes
      let token ← loginSession pf env random username password req.peer
      match token with
      | none => sendJsonError 401 "Invalid credentials"
      | some token => do
          let board ← read Device.board
          return .ok (loginBody (!board.config.authInitialized) token) (some (sessionCookie token))
  | _, _ => sendJsonError 400 "Missing username or password"

/-- `handle_logout` -/
def handleLogout : Handler Response := do
  match authGetTokenFromRequest env.heapTail req with
  | none => return .ok okBody (some clearedCookie)
  | some token => do
      logoutSession token
      return .ok okBody (some clearedCookie)

/-- `handle_get_token` -/
def handleGetToken : Handler Response := do
  requirePasswordChanged
  match authGetTokenFromRequest env.heapTail req with
  | none => sendJsonError 401 "Unauthorized"
  | some token => do
      let ok ← validateSession env token
      if ok then do
        emit (.reissued token)
        return .ok (strncpy 128 (cstr "\x7b\"token\":\"" ++ token ++ cstr "\"\x7d")) none
      else sendJsonError 401 "Unauthorized"

/-! ## Reports -/

/-- `handle_sysinfo` -/
def handleSysinfo : Handler Response := do
  requireAuth env req
  return .report

/-- `handle_config_get` -/
def handleConfigGet : Handler Response := do
  requireAuth env req
  return .report

/-! ## The board -/

/-- The body of `handle_wifi_scan`. -/
def wifiScanBody : BoardM Response := do
  let results ← wifiManagerScan env
  match results with
  | none => sendJsonError 500 "Scan failed"
  | some _ => return .report

/-- `handle_wifi_scan` -/
def handleWifiScan : Handler Response := whenUnlocked env req (wifiScanBody env)

/-- The body of `handle_reset`. -/
def resetBody : BoardM Response := do
  let err ← gpioSbcReset env
  rejectIf (err ≠ .ok) 400 "Reset failed"
  return .ok okBody none

/-- `handle_reset` -/
def handleReset : Handler Response := whenUnlocked env req (resetBody env)

/-- The body of `handle_power`: no body asks for a toggle, a body must say what to do. -/
def powerRequest : BoardM EspErr := do
  let body ← readBody env req 128
  match body with
  | .failed => sendJsonError 400 "Invalid request size"
  | .absent => gpioSbcPowerToggle env
  | .complete bytes =>
      match pf.cJSONParse (ofBuffer bytes) with
      | none => sendJsonError 400 "Invalid JSON"
      | some json =>
          match CJson.bool? (json.getObjectItem (cstr "power")) with
          | none => sendJsonError 400 "power must be a boolean"
          | some true => gpioSbcPowerOn env
          | some false => gpioSbcPowerOff env

/-- The end of `handle_power`. -/
def powerBody : BoardM Response := do
  let err ← powerRequest pf env req
  match err with
  | .ok => do
      let gpio ← read Board.gpio
      return .ok (cstr "\x7b\"ok\":true,\"power_on\":" ++
        (if gpio.powerOn then cstr "true" else cstr "false") ++ cstr "\x7d") none
  | .invalidState => sendJsonError 429 "Power change too fast"
  | _ => sendJsonError 400 "Power control failed"

/-- `handle_power` -/
def handlePower : Handler Response := whenUnlocked env req (powerBody pf env req)

/-- The buffer of `handle_ota`. -/
abbrev otaBufLen : ℕ := 4096

/-- The loop of `handle_ota`, and whether it failed.  A round that goes on reads a
byte or is one of four timeouts in a row, which is what the fuel counts. -/
def otaLoop : ℕ → ℕ → ℕ → BoardM Bool
  | 0, _, _ => return false
  | fuel + 1, totalRead, timeouts =>
      if req.contentLen ≤ totalRead then return false
      else do
        let received ← ask env.recv
        match received with
        | .timeout =>
            if timeouts + 1 < 5 then otaLoop fuel totalRead (timeouts + 1) else return true
        | .failed => return true
        | .bytes data =>
            let data := data.take (min otaBufLen (req.contentLen - totalRead))
            if data = [] then return true
            else do
              emit (.otaWrite data)
              let err ← ask env.err
              if err ≠ .ok then return true else otaLoop fuel (totalRead + data.length) 0

/-- `vTaskDelay` and `esp_restart`, after the response was sent. -/
def espRestart : BoardM Response := do
  emit .restart
  stop .restart

/-- The body of `handle_ota`. -/
def otaBody : BoardM Response := do
  let partition ← ask env.found
  rejectIf (partition = false) 400 "No OTA partition available"
  emit .otaBegin
  let err ← ask env.err
  rejectIf (err ≠ .ok) 400 "OTA begin failed"
  let failed ← otaLoop env req (5 * req.contentLen) 0 0
  if failed then do
    emit .otaAbort
    sendJsonError 400 "OTA write failed"
  else do
    emit .otaEnd
    let err ← ask env.err
    rejectIf (err ≠ .ok) 400 "OTA validation failed"
    emit .otaSetBootPartition
    let err ← ask env.err
    rejectIf (err ≠ .ok) 400 "Failed to set boot partition"
    espRestart

/-- `handle_ota` -/
def handleOta : Handler Response := whenUnlocked env req (otaBody env req)

/-- `handle_esp_reboot` -/
def handleEspReboot : Handler Response := whenUnlocked env req espRestart

/-- `MAX_CERT_SIZE` -/
abbrev maxCertSize : ℕ := 4096

/-- `nvs_set_blob` in the `tls_certs` namespace, whose result the firmware ignores. -/
def certsSave (edit : TlsCerts → TlsCerts) : BoardM Unit := do
  let err ← ask env.err
  update fun board => if err = .ok then { board with certs := edit board.certs } else board

/-- The checks of `handle_tls_upload` on a certificate and a key. -/
def checkPair (cert key : CString) : BoardM Unit := do
  rejectIf (pf.x509CrtParse cert ≠ 0) 400 "Invalid certificate"
  rejectIf (pf.pkParseKey key ≠ 0) 400 "Invalid private key"
  rejectIf (pf.pkCheckPair cert key ≠ 0) 400 "Certificate and key do not match"
  rejectIf (maxCertSize < cert.length + 1 ∨ maxCertSize < key.length + 1) 400
    "Cert or key exceeds 4096 bytes"

/-- The body of `handle_tls_upload`. -/
def tlsBody : BoardM Response := do
  rejectIf (req.contentLen = 0 ∨ 8192 < req.contentLen) 400 "Invalid content length"
  let buf ← ask env.found
  rejectIf (buf = false) 400 "Out of memory"
  let body ← readBody env req (req.contentLen + 1)
  match body with
  | .complete bytes =>
      match pf.cJSONParse (ofBuffer bytes) with
      | none => sendJsonError 400 "Invalid JSON"
      | some json =>
          match CJson.string? (json.getObjectItem (cstr "cert")),
              CJson.string? (json.getObjectItem (cstr "key")) with
          | some cert, some key => do
              checkPair pf cert key
              let err ← ask env.err
              rejectIf (err ≠ .ok) 400 "NVS open failed"
              certsSave env fun certs => { certs with cert := some cert }
              certsSave env fun certs => { certs with key := some key }
              let err ← ask env.err
              rejectIf (err ≠ .ok) 400 "Failed to save certs"
              return .ok (cstr
                "\x7b\"ok\":true,\"message\":\"TLS certs updated, reboot to apply\"\x7d") none
          | _, _ => sendJsonError 400 "Missing cert or key"
  | _ => sendJsonError 400 "Failed to read body"

/-- `handle_tls_upload` -/
def handleTlsUpload : Handler Response := whenUnlocked env req (tlsBody pf env req)

/-- The body of `handle_ota_check`. -/
def otaCheckBody : BoardM Response := do
  let result ← otaGithubCheck pf env
  match result with
  | .error _ => sendJsonError 500 "Failed to check for updates"
  | .ok _ => return .report

/-- `handle_ota_check` -/
def handleOtaCheck : Handler Response := whenUnlocked env req (otaCheckBody pf env)

/-- The body of `handle_ota_github`. -/
def otaGithubBody : BoardM Response := do
  let result ← otaGithubCheck pf env
  match result with
  | .error _ => sendJsonError 500 "Failed to check for updates"
  | .ok release => do
      rejectIf (release.updateAvailable = false) 400 "No update available"
      let err ← otaGithubApply env release.assetUrl
      rejectIf (err ≠ .ok) 500 "OTA update failed"
      espRestart

/-- `handle_ota_github` -/
def handleOtaGithub : Handler Response := whenUnlocked env req (otaGithubBody pf env)

/-! ## WebSockets -/

/-- `httpd_query_key_value` into a buffer of `size` bytes. -/
def queryKeyValue (query key : CString) (size : ℕ) : Option CString :=
  (pf.queryValue query key).filter fun value => decide (value.length < size)

/-- The token in the query string of a handshake. -/
def Request.queryToken : Option CString :=
  req.query.bind fun query => queryKeyValue pf query (cstr "token") 128

/-- The port a handshake asks for. -/
def Request.queryPort : ℤ :=
  match req.query.bind fun query => queryKeyValue pf query (cstr "port") 8 with
  | none => 0
  | some portStr =>
      let p := atoi portStr
      if 0 ≤ p ∧ p < pf.target.serialPortMax then p else 0

/-- Try one token of a handshake. -/
def tryToken : Option CString → Handler (Option CString)
  | none => return none
  | some token => do
      let ok ← validateSession env token
      return if ok then some token else none

/-- The token a handshake is let in with: the one in the headers, else the one
in the query string. -/
def handshakeToken : Handler (Option CString) := do
  let token ← tryToken env (authGetTokenFromRequest env.heapTail req)
  match token with
  | some token => return some token
  | none => tryToken env (req.queryToken pf)

/-- `handle_ws` on the handshake. -/
def handleWsHandshake : Handler Response := do
  let token ← handshakeToken pf env req
  let board ← read Device.board
  match token with
  | none => return .close
  | some token =>
      if board.config.authInitialized then do
        let added ← addClient env req.fd (req.queryPort pf) (copyToken token)
        return if added then .accepted else .close
      else return .close

end

/-- The types of WebSocket frames `handle_ws` tells apart. -/
inductive WsType
  | text
  | binary
  | close
  | other
  deriving DecidableEq

/-- A frame on its way in. -/
structure WsFrame where
  type : WsType
  payload : List UInt8

/-- `handle_ws` on a data frame. -/
def handleWsFrame (pf : Platform) (env : Env) (fd : ℤ) (frame : WsFrame) : Handler Response := do
  let port ← touchClient env fd
  match port with
  | none => return .close
  | some port => do
      let header ← ask env.err
      if header ≠ .ok then return .close
      else if frame.payload.length = 0 then return .accepted
      else if 8192 < frame.payload.length then do
        removeClient fd
        return .close
      else do
        let received ← ask env.err
        if received ≠ .ok then return .close
        else
          match frame.type with
          | .text | .binary => do
              emit (.relayed fd port frame.payload)
              let _ ← onBoard (serialPortSend pf env port frame.payload)
              return .accepted
          | .close => do
              removeClient fd
              return .accepted
          | .other => return .accepted

end WebTerminal
