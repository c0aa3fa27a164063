import WebTerminal.Server.Sockets

/-!
# Rejected settings requests

`handle_config_post` is no transaction.  What it had applied when it came to a
field it refuses stays applied, and of that field and of those after it nothing
is done.  The credentials, the sessions and the sockets are not touched.
-/

set_option autoImplicit false

namespace WebTerminal

open Proc

/-- The fields of a settings request before the credentials. -/
inductive ConfigField
  | baudRate
  | accessPoint
  | station
  | powerDefault
  | deviceName
  | ntpServer
  | timezone
  | disconnect
  deriving DecidableEq

/-- The fields in the order they are applied. -/
def ConfigField.all : List ConfigField :=
  [.baudRate, .accessPoint, .station, .powerDefault, .deviceName, .ntpServer, .timezone,
    .disconnect]

def ConfigField.apply (pf : Platform) (env : Env) (json : CJson) : ConfigField → BoardM Unit
  | .baudRate => setBaudRate pf env json
  | .accessPoint => setAp pf env json
  | .station => setSta pf env json
  | .powerDefault => setPowerDefault pf env json
  | .deviceName => setDeviceName pf env json
  | .ntpServer => setNtpServer pf env json
  | .timezone => setTimezone pf env json
  | .disconnect => disconnectSta pf env json

/-- The value of the field fails the checks of the firmware itself. -/
def ConfigField.malformed (json : CJson) : ConfigField → Bool
  | .accessPoint =>
      match stringField json "ap_ssid", stringField json "ap_pass" with
      | some ssid, some pass => apSsidRefused ssid || apPassRefused pass
      | _, _ => false
  | .station =>
      match stringField json "sta_ssid", stringField json "sta_pass" with
      | some ssid, some pass => staRefused ssid pass
      | _, _ => false
  | _ => false

section

variable (pf : Platform) (env : Env) (req : Request) (d : Device) (status : ℕ) (message : String)

/-- What a request that is answered with this error has applied. -/
inductive AppliedPart : Device → Prop
  /-- nothing: it has no token -/
  | unauthenticated {u : World Device Event}
      (htoken : authGetTokenFromRequest env.heapTail req = none)
      (hread : readConfigBody pf env req d.start = .error (.respond (.error status message)) u) :
      AppliedPart d
  /-- nothing: its token was not valid, its body not read or not JSON, or its fields not
  those of setup mode -/
  | unread {token : CString} {u : World Device Event}
      (htoken : authGetTokenFromRequest env.heapTail req = some token)
      (hread : readConfigBody pf env req d.start = .error (.respond (.error status message)) u) :
      AppliedPart (d.checked env token)
  /-- the fields `done` of its body; of the field that was refused nothing, unless it was a
  driver that refused it -/
  | fields {token : CString} {json : CJson} {u : World Device Event} {v w : World Board Effect}
      {done rest : List ConfigField} {field : ConfigField}
      (htoken : authGetTokenFromRequest env.heapTail req = some token)
      (hvalid : d.validates env token = true)
      (hread : readConfigBody pf env req d.start = .ok json u)
      (hfields : ConfigField.all = done ++ field :: rest)
      (hdone : done.forM (ConfigField.apply pf env json) ⟨d.board, u.asked, []⟩ = .ok ⟨⟩ v)
      (hstop : field.apply pf env json v = .error (.respond (.error status message)) w)
      (hmalformed : field.malformed json = true → w = v) :
      AppliedPart ((d.checked env token).setBoard w.state)
  /-- all fields of its body but the credentials, which were refused -/
  | settings {token : CString} {json : CJson} {u w : World Device Event} {v : World Board Effect}
      (htoken : authGetTokenFromRequest env.heapTail req = some token)
      (hvalid : d.validates env token = true)
      (hread : readConfigBody pf env req d.start = .ok json u)
      (hdone : ConfigField.all.forM (ConfigField.apply pf env json) ⟨d.board, u.asked, []⟩ =
        .ok ⟨⟩ v)
      (hstop : changeCredentials pf env json
        ⟨(d.checked env token).setBoard v.state, v.asked, u.shown ++ v.shown.map .effect⟩ =
          .error (.respond (.error status message)) w)
      (hrefused : credentialsAccepted pf json v.state.config = false) :
      AppliedPart ((d.checked env token).setBoard v.state)

/-- What a rejected request leaves behind. -/
structure PostRejected (d' : Device) : Prop where
  applied : AppliedPart pf env req d status message d'
  credentials : KeepsCredentials d.board [] d'.board
  auth : d'.auth = d.auth ∨ ∃ token, authGetTokenFromRequest env.heapTail req = some token ∧
    d'.auth = (d.checked env token).auth
  clients : d'.clients = d.clients

end

theorem applySettings_eq (pf : Platform) (env : Env) (json : CJson) :
    applySettings pf env json = ConfigField.all.forM (ConfigField.apply pf env json) := rfl

/-- A field that is malformed is rejected before anything is done about it. -/
theorem apply_malformed {field : ConfigField} {json : CJson} (h : field.malformed json = true)
    (pf : Platform) (env : Env) (w : World Board Effect) :
    ∃ message, field.apply pf env json w = .error (.respond (.error 400 message)) w := by
  cases field with
  | accessPoint =>
      unfold ConfigField.malformed at h
      show ∃ message, setAp pf env json w = _
      unfold setAp
      cases hssid : stringField json "ap_ssid" with
      | none => simp [hssid] at h
      | some ssid =>
          cases hpass : stringField json "ap_pass" with
          | none => simp [hssid, hpass] at h
          | some pass =>
              simp only [hssid, hpass, Bool.or_eq_true] at h
              show ∃ message, (rejectIf (apSsidRefused ssid = true) 400 _ >>= fun _ => _ :
                BoardM Unit) w = _
              -- the name is looked at first, then the password
              by_cases hrefused : apSsidRefused ssid = true
              · rw [bind_error ((rejectIf_apply _ _ _ _).trans (if_pos hrefused))]
                exact ⟨_, rfl⟩
              · rw [bind_ok ((rejectIf_apply _ _ _ _).trans (if_neg hrefused))]
                have hpass := h.resolve_left hrefused
                rw [bind_error ((rejectIf_apply _ _ _ _).trans (if_pos hpass))]
                exact ⟨_, rfl⟩
  | station =>
      unfold ConfigField.malformed at h
      show ∃ message, setSta pf env json w = _
      unfold setSta
      cases hssid : stringField json "sta_ssid" with
      | none => simp [hssid] at h
      | some ssid =>
          cases hpass : stringField json "sta_pass" with
          | none => simp [hssid, hpass] at h
          | some pass =>
              simp only [hssid, hpass] at h
              -- the manager refuses the pair before it stores it
              have hconnect : wifiManagerConnectSta pf env ssid pass w = .ok .invalidArg w := by
                unfold wifiManagerConnectSta
                rw [if_pos h]
                rfl
              show ∃ message, (wifiManagerConnectSta pf env ssid pass >>= fun _ => _ :
                BoardM Unit) w = _
              rw [bind_ok hconnect]
              exact ⟨_, rfl⟩
  | _ => cases h

/-- A settings request shows an answer only at its end. -/
theorem CallCase.not_answered {pf : Platform} {env : Env} {req : Request} {d d' : Device}
    {es : List Event} (hcase : CallCase pf env d (.request req) d' es) (response : Response) :
    .answered response ∉ es := by
  intro hmem
  cases hcase with
  | checked hpre => rcases hpre.shown_checked _ _ hmem with ⟨_, h | h⟩ <;> cases h
  | registered hpre => cases hpre <;> simp at hmem
  | _ => simp at hmem

/-! ## Where the handler stops -/

theorem of_onBoard_error {α : Type} {m : BoardM α} {w v : World Device Event} {r : Stop}
    (h : onBoard m w = .error r v) :
    ∃ u, m ⟨w.state.board, w.asked, []⟩ = .error r u ∧ v.state = w.state.setBoard u.state := by
  cases hrun : m ⟨w.state.board, w.asked, []⟩ with
  | ok a u => cases (onBoard_ok hrun).symm.trans h
  | error r' u =>
      cases (onBoard_error hrun).symm.trans h
      exact ⟨u, rfl, rfl⟩

theorem of_onBoard_ok {α : Type} {m : BoardM α} {w v : World Device Event} {a : α}
    (h : onBoard m w = .ok a v) : ∃ u, m ⟨w.state.board, w.asked, []⟩ = .ok a u ∧
      v = ⟨w.state.setBoard u.state, u.asked, w.shown ++ u.shown.map .effect⟩ := by
  cases hrun : m ⟨w.state.board, w.asked, []⟩ with
  | error r u => cases (onBoard_error hrun).symm.trans h
  | ok a' u =>
      cases (onBoard_ok hrun).symm.trans h
      exact ⟨u, rfl, rfl⟩

section

variable {pf : Platform} {env : Env} {req : Request} {d : Device} {status : ℕ} {message : String}

/-- A rejection before the first field. -/
theorem postRejected_unread {d' : Device} (happlied : AppliedPart pf env req d status message d')
    (h : d' = d ∨ ∃ token, authGetTokenFromRequest env.heapTail req = some token ∧
      d' = d.checked env token) : PostRejected pf env req d status message d' := by
  refine ⟨happlied, ?_, ?_, ?_⟩
  · rcases h with rfl | ⟨token, -, rfl⟩ <;> exact keepsCredentials_of_eq rfl rfl
  · exact h.imp (congrArg Device.auth) fun ⟨token, htoken, heq⟩ =>
      ⟨token, htoken, congrArg Device.auth heq⟩
  · rcases h with rfl | ⟨token, -, rfl⟩ <;> rfl

/-- A rejection after some fields were applied. -/
theorem postRejected_applied {token : CString} {board : Board} {effects : List Effect}
    (htoken : authGetTokenFromRequest env.heapTail req = some token)
    (happlied : AppliedPart pf env req d status message ((d.checked env token).setBoard board))
    (hkeeps : KeepsCredentials d.board effects board) :
    PostRejected pf env req d status message ((d.checked env token).setBoard board) :=
  ⟨happlied, ⟨hkeeps.config, hkeeps.stored⟩, .inr ⟨token, htoken, rfl⟩, rfl⟩

/-- The credentials are rejected before anything is done about them. -/
theorem changeCredentials_error {json : CJson} {w u : World Device Event} {response : Response}
    (h : changeCredentials pf env json w = .error (.respond response) u) :
    u = w ∧ credentialsAccepted pf json w.state.board.config = false := by
  have hcases := changeCredentials_cases pf env json w
  rw [h] at hcases
  cases hcases with
  | refused hrefused => exact ⟨rfl, hrefused⟩

theorem handleConfigPost_error {w : World Device Event}
    (h : handleConfigPost pf env req d.start = .error (.respond (.error status message)) w) :
    PostRejected pf env req d status message w.state := by
  unfold handleConfigPost configPostUpToCredentials at h
  simp only [bind_assoc] at h
  have hcases := readConfigBody_cases pf env req d.start
  generalize hread : readConfigBody pf env req d.start = result at hcases
  cases hcases with
  | absent htoken stop =>
      rw [bind_error hread] at h
      cases h
      exact postRejected_unread (.unauthenticated htoken hread) (.inl rfl)
  | invalid htoken _ stop =>
      rw [bind_error hread] at h
      cases h
      exact postRejected_unread (.unread htoken hread) (.inr ⟨_, htoken, rfl⟩)
  | refused htoken _ hstate _ stop =>
      rw [bind_error hread] at h
      cases h
      rw [hstate]
      exact postRejected_unread (.unread htoken hread) (.inr ⟨_, htoken, rfl⟩)
  | @complete token json v htoken hvalid hstate hshown =>
      rw [bind_ok hread] at h
      have hboard : v.state.board = d.board := by rw [hstate]; rfl
      have hkeeps := applySettings_keeps pf env json ⟨v.state.board, v.asked, []⟩
      rw [hboard] at hkeeps
      rcases of_bind_error h with happly | ⟨_, v₁, happly, hrest⟩
      · -- a field was rejected
        obtain ⟨u, hrun, hw⟩ := of_onBoard_error happly
        rw [hboard, applySettings_eq] at hrun
        obtain ⟨effects, -, hkept⟩ := hkeeps
        rw [applySettings_eq, final_of_error hrun] at hkept
        obtain ⟨done, field, rest, v₀, hfields, hdone, hstop⟩ := of_forM_error hrun
        rw [hw, hstate]
        refine postRejected_applied htoken (.fields htoken hvalid hread hfields hdone hstop ?_)
          hkept
        intro hmalformed
        obtain ⟨message', hnothing⟩ := apply_malformed hmalformed pf env v₀
        cases hnothing.symm.trans hstop
        rfl
      · -- the credentials were rejected
        obtain ⟨u, hrun, rfl⟩ := of_onBoard_ok happly
        rw [hboard] at hrun
        obtain ⟨effects, -, hkept⟩ := hkeeps
        rw [final_of_ok hrun] at hkept
        rw [bind_ok (pure_apply _ _)] at hrest
        rcases of_bind_error hrest with hchange | ⟨_, v₂, hchange, hpure⟩
        · obtain ⟨rfl, hrefused⟩ := changeCredentials_error hchange
          rw [hstate] at hchange ⊢
          exact postRejected_applied htoken (.settings htoken hvalid hread hrun hchange hrefused)
            hkept
        · cases hpure

/-- The handler returns with the answer `{"ok":true}` only. -/
theorem handleConfigPost_ok {w w' : World Device Event} {response : Response}
    (h : handleConfigPost pf env req w = .ok response w') : response = .ok okBody none := by
  obtain ⟨json, v, -, hrest⟩ := of_bind_ok h
  obtain ⟨_, v', -, hpure⟩ := of_bind_ok hrest
  cases hpure
  rfl

end

/-- A settings request that is answered with an error has left the credentials, the
sockets and the sessions alone and has applied the fields before the one refused. -/
theorem config_post_rejected {pf : Platform} {s t : System} {a : Action} {es : List Event}
    {req : Request} {status : ℕ} {message : String}
    (hstep : (systemMachine pf).step s a = some (t, es)) (hcall : a.call = .request req)
    (hroute : req.route = .configPost) (herror : .answered (.error status message) ∈ es) :
    PostRejected pf a.env req s.device status message t.device := by
  have hhandler : callHandler pf a.env a.call = handleConfigPost pf a.env req := by
    rw [hcall]
    exact callHandler_configPost pf a.env hroute
  have hcase : CallCase pf a.env s.device a.call _ _ := ends_callHandler pf a.env s.device a.call
  obtain ⟨-, -, -, -, hdevice, hes⟩ := systemStep_some hstep
  rw [hhandler] at hcase hdevice hes
  rw [hcall] at hcase
  rw [hes] at herror
  have hanswer := (List.mem_append.mp herror).resolve_left (hcase.not_answered _)
  have hresponse : responseOf (handleConfigPost pf a.env req s.device.start) =
      some (.error status message) := by simpa using hanswer
  cases hrun : handleConfigPost pf a.env req s.device.start with
  | ok response w =>
      -- a handler that returns has sent no error
      rw [hrun, handleConfigPost_ok hrun] at hresponse
      cases hresponse
  | error stop w =>
      rw [final_of_error hrun] at hdevice
      rw [hrun] at hresponse
      rw [hdevice]
      cases stop with
      | respond response =>
          obtain rfl := Option.some.inj hresponse
          exact handleConfigPost_error hrun
      | restart => cases hresponse
      | abort => cases hresponse

/-- A body with a new rate and a password that is too short. -/
def rateJson : CString := cstr "\x7b\"baud_rate\":9600,\"new_password\":\"short\"\x7d"

/-- `rateJson`, parsed. -/
def rateFields : CJson :=
  .object [(cstr "baud_rate", .number 0x40c2c00000000000),
    (cstr "new_password", .string (cstr "short"))]

/-- A platform that parses logins and this body. -/
def demoRater : Platform := demoPlatform [(loginJson, loginFields), (rateJson, rateFields)]

/-- The answer to that body. -/
def shortPassword : Response := .error 400 "New password must be 8+ characters"

/-- The request with that body in a run: it is answered with an error, and yet the
stored rate is the new one. -/
theorem demoRater_run :
    ∃ h s es t, (systemMachine demoRater).Run demoSystem [demoLogin 10] h s ∧
      (systemMachine demoRater).step s (demoConfigPost 20 rateJson) = some (t, es) ∧
      .answered shortPassword ∈ es ∧ s.device.board.config.baudRate 0 = 115200 ∧
      t.device.board.config.baudRate 0 = 9600 := by
  obtain ⟨s, h, t, es, hlogin, hpost, hrate, hend⟩ := Machine.Run.exists_of_exec_exec
    (M := systemMachine demoRater) (s := demoSystem)
    (p := fun s _ => decide (s.device.board.config.baudRate 0 = 115200))
    (q := fun t es => decide (.answered shortPassword ∈ es ∧
      t.device.board.config.baudRate 0 = 9600))
    (show ((systemMachine demoRater).exec demoSystem [demoLogin 10]).any (fun r => _ &&
      ((systemMachine demoRater).exec r.1 [demoConfigPost 20 rateJson]).any _) = true by
      decide +kernel)
  obtain ⟨hanswer, hrate'⟩ := of_decide_eq_true hend
  exact ⟨h, s, es, t, hlogin, hpost.single_inv, hanswer, of_decide_eq_true hrate, hrate'⟩

/-- What that request leaves behind. -/
theorem config_post_rejected_rate :
    ∃ h s es t, (systemMachine demoRater).Run demoSystem [demoLogin 10] h s ∧
      (systemMachine demoRater).step s (demoConfigPost 20 rateJson) = some (t, es) ∧
      ∃ req, (demoConfigPost 20 rateJson).call = .request req ∧
        PostRejected demoRater (demoEnv 20 rateJson) req s.device 400
          "New password must be 8+ characters" t.device := by
  obtain ⟨h, s, es, t, hlogin, hstep, hanswer, -⟩ := demoRater_run
  exact ⟨h, s, es, t, hlogin, hstep, _, rfl, config_post_rejected hstep rfl rfl hanswer⟩

/-- A rejected request does not leave the stored configuration as it was. -/
theorem config_post_rejected_midway :
    ¬∀ s t a es req status message, (systemMachine demoRater).Reachable System.Init s →
      (systemMachine demoRater).step s a = some (t, es) → a.call = .request req →
      req.route = .configPost → .answered (.error status message) ∈ es →
      t.device.board.config = s.device.board.config := by
  intro hclaim
  obtain ⟨h, s, es, t, hlogin, hstep, hanswer, hrate, hrate'⟩ := demoRater_run
  have hconf := hclaim s t _ es _ _ _ ⟨demoSystem, _, h, demoSystem_init, hlogin⟩ hstep rfl rfl
    hanswer
  rw [hconf, hrate] at hrate'
  cases hrate'

end WebTerminal
