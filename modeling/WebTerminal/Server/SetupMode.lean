import WebTerminal.Server.Credentials
import WebTerminal.Server.Rejection

/-!
# The request that ends setup mode

Until the password has been changed `POST /api/config` takes the credential change and
nothing else.  The allowlist looks for the name `new_password` among the members of the
body; the code behind it looks for a string under that name.  A body that passes the
first and not the second is answered with ok, and nothing has been changed.
-/

set_option autoImplicit false

namespace WebTerminal

open Proc

section

variable {pf : Platform} {env : Env} {req : Request} {json json' : CJson} {n n' : ℕ}

/-! ## The body -/

/-- A round of `read_body` that gets bytes. -/
theorem readBodyLoop_piece {σ ε : Type} {fuel remaining : ℕ} {body data : List UInt8}
    {w : World σ ε} (hgoing : remaining ≠ 0) (hrecv : env.recv w.asked = .bytes data)
    (hsome : data.take remaining ≠ []) :
    readBodyLoop env (fuel + 1) remaining body w =
      readBodyLoop env fuel (remaining - (data.take remaining).length)
        (body ++ data.take remaining) { w with asked := w.asked + 1 } := by
  rw [readBodyLoop, if_neg hgoing, bind_ok (ask_apply _ _), hrecv]
  exact congrFun (if_neg hsome) _

/-- A round of `read_body` that gets none. -/
theorem readBodyLoop_nothing {σ ε : Type} {fuel remaining : ℕ} {body : List UInt8} {w : World σ ε}
    (hgoing : remaining ≠ 0)
    (hnothing : ∀ data, env.recv w.asked = .bytes data → data.take remaining = []) :
    readBodyLoop env (fuel + 1) remaining body w = .ok none { w with asked := w.asked + 1 } := by
  rw [readBodyLoop, if_neg hgoing, bind_ok (ask_apply _ _)]
  cases hrecv : env.recv w.asked with
  | bytes data => exact congrFun (if_pos (hnothing data hrecv)) _
  | _ => rfl

/-- What `read_body` reads depends on the connection only. -/
theorem readBodyLoop_uniform (env : Env) : ∀ (fuel remaining : ℕ) (body : List UInt8) (k : ℕ),
    ∃ r n, ∀ w : World Device Event, w.asked = k →
      readBodyLoop env fuel remaining body w = .ok r { w with asked := n } := by
  intro fuel
  induction fuel with
  | zero => exact fun remaining body k => ⟨some body, k, fun w hw => by rw [← hw]; rfl⟩
  | succ fuel ih =>
      intro remaining body k
      by_cases hdone : remaining = 0
      · refine ⟨some body, k, fun w hw => ?_⟩
        rw [readBodyLoop, if_pos hdone, ← hw]
        rfl
      · rcases recv_cases env k remaining with ⟨data, hrecv, hsome⟩ | hnothing
        · obtain ⟨r, n, hrest⟩ := ih (remaining - (data.take remaining).length)
            (body ++ data.take remaining) (k + 1)
          refine ⟨r, n, fun w hw => ?_⟩
          subst hw
          rw [readBodyLoop_piece hdone hrecv hsome, hrest _ rfl]
        · refine ⟨none, k + 1, fun w hw => ?_⟩
          subst hw
          exact readBodyLoop_nothing hdone hnothing

theorem readBody_uniform (env : Env) (req : Request) (bufLen k : ℕ) :
    ∃ body n, ∀ w : World Device Event, w.asked = k →
      readBody env req bufLen w = .ok body { w with asked := n } := by
  by_cases hnone : req.contentLen = 0
  · refine ⟨.absent, k, fun w hw => ?_⟩
    unfold readBody
    rw [if_pos hnone, ← hw]
    rfl
  · by_cases hlong : bufLen ≤ req.contentLen
    · refine ⟨.failed, k, fun w hw => ?_⟩
      unfold readBody
      rw [if_neg hnone, if_pos hlong, ← hw]
      rfl
    · obtain ⟨r, n, hloop⟩ := readBodyLoop_uniform env req.contentLen req.contentLen [] k
      refine ⟨r.elim .failed .complete, n, fun w hw => ?_⟩
      unfold readBody
      rw [if_neg hnone, if_neg hlong, bind_ok (hloop w hw)]
      cases r <;> rfl

/-- The body of the request arrives, after `n` calls of `httpd_req_recv`, and is this. -/
def Posts (pf : Platform) (env : Env) (req : Request) (json : CJson) (n : ℕ) : Prop :=
  ∃ bytes, (∀ w : World Device Event, w.asked = 0 →
    readBody env req 512 w = .ok (.complete bytes) { w with asked := n }) ∧
      pf.cJSONParse (ofBuffer bytes) = some json

theorem Posts.unique (h : Posts pf env req json n) (h' : Posts pf env req json' n') (d : Device) :
    json' = json ∧ n' = n := by
  obtain ⟨bytes, hread, hjson⟩ := h
  obtain ⟨bytes', hread', hjson'⟩ := h'
  have hboth := (hread' d.start rfl).symm.trans (hread d.start rfl)
  injection hboth with hbytes hworld
  injection hbytes with hbytes
  rw [hbytes, hjson] at hjson'
  exact ⟨(Option.some.inj hjson').symm, congrArg World.asked hworld⟩

/-- A body that does not arrive, or is no JSON, is refused. -/
theorem readJson_cases (pf : Platform) (env : Env) (req : Request) {w : World Device Event}
    (hw : w.asked = 0) :
    (∃ json n, Posts pf env req json n ∧
      readJson env pf req 512 w = .ok json { w with asked := n }) ∨
    (∀ json n, ¬Posts pf env req json n) ∧ ∃ status message v,
      readJson env pf req 512 w = .error (.respond (.error status message)) v ∧
        v.state = w.state := by
  obtain ⟨body, n, hread⟩ := readBody_uniform env req 512 0
  have hposts : ∀ json m, Posts pf env req json m → ∃ bytes, body = .complete bytes ∧
      pf.cJSONParse (ofBuffer bytes) = some json := by
    intro json m ⟨bytes, hread', hjson⟩
    have hboth := (hread w hw).symm.trans (hread' w hw)
    injection hboth with hbody
    exact ⟨bytes, hbody, hjson⟩
  unfold readJson
  rw [bind_ok (hread w hw)]
  cases body with
  | absent =>
      refine .inr ⟨fun json m h => ?_, _, _, _, rfl, rfl⟩
      obtain ⟨bytes, hbytes, -⟩ := hposts json m h
      cases hbytes
  | failed =>
      refine .inr ⟨fun json m h => ?_, _, _, _, rfl, rfl⟩
      obtain ⟨bytes, hbytes, -⟩ := hposts json m h
      cases hbytes
  | complete bytes =>
      dsimp only
      cases hparse : pf.cJSONParse (ofBuffer bytes) with
      | none =>
          refine .inr ⟨fun json m h => ?_, _, _, _, rfl, rfl⟩
          obtain ⟨bytes', hbytes, hjson⟩ := hposts json m h
          injection hbytes with hbytes
          rw [← hbytes, hparse] at hjson
          cases hjson
      | some json => exact .inl ⟨json, n, ⟨bytes, hread, hparse⟩, rfl⟩

/-! ## What becomes of it -/

theorem configSetAuth_opened (pf : Platform) (username password : CString) {w : World Board Effect}
    (hopened : env.err (w.asked + 1) = .ok) :
    ∃ err v, configSetAuth pf env username password w = .ok err v :=
  ⟨_, _, saveToNvs_apply pf env (w := ⟨{ w.state with
    config := w.state.config.setAuth pf.sha256 (env.saltBytes w.asked) username password },
      w.asked + 1, w.shown⟩) hopened⟩

theorem configSetAuth_closed (pf : Platform) (username password : CString) {w : World Board Effect}
    (hclosed : env.err (w.asked + 1) ≠ .ok) :
    ∃ v, configSetAuth pf env username password w = .error .abort v := by
  let u : World Board Effect := ⟨{ w.state with
    config := w.state.config.setAuth pf.sha256 (env.saltBytes w.asked) username password },
      w.asked + 1, w.shown⟩
  refine ⟨{ u with asked := u.asked + 1 }, ?_⟩
  show saveToNvs pf env u = _
  unfold saveToNvs espErrorCheck
  rw [bind_ok (ask_apply _ _), if_neg hclosed]
  rfl

theorem changeCredentials_absent (hnone : stringField json "new_password" = none)
    (w : World Device Event) : changeCredentials pf env json w = .ok () w := by
  unfold changeCredentials
  rw [hnone]
  rfl

/-- A change the body is entitled to is made exactly if flash opens. -/
theorem changeCredentials_ok_iff {w : World Device Event}
    (haccepted : credentialsAccepted pf json w.state.board.config = true) :
    (∃ v, changeCredentials pf env json w = .ok () v) ↔ env.err (w.asked + 1) = .ok := by
  obtain ⟨newPass, hpass⟩ : ∃ newPass, stringField json "new_password" = some newPass := by
    unfold credentialsAccepted at haccepted
    cases hpass : stringField json "new_password" with
    | none => simp [hpass] at haccepted
    | some newPass => exact ⟨newPass, rfl⟩
  rw [changeCredentials_accepted haccepted hpass]
  let u : World Board Effect := ⟨w.state.board, w.asked, []⟩
  by_cases hopened : env.err (w.asked + 1) = .ok
  · obtain ⟨err, v, hset⟩ := configSetAuth_opened pf (newUsername json w.state.board.config)
      newPass (w := u) hopened
    exact iff_of_true ⟨_, bind_ok (onBoard_ok hset)⟩ hopened
  · obtain ⟨v, hset⟩ := configSetAuth_closed pf (newUsername json w.state.board.config) newPass
      (w := u) hopened
    refine iff_of_false (fun ⟨v', hrun⟩ => ?_) hopened
    rw [bind_error (onBoard_error hset)] at hrun
    cases hrun

/-- How `handle_config_post` ends for a caller with a session while setup mode lasts. -/
inductive SetupCase (pf : Platform) (env : Env) (req : Request) (d : Device) :
    EStateM.Result Stop (World Device Event) Response → Prop
  | refused {v : World Device Event} (status : ℕ) (message : String)
      (hrefused : ∀ json n, Posts pf env req json n → onlyCredentials json = true →
        (stringField json "new_password").isSome = true ∧
          credentialsAccepted pf json d.board.config = false)
      (hboard : v.state.board = d.board) :
      SetupCase pf env req d (.error (.respond (.error status message)) v)
  /-- the new password is not a string -/
  | untouched {json : CJson} {n : ℕ} {v : World Device Event} (hposts : Posts pf env req json n)
      (honly : onlyCredentials json = true) (hnone : stringField json "new_password" = none)
      (hboard : v.state.board = d.board) : SetupCase pf env req d (.ok (.ok okBody none) v)
  | aborted {json : CJson} {n : ℕ} {v : World Device Event} (hposts : Posts pf env req json n)
      (honly : onlyCredentials json = true)
      (haccepted : credentialsAccepted pf json d.board.config = true)
      (hclosed : env.err (n + 1) ≠ .ok) : SetupCase pf env req d (.error .abort v)
  | changed {json : CJson} {n : ℕ} {newPass : CString} {v : World Device Event}
      (hposts : Posts pf env req json n) (hpass : stringField json "new_password" = some newPass)
      (hopened : env.err (n + 1) = .ok)
      (hconf : ∃ salt username, v.state.board.config =
        d.board.config.setAuth pf.sha256 salt username newPass) :
      SetupCase pf env req d (.ok (.ok okBody none) v)

theorem requireAuth_valid {token : CString} {w : World Device Event}
    (htoken : authGetTokenFromRequest env.heapTail req = some token)
    (hvalid : w.state.validates env token = true) :
    requireAuth env req w = .ok () (checkedWorld env token w) := by
  have hcases := requireAuth_cases env req w
  generalize requireAuth env req w = result at hcases
  cases hcases with
  | absent hnone => cases hnone.symm.trans htoken
  | invalid htoken' hinvalid =>
      obtain rfl := Option.some.inj (htoken'.symm.trans htoken)
      cases hinvalid.symm.trans hvalid
  | valid htoken' =>
      obtain rfl := Option.some.inj (htoken'.symm.trans htoken)
      rfl

theorem requireAuth_checked {token : CString} {d : Device}
    (htoken : authGetTokenFromRequest env.heapTail req = some token)
    (hvalid : d.validates env token = true) :
    requireAuth env req d.start =
      .ok () ⟨d.checked env token, 0, [validation token env.now true]⟩ := by
  have hchecked : requireAuth env req d.start = .ok () (checkedWorld env token d.start) :=
    requireAuth_valid htoken hvalid
  refine hchecked.trans ?_
  unfold checkedWorld Device.start
  dsimp only
  rw [hvalid]
  rfl

/-- A request with a session, after setup, gets to the body of its handler. -/
theorem whenUnlocked_checked {token : CString} {d : Device}
    (htoken : authGetTokenFromRequest env.heapTail req = some token)
    (hvalid : d.validates env token = true) (hsetup : d.board.config.authInitialized = true)
    (body : BoardM Response) :
    whenUnlocked env req body d.start =
      onBoard body ⟨d.checked env token, 0, [validation token env.now true]⟩ := by
  have hunlocked : requirePasswordChanged
      ⟨d.checked env token, 0, [validation token env.now true]⟩ =
        .ok () ⟨d.checked env token, 0, [validation token env.now true]⟩ := by
    rw [requirePasswordChanged_apply]
    exact if_pos hsetup
  unfold whenUnlocked
  rw [bind_ok (requireAuth_checked htoken hvalid), bind_ok hunlocked]

/-- A body that passes the allowlist is at the credentials at once. -/
theorem handleConfigPost_allowed {w : World Device Event} {v : World Device Event}
    (hread : (do requireAuth env req; readJson env pf req 512 : Handler CJson) w = .ok json v)
    (honly : onlyCredentials json = true) :
    handleConfigPost pf env req w = (do
      changeCredentials pf env json
      return .ok okBody none : Handler Response) v := by
  obtain ⟨_, u, hauth, hjson⟩ := of_bind_ok hread
  have hreach : configPostUpToCredentials pf env req w = .ok json v := by
    unfold configPostUpToCredentials readConfigBody
    rw [bind_ok (v := v) (a := json)]
    · rw [applySettings_of_onlyCredentials honly, bind_ok (onBoard_ok (pure_apply _ _)),
        List.map_nil, List.append_nil]
      rfl
    · rw [bind_ok hauth, bind_ok hjson, bind_ok (read_apply _ _),
        bind_ok ((rejectIf_apply _ _ _ _).trans (if_neg fun h => by simp [honly] at h))]
      rfl
  exact bind_ok hreach

theorem handleConfigPost_setup {d : Device} {token : CString}
    (hsetup : d.board.config.authInitialized = false)
    (htoken : authGetTokenFromRequest env.heapTail req = some token)
    (hvalid : d.validates env token = true) :
    SetupCase pf env req d (handleConfigPost pf env req d.start) := by
  let w := checkedWorld env token d.start
  have hauth : requireAuth env req d.start = .ok () w := requireAuth_valid htoken hvalid
  rcases readJson_cases pf env req (w := w) rfl with ⟨json, n, hposts, hread⟩ |
      ⟨hnever, status, message, v, hread, hstate⟩
  · -- the body can be read in one way only
    have hunique : ∀ json' n', Posts pf env req json' n' → json' = json :=
      fun json' n' h => (hposts.unique h d).1
    cases honly : onlyCredentials json with
    -- a body with another setting is refused before anything is applied
    | false =>
        have hrun : readConfigBody pf env req d.start =
            .error (.respond (.error 403 setupLockedMsg)) { w with asked := n } := by
          unfold readConfigBody
          rw [bind_ok hauth, bind_ok hread, bind_ok (read_apply _ _)]
          exact bind_error ((rejectIf_apply _ _ _ _).trans (if_pos ⟨hsetup, honly⟩))
        rw [show handleConfigPost pf env req d.start = _ from bind_error (bind_error hrun)]
        refine .refused _ _ (fun json' n' h honly' => ?_) rfl
        rw [hunique json' n' h, honly] at honly'
        cases honly'
    | true =>
        let u : World Device Event := { w with asked := n }
        rw [handleConfigPost_allowed ((bind_ok hauth).trans hread) honly]
        have hcases := changeCredentials_cases pf env json u
        generalize hchange : changeCredentials pf env json u = result at hcases
        cases hcases with
        -- `new_password` is there but no string: nothing changes and the answer is ok
        | absent hnone =>
            rw [bind_ok hchange]
            exact .untouched hposts honly hnone rfl
        | refused hrefused status message =>
            rw [bind_error hchange]
            refine .refused _ _ (fun json' n' h _ => ?_) rfl
            rw [hunique json' n' h]
            refine ⟨Option.isSome_iff_ne_none.mpr fun hnone => ?_, hrefused⟩
            cases hchange.symm.trans (changeCredentials_absent hnone u)
        | @aborted v board newPass salt haccepted =>
            rw [bind_error hchange]
            refine .aborted hposts honly haccepted fun hopened => ?_
            -- it resets only where flash could not be opened
            obtain ⟨v', hok⟩ := (changeCredentials_ok_iff haccepted).mpr hopened
            cases hchange.symm.trans hok
        | @changed v board newPass salt haccepted hpass _ hconf _ hstate =>
            rw [bind_ok hchange]
            refine .changed hposts hpass ((changeCredentials_ok_iff haccepted).mp ⟨v, hchange⟩)
              ⟨salt, newUsername json u.state.board.config, ?_⟩
            rw [hstate]
            exact hconf
  · have hrun :
        readConfigBody pf env req d.start = .error (.respond (.error status message)) v := by
      unfold readConfigBody
      rw [bind_ok hauth, bind_error hread]
    rw [show handleConfigPost pf env req d.start = _ from bind_error (bind_error hrun)]
    exact .refused _ _ (fun json n h _ => absurd h (hnever json n)) (by rw [hstate]; rfl)

/-! ## The answer -/

/-- An answer in setup mode that tells what has happened: with ok the password of the body is
the one the device takes, with an error the configuration is the old one. -/
structure SetupAnswered (pf : Platform) (env : Env) (req : Request) (s : System)
    (es : List Event) (t : System) : Prop where
  changed : .answered (.ok okBody none) ∈ es → ∃ json n newPass, Posts pf env req json n ∧
    stringField json "new_password" = some newPass ∧
      t.device.board.config.authInitialized = true ∧
        t.device.board.config.checkPassword pf.sha256 newPass = true
  refused : .answered (.ok okBody none) ∉ es →
    (∃ status message, .answered (.error status message) ∈ es) ∧
      t.device.board.config = s.device.board.config ∧ t.device.board.nvs = s.device.board.nvs

/-- The body the allowlist lets through has a string for its new password, and flash opens
for the change it is entitled to. -/
def AsksInEarnest (pf : Platform) (env : Env) (req : Request) (conf : AppConfig) : Prop :=
  ∀ json n, Posts pf env req json n → onlyCredentials json = true →
    (stringField json "new_password").isSome = true ∧
      (credentialsAccepted pf json conf = true → env.err (n + 1) = .ok)

end

/-- The answer in setup mode tells what has happened exactly if the body that passes the
allowlist asks for a change of the password. -/
theorem setup_answered_iff {pf : Platform} {s t : System} {a : Action} {es : List Event}
    {req : Request} {token : CString} (hsetup : s.device.board.config.authInitialized = false)
    (htoken : authGetTokenFromRequest a.env.heapTail req = some token)
    (hvalid : s.device.validates a.env token = true)
    (hstep : (systemMachine pf).step s a = some (t, es)) (hcall : a.call = .request req)
    (hroute : req.route = .configPost) :
    SetupAnswered pf a.env req s es t ↔ AsksInEarnest pf a.env req s.device.board.config := by
  have hcase : CallCase pf a.env s.device a.call _ _ := ends_callHandler pf a.env s.device a.call
  obtain ⟨-, -, -, -, hdevice, hes⟩ := systemStep_some hstep
  have hhandler : callHandler pf a.env a.call = handleConfigPost pf a.env req := by
    rw [hcall]
    exact callHandler_configPost pf a.env hroute
  rw [hhandler] at hcase hdevice hes
  rw [hcall] at hcase
  -- the handler shows no answer but its own
  have hanswers : ∀ response, .answered response ∈ es ↔
      responseOf (handleConfigPost pf a.env req s.device.start) = some response := by
    intro response
    rw [hes, List.mem_append, or_iff_right (hcase.not_answered _)]
    simp
  have hsetupCase : SetupCase pf a.env req s.device _ := handleConfigPost_setup hsetup htoken hvalid
  generalize hrun : handleConfigPost pf a.env req s.device.start = result at hsetupCase hanswers
  cases hsetupCase with
  | refused status message hrefused hboard =>
      rw [final_of_error hrun] at hdevice
      refine iff_of_true ⟨fun hok => ?_, fun _ => ⟨⟨status, message, (hanswers _).mpr rfl⟩, ?_⟩⟩
        fun json n hposts honly => ⟨(hrefused json n hposts honly).1, fun haccepted => ?_⟩
      · cases (hanswers _).mp hok
      · rw [hdevice, hboard]
        exact ⟨rfl, rfl⟩
      · cases haccepted.symm.trans (hrefused json n hposts honly).2
  | @untouched json n v hposts honly hnone hboard =>
      rw [final_of_ok hrun] at hdevice
      refine iff_of_false (fun h => ?_) fun h => ?_
      · obtain ⟨json', n', newPass, -, -, hinit, -⟩ := h.changed ((hanswers _).mpr rfl)
        rw [hdevice, hboard, hsetup] at hinit
        cases hinit
      · have hsome := (h json n hposts honly).1
        rw [hnone] at hsome
        cases hsome
  | @aborted json n v hposts honly haccepted hclosed =>
      refine iff_of_false (fun h => ?_) fun h => hclosed ((h json n hposts honly).2 haccepted)
      obtain ⟨⟨status, message, herror⟩, -⟩ := h.refused fun hok => by cases (hanswers _).mp hok
      cases (hanswers _).mp herror
  | @changed json n newPass v hposts hpass hopened hconf =>
      obtain ⟨salt, username, hconf⟩ := hconf
      rw [final_of_ok hrun] at hdevice
      refine iff_of_true ⟨fun _ => ⟨json, n, newPass, hposts, hpass, ?_, ?_⟩,
        fun hok => absurd ((hanswers _).mpr rfl) hok⟩ fun json' n' hposts' _ => ?_
      · rw [hdevice, hconf]
        rfl
      · rw [hdevice, hconf]
        exact AppConfig.checkPassword_setAuth _ _ _ _ _
      · obtain ⟨rfl, rfl⟩ := hposts.unique hposts' s.device
        exact ⟨by rw [hpass]; rfl, fun _ => hopened⟩

/-- `demoSystem` with the password it was shipped with. -/
def demoShipped : System :=
  { demoSystem with
    device := demoSystem.device.setBoard
      { demoSystem.device.board with config := { adminConfig with authInitialized := false } } }

theorem demoShipped_init : demoShipped.Init := ⟨rfl, by decide, rfl, fun _ => rfl⟩

/-- `{"new_password":"new-pass","current_password":"admin-pass"}` -/
def setupJson : CString :=
  cstr "\x7b\"new_password\":\"new-pass\",\"current_password\":\"admin-pass\"\x7d"

/-- `setupJson`, parsed. -/
def setupFields : CJson :=
  .object [(cstr "new_password", .string (cstr "new-pass")),
    (cstr "current_password", .string (cstr "admin-pass"))]

/-- `{"new_password":0}` -/
def numberJson : CString := cstr "\x7b\"new_password\":0\x7d"

/-- `numberJson`, parsed. -/
def numberFields : CJson := .object [(cstr "new_password", .number 0)]

/-- A platform that parses logins and these bodies. -/
def demoSetter : Platform :=
  demoPlatform [(loginJson, loginFields), (setupJson, setupFields), (numberJson, numberFields)]

/-- The caller of `demoConfigPost` is in setup mode and has a session. -/
def settingUp (s : System) (_ : List Event) : Bool :=
  !s.device.board.config.authInitialized && s.device.validates (demoEnv 20 []) demoToken

/-- The request is answered with ok and setup mode is over, or not. -/
def setUp (authInitialized : Bool) (t : System) (es : List Event) : Bool :=
  decide (.answered (.ok okBody none) ∈ es) &&
    t.device.board.config.authInitialized == authInitialized

/-- `admin` logs in and posts this body. -/
def demoSetup (body : CString) (authInitialized : Bool) : Bool :=
  ((systemMachine demoSetter).exec demoShipped [demoLogin 10]).any fun r =>
    settingUp r.1 r.2 &&
      ((systemMachine demoSetter).exec r.1 [demoConfigPost 20 body]).any fun r' =>
      setUp authInitialized r'.1 r'.2

theorem demoSetup_run {body : CString} {authInitialized : Bool}
    (h : demoSetup body authInitialized = true) :
    ∃ h s es t, (systemMachine demoSetter).Run demoShipped [demoLogin 10] h s ∧
      s.device.board.config.authInitialized = false ∧
      s.device.validates (demoEnv 20 body) demoToken = true ∧
      (systemMachine demoSetter).step s (demoConfigPost 20 body) = some (t, es) ∧
      .answered (.ok okBody none) ∈ es ∧
        t.device.board.config.authInitialized = authInitialized := by
  obtain ⟨s, h, t, es, hlogin, hpost, hstart, hend⟩ :=
    Machine.Run.exists_of_exec_exec (p := settingUp) (q := setUp authInitialized) h
  simp only [settingUp, Bool.and_eq_true, Bool.not_eq_true'] at hstart
  simp only [setUp, Bool.and_eq_true, decide_eq_true_eq, beq_iff_eq] at hend
  exact ⟨h, s, es, t, hlogin, hstart.1, hstart.2, hpost.single_inv, hend.1, hend.2⟩

/-- A body with a string for its new password is answered as it ought to be. -/
theorem setup_answered_string :
    ∃ h s es t req, (systemMachine demoSetter).Run demoShipped [demoLogin 10] h s ∧
      (systemMachine demoSetter).step s (demoConfigPost 20 setupJson) = some (t, es) ∧
      .answered (.ok okBody none) ∈ es ∧
        SetupAnswered demoSetter (demoEnv 20 setupJson) req s es t := by
  obtain ⟨h, s, es, t, hlogin, hsetup, hvalid, hstep, hok, -⟩ :=
    demoSetup_run (by decide +kernel : demoSetup setupJson true = true)
  refine ⟨h, s, es, t, _, hlogin, hstep, hok,
    (setup_answered_iff hsetup (by decide) hvalid hstep rfl rfl).mpr fun json n hposts _ => ?_⟩
  obtain ⟨bytes, hread, hjson⟩ := hposts
  have hread' := hread demoShipped.device.start rfl
  injection hread' with hbytes
  injection hbytes with hbytes
  have hparse : demoSetter.cJSONParse (ofBuffer setupJson) = some setupFields := rfl
  rw [← hbytes] at hjson
  obtain rfl := Option.some.inj (hjson.symm.trans hparse)
  exact ⟨by decide, fun _ => rfl⟩

/-- A number for the new password is answered with ok and changes nothing. -/
theorem setup_answered_number :
    ¬∀ s t a es req token, (systemMachine demoSetter).Reachable System.Init s →
      s.device.board.config.authInitialized = false →
      authGetTokenFromRequest a.env.heapTail req = some token →
      s.device.validates a.env token = true → (systemMachine demoSetter).step s a = some (t, es) →
      a.call = .request req → req.route = .configPost →
      SetupAnswered demoSetter a.env req s es t := by
  intro hclaim
  obtain ⟨h, s, es, t, hlogin, hsetup, hvalid, hstep, hok, hinit⟩ :=
    demoSetup_run (by decide +kernel : demoSetup numberJson false = true)
  have hanswered : SetupAnswered demoSetter (demoEnv 20 numberJson) _ s es t :=
    hclaim s t _ es _ _ ⟨demoShipped, _, h, demoShipped_init, hlogin⟩ hsetup (by decide) hvalid
      hstep
      rfl rfl
  obtain ⟨json, n, newPass, -, -, hinit', -⟩ := hanswered.changed hok
  cases hinit.symm.trans hinit'

end WebTerminal
