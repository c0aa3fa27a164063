import WebTerminal.Lib.JsonText
import WebTerminal.Server.Credentials
import WebTerminal.Server.Survival

/-!
# The body of a login

A password is set by one handler and typed into another, and their buffers differ:
512 bytes for `POST /api/config`, 256 for `POST /api/login`.  A login that names the
new credentials exists exactly if its shortest text fits the smaller one.
-/

set_option autoImplicit false

namespace WebTerminal

open Proc

/-! ## Texts of objects -/

/-- `cJSON_Parse` takes nothing for an object that the text does not spell out, and it reads
an object of strings.  It copies every byte of a literal that is not escaped. -/
structure ReadsObjects (cJSONParse : CString → Option CJson) : Prop where
  spelled : ∀ {text : CString} {members : List (CString × CJson)},
    cJSONParse text = some (.object members) → ∃ before object after all,
      text = before ++ object ++ after ∧ JsonText.Object object all ∧
        members.map (fun m => (m.1, CJson.string? (some m.2))) =
          all.map fun m => (ofBuffer m.1, m.2.map ofBuffer)
  written : ∀ members : List (CText × CText),
    cJSONParse (JsonText.writeObject (members.map fun m => (m.1.val, m.2.val))) =
      some (.object (members.map fun m => (m.1.val, .string m.2.val)))

/-- The shortest body of a login. -/
def loginText (username password : CString) : CString :=
  JsonText.writeObject [(cstr "username", username), (cstr "password", password)]

theorem length_writePair (m m' : CString × CString) :
    (JsonText.writeObject [m, m']).length =
      (JsonText.write m.1).length + (JsonText.write m.2).length + (JsonText.write m'.1).length +
        (JsonText.write m'.2).length + 13 := by
  simp only [JsonText.writeObject, JsonText.writeMembers, List.length_append, List.length_cons,
    List.length_nil, JsonText.length_writeMember]
  omega

theorem length_loginText (username password : CString) :
    (loginText username password).length =
      29 + (JsonText.write username).length + (JsonText.write password).length := by
  have husername : (JsonText.write (cstr "username")).length = 8 := by decide
  have hpassword : (JsonText.write (cstr "password")).length = 8 := by decide
  unfold loginText
  rw [length_writePair]
  dsimp only
  omega

/-- The bytes before a NUL are written in no more than all of them. -/
theorem length_write_ofBuffer_le (bytes : List UInt8) :
    (JsonText.write (ofBuffer bytes)).length ≤ (JsonText.write bytes).length := by
  have hsplit : bytes = ofBuffer bytes ++ bytes.dropWhile (· ≠ 0) :=
    List.takeWhile_append_dropWhile.symm
  have hwrite := congrArg (fun s => (JsonText.write s).length) hsplit
  simp only [JsonText.write_append, List.length_append] at hwrite
  omega

/-- A name that matches is as long as the one asked for. -/
theorem length_of_sameName {a b : CString} (h : CJson.sameName a b = true) :
    b.length = a.length := by
  unfold CJson.sameName at h
  have hlength := congrArg List.length (eq_of_beq h)
  simpa using hlength.symm

theorem sublist_pair {α : Type} {x y : α} (hne : x ≠ y) : ∀ {l : List α}, x ∈ l → y ∈ l →
    [x, y].Sublist l ∨ [y, x].Sublist l := by
  intro l
  induction l with
  | nil => intro hx; cases hx
  | cons a l ih =>
      intro hx hy
      rcases List.mem_cons.mp hx with rfl | hxl
      · have hy' := (List.mem_cons.mp hy).resolve_left hne.symm
        exact .inl (.cons_cons _ (List.singleton_sublist.mpr hy'))
      · rcases List.mem_cons.mp hy with rfl | hy
        · exact .inr (.cons_cons _ (List.singleton_sublist.mpr hxl))
        · rcases ih hxl hy with h | h
          · exact .inl (h.cons _)
          · exact .inr (h.cons _)

section

variable {cJSONParse : CString → Option CJson} (hparse : ReadsObjects cJSONParse)

include hparse

/-- A string field of a parsed body is spelled out in it, under a name that matches, and the
body is no shorter than an object of such strings. -/
theorem ReadsObjects.field {text : CString} {json : CJson} (hjson : cJSONParse text = some json) :
    ∃ all : List (List UInt8 × Option (List UInt8)),
      (∀ ms, ms ≠ [] → (JsonText.strings ms).Sublist all →
        (JsonText.writeObject ms).length ≤ text.length) ∧
        ∀ name value, stringField json name = some value → ∃ key bytes, (key, some bytes) ∈ all ∧
          CJson.sameName (cstr name) (ofBuffer key) = true ∧ ofBuffer bytes = value := by
  cases json with
  | object members =>
      obtain ⟨before, object, after, all, rfl, hobject, hmembers⟩ := hparse.spelled hjson
      refine ⟨all, fun ms _ hsub => ?_, fun name value hfield => ?_⟩
      · have := hobject.length_write_le hsub
        simp only [List.length_append]
        omega
      · obtain ⟨m, hmem, hname, hvalue⟩ : ∃ m ∈ members, CJson.sameName (cstr name) m.1 = true ∧
            CJson.string? (some m.2) = some value := by
          unfold stringField CJson.getObjectItem at hfield
          cases hfind : members.find? fun m => CJson.sameName (cstr name) m.1 with
          | none =>
              simp only [hfind, Option.map_none] at hfield
              cases hfield
          | some m =>
              simp only [hfind, Option.map_some] at hfield
              have hname := List.find?_some hfind
              exact ⟨m, List.mem_of_find?_eq_some hfind, hname, hfield⟩
        have hin : (m.1, some value) ∈ all.map fun m => (ofBuffer m.1, m.2.map ofBuffer) := by
          rw [← hmembers, ← hvalue]
          exact List.mem_map_of_mem hmem
        obtain ⟨⟨key, bytes⟩, hkey, heq⟩ := List.mem_map.mp hin
        obtain ⟨hm, hbytes⟩ := Prod.mk.inj heq
        obtain ⟨bytes', rfl, hvalue'⟩ := Option.map_eq_some_iff.mp hbytes
        exact ⟨key, bytes', hkey, hm ▸ hname, hvalue'⟩
  | _ =>
      refine ⟨[], fun ms hne hsub => ?_, fun _ _ hfield => by cases hfield⟩
      exact absurd (List.map_eq_nil_iff.mp (List.sublist_nil.mp hsub)) hne

/-- The strings it returns are C strings. -/
theorem ReadsObjects.textFields {text : CString} {json : CJson}
    (hjson : cJSONParse text = some json) :
    TextFields json := by
  intro name value hfield
  obtain ⟨all, _, hspelled⟩ := hparse.field hjson
  obtain ⟨key, bytes, _, _, rfl⟩ := hspelled name value hfield
  exact notMem_ofBuffer bytes

/-- No body that names these credentials is shorter. -/
theorem ReadsObjects.length_loginText_le {text username password : CString} {json : CJson}
    (hjson : cJSONParse text = some json) (huser : stringField json "username" = some username)
    (hpass : stringField json "password" = some password) :
    (loginText username password).length ≤ text.length := by
  obtain ⟨all, hshortest, hspelled⟩ := hparse.field hjson
  obtain ⟨key, bytes, hmem, hname, rfl⟩ := hspelled _ _ huser
  obtain ⟨key', bytes', hmem', hname', rfl⟩ := hspelled _ _ hpass
  have hne : (key, some bytes) ≠ (key', some bytes') := by
    intro heq
    obtain ⟨rfl, -⟩ := Prod.mk.inj heq
    -- one name cannot match both
    unfold CJson.sameName at hname hname'
    exact absurd ((eq_of_beq hname).trans (eq_of_beq hname').symm) (by decide)
  have hlong : 8 ≤ key.length ∧ 8 ≤ key'.length := by
    have := length_of_sameName hname
    have := length_of_sameName hname'
    have := length_ofBuffer_le key
    have := length_ofBuffer_le key'
    have hlength : (cstr "username").length = 8 ∧ (cstr "password").length = 8 := by decide
    omega
  have := JsonText.le_length_write key
  have := JsonText.le_length_write key'
  have := length_write_ofBuffer_le bytes
  have := length_write_ofBuffer_le bytes'
  rw [length_loginText]
  rcases sublist_pair hne hmem hmem' with hsub | hsub
  · have hlength := hshortest [(key, bytes), (key', bytes')] (by simp) hsub
    rw [length_writePair] at hlength
    dsimp only at hlength
    omega
  · have hlength := hshortest [(key', bytes'), (key, bytes)] (by simp) hsub
    rw [length_writePair] at hlength
    dsimp only at hlength
    omega

/-- The shortest body is read as the credentials. -/
theorem ReadsObjects.parses_loginText {username password : CString} (huser : (0 : UInt8) ∉ username)
    (hpass : (0 : UInt8) ∉ password) :
    ∃ json, cJSONParse (loginText username password) = some json ∧
      stringField json "username" = some username ∧
        stringField json "password" = some password := by
  have hread := hparse.written [(⟨cstr "username", by decide⟩, ⟨username, huser⟩),
    (⟨cstr "password", by decide⟩, ⟨password, hpass⟩)]
  exact ⟨_, hread, rfl, rfl⟩

end

/-! ## Reading a login -/

section

variable {pf : Platform} {env : Env} {req : Request} {body : List UInt8}
    {username password : CString}

/-- `handle_login` up to `auth_login`: the credentials it is called with. -/
def readLogin (pf : Platform) (env : Env) (req : Request) : Handler (CString × CString) := do
  let json ← readJson env pf req 256
  match stringField json "username", stringField json "password" with
  | some username, some password => return (username, password)
  | _, _ => sendJsonError 400 "Missing username or password"

theorem handleLogin_eq (pf : Platform) (env : Env) (req : Request) :
    handleLogin pf env req = (do
      let locked ← isLockedOut env req.peer
      rejectIf (locked = true) 429 "Too many failed attempts. Try again later."
      let (username, password) ← readLogin pf env req
      let random ← ask env.tokenBytes
      let token ← loginSession pf env random username password req.peer
      match token with
      | none => sendJsonError 401 "Invalid credentials"
      | some token => do
          let board ← read Device.board
          return .ok (loginBody (!board.config.authInitialized) token)
            (some (sessionCookie token))) := by
  unfold handleLogin readLogin stringField
  congr 1
  funext locked
  congr 1
  funext _
  rw [bind_assoc]
  congr 1
  funext json
  generalize CJson.string? (json.getObjectItem (cstr "username")) = username
  generalize CJson.string? (json.getObjectItem (cstr "password")) = password
  rcases username with _ | username
  · rfl
  · cases password <;> rfl

/-- The connection hands over this body, in whatever pieces. -/
def Env.Delivers (env : Env) (body : List UInt8) : Prop :=
  ∀ w : World Device Event, w.asked = 0 → ∃ n,
    readBodyLoop env body.length body.length [] w = .ok (some body) { w with asked := n }

theorem readLogin_of_parsed (hlength : req.contentLen = body.length) (hbody : env.Delivers body)
    (hne : body ≠ []) (hfits : body.length < 256) {json : CJson}
    (hjson : pf.cJSONParse (ofBuffer body) = some json)
    (huser : stringField json "username" = some username)
    (hpass : stringField json "password" = some password) {w : World Device Event}
    (hw : w.asked = 0) :
    ∃ n, readLogin pf env req w = .ok (username, password) { w with asked := n } := by
  obtain ⟨n, hloop⟩ := hbody w hw
  refine ⟨n, ?_⟩
  have hread : readBody env req 256 w = .ok (.complete body) { w with asked := n } := by
    unfold readBody
    rw [hlength, if_neg (by simpa using hne), if_neg (by omega), bind_ok hloop]
    rfl
  have hparsed : readJson env pf req 256 w = .ok json { w with asked := n } := by
    unfold readJson
    rw [bind_ok hread]
    simp only [hjson]
    rfl
  unfold readLogin
  rw [bind_ok hparsed, huser, hpass]
  rfl

theorem parsed_of_readLogin (hlength : req.contentLen = body.length) (hbody : env.Delivers body)
    {w v : World Device Event} (hw : w.asked = 0)
    (h : readLogin pf env req w = .ok (username, password) v) :
    body.length < 256 ∧ ∃ json, pf.cJSONParse (ofBuffer body) = some json ∧
      stringField json "username" = some username ∧
        stringField json "password" = some password := by
  obtain ⟨json, u, hread, hrest⟩ := of_bind_ok h
  obtain ⟨result, u', hbody', hparse⟩ := of_bind_ok hread
  -- `read_body` gets all of it, or reports that it did not
  have hresult :
      body.length < 256 ∧ result = .complete body ∨ result = .absent ∨ result = .failed := by
    unfold readBody at hbody'
    split at hbody'
    · cases hbody'
      exact .inr (.inl rfl)
    · split at hbody'
      · cases hbody'
        exact .inr (.inr rfl)
      next hfits =>
        obtain ⟨n, hloop⟩ := hbody w hw
        rw [hlength] at hbody' hfits
        rw [bind_ok hloop] at hbody'
        cases hbody'
        exact .inl ⟨by omega, rfl⟩
  rcases hresult with ⟨hfits, rfl⟩ | rfl | rfl
  · refine ⟨hfits, json, ?_⟩
    cases hparsed : pf.cJSONParse (ofBuffer body) with
    | none =>
        simp only [hparsed] at hparse
        cases hparse
    | some json' =>
        simp only [hparsed] at hparse
        cases hparse
        refine ⟨rfl, ?_⟩
        cases huser : stringField json "username" with
        | none =>
            simp only [huser] at hrest
            cases hrest
        | some _ =>
            cases hpass : stringField json "password" with
            | none =>
                simp only [huser, hpass] at hrest
                cases hrest
            | some _ =>
                simp only [huser, hpass] at hrest
                cases hrest
                exact ⟨rfl, rfl⟩
  · cases hparse
  · cases hparse

end

/-! ## The user name stays a C string -/

theorem configPostUpToCredentials_parsed {pf : Platform} {env : Env} {req : Request} {json : CJson}
    {w v : World Device Event} (h : configPostUpToCredentials pf env req w = .ok json v) :
    ∃ body, pf.cJSONParse body = some json := by
  obtain ⟨json', u, hread, hrest⟩ := of_bind_ok h
  obtain ⟨_, u', -, hpure⟩ := of_bind_ok hrest
  cases hpure
  exact readConfigBody_parsed hread

section

variable {pf : Platform} (hparse : ReadsObjects pf.cJSONParse)

include hparse

theorem newUsername_text {body : CString} {json : CJson} (hjson : pf.cJSONParse body = some json)
    {conf : AppConfig} (h : (0 : UInt8) ∉ conf.authUser) : (0 : UInt8) ∉ newUsername json conf := by
  unfold newUsername
  cases hfield : stringField json "username" with
  | none => exact h
  | some username => exact hparse.textFields hjson _ _ hfield

/-- A settings request leaves a user name that is a C string. -/
theorem handleConfigPost_user {env : Env} {req : Request} {d : Device}
    (h : (0 : UInt8) ∉ d.board.config.authUser) :
    (0 : UInt8) ∉ ((handleConfigPost pf env req).final d.start).state.board.config.authUser := by
  obtain ⟨es, -, hspares⟩ := configPostUpToCredentials_spares pf env req d.start
  unfold handleConfigPost
  cases hpre : configPostUpToCredentials pf env req d.start with
  | error stop v =>
      rw [final_of_error hpre] at hspares
      rw [final_bind_of_error hpre, hspares.authUser]
      exact h
  | ok json w =>
      rw [final_of_ok hpre] at hspares
      rw [final_bind_of_ok hpre, final_bind_pure]
      have hkept : (0 : UInt8) ∉ w.state.board.config.authUser := by
        rw [hspares.authUser]
        exact h
      obtain ⟨body, hjson⟩ := configPostUpToCredentials_parsed hpre
      have htext := newUsername_text hparse hjson hkept
      have hnew : (0 : UInt8) ∉ strncpy (configAuthUserMaxLen + 1)
          (newUsername json w.state.board.config) := (fits_strncpy (by decide) ⟨_, htext⟩).2
      have hcases := changeCredentials_cases pf env json w
      unfold final
      generalize changeCredentials pf env json w = result at hcases
      cases hcases with
      | absent => exact hkept
      | refused => exact hkept
      | aborted _ _ _ _ hconf hstate =>
          dsimp only
          rw [hstate, Device.setBoard_board, hconf]
          exact hnew
      | changed _ _ _ hconf _ hstate =>
          dsimp only
          rw [hstate]
          exact (congrArg AppConfig.authUser hconf).symm ▸ hnew

theorem step_user {s t : System} {a : Action} {es : List Event}
    (hstep : (systemMachine pf).step s a = some (t, es))
    (h : (0 : UInt8) ∉ s.device.board.config.authUser) :
    (0 : UInt8) ∉ t.device.board.config.authUser := by
  obtain ⟨-, -, -, -, hdevice, -⟩ := systemStep_some hstep
  rw [hdevice]
  by_cases hpost : ∃ req, a.call = .request req ∧ req.route = .configPost
  · obtain ⟨req, hcall, hroute⟩ := hpost
    rw [hcall, callHandler_configPost pf a.env hroute]
    exact handleConfigPost_user hparse h
  · have hsame := (ends_callHandler pf a.env s.device a.call).sameCredentials
      fun req hcall hroute => hpost ⟨req, hcall, hroute⟩
    rw [hsame.authUser]
    exact h

/-- The user name is a C string in every state of a run that starts with one. -/
theorem run_user {s t : System} {as : List Action} {es : List Event}
    (hrun : (systemMachine pf).Run s as es t) (h : (0 : UInt8) ∉ s.device.board.config.authUser) :
    (0 : UInt8) ∉ t.device.board.config.authUser :=
  hrun.invariant (I := fun t => (0 : UInt8) ∉ t.device.board.config.authUser) h
    fun _ _ _ _ hu hstep => step_user hparse hstep hu

end

/-! ## Credentials that are installed -/

/-- A settings request that installs these credentials and is answered with ok. -/
structure Installs (pf : Platform) (s : System) (a : Action) (es : List Event)
    (username password : CString) : Prop where
  request : ∃ req json w, a.call = .request req ∧ req.route = .configPost ∧
    configPostUpToCredentials pf a.env req s.device.start = .ok json w ∧
      stringField json "new_password" = some password ∧
        newUsername json w.state.board.config = username
  answered : .answered (.ok okBody none) ∈ es

/-- The device then runs with these credentials, to which the body was entitled. -/
theorem Installs.config {pf : Platform} {s t : System} {a : Action} {es : List Event}
    {username password : CString} (h : Installs pf s a es username password)
    (hstep : (systemMachine pf).step s a = some (t, es)) :
    t.running = true ∧ ∃ (body : CString) (json : CJson) (conf : AppConfig)
      (salt : Vector UInt8 configAuthSaltLen), pf.cJSONParse body = some json ∧
        s.device.board.config.SameCredentials conf ∧ EntitledChange pf json conf password ∧
          newUsername json conf = username ∧
            t.device.board.config = conf.setAuth pf.sha256 salt username password := by
  obtain ⟨req, json, w, hcall, hroute, hreach, hpass, rfl⟩ := h.request
  obtain ⟨body, hjson⟩ := configPostUpToCredentials_parsed hreach
  obtain ⟨token, board, effects, -, hw, hshown, hkeeps⟩ := configPostUpToCredentials_ok hreach
  have hsame : s.device.board.config.SameCredentials w.state.board.config := by
    rw [hw]
    exact hkeeps.config
  have hanswered := h.answered
  have hhandler : callHandler pf a.env a.call s.device.start =
      (changeCredentials pf a.env json >>= fun _ =>
        (pure (.ok okBody none) : Handler Response)) w := by
    rw [hcall, callHandler_configPost pf a.env hroute]
    exact bind_ok hreach
  obtain ⟨-, -, -, hrunning, hdevice, hes⟩ := systemStep_some hstep
  unfold final at hdevice hes
  rw [hhandler] at hrunning hdevice hes
  have hcases := changeCredentials_cases pf a.env json w
  generalize hchange : changeCredentials pf a.env json w = result at hcases
  cases hcases with
  | absent hnone => cases hnone.symm.trans hpass
  | refused =>
      rw [bind_error hchange] at hes
      rw [hes, hshown] at hanswered
      simp [responseOf] at hanswered
  | aborted _ _ _ _ _ _ hv =>
      rw [bind_error hchange] at hes
      rw [hes, hv, hshown] at hanswered
      simp [responseOf] at hanswered
  | @changed v board' newPass salt haccepted hpass' _ hconf _ hstate _ =>
      obtain rfl := Option.some.inj (hpass'.symm.trans hpass)
      rw [bind_ok hchange] at hrunning hdevice
      refine ⟨hrunning, body, json, w.state.board.config, salt, hjson, hsame,
        entitledChange_iff.mpr ⟨haccepted, hpass⟩, rfl, ?_⟩
      rw [hdevice]
      show v.state.board.config = _
      rw [hstate]
      exact hconf

/-! ## Logging in with them -/

/-- A login with this body, from an address that is not locked out. -/
structure LoginAttempt (body : List UInt8) (t : System) (a : Action) : Prop where
  request : ∃ req, a.call = .request req ∧ req.route = .login ∧ req.contentLen = body.length ∧
    (authIsLockedOut a.env.monoNow req.peer t.device.auth.hosts).2 = false
  delivered : a.env.Delivers body
  time : t.now ≤ a.env.now

/-- Some delivery of this body is read as these credentials. -/
def ReadsAs (pf : Platform) (body : List UInt8) (username password : CString) : Prop :=
  ∃ (env : Env) (req : Request) (w v : World Device Event), req.contentLen = body.length ∧
    env.Delivers body ∧ w.asked = 0 ∧ readLogin pf env req w = .ok (username, password) v

/-- Some body is read as these credentials, and every login with it returns a token. -/
def CanLogIn (pf : Platform) (t : System) (username password : CString) : Prop :=
  ∃ body, ReadsAs pf body username password ∧ ∀ a, LoginAttempt body t a →
    ∃ u es token, (systemMachine pf).step t a = some (u, es) ∧ .issued token a.env.now ∈ es ∧
      .answered (.ok (loginBody (!t.device.board.config.authInitialized) token)
        (some (sessionCookie token))) ∈ es

/-- Accepted credentials open a session. -/
theorem loginSession_accepted {pf : Platform} {env : Env} {username password : CString}
    {ip : Option CString} {w : World Device Event} (random : Vector UInt8 authSessionTokenLen)
    (hlocked : (authIsLockedOut env.monoNow ip w.state.auth.hosts).2 = false)
    (hcred : credentialsOk pf.sha256 w.state.board.config username password = true) :
    ∃ v, loginSession pf env random username password ip w = .ok (some (generateToken random)) v ∧
      v.state.board = w.state.board ∧
        v.shown = w.shown ++ [.issued (generateToken random) env.now] := by
  have hcases := authLogin_cases pf.sha256 w.state.board.config env.monoNow random username
    password ip w.state.auth
  cases hlogin : authLogin pf.sha256 w.state.board.config env.monoNow random username password ip
      w.state.auth with
  | mk auth token =>
      rw [hlogin] at hcases
      have hrun : loginSession pf env random username password ip w =
          .ok token ⟨{ w.state with auth := auth }, w.asked,
            w.shown ++ token.toList.map (.issued · env.now)⟩ := by
        unfold loginSession
        rw [act_apply]
        simp only [hlogin]
      cases hcases with
      | refused h => cases h.symm.trans hlocked
      | failed _ h => cases h.symm.trans hcred
      | accepted => exact ⟨_, hrun, rfl, rfl⟩

/-- A login whose body is read as the credentials of the device returns a token. -/
theorem login_step {pf : Platform} {t : System} {a : Action} {body : List UInt8}
    {username password : CString} (hrunning : t.running = true) (hattempt : LoginAttempt body t a)
    (hread : ∀ req w, req.contentLen = body.length → w.asked = 0 → ∃ n,
      readLogin pf a.env req w = .ok (username, password) { w with asked := n })
    (hcred : credentialsOk pf.sha256 t.device.board.config username password = true) :
    ∃ u es token, (systemMachine pf).step t a = some (u, es) ∧ .issued token a.env.now ∈ es ∧
      .answered (.ok (loginBody (!t.device.board.config.authInitialized) token)
        (some (sessionCookie token))) ∈ es := by
  obtain ⟨req, hcall, hroute, hlength, hunlocked⟩ := hattempt.request
  obtain ⟨hosts, hhosts⟩ : ∃ hosts,
      hosts = (authIsLockedOut a.env.monoNow req.peer t.device.auth.hosts).1 := ⟨_, rfl⟩
  have hlocked : isLockedOut a.env req.peer t.device.start =
      .ok false ⟨t.device.setHosts hosts, 0, []⟩ := by
    rw [hhosts, ← hunlocked]
    rfl
  obtain ⟨n, hlogin⟩ := hread req ⟨t.device.setHosts hosts, 0, []⟩ hlength rfl
  have hagain : (authIsLockedOut a.env.monoNow req.peer (t.device.setHosts hosts).auth.hosts).2 =
      false := by
    show (authIsLockedOut a.env.monoNow req.peer hosts).2 = false
    rw [hhosts]
    exact authIsLockedOut_again hunlocked
  obtain ⟨v, hsession, hboard, hshown⟩ :=
    loginSession_accepted (w := ⟨t.device.setHosts hosts, n + 1, []⟩) (a.env.tokenBytes n)
      hagain hcred
  have hhandler : callHandler pf a.env a.call t.device.start =
      .ok (.ok (loginBody (!t.device.board.config.authInitialized)
        (generateToken (a.env.tokenBytes n)))
        (some (sessionCookie (generateToken (a.env.tokenBytes n))))) v := by
    rw [hcall]
    show handler pf a.env req t.device.start = _
    unfold handler
    rw [hroute]
    show handleLogin pf a.env req t.device.start = _
    rw [handleLogin_eq, bind_ok hlocked,
      bind_ok ((rejectIf_apply _ _ _ _).trans (if_neg (by simp))), bind_ok hlogin]
    dsimp only
    rw [bind_ok (ask_apply _ _), bind_ok hsession]
    show EStateM.Result.ok
      (Response.ok (loginBody (!v.state.board.config.authInitialized) _) _) v = _
    rw [hboard]
    rfl
  refine ⟨_, _, generateToken (a.env.tokenBytes n),
    systemStep_of_ok hrunning hattempt.time hhandler, ?_, by simp⟩
  rw [hshown]
  simp

/-! ## Accepted credentials and the login buffer -/

theorem mem_write {c : UInt8} {bytes : List UInt8} (h : c ∈ JsonText.write bytes) :
    c = 92 ∨ c ∈ bytes := by
  obtain ⟨d, hd, hc⟩ := List.mem_flatMap.mp h
  split at hc
  · simp only [List.mem_cons, List.not_mem_nil, or_false] at hc
    rcases hc with rfl | rfl
    · exact .inl rfl
    · exact .inr hd
  · simp only [List.mem_cons, List.not_mem_nil, or_false] at hc
    exact .inr (hc ▸ hd)

theorem loginText_text {username password : CString} (huser : (0 : UInt8) ∉ username)
    (hpass : (0 : UInt8) ∉ password) : (0 : UInt8) ∉ loginText username password := by
  have hwrite : ∀ bytes : CString, (0 : UInt8) ∉ bytes → (0 : UInt8) ∉ JsonText.write bytes :=
    fun bytes h hmem => (mem_write hmem).elim (by decide) h
  have hkeys : (0 : UInt8) ∉ JsonText.write (cstr "username") ∧
      (0 : UInt8) ∉ JsonText.write (cstr "password") := by decide
  simp [loginText, JsonText.writeObject, JsonText.writeMembers, JsonText.writeMember,
    JsonText.quoted, hwrite username huser, hwrite password hpass, hkeys]

theorem demoEnv_delivers (now : ℕ) (body : CString) : (demoEnv now body).Delivers body := by
  intro w hw
  cases body with
  | nil => exact ⟨w.asked, rfl⟩
  | cons c body =>
      refine ⟨w.asked + 1, ?_⟩
      show readBodyLoop (demoEnv now (c :: body)) (body.length + 1) (body.length + 1) [] w = _
      unfold readBodyLoop
      rw [if_neg (by omega), bind_ok (ask_apply _ _)]
      have htake : (c :: body).take (body.length + 1) = c :: body :=
        List.take_of_length_le (by simp)
      show (if (c :: body).take (body.length + 1) = [] then _ else _ :
        Handler (Option (List UInt8))) _ = _
      rw [htake, if_neg (by simp)]
      -- nothing is left to read
      have hdone : body.length + 1 - (c :: body).length = 0 := by simp
      rw [hdone]
      cases body with
      | nil => rfl
      | cons d body => rfl

/-- A body that is read as these credentials is as long as their shortest login. -/
theorem CanLogIn.fits {pf : Platform} (hparse : ReadsObjects pf.cJSONParse) {t : System}
    {username password : CString} (h : CanLogIn pf t username password) :
    29 + (JsonText.write username).length + (JsonText.write password).length ≤ 255 := by
  obtain ⟨login, ⟨env, req, w, v, hlen, hbody, hw, hread⟩, -⟩ := h
  obtain ⟨hfits, json, hjson, huser, hpass⟩ := parsed_of_readLogin hlen hbody hw hread
  have := hparse.length_loginText_le hjson huser hpass
  have := length_ofBuffer_le login
  have := length_loginText username password
  omega

/-- A parser of objects of strings. -/
def readCJson (text : CString) : Option CJson :=
  (JsonText.readObject text).map fun ms =>
    .object (ms.map fun m => (ofBuffer m.1, .string (ofBuffer m.2)))

theorem readCJson_readsObjects : ReadsObjects readCJson where
  spelled := by
    intro text members h
    obtain ⟨ms, hread, hobject⟩ := Option.map_eq_some_iff.mp h
    obtain ⟨object, after, htext, hspelled⟩ := JsonText.readObject_sound hread
    obtain rfl := CJson.object.inj hobject
    refine ⟨[], object, after, JsonText.strings ms, htext, hspelled, ?_⟩
    simp only [JsonText.strings, List.map_map]
    rfl
  written := by
    intro members
    unfold readCJson
    rw [JsonText.readObject_write, Option.map_some, List.map_map]
    congr 2
    refine List.map_congr_left fun m _ => ?_
    show (ofBuffer m.1.val, CJson.string (ofBuffer m.2.val)) = _
    rw [ofBuffer_eq_self m.1.property, ofBuffer_eq_self m.2.property]

/-- A platform with that parser. -/
def demoReader : Platform := { demoPlatform [] with cJSONParse := readCJson }

/-- `{"new_password":"…","current_password":"admin-pass"}` -/
def changeTo (newPass : CString) : CString :=
  JsonText.writeObject [(cstr "new_password", newPass),
    (cstr "current_password", cstr "admin-pass")]

/-- The request is about to install this password for `admin`. -/
def installing (newPass : CString) (s : System) (_ : List Event) : Bool :=
  match configPostUpToCredentials demoReader (demoEnv 20 (changeTo newPass))
    { demoRequest .configPost (changeTo newPass).length with authorization := some demoBearer }
    s.device.start with
  | .ok json w => decide (stringField json "new_password" = some newPass ∧
      newUsername json w.state.board.config = cstr "admin")
  | .error _ _ => false

def answeredOk (_ : System) (es : List Event) : Bool := decide (.answered (.ok okBody none) ∈ es)

/-- `admin` logs in and changes the password. -/
def demoChanges (newPass : CString) : Bool :=
  ((systemMachine demoReader).exec demoSystem [demoLogin 10]).any fun r =>
    installing newPass r.1 r.2 &&
      ((systemMachine demoReader).exec r.1 [demoConfigPost 20 (changeTo newPass)]).any fun r' =>
        answeredOk r'.1 r'.2

theorem demo_installs {newPass : CString} (h : demoChanges newPass = true) :
    ∃ h s es t, (systemMachine demoReader).Run demoSystem [demoLogin 10] h s ∧
      (systemMachine demoReader).step s (demoConfigPost 20 (changeTo newPass)) = some (t, es) ∧
        Installs demoReader s (demoConfigPost 20 (changeTo newPass)) es (cstr "admin") newPass := by
  obtain ⟨s, h, t, es, hlogin, hpost, hstart, hend⟩ :=
    Machine.Run.exists_of_exec_exec (p := installing newPass) (q := answeredOk) h
  refine ⟨h, s, es, t, hlogin, hpost.single_inv, ?_, of_decide_eq_true hend⟩
  unfold installing at hstart
  cases hreach : configPostUpToCredentials demoReader (demoEnv 20 (changeTo newPass))
      { demoRequest .configPost (changeTo newPass).length with authorization := some demoBearer }
      s.device.start with
  | error stop w =>
      rw [hreach] at hstart
      cases hstart
  | ok json w =>
      rw [hreach] at hstart
      obtain ⟨hpass, huser⟩ := of_decide_eq_true hstart
      exact ⟨_, json, w, rfl, rfl, hreach, hpass, huser⟩

theorem adminConfig_wellFormed : adminConfig.WellFormed where
  staSsid := ⟨by decide, by decide⟩
  staPass := ⟨by decide, by decide⟩
  apSsid := ⟨by decide, by decide⟩
  apPass := ⟨by decide, by decide⟩
  authUser := ⟨by decide, by decide⟩
  authHash := rfl
  authSalt := rfl
  deviceName := ⟨by decide, by decide⟩
  ntpServer := ⟨by decide, by decide⟩
  timezone := ⟨by decide, by decide⟩

/-- A password of 230 letters. -/
def longPassword : CString := List.replicate 230 97

end WebTerminal
