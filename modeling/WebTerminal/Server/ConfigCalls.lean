import WebTerminal.Lib.Drives
import WebTerminal.Server.RouteRules
import WebTerminal.Server.Survival
import WebTerminal.Store.Proper

/-!
# What the server calls of config.c

Every procedure of the server is followed by the machine of `config.c`: what it does to
the configuration and to flash is a sequence of accepted calls, and where it resets the
chip the machine is reset.  A call made by a handler finds its answers behind those the
handler has used up, which is what `Env.later` is for.
-/

set_option autoImplicit false

namespace WebTerminal

open Proc

/-- The answers that are left after `n` questions. -/
def Env.later (n : ℕ) (env : Env) : Env :=
  { env with
    err := fun k => env.err (n + k)
    recv := fun k => env.recv (n + k)
    tokenBytes := fun k => env.tokenBytes (n + k)
    saltBytes := fun k => env.saltBytes (n + k)
    httpHeaders := fun k => env.httpHeaders (n + k)
    scanResult := fun k => env.scanResult (n + k)
    found := fun k => env.found (n + k) }

/-- A condition on answers that does not depend on where they begin. -/
def Lasts (F : Env → Prop) : Prop := ∀ env n, F env → F (env.later n)

/-- An accepted action whose answers meet the condition and whose password is among these. -/
def ConfigAction.Within (F : Env → Prop) (P : CString → Prop) : ConfigAction → Prop
  | .set env call => call.Accepted ∧ call.Gives P ∧ F env
  | .init env => F env
  | .reset => True

/-- The machine is up with the configuration and the flash of the board. -/
structure BoardUp (pf : Platform) (board : Board) (c : ConfigSystem) : Prop where
  up : c.up = true
  config : c.board.config = board.config
  nvs : c.board.nvs = board.nvs
  proper : c.Proper pf

/-- The machine is down with the flash of the board. -/
structure BoardDown (pf : Platform) (board : Board) (c : ConfigSystem) : Prop where
  up : c.up = false
  nvs : c.board.nvs = board.nvs
  proper : c.Proper pf

/-- Where a procedure that stops leaves the machine. -/
def BoardEnd (pf : Platform) : Stop → Board → ConfigSystem → Prop
  | .respond _ => BoardUp pf
  | .restart | .abort => BoardDown pf

/-- A procedure of the board that the machine follows. -/
abbrev Follows (pf : Platform) (F : Env → Prop) (P : CString → Prop) {α : Type}
    (m : BoardM α) : Prop :=
  Drives (configMachine pf) (ConfigAction.Within F P) (BoardUp pf) (BoardUp pf) (BoardEnd pf) m

/-- The board in relation to the machine, in a device. -/
def OfBoard (S : Board → ConfigSystem → Prop) (d : Device) (c : ConfigSystem) : Prop := S d.board c

/-- A handler that the machine follows. -/
abbrev FollowsDevice (pf : Platform) (F : Env → Prop) (P : CString → Prop) {α : Type}
    (m : Handler α) : Prop :=
  Drives (configMachine pf) (ConfigAction.Within F P) (OfBoard (BoardUp pf)) (OfBoard (BoardUp pf))
    (fun r => OfBoard (BoardEnd pf r)) m

section

variable {pf : Platform} {F : Env → Prop} {P : CString → Prop} {env : Env} {board board' : Board}
  {c : ConfigSystem} {α β : Type}

theorem lasts_true : Lasts fun _ => True := fun _ _ _ => trivial

/-! ## The machine -/

theorem BoardUp.reset (h : BoardUp pf board c) :
    (configMachine pf).Run c [.reset] [] (c.down c.board) ∧
      BoardDown pf board (c.down c.board) := by
  have hstep := configStep_reset pf c
  exact ⟨.single hstep, rfl, h.nvs, h.proper.step (a := .reset) trivial hstep⟩

theorem BoardUp.congr (h : BoardUp pf board c) (hconfig : board'.config = board.config)
    (hnvs : board'.nvs = board.nvs) : BoardUp pf board' c :=
  ⟨h.up, h.config.trans hconfig.symm, h.nvs.trans hnvs.symm, h.proper⟩

theorem BoardUp.configProper (h : BoardUp pf board c) :
    board.config.Proper pf.target.serialPortMax := h.config ▸ h.proper.config h.up

theorem stops_boardUp (pf : Platform) (F : Env → Prop) (P : CString → Prop) :
    Stops (configMachine pf) (ConfigAction.Within F P) (BoardUp pf) (BoardEnd pf) := by
  intro r board c h
  obtain ⟨hrun, hdown⟩ := h.reset
  cases r with
  | respond => exact ⟨[], [], c, .nil, by simp, h⟩
  | restart => exact ⟨[.reset], [], _, hrun, fun a ha => List.mem_singleton.mp ha ▸ trivial, hdown⟩
  | abort => exact ⟨[.reset], [], _, hrun, fun a ha => List.mem_singleton.mp ha ▸ trivial, hdown⟩

theorem flashTook_later (env : Env) (target : Target) (k n : ℕ) :
    (env.later k).flashTook target n = env.flashTook target (k + n) := by
  funext key
  unfold Env.flashTook Overlay.took
  rw [Nat.add_assoc]
  rfl

/-- A call that is made after `w.asked` questions. -/
theorem ConfigCall.run_at {call : ConfigCall} (w : World Board Effect)
    (h : call.outOfRange pf.target.serialPortMax = false) :
    call.run pf env w = saveToNvs pf env { w with
      state := { w.state with config := call.edited pf (env.later w.asked) w.state.config }
      asked := w.asked + call.opening } := by
  cases call with
  | baudRatePort port rate => exact congrFun (if_neg (of_decide_eq_false h)) w
  | baudRate rate =>
      have hport : ¬((0 : ℤ) < 0 ∨ (pf.target.serialPortMax : ℤ) ≤ 0) := by
        cases pf.target <;> decide
      exact congrFun (if_neg hport) w
  | _ => rfl

theorem saveToNvs_closed (pf : Platform) (env : Env) (w : World Board Effect)
    (hclosed : env.err w.asked ≠ .ok) :
    ∃ v, saveToNvs pf env w = .error .abort v ∧ v.state = w.state := by
  refine ⟨{ w with asked := w.asked + 1 }, ?_, rfl⟩
  unfold saveToNvs espErrorCheck
  rw [bind_ok (ask_apply _ _), if_neg hclosed]
  rfl

/-- An accepted call is one step of the machine. -/
theorem follows_call (hF : Lasts F) (henv : F env) (call : ConfigCall)
    (haccepted : call.Accepted) (hgives : call.Gives P) : Follows pf F P (call.run pf env) := by
  intro w c h
  cases hrange : call.outOfRange pf.target.serialPortMax with
  | true =>
      have hrun : call.run pf env w = .ok .invalidArg w := by
        cases call with
        | baudRatePort port rate => exact congrFun (if_pos (of_decide_eq_true hrange)) w
        | _ => cases hrange
      refine ⟨[], [], c, .nil, by simp, ?_⟩
      rw [hrun]
      exact h
  | false =>
      rw [DrivesAt, call.run_at w hrange]
      by_cases hopened : env.err (w.asked + call.opening) = .ok
      · have hstep := configStep_set h.up
          (show call.Saves pf (env.later w.asked) from ⟨hrange, hopened⟩)
        refine ⟨[.set (env.later w.asked) call], [], _, .single hstep, ?_, ?_⟩
        · exact fun a ha => List.mem_singleton.mp ha ▸ ⟨haccepted, hgives, hF env _ henv⟩
        · rw [saveToNvs_apply pf env hopened]
          refine ⟨h.up, ?_, ?_, h.proper.step (a := .set _ call) haccepted hstep⟩
          · show call.edited pf (env.later w.asked) c.board.config = _
            rw [h.config]
          · show Overlay.overlay (call.took pf (env.later w.asked))
              (call.edited pf (env.later w.asked) c.board.config).saved c.board.nvs = _
            unfold ConfigCall.took
            rw [h.config, h.nvs, flashTook_later, Nat.add_assoc]
      · -- the edit is lost with the rest of `s_config`
        obtain ⟨hrun, hdown⟩ := h.reset
        refine ⟨[.reset], [], _, hrun, fun a ha => List.mem_singleton.mp ha ▸ trivial, ?_⟩
        obtain ⟨v, hsave, hstate⟩ := saveToNvs_closed pf env { w with
          state := { w.state with config := call.edited pf (env.later w.asked) w.state.config }
          asked := w.asked + call.opening } hopened
        rw [hsave]
        refine ⟨hdown.up, hdown.nvs.trans ?_, hdown.proper⟩
        rw [hstate]

/-! ## The radio and the ports -/

theorem follows_wifiUpdate (edit : Wifi → Wifi) : Follows pf F P (wifiUpdate edit) :=
  drives_update fun _ _ h => h.congr rfl rfl

theorem follows_wifiCall (call : WifiCall) : Follows pf F P (wifiCall env call) :=
  (drives_emit _).bind fun _ => (drives_ask _).bind fun _ =>
    (follows_wifiUpdate _).bind fun _ => drives_pure _

theorem follows_espErrorCheck (err : EspErr) : Follows pf F P (espErrorCheck err) :=
  .ite (fun _ => drives_pure _) fun _ => drives_stop (stops_boardUp pf F P) _

/-- What comes after a check may use what was checked. -/
theorem drives_unless {σ ε : Type} {A : ConfigAction → Prop} {P Q : σ → ConfigSystem → Prop}
    {E : Stop → σ → ConfigSystem → Prop} (hstops : Stops (configMachine pf) A P E) {p : Prop}
    [Decidable p] {status : ℕ} {message : String} {f : Unit → Proc σ ε Stop α}
    (hf : ¬p → Drives (configMachine pf) A P Q E (f ())) :
    Drives (configMachine pf) A P Q E (rejectIf p status message >>= f) := by
  refine Drives.bind_of (Q := P) (.ite (fun _ => drives_stop hstops _) fun _ => drives_pure _) ?_
  intro w c a v _ hrun
  rw [rejectIf_apply] at hrun
  split at hrun
  next => cases hrun
  next hp => exact hf hp

theorem follows_startStoredAp : Follows pf F P (startStoredAp pf env) :=
  (drives_read _).bind fun _ => follows_wifiCall _

theorem follows_updateHostname (deviceName : CString) :
    Follows pf F P (wifiManagerUpdateHostname env deviceName) :=
  (follows_wifiCall _).bind fun _ => (follows_wifiCall _).bind fun _ =>
    (follows_wifiCall _).bind fun _ => drives_pure _

theorem follows_enterApSta (wasRunning : Bool) : Follows pf F P (enterApSta pf env wasRunning) := by
  refine .ite (fun _ => drives_pure _) fun _ => (follows_wifiCall _).bind fun _ => ?_
  refine (follows_wifiCall _).bind fun err => .ite (fun _ => drives_pure _) fun _ => ?_
  exact (follows_wifiUpdate _).bind fun _ => follows_startStoredAp.bind fun _ => drives_pure _

theorem follows_joinNetwork (wasRunning : Bool) (ssid password : CString) :
    Follows pf F P (joinNetwork env wasRunning ssid password) := by
  refine (follows_wifiCall _).bind fun err => .ite (fun _ => drives_pure _) fun _ => ?_
  refine (follows_wifiUpdate _).bind fun _ => .ite (fun _ => ?_) fun _ => follows_wifiCall _
  exact (follows_wifiCall _).bind fun _ => drives_pure _

theorem follows_endScan (origMode : WifiMode) : Follows pf F P (endScan env origMode) := by
  refine (Drives.onlyIf fun _ => follows_wifiCall _).bind fun _ => ?_
  refine (follows_wifiUpdate _).bind fun _ => (drives_read _).bind fun conf => ?_
  exact .onlyIf fun _ => follows_wifiCall _

theorem follows_wifiManagerScan : Follows pf F P (wifiManagerScan env) := by
  refine (follows_wifiUpdate _).bind fun _ => (drives_read _).bind fun wifi => ?_
  refine (Drives.onlyIf fun _ => follows_wifiCall _).bind fun _ => ?_
  refine (Drives.onlyIf fun _ => follows_wifiCall _).bind fun _ => ?_
  have hend : ∀ res : Option (List WifiScanResult),
      Follows pf F P (endScan env wifi.driverMode >>= fun _ => pure res) := fun _ =>
    (follows_endScan _).bind fun _ => drives_pure _
  refine (follows_wifiCall _).bind fun err => .ite (fun _ => hend _) fun _ => ?_
  refine (drives_ask _).bind fun records => .ite (fun _ => ?_) fun _ => ?_
  · exact (follows_wifiCall _).bind fun _ => hend _
  · refine (drives_ask _).bind fun apRecords => (follows_wifiCall _).bind fun _ => ?_
    exact .ite (fun _ => hend _) fun _ => (drives_ask _).bind fun res =>
      (follows_endScan _).bind fun _ => drives_pure _

theorem follows_serialPortSetBaudRate (port : ℤ) (baudRate : UInt32) :
    Follows pf F P (serialPortSetBaudRate pf env port baudRate) := by
  refine .ite (fun _ => drives_pure _) fun _ => .ite (fun _ => ?_) fun _ => ?_
  · refine (drives_emit _).bind fun _ => (drives_ask _).bind fun err => ?_
    refine (drives_update fun _ _ h => ?_).bind fun _ => drives_pure _
    split
    · exact h.congr rfl rfl
    · exact h
  · refine (drives_read _).bind fun serial => .ite (fun _ => drives_pure _) fun _ => ?_
    refine (drives_update fun _ _ h => h.congr rfl rfl).bind fun _ => .ite (fun _ => ?_) fun _ =>
      drives_pure _
    refine (drives_emit _).bind fun _ => (drives_ask _).bind fun err => .ite (fun _ => ?_) fun _ =>
      drives_pure _
    exact (drives_update fun _ _ h => h.congr rfl rfl).bind fun _ => drives_pure _

/-! ## The fields of POST /api/config -/

variable {json : CJson} (hF : Lasts F) (henv : F env) (hjson : TextFields json)

include hF henv

theorem follows_setBaudRate : Follows pf F P (setBaudRate pf env json) := by
  unfold setBaudRate
  split
  next => exact drives_pure _
  next value heq =>
    refine .onlyIf fun hvalid => ?_
    exact (follows_call hF henv (.baudRatePort _ _) hvalid.1 trivial).bind fun _ =>
      follows_serialPortSetBaudRate _ _

theorem follows_setPowerDefault : Follows pf F P (setPowerDefault pf env json) := by
  unfold setPowerDefault
  split
  next on heq =>
    exact (follows_call hF henv (.powerOnDefault on) trivial trivial).bind fun _ => drives_pure _
  next => exact drives_pure _

theorem follows_disconnectSta : Follows pf F P (disconnectSta pf env json) := by
  refine .ite (fun _ => ?_) fun _ => drives_pure _
  refine .bind ?_ fun err => .ite (fun _ => drives_stop (stops_boardUp pf F P) _)
    fun _ => drives_pure _
  have hempty : (0 : UInt8) ∉ ([] : CString) := List.not_mem_nil
  refine (follows_wifiUpdate _).bind fun _ => ?_
  refine (follows_call hF henv (.wifiSta ⟨[], hempty⟩ ⟨[], hempty⟩)
    (.inr ⟨rfl, rfl⟩) trivial).bind fun _ => ?_
  refine (follows_wifiCall _).bind fun _ => (follows_wifiCall _).bind fun _ => ?_
  refine (follows_wifiCall _).bind fun err => .ite (fun _ => drives_pure _) fun _ => ?_
  exact (follows_wifiUpdate _).bind fun _ => follows_startStoredAp.bind fun _ => follows_wifiCall _

include hjson

theorem follows_setAp : Follows pf F P (setAp pf env json) := by
  unfold setAp
  split
  next ssid pass hssid hpass =>
    refine drives_unless (stops_boardUp pf F P) fun hs => ?_
    refine drives_unless (stops_boardUp pf F P) fun hp => ?_
    refine .bind ?_ fun err => .ite (fun _ => drives_stop (stops_boardUp pf F P) _) fun _ =>
      drives_pure _
    refine (follows_call hF henv (.wifiAp ⟨ssid, hjson _ _ hssid⟩ ⟨pass, hjson _ _ hpass⟩)
      ⟨Bool.eq_false_of_not_eq_true hs, Bool.eq_false_of_not_eq_true hp⟩ trivial).bind fun err => ?_
    exact .ite (fun _ => drives_pure _) fun _ => follows_wifiCall _
  next => exact drives_pure _

theorem follows_setSta : Follows pf F P (setSta pf env json) := by
  unfold setSta
  split
  next ssid pass hssid hpass =>
    refine .bind ?_ fun err => .ite (fun _ => drives_stop (stops_boardUp pf F P) _) fun _ =>
      drives_pure _
    refine .ite (fun _ => drives_pure _) fun hrefused => ?_
    refine (follows_call hF henv (.wifiSta ⟨ssid, hjson _ _ hssid⟩ ⟨pass, hjson _ _ hpass⟩)
      (.inl (Bool.eq_false_of_not_eq_true hrefused)) trivial).bind fun _ => ?_
    refine (drives_read _).bind fun wifi => (follows_enterApSta _).bind fun err => ?_
    exact .ite (fun _ => drives_pure _) fun _ => follows_joinNetwork _ _ _
  next => exact drives_pure _

theorem follows_setDeviceName : Follows pf F P (setDeviceName pf env json) := by
  unfold setDeviceName
  split
  next name hname =>
    refine .onlyIf fun hlength => ?_
    exact (follows_call hF henv (.deviceName ⟨name, hjson _ _ hname⟩) hlength trivial).bind
      fun _ => follows_updateHostname _
  next => exact drives_pure _

theorem follows_setNtpServer : Follows pf F P (setNtpServer pf env json) := by
  unfold setNtpServer
  split
  next server hserver =>
    exact (follows_call hF henv (.ntpServer ⟨server, hjson _ _ hserver⟩) trivial trivial).bind
      fun _ => drives_pure _
  next => exact drives_pure _

theorem follows_setTimezone : Follows pf F P (setTimezone pf env json) := by
  unfold setTimezone
  split
  next tz htz =>
    exact (follows_call hF henv (.timezone ⟨tz, hjson _ _ htz⟩) trivial trivial).bind
      fun _ => drives_update fun _ _ h => h.congr rfl rfl
  next => exact drives_pure _

theorem follows_applySettings : Follows pf F P (applySettings pf env json) := by
  refine drives_forM fun stage hstage => ?_
  simp only [settings, List.mem_cons, List.not_mem_nil, or_false] at hstage
  rcases hstage with rfl | rfl | rfl | rfl | rfl | rfl | rfl | rfl
  · exact follows_setBaudRate hF henv
  · exact follows_setAp hF henv hjson
  · exact follows_setSta hF henv hjson
  · exact follows_setPowerDefault hF henv
  · exact follows_setDeviceName hF henv hjson
  · exact follows_setNtpServer hF henv hjson
  · exact follows_setTimezone hF henv hjson
  · exact follows_disconnectSta hF henv

end

/-! ## Handlers -/

section

variable {pf : Platform} {F : Env → Prop} {P : CString → Prop} {env : Env} {json : CJson}
  {req : Request} {α : Type}

theorem stops_ofBoard (pf : Platform) (F : Env → Prop) (P : CString → Prop) :
    Stops (configMachine pf)
    (ConfigAction.Within F P) (OfBoard (BoardUp pf)) fun r => OfBoard (BoardEnd pf r) :=
  fun r d c h => stops_boardUp pf F P r d.board c h

theorem followsDevice_onBoard {m : BoardM α} (h : Follows pf F P m) :
    FollowsDevice pf F P (onBoard m) :=
  h.zoom fun _ _ => rfl

/-- A handler that leaves the settings alone. -/
theorem followsDevice_of_spares {m : Handler α} (h : Does SparesSettings m) :
    FollowsDevice pf F P m := by
  refine drives_of_does h (fun d es d' c honly hup => ?_) (stops_ofBoard pf F P)
  exact hup.congr honly.config honly.nvs

/-- The handler of these calls, from this device on. -/
abbrev FollowsAt (pf : Platform) (F : Env → Prop) (P : CString → Prop) {α : Type} (m : Handler α) :
    World Device Event → ConfigSystem → Prop :=
  DrivesAt (configMachine pf) (ConfigAction.Within F P) (OfBoard (BoardUp pf))
    (fun r => OfBoard (BoardEnd pf r)) m

/-- The user name that a change of the credentials installs. -/
theorem newUsername_fits {conf : AppConfig} (hjson : TextFields json)
    (hconf : conf.Proper pf.target.serialPortMax) (hname : usernameRefused json = false) :
    (0 : UInt8) ∉ newUsername json conf ∧ 0 < (newUsername json conf).length ∧
      (newUsername json conf).length ≤ configAuthUserMaxLen := by
  unfold newUsername
  cases hfield : stringField json "username" with
  | none =>
      refine ⟨hconf.wellFormed.authUser.2, List.length_pos_of_ne_nil hconf.authUser, ?_⟩
      exact Nat.le_of_lt_succ hconf.wellFormed.authUser.1
  | some username =>
      simp only [usernameRefused, hfield, decide_eq_false_iff_not, not_or, not_lt] at hname
      exact ⟨hjson _ _ hfield, Nat.pos_of_ne_zero hname.1, hname.2⟩

/-- The end of the handler, where the password it sets is among those of the machine. -/
theorem followsAt_changeCredentials (hF : Lasts F) (henv : F env) (hjson : TextFields json)
    {w : World Device Event} {c : ConfigSystem} (h : BoardUp pf w.state.board c)
    (hset : ∀ v password, changeCredentials pf env json w = .ok () v →
      stringField json "new_password" = some password → P password) :
    FollowsAt pf F P (changeCredentials pf env json) w c := by
  have hcases := changeCredentials_cases pf env json w
  cases hend : changeCredentials pf env json w with
  | error r v =>
      rw [FollowsAt, DrivesAt, hend]
      rw [hend] at hcases
      cases hcases with
      | refused => exact ⟨[], [], c, .nil, by simp, h⟩
      | aborted _ _ _ hnvs _ hstate =>
          -- flash could not be opened, so that it is as it was
          obtain ⟨hrun, hdown⟩ := h.reset
          refine ⟨[.reset], [], _, hrun, fun a ha => List.mem_singleton.mp ha ▸ trivial, hdown.up,
            hdown.nvs.trans ?_, hdown.proper⟩
          rw [hstate, Device.setBoard_board, hnvs]
  | ok _ v =>
      cases hpass : stringField json "new_password" with
      | none =>
          unfold changeCredentials
          rw [hpass]
          exact drives_pure _ w c h
      | some newPass =>
          cases haccepted : credentialsAccepted pf json w.state.board.config with
          | false =>
              obtain ⟨status, message, hrun⟩ := changeCredentials_refused env haccepted hpass
              cases hrun.symm.trans hend
          | true =>
              obtain ⟨hlong, -, hname⟩ := (credentialsAccepted_iff hpass).mp haccepted
              have husername := newUsername_fits hjson h.configProper hname
              rw [FollowsAt, DrivesAt, changeCredentials_accepted haccepted hpass]
              refine ((followsDevice_onBoard ?_).bind fun _ => ?_) w c h
              · exact follows_call hF henv
                  (.auth ⟨newUsername json w.state.board.config, husername.1⟩
                    ⟨newPass, hjson _ _ hpass⟩)
                  ⟨husername.2, hlong⟩ (hset v newPass hend hpass)
              · exact followsDevice_of_spares (does_act fun _ => rfl)

theorem followsDevice_configPostUpToCredentials (hparse : pf.ParsesText) (hF : Lasts F)
    (henv : F env) : FollowsDevice pf F P (configPostUpToCredentials pf env req) := by
  refine (followsDevice_of_spares (readConfigBody_spares pf env req)).bind_of ?_
  intro w c json v _ hread
  obtain ⟨body, hparsed⟩ := readConfigBody_parsed hread
  exact (followsDevice_onBoard (follows_applySettings hF henv (hparse _ _ hparsed))).bind fun _ =>
    drives_pure _

/-- The request sets this password: it gives it as `new_password` and is answered with ok. -/
def Request.Sets (pf : Platform) (env : Env) (d : Device) (req : Request) (password : CString) :
    Prop :=
  ∃ json u v, readConfigBody pf env req d.start = .ok json u ∧
    stringField json "new_password" = some password ∧
      handleConfigPost pf env req d.start = .ok (.ok okBody none) v

theorem followsAt_handleConfigPost (hparse : pf.ParsesText) (hF : Lasts F) (henv : F env)
    {d : Device} {c : ConfigSystem} (h : BoardUp pf d.board c)
    (hset : ∀ password, req.Sets pf env d password → P password) :
    FollowsAt pf F P (handleConfigPost pf env req) d.start c := by
  refine (followsDevice_configPostUpToCredentials hparse hF henv d.start c h).bind ?_
  intro json v c' hupTo hup
  obtain ⟨json', u, hread, hrest⟩ := of_bind_ok hupTo
  obtain ⟨-, u', -, hpure⟩ := of_bind_ok hrest
  cases hpure
  obtain ⟨body, hparsed⟩ := readConfigBody_parsed hread
  refine (followsAt_changeCredentials hF henv (hparse _ _ hparsed) hup ?_).bind
    fun _ w c'' _ hup' => drives_pure _ w c'' hup'
  intro w password hchange hpass
  refine hset password ⟨json, u, w, hread, hpass, ?_⟩
  unfold handleConfigPost
  rw [bind_ok hupTo, bind_ok hchange]
  rfl

theorem followsDevice_handleWifiScan : FollowsDevice pf F P (handleWifiScan env req) := by
  have h := handlerRules_sparesSettings pf env
  refine (followsDevice_of_spares h.requireAuth).bind fun _ => ?_
  refine (followsDevice_of_spares h.requirePasswordChanged).bind fun _ => followsDevice_onBoard ?_
  refine follows_wifiManagerScan.bind fun results => ?_
  cases results with
  | none => exact drives_stop (stops_boardUp pf F P) _
  | some results => exact drives_pure _

/-- Whatever call the device gets, the machine follows it. -/
theorem followsAt_call (hparse : pf.ParsesText) (hF : Lasts F) (henv : F env) {call : Call}
    {d : Device} {c : ConfigSystem} (h : BoardUp pf d.board c)
    (hset : ∀ req, call = .request req → req.route = .configPost →
      ∀ password, req.Sets pf env d password → P password) :
    FollowsAt pf F P (callHandler pf env call) d.start c := by
  have hspares : ∀ {m : Handler Response}, Does SparesSettings m → FollowsAt pf F P m d.start c :=
    fun hm => followsDevice_of_spares hm d.start c h
  cases call with
  | request req =>
      by_cases hpost : req.route = .configPost
      · rw [callHandler_configPost pf env hpost]
        exact followsAt_handleConfigPost hparse hF henv h (hset req rfl hpost)
      · by_cases hscan : req.route = .wifiScan
        · have hhandler : callHandler pf env (.request req) = handleWifiScan env req := by
            show handler pf env req = _
            unfold handler
            rw [hscan]
          rw [hhandler]
          exact followsDevice_handleWifiScan d.start c h
        · exact hspares (handler_spares pf env hpost hscan)
  | frame fd frame => exact hspares (handleWsFrame_spares pf env fd frame)
  | close fd =>
      exact hspares (.bind sparesSettings_composes (does_act fun _ => rfl) fun _ =>
        does_pure sparesSettings_composes _)
  | flush frames =>
      have hflush : Does SparesSettings (flushWork env frames) :=
        does_flushWork sparesSettings_composes (handlerRules_sparesSettings pf env).validate
          (fun _ _ => rfl) (fun _ => does_act fun _ => rfl)
          (fun _ _ => does_act fun _ => rfl) frames
      exact hspares (hflush.bind sparesSettings_composes fun _ =>
        does_pure sparesSettings_composes _)
  | background wifi serial =>
      have hfollows : FollowsDevice pf F P (callHandler pf env (.background wifi serial)) :=
        (drives_update fun _ _ h => h.congr rfl rfl).bind fun _ => drives_pure _
      exact hfollows d.start c h

end

end WebTerminal
