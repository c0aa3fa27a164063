import WebTerminal.Server.Relay
import WebTerminal.Server.SetupMode

/-!
# What a power request asks for

`handle_power` decides from the body what to ask of the relay, and then asks.
`powerAsk` is the decision and `powerAnswer` the rest.  The decision is compared
with what the request says: `Arrives` are the pieces in which a body of the
declared length can come in, and `AsksFor` reads the request.  Everything
else is refused before the relay is looked at.
-/

set_option autoImplicit false

namespace WebTerminal

open Proc

/-! ## A body in pieces -/

/-- From question `k` on, calls of `httpd_req_recv` that each get something deliver
the `n` bytes `body`, the last one before question `m`. -/
inductive Arrives (env : Env) : ℕ → ℕ → List UInt8 → ℕ → Prop
  | done (k : ℕ) : Arrives env k 0 [] k
  | piece {k n m : ℕ} {data rest : List UInt8} (hgoing : n ≠ 0)
      (hrecv : env.recv k = .bytes data) (hsome : data.take n ≠ [])
      (hrest : Arrives env (k + 1) (n - (data.take n).length) rest m) :
      Arrives env k n (data.take n ++ rest) m

section

variable {env : Env} {k n m m' : ℕ} {body body' : List UInt8}

/-- A connection delivers one body. -/
theorem Arrives.unique (h : Arrives env k n body m) (h' : Arrives env k n body' m') :
    body' = body ∧ m' = m := by
  induction h generalizing body' with
  | done =>
      cases h' with
      | done => exact ⟨rfl, rfl⟩
      | piece hgoing => exact absurd rfl hgoing
  | piece hgoing hrecv hsome hrest ih =>
      cases h' with
      | done => exact absurd rfl hgoing
      | piece _ hrecv' _ hrest' =>
          obtain rfl := RecvResult.bytes.inj (hrecv.symm.trans hrecv')
          obtain ⟨rfl, rfl⟩ := ih hrest'
          exact ⟨rfl, rfl⟩

/-- The first piece of a body, and the rest. -/
theorem arrives_piece_iff {data : List UInt8} (hgoing : n ≠ 0) (hrecv : env.recv k = .bytes data)
    (hsome : data.take n ≠ []) : Arrives env k n body m ↔ ∃ rest, body = data.take n ++ rest ∧
      Arrives env (k + 1) (n - (data.take n).length) rest m := by
  constructor
  · intro h
    cases h with
    | done => exact absurd rfl hgoing
    | piece _ hrecv' _ hrest =>
        obtain rfl := RecvResult.bytes.inj (hrecv.symm.trans hrecv')
        exact ⟨_, rfl, hrest⟩
  · rintro ⟨rest, rfl, hrest⟩
    exact .piece hgoing hrecv hsome hrest

/-- Nothing arrives where a call gets nothing. -/
theorem not_arrives_of_nothing (hgoing : n ≠ 0)
    (hnothing : ∀ data, env.recv k = .bytes data → data.take n = []) : ¬Arrives env k n body m := by
  intro h
  cases h with
  | done => exact hgoing rfl
  | piece _ hrecv hsome _ => exact hsome (hnothing _ hrecv)

/-- The loop of `read_body` returns the body that arrives, and fails if none does. -/
theorem readBodyLoop_cases {σ ε : Type} (env : Env) : ∀ (fuel remaining : ℕ), remaining ≤ fuel →
    ∀ (got : List UInt8) (w : World σ ε),
      (∃ body m, Arrives env w.asked remaining body m ∧
        readBodyLoop env fuel remaining got w = .ok (some (got ++ body)) { w with asked := m }) ∨
      (∀ body m, ¬Arrives env w.asked remaining body m) ∧ ∃ m,
        readBodyLoop env fuel remaining got w = .ok none { w with asked := m } := by
  intro fuel
  induction fuel with
  | zero =>
      intro remaining hle got w
      obtain rfl : remaining = 0 := by omega
      exact .inl ⟨[], w.asked, .done _, by rw [List.append_nil]; rfl⟩
  | succ fuel ih =>
      intro remaining hle got w
      by_cases hdone : remaining = 0
      · subst hdone
        refine .inl ⟨[], w.asked, .done _, ?_⟩
        rw [readBodyLoop, if_pos rfl, List.append_nil]
        rfl
      · rcases recv_cases env w.asked remaining with ⟨data, hrecv, hsome⟩ | hnothing
        · rw [readBodyLoop_piece hdone hrecv hsome]
          have hpos := List.length_pos_iff.mpr hsome
          rcases ih (remaining - (data.take remaining).length) (by omega)
              (got ++ data.take remaining) { w with asked := w.asked + 1 } with
            ⟨body, m, harrives, hrun⟩ | ⟨hnever, m, hrun⟩
          · refine .inl ⟨data.take remaining ++ body, m, .piece hdone hrecv hsome harrives, ?_⟩
            rw [hrun, List.append_assoc]
          · refine .inr ⟨fun body m' h => ?_, m, hrun⟩
            obtain ⟨rest, -, hrest⟩ := (arrives_piece_iff hdone hrecv hsome).mp h
            exact hnever _ _ hrest
        · -- a call that gets nothing is a closed connection
          exact .inr ⟨fun body m => not_arrives_of_nothing hdone hnothing, w.asked + 1,
            readBodyLoop_nothing hdone hnothing⟩

/-- How `read_body` ends. -/
theorem readBody_cases {σ ε : Type} (env : Env) (req : Request) (bufLen : ℕ) (w : World σ ε) :
    (req.contentLen = 0 ∧ readBody env req bufLen w = .ok .absent w) ∨
    (req.contentLen ≠ 0 ∧ req.contentLen < bufLen ∧ ∃ body m,
      Arrives env w.asked req.contentLen body m ∧
        readBody env req bufLen w = .ok (.complete body) { w with asked := m }) ∨
    req.contentLen ≠ 0 ∧ (∀ body m, Arrives env w.asked req.contentLen body m →
      bufLen ≤ req.contentLen) ∧
        ∃ m, readBody env req bufLen w = .ok .failed { w with asked := m } := by
  unfold readBody
  by_cases hnone : req.contentLen = 0
  · exact .inl ⟨hnone, by rw [if_pos hnone]; rfl⟩
  · rw [if_neg hnone]
    by_cases hlong : bufLen ≤ req.contentLen
    · exact .inr (.inr ⟨hnone, fun _ _ _ => hlong, w.asked, by rw [if_pos hlong]; rfl⟩)
    · rw [if_neg hlong]
      rcases readBodyLoop_cases env req.contentLen req.contentLen le_rfl [] w with
        ⟨body, m, harrives, hrun⟩ | ⟨hnever, m, hrun⟩
      · exact .inr (.inl ⟨hnone, by omega, body, m, harrives, bind_ok hrun⟩)
      · exact .inr (.inr ⟨hnone, fun body m' h => absurd h (hnever body m'), m, bind_ok hrun⟩)

end

/-! ## The decision and the answer -/

section

variable (pf : Platform) (env : Env) (req : Request)

/-- `handle_power` up to the call into `gpio_control.c`. -/
def powerAsk : BoardM PowerCall := do
  let body ← readBody env req 128
  match body with
  | .failed => sendJsonError 400 "Invalid request size"
  | .absent => return .toggle
  | .complete bytes =>
      match pf.cJSONParse (ofBuffer bytes) with
      | none => sendJsonError 400 "Invalid JSON"
      | some json =>
          match CJson.bool? (json.getObjectItem (cstr "power")) with
          | none => sendJsonError 400 "power must be a boolean"
          | some true => return .on
          | some false => return .off

/-- That call, and the answer to its result. -/
def powerAnswer (call : PowerCall) : BoardM Response := do
  let err ← call.run env
  match err with
  | .ok => do
      let gpio ← read Board.gpio
      return .ok (cstr "\x7b\"ok\":true,\"power_on\":" ++
        (if gpio.powerOn then cstr "true" else cstr "false") ++ cstr "\x7d") none
  | .invalidState => sendJsonError 429 "Power change too fast"
  | _ => sendJsonError 400 "Power control failed"

theorem powerBody_eq : powerBody pf env req = powerAsk pf env req >>= powerAnswer env := by
  have hrequest : powerRequest pf env req = powerAsk pf env req >>= fun call => call.run env := by
    unfold powerRequest powerAsk
    funext w
    rcases readBody_cases env req 128 w with ⟨-, hrun⟩ | ⟨-, -, body, m, -, hrun⟩ | ⟨-, -, m, hrun⟩
    · rw [bind_ok hrun, bind_assoc, bind_ok hrun]
      rfl
    · rw [bind_ok hrun, bind_assoc, bind_ok hrun]
      dsimp only
      cases pf.cJSONParse (ofBuffer body) with
      | none => rfl
      | some json =>
          dsimp only
          cases CJson.bool? (json.getObjectItem (cstr "power")) with
          | none => rfl
          | some on => cases on <;> rfl
    · rw [bind_ok hrun, bind_assoc, bind_ok hrun]
      rfl
  unfold powerBody
  rw [hrequest, bind_assoc]
  rfl

/-- The request names this level: its body arrived whole, fits the buffer, is JSON
and has a boolean member `power` with this value. -/
def NamesLevel (on : Bool) : Prop :=
  req.contentLen ≠ 0 ∧ req.contentLen < 128 ∧ ∃ body m json,
    Arrives env 0 req.contentLen body m ∧ pf.cJSONParse (ofBuffer body) = some json ∧
      CJson.bool? (json.getObjectItem (cstr "power")) = some on

/-- What the request asks for. -/
def AsksFor : PowerCall → Prop
  | .toggle => req.contentLen = 0
  | .on => NamesLevel pf env req true
  | .off => NamesLevel pf env req false

/-- How the decision ends. -/
inductive AskCase (w : World Board Effect) :
    EStateM.Result Stop (World Board Effect) PowerCall → Prop
  | asked {call : PowerCall} {m : ℕ} (hasks : AsksFor pf env req call) :
      AskCase w (.ok call { w with asked := m })
  | refused {message : String} {m : ℕ} (hnone : ∀ call, ¬AsksFor pf env req call) :
      AskCase w (.error (.respond (.error 400 message)) { w with asked := m })

variable {pf env req}

/-- A request asks for one thing at most. -/
theorem AsksFor.unique {call call' : PowerCall} (h : AsksFor pf env req call)
    (h' : AsksFor pf env req call') : call' = call := by
  have hlevel : ∀ {on on' : Bool}, NamesLevel pf env req on → NamesLevel pf env req on' →
      on' = on := by
    rintro on on' ⟨-, -, body, m, json, harrives, hjson, hbool⟩
      ⟨-, -, body', m', json', harrives', hjson', hbool'⟩
    obtain ⟨rfl, -⟩ := harrives.unique harrives'
    obtain rfl := Option.some.inj (hjson.symm.trans hjson')
    exact Option.some.inj (hbool'.symm.trans hbool)
  cases call <;> cases call'
  case on.on | off.off | toggle.toggle => rfl
  case on.off | off.on => exact absurd (hlevel h h') (by decide)
  case on.toggle | off.toggle => exact absurd h' h.1
  case toggle.on | toggle.off => exact absurd h h'.1

/-- What the level of a boolean member is asked with. -/
theorem asksFor_of_namesLevel {on : Bool} (h : NamesLevel pf env req on) :
    AsksFor pf env req (if on then .on else .off) := by
  cases on <;> exact h

/-- Without a level and with a body there is nothing to ask for. -/
theorem not_asksFor (hnone : req.contentLen ≠ 0) (hlevel : ∀ on, ¬NamesLevel pf env req on) :
    ∀ call, ¬AsksFor pf env req call := by
  intro call
  cases call with
  | on => exact hlevel true
  | off => exact hlevel false
  | toggle => exact hnone

theorem powerAsk_cases {w : World Board Effect} (hw : w.asked = 0) :
    AskCase pf env req w (powerAsk pf env req w) := by
  unfold powerAsk
  rcases readBody_cases env req 128 w with
    ⟨hnone, hrun⟩ | ⟨hnone, hfits, body, m, harrives, hrun⟩ | ⟨hnone, hlost, m, hrun⟩
  · rw [bind_ok hrun]
    have hasks : AsksFor pf env req .toggle := hnone
    exact .asked hasks
  · rw [bind_ok hrun]
    rw [hw] at harrives
    dsimp only
    have hbody :
        ∀ on, NamesLevel pf env req on → ∃ json, pf.cJSONParse (ofBuffer body) = some json ∧
        CJson.bool? (json.getObjectItem (cstr "power")) = some on := by
      rintro on ⟨-, -, body', m', json, harrives', hjson, hbool⟩
      obtain ⟨rfl, -⟩ := harrives.unique harrives'
      exact ⟨json, hjson, hbool⟩
    cases hparse : pf.cJSONParse (ofBuffer body) with
    | none =>
        refine .refused (not_asksFor hnone fun on hlevel => ?_)
        obtain ⟨json, hjson, -⟩ := hbody on hlevel
        cases hparse.symm.trans hjson
    | some json =>
        dsimp only
        cases hbool : CJson.bool? (json.getObjectItem (cstr "power")) with
        | none =>
            refine .refused (not_asksFor hnone fun on hlevel => ?_)
            obtain ⟨json', hjson, hbool'⟩ := hbody on hlevel
            obtain rfl := Option.some.inj (hparse.symm.trans hjson)
            cases hbool.symm.trans hbool'
        | some on =>
            have hlevel : NamesLevel pf env req on :=
              ⟨hnone, hfits, body, m, json, harrives, hparse, hbool⟩
            have hasks := asksFor_of_namesLevel hlevel
            cases on with
            | true => exact .asked hasks
            | false => exact .asked hasks
  · rw [bind_ok hrun]
    refine .refused (not_asksFor hnone fun on hlevel => ?_)
    obtain ⟨-, hfits, body, m', json, harrives, -⟩ := hlevel
    have := hlost body m' (by rw [hw]; exact harrives)
    omega

/-- **A power request asks for what it says, or for nothing.**  For a client with a
session, after setup: `handle_power` decides on a call into `gpio_control.c` and answers
its result.  It decides on a toggle exactly if the declared length is zero, on a
level exactly if the request names this level, and otherwise it answers with an
error, having touched nothing of the board. -/
theorem handle_power_unambiguous {token : CString} {d : Device}
    (htoken : authGetTokenFromRequest env.heapTail req = some token)
    (hvalid : d.validates env token = true) (hsetup : d.board.config.authInitialized = true) :
    ∃ w : World Device Event, w.state.board = d.board ∧ (∀ e, .effect e ∉ w.shown) ∧
      handlePower pf env req d.start = onBoard (powerAsk pf env req >>= powerAnswer env) w ∧
      (∀ call, (∃ u, onBoard (powerAsk pf env req) w = .ok call u) ↔ AsksFor pf env req call) ∧
      (∀ call u, onBoard (powerAsk pf env req) w = .ok call u →
        u.state.board = d.board ∧ u.shown = w.shown) ∧
      ((∀ call, ¬AsksFor pf env req call) → ∃ status message u,
        handlePower pf env req d.start = .error (.respond (.error status message)) u ∧
          u.state.board = d.board ∧ u.shown = w.shown) := by
  let w : World Device Event := ⟨d.checked env token, 0, [validation token env.now true]⟩
  have hrun : handlePower pf env req d.start =
      onBoard (powerAsk pf env req >>= powerAnswer env) w := by
    unfold handlePower
    rw [whenUnlocked_checked htoken hvalid hsetup, powerBody_eq]
  have hboard : w.state.setBoard w.state.board = w.state := rfl
  -- all that is decided on the board is decided by `powerAsk`
  have hcases := @powerAsk_cases pf env req ⟨w.state.board, w.asked, []⟩ rfl
  generalize hask : powerAsk pf env req ⟨w.state.board, w.asked, []⟩ = result at hcases
  have hquiet : ∀ e, Event.effect e ∉ w.shown := by
    intro e hmem
    cases List.mem_singleton.mp hmem
  cases hcases with
  | @asked call m hasks =>
      -- it decides on one call, and a request asks for at most one
      have hok : onBoard (powerAsk pf env req) w = .ok call { w with asked := m } := by
        rw [onBoard_ok hask, hboard]
        simp
      refine ⟨w, rfl, hquiet, hrun, fun call' => ⟨?_, fun hasks' => ?_⟩, ?_, fun hnone => ?_⟩
      · rintro ⟨u, hu⟩
        obtain ⟨rfl, -⟩ := EStateM.Result.ok.inj (hok.symm.trans hu)
        exact hasks
      · obtain rfl := hasks.unique hasks'
        exact ⟨_, hok⟩
      · intro call' u hu
        obtain ⟨-, rfl⟩ := EStateM.Result.ok.inj (hok.symm.trans hu)
        exact ⟨rfl, rfl⟩
      · exact absurd hasks (hnone call)
  | @refused message m hnone =>
      -- it answers with an error, and the request asks for nothing
      have herror : onBoard (powerAsk pf env req) w =
          .error (.respond (.error 400 message)) { w with asked := m } := by
        rw [onBoard_error hask, hboard]
        simp
      have hstop : handlePower pf env req d.start =
          .error (.respond (.error 400 message)) { w with asked := m } := by
        rw [hrun, onBoard_error (bind_error hask), hboard]
        simp
      refine ⟨w, rfl, hquiet, hrun, fun call => ⟨?_, fun hasks => absurd hasks (hnone call)⟩, ?_,
        fun _ => ⟨400, message, _, hstop, rfl, rfl⟩⟩
      · rintro ⟨u, hu⟩
        cases herror.symm.trans hu
      · intro call u hu
        cases herror.symm.trans hu

end

/-- `demoSystem` with a session. -/
def demoSession : Device :=
  demoSystem.device.setSessions
    (openSession 0 (Vector.replicate authSessionTokenLen 0) authInit.sessions).1

/-- The body of `demoEnv` comes in as one piece. -/
theorem demoEnv_arrives (now : ℕ) (body : List UInt8) (k : ℕ) :
    ∃ m, Arrives (demoEnv now body) k body.length body m := by
  by_cases hempty : body = []
  · rw [hempty]
    exact ⟨k, .done k⟩
  · have hwhole : body.take body.length = body := List.take_length
    have hrest : Arrives (demoEnv now body) (k + 1)
        (body.length - (body.take body.length).length) [] (k + 1) := by
      rw [hwhole, Nat.sub_self]
      exact .done (k + 1)
    have harrives :
        Arrives (demoEnv now body) k body.length (body.take body.length ++ []) (k + 1) :=
      .piece (by simpa using hempty) rfl (by rwa [hwhole]) hrest
    rw [hwhole, List.append_nil] at harrives
    exact ⟨k + 1, harrives⟩

/-- The body of a request to switch the power off. -/
def powerOffJson : CString := cstr "\x7b\"power\":false\x7d"

/-- A platform that parses it. -/
def demoSwitch : Platform :=
  demoPlatform [(powerOffJson, .object [(cstr "power", .bool false)])]

/-- A client with a session switches the power off. -/
theorem handle_power_unambiguous_off : ∃ w u,
    onBoard (powerAsk demoSwitch (demoEnv 1 powerOffJson)
        { demoRequest .power 15 with authorization := some demoBearer }) w = .ok .off u ∧
      u.state.board = demoSession.board := by
  obtain ⟨w, -, -, -, hasks, hkeeps, -⟩ := @handle_power_unambiguous demoSwitch
    (demoEnv 1 powerOffJson) { demoRequest .power 15 with authorization := some demoBearer }
    demoToken demoSession (by decide +kernel) (by decide +kernel) (by decide +kernel)
  obtain ⟨m, harrives⟩ := demoEnv_arrives 1 powerOffJson 0
  obtain ⟨u, hu⟩ := (hasks .off).mpr ⟨by decide, by decide, powerOffJson, m, _, harrives, rfl, rfl⟩
  exact ⟨w, u, hu, (hkeeps .off u hu).1⟩

end WebTerminal
