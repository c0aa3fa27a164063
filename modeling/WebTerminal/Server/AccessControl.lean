import WebTerminal.Server.Sockets

/-!
# Access control

Everything a client can do to the world, to the settings and to the sockets
needs a token that validates at that moment, and a changed password.  The one
exception is the change of the password.

The token is the one the client presented as long as the scan for the session
cookie stays inside the `Cookie` header.  When it leaves the header it reads
whatever the memory behind it holds.
-/

set_option autoImplicit false

namespace WebTerminal

/-- Calls made by a client. -/
def Call.fromClient : Call → Bool
  | .request _ | .frame _ _ => true
  | _ => false

/-- Events that need an authorised client. -/
def Event.privileged : Event → Bool
  | .effect _ | .reissued _ | .registered .. | .relayed .. => true
  | _ => false

/-- The token validates, at once or after another token was tried in vain. -/
def ValidIn (env : Env) (token : CString) (d : Device) : Prop :=
  d.validates env token = true ∨
    ∃ other, d.validates env other = false ∧ (d.checked env other).validates env token = true

/-- A call that had an effect was allowed to: it carried a valid token, which for
a data frame is the one captured when its socket was registered, and the password
has been changed unless nothing but the credentials was affected. -/
structure Allowed (pf : Platform) (env : Env) (h : List Event) (d : Device) (call : Call)
    (es : List Event) (d' : Device) (token : CString) : Prop where
  carried : call.carries pf d token
  captured : ∀ fd frame, call = .frame fd frame → ∃ i, .registered i fd token ∈ h
  valid : ValidIn env token d
  reissued : ∀ token', .reissued token' ∈ es → token' = token
  registered : ∀ i fd token', .registered i fd token' ∈ es → token' = token
  unlocked : d.board.config.authInitialized = true ∨
    (∃ req, call = .request req ∧ req.route = .configPost) ∧
      CredentialsOnly d.board d'.board ∧ (∀ e ∈ es, e.privileged = false) ∧
      (.credentialsChanged ∈ es ∨ d' = (d.checked env token).setBoard d'.board)

/-- The step had an effect that needs an authorised client. -/
def Effective (es : List Event) (d d' : Device) : Prop :=
  (∃ e ∈ es, e.privileged = true) ∨ d'.board ≠ d.board

/-- Every call of a client along the actions `as` that has an effect is allowed to. -/
def AccessControlled (pf : Platform) (s : System) (as : List Action) : Prop :=
  ∀ pre a post h t u es, as = pre ++ a :: post → (systemMachine pf).Run s pre h t →
    (systemMachine pf).step t a = some (u, es) → a.call.fromClient = true →
    Effective es t.device u.device →
    ∃ token, Allowed pf a.env h t.device a.call es u.device token

theorem Precheck.validIn {pf : Platform} {env : Env} {req : Request} {d d₁ : Device}
    {es : List Event} (hpre : Precheck pf env req d d₁ es) {token : CString}
    (hvalid : d₁.validates env token = true) : ValidIn env token d := by
  cases hpre with
  | none => exact .inl hvalid
  | rejected _ hinvalid => exact .inr ⟨_, hinvalid, hvalid⟩

theorem Precheck.privileged {pf : Platform} {env : Env} {req : Request} {d d₁ : Device}
    {es : List Event} (hpre : Precheck pf env req d d₁ es) : ∀ e ∈ es, e.privileged = false := by
  cases hpre <;> simp [Event.privileged]

/-- A call without privileged events that leaves the board alone had no effect. -/
theorem not_effective {es : List Event} {d d' : Device} (hes : ∀ e ∈ es, e.privileged = false)
    (hboard : d'.board = d.board) : ¬Effective es d d' := by
  rintro (⟨e, he, hpriv⟩ | hne)
  · rw [hes e he] at hpriv
    cases hpriv
  · exact hne hboard

/-- A request that did work on the board was allowed to. -/
theorem Worked.allowed_of_kept {pf : Platform} {env : Env} {h es : List Event} {d d' : Device}
    {req : Request} {token : CString} {effects : List Effect}
    (hcarried : Call.carries pf d token (.request req)) (hvalid : d.validates env token = true)
    (hworked : Worked req d.board effects d'.board)
    (hes : ∀ e ∈ es, e ∈ effects.map Event.effect ∨ e.privileged = false)
    (hrest : .credentialsChanged ∈ es ∨ d' = (d.checked env token).setBoard d'.board) :
    Allowed pf env h d (.request req) es d' token where
  carried := hcarried
  captured fd frame hcall := by cases hcall
  valid := .inl hvalid
  reissued token' he := by
    rcases hes _ he with hmem | hpriv
    · simp at hmem
    · cases hpriv
  registered i fd token' he := by
    rcases hes _ he with hmem | hpriv
    · simp at hmem
    · cases hpriv
  unlocked := by
    refine hworked.allowed.imp id fun ⟨hroute, honly, hnone⟩ => ?_
    refine ⟨⟨req, rfl, hroute⟩, honly, fun e he => ?_, hrest⟩
    exact (hes e he).resolve_left (by simp [hnone])

/-- The access check of every call. -/
theorem allowed_of_callCase {pf : Platform} {env : Env} {h es : List Event} {d d' : Device}
    {call : Call} (hd : SocketsInv env.now h d) (hcase : CallCase pf env d call d' es)
    (hinside : call.ScanInside) (hclient : call.fromClient = true) (heffect : Effective es d d') :
    ∃ token, Allowed pf env h d call es d' token := by
  cases hcase with
  | idle => exact absurd heffect (not_effective (by simp) rfl)
  -- nothing privileged is shown and the board stands
  | checked hpre hoffers =>
      refine absurd heffect (not_effective ?_ hpre.board)
      intro e he
      rcases hpre.shown_checked _ _ he with ⟨_, rfl | rfl⟩ <;> rfl
  | @worked req token board effects hoffers hvalid hworked =>
      -- the token that was checked is the one the request carries
      refine ⟨token, Worked.allowed_of_kept (carries_of_offers hinside hoffers d) hvalid hworked
        (fun e he => ?_) (.inr rfl)⟩
      rcases List.mem_cons.mp he with rfl | he
      · exact .inr rfl
      · exact .inl he
  | @revoked req token board effects hoffers hvalid hworked =>
      refine ⟨token, Worked.allowed_of_kept (carries_of_offers hinside hoffers d) hvalid hworked
        (fun e he => ?_) (.inl (by simp))⟩
      simp only [List.cons_append, List.mem_cons, List.mem_append, List.mem_map] at he
      rcases he with rfl | he | ⟨i, -, rfl⟩ | rfl | he
      · exact .inr rfl
      · exact .inl (List.mem_map.mpr he)
      · exact .inr rfl
      · exact .inr rfl
      · cases he
  | @reissued req token hoffers hvalid hunlocked =>
      exact ⟨token, carries_of_offers hinside hoffers d, by simp, .inl hvalid, by simp, by simp,
        .inl hunlocked⟩
  | hosts => exact absurd heffect (not_effective (by simp) rfl)
  | loggedIn => exact absurd heffect (not_effective (by simp [Event.privileged]) rfl)
  | loggedOut => exact absurd heffect (not_effective (by simp) rfl)
  | @registered req d₁ es₁ token i clients hpre hoffers hvalid hunlocked hadd =>
      -- the client keeps the token whole: a session token fits the copy
      have hcopy : copyToken token = token := (hd.precheck hpre).tokens.copyToken hvalid
      refine ⟨token, carries_of_offers hinside hoffers d, by simp, hpre.validIn hvalid,
        fun token' he => ?_, fun j fd token' he => ?_, .inl hunlocked⟩
      · rcases List.mem_append.mp he with he | he
        · cases hpre.privileged _ he
        · simp at he
      · rcases List.mem_append.mp he with he | he
        · cases hpre.privileged _ he
        · simp only [List.mem_cons, List.not_mem_nil, or_false, reduceCtorEq, false_or,
            Event.registered.injEq] at he
          exact he.2.2.trans hcopy
  | socketEvicted => exact absurd heffect (not_effective (by simp [Event.privileged]) rfl)
  | socketKept => exact absurd heffect (not_effective (by simp [Event.privileged]) rfl)
  | socketRemoved => exact absurd heffect (not_effective (by simp [Event.privileged]) rfl)
  | @relayed fd frame i board effects hfind hvalid hkeeps =>
      -- a frame speaks for the token its socket was opened with
      obtain ⟨hactive, hfd⟩ := findFd_spec hfind
      refine ⟨(d.clients i).token, ⟨i, hfind, rfl⟩, fun fd' frame' hcall => ?_, .inl hvalid,
        by simp, by simp, .inl (hd.unlocked i hactive)⟩
      obtain ⟨rfl, -⟩ := Call.frame.inj hcall
      have hcaptured := hd.captured i hactive
      rw [hfd] at hcaptured
      exact ⟨i, hcaptured⟩
  | closed => cases hclient
  | flushed => cases hclient
  | background => cases hclient

/-! ## Runs -/

theorem answered_privileged (answer : Option Response) :
    ∀ e ∈ answer.toList.map Event.answered, e.privileged = false := by
  intro e he
  obtain ⟨_, -, rfl⟩ := List.mem_map.mp he
  rfl

/-- The answer is no effect. -/
theorem Effective.of_answered {es : List Event} {d d' : Device} {answer : Option Response}
    (h : Effective (es ++ answer.toList.map .answered) d d') : Effective es d d' := by
  refine h.imp ?_ id
  rintro ⟨e, he, hpriv⟩
  rcases List.mem_append.mp he with he | he
  · exact ⟨e, he, hpriv⟩
  · rw [answered_privileged answer e he] at hpriv
    cases hpriv

theorem Allowed.answered {pf : Platform} {env : Env} {h es : List Event} {d d' : Device}
    {call : Call} {token : CString} (hallowed : Allowed pf env h d call es d' token)
    (answer : Option Response) :
    Allowed pf env h d call (es ++ answer.toList.map .answered) d' token where
  carried := hallowed.carried
  captured := hallowed.captured
  valid := hallowed.valid
  reissued token' he := hallowed.reissued token' (by simpa using he)
  registered i fd token' he := hallowed.registered i fd token' (by simpa using he)
  unlocked := by
    refine hallowed.unlocked.imp id fun ⟨hroute, honly, hpriv, hrest⟩ => ?_
    refine ⟨hroute, honly, fun e he => ?_, hrest.imp (List.mem_append_left _) id⟩
    rcases List.mem_append.mp he with he | he
    · exact hpriv e he
    · exact answered_privileged answer e he

/-- In a run whose scans for the session cookie stay inside the header, clients
have effects only with a token that validates at that moment and, the change of
the credentials apart, after the password was changed. -/
theorem access_control {pf : Platform} {s : System} {as : List Action} (hs : s.Init)
    (hinside : ∀ a ∈ as, a.call.ScanInside) : AccessControlled pf s as := by
  intro pre a post h t u es has hrun hstep hclient heffect
  obtain ⟨-, htime, -, shown, answer, rfl, hcase⟩ := systemStep_cases hstep
  have hsockets : SocketsInv a.env.now h t.device := (SocketsInv.run hs hrun).mono htime
  obtain ⟨token, hallowed⟩ := allowed_of_callCase hsockets hcase (hinside a (by simp [has]))
    hclient heffect.of_answered
  exact ⟨token, hallowed.answered answer⟩

/-- A restart request with these headers, and this memory behind the `Cookie` header. -/
def demoReboot (now : ℕ) (cookie authorization : Option CString) (heapTail : List UInt8) : Action :=
  ⟨{ demoEnv now [] with heapTail := heapTail },
    .request { demoRequest .reboot 0 with cookie := cookie, authorization := authorization }⟩

/-- A login and a restart with the token it returned. -/
theorem access_control_reboot :
    ∃ t es, (systemMachine demoParser).Run demoSystem
        [demoLogin 10, demoReboot 20 none (some demoBearer) []] es t ∧
      .effect .restart ∈ es ∧
      AccessControlled demoParser demoSystem
        [demoLogin 10, demoReboot 20 none (some demoBearer) []] := by
  obtain ⟨t, es, hrun, hrestart⟩ := Machine.Run.exists_of_exec (M := systemMachine demoParser)
    (s := demoSystem) (p := fun _ es => decide (.effect .restart ∈ es))
    (show ((systemMachine demoParser).exec demoSystem
      [demoLogin 10, demoReboot 20 none (some demoBearer) []]).any _ = true by decide +kernel)
  refine ⟨t, es, hrun, of_decide_eq_true hrestart, access_control demoSystem_init ?_⟩
  intro a ha
  simp only [List.mem_cons, List.not_mem_nil, or_false] at ha
  rcases ha with rfl | rfl <;> · intro header hheader; cases hheader

/-- What a longer header that was freed may leave behind the zero of a shorter one. -/
def staleCookie : List UInt8 := cstr "=en_GB; session=" ++ demoToken

/-- The header `Cookie: session` makes the scan skip its own end.  The token of
someone else behind it is taken for the client's. -/
theorem access_control_stale_cookie :
    ¬AccessControlled demoParser demoSystem
      [demoLogin 10, demoReboot 20 (some sessionName) none staleCookie] := by
  intro hcontrol
  obtain ⟨s, h, t, es, hlogin, hreboot, -, hrestart⟩ := Machine.Run.exists_of_exec_exec
    (M := systemMachine demoParser) (s := demoSystem) (p := fun _ _ => true)
    (q := fun _ es => decide (.effect .restart ∈ es))
    (show ((systemMachine demoParser).exec demoSystem [demoLogin 10]).any (fun r => _ &&
      ((systemMachine demoParser).exec r.1
        [demoReboot 20 (some sessionName) none staleCookie]).any _) = true by decide +kernel)
  have heffect : Effective es s.device t.device := .inl ⟨_, of_decide_eq_true hrestart, rfl⟩
  obtain ⟨token, hallowed⟩ :=
    hcontrol [demoLogin 10] _ [] h s t es rfl hlogin hreboot.single_inv rfl heffect
  have hcarried := hallowed.carried
  rcases hcarried with hheader | ⟨hroute, -⟩
  · -- the header holds no token
    have hnone : ({ demoRequest .reboot 0 with cookie := some sessionName } : Request).headerToken =
        none := by decide
    cases hnone.symm.trans hheader
  · cases hroute

end WebTerminal
