import WebTerminal.Page.Terminal

/-!
# One terminal socket

`connectWs` opens a socket without looking at the one it replaces, and a probe cannot be
called off.  A page that drives one socket at a time ceases to do so at exactly three
steps:

* a login opens a socket while another is connecting or open,
* a probe does,
* a socket is closed while a probe is under way.

Before the first of them a socket that is connecting or open is the one in `ws`, a
pending reconnect timer is the one in `reconnectTimer`, and there is no probe beside
it.
-/

set_option autoImplicit false

namespace WebTerminal

/-- What a reconnect attempt waits for: a timer or an answer. -/
inductive Attempt
  | timer (handle : ℕ)
  | probe (request : ℕ)

namespace Page

/-- Messages on this socket go to the terminal, now or later. -/
def Live (p : Page) (i : ℕ) : Prop := ∃ s, p.sockets.get i = some s ∧ s.live = true

def Awaits (p : Page) (h : ℕ) : Prop := ∃ delay, p.timers.get h = some (.scheduleReconnect delay)

def Probing (p : Page) (k : ℕ) : Prop := ∃ delay, p.requests.get k = some (.probe delay)

def UnderWay (p : Page) : Attempt → Prop
  | .timer h => p.Awaits h
  | .probe k => p.Probing k

/-- At most one socket that is connecting or open, and at most one reconnect attempt. -/
structure OneSocket (p : Page) : Prop where
  sockets : ∀ i j, p.Live i → p.Live j → i = j
  attempts : ∀ a b, p.UnderWay a → p.UnderWay b → a = b

/-- `connectWs` would open a socket. -/
def Opens (p : Page) : Prop :=
  p.sessionToken.isSome = true ∧ p.term = true ∧ p.setupLocked = false

/-- The steps after which the page drives two sockets or reconnects twice. -/
inductive Doubles (p : Page) : PageAction → Prop
  | login {k i : ℕ} {data : PageData} (hrequest : p.requests.get k = some .login)
      (hopens : { p with
        sessionToken := data.token, setupLocked := data.mustChangePassword }.Opens)
      (hlive : p.Live i) : Doubles p (.answer k (.json 200 (some data)))
  | probe {k i : ℕ} {data : PageData} (hrequest : p.Probing k)
      (hopens : { p with sessionToken := data.token }.Opens) (hlive : p.Live i) :
      Doubles p (.answer k (.json 200 (some data)))
  | closed {i k : ℕ} {s : PageSocket} (hsocket : p.sockets.get i = some s)
      (honclose : s.onclose = true) (htoken : p.sessionToken.isSome = true)
      (hprobe : p.Probing k) : Doubles p (.closed i)

/-- What holds until then. -/
structure Single (p : Page) : Prop where
  ws : ∀ i, p.Live i → p.ws = some i
  term : ∀ i, p.Live i → p.term = true
  timer : ∀ h, p.Awaits h → p.reconnectTimer = some h
  attempts : ∀ a b, p.UnderWay a → p.UnderWay b → a = b

section

variable {p q : Page}

theorem Single.oneSocket (h : p.Single) : p.OneSocket where
  sockets i j hi hj := Option.some.inj ((h.ws i hi).symm.trans (h.ws j hj))
  attempts := h.attempts

theorem Single.not_awaits (h : p.Single) {k : ℕ} (hk : p.Probing k) (t : ℕ) : ¬p.Awaits t :=
  fun ht => by cases h.attempts (.timer t) (.probe k) ht hk

theorem Single.probe_unique (h : p.Single) {k l : ℕ} (hk : p.Probing k) (hl : p.Probing l) :
    k = l :=
  Attempt.probe.inj (h.attempts (.probe k) (.probe l) hk hl)

/-! ## Steps that add nothing -/

/-- A step that adds no live socket and no attempt, and keeps the variables. -/
theorem Single.of_le (h : p.Single) (hlive : ∀ i, q.Live i → p.Live i)
    (htimer : ∀ t, q.Awaits t → p.Awaits t) (hprobe : ∀ k, q.Probing k → p.Probing k)
    (hws : q.ws = p.ws) (hterm : q.term = p.term)
    (hhandle : q.reconnectTimer = p.reconnectTimer) : q.Single where
  ws i hi := hws.trans (h.ws i (hlive i hi))
  term i hi := hterm.trans (h.term i (hlive i hi))
  timer t ht := hhandle.trans (h.timer t (htimer t ht))
  attempts := by
    have hle : ∀ a, q.UnderWay a → p.UnderWay a
      | .timer t, ht => htimer t ht
      | .probe k, hk => hprobe k hk
    exact fun a b ha hb => h.attempts a b (hle a ha) (hle b hb)

theorem probing_api {request : Xhr} (hrequest : ∀ delay, request ≠ .probe delay) {k : ℕ}
    (h : (p.api request).Probing k) : p.Probing k := by
  obtain ⟨delay, hk⟩ := h
  rcases FreshTable.get_insert_eq_some.mp hk with ⟨-, heq⟩ | hk
  · exact absurd heq (hrequest delay)
  · exact ⟨delay, hk⟩

/-- A request that is not a probe. -/
theorem Single.api (h : p.Single) {request : Xhr} (hrequest : ∀ delay, request ≠ .probe delay) :
    (p.api request).Single :=
  h.of_le (fun _ hi => hi) (fun _ ht => ht) (fun _ hk => probing_api hrequest hk) rfl rfl rfl

/-- A timer that is not for a probe. -/
theorem Single.setTimeout (h : p.Single) {timer : PageTimer}
    (htimer : ∀ delay, timer ≠ .scheduleReconnect delay) : (p.setTimeout timer).Single := by
  refine h.of_le (fun _ hi => hi) (fun t ht => ?_) (fun _ hk => hk) rfl rfl rfl
  obtain ⟨delay, ht⟩ := ht
  rcases FreshTable.get_insert_eq_some.mp ht with ⟨-, heq⟩ | ht
  · exact absurd heq (htimer delay)
  · exact ⟨delay, ht⟩

/-- A change to one socket that does not bring it to life. -/
theorem live_modify {i j : ℕ} {f : PageSocket → PageSocket}
    (hf : ∀ s, p.sockets.get i = some s → (f s).live = true → s.live = true)
    (h : ({ p with sockets := p.sockets.modify i f } : Page).Live j) : p.Live j := by
  obtain ⟨s, hs, hlive⟩ := h
  rcases FreshTable.get_modify_eq_some.mp hs with ⟨rfl, s', hs', rfl⟩ | ⟨-, hs⟩
  · exact ⟨s', hs', hf s' hs' hlive⟩
  · exact ⟨s, hs, hlive⟩

theorem Single.modify (h : p.Single) {i : ℕ} {f : PageSocket → PageSocket}
    (hf : ∀ s, p.sockets.get i = some s → (f s).live = true → s.live = true) :
    ({ p with sockets := p.sockets.modify i f } : Page).Single :=
  h.of_le (fun _ hj => live_modify hf hj) (fun _ ht => ht) (fun _ hk => hk) rfl rfl rfl

theorem Single.onWs (h : p.Single) {f : PageSocket → PageSocket}
    (hf : ∀ s, (f s).live = true → s.live = true) : (p.onWs f).Single := by
  unfold Page.onWs
  split
  · exact h
  · exact h.modify fun s _ => hf s

/-- After a call of `ws.close()` nothing is live. -/
theorem Single.close (h : p.Single) {f : PageSocket → PageSocket}
    (hf : ∀ s, (f s).live = false) : (p.onWs f).Single ∧ ∀ i, ¬(p.onWs f).Live i := by
  have hsingle : (p.onWs f).Single := h.onWs fun s hs => by simp [hf s] at hs
  refine ⟨hsingle, fun i hi => ?_⟩
  unfold Page.onWs at hi
  cases hws : p.ws with
  | none =>
      rw [hws] at hi
      cases hws.symm.trans (h.ws i hi)
  | some w =>
      rw [hws] at hi
      have hold : p.Live i := live_modify (fun s _ hs => by simp [hf s] at hs) hi
      obtain rfl := Option.some.inj (hws.symm.trans (h.ws i hold))
      obtain ⟨s, hs, hlive⟩ := hi
      rcases FreshTable.get_modify_eq_some.mp hs with ⟨-, s', -, rfl⟩ | ⟨hne, -⟩
      · simp [hf s'] at hlive
      · exact hne rfl

/-! ## Connecting -/

/-- The pending reconnect timer is the one that is cleared. -/
theorem Single.clearReconnect (h : p.Single) :
    p.clearReconnect.Single ∧ ∀ t, ¬p.clearReconnect.Awaits t := by
  have hnone : ∀ t, ¬p.clearReconnect.Awaits t := by
    rintro t ⟨delay, ht⟩
    unfold Page.clearReconnect at ht
    split at ht
    next hhandle => cases hhandle.symm.trans (h.timer t ⟨delay, ht⟩)
    next handle hhandle =>
      obtain ⟨hne, ht⟩ := FreshTable.get_erase_eq_some.mp ht
      exact hne (Option.some.inj ((h.timer t ⟨delay, ht⟩).symm.trans hhandle))
  refine ⟨⟨fun i hi => ?_, fun i hi => ?_, fun t ht => absurd ht (hnone t), ?_⟩, hnone⟩
  · rw [clearReconnect_ws]
    exact h.ws i (by simpa [Live] using hi)
  · rw [clearReconnect_term]
    exact h.term i (by simpa [Live] using hi)
  · intro a b ha hb
    match a, b with
    | .timer t, _ => exact absurd ha (hnone t)
    | _, .timer t => exact absurd hb (hnone t)
    | .probe k, .probe l =>
        have hprobe : ∀ k, p.clearReconnect.Probing k → p.Probing k := fun k hk => by
          simpa [Probing] using hk
        rw [h.probe_unique (hprobe k ha) (hprobe l hb)]

/-- `connectWs` clears the timer, and opens a socket or not. -/
theorem connectWs_cases (p : Page) : ¬p.Opens ∧ p.connectWs = p.clearReconnect ∨
    p.Opens ∧ ∃ token, p.connectWs = p.clearReconnect.openSocket token := by
  unfold connectWs Opens
  dsimp only
  rw [clearReconnect_sessionToken]
  cases htoken : p.sessionToken with
  | none => exact .inl ⟨by simp, rfl⟩
  | some token =>
      simp only [clearReconnect_term, clearReconnect_setupLocked]
      cases hterm : p.term with
      | false => exact .inl ⟨by simp, rfl⟩
      | true =>
          cases hlocked : p.setupLocked with
          | true => exact .inl ⟨by simp, rfl⟩
          | false => exact .inr ⟨by simp, token, rfl⟩

theorem live_openSocket {token : CString} {i : ℕ} :
    (p.openSocket token).Live i ↔ i = p.sockets.next ∨ p.Live i := by
  constructor
  · rintro ⟨s, hs, hlive⟩
    rcases FreshTable.get_insert_eq_some.mp hs with ⟨hi, -⟩ | hs
    · exact .inl hi
    · exact .inr ⟨s, hs, hlive⟩
  · rintro (rfl | ⟨s, hs, hlive⟩)
    · exact ⟨_, FreshTable.get_insert_eq_some.mpr (.inl ⟨rfl, rfl⟩), rfl⟩
    · exact ⟨s, FreshTable.get_insert_eq_some.mpr (.inr hs), hlive⟩

theorem live_clearReconnect {i : ℕ} : p.clearReconnect.Live i ↔ p.Live i := by
  unfold Live
  rw [clearReconnect_sockets]

/-- A call of `connectWs` where it opens nothing beside a live socket. -/
theorem Single.connectWs (h : p.Single) (hnone : p.Opens → ∀ i, ¬p.Live i) :
    p.connectWs.Single := by
  obtain ⟨hclear, hcalm⟩ := h.clearReconnect
  rcases connectWs_cases p with ⟨-, heq⟩ | ⟨hopens, token, heq⟩
  · rw [heq]
    exact hclear
  · rw [heq]
    have honly : ∀ i, (p.clearReconnect.openSocket token).Live i →
        i = p.clearReconnect.sockets.next := by
      intro i hi
      rcases live_openSocket.mp hi with hi | hi
      · exact hi
      · exact absurd (live_clearReconnect.mp hi) (hnone hopens i)
    exact
      { ws := fun i hi => congrArg some (honly i hi).symm
        term := fun i _ => clearReconnect_term.trans hopens.2.1
        timer := fun t ht => absurd ht (hcalm t)
        attempts := hclear.attempts }

/-- Beside a live socket the new one is the second. -/
theorem not_oneSocket_connectWs (hopens : p.Opens) {i : ℕ} (hlive : p.Live i) :
    ¬p.connectWs.OneSocket := by
  intro h
  rcases connectWs_cases p with ⟨hnot, -⟩ | ⟨-, token, heq⟩
  · exact hnot hopens
  · rw [heq] at h
    have hi := live_clearReconnect.mpr hlive
    have hsame := h.sockets _ _ (live_openSocket.mpr (.inl rfl)) (live_openSocket.mpr (.inr hi))
    obtain ⟨s, hs, -⟩ := hi
    exact absurd hsame (Nat.ne_of_gt (FreshTable.lt_next hs))

/-! ## Reconnecting -/

theorem probing_scheduleReconnect (h : p.sessionToken.isSome = true) {k : ℕ} :
    p.scheduleReconnect.Probing k ↔ k = p.requests.next ∨ p.Probing k := by
  obtain ⟨token, htoken⟩ := Option.isSome_iff_exists.mp h
  rw [scheduleReconnect_of_some htoken]
  simp only [Probing, FreshTable.get_insert_eq_some, Xhr.probe.injEq]
  constructor
  · rintro ⟨delay, ⟨hk, -⟩ | hk⟩
    · exact .inl hk
    · exact .inr ⟨delay, hk⟩
  · rintro (rfl | ⟨delay, hk⟩)
    · exact ⟨_, .inl ⟨rfl, rfl⟩⟩
    · exact ⟨delay, .inr hk⟩

/-- A probe where none is under way. -/
theorem Single.scheduleReconnect (h : p.Single)
    (hnone : p.sessionToken.isSome = true → ∀ k, ¬p.Probing k) : p.scheduleReconnect.Single := by
  obtain ⟨hclear, hcalm⟩ := h.clearReconnect
  cases htoken : p.sessionToken with
  | none =>
      rw [scheduleReconnect_of_none htoken]
      exact hclear
  | some token =>
      have hsome : p.sessionToken.isSome = true := by simp [htoken]
      have honly : ∀ k, p.scheduleReconnect.Probing k → k = p.requests.next := by
        intro k hk
        exact ((probing_scheduleReconnect hsome).mp hk).resolve_right (hnone hsome k)
      rw [scheduleReconnect_of_some htoken] at honly ⊢
      exact
        { ws := hclear.ws
          term := hclear.term
          timer := fun t ht => absurd ht (hcalm t)
          attempts := fun a b ha hb => by
            match a, b with
            | .timer t, _ => exact absurd ha (hcalm t)
            | _, .timer t => exact absurd hb (hcalm t)
            | .probe k, .probe l => rw [honly k ha, honly l hb] }

/-- Beside a probe the new one is the second. -/
theorem not_oneSocket_scheduleReconnect (htoken : p.sessionToken.isSome = true) {k : ℕ}
    (hprobe : p.Probing k) : ¬p.scheduleReconnect.OneSocket := by
  intro h
  have hnew := (probing_scheduleReconnect htoken).mpr (.inl rfl)
  have hold := (probing_scheduleReconnect htoken).mpr (.inr hprobe)
  have hsame := Attempt.probe.inj (h.attempts (.probe _) (.probe k) hnew hold)
  obtain ⟨delay, hk⟩ := hprobe
  exact absurd hsame (Nat.ne_of_gt (FreshTable.lt_next hk))

/-! ## Answers -/

/-- The answer to the only attempt under way. -/
theorem Single.probeAnswered (h : p.Single) (hcalm : ∀ a, ¬p.UnderWay a) (delay : ℕ)
    {answer : PageAnswer} (hnone : ∀ data, answer = .json 200 (some data) →
      ({ p with sessionToken := data.token } : Page).Opens → ∀ i, ¬p.Live i) :
    (p.probeAnswered delay answer).Single := by
  -- the timer it starts is the only attempt
  have hretry : ({ p.setTimeout (.scheduleReconnect delay) with
      reconnectTimer := some p.timers.next } : Page).Single := by
    have honly : ∀ t, (p.setTimeout (.scheduleReconnect delay)).Awaits t → t = p.timers.next := by
      rintro t ⟨delay', ht⟩
      rcases FreshTable.get_insert_eq_some.mp ht with ⟨ht, -⟩ | ht
      · exact ht
      · exact absurd ⟨delay', ht⟩ (hcalm (.timer t))
    exact
      { ws := h.ws
        term := h.term
        timer := fun t ht => congrArg some (honly t ht).symm
        attempts := fun a b ha hb => by
          match a, b with
          | .probe k, _ => exact absurd ha (hcalm (.probe k))
          | _, .probe k => exact absurd hb (hcalm (.probe k))
          | .timer t, .timer t' => rw [honly t ha, honly t' hb] }
  have hexpired : ({ p with sessionToken := none, reconnectDelay := 1000 } : Page).Single :=
    h.of_le (fun _ hi => hi) (fun _ ht => ht) (fun _ hk => hk) rfl rfl rfl
  unfold Page.probeAnswered
  cases answer with
  | failed => exact hretry
  | json status data =>
      dsimp only
      split
      next => exact hretry
      next =>
        split
        next token htoken =>
          split at htoken
          next hstatus =>
            obtain ⟨data, rfl, htoken⟩ := Option.bind_eq_some_iff.mp htoken
            -- a socket is made only where none is live
            have hsession : ({ p with sessionToken := some token } : Page).Single :=
              h.of_le (fun _ hi => hi) (fun _ ht => ht) (fun _ hk => hk) rfl rfl rfl
            refine hsession.connectWs fun hopens => ?_
            rw [← htoken] at hopens
            exact hnone data (by rw [hstatus]) hopens
          next => cases htoken
        next => exact hexpired

theorem Single.updateSetupLock (h : p.Single) (conf : PageData) :
    (p.updateSetupLock conf).Single := by
  have hlock : ({ p with setupLocked := conf.authInitialized = some false } : Page).Single :=
    h.of_le (fun _ hi => hi) (fun _ ht => ht) (fun _ hk => hk) rfl rfl rfl
  unfold Page.updateSetupLock
  dsimp only
  split
  next => exact hlock
  next =>
    obtain ⟨hclosed, hnone⟩ := hlock.clearReconnect.1.close
      fun s => PageSocket.not_live_close { s with onclose := false }
    exact
      { ws := fun i hi => absurd hi (hnone i)
        term := fun i hi => absurd hi (hnone i)
        timer := hclosed.timer
        attempts := hclosed.attempts }

theorem Single.endSession (h : p.Single) : p.endSession.Single := by
  have hsession : ({ p with sessionToken := none } : Page).Single :=
    h.of_le (fun _ hi => hi) (fun _ ht => ht) (fun _ hk => hk) rfl rfl rfl
  exact (hsession.close PageSocket.not_live_close).1

theorem Single.onLoginSuccess (h : p.Single) (data : PageData)
    (hnone : ({ p with
      sessionToken := data.token, setupLocked := data.mustChangePassword } : Page).Opens →
        ∀ i, ¬p.Live i) : (p.onLoginSuccess data).Single := by
  have hsession : ({ p with
      sessionToken := data.token, setupLocked := data.mustChangePassword } : Page).Single :=
    h.of_le (fun _ hi => hi) (fun _ ht => ht) (fun _ hk => hk) rfl rfl rfl
  have hconfig : (Page.api _ .loadConfig).Single := hsession.api (by simp)
  unfold Page.onLoginSuccess
  dsimp only
  split
  · exact hconfig.connectWs hnone
  · exact hconfig

/-- A token for a probe beside a live socket. -/
theorem not_oneSocket_probeAnswered {data : PageData} (delay : ℕ)
    (hopens : ({ p with sessionToken := data.token } : Page).Opens) {i : ℕ} (hlive : p.Live i) :
    ¬(p.probeAnswered delay (.json 200 (some data))).OneSocket := by
  unfold probeAnswered
  cases htoken : data.token with
  | none => exact absurd (hopens.1.symm.trans (congrArg Option.isSome htoken)) (by simp)
  | some token =>
      rw [htoken] at hopens
      simp only [Option.bind_some, htoken, if_true]
      exact not_oneSocket_connectWs hopens hlive

/-- A login beside a live socket. -/
theorem not_oneSocket_onLoginSuccess {data : PageData}
    (hopens : ({ p with
      sessionToken := data.token, setupLocked := data.mustChangePassword } : Page).Opens)
    {i : ℕ} (hlive : p.Live i) : ¬(p.onLoginSuccess data).OneSocket := by
  unfold onLoginSuccess
  dsimp only
  split
  next => exact not_oneSocket_connectWs hopens hlive
  next hterm => exact absurd hopens.2.1 hterm

/-- The answer to a request other than a probe. -/
theorem Single.answered (h : p.Single) (answer : PageAnswer) {request : Xhr}
    (hrequest : ∀ delay, request ≠ .probe delay)
    (hnone : request = .login → ∀ data, answer = .json 200 (some data) →
      ({ p with
        sessionToken := data.token, setupLocked := data.mustChangePassword } : Page).Opens →
          ∀ i, ¬p.Live i) : (p.answered answer request).Single := by
  cases request with
  | probe delay => exact absurd rfl (hrequest delay)
  | logout => exact h.endSession
  | startConfig =>
      unfold Page.answered
      dsimp only
      split
      next => exact (h.updateSetupLock _).api (by simp)
      next => exact h
  | startToken =>
      unfold Page.answered
      dsimp only
      split
      next =>
        split
        next => exact h
        next token _ =>
          have hsession : ({ p with sessionToken := some token } : Page).Single :=
            h.of_le (fun _ hi => hi) (fun _ ht => ht) (fun _ hk => hk) rfl rfl rfl
          split
          next hws =>
            -- a live socket would be in `ws`
            refine hsession.connectWs fun _ i hi => ?_
            rw [h.ws i hi] at hws
            simp at hws
          next => exact hsession
      next => exact h
  | login =>
      unfold Page.answered
      dsimp only
      split
      next data => exact h.onLoginSuccess data (hnone rfl data rfl)
      next => exact h
  | loadConfig =>
      unfold Page.answered
      dsimp only
      split
      next => exact h.updateSetupLock _
      next => exact h
  | password =>
      unfold Page.answered
      dsimp only
      split
      next =>
        split
        next => exact h.setTimeout (by simp)
        next => exact h
      next => exact h

/-! ## Input -/

theorem Single.send (h : p.Single) (input : ℕ) (bytes : List UInt8) :
    (p.send input bytes).Single :=
  h.onWs fun _ hs => hs

theorem Single.sendChunk (h : p.Single) (chunks : Chunks) : (p.sendChunk chunks).Single := by
  unfold Page.sendChunk
  split
  · exact h
  · dsimp only
    split
    · exact h
    · exact h
    · exact (h.send _ _).setTimeout (by simp)
    · exact h.setTimeout (by simp)
    · exact h.setTimeout (by simp)

theorem Single.onData (h : p.Single) (data : JsString) : (p.onData data).Single := by
  have hrecord : (p.onWs fun s => { s with
      entered := s.entered ++ data.utf8.map fun b => (p.inputs, b) }).Single :=
    h.onWs fun _ hs => hs
  have hentered : (p.enter data.utf8).Single :=
    hrecord.of_le (fun _ hi => hi) (fun _ ht => ht) (fun _ hk => hk) rfl rfl rfl
  unfold Page.onData
  split
  · exact h
  · split
    · dsimp only
      split
      · exact hentered.send _ _
      · exact hentered.sendChunk _
    · exact h

/-! ## Steps -/

theorem Single.setReadyState (h : p.Single) {i : ℕ} {state : ReadyState}
    (hstate : ∀ s, p.sockets.get i = some s →
      ({ s with readyState := state } : PageSocket).live = true → s.live = true) :
    (p.setReadyState i state).Single :=
  h.modify hstate

/-- A step that does not double. -/
theorem Single.step (h : p.Single) {a : PageAction} (hno : ¬p.Doubles a)
    (hstep : p.Stepped a q) : q.Single := by
  cases hstep with
  | terminalLoaded =>
      unfold initTerminal
      split
      next => exact h
      next hterm =>
        -- without a terminal there is no live socket yet
        have hnone : ∀ i, ¬p.Live i := fun i hi => hterm (h.term i hi)
        have hloaded : ({ p with term := true } : Page).Single :=
          { h with
            ws := fun i hi => absurd hi (hnone i)
            term := fun i hi => absurd hi (hnone i) }
        dsimp only
        split
        · exact hloaded.connectWs fun _ => hnone
        · exact hloaded
  | input => exact h.onData _
  | @selectPort port =>
      -- the old socket is closed before the new one is made
      unfold Page.selectPort
      split
      next => exact h
      next =>
        have hport : ({ p with currentPort := port } : Page).Single :=
          h.of_le (fun _ hi => hi) (fun _ ht => ht) (fun _ hk => hk) rfl rfl rfl
        obtain ⟨hclosed, hnone⟩ := hport.close
          fun s => PageSocket.not_live_close { s with onclose := false }
        exact hclosed.connectWs fun _ => hnone
  | submitLogin => exact h.api (by simp)
  | clickLogout => exact h.api (by simp)
  | savePassword => exact h.api (by simp)
  | @opened i s hsocket hstate =>
      have hopen : (p.setReadyState i .open).Single := h.setReadyState fun s' hs' _ => by
        obtain rfl := Option.some.inj (hsocket.symm.trans hs')
        simp [PageSocket.live, hstate]
      exact hopen.of_le (fun _ hi => hi) (fun _ ht => ht) (fun _ hk => hk) rfl rfl rfl
  | failed => exact h
  | closing => exact h.setReadyState fun s' _ hlive => by simp [PageSocket.live] at hlive
  | @lost i s hsocket hstate honclose htoken =>
      -- a probe under way would start a second reconnection
      have hclosed : (p.setReadyState i .closed).Single :=
        h.setReadyState fun s' _ hlive => by simp [PageSocket.live] at hlive
      exact hclosed.scheduleReconnect fun _ k hk => hno (.closed hsocket honclose htoken hk)
  | closed => exact h.setReadyState fun s' _ hlive => by simp [PageSocket.live] at hlive
  | @answered k answer request hk =>
      have hrest : ∀ l, ({ p with requests := p.requests.erase k } : Page).Probing l →
          l ≠ k ∧ p.Probing l := by
        rintro l ⟨delay, hl⟩
        obtain ⟨hne, hl⟩ := FreshTable.get_erase_eq_some.mp hl
        exact ⟨hne, delay, hl⟩
      have herased : ({ p with requests := p.requests.erase k } : Page).Single :=
        h.of_le (fun _ hi => hi) (fun _ ht => ht) (fun l hl => (hrest l hl).2) rfl rfl rfl
      by_cases hprobe : ∃ delay, request = .probe delay
      · obtain ⟨delay, rfl⟩ := hprobe
        -- this probe was all that was under way
        have hcalm : ∀ a, ¬({ p with requests := p.requests.erase k } : Page).UnderWay a
          | .timer t, ht => h.not_awaits ⟨delay, hk⟩ t ht
          | .probe l, hl => (hrest l hl).1 (h.probe_unique (hrest l hl).2 ⟨delay, hk⟩)
        refine herased.probeAnswered hcalm delay fun data heq hopens i hi => ?_
        subst heq
        exact hno (.probe ⟨delay, hk⟩ hopens hi)
      · refine herased.answered answer (fun delay hdelay => hprobe ⟨delay, hdelay⟩) ?_
        -- a login that opens a terminal beside a live one is a doubling
        rintro rfl data rfl hopens i hi
        exact hno (.login hk hopens hi)
  | @fired t timer ht =>
      have hfired : ({ p with timers := p.timers.erase t } : Page).Single := by
        refine h.of_le (fun _ hi => hi) (fun t' ht' => ?_) (fun _ hk => hk) rfl rfl rfl
        obtain ⟨delay, ht'⟩ := ht'
        exact ⟨delay, (FreshTable.get_erase_eq_some.mp ht').2⟩
      cases timer with
      | scheduleReconnect delay =>
          exact hfired.scheduleReconnect fun _ k hk => h.not_awaits hk t ⟨delay, ht⟩
      | sendChunk chunks => exact hfired.sendChunk chunks
      | loggedOut => exact hfired.endSession

/-- A step that does. -/
theorem Doubles.not_oneSocket {a : PageAction} (hd : p.Doubles a) (hstep : p.Stepped a q) :
    ¬q.OneSocket := by
  cases hd with
  | @login k i data hrequest hopens hlive =>
      cases hstep with
      | answered hk =>
          obtain rfl := Option.some.inj (hrequest.symm.trans hk)
          exact not_oneSocket_onLoginSuccess hopens hlive
  | @probe k i data hrequest hopens hlive =>
      cases hstep with
      | answered hk =>
          obtain ⟨delay, hrequest⟩ := hrequest
          obtain rfl := Option.some.inj (hrequest.symm.trans hk)
          exact not_oneSocket_probeAnswered delay hopens hlive
  | @closed i k s hsocket honclose htoken hprobe =>
      cases hstep with
      | lost => exact not_oneSocket_scheduleReconnect htoken hprobe
      | closed hsocket' hstate hquiet =>
          obtain rfl := Option.some.inj (hsocket.symm.trans hsocket')
          exact absurd ⟨honclose, htoken⟩ hquiet

theorem single_loaded : loaded.Single where
  ws := by rintro i ⟨s, hs, -⟩; cases hs
  term := by rintro i ⟨s, hs, -⟩; cases hs
  timer := by rintro t ⟨delay, ht⟩; cases ht
  attempts := by
    intro a b ha
    cases a with
    | timer t => obtain ⟨delay, ht⟩ := ha; cases ht
    | probe k =>
        obtain ⟨delay, hk⟩ := ha
        rcases FreshTable.get_insert_eq_some.mp hk with ⟨-, hk⟩ | hk <;> cases hk

end

end Page

/-- **A page drives one socket until it doubles.**  In every run of the page there is in
every state at most one socket that is connecting or open, and at most one reconnect
attempt under way, exactly if no step of the run opens a socket beside a live one, for a
login or for a probe, or loses a socket while a probe is under way. -/
theorem page_drives_one_socket_iff {p : Page} {as : List PageAction} {es : List Empty}
    (hrun : pageMachine.Run .loaded as es p) :
    (∀ q, pageMachine.Visits .loaded as q → q.OneSocket) ↔
      ∀ q a, pageMachine.Takes .loaded as q a → ¬q.Doubles a := by
  refine hrun.visits_iff_of (Q := fun _ _ => True) (fun _ _ _ => trivial) Page.single_loaded
    (fun _ hq => hq.oneSocket) fun q a q' es _ hq hstep => ⟨fun hno => ?_, fun hone hd => ?_⟩
  · exact hq.step hno (pageMachine_step hstep)
  · exact hd.not_oneSocket (pageMachine_step hstep) hone

/-- A response with a token. -/
def demoAnswer : PageAnswer := .json 200 (some ⟨some (cstr "00ff"), false, some true, true⟩)

/-- A page that was logged in finds its session and opens a socket. -/
def resumedPage : List PageAction :=
  [.terminalLoaded, .answer 0 demoAnswer, .answer 1 demoAnswer, .opened 0]

/-- Up to the first socket nothing is doubled. -/
theorem page_drives_one_socket_iff_resumed : ∃ p es,
    pageMachine.Run .loaded resumedPage es p ∧
      ((∀ q, pageMachine.Visits .loaded resumedPage q → q.OneSocket) ↔
        ∀ q a, pageMachine.Takes .loaded resumedPage q a → ¬q.Doubles a) := by
  obtain ⟨p, es, hrun, -⟩ := Machine.Run.exists_of_exec (p := fun _ _ => true)
    (show (pageMachine.exec .loaded resumedPage).any _ = true by decide +kernel)
  exact ⟨p, es, hrun, page_drives_one_socket_iff hrun⟩

/-- The connection is lost, and another port is selected before the probe is answered. -/
theorem page_opens_second_socket :
    ¬∀ (p : Page) (as : List PageAction) (es : List Empty),
      pageMachine.Run .loaded as es p → p.OneSocket := by
  intro hall
  obtain ⟨p, es, hrun, hboth⟩ := Machine.Run.exists_of_exec
    (p := fun p _ => (p.sockets.get 1).any PageSocket.live && (p.sockets.get 2).any PageSocket.live)
    (show (pageMachine.exec .loaded (resumedPage ++
      [.closed 0, .selectPort 1, .answer 2 demoAnswer])).any _ = true by decide +kernel)
  obtain ⟨hfirst, hsecond⟩ := Bool.and_eq_true_iff.mp hboth
  obtain ⟨s, hs, hlive⟩ := (Option.any_eq_true _ _).mp hfirst
  obtain ⟨s', hs', hlive'⟩ := (Option.any_eq_true _ _).mp hsecond
  exact absurd ((hall p _ es hrun).sockets 1 2 ⟨s, hs, hlive⟩ ⟨s', hs', hlive'⟩) (by decide)

end WebTerminal
