import WebTerminal.Page.Sockets

/-!
# The records of the sockets

What was sent on a socket stays sent, and a socket stays with the token and the port it
was opened for: every step of the page extends the sockets it finds.
-/

set_option autoImplicit false

namespace WebTerminal

/-- A later state of a socket. -/
structure PageSocket.Continues (s s' : PageSocket) : Prop where
  token : s'.token = s.token
  port : s'.port = s.port
  sent : s.sent <+: s'.sent

theorem PageSocket.Continues.refl (s : PageSocket) : s.Continues s :=
  ⟨rfl, rfl, List.prefix_rfl⟩

theorem PageSocket.Continues.trans {s s' s'' : PageSocket} (h : s.Continues s')
    (h' : s'.Continues s'') : s.Continues s'' :=
  ⟨h'.token.trans h.token, h'.port.trans h.port, h.sent.trans h'.sent⟩

theorem PageSocket.continues_close (s : PageSocket) : s.Continues s.close := by
  unfold PageSocket.close
  split
  · exact ⟨rfl, rfl, List.prefix_rfl⟩
  · exact .refl s

theorem PageSocket.continues_detach (s : PageSocket) :
    s.Continues ({ s with onclose := false } : PageSocket).close := by
  have h := PageSocket.continues_close { s with onclose := false }
  exact ⟨h.token, h.port, h.sent⟩

namespace Page

/-- No socket is lost, and each is continued. -/
def Extends (p q : Page) : Prop :=
  ∀ i s, p.sockets.get i = some s → ∃ s', q.sockets.get i = some s' ∧ s.Continues s'

section

variable {p q r : Page}

theorem Extends.of_eq (h : q.sockets = p.sockets) : p.Extends q := by
  intro i s hs
  refine ⟨s, ?_, .refl s⟩
  rwa [h]

theorem Extends.trans (h : p.Extends q) (h' : q.Extends r) : p.Extends r := by
  intro i s hs
  obtain ⟨s', hs', hcontinues⟩ := h i s hs
  obtain ⟨s'', hs'', hcontinues'⟩ := h' i s' hs'
  exact ⟨s'', hs'', hcontinues.trans hcontinues'⟩

/-- A step before which only variables changed. -/
theorem Extends.after (h : q.Extends r) (heq : q.sockets = p.sockets) : p.Extends r :=
  (Extends.of_eq heq).trans h

theorem extends_modify (p : Page) (i : ℕ) {f : PageSocket → PageSocket}
    (hf : ∀ s : PageSocket, s.Continues (f s)) :
    p.Extends { p with sockets := p.sockets.modify i f } := by
  intro j s hs
  by_cases hj : j = i
  · subst hj
    exact ⟨f s, FreshTable.get_modify_eq_some.mpr (.inl ⟨rfl, s, hs, rfl⟩), hf s⟩
  · exact ⟨s, FreshTable.get_modify_eq_some.mpr (.inr ⟨hj, hs⟩), .refl s⟩

theorem extends_onWs (p : Page) {f : PageSocket → PageSocket}
    (hf : ∀ s : PageSocket, s.Continues (f s)) :
    p.Extends (p.onWs f) := by
  unfold onWs
  split
  · exact .of_eq rfl
  · exact extends_modify p _ hf

theorem extends_openSocket (p : Page) (token : CString) : p.Extends (p.openSocket token) := by
  intro i s hs
  exact ⟨s, FreshTable.get_insert_eq_some.mpr (.inr hs), .refl s⟩

/-! ## Connecting and answers -/

theorem extends_connectWs (p : Page) : p.Extends p.connectWs := by
  rcases connectWs_cases p with ⟨-, heq⟩ | ⟨-, token, heq⟩
  · rw [heq]
    exact .of_eq clearReconnect_sockets
  · rw [heq]
    exact (extends_openSocket _ token).after clearReconnect_sockets

theorem extends_scheduleReconnect (p : Page) : p.Extends p.scheduleReconnect := by
  refine .of_eq ?_
  cases htoken : p.sessionToken with
  | none => rw [scheduleReconnect_of_none htoken, clearReconnect_sockets]
  | some token => rw [scheduleReconnect_of_some htoken, clearReconnect_sockets]

theorem extends_probeAnswered (p : Page) (delay : ℕ) (answer : PageAnswer) :
    p.Extends (p.probeAnswered delay answer) := by
  unfold probeAnswered
  cases answer with
  | failed => exact .of_eq rfl
  | json status data =>
      dsimp only
      split
      · exact .of_eq rfl
      split
      · exact (extends_connectWs _).after rfl
      · exact .of_eq rfl

theorem extends_updateSetupLock (p : Page) (conf : PageData) :
    p.Extends (p.updateSetupLock conf) := by
  unfold updateSetupLock
  dsimp only
  split
  · exact .of_eq rfl
  · refine Extends.trans ?_ (.of_eq rfl)
    exact (extends_onWs _ PageSocket.continues_detach).after clearReconnect_sockets

theorem extends_endSession (p : Page) : p.Extends p.endSession :=
  (extends_onWs { p with sessionToken := none } PageSocket.continues_close).after rfl

theorem extends_onLoginSuccess (p : Page) (data : PageData) :
    p.Extends (p.onLoginSuccess data) := by
  unfold onLoginSuccess
  dsimp only
  split
  · exact (extends_connectWs _).after rfl
  · exact .of_eq rfl

theorem extends_answered (p : Page) (answer : PageAnswer) (request : Xhr) :
    p.Extends (p.answered answer request) := by
  cases request with
  | probe delay => exact extends_probeAnswered p delay answer
  | logout => exact extends_endSession p
  | startConfig =>
      unfold answered
      dsimp only
      split
      · exact (extends_updateSetupLock p _).trans (.of_eq rfl)
      · exact .of_eq rfl
  | startToken =>
      unfold answered
      dsimp only
      split
      · split
        · exact .of_eq rfl
        · split
          · exact (extends_connectWs _).after rfl
          · exact .of_eq rfl
      · exact .of_eq rfl
  | login =>
      unfold answered
      dsimp only
      split
      · exact extends_onLoginSuccess p _
      · exact .of_eq rfl
  | loadConfig =>
      unfold answered
      dsimp only
      split
      · exact extends_updateSetupLock p _
      · exact .of_eq rfl
  | password =>
      unfold answered
      dsimp only
      split
      · split
        · exact .of_eq rfl
        · exact .of_eq rfl
      · exact .of_eq rfl

/-! ## Sending -/

theorem extends_send (p : Page) (input : ℕ) (bytes : List UInt8) : p.Extends (p.send input bytes) :=
  extends_onWs p fun s => ⟨rfl, rfl, List.prefix_append s.sent _⟩

theorem extends_sendChunk (p : Page) (chunks : Chunks) : p.Extends (p.sendChunk chunks) := by
  unfold sendChunk
  split
  · exact .of_eq rfl
  · dsimp only
    split
    · exact .of_eq rfl
    · exact .of_eq rfl
    · exact (extends_send p _ _).trans (.of_eq rfl)
    · exact .of_eq rfl
    · exact .of_eq rfl

theorem extends_enter (p : Page) (encoded : List UInt8) : p.Extends (p.enter encoded) := by
  unfold enter
  refine Extends.trans (extends_onWs p ?_) (.of_eq rfl)
  exact fun s => ⟨rfl, rfl, List.prefix_rfl⟩

theorem extends_onData (p : Page) (data : JsString) : p.Extends (p.onData data) := by
  unfold onData
  split
  · exact .of_eq rfl
  · split
    · dsimp only
      split
      · exact (extends_enter p _).trans (extends_send _ _ _)
      · exact (extends_enter p _).trans (extends_sendChunk _ _)
    · exact .of_eq rfl

/-! ## Steps -/

theorem extends_setReadyState (p : Page) (i : ℕ) (state : ReadyState) :
    p.Extends (p.setReadyState i state) :=
  extends_modify p i fun _ => ⟨rfl, rfl, List.prefix_rfl⟩

theorem extends_fired (p : Page) (timer : PageTimer) : p.Extends (p.fired timer) := by
  cases timer with
  | scheduleReconnect => exact extends_scheduleReconnect p
  | sendChunk chunks => exact extends_sendChunk p chunks
  | loggedOut => exact extends_endSession p

/-- Every step extends the sockets. -/
theorem Stepped.extends {a : PageAction} (h : p.Stepped a q) : p.Extends q := by
  cases h with
  | terminalLoaded =>
      unfold initTerminal
      split
      · exact .of_eq rfl
      dsimp only
      split
      · exact (extends_connectWs _).after rfl
      · exact .of_eq rfl
  | input => exact extends_onData p _
  | selectPort =>
      unfold Page.selectPort
      split
      · exact .of_eq rfl
      · refine Extends.trans ?_ (extends_connectWs _)
        exact (extends_onWs _ PageSocket.continues_detach).after rfl
  | submitLogin => exact .of_eq rfl
  | clickLogout => exact .of_eq rfl
  | savePassword => exact .of_eq rfl
  | opened => exact (extends_setReadyState p _ _).trans (.of_eq rfl)
  | failed => exact .of_eq rfl
  | closing => exact extends_setReadyState p _ _
  | lost => exact (extends_setReadyState p _ _).trans (extends_scheduleReconnect _)
  | closed => exact extends_setReadyState p _ _
  | answered => exact (extends_answered _ _ _).after rfl
  | fired => exact (extends_fired _ _).after rfl

end

end Page

end WebTerminal
