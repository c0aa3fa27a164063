import WebTerminal.Page.Sockets

/-!
# The order of the input

What a long input does not send at once is sent by a timer, on the socket that is in
`ws` by then, while a later input goes out as it is entered.  What is sent on a socket
stays a beginning of what was entered on it up to exactly two steps:

* an input is entered while a paste on the same socket has bytes left,
* the timer of a paste with bytes left finds another socket open than the one the
  paste was entered on.

Until then a paste with bytes left is the only one on its socket, and what it has
left is what the socket lacks.
-/

set_option autoImplicit false

namespace WebTerminal

/-- The bytes of an input, each with the number of the input. -/
def numbered (input : ℕ) (bytes : List UInt8) : List (ℕ × UInt8) := bytes.map fun b => (input, b)

theorem numbered_append (input : ℕ) (l l' : List UInt8) :
    numbered input (l ++ l') = numbered input l ++ numbered input l' := List.map_append

theorem mem_numbered {input : ℕ} {bytes : List UInt8} {x : ℕ × UInt8}
    (h : x ∈ numbered input bytes) :
    x.1 = input := by
  obtain ⟨b, -, rfl⟩ := List.mem_map.mp h
  rfl

/-- What a paste still has to send. -/
def Chunks.left (c : Chunks) : List (ℕ × UInt8) := numbered c.input (c.encoded.drop c.i)

/-- A socket that has the records of another and is not more alive. -/
structure PageSocket.Calmer (s s' : PageSocket) : Prop where
  sent : s.sent = s'.sent
  entered : s.entered = s'.entered
  live : s.live = true → s'.live = true
  connecting : s.readyState = .connecting → s'.readyState = .connecting

theorem PageSocket.Calmer.refl (s : PageSocket) : s.Calmer s :=
  ⟨rfl, rfl, id, id⟩

/-- A socket that is closed from this end, with or without its handler. -/
theorem PageSocket.calmer_close (s : PageSocket) : s.close.Calmer s := by
  unfold PageSocket.close
  split
  next h => exact ⟨rfl, rfl, fun _ => h, fun hstate => by simp at hstate⟩
  next => exact .refl s

theorem PageSocket.calmer_detach (s : PageSocket) :
    ({ s with onclose := false } : PageSocket).close.Calmer s := by
  have h := PageSocket.calmer_close { s with onclose := false }
  exact ⟨h.sent, h.entered, h.live, h.connecting⟩

namespace Page

/-- A timer of a paste on this socket that has bytes left. -/
structure Pending (p : Page) (i t : ℕ) (c : Chunks) : Prop where
  timer : p.timers.get t = some (.sendChunk c)
  socket : c.socket = i
  left : c.left ≠ []

/-- What is sent on a socket is a beginning of what was entered on it, and all of it while
the page sends on the socket and no paste is pending. -/
structure KeepsOrder (p : Page) : Prop where
  inOrder : ∀ i s, p.sockets.get i = some s → s.sent <+: s.entered
  complete : ∀ i s, p.ws = some i → p.sockets.get i = some s → s.readyState = .open →
    (∀ t c, ¬p.Pending i t c) → s.sent = s.entered

/-- The steps that send a byte in the wrong place. -/
inductive Misplaces (p : Page) : PageAction → Prop
  | overtakes {data : JsString} {i t : ℕ} {s : PageSocket} {c : Chunks} (hws : p.ws = some i)
      (hsocket : p.sockets.get i = some s) (hopen : s.readyState = .open)
      (hpending : p.Pending i t c) (hdata : data.utf8 ≠ []) : Misplaces p (.input data)
  | strays {i t : ℕ} {s : PageSocket} {c : Chunks} (hws : p.ws = some i)
      (hsocket : p.sockets.get i = some s) (hopen : s.readyState = .open)
      (hpending : p.Pending c.socket t c) (hother : c.socket ≠ i) : Misplaces p (.fire t)

/-- The socket has sent what was entered on it, up to what one paste has left. -/
structure Flows (p : Page) (i : ℕ) (s : PageSocket) : Prop where
  unique : ∀ t t' c c', p.Pending i t c → p.Pending i t' c' → t = t'
  idle : (∀ t c, ¬p.Pending i t c) → s.sent = s.entered
  busy : ∀ t c, p.Pending i t c → s.sent ++ c.left = s.entered

/-- Every byte and every paste is filed under its input and its socket. -/
structure Filed (p : Page) : Prop where
  inOrder : ∀ i s, p.sockets.get i = some s → s.sent <+: s.entered
  connecting : ∀ i s, p.sockets.get i = some s → s.readyState = .connecting → s.entered = []
  entered : ∀ i s x, p.sockets.get i = some s → x ∈ s.entered → x.1 < p.inputs
  handle : ∀ t, p.reconnectTimer = some t →
    t < p.timers.next ∧ ∀ c, p.timers.get t ≠ some (.sendChunk c)
  socket : ∀ t c, p.timers.get t = some (.sendChunk c) → c.socket < p.sockets.next
  input : ∀ t c, p.timers.get t = some (.sendChunk c) → c.input < p.inputs
  owner : ∀ t c i s b, p.timers.get t = some (.sendChunk c) → p.sockets.get i = some s →
    (c.input, b) ∈ s.entered → c.socket = i

/-- What holds until a byte is misplaced. -/
structure Ordered (p : Page) : Prop extends Filed p where
  flows : ∀ i s, p.ws = some i → p.sockets.get i = some s → s.live = true → p.Flows i s

section

variable {p q : Page}

theorem Ordered.keepsOrder (h : p.Ordered) : p.KeepsOrder where
  inOrder := h.inOrder
  complete i s hws hs hopen hnone :=
    (h.flows i s hws hs (by simp [PageSocket.live, hopen])).idle hnone

theorem Flows.inOrder {i : ℕ} {s : PageSocket} (h : p.Flows i s) : s.sent <+: s.entered := by
  by_cases hpending : ∃ t c, p.Pending i t c
  · obtain ⟨t, c, hc⟩ := hpending
    exact ⟨c.left, h.busy t c hc⟩
  · have hnone : ∀ t c, ¬p.Pending i t c := fun t c hc => hpending ⟨t, c, hc⟩
    simp [h.idle hnone]

theorem Flows.congr {i : ℕ} {s s' : PageSocket} (h : p.Flows i s)
    (hpending : ∀ t c, q.Pending i t c ↔ p.Pending i t c) (hsent : s'.sent = s.sent)
    (hentered : s'.entered = s.entered) : q.Flows i s' where
  unique t t' c c' hc hc' := h.unique t t' c c' ((hpending t c).mp hc) ((hpending t' c').mp hc')
  idle hnone := by
    rw [hsent, hentered]
    exact h.idle fun t c hc => hnone t c ((hpending t c).mpr hc)
  busy t c hc := by
    rw [hsent, hentered]
    exact h.busy t c ((hpending t c).mp hc)

/-! ## Steps that send nothing -/

/-- A step that sends nothing, enters nothing and keeps the timers of all pastes. -/
theorem Ordered.of_le (h : p.Ordered)
    (hsockets : ∀ i s, q.sockets.get i = some s →
      ∃ s', p.sockets.get i = some s' ∧ s.Calmer s')
    (hnext : q.sockets.next = p.sockets.next) (hws : ∀ i, q.ws = some i → p.ws = some i)
    (htimers : ∀ t c, q.timers.get t = some (.sendChunk c) ↔ p.timers.get t = some (.sendChunk c))
    (hinputs : q.inputs = p.inputs)
    (hhandle : ∀ t, q.reconnectTimer = some t →
      t < q.timers.next ∧ ∀ c, q.timers.get t ≠ some (.sendChunk c)) : q.Ordered := by
  -- the pastes that are under way are the same
  have hpending : ∀ i t c, q.Pending i t c ↔ p.Pending i t c := fun i t c =>
    ⟨fun hc => ⟨(htimers t c).mp hc.timer, hc.socket, hc.left⟩,
      fun hc => ⟨(htimers t c).mpr hc.timer, hc.socket, hc.left⟩⟩
  refine ⟨⟨?inOrder, ?connecting, ?entered, ?handle, ?socket, ?input, ?owner⟩, ?flows⟩
  case inOrder =>
    intro i s hs
    obtain ⟨s', hs', hcalm⟩ := hsockets i s hs
    rw [hcalm.sent, hcalm.entered]
    exact h.inOrder i s' hs'
  case flows =>
    intro i s hi hs hlive
    obtain ⟨s', hs', hcalm⟩ := hsockets i s hs
    exact (h.flows i s' (hws i hi) hs' (hcalm.live hlive)).congr (hpending i) hcalm.sent
      hcalm.entered
  case connecting =>
    intro i s hs hstate
    obtain ⟨s', hs', hcalm⟩ := hsockets i s hs
    rw [hcalm.entered]
    exact h.connecting i s' hs' (hcalm.connecting hstate)
  case entered =>
    intro i s x hs hx
    obtain ⟨s', hs', hcalm⟩ := hsockets i s hs
    rw [hcalm.entered] at hx
    rw [hinputs]
    exact h.entered i s' x hs' hx
  case handle => exact hhandle
  case socket =>
    intro t c hc
    rw [hnext]
    exact h.socket t c ((htimers t c).mp hc)
  case input =>
    intro t c hc
    rw [hinputs]
    exact h.input t c ((htimers t c).mp hc)
  case owner =>
    intro t c i s b hc hs hb
    obtain ⟨s', hs', hcalm⟩ := hsockets i s hs
    rw [hcalm.entered] at hb
    exact h.owner t c i s' b ((htimers t c).mp hc) hs' hb

/-- A step that leaves the sockets, the timers and the inputs alone. -/
theorem Ordered.of_eq (h : p.Ordered) (hsockets : q.sockets = p.sockets) (hws : q.ws = p.ws)
    (htimers : q.timers = p.timers) (hhandle : q.reconnectTimer = p.reconnectTimer)
    (hinputs : q.inputs = p.inputs) : q.Ordered :=
  h.of_le (fun i s hs => ⟨s, by rwa [← hsockets], .refl s⟩) (by rw [hsockets])
    (fun i hi => by rwa [← hws]) (fun t c => by rw [htimers]) hinputs
    (by rw [hhandle, htimers]; exact h.handle)

theorem Ordered.modify (h : p.Ordered) {i : ℕ} {f : PageSocket → PageSocket}
    (hf : ∀ s, p.sockets.get i = some s → (f s).Calmer s) :
    ({ p with sockets := p.sockets.modify i f } : Page).Ordered := by
  refine h.of_le (fun j s hs => ?_) rfl (fun _ hj => hj) (fun _ _ => .rfl) rfl h.handle
  rcases FreshTable.get_modify_eq_some.mp hs with ⟨rfl, s', hs', rfl⟩ | ⟨-, hs⟩
  · exact ⟨s', hs', hf s' hs'⟩
  · exact ⟨s, hs, .refl s⟩

theorem Ordered.onWs (h : p.Ordered) {f : PageSocket → PageSocket}
    (hf : ∀ s, (f s).Calmer s) : (p.onWs f).Ordered := by
  unfold Page.onWs
  split
  · exact h
  · exact h.modify fun s _ => hf s

/-- A timer that is not for a paste. -/
theorem Ordered.setTimeout (h : p.Ordered) {timer : PageTimer}
    (htimer : ∀ c, timer ≠ .sendChunk c) : (p.setTimeout timer).Ordered := by
  have hold : ∀ t c, (p.timers.insert timer).get t = some (.sendChunk c) ↔
      p.timers.get t = some (.sendChunk c) := by
    intro t c
    rw [FreshTable.get_insert_eq_some]
    exact or_iff_right fun hnew => htimer c hnew.2
  refine h.of_le (fun i s hs => ⟨s, hs, .refl s⟩) rfl (fun _ hi => hi) hold rfl fun t ht => ?_
  obtain ⟨hlt, hnot⟩ := h.handle t ht
  exact ⟨Nat.lt_succ_of_lt hlt, fun c hc => hnot c ((hold t c).mp hc)⟩

theorem Ordered.clearReconnect (h : p.Ordered) : p.clearReconnect.Ordered := by
  unfold Page.clearReconnect
  split
  next => exact h
  next handle hhandle =>
    refine h.of_le (fun i s hs => ⟨s, hs, .refl s⟩) rfl (fun _ hi => hi) (fun t c => ?_) rfl
      fun t ht => by cases ht
    rw [FreshTable.get_erase_eq_some]
    refine and_iff_right_of_imp fun hc => ?_
    rintro rfl
    exact (h.handle t hhandle).2 c hc

theorem Filed.erase (h : p.Filed) (t : ℕ) :
    ({ p with timers := p.timers.erase t } : Page).Filed := by
  have hold : ∀ t' c, (p.timers.erase t).get t' = some (.sendChunk c) →
      p.timers.get t' = some (.sendChunk c) := fun t' c hc =>
    (FreshTable.get_erase_eq_some.mp hc).2
  exact
    { inOrder := h.inOrder
      connecting := h.connecting
      entered := h.entered
      handle := fun t' ht' =>
        ⟨(h.handle t' ht').1, fun c hc => (h.handle t' ht').2 c (hold t' c hc)⟩
      socket := fun t' c hc => h.socket t' c (hold t' c hc)
      input := fun t' c hc => h.input t' c (hold t' c hc)
      owner := fun t' c i s b hc => h.owner t' c i s b (hold t' c hc) }

/-- A timer that has fired and was not for a paste with bytes left on the socket in
`ws`. -/
theorem Ordered.erase (h : p.Ordered) {t : ℕ}
    (ht : ∀ i s c, p.ws = some i → p.sockets.get i = some s → s.live = true → ¬p.Pending i t c) :
    ({ p with timers := p.timers.erase t } : Page).Ordered := by
  refine ⟨h.toFiled.erase t, fun i s hi hs hlive => ?_⟩
  refine (h.flows i s hi hs hlive).congr (fun t' c => ⟨fun hc => ?_, fun hc => ?_⟩) rfl rfl
  · exact ⟨(FreshTable.get_erase_eq_some.mp hc.timer).2, hc.socket, hc.left⟩
  · refine ⟨FreshTable.get_erase_eq_some.mpr ⟨?_, hc.timer⟩, hc.socket, hc.left⟩
    rintro rfl
    exact ht i s c hi hs hlive hc

theorem Ordered.openSocket (h : p.Ordered) (token : CString) : (p.openSocket token).Ordered := by
  have hnone : ∀ t c, ¬(p.openSocket token).Pending p.sockets.next t c := by
    intro t c hc
    have hlt := h.socket t c hc.timer
    rw [hc.socket] at hlt
    exact lt_irrefl _ hlt
  refine ⟨⟨?inOrder, ?connecting, ?entered, ?handle, ?socket, ?input, ?owner⟩, ?flows⟩
  case inOrder =>
    intro i s hs
    rcases FreshTable.get_insert_eq_some.mp hs with ⟨-, rfl⟩ | hs
    · exact List.prefix_rfl
    · exact h.inOrder i s hs
  case flows =>
    intro i s hi hs hlive
    obtain rfl := Option.some.inj hi
    rcases FreshTable.get_insert_eq_some.mp hs with ⟨-, rfl⟩ | hs
    · exact ⟨fun t _ c _ hc => absurd hc (hnone t c), fun _ => rfl,
        fun t c hc => absurd hc (hnone t c)⟩
    · exact absurd (FreshTable.lt_next hs) (lt_irrefl _)
  case connecting =>
    intro i s hs hstate
    rcases FreshTable.get_insert_eq_some.mp hs with ⟨-, rfl⟩ | hs
    · rfl
    · exact h.connecting i s hs hstate
  case entered =>
    intro i s x hs hx
    rcases FreshTable.get_insert_eq_some.mp hs with ⟨-, rfl⟩ | hs
    · cases hx
    · exact h.entered i s x hs hx
  case handle => exact h.handle
  case socket => exact fun t c hc => Nat.lt_succ_of_lt (h.socket t c hc)
  case input => exact h.input
  case owner =>
    intro t c i s b hc hs hb
    rcases FreshTable.get_insert_eq_some.mp hs with ⟨-, rfl⟩ | hs
    · cases hb
    · exact h.owner t c i s b hc hs hb

/-! ## Connecting and answers -/

theorem Ordered.api (h : p.Ordered) (request : Xhr) : (p.api request).Ordered :=
  h.of_eq rfl rfl rfl rfl rfl

theorem Ordered.connectWs (h : p.Ordered) : p.connectWs.Ordered := by
  rcases connectWs_cases p with ⟨-, heq⟩ | ⟨-, token, heq⟩
  · rw [heq]
    exact h.clearReconnect
  · rw [heq]
    exact h.clearReconnect.openSocket token

theorem Ordered.scheduleReconnect (h : p.Ordered) : p.scheduleReconnect.Ordered := by
  cases htoken : p.sessionToken with
  | none =>
      rw [scheduleReconnect_of_none htoken]
      exact h.clearReconnect
  | some token =>
      rw [scheduleReconnect_of_some htoken]
      exact h.clearReconnect.of_eq rfl rfl rfl rfl rfl

theorem Ordered.probeAnswered (h : p.Ordered) (delay : ℕ) (answer : PageAnswer) :
    (p.probeAnswered delay answer).Ordered := by
  have hretry : ({ p.setTimeout (.scheduleReconnect delay) with
      reconnectTimer := some p.timers.next } : Page).Ordered := by
    have htimer : (p.setTimeout (.scheduleReconnect delay)).Ordered := h.setTimeout (by simp)
    refine htimer.of_le (fun i s hs => ⟨s, hs, .refl s⟩) rfl (fun _ hi => hi) (fun _ _ => .rfl) rfl
      fun t ht => ?_
    obtain rfl := Option.some.inj ht
    refine ⟨Nat.lt_succ_self _, fun c hc => ?_⟩
    rcases FreshTable.get_insert_eq_some.mp hc with ⟨-, hc⟩ | hc
    · cases hc
    · exact absurd (FreshTable.lt_next hc) (lt_irrefl _)
  unfold Page.probeAnswered
  cases answer with
  | failed => exact hretry
  | json status data =>
      dsimp only
      split
      next => exact hretry
      next =>
        split
        next token _ =>
          have hsession : ({ p with sessionToken := some token } : Page).Ordered :=
            h.of_eq rfl rfl rfl rfl rfl
          exact hsession.connectWs
        next => exact h.of_eq rfl rfl rfl rfl rfl

theorem Ordered.updateSetupLock (h : p.Ordered) (conf : PageData) :
    (p.updateSetupLock conf).Ordered := by
  have hlock : ({ p with setupLocked := conf.authInitialized = some false } : Page).Ordered :=
    h.of_eq rfl rfl rfl rfl rfl
  unfold Page.updateSetupLock
  dsimp only
  split
  next => exact hlock
  next =>
    have hclosed := hlock.clearReconnect.onWs PageSocket.calmer_detach
    exact hclosed.of_le (fun i s hs => ⟨s, hs, .refl s⟩) rfl (fun _ hi => by cases hi)
      (fun _ _ => .rfl) rfl hclosed.handle

theorem Ordered.endSession (h : p.Ordered) : p.endSession.Ordered := by
  have hsession : ({ p with sessionToken := none } : Page).Ordered :=
    h.of_eq rfl rfl rfl rfl rfl
  exact hsession.onWs PageSocket.calmer_close

theorem Ordered.onLoginSuccess (h : p.Ordered) (data : PageData) :
    (p.onLoginSuccess data).Ordered := by
  have hsession : ({ p with
      sessionToken := data.token, setupLocked := data.mustChangePassword } : Page).Ordered :=
    h.of_eq rfl rfl rfl rfl rfl
  unfold Page.onLoginSuccess
  dsimp only
  split
  · exact (hsession.api _).connectWs
  · exact hsession.api _

theorem Ordered.answered (h : p.Ordered) (answer : PageAnswer) (request : Xhr) :
    (p.answered answer request).Ordered := by
  cases request with
  | probe delay => exact h.probeAnswered delay answer
  | logout => exact h.endSession
  | startConfig =>
      unfold Page.answered
      dsimp only
      split
      next => exact (h.updateSetupLock _).api _
      next => exact h
  | startToken =>
      unfold Page.answered
      dsimp only
      split
      next =>
        split
        next => exact h
        next token _ =>
          have hsession : ({ p with sessionToken := some token } : Page).Ordered :=
            h.of_eq rfl rfl rfl rfl rfl
          split
          · exact hsession.connectWs
          · exact hsession
      next => exact h
  | login =>
      unfold Page.answered
      dsimp only
      split
      next data => exact h.onLoginSuccess data
      next => exact h
  | loadConfig =>
      unfold Page.answered
      dsimp only
      split
      next => exact h.updateSetupLock _
      next => exact h
  | password =>
      unfold Page.answered
      dsimp only
      split
      next =>
        split
        next => exact h.setTimeout (by simp)
        next => exact h
      next => exact h

/-! ## Sending -/

/-- What a step does that sends on the socket in `ws`: bytes of input `n` go out behind
those that were sent, and the input is entered with the bytes `added`, or with none if it
was entered before.  A new timer has the `rest`. -/
structure Sends (p q : Page) (i : ℕ) (s : PageSocket) (n : ℕ) (added bytes rest : List UInt8) :
    Prop where
  ws : p.ws = some i
  socket : p.sockets.get i = some s
  isOpen : s.readyState = .open
  number : n < q.inputs
  inputs : p.inputs ≤ q.inputs
  ofInput : added ≠ [] → n = p.inputs
  ws_eq : q.ws = p.ws
  handle_eq : q.reconnectTimer = p.reconnectTimer
  next_eq : q.sockets.next = p.sockets.next
  sockets : ∀ j s', q.sockets.get j = some s' ↔
    j = i ∧ { s with
      sent := s.sent ++ numbered n bytes, entered := s.entered ++ numbered n added } = s' ∨
    j ≠ i ∧ p.sockets.get j = some s'
  timers : q.timers = p.timers ∧ rest = [] ∨
    ∃ c : Chunks, q.timers = p.timers.insert (.sendChunk c) ∧
    c.socket = i ∧ c.input = n ∧ c.left = numbered n rest

theorem Sends.keeps_timer {i n : ℕ} {s : PageSocket} {added bytes rest : List UInt8}
    (h : p.Sends q i s n added bytes rest) {t : ℕ} {timer : PageTimer}
    (ht : p.timers.get t = some timer) : q.timers.get t = some timer := by
  rcases h.timers with ⟨heq, -⟩ | ⟨c, heq, -⟩
  · rwa [heq]
  · rw [heq]
    exact FreshTable.get_insert_eq_some.mpr (.inr ht)

/-- Unless a paste is pending after the step, nothing is left. -/
theorem Sends.rest_eq {i n : ℕ} {s : PageSocket} {added bytes rest : List UInt8}
    (h : p.Sends q i s n added bytes rest) (hnone : ∀ t c, ¬q.Pending i t c) : rest = [] := by
  rcases h.timers with ⟨-, hrest⟩ | ⟨c, heq, hsocket, -, hleft⟩
  · exact hrest
  · by_contra hrest
    refine hnone p.timers.next c ⟨?_, hsocket, ?_⟩
    · rw [heq]
      exact FreshTable.get_insert_eq_some.mpr (.inl ⟨rfl, rfl⟩)
    · rw [hleft]
      simpa [numbered] using hrest

theorem Sends.get_timer {i n : ℕ} {s : PageSocket} {added bytes rest : List UInt8}
    (h : p.Sends q i s n added bytes rest) {t : ℕ} {c : Chunks}
    (hc : q.timers.get t = some (.sendChunk c)) :
    p.timers.get t = some (.sendChunk c) ∨
      t = p.timers.next ∧ c.socket = i ∧ c.input = n ∧ c.left = numbered n rest := by
  rcases h.timers with ⟨heq, -⟩ | ⟨c', heq, hsocket, hinput, hleft⟩
  · exact .inl (by rwa [heq] at hc)
  · rw [heq] at hc
    rcases FreshTable.get_insert_eq_some.mp hc with ⟨ht, hc⟩ | hc
    · obtain rfl := PageTimer.sendChunk.inj hc
      exact .inr ⟨ht, hsocket, hinput, hleft⟩
    · exact .inl hc

/-- A send on the socket of its input, in its turn. -/
theorem Filed.sends (h : p.Filed) {i n : ℕ} {s : PageSocket} {added bytes rest : List UInt8}
    (hsends : p.Sends q i s n added bytes rest)
    (howner : ∀ j s' b, p.sockets.get j = some s' → (n, b) ∈ s'.entered → i = j)
    (hflows : q.Flows i { s with
      sent := s.sent ++ numbered n bytes, entered := s.entered ++ numbered n added }) :
    q.Ordered := by
  -- what is new on the socket has been entered just now
  have hentered : ∀ x ∈ s.entered ++ numbered n added, x ∈ s.entered ∨ x.1 = n ∧ n = p.inputs := by
    intro x hx
    rcases List.mem_append.mp hx with hx | hx
    · exact .inl hx
    · refine .inr ⟨mem_numbered hx, hsends.ofInput ?_⟩
      rintro rfl
      cases hx
  refine ⟨⟨?inOrder, ?connecting, ?entered, ?handle, ?socket, ?input, ?owner⟩, ?flows⟩
  case inOrder =>
    -- only the socket that sends changes
    intro j s' hs'
    rcases (hsends.sockets j s').mp hs' with ⟨-, rfl⟩ | ⟨-, hs'⟩
    · exact hflows.inOrder
    · exact h.inOrder j s' hs'
  case flows =>
    intro j s' hj hs' _
    have hji : j = i := Option.some.inj (hj.symm.trans (hsends.ws_eq.trans hsends.ws))
    rcases (hsends.sockets j s').mp hs' with ⟨-, rfl⟩ | ⟨hne, -⟩
    · exact hji ▸ hflows
    · exact absurd hji hne
  case connecting =>
    -- and that socket is open
    intro j s' hs' hstate
    rcases (hsends.sockets j s').mp hs' with ⟨-, rfl⟩ | ⟨-, hs'⟩
    · cases hstate.symm.trans hsends.isOpen
    · exact h.connecting j s' hs' hstate
  case entered =>
    intro j s' x hs' hx
    rcases (hsends.sockets j s').mp hs' with ⟨-, rfl⟩ | ⟨-, hs'⟩
    · rcases hentered x hx with hx | ⟨hx, -⟩
      · exact (h.entered i s x hsends.socket hx).trans_le hsends.inputs
      · exact hx ▸ hsends.number
    · exact (h.entered j s' x hs' hx).trans_le hsends.inputs
  case handle =>
    -- the reconnect timer is older than a timer this step starts
    intro t ht
    rw [hsends.handle_eq] at ht
    obtain ⟨hlt, hnot⟩ := h.handle t ht
    constructor
    · rcases hsends.timers with ⟨heq, -⟩ | ⟨c, heq, -⟩
      · rwa [heq]
      · rw [heq]
        exact Nat.lt_succ_of_lt hlt
    · intro c hc
      rcases hsends.get_timer hc with hc | ⟨hnew, -⟩
      · exact hnot c hc
      · omega
  case socket =>
    intro t c hc
    rw [hsends.next_eq]
    rcases hsends.get_timer hc with hc | ⟨-, hsocket, -⟩
    · exact h.socket t c hc
    · rw [hsocket]
      exact FreshTable.lt_next hsends.socket
  case input =>
    intro t c hc
    rcases hsends.get_timer hc with hc | ⟨-, -, hinput, -⟩
    · exact (h.input t c hc).trans_le hsends.inputs
    · exact hinput ▸ hsends.number
  case owner =>
    -- a timer of before is of an earlier input, which enters nothing any more
    intro t c j s' b hc hs' hb
    rcases hsends.get_timer hc with hc | ⟨-, hsocket, hinput, -⟩
    · rcases (hsends.sockets j s').mp hs' with ⟨rfl, rfl⟩ | ⟨-, hs'⟩
      · rcases hentered _ hb with hb | ⟨hn, hnew⟩
        · exact h.owner t c j s b hc hsends.socket hb
        · have := h.input t c hc
          have hn : c.input = n := hn
          omega
      · exact h.owner t c j s' b hc hs' hb
    · -- a new timer is of this input
      rw [hsocket]
      rcases (hsends.sockets j s').mp hs' with ⟨rfl, -⟩ | ⟨-, hs'⟩
      · rfl
      · exact howner j s' b hs' (hinput ▸ hb)

theorem send_of_some {i : ℕ} (hws : p.ws = some i) (n : ℕ) (bytes : List UInt8) :
    p.send n bytes = { p with sockets := p.sockets.modify i fun s =>
      { s with sent := s.sent ++ numbered n bytes } } :=
  onWs_of_some hws

/-- What the timer of a paste does on an open socket. -/
theorem sendChunk_of_open {i : ℕ} {s : PageSocket} {c : Chunks} (hws : p.ws = some i)
    (hsocket : p.sockets.get i = some s) (hopen : s.readyState = .open) (hleft : c.left ≠ []) :
    p.sendChunk c = (p.send c.input ((c.encoded.drop c.i).take 64)).setTimeout
      (.sendChunk { c with i := c.i + 64 }) := by
  have hlt : c.i < c.encoded.length := by
    by_contra hge
    refine hleft ?_
    unfold Chunks.left
    rw [List.drop_eq_nil_of_le (not_lt.mp hge)]
    rfl
  have hcurrent : p.current.map PageSocket.readyState = some .open := by
    simp [current, hws, hsocket, hopen]
  unfold sendChunk
  rw [if_neg (not_le.mpr hlt)]
  simp only [hcurrent]

theorem get_sendChunk {i : ℕ} {s : PageSocket} {c : Chunks} (hws : p.ws = some i)
    (hsocket : p.sockets.get i = some s) (hopen : s.readyState = .open) (hleft : c.left ≠ []) :
    (p.sendChunk c).sockets.get i =
      some { s with sent := s.sent ++ numbered c.input ((c.encoded.drop c.i).take 64) } := by
  rw [sendChunk_of_open hws hsocket hopen hleft, send_of_some hws]
  exact FreshTable.get_modify_eq_some.mpr (.inl ⟨rfl, s, hsocket, rfl⟩)

/-- A paste goes on in two parts: what is sent now, and what is left. -/
theorem Chunks.left_eq (c : Chunks) : c.left = numbered c.input ((c.encoded.drop c.i).take 64) ++
    ({ c with i := c.i + 64 } : Chunks).left := by
  unfold Chunks.left
  rw [← numbered_append, ← List.drop_drop, List.take_append_drop]

theorem sends_sendChunk {i : ℕ} {s : PageSocket} {c : Chunks} (hws : p.ws = some i)
    (hsocket : p.sockets.get i = some s) (hopen : s.readyState = .open) (hleft : c.left ≠ [])
    (hinput : c.input < p.inputs) (hmine : c.socket = i) :
    p.Sends (p.sendChunk c) i s c.input [] ((c.encoded.drop c.i).take 64)
      (c.encoded.drop (c.i + 64)) := by
  rw [sendChunk_of_open hws hsocket hopen hleft, send_of_some hws]
  refine ⟨hws, hsocket, hopen, hinput, le_rfl, fun h => absurd rfl h, rfl, rfl, rfl, fun j s' => ?_,
    .inr ⟨{ c with i := c.i + 64 }, rfl, hmine, rfl, rfl⟩⟩
  simp only [Page.setTimeout, FreshTable.get_modify_eq_some, hsocket, Option.some.injEq,
    exists_eq_left', numbered, List.map_nil, List.append_nil]

/-- The record of an input on the open socket in `ws`. -/
theorem enter_of_some {i : ℕ} (hws : p.ws = some i) (encoded : List UInt8) :
    p.enter encoded = { p with
      sockets := p.sockets.modify i fun s =>
        { s with entered := s.entered ++ numbered p.inputs encoded }
      inputs := p.inputs + 1 } := by
  unfold enter
  rw [onWs_of_some hws]
  rfl

theorem sends_onData {i : ℕ} {s : PageSocket} (hws : p.ws = some i)
    (hsocket : p.sockets.get i = some s) (hopen : s.readyState = .open) (data : JsString) :
    p.Sends (p.onData data) i s p.inputs data.utf8 (data.utf8.take 64) (data.utf8.drop 64) := by
  have hcurrent : p.current.map PageSocket.readyState = some .open := by
    simp [current, hws, hsocket, hopen]
  unfold onData
  split
  next hnone => cases hws.symm.trans hnone
  next j hj =>
    obtain rfl := Option.some.inj (hws.symm.trans hj)
    rw [if_pos hcurrent]
    dsimp only
    have hentered : (p.enter data.utf8).sockets.get i =
        some { s with entered := s.entered ++ numbered p.inputs data.utf8 } := by
      rw [enter_of_some hws]
      simp [FreshTable.get_modify_self, hsocket]
    have hws' : (p.enter data.utf8).ws = some i := by
      rw [enter_of_some hws]
      exact hws
    -- the input is entered and its first bytes go out
    have hsockets : ∀ j s', ((p.enter data.utf8).send p.inputs (data.utf8.take 64)).sockets.get j =
        some s' ↔ j = i ∧ { s with
          sent := s.sent ++ numbered p.inputs (data.utf8.take 64)
          entered := s.entered ++ numbered p.inputs data.utf8 } = s' ∨
            j ≠ i ∧ p.sockets.get j = some s' := by
      intro j s'
      have hother : j ≠ i → (p.enter data.utf8).sockets.get j = p.sockets.get j := fun hne => by
        rw [enter_of_some hws]
        exact FreshTable.get_modify_of_ne hne
      rw [send_of_some hws', FreshTable.get_modify_eq_some]
      simp only [hentered, Option.some.injEq, exists_eq_left']
      exact or_congr_right (and_congr_right fun hne => by rw [hother hne])
    have hsent : p.Sends ((p.enter data.utf8).send p.inputs (data.utf8.take 64)) i s p.inputs
        data.utf8 (data.utf8.take 64) [] := by
      refine ⟨hws, hsocket, hopen, ?_, ?_, fun _ => rfl, ?_, ?_, ?_, hsockets, .inl ⟨?_, rfl⟩⟩ <;>
        rw [send_of_some hws', enter_of_some hws]
      · exact Nat.lt_succ_self _
      · exact Nat.le_succ _
      · rfl
    split
    next hshort =>
      rw [List.take_of_length_le hshort, List.drop_eq_nil_of_le hshort] at *
      exact hsent
    next hlong =>
      have hleft : (⟨p.inputs, i, data.utf8, 0⟩ : Chunks).left ≠ [] := by
        unfold Chunks.left numbered
        simp only [List.drop_zero, ne_eq, List.map_eq_nil_iff]
        rintro hnil
        simp [hnil] at hlong
      rw [sendChunk_of_open hws' hentered hopen hleft]
      have htimers : (((p.enter data.utf8).send p.inputs (data.utf8.take 64)).setTimeout
          (.sendChunk ⟨p.inputs, i, data.utf8, 64⟩)).timers =
            p.timers.insert (.sendChunk ⟨p.inputs, i, data.utf8, 64⟩) := by
        rw [send_of_some hws', enter_of_some hws]
        rfl
      exact { hsent with
        timers := .inr ⟨⟨p.inputs, i, data.utf8, 64⟩, htimers, rfl, rfl, rfl⟩ }

/-! ## Steps -/

/-- The paste that goes on. -/
theorem Ordered.resume (h : p.Ordered) {i t : ℕ} {s : PageSocket} {c : Chunks} (hws : p.ws = some i)
    (hsocket : p.sockets.get i = some s) (hopen : s.readyState = .open) (hc : p.Pending i t c) :
    (sendChunk { p with timers := p.timers.erase t } c).Ordered := by
  have hflows := h.flows i s hws hsocket (by simp [PageSocket.live, hopen])
  have hsends : ({ p with timers := p.timers.erase t } : Page).Sends _ i s c.input [] _ _ :=
    sends_sendChunk hws hsocket hopen hc.left (h.input t c hc.timer) hc.socket
  refine (h.toFiled.erase t).sends hsends (fun j s' b hs' hb => ?_) ?_
  · exact hc.socket.symm.trans (h.owner t c j s' b hc.timer hs' hb)
  · -- no other paste is pending on the socket
    have honly : ∀ t' c', (sendChunk { p with timers := p.timers.erase t } c).Pending i t' c' →
        t' = p.timers.next ∧ c'.left = ({ c with i := c.i + 64 } : Chunks).left := by
      intro t' c' hc'
      rcases hsends.get_timer hc'.timer with hold | ⟨hnew, -, -, hleft⟩
      · obtain ⟨hne, hold⟩ := FreshTable.get_erase_eq_some.mp hold
        exact absurd (hflows.unique t' t c' c ⟨hold, hc'.socket, hc'.left⟩ hc) hne
      · exact ⟨hnew, hleft⟩
    have hbusy := hflows.busy t c hc
    rw [Chunks.left_eq, ← List.append_assoc] at hbusy
    refine ⟨fun t₁ t₂ c₁ c₂ h₁ h₂ => (honly t₁ c₁ h₁).1.trans (honly t₂ c₂ h₂).1.symm,
      fun hnone => ?_, fun t' c' hc' => ?_⟩
    · have hdone : ({ c with i := c.i + 64 } : Chunks).left = [] :=
        congrArg (numbered c.input) (hsends.rest_eq hnone)
      simpa [hdone, numbered] using hbusy
    · rw [(honly t' c' hc').2]
      simpa [numbered] using hbusy

/-- An input that does not overtake. -/
theorem Ordered.onData (h : p.Ordered) {data : JsString} (hno : ¬p.Misplaces (.input data)) :
    (p.onData data).Ordered := by
  by_cases hcurrent : ∃ i s, p.ws = some i ∧ p.sockets.get i = some s ∧ s.readyState = .open
  · obtain ⟨i, s, hws, hsocket, hopen⟩ := hcurrent
    have hflows := h.flows i s hws hsocket (by simp [PageSocket.live, hopen])
    have hsends := sends_onData hws hsocket hopen data
    refine h.toFiled.sends hsends (fun j s' b hs' hb => ?_) ?_
    · exact absurd (h.entered j s' _ hs' hb) (lt_irrefl _)
    · by_cases hpending : ∃ t c, p.Pending i t c
      · -- an empty input
        obtain ⟨t, c, hc⟩ := hpending
        have hempty : data.utf8 = [] := by
          by_contra hne
          exact hno (.overtakes hws hsocket hopen hc hne)
        have hsame : ∀ t c, (p.onData data).Pending i t c ↔ p.Pending i t c := by
          refine fun t c => ⟨fun hc => ⟨?_, hc.socket, hc.left⟩,
            fun hc => ⟨hsends.keeps_timer hc.timer, hc.socket, hc.left⟩⟩
          rcases hsends.get_timer hc.timer with hold | ⟨-, -, -, hleft⟩
          · exact hold
          · rw [hempty] at hleft
            exact absurd hleft hc.left
        exact hflows.congr hsame (by simp [hempty, numbered]) (by simp [hempty, numbered])
      · have hnone : ∀ t c, ¬p.Pending i t c := fun t c hc => hpending ⟨t, c, hc⟩
        have hidle := hflows.idle hnone
        have honly : ∀ t c, (p.onData data).Pending i t c →
            t = p.timers.next ∧ c.left = numbered p.inputs (data.utf8.drop 64) := by
          intro t c hc
          rcases hsends.get_timer hc.timer with hold | ⟨hnew, -, -, hleft⟩
          · exact absurd ⟨hold, hc.socket, hc.left⟩ (hnone t c)
          · exact ⟨hnew, hleft⟩
        have hall : numbered p.inputs (data.utf8.take 64) ++ numbered p.inputs (data.utf8.drop 64) =
            numbered p.inputs data.utf8 := by
          rw [← numbered_append, List.take_append_drop]
        refine ⟨fun t₁ t₂ c₁ c₂ h₁ h₂ => (honly t₁ c₁ h₁).1.trans (honly t₂ c₂ h₂).1.symm,
          fun hdone => ?_, fun t c hc => ?_⟩
        · rw [hsends.rest_eq hdone] at hall
          rw [← hall, hidle]
          simp [numbered]
        · rw [(honly t c hc).2, List.append_assoc, hall, hidle]
  · have hsame : p.onData data = p := by
      unfold Page.onData
      split
      next => rfl
      next i hws =>
        refine if_neg fun hopen => hcurrent ?_
        obtain ⟨s, hs, hopen⟩ := Option.map_eq_some_iff.mp hopen
        rw [current, hws] at hs
        exact ⟨i, s, hws, hs, hopen⟩
    rwa [hsame]

/-- A paste whose bytes a closed socket has dropped goes on. -/
theorem Filed.setTimeout_chunk (h : p.Filed) {c : Chunks} (hsocket : c.socket < p.sockets.next)
    (hinput : c.input < p.inputs) (howner : ∀ i s b, p.sockets.get i = some s →
      (c.input, b) ∈ s.entered → c.socket = i) : (p.setTimeout (.sendChunk c)).Filed := by
  have hget : ∀ t c', (p.timers.insert (.sendChunk c)).get t = some (.sendChunk c') →
      t = p.timers.next ∧ c = c' ∨ p.timers.get t = some (.sendChunk c') := by
    intro t c' hc'
    rcases FreshTable.get_insert_eq_some.mp hc' with ⟨ht, hc'⟩ | hc'
    · exact .inl ⟨ht, PageTimer.sendChunk.inj hc'⟩
    · exact .inr hc'
  refine ⟨h.inOrder, h.connecting, h.entered, fun t ht => ?_, fun t c' hc' => ?_,
    fun t c' hc' => ?_, fun t c' i s b hc' => ?_⟩
  · obtain ⟨hlt, hnot⟩ := h.handle t ht
    refine ⟨Nat.lt_succ_of_lt hlt, fun c' hc' => ?_⟩
    rcases hget t c' hc' with ⟨hnew, -⟩ | hold
    · exact absurd hnew (Nat.ne_of_lt hlt)
    · exact hnot c' hold
  · rcases hget t c' hc' with ⟨-, rfl⟩ | hold
    · exact hsocket
    · exact h.socket t c' hold
  · rcases hget t c' hc' with ⟨-, rfl⟩ | hold
    · exact hinput
    · exact h.input t c' hold
  · rcases hget t c' hc' with ⟨-, rfl⟩ | hold
    · exact howner i s b
    · exact h.owner t c' i s b hold

/-- A timer of a paste that does not stray. -/
theorem Ordered.fired (h : p.Ordered) {t : ℕ} {c : Chunks}
    (htimer : p.timers.get t = some (.sendChunk c)) (hno : ¬p.Misplaces (.fire t)) :
    (sendChunk { p with timers := p.timers.erase t } c).Ordered := by
  by_cases hleft : c.left = []
  · -- the last call of a paste finds nothing to send
    have herased := h.erase (t := t) fun i s c' _ _ _ hc' => hc'.left (by
      obtain rfl := PageTimer.sendChunk.inj (Option.some.inj (htimer.symm.trans hc'.timer))
      exact hleft)
    have hend : c.encoded.length ≤ c.i := by
      simpa [Chunks.left, numbered] using hleft
    unfold sendChunk
    rwa [if_pos hend]
  · by_cases hcurrent : ∃ i s, p.ws = some i ∧ p.sockets.get i = some s ∧ s.readyState = .open
    · obtain ⟨i, s, hws, hsocket, hopen⟩ := hcurrent
      refine h.resume hws hsocket hopen ⟨htimer, ?_, hleft⟩
      by_contra hne
      exact hno (.strays hws hsocket hopen ⟨htimer, rfl, hleft⟩ hne)
    · -- nothing is pending on a socket that is still connecting
      have herased : ({ p with timers := p.timers.erase t } : Page).Ordered := by
        refine h.erase fun i s c' hws hs hlive hc' => ?_
        have hstate : s.readyState = .connecting := by
          simp only [PageSocket.live, Bool.or_eq_true, decide_eq_true_eq] at hlive
          exact hlive.resolve_right fun hopen => hcurrent ⟨i, s, hws, hs, hopen⟩
        have hbusy := (h.flows i s hws hs hlive).busy t c' hc'
        rw [h.connecting i s hs hstate] at hbusy
        exact hc'.left (List.append_eq_nil_iff.mp hbusy).2
      have hdropped : ∀ state, ({ p with timers := p.timers.erase t } : Page).current.map
          PageSocket.readyState = some state → state = .closing ∨ state = .closed →
            (Page.setTimeout { p with timers := p.timers.erase t }
              (.sendChunk { c with i := c.i + 64 })).Ordered := by
        intro state hstate hdead
        obtain ⟨s, hs, rfl⟩ := Option.map_eq_some_iff.mp hstate
        obtain ⟨i, hws, hs⟩ := Option.bind_eq_some_iff.mp hs
        refine ⟨herased.toFiled.setTimeout_chunk (h.socket t c htimer) (h.input t c htimer)
          fun j s' b => h.owner t c j s' b htimer, fun j s' hj hs' hlive => ?_⟩
        obtain rfl := Option.some.inj (hws.symm.trans hj)
        obtain rfl := Option.some.inj (hs.symm.trans hs')
        rcases hdead with hdead | hdead <;> simp [PageSocket.live, hdead] at hlive
      unfold sendChunk
      split
      · exact herased
      · dsimp only
        split
        · exact herased
        · exact herased
        next hopen =>
          obtain ⟨s, hs, hopen⟩ := Option.map_eq_some_iff.mp hopen
          obtain ⟨i, hws, hs⟩ := Option.bind_eq_some_iff.mp hs
          exact absurd ⟨i, s, hws, hs, hopen⟩ hcurrent
        next hclosing => exact hdropped _ hclosing (.inl rfl)
        next hclosed => exact hdropped _ hclosed (.inr rfl)

theorem Ordered.setReadyState (h : p.Ordered) {i : ℕ} {state : ReadyState}
    (hnew : state ≠ .connecting) (hstate : ∀ s, p.sockets.get i = some s →
      ({ s with readyState := state } : PageSocket).live = true → s.live = true) :
    (p.setReadyState i state).Ordered :=
  h.modify fun s hs => ⟨rfl, rfl, hstate s hs, fun hconnecting => absurd hconnecting hnew⟩

/-- A step that does not misplace a byte. -/
theorem Ordered.step (h : p.Ordered) {a : PageAction} (hno : ¬p.Misplaces a)
    (hstep : p.Stepped a q) : q.Ordered := by
  cases hstep with
  | terminalLoaded =>
      have hloaded : ({ p with term := true } : Page).Ordered := h.of_eq rfl rfl rfl rfl rfl
      unfold initTerminal
      split
      · exact h
      · dsimp only
        split
        · exact hloaded.connectWs
        · exact hloaded
  | input => exact h.onData hno
  | @selectPort port =>
      -- the old socket is detached before the new one is made
      have hport : ({ p with currentPort := port } : Page).Ordered := h.of_eq rfl rfl rfl rfl rfl
      unfold Page.selectPort
      split
      · exact h
      · exact (hport.onWs PageSocket.calmer_detach).connectWs
  | submitLogin => exact h.api _
  | clickLogout => exact h.api _
  | savePassword => exact h.api _
  | @opened i s hsocket hstate =>
      have hopen : (p.setReadyState i .open).Ordered :=
        h.setReadyState (by simp) fun s' hs' _ => by
          obtain rfl := Option.some.inj (hsocket.symm.trans hs')
          simp [PageSocket.live, hstate]
      exact hopen.of_eq rfl rfl rfl rfl rfl
  | failed => exact h
  | closing =>
      exact h.setReadyState (by simp) fun s' _ hlive => by simp [PageSocket.live] at hlive
  | @lost i =>
      have hclosed : (p.setReadyState i .closed).Ordered :=
        h.setReadyState (by simp) fun s' _ hlive => by simp [PageSocket.live] at hlive
      exact hclosed.scheduleReconnect
  | closed =>
      exact h.setReadyState (by simp) fun s' _ hlive => by simp [PageSocket.live] at hlive
  | @answered k answer request =>
      have herased : ({ p with requests := p.requests.erase k } : Page).Ordered :=
        h.of_eq rfl rfl rfl rfl rfl
      exact herased.answered answer request
  | @fired t timer htimer =>
      -- a timer that is no paste owes no byte
      have hother : (∀ c, timer ≠ .sendChunk c) →
          ({ p with timers := p.timers.erase t } : Page).Ordered := fun hne =>
        h.erase fun i s c _ _ _ hc =>
          hne c (Option.some.inj (htimer.symm.trans hc.timer))
      cases timer with
      | scheduleReconnect delay => exact (hother (by simp)).scheduleReconnect
      | sendChunk c => exact h.fired htimer hno
      | loggedOut => exact (hother (by simp)).endSession

/-- A step that does. -/
theorem Ordered.misplaces (h : p.Ordered) {a : PageAction} (hm : p.Misplaces a)
    (hstep : p.Stepped a q) : ¬q.KeepsOrder := by
  intro horder
  cases hm with
  | @overtakes data i t s c hws hsocket hopen hc hdata =>
      cases hstep
      have hsends := sends_onData hws hsocket hopen data
      have hflows := h.flows i s hws hsocket (by simp [PageSocket.live, hopen])
      have hprefix := horder.inOrder i _ ((hsends.sockets i _).mpr (.inl ⟨rfl, rfl⟩))
      have hbusy := hflows.busy t c hc
      simp only [← hbusy, List.append_assoc] at hprefix
      have hnext := (List.prefix_append_right_inj _).mp hprefix
      -- the byte that is due belongs to the paste
      obtain ⟨b, rest, hbytes⟩ := List.exists_cons_of_ne_nil
        (show data.utf8.take 64 ≠ [] by simpa using hdata)
      obtain ⟨x, left, hleft⟩ := List.exists_cons_of_ne_nil hc.left
      rw [hbytes, hleft] at hnext
      obtain ⟨heq, -⟩ := List.cons_prefix_cons.mp hnext
      have hx : x.1 = c.input :=
        mem_numbered (show x ∈ c.left by rw [hleft]; exact List.mem_cons_self)
      have hlt := h.input t c hc.timer
      rw [← hx, ← heq] at hlt
      exact lt_irrefl _ hlt
  | @strays i t s c hws hsocket hopen hc hother =>
      cases hstep with
      | fired htimer =>
          obtain rfl := Option.some.inj (hc.timer.symm.trans htimer)
          have hsent : (sendChunk { p with timers := p.timers.erase t } c).sockets.get i =
              some { s with
                sent := s.sent ++ numbered c.input ((c.encoded.drop c.i).take 64) } :=
            get_sendChunk hws hsocket hopen hc.left
          have hprefix := horder.inOrder i _ hsent
          have hbytes : c.encoded.drop c.i ≠ [] := fun hnil => hc.left (by
            unfold Chunks.left
            rw [hnil]
            rfl)
          obtain ⟨b, rest, hfirst⟩ := List.exists_cons_of_ne_nil
            (show (c.encoded.drop c.i).take 64 ≠ [] by simpa using hbytes)
          -- the byte was entered on another socket
          have hmem : (c.input, b) ∈ s.entered := hprefix.subset (by simp [hfirst, numbered])
          exact hother (h.owner t c i s b hc.timer hsocket hmem)

theorem ordered_loaded : loaded.Ordered := by
  refine ⟨⟨?inOrder, ?connecting, ?entered, ?handle, ?socket, ?input, ?owner⟩, ?flows⟩
  case inOrder | connecting | entered | handle | socket | input | owner =>
    intros
    simp_all [loaded]
  case flows =>
    intro i s hws
    cases hws

end

end Page

/-- **Input is sent in its order until a byte is misplaced.**  In every run of the page
what is sent on each socket is in every state a beginning of what was entered while the
page was sending on it, and all of it once no paste is pending, exactly if no step of the
run enters an input beside a paste that has bytes left on the same socket, or goes on with
a paste on another socket. -/
theorem page_keeps_order_iff {p : Page} {as : List PageAction} {es : List Empty}
    (hrun : pageMachine.Run .loaded as es p) :
    (∀ q, pageMachine.Visits .loaded as q → q.KeepsOrder) ↔
      ∀ q a, pageMachine.Takes .loaded as q a → ¬q.Misplaces a := by
  refine hrun.visits_iff_of (Q := fun _ _ => True) (fun _ _ _ => trivial) Page.ordered_loaded
    (fun _ hq => hq.keepsOrder) fun q a q' es _ hq hstep => ⟨fun hno => ?_, fun horder hm => ?_⟩
  · exact hq.step hno (pageMachine_step hstep)
  · exact hq.misplaces hm (pageMachine_step hstep) horder

/-- Seventy characters pasted into a fresh terminal. -/
def pastedPage : List PageAction := resumedPage ++ [.input (List.replicate 70 97), .fire 0]

/-- The paste is sent in two parts. -/
theorem page_keeps_order_iff_pasted : ∃ p es,
    pageMachine.Run .loaded pastedPage es p ∧
      ((∀ q, pageMachine.Visits .loaded pastedPage q → q.KeepsOrder) ↔
        ∀ q a, pageMachine.Takes .loaded pastedPage q a → ¬q.Misplaces a) := by
  obtain ⟨p, es, hrun, -⟩ := Machine.Run.exists_of_exec (p := fun _ _ => true)
    (show (pageMachine.exec .loaded pastedPage).any _ = true by decide +kernel)
  exact ⟨p, es, hrun, page_keeps_order_iff hrun⟩

/-- A key that is pressed before the second part of a paste goes out is sent before it. -/
theorem page_sends_key_inside_paste :
    ¬∀ (p : Page) (as : List PageAction) (es : List Empty),
      pageMachine.Run .loaded as es p → p.KeepsOrder := by
  intro hall
  obtain ⟨p, es, hrun, hsent⟩ := Machine.Run.exists_of_exec
    (p := fun p _ => (p.sockets.get 0).any fun s => !decide (s.sent <+: s.entered))
    (show (pageMachine.exec .loaded (resumedPage ++
      [.input (List.replicate 65 97), .input [98]])).any _ = true by decide +kernel)
  obtain ⟨s, hs, hnot⟩ := (Option.any_eq_true _ _).mp hsent
  exact absurd ((hall p _ es hrun).inOrder 0 s hs) (by simpa using hnot)

end WebTerminal
