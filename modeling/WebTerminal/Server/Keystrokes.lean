import WebTerminal.Page.Paste
import WebTerminal.Page.Records
import WebTerminal.Server.Desk

/-!
# From the keys to the serial port

What is typed on the page is handed to `serial_port_send` of the device, byte for byte:
the page sends what was entered in its order, the connection keeps that order, and the
device hands on every frame it accepts as a whole.
-/

set_option autoImplicit false

namespace WebTerminal

/-! ## Connections of the page -/

/-- The connection is open, and whoever the device knows on it is there for the port of the
socket. -/
structure Desk.Wired (pf : Platform) (s : Desk) (fd : ℤ) (wire : Wire) (socket : PageSocket) :
    Prop where
  handshaken : s.server.conns fd = .handshaken
  isSocket : s.page.sockets.get wire.socket = some socket
  entries : ∀ k e, (s.server.system.device.clients k).entry = some e → e.fd = fd →
    e.portIndex = pf.portOf socket.port

/-- Since the handshake, the first `wire.taken` bytes the page sent were handed on, to the port
of the socket. -/
structure Desk.Handed (pf : Platform) (s : Desk) (fd : ℤ) (wire : Wire) (socket : PageSocket)
    (es : List DeskEvent) : Prop where
  isWire : s.wires fd = some wire
  isSocket : s.page.sockets.get wire.socket = some socket
  taken : wire.taken ≤ socket.sent.length
  bytes : handedOn fd es = (socket.sent.map Prod.snd).take wire.taken
  ports : ∀ port data, .device (.relayed fd port data) ∈ es → port = pf.portOf socket.port

/-- What holds after a run that showed `es`. -/
structure DeskInv (pf : Platform) (s₀ : HttpServer) (es : List DeskEvent) (s : Desk) : Prop where
  ran : ∃ as, (serverMachine pf).Run s₀ as (serverEvents es) s.server
  wired : ∀ fd wire, s.wires fd = some wire → ∃ socket, s.Wired pf fd wire socket
  handed : ∀ pre fd i post, es = pre ++ .joined fd i :: post → .left fd ∉ post →
    ∃ wire socket, wire.socket = i ∧ s.Handed pf fd wire socket post

section

variable {pf : Platform} {s t : Desk} {a : DeskAction} {es fs : List DeskEvent} {fd : ℤ}
  {wire wire' : Wire} {socket : PageSocket}

theorem Wire.next_eq (wire : Wire) (socket : PageSocket) (n : ℕ) :
    (socket.sent.map Prod.snd).take (wire.taken + (wire.next socket n).length) =
      (socket.sent.map Prod.snd).take wire.taken ++ wire.next socket n := by
  rw [List.take_add]
  congr 1
  exact (List.prefix_iff_eq_take.mp (List.take_prefix n _)).symm

theorem Wire.taken_next_le (wire : Wire) (socket : PageSocket) (n : ℕ)
    (h : wire.taken ≤ socket.sent.length) :
    wire.taken + (wire.next socket n).length ≤ socket.sent.length := by
  have hnext : (wire.next socket n).length ≤ socket.sent.length - wire.taken := by
    simp [Wire.next]
  omega

/-- A step of the page. -/
theorem Desk.Wired.page {q : Page} (h : s.Wired pf fd wire socket) (hstep : s.page.Extends q) :
    ∃ socket', ({ s with page := q } : Desk).Wired pf fd wire socket' := by
  obtain ⟨socket', hsocket', hcontinues⟩ := hstep _ _ h.isSocket
  refine ⟨socket', h.handshaken, hsocket', fun k e he hfd => ?_⟩
  rw [hcontinues.port]
  exact h.entries k e he hfd

/-- A step of the server that does not close the connection. -/
theorem Desk.Wired.server {s₀ v : HttpServer} {as : List ServerAction} {hs gs : List Event}
    {a : ServerAction} (h : s.Wired pf fd wire socket) (hsound : TableSound pf s₀ as hs s.server)
    (hstep : (serverMachine pf).step s.server a = some (v, gs)) (hopen : a.hangsUp ≠ some fd)
    (wires : ℤ → Option Wire) (dialled : List ℕ) (hsocket : wire'.socket = wire.socket) :
    (⟨s.page, v, wires, dialled⟩ : Desk).Wired pf fd wire' socket where
  handshaken := serverStep_handshaken hstep h.handshaken hopen
  isSocket := by
    rw [hsocket]
    exact h.isSocket
  entries k e he hfd := by
    rcases serverStep_entry hsound hstep he with hold | ⟨env, req, rfl, hroute, hreq, -⟩
    · exact h.entries k e hold hfd
    · -- there was no handshake on the connection before
      obtain ⟨hdispatched, -⟩ := serverStep_call hstep
      have hopened : s.server.conns req.fd = .opened := (if_pos hroute).mp hdispatched
      rw [← hreq, hfd, h.handshaken] at hopened
      cases hopened

/-- The handshake of a socket of the page. -/
theorem Desk.Wired.join {s₀ v : HttpServer} {as : List ServerAction} {hs gs : List Event}
    {env : Env} {req : Request} {i : ℕ} (hpf : ReadsSocketQueries pf)
    (hsound : TableSound pf s₀ as hs s.server) (hsocket : s.page.sockets.get i = some socket)
    (hroute : req.route = .ws) (hquery : req.query = some socket.query)
    (hstep : (serverMachine pf).step s.server (.call ⟨env, .request req⟩) = some (v, gs))
    (wires : ℤ → Option Wire) (dialled : List ℕ) :
    (⟨s.page, v, wires, dialled⟩ : Desk).Wired pf req.fd ⟨i, true, 0⟩ socket := by
  obtain ⟨hdispatched, -, hconns⟩ := serverStep_call hstep
  have hopened : s.server.conns req.fd = .opened := (if_pos hroute).mp hdispatched
  have hmarked : v.conns = Function.update s.server.conns req.fd .handshaken :=
    hconns.trans (if_pos hroute)
  refine ⟨by rw [hmarked, Function.update_self], hsocket, fun k e he hfd => ?_⟩
  rcases serverStep_entry hsound hstep he with hold | ⟨env', req', heq, -, -, hport⟩
  · have hhandshaken := hsound.handshaken k e hold
    rw [hfd, hopened] at hhandshaken
    cases hhandshaken
  · cases heq
    exact hport.trans (queryPort_of_socket hpf hquery)

/-- A connection after one of them changed. -/
theorem update_wire {wires : ℤ → Option Wire} {fd' : ℤ} {new : Wire}
    (h : Function.update wires fd' (some new) fd = some wire) :
    fd = fd' ∧ new = wire ∨ fd ≠ fd' ∧ wires fd = some wire := by
  by_cases hfd : fd = fd'
  · rw [hfd, Function.update_self] at h
    exact .inl ⟨hfd, Option.some.inj h⟩
  · rw [Function.update_of_ne hfd] at h
    exact .inr ⟨hfd, h⟩

/-- A step of the machine keeps every connection that is there after it. -/
theorem DeskCase.wired {s₀ : HttpServer} {as : List ServerAction} {hs : List Event}
    (h : DeskCase pf s a t fs) (hpf : ReadsSocketQueries pf)
    (hsound : TableSound pf s₀ as hs s.server)
    (hwired : ∀ fd wire, s.wires fd = some wire → ∃ socket, s.Wired pf fd wire socket) :
    ∀ fd wire, t.wires fd = some wire → ∃ socket, t.Wired pf fd wire socket := by
  intro fd wire hwire
  -- a step of the server that leaves the connection open
  have hkept : ∀ {a : ServerAction} {v gs wires dialled old},
      (serverMachine pf).step s.server a = some (v, gs) → a.hangsUp ≠ some fd →
      s.wires fd = some old → wire.socket = old.socket →
      ∃ socket, (⟨s.page, v, wires, dialled⟩ : Desk).Wired pf fd wire socket := by
    intro a v gs wires dialled old hstep hopen hold hsocket
    obtain ⟨socket, hwired⟩ := hwired fd old hold
    exact ⟨socket, hwired.server hsound hstep hopen wires dialled hsocket⟩
  cases h with
  | page hstep =>
      obtain ⟨socket, hsocket⟩ := hwired fd wire hwire
      exact hsocket.page hstep.extends
  | server hothers hstep =>
      obtain ⟨hopen, hold⟩ := hangUp_eq_some.mp hwire
      exact hkept hstep hopen hold rfl
  | @joined env req i socket v gs hsocket hroute hquery hstep =>
      rcases update_wire hwire with ⟨rfl, rfl⟩ | ⟨-, hold⟩
      · exact ⟨socket, .join hpf hsound hsocket hroute hquery hstep _ _⟩
      · exact hkept hstep (by simp [ServerAction.hangsUp]) hold rfl
  | turnedAway hstep => exact hkept hstep (by simp [ServerAction.hangsUp]) hwire rfl
  | took hold hsocket hnext hstep =>
      rcases update_wire hwire with ⟨rfl, rfl⟩ | ⟨-, hother⟩
      · exact hkept hstep (by simp [ServerAction.hangsUp]) hold rfl
      · exact hkept hstep (by simp [ServerAction.hangsUp]) hother rfl
  | refused hold hnext hstep =>
      rcases update_wire hwire with ⟨rfl, rfl⟩ | ⟨-, hother⟩
      · exact hkept hstep (by simp [ServerAction.hangsUp]) hold rfl
      · exact hkept hstep (by simp [ServerAction.hangsUp]) hother rfl

/-! ## Bytes on their way -/

/-- A step that hands nothing on from the connection. -/
theorem Desk.Handed.quiet (h : s.Handed pf fd wire socket es) (hpage : t.page = s.page)
    (hwire : t.wires fd = some wire') (hsocket : wire'.socket = wire.socket)
    (htaken : wire'.taken = wire.taken)
    (hquiet : ∀ port data, .device (.relayed fd port data) ∉ fs) :
    t.Handed pf fd wire' socket (es ++ fs) where
  isWire := hwire
  isSocket := by
    rw [hpage, hsocket]
    exact h.isSocket
  taken := by
    rw [htaken]
    exact h.taken
  bytes := by
    rw [handedOn_append, handedOn_eq_nil hquiet, List.append_nil, htaken]
    exact h.bytes
  ports port data hmem := by
    rcases List.mem_append.mp hmem with hmem | hmem
    · exact h.ports port data hmem
    · exact absurd hmem (hquiet port data)

/-- A step of the page sends more at most. -/
theorem Desk.Handed.page {q : Page} (h : s.Handed pf fd wire socket es) (hstep : s.page.Extends q) :
    ∃ socket', ({ s with page := q } : Desk).Handed pf fd wire socket' es := by
  obtain ⟨socket', hsocket', hcontinues⟩ := hstep _ _ h.isSocket
  obtain ⟨more, hmore⟩ := hcontinues.sent
  refine ⟨socket', h.isWire, hsocket', ?_, ?_, ?_⟩
  · exact h.taken.trans hcontinues.sent.length_le
  · calc handedOn fd es
        = (socket.sent.map Prod.snd).take wire.taken := h.bytes
      _ = (socket'.sent.map Prod.snd).take wire.taken := by
          rw [← hmore, List.map_append, List.take_append_of_le_length (by simpa using h.taken)]
  · rw [hcontinues.port]
    exact h.ports

/-- The events of a step that is no frame of the connection. -/
theorem not_relayed {v v' : HttpServer} {a : ServerAction} {gs : List Event}
    (hstep : (serverMachine pf).step v a = some (v', gs)) (hother : a.typesOn ≠ some fd)
    {more : List DeskEvent} (hmore : ∀ e, .device e ∉ more) (port : ℤ) (data : List UInt8) :
    .device (.relayed fd port data) ∉ gs.map .device ++ more := by
  intro hmem
  rcases List.mem_append.mp hmem with hmem | hmem
  · obtain ⟨e, he, heq⟩ := List.mem_map.mp hmem
    obtain rfl := DeskEvent.device.inj heq
    exact hother (serverStep_relayed hstep he)
  · exact hmore _ hmem

/-- A step hands on what is next on the connection, or nothing. -/
theorem DeskCase.handed (h : DeskCase pf s a t fs)
    (hwired : ∀ fd wire, s.wires fd = some wire → ∃ socket, s.Wired pf fd wire socket)
    (hs : s.Handed pf fd wire socket es) (hstay : .left fd ∉ fs) :
    ∃ wire' socket', wire'.socket = wire.socket ∧ t.Handed pf fd wire' socket' (es ++ fs) := by
  obtain ⟨socket₁, hopen⟩ := hwired fd wire hs.isWire
  cases h with
  | page hstep =>
      -- the page adds to its socket at the end, and the device stands still
      obtain ⟨socket', hsocket'⟩ := hs.page hstep.extends
      rw [List.append_nil]
      exact ⟨wire, socket', rfl, hsocket'⟩
  | @server a v gs hothers hstep =>
      -- a call that hung up this wire would show that it is left
      have hkept : hangUp s.wires a.hangsUp fd = some wire :=
        hangUp_eq_some.mpr ⟨fun hclosed => hstay (by simp [hclosed]), hs.isWire⟩
      refine ⟨wire, socket, rfl, hs.quiet rfl hkept rfl rfl (not_relayed hstep ?_ ?_)⟩
      · intro hfd
        cases (hothers fd hfd).symm.trans hs.isWire
      · simp
  | @joined env req i _ v gs hsocket hroute hquery hstep =>
      -- a handshake needs a connection without one, so it is on another connection
      obtain ⟨hdispatched, -⟩ := serverStep_call hstep
      have hopened : s.server.conns req.fd = .opened := (if_pos hroute).mp hdispatched
      have hne : fd ≠ req.fd := by
        rintro rfl
        cases hopen.handshaken.symm.trans hopened
      have hkept := (Function.update_of_ne hne (some (⟨i, true, 0⟩ : Wire)) s.wires).trans hs.isWire
      refine ⟨wire, socket, rfl, hs.quiet rfl hkept rfl rfl
        (not_relayed hstep (by simp [ServerAction.typesOn]) (by simp))⟩
  | turnedAway hstep =>
      rw [← List.append_nil (List.map _ _)]
      exact ⟨wire, socket, rfl, hs.quiet rfl hs.isWire rfl rfl
        (not_relayed hstep (by simp [ServerAction.typesOn]) (by simp))⟩
  | @took env fd' n old socket' v gs hold hsocket hnext hstep haccepted =>
      by_cases hfd : fd' = fd
      · subst hfd
        obtain rfl := Option.some.inj (hs.isWire.symm.trans hold)
        obtain rfl := Option.some.inj (hs.isSocket.symm.trans hsocket)
        rcases serverStep_frame hnext hstep with ⟨k, hfind, -, hbytes, hports⟩ | ⟨hnot, -⟩
        swap
        · exact absurd haccepted hnot
        -- the client of the connection is there for the port the socket was opened for
        obtain ⟨hactive, hclient⟩ := findFd_spec hfind
        have hport : (s.server.system.device.clients k).portIndex = pf.portOf socket₁.port :=
          hopen.entries k _ (WsClient.entry_of_active hactive) hclient
        obtain rfl := Option.some.inj (hopen.isSocket.symm.trans hs.isSocket)
        -- what the frame carries is what comes next on the socket
        refine ⟨{ wire with taken := wire.taken + (wire.next socket₁ n).length }, socket₁, rfl,
          Function.update_self .., hs.isSocket, ?_, ?_, ?_⟩
        · exact wire.taken_next_le socket₁ n hs.taken
        · calc handedOn fd' (es ++ gs.map .device)
              = (socket₁.sent.map Prod.snd).take wire.taken ++ wire.next socket₁ n := by
                rw [handedOn_append, hs.bytes, hbytes]
            _ = _ := (wire.next_eq socket₁ n).symm
        · intro port data hmem
          rcases List.mem_append.mp hmem with hmem | hmem
          · exact hs.ports port data hmem
          · obtain ⟨e, he, heq⟩ := List.mem_map.mp hmem
            obtain rfl := DeskEvent.device.inj heq
            exact (hports port data he).trans hport
      · -- a frame of another connection
        have hkept := (Function.update_of_ne (Ne.symm hfd) (some { old with
          taken := old.taken + (old.next socket' n).length }) s.wires).trans hs.isWire
        rw [← List.append_nil (List.map _ _)]
        refine ⟨wire, socket, rfl, hs.quiet rfl hkept rfl rfl (not_relayed hstep ?_ (by simp))⟩
        exact fun heq => hfd (Option.some.inj heq)
  | @refused env fd' n old socket' v gs hold hnext hstep hrefused =>
      by_cases hfd : fd' = fd
      · subst hfd
        obtain rfl := Option.some.inj (hs.isWire.symm.trans hold)
        rcases serverStep_frame hnext hstep with ⟨_, _, haccepted, -⟩ | ⟨-, hquiet⟩
        · exact absurd haccepted hrefused
        -- nothing is handed on, and the wire ends here
        refine ⟨{ wire with up := false }, socket, rfl,
          hs.quiet rfl (Function.update_self ..) rfl rfl fun port data hmem => ?_⟩
        obtain ⟨e, he, heq⟩ := List.mem_map.mp hmem
        obtain rfl := DeskEvent.device.inj heq
        exact hquiet port data he
      · have hkept := (Function.update_of_ne (Ne.symm hfd) (some { old with up := false })
          s.wires).trans hs.isWire
        rw [← List.append_nil (List.map _ _)]
        refine ⟨wire, socket, rfl, hs.quiet rfl hkept rfl rfl (not_relayed hstep ?_ (by simp))⟩
        exact fun heq => hfd (Option.some.inj heq)

/-- A connection starts with nothing handed on. -/
theorem DeskCase.joins (h : DeskCase pf s a t fs) {pre post : List DeskEvent} {i : ℕ}
    (hfs : fs = pre ++ .joined fd i :: post) :
    ∃ wire socket, wire.socket = i ∧ t.Handed pf fd wire socket post := by
  have hnone : ∀ {gs : List Event} {more : List DeskEvent}, (∀ fd i, .joined fd i ∉ more) →
      gs.map .device ++ more ≠ pre ++ .joined fd i :: post := by
    intro gs more hmore heq
    have hmem : .joined fd i ∈ gs.map DeskEvent.device ++ more := by
      rw [heq]
      simp
    rcases List.mem_append.mp hmem with hmem | hmem
    · simp at hmem
    · exact hmore fd i hmem
  cases h with
  | page => simp at hfs
  | server => exact absurd hfs (hnone (by simp))
  | @joined env req j socket v gs hsocket hroute hquery hstep =>
      -- the handshake is the last event of its step
      have hpost : post = [] ∧ fd = req.fd ∧ i = j := by
        rcases List.append_eq_append_iff.mp hfs with ⟨mid, hmid, hlast⟩ | ⟨mid, hmid, hlast⟩
        · cases mid with
          | nil => simp_all
          | cons e mid => simp at hlast
        · cases mid with
          | nil => simp_all
          | cons e mid =>
              have hmem : .joined fd i ∈ gs.map DeskEvent.device := by
                obtain ⟨rfl, -⟩ := List.cons.inj hlast
                rw [hmid]
                simp
              simp at hmem
      obtain ⟨rfl, rfl, rfl⟩ := hpost
      refine ⟨⟨i, true, 0⟩, socket, rfl, Function.update_self .., hsocket, Nat.zero_le _, rfl, ?_⟩
      simp
  | turnedAway =>
      rw [← List.append_nil (List.map _ _)] at hfs
      exact absurd hfs (hnone (by simp))
  | took =>
      rw [← List.append_nil (List.map _ _)] at hfs
      exact absurd hfs (hnone (by simp))
  | refused =>
      rw [← List.append_nil (List.map _ _)] at hfs
      exact absurd hfs (hnone (by simp))

/-! ## Runs -/

theorem DeskInv.init (hs : s.Init) : DeskInv pf s.server [] s where
  ran := ⟨[], .nil⟩
  wired fd wire hwire := by
    rw [hs.wires] at hwire
    cases hwire
  handed pre fd i post heq := by simp at heq

/-- The device runs in every step. -/
theorem DeskCase.ran (h : DeskCase pf s a t fs) : t.server = s.server ∧ serverEvents fs = [] ∨
    ∃ b, (serverMachine pf).step s.server b = some (t.server, serverEvents fs) := by
  cases h with
  | page => exact .inl ⟨rfl, rfl⟩
  | @server a v gs hothers hstep =>
      have hleft : serverEvents (a.hangsUp.toList.map .left) = [] := by
        cases a.hangsUp <;> rfl
      refine .inr ⟨a, ?_⟩
      rw [serverEvents_append, serverEvents_device, hleft, List.append_nil]
      exact hstep
  | @joined env req i _ v gs hsocket hroute hquery hstep =>
      have hjoined : serverEvents [.joined req.fd i] = [] := rfl
      refine .inr ⟨.call ⟨env, .request req⟩, ?_⟩
      rw [serverEvents_append, serverEvents_device, hjoined, List.append_nil]
      exact hstep
  | turnedAway hstep => exact .inr ⟨_, by rw [serverEvents_device]; exact hstep⟩
  | took hwire hsocket hnext hstep => exact .inr ⟨_, by rw [serverEvents_device]; exact hstep⟩
  | refused hwire hnext hstep => exact .inr ⟨_, by rw [serverEvents_device]; exact hstep⟩

theorem DeskInv.step {s₀ : HttpServer} (h : DeskInv pf s₀ es s) (hpf : ReadsSocketQueries pf)
    (hinit : s₀.Init) (hstep : (deskMachine pf).step s a = some (t, fs)) :
    DeskInv pf s₀ (es ++ fs) t := by
  have hcase := deskStep_cases hstep
  obtain ⟨as, hrun⟩ := h.ran
  have hsound := TableSound.run hinit hrun
  refine ⟨?_, hcase.wired hpf hsound h.wired, fun pre fd i post heq hleft => ?_⟩
  · rw [serverEvents_append]
    rcases hcase.ran with ⟨hserver, hnothing⟩ | ⟨b, hserver⟩
    · rw [hserver, hnothing, List.append_nil]
      exact ⟨as, hrun⟩
    · exact ⟨as ++ [b], hrun.snoc hserver⟩
  · -- the handshake was in this step, or it was before it
    rcases List.append_eq_append_iff.mp heq with ⟨mid, -, hfs⟩ | ⟨mid, hes, hpost⟩
    · exact hcase.joins hfs
    · cases mid with
      | nil =>
          have hfs : fs = [] ++ .joined fd i :: post := hpost.symm
          exact hcase.joins hfs
      | cons e mid =>
          rw [List.cons_append] at hpost
          obtain ⟨rfl, rfl⟩ := List.cons.inj hpost
          have hleft' : .left fd ∉ mid ∧ .left fd ∉ fs :=
            ⟨fun hmem => hleft (List.mem_append_left _ hmem),
              fun hmem => hleft (List.mem_append_right _ hmem)⟩
          obtain ⟨wire, socket, rfl, hhanded⟩ := h.handed pre fd i mid hes hleft'.1
          exact hcase.handed h.wired hhanded hleft'.2

/-- **What is typed reaches the port.**  Take any run of the page and the device together in
which no step of the page misplaces a byte.  From the handshake of a socket of the page on, as
long as the connection is not closed, the bytes handed to `serial_port_send` from it are the
first bytes that were entered on the socket: in order, none left out and none twice, whatever
the connection was cut into, and all for the port the socket was opened for. -/
theorem keys_reach_port {as : List DeskAction} {pre post : List DeskEvent} {i : ℕ}
    (hpf : ReadsSocketQueries pf) (hinit : s.Init) (hrun : (deskMachine pf).Run s as es t)
    (hkept : ∀ u a, (deskMachine pf).Takes s as u (.page a) → ¬u.page.Misplaces a)
    (hes : es = pre ++ .joined fd i :: post) (hopen : .left fd ∉ post) :
    ∃ wire socket, wire.socket = i ∧ t.wires fd = some wire ∧
      t.page.sockets.get i = some socket ∧ wire.taken ≤ socket.sent.length ∧
      handedOn fd post = (socket.entered.map Prod.snd).take wire.taken ∧
      ∀ port data, .device (.relayed fd port data) ∈ post → port = pf.portOf socket.port := by
  obtain ⟨hinv, hordered⟩ : DeskInv pf s.server es t ∧ t.page.Ordered := by
    refine hrun.history_taking (P := fun _ => True) (I := fun es u => DeskInv pf s.server es u ∧
      u.page.Ordered) (Q := fun u a => ∀ b, a = .page b → ¬u.page.Misplaces b) (fun _ _ h => h)
      (fun u a htakes b heq => hkept u b (heq ▸ htakes)) ⟨.init hinit, ?_⟩ ?_ trivial
    · rw [hinit.page]
      exact Page.ordered_loaded
    · rintro es u a v fs - hno ⟨hinv, hordered⟩ hstep
      refine ⟨hinv.step hpf hinit.server hstep, ?_⟩
      cases deskStep_cases hstep with
      | @page b q hpage => exact hordered.step (hno b rfl) hpage
      | server => exact hordered
      | joined => exact hordered
      | turnedAway => exact hordered
      | took => exact hordered
      | refused => exact hordered
  obtain ⟨wire, socket, rfl, hhanded⟩ := hinv.handed pre fd i post hes hopen
  obtain ⟨more, hmore⟩ := hordered.inOrder _ socket hhanded.isSocket
  refine ⟨wire, socket, rfl, hhanded.isWire, hhanded.isSocket, hhanded.taken, ?_, hhanded.ports⟩
  calc handedOn fd post
      = (socket.sent.map Prod.snd).take wire.taken := hhanded.bytes
    _ = (socket.entered.map Prod.snd).take wire.taken := by
        rw [← hmore, List.map_append,
          List.take_append_of_le_length (by simpa using hhanded.taken)]

end

/-! ## A key on its way -/

/-- The pairs of a query string. -/
def queryPairs : CString → List CString
  | [] => [[]]
  | c :: query =>
      if c = 38 then [] :: queryPairs query
      else
        match queryPairs query with
        | [] => [[c]]
        | pair :: pairs => (c :: pair) :: pairs

/-- The value of a key in a query string. -/
def queryReader (query key : CString) : Option CString :=
  (queryPairs query).findSome? fun pair =>
    if (key ++ [61]).isPrefixOf pair then some (pair.drop (key.length + 1)) else none

theorem queryPairs_cons {c : UInt8} (hc : c ≠ 38) {query pair : CString} {pairs : List CString}
    (h : queryPairs query = pair :: pairs) : queryPairs (c :: query) = (c :: pair) :: pairs := by
  rw [queryPairs, if_neg hc, h]

theorem queryPairs_append {l : CString} (hl : 38 ∉ l) {query pair : CString} {pairs : List CString}
    (h : queryPairs query = pair :: pairs) : queryPairs (l ++ query) = (l ++ pair) :: pairs := by
  induction l with
  | nil => exact h
  | cons c l ih =>
      rw [List.mem_cons, not_or] at hl
      exact queryPairs_cons (Ne.symm hl.1) (ih hl.2)

theorem hexDigitUpper_ne {n : UInt8} (hn : n.toNat < 16) : 38 ≠ hexDigitUpper n := by
  intro h
  have hnat := congrArg UInt8.toNat h
  unfold hexDigitUpper at hnat
  split at hnat
  next hsmall =>
    have hlt : n.toNat < 10 := hsmall
    simp only [UInt8.toNat_add, UInt8.toNat_ofNat] at hnat
    omega
  next =>
    simp only [UInt8.toNat_add, UInt8.toNat_ofNat] at hnat
    omega

/-- What is encoded does not end a pair. -/
theorem notMem_encodeURIComponent (text : CString) : 38 ∉ encodeURIComponent text := by
  intro hmem
  obtain ⟨c, -, hc⟩ := List.mem_flatMap.mp hmem
  split at hc
  next hplain =>
    obtain rfl := List.mem_singleton.mp hc
    exact absurd hplain (by decide)
  next =>
    have hhigh : (c / 16).toNat < 16 := by
      have hlt := c.toNat_lt
      have hdiv : (c / 16).toNat = c.toNat / 16 := UInt8.toNat_div c 16
      omega
    have hlow : (c % 16).toNat < 16 := by
      rw [UInt8.toNat_mod]
      exact Nat.mod_lt _ (by decide)
    simp only [List.mem_cons, List.not_mem_nil, or_false] at hc
    rcases hc with hc | hc | hc
    · exact absurd hc (by decide)
    · exact hexDigitUpper_ne hhigh hc
    · exact hexDigitUpper_ne hlow hc

theorem notMem_digits (n : ℕ) : 38 ∉ JsonText.digits n := fun hmem =>
  absurd (JsonText.digits_digit 38 hmem) (by decide)

/-- A device whose HTTP server splits queries. -/
def demoKeyboard : Platform := { demoParser with queryValue := queryReader }

theorem readsSocketQueries_demoKeyboard : ReadsSocketQueries demoKeyboard := by
  intro s
  have hport : queryPairs (cstr "port=" ++ JsonText.digits s.port) =
      [cstr "port=" ++ JsonText.digits s.port] := by
    have hdigits : 38 ∉ cstr "port=" ++ JsonText.digits s.port := fun hmem => by
      rcases List.mem_append.mp hmem with hmem | hmem
      · exact absurd hmem (by decide +kernel)
      · exact notMem_digits s.port hmem
    have hlast : queryPairs [] = [[]] := rfl
    simpa using queryPairs_append hdigits hlast
  have htoken : 38 ∉ cstr "token=" ++ encodeURIComponent s.token := fun hmem => by
    rcases List.mem_append.mp hmem with hmem | hmem
    · exact absurd hmem (by decide +kernel)
    · exact notMem_encodeURIComponent s.token hmem
  have hpairs : queryPairs s.query = [cstr "token=" ++ encodeURIComponent s.token,
      cstr "port=" ++ JsonText.digits s.port] := by
    have hrest : queryPairs (38 :: (cstr "port=" ++ JsonText.digits s.port)) =
        [] :: [cstr "port=" ++ JsonText.digits s.port] := by
      rw [queryPairs, if_pos rfl, hport]
    have hall := queryPairs_append htoken hrest
    rw [List.append_nil] at hall
    rw [← hall]
    simp [PageSocket.query, show cstr "&port=" = 38 :: cstr "port=" by decide +kernel]
  show queryReader s.query (cstr "port") = _
  have hkey : cstr "port" ++ [61] = cstr "port=" := by decide +kernel
  have hlength : (cstr "port").length + 1 = (cstr "port=").length := by decide +kernel
  have hfirst : (cstr "port=").isPrefixOf (cstr "token=" ++ encodeURIComponent s.token) = false :=
    rfl
  have hsecond : (cstr "port=").isPrefixOf (cstr "port=" ++ JsonText.digits s.port) = true :=
    List.isPrefixOf_iff_prefix.mpr (List.prefix_append _ _)
  unfold queryReader
  rw [hpairs, hkey, hlength, List.findSome?_cons, hfirst, List.findSome?_cons, hsecond]
  simp

/-- `demoServer` and a page that is loaded. -/
def demoDesk : Desk := ⟨.loaded, demoServer, fun _ => none, []⟩

theorem demoDesk_init : demoDesk.Init := ⟨rfl, demoServer_init, fun _ => rfl⟩

/-- The handshake of the page's first socket. -/
def demoJoin : DeskAction :=
  .join (demoEnv 2000000 []) { demoRequest .ws 0 with
    fd := 55
    authorization := some demoBearer
    query := some (PageSocket.query ⟨cstr "00ff", 0, .connecting, true, [], []⟩) } 0

/-- A login, the page, its socket and two letters. -/
def demoTyping : List DeskAction :=
  [.server (.accept 54), .server (.call (demoLogin 1000000)), .page .terminalLoaded,
    .page (.answer 0 demoAnswer), .page (.answer 1 demoAnswer), .server (.accept 55), demoJoin,
    .page (.opened 0), .page (.input [97, 98]), .arrive (demoEnv 3000000 []) 55 64]

/-- No paste is pending where something is entered, and no timer fires. -/
def typesFreely (s : Desk) : DeskAction → Bool
  | .page (.input _) => s.page.timers.next == 0
  | .page (.fire _) => false
  | _ => true

theorem not_misplaces_of_typesFreely {s : Desk} {a : PageAction}
    (h : typesFreely s (.page a) = true) : ¬s.page.Misplaces a := by
  intro hmisplaces
  cases hmisplaces with
  | overtakes hws hsocket hopen hpending =>
      have hnone : s.page.timers.next = 0 := eq_of_beq h
      have hlt := FreshTable.lt_next hpending.timer
      omega
  | strays => cases h

/-- Two letters that are typed reach the serial port. -/
theorem keys_reach_port_typed :
    ∃ t es pre post, (deskMachine demoKeyboard).Run demoDesk demoTyping es t ∧
      es = pre ++ .joined 55 0 :: post ∧ handedOn 55 es = [97, 98] ∧
      ∃ wire socket, wire.socket = 0 ∧ t.wires 55 = some wire ∧
        t.page.sockets.get 0 = some socket ∧ wire.taken ≤ socket.sent.length ∧
        handedOn 55 post = (socket.entered.map Prod.snd).take wire.taken ∧
        ∀ port data, .device (.relayed 55 port data) ∈ post →
          port = demoKeyboard.portOf socket.port := by
  obtain ⟨t, es, hrun, hchecks⟩ := Machine.Run.exists_of_exec (M := deskMachine demoKeyboard)
    (s := demoDesk) (p := fun _ es => decide (.joined 55 0 ∈ es) && decide (.left 55 ∉ es) &&
      handedOn 55 es == [97, 98])
    (show ((deskMachine demoKeyboard).exec demoDesk demoTyping).any _ = true by decide +kernel)
  simp only [Bool.and_eq_true, decide_eq_true_eq, beq_iff_eq] at hchecks
  obtain ⟨⟨hjoined, hleft⟩, hhanded⟩ := hchecks
  obtain ⟨pre, post, rfl⟩ := List.append_of_mem hjoined
  have hopen : .left 55 ∉ post := fun hmem => hleft (by simp [hmem])
  have hfree : (deskMachine demoKeyboard).checks typesFreely demoDesk demoTyping = true := by
    decide +kernel
  exact ⟨t, _, pre, post, hrun, rfl, hhanded, keys_reach_port readsSocketQueries_demoKeyboard
    demoDesk_init hrun (fun u a htakes => not_misplaces_of_typesFreely (htakes.of_checks hfree))
    rfl hopen⟩

end WebTerminal
