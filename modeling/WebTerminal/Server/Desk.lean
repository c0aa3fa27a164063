import WebTerminal.Json.Printer
import WebTerminal.Page.Terminal
import WebTerminal.Server.Connections
import WebTerminal.Server.Revocation
import WebTerminal.Server.Versions

/-!
# The page and the device

The page in its browser and the HTTP server of the device, with the connections
between them.  A connection carries what the page sends on one WebSocket, in order and
in frames of any size; it breaks when the device refuses a frame.  Other clients make
whatever calls they like, on connections of their own.
-/

set_option autoImplicit false

namespace WebTerminal

open Proc

/-! ## The URL of a socket -/

/-- The bytes `encodeURIComponent` leaves as they are. -/
def isUnreserved (c : UInt8) : Bool :=
  -- - _ . ! ~ * ' ( )
  isAlnum c || c ∈ ([45, 95, 46, 33, 126, 42, 39, 40, 41] : CString)

/-- `encodeURIComponent` of a text in UTF-8 -/
def encodeURIComponent (text : CString) : CString :=
  text.flatMap fun c =>
    if isUnreserved c then [c]
    else [37, hexDigitUpper (c / 16), hexDigitUpper (c % 16)]

/-- The query string of the URL in `connectWs`. -/
def PageSocket.query (s : PageSocket) : CString :=
  cstr "token=" ++ encodeURIComponent s.token ++ cstr "&port=" ++ JsonText.digits s.port

/-- What `httpd_query_key_value` finds in the query of a socket. -/
def ReadsSocketQueries (pf : Platform) : Prop :=
  ∀ s : PageSocket, pf.queryValue s.query (cstr "port") = some (JsonText.digits s.port)

/-- The port of the device a port of the page is. -/
def Platform.portOf (pf : Platform) (port : ℕ) : ℤ :=
  if port < pf.target.serialPortMax then port else 0

theorem atoi_digits {n : ℕ} (h : n < 2147483648) : atoi (JsonText.digits n) = n := by
  have hvalue : decimalValue (JsonText.digits n) = n := JsonText.numberOf_digits n
  let number : Decimal :=
    ⟨JsonText.digits n, JsonText.digits_ne_nil n, JsonText.digits_digit, hvalue.trans_lt h⟩
  have hscan : scanInt (JsonText.digits n ++ []) = some ((number.value : ℤ), []) :=
    scanInt_decimal number fun _ hc => by cases hc
  rw [List.append_nil] at hscan
  unfold atoi
  rw [hscan]
  exact congrArg Nat.cast hvalue

/-- The device opens the port the page has selected. -/
theorem queryPort_of_socket {pf : Platform} (hpf : ReadsSocketQueries pf) {req : Request}
    {s : PageSocket} (hquery : req.query = some s.query) : req.queryPort pf = pf.portOf s.port := by
  have hfew : pf.target.serialPortMax ≤ 2 := by
    cases pf.target <;> decide
  have hlength : (JsonText.digits s.port).length = (Nat.toDigits 10 s.port).length :=
    List.length_map _
  have hread : req.queryPort pf =
      match (some (JsonText.digits s.port)).filter fun value => decide (value.length < 8) with
      | none => 0
      | some portStr =>
          let p := atoi portStr
          if 0 ≤ p ∧ p < pf.target.serialPortMax then p else 0 := by
    unfold Request.queryPort queryKeyValue
    rw [hquery, Option.bind_some, hpf s]
    rfl
  rw [hread]
  unfold Platform.portOf
  by_cases hshort : (JsonText.digits s.port).length < 8
  · have hport : s.port < 10 ^ 7 := by
      rw [hlength] at hshort
      exact (Nat.length_toDigits_le_iff (by decide) (by decide)).mp (Nat.le_of_lt_succ hshort)
    simp only [Option.filter_some, hshort, decide_true, if_true]
    rw [atoi_digits (by omega)]
    by_cases hopen : s.port < pf.target.serialPortMax
    · rw [if_pos hopen, if_pos ⟨by omega, by omega⟩]
    · rw [if_neg hopen, if_neg fun h => hopen (by omega)]
  · have hport : ¬s.port < 10 ^ 7 := fun hport => hshort (by
      rw [hlength]
      exact Nat.lt_succ_of_le ((Nat.length_toDigits_le_iff (by decide) (by decide)).mpr hport))
    simp only [Option.filter_some, hshort, decide_false, Bool.false_eq_true, if_false]
    rw [if_neg (by omega)]

/-! ## The machine -/

/-- The connection of a WebSocket of the page, from its handshake on. -/
structure Wire where
  socket : ℕ
  /-- no frame was refused so far -/
  up : Bool
  /-- the number of bytes the device took -/
  taken : ℕ

/-- The next bytes on a connection, at most `n`. -/
def Wire.next (wire : Wire) (socket : PageSocket) (n : ℕ) : List UInt8 :=
  ((socket.sent.map Prod.snd).drop wire.taken).take n

/-- The page and the device, with the connections between them under their descriptors. -/
structure Desk where
  page : Page
  server : HttpServer
  wires : ℤ → Option Wire
  /-- the sockets whose handshake was made -/
  dialled : List ℕ

inductive DeskAction
  | page (a : PageAction)
  /-- the HTTP server, with any other client -/
  | server (a : ServerAction)
  /-- the handshake of a socket of the page -/
  | join (env : Env) (req : Request) (socket : ℕ)
  /-- the next bytes of a connection of the page, at most `n`, arrive in one frame -/
  | arrive (env : Env) (fd : ℤ) (n : ℕ)

inductive DeskEvent
  | joined (fd : ℤ) (socket : ℕ)
  | left (fd : ℤ)
  | device (e : Event)
  deriving DecidableEq

/-- The connection a data frame arrives on. -/
def ServerAction.typesOn : ServerAction → Option ℤ
  | .call ⟨_, .frame fd _⟩ => some fd
  | _ => none

/-- The connection that is closed. -/
def ServerAction.hangsUp : ServerAction → Option ℤ
  | .call ⟨_, .close fd⟩ => some fd
  | _ => none

def hangUp (wires : ℤ → Option Wire) : Option ℤ → ℤ → Option Wire
  | none => wires
  | some fd => Function.update wires fd none

theorem hangUp_eq_some {wires : ℤ → Option Wire} {closed : Option ℤ} {fd : ℤ} {wire : Wire} :
    hangUp wires closed fd = some wire ↔ closed ≠ some fd ∧ wires fd = some wire := by
  cases closed with
  | none => simp [hangUp]
  | some fd' =>
      by_cases hfd : fd = fd'
      · simp [hangUp, hfd]
      · simp [hangUp, hfd, Ne.symm hfd]

/-- What a handshake on the connection `fd` leaves. -/
def Desk.afterJoin (s : Desk) (fd : ℤ) (i : ℕ) (server : HttpServer) (es : List Event) :
    Desk × List DeskEvent :=
  if .answered .accepted ∈ es then
    (⟨s.page, server, Function.update s.wires fd (some ⟨i, true, 0⟩), i :: s.dialled⟩,
      es.map .device ++ [.joined fd i])
  else (⟨s.page, server, s.wires, i :: s.dialled⟩, es.map .device)

/-- What a frame on the connection `fd` leaves.  A handler that fails ends the connection. -/
def Desk.afterFrame (s : Desk) (fd : ℤ) (wire : Wire) (data : List UInt8) (server : HttpServer)
    (es : List Event) : Desk × List DeskEvent :=
  if .answered .accepted ∈ es then
    (⟨s.page, server,
      Function.update s.wires fd (some { wire with taken := wire.taken + data.length }),
      s.dialled⟩, es.map .device)
  else
    (⟨s.page, server, Function.update s.wires fd (some { wire with up := false }), s.dialled⟩,
      es.map .device)

def deskStep (pf : Platform) (s : Desk) : DeskAction → Option (Desk × List DeskEvent)
  | .page a => (s.page.step a).map fun page => ({ s with page := page }, [])
  | .server a =>
      if a.typesOn.any fun fd => (s.wires fd).isSome then none
      else
        (serverStep pf s.server a).map fun r =>
          (⟨s.page, r.1, hangUp s.wires a.hangsUp, s.dialled⟩,
            r.2.map .device ++ a.hangsUp.toList.map .left)
  | .join env req i =>
      (s.page.sockets.get i).bind fun socket =>
        if req.route = .ws ∧ req.query = some socket.query ∧ i ∉ s.dialled then
          (serverStep pf s.server (.call ⟨env, .request req⟩)).map fun r =>
            s.afterJoin req.fd i r.1 r.2
        else none
  | .arrive env fd n =>
      (s.wires fd).bind fun wire =>
        (s.page.sockets.get wire.socket).bind fun socket =>
          if wire.up ∧ wire.next socket n ≠ [] then
            (serverStep pf s.server (.call ⟨env, .frame fd ⟨.binary, wire.next socket n⟩⟩)).map
              fun r => s.afterFrame fd wire (wire.next socket n) r.1 r.2
          else none

def deskMachine (pf : Platform) : Machine Desk DeskAction DeskEvent where
  step := deskStep pf

/-- The page is loaded, and nobody is connected. -/
structure Desk.Init (s : Desk) : Prop where
  page : s.page = .loaded
  server : s.server.Init
  wires : ∀ fd, s.wires fd = none

/-- What a step can do. -/
inductive DeskCase (pf : Platform) (s : Desk) : DeskAction → Desk → List DeskEvent → Prop
  | page {a : PageAction} {q : Page} (hstep : s.page.Stepped a q) :
      DeskCase pf s (.page a) { s with page := q } []
  | server {a : ServerAction} {v : HttpServer} {es : List Event}
      (hothers : ∀ fd, a.typesOn = some fd → s.wires fd = none)
      (hstep : (serverMachine pf).step s.server a = some (v, es)) :
      DeskCase pf s (.server a) ⟨s.page, v, hangUp s.wires a.hangsUp, s.dialled⟩
        (es.map .device ++ a.hangsUp.toList.map .left)
  | joined {env : Env} {req : Request} {i : ℕ} {socket : PageSocket} {v : HttpServer}
      {es : List Event} (hsocket : s.page.sockets.get i = some socket) (hroute : req.route = .ws)
      (hquery : req.query = some socket.query)
      (hstep : (serverMachine pf).step s.server (.call ⟨env, .request req⟩) = some (v, es)) :
      DeskCase pf s (.join env req i)
        ⟨s.page, v, Function.update s.wires req.fd (some ⟨i, true, 0⟩), i :: s.dialled⟩
        (es.map .device ++ [.joined req.fd i])
  | turnedAway {env : Env} {req : Request} {i : ℕ} {v : HttpServer} {es : List Event}
      (hstep : (serverMachine pf).step s.server (.call ⟨env, .request req⟩) = some (v, es)) :
      DeskCase pf s (.join env req i) ⟨s.page, v, s.wires, i :: s.dialled⟩ (es.map .device)
  | took {env : Env} {fd : ℤ} {n : ℕ} {wire : Wire} {socket : PageSocket} {v : HttpServer}
      {es : List Event} (hwire : s.wires fd = some wire)
      (hsocket : s.page.sockets.get wire.socket = some socket) (hnext : wire.next socket n ≠ [])
      (hstep : (serverMachine pf).step s.server
        (.call ⟨env, .frame fd ⟨.binary, wire.next socket n⟩⟩) = some (v, es))
      (haccepted : .answered .accepted ∈ es) :
      DeskCase pf s (.arrive env fd n)
        ⟨s.page, v, Function.update s.wires fd
          (some { wire with taken := wire.taken + (wire.next socket n).length }), s.dialled⟩
        (es.map .device)
  | refused {env : Env} {fd : ℤ} {n : ℕ} {wire : Wire} {socket : PageSocket} {v : HttpServer}
      {es : List Event} (hwire : s.wires fd = some wire)
      (hnext : wire.next socket n ≠ [])
      (hstep : (serverMachine pf).step s.server
        (.call ⟨env, .frame fd ⟨.binary, wire.next socket n⟩⟩) = some (v, es))
      (hrefused : .answered .accepted ∉ es) :
      DeskCase pf s (.arrive env fd n)
        ⟨s.page, v, Function.update s.wires fd (some { wire with up := false }), s.dialled⟩
        (es.map .device)

theorem deskStep_cases {pf : Platform} {s t : Desk} {a : DeskAction} {fs : List DeskEvent}
    (h : (deskMachine pf).step s a = some (t, fs)) : DeskCase pf s a t fs := by
  cases a with
  | page a =>
      obtain ⟨q, hq, heq⟩ := Option.map_eq_some_iff.mp h
      obtain ⟨rfl, rfl⟩ := Prod.mk.inj heq
      exact .page (Page.step_cases hq)
  | server a =>
      simp only [deskMachine, deskStep, Option.ite_none_left_eq_some] at h
      obtain ⟨hothers, h⟩ := h
      obtain ⟨⟨v, es⟩, hstep, heq⟩ := Option.map_eq_some_iff.mp h
      obtain ⟨rfl, rfl⟩ := Prod.mk.inj heq
      refine .server (fun fd hfd => ?_) hstep
      simpa [hfd] using hothers
  | join env req i =>
      obtain ⟨socket, hsocket, h⟩ := Option.bind_eq_some_iff.mp h
      simp only [Option.ite_none_right_eq_some] at h
      obtain ⟨⟨hroute, hquery, -⟩, h⟩ := h
      obtain ⟨⟨v, es⟩, hstep, heq⟩ := Option.map_eq_some_iff.mp h
      unfold Desk.afterJoin at heq
      split at heq
      · obtain ⟨rfl, rfl⟩ := Prod.mk.inj heq
        exact .joined hsocket hroute hquery hstep
      · obtain ⟨rfl, rfl⟩ := Prod.mk.inj heq
        exact .turnedAway hstep
  | arrive env fd n =>
      obtain ⟨wire, hwire, h⟩ := Option.bind_eq_some_iff.mp h
      obtain ⟨socket, hsocket, h⟩ := Option.bind_eq_some_iff.mp h
      simp only [Option.ite_none_right_eq_some] at h
      obtain ⟨⟨-, hnext⟩, h⟩ := h
      obtain ⟨⟨v, es⟩, hstep, heq⟩ := Option.map_eq_some_iff.mp h
      unfold Desk.afterFrame at heq
      split at heq
      next haccepted =>
        obtain ⟨rfl, rfl⟩ := Prod.mk.inj heq
        exact .took hwire hsocket hnext hstep haccepted
      next hrefused =>
        obtain ⟨rfl, rfl⟩ := Prod.mk.inj heq
        exact .refused hwire hnext hstep hrefused

/-! ## What the device is handed -/

/-- The bytes a step hands on from a connection. -/
def DeskEvent.handed (fd : ℤ) : DeskEvent → List UInt8
  | .device (.relayed fd' _ data) => if fd' = fd then data else []
  | _ => []

/-- The bytes handed to `serial_port_send` from a connection. -/
def handedOn (fd : ℤ) (es : List DeskEvent) : List UInt8 := es.flatMap (DeskEvent.handed fd)

/-- What the device itself shows. -/
def serverEvents (es : List DeskEvent) : List Event :=
  es.filterMap fun
    | .device e => some e
    | _ => none

@[simp] theorem handedOn_append (fd : ℤ) (es fs : List DeskEvent) :
    handedOn fd (es ++ fs) = handedOn fd es ++ handedOn fd fs := List.flatMap_append

@[simp] theorem serverEvents_append (es fs : List DeskEvent) :
    serverEvents (es ++ fs) = serverEvents es ++ serverEvents fs := List.filterMap_append

@[simp] theorem serverEvents_device (es : List Event) :
    serverEvents (es.map .device) = es := by
  simp [serverEvents, List.filterMap_map]

theorem handedOn_eq_nil {fd : ℤ} {es : List DeskEvent}
    (h : ∀ port data, .device (.relayed fd port data) ∉ es) : handedOn fd es = [] := by
  refine List.flatMap_eq_nil_iff.mpr fun e he => ?_
  cases e with
  | joined => rfl
  | left => rfl
  | device e =>
      cases e with
      | relayed fd' port data =>
          refine if_neg ?_
          rintro rfl
          exact h port data he
      | _ => rfl

/-! ## Steps of the server -/

section

variable {pf : Platform} {t u : HttpServer} {a : ServerAction} {fs : List Event}

theorem serverStep_accept {fd : ℤ} (hstep : (serverMachine pf).step t (.accept fd) = some (u, fs)) :
    t.conns fd = .closed ∧ u = ⟨t.system, Function.update t.conns fd .opened⟩ ∧ fs = [] := by
  simp only [serverMachine, serverStep, Option.ite_none_right_eq_some, Option.some.injEq,
    Prod.mk.injEq] at hstep
  obtain ⟨hclosed, rfl, rfl⟩ := hstep
  exact ⟨hclosed, rfl, rfl⟩

theorem serverStep_call {a : Action} (hstep : (serverMachine pf).step t (.call a) = some (u, fs)) :
    a.call.Dispatched t.conns ∧ (systemMachine pf).step t.system a = some (u.system, fs) ∧
      u.conns = a.call.conns t.conns := by
  simp only [serverMachine, serverStep, Option.ite_none_right_eq_some] at hstep
  obtain ⟨hdispatched, hstep⟩ := hstep
  obtain ⟨⟨system, es⟩, hsystem, heq⟩ := Option.map_eq_some_iff.mp hstep
  obtain ⟨rfl, rfl⟩ := Prod.mk.inj heq
  exact ⟨hdispatched, hsystem, rfl⟩

/-- A connection stays as it is until it is closed. -/
theorem serverStep_handshaken (hstep : (serverMachine pf).step t a = some (u, fs)) {fd : ℤ}
    (hfd : t.conns fd = .handshaken) (hopen : a.hangsUp ≠ some fd) : u.conns fd = .handshaken := by
  cases a with
  | accept fd' =>
      obtain ⟨hclosed, rfl, -⟩ := serverStep_accept hstep
      have hne : fd ≠ fd' := by
        rintro rfl
        cases hfd.symm.trans hclosed
      exact (Function.update_of_ne hne _ _).trans hfd
  | call a =>
      obtain ⟨-, -, hconns⟩ := serverStep_call hstep
      rw [hconns]
      obtain ⟨env, call⟩ := a
      cases call with
      | request req =>
          show ((if req.route = .ws then Function.update t.conns req.fd .handshaken
            else t.conns) fd) =
            .handshaken
          split
          · by_cases hreq : fd = req.fd
            · rw [hreq, Function.update_self]
            · rw [Function.update_of_ne hreq, hfd]
          · exact hfd
      | close fd' =>
          have hne : fd ≠ fd' := fun heq => hopen (congrArg some heq.symm)
          exact (Function.update_of_ne hne _ _).trans hfd
      | frame => exact hfd
      | flush => exact hfd
      | background => exact hfd

/-- An entry of the client table was there before, or it is what a handshake asked for. -/
theorem serverStep_entry {s : HttpServer} {as : List ServerAction} {es : List Event}
    (hsound : TableSound pf s as es t) (hstep : (serverMachine pf).step t a = some (u, fs))
    {k : Fin maxWsClients} {e : WsEntry} (he : (u.system.device.clients k).entry = some e) :
    (t.system.device.clients k).entry = some e ∨
      ∃ env req, a = .call ⟨env, .request req⟩ ∧ req.route = .ws ∧ e.fd = req.fd ∧
        e.portIndex = req.queryPort pf := by
  cases a with
  | accept fd =>
      obtain ⟨-, rfl, -⟩ := serverStep_accept hstep
      exact .inl he
  | call a =>
      obtain ⟨-, hsystem, -⟩ := serverStep_call hstep
      obtain ⟨-, -, -, -, hdevice, -⟩ := systemStep_some hsystem
      obtain ⟨env, call⟩ := a
      rw [hdevice] at he
      by_cases hws : ∃ req, call = .request req ∧ req.route = .ws
      · obtain ⟨req, rfl, hroute⟩ := hws
        have hhandler : callHandler pf env (.request req) = handleWsHandshake pf env req := by
          show handler pf env req = _
          unfold handler
          rw [hroute]
        rw [hhandler] at he
        rcases handshake_added pf env hroute hsound.sockets.tokens with hnone | hadded
        · exact .inl (hnone k e he)
        · obtain ⟨i, e', hletIn, hnew, hold⟩ := hadded
          by_cases hk : k = i
          · subst hk
            obtain rfl := Option.some.inj (hnew.symm.trans he)
            cases hletIn
            exact .inr ⟨env, req, rfl, hroute, rfl, rfl⟩
          · rw [hold k hk] at he
            exact .inl he
      · obtain ⟨_, -, hnone⟩ := callHandler_noneAdded pf env
          (fun req heq hroute => hws ⟨req, heq, hroute⟩) t.system.device.start
        exact .inl (hnone k e he)

/-- Only a data frame is handed on, from its own connection. -/
theorem serverStep_relayed (hstep : (serverMachine pf).step t a = some (u, fs)) {fd port : ℤ}
    {data : List UInt8} (hmem : .relayed fd port data ∈ fs) : a.typesOn = some fd := by
  cases a with
  | accept =>
      obtain ⟨-, -, rfl⟩ := serverStep_accept hstep
      cases hmem
  | call a =>
      obtain ⟨-, hsystem, -⟩ := serverStep_call hstep
      obtain ⟨-, -, -, shown, answer, rfl, hcase⟩ := systemStep_cases hsystem
      obtain ⟨env, call⟩ := a
      have hshown : .relayed fd port data ∈ shown := by simpa using hmem
      dsimp only at hcase
      generalize u.system.device = d' at hcase
      cases hcase with
      | checked hpre => rcases hpre.shown_checked _ _ hshown with ⟨_, h | h⟩ <;> cases h
      | registered hpre => cases hpre <;> simp at hshown
      | relayed =>
          simp only [List.mem_cons, reduceCtorEq, Event.relayed.injEq, List.mem_map, exists_false,
            or_false, false_or, and_false] at hshown
          obtain ⟨rfl, -, -⟩ := hshown
          rfl
      | flushed => cases flush_ofFlush env _ _ _ hshown
      | _ => simp at hshown

end

/-! ## Frames of a terminal -/

section

variable (pf : Platform) (env : Env) {d : Device} (fd : ℤ) {data : List UInt8}

theorem serialPortSend_returns (port : ℤ) (data : List UInt8) :
    Returns (serialPortSend pf env port data) := by
  refine (returns_pure _).ite (.ite ?_ ?_)
  · exact (returns_emit _).bind fun _ => (returns_ask _).bind fun _ => returns_pure _
  · refine (returns_read _).bind fun serial => (returns_pure _).ite ((returns_pure _).ite ?_)
    exact (returns_emit _).bind fun _ => returns_ask _

/-- What `handle_ws` does with a frame of the page: it is handed on as a whole, and the
handler succeeds, or nothing is, and it fails. -/
inductive FrameCase (d : Device) (data : List UInt8) : Response → List Event → Prop
  | relayed {k : Fin maxWsClients} {effects : List Effect} (hfind : findFd fd d.clients = some k) :
      FrameCase d data .accepted (.accepted (d.clients k).token env.now ::
        .relayed fd (d.clients k).portIndex data :: effects.map .effect)
  | refused {es : List Event} (hquiet : ∀ fd port data, .relayed fd port data ∉ es)
      (hsilent : .answered .accepted ∉ es) : FrameCase d data .close es

theorem handleWsFrame_binary (hsome : data ≠ []) :
    ∃ answer w, handleWsFrame pf env fd ⟨.binary, data⟩ d.start = .ok answer w ∧
      FrameCase env fd d data answer w.shown := by
  unfold handleWsFrame
  obtain ⟨port, w, hrun, hcase⟩ := touchClient_cases env (d := d) fd
  rw [bind_ok hrun]
  cases hcase with
  | unknown hstate hshown =>
      exact ⟨.close, w, rfl, .refused (by simp [hshown]) (by simp [hshown])⟩
  | evicted hfind hinvalid hstate hshown =>
      exact ⟨.close, w, rfl, .refused (by simp [hshown]) (by simp [hshown])⟩
  | @touched k hfind hvalid hstate hshown =>
      have hlength : ¬data.length = 0 := fun h => hsome (List.length_eq_zero_iff.mp h)
      have hquiet : ∀ fd port data, .relayed fd port data ∉ w.shown := by simp [hshown]
      have hsilent : .answered .accepted ∉ w.shown := by simp [hshown]
      dsimp only
      rw [bind_ok (ask_apply _ _)]
      split
      · exact ⟨.close, _, rfl, .refused hquiet hsilent⟩
      split
      · exact ⟨.close, _, rfl, .refused (by simpa using hquiet) (by simpa using hsilent)⟩
      rw [bind_ok (ask_apply _ _)]
      split
      · exact ⟨.close, _, rfl, .refused hquiet hsilent⟩
      · obtain ⟨err, v, hsend⟩ := serialPortSend_returns pf env (d.clients k).portIndex data
          ⟨w.state.board, w.asked + 1 + 1, []⟩
        rw [bind_ok (emit_apply _ _), bind_ok (onBoard_ok hsend)]
        refine ⟨.accepted, _, rfl, ?_⟩
        have hcase : FrameCase env fd d data .accepted (_ :: _ :: v.shown.map .effect) :=
          .relayed hfind
        simpa [hshown] using hcase

end

/-- What a frame of the page leaves behind in the events. -/
theorem serverStep_frame {pf : Platform} {t u : HttpServer} {env : Env} {fd : ℤ}
    {data : List UInt8} {fs : List Event} (hsome : data ≠ [])
    (hstep : (serverMachine pf).step t (.call ⟨env, .frame fd ⟨.binary, data⟩⟩) = some (u, fs)) :
    (∃ k, findFd fd t.system.device.clients = some k ∧ .answered .accepted ∈ fs ∧
        handedOn fd (fs.map .device) = data ∧
        ∀ port data', .relayed fd port data' ∈ fs →
          port = (t.system.device.clients k).portIndex) ∨
      .answered .accepted ∉ fs ∧ ∀ port data', .relayed fd port data' ∉ fs := by
  obtain ⟨-, hsystem, -⟩ := serverStep_call hstep
  obtain ⟨hrunning, htime, -⟩ := systemStep_some hsystem
  obtain ⟨answer, w, hrun, hcase⟩ := handleWsFrame_binary pf env (d := t.system.device) fd hsome
  have hfs := (systemStep_of_ok hrunning htime hrun).symm.trans hsystem
  obtain ⟨-, rfl⟩ := Prod.mk.inj (Option.some.inj hfs)
  generalize w.shown = shown at hcase
  cases hcase with
  | @relayed k effects hfind =>
      left
      refine ⟨k, hfind, by simp, ?_, ?_⟩
      · simp [handedOn, DeskEvent.handed, List.flatMap_map]
      · intro port data' hmem
        simp only [List.mem_append, List.mem_cons, reduceCtorEq, Event.relayed.injEq, List.mem_map,
          exists_false, or_false, false_or, and_false, List.not_mem_nil] at hmem
        exact hmem.2.1
  | refused hquiet hsilent =>
      right
      refine ⟨?_, fun port data' hmem => ?_⟩
      · simp [hsilent]
      · rcases List.mem_append.mp hmem with hmem | hmem
        · exact hquiet fd port data' hmem
        · simp at hmem

end WebTerminal
