import Mathlib.Data.Fin.Tuple.Basic
import Mathlib.Logic.Function.Basic
import WebTerminal.Auth.Session

/-!
# The WebSocket client table

`s_ws_clients` and the functions of `web_server.c` that edit it without looking
at a session: registering a socket, forgetting it, and handing one frame to
every client it is meant for.
-/

set_option autoImplicit false

namespace WebTerminal

/-- `MAX_WS_CLIENTS` -/
abbrev maxWsClients : ℕ := 4

/-- `ws_client_t` -/
structure WsClient where
  fd : ℤ
  active : Bool
  portIndex : ℤ
  token : CString
  lastAuthUs : ℕ
  deriving DecidableEq

/-- `s_ws_clients` -/
abbrev WsClients := Fin maxWsClients → WsClient

/-- A frame popped from the ring.  A negative port makes it a text event. -/
structure Frame where
  port : ℤ
  payload : List UInt8
  deriving DecidableEq

/-- `copy_token` into the `token` field of a client. -/
def copyToken (src : CString) : CString :=
  strncpy (authSessionTokenLen * 2 + 1) src

/-- `ws_add_client`: the first inactive slot, or `none` when all are taken. -/
def wsAddClient (now : ℕ) (fd portIndex : ℤ) (token : CString) (clients : WsClients) :
    WsClients × Option (Fin maxWsClients) :=
  match Fin.find? fun i => !(clients i).active with
  | some i =>
      (Function.update clients i
        { fd := fd, active := true, portIndex := portIndex, token := copyToken token,
          lastAuthUs := now }, some i)
  | none => (clients, none)

/-- The `active = false` that starts `ws_evict_client` and ends a failed send. -/
def deactivate (i : Fin maxWsClients) (clients : WsClients) : WsClients :=
  Function.update clients i { clients i with active := false }

/-- The slot the loops of `ws_remove_client` and `ws_touch_client` stop at. -/
def findFd (fd : ℤ) (clients : WsClients) : Option (Fin maxWsClients) :=
  Fin.find? fun i => (clients i).active && (clients i).fd == fd

/-- `ws_remove_client` -/
def wsRemoveClient (fd : ℤ) (clients : WsClients) : WsClients :=
  match findFd fd clients with
  | some i => deactivate i clients
  | none => clients

/-- The test in the send loop of `ws_flush_work`. -/
def wants (frame : Frame) (client : WsClient) : Bool :=
  client.active && (decide (frame.port < 0) || client.portIndex == frame.port)

/-- The send loop of `ws_flush_work` over the slots still to visit.  `delivered i`
is whether `httpd_ws_send_frame_async` returns `ESP_OK` for slot `i`; the result
lists the slots the frame was handed to. -/
def sendLoop (frame : Frame) (delivered : Fin maxWsClients → Bool) :
    List (Fin maxWsClients) → WsClients → WsClients × List (Fin maxWsClients)
  | [], clients => (clients, [])
  | i :: rest, clients =>
      if wants frame (clients i) then
        let clients := if delivered i then clients else deactivate i clients
        let (clients, sent) := sendLoop frame delivered rest clients
        (clients, i :: sent)
      else
        sendLoop frame delivered rest clients

/-- One frame handed to every client that is to get it. -/
def sendFrame (frame : Frame) (delivered : Fin maxWsClients → Bool) (clients : WsClients) :
    WsClients × List (Fin maxWsClients) :=
  sendLoop frame delivered (List.finRange maxWsClients) clients

/-! ## Editing one slot -/

@[simp] theorem deactivate_self (i : Fin maxWsClients) (clients : WsClients) :
    (deactivate i clients i).active = false := by
  simp [deactivate]

theorem deactivate_of_ne {i j : Fin maxWsClients} (h : j ≠ i) (clients : WsClients) :
    deactivate i clients j = clients j := by
  simp [deactivate, h]

/-- A slot that is still active after a deactivation was not touched by it. -/
theorem deactivate_eq_of_active {i j : Fin maxWsClients} {clients : WsClients}
    (h : (deactivate i clients j).active = true) : deactivate i clients j = clients j := by
  apply deactivate_of_ne
  rintro rfl
  simp at h

theorem findFd_spec {fd : ℤ} {clients : WsClients} {i : Fin maxWsClients}
    (h : findFd fd clients = some i) : (clients i).active = true ∧ (clients i).fd = fd := by
  have := Fin.eq_true_of_find?_eq_some h
  simpa using this

theorem wsRemoveClient_eq_of_active {fd : ℤ} {clients : WsClients} {j : Fin maxWsClients}
    (h : (wsRemoveClient fd clients j).active = true) :
    wsRemoveClient fd clients j = clients j := by
  unfold wsRemoveClient at h ⊢
  cases hfind : findFd fd clients with
  | none => rfl
  | some i => rw [hfind] at h; exact deactivate_eq_of_active h

/-! ## Handing out a frame -/

/-- The loop does not touch a slot it does not visit. -/
theorem sendLoop_of_notMem (frame : Frame) (delivered : Fin maxWsClients → Bool)
    {j : Fin maxWsClients} : ∀ (is : List (Fin maxWsClients)) (clients : WsClients), j ∉ is →
      (sendLoop frame delivered is clients).1 j = clients j := by
  intro is
  induction is with
  | nil => intro clients _; rfl
  | cons i rest ih =>
      intro clients hj
      simp only [List.mem_cons, not_or] at hj
      unfold sendLoop
      split
      · rw [show (sendLoop frame delivered rest _).1 j = _ from ih _ hj.2]
        split
        · rfl
        · exact deactivate_of_ne hj.1 clients
      · exact ih clients hj.2

/-- The frame goes to exactly the visited slots that want it, in slot order. -/
theorem sendLoop_sent (frame : Frame) (delivered : Fin maxWsClients → Bool) :
    ∀ (is : List (Fin maxWsClients)) (clients : WsClients), is.Nodup →
      (sendLoop frame delivered is clients).2 = is.filter fun i => wants frame (clients i) := by
  intro is
  induction is with
  | nil => intro clients _; rfl
  | cons i rest ih =>
      intro clients hnodup
      obtain ⟨hi, hrest⟩ := List.nodup_cons.mp hnodup
      unfold sendLoop
      by_cases hwants : wants frame (clients i) = true
      · rw [if_pos hwants, List.filter_cons_of_pos (by simpa using hwants)]
        -- the slots still to visit are not the one just deactivated
        have hsame : ∀ j ∈ rest, wants frame
            ((if delivered i then clients else deactivate i clients) j) =
              wants frame (clients j) := by
          intro j hj
          split
          · rfl
          · rw [deactivate_of_ne (ne_of_mem_of_not_mem hj hi)]
        show i :: (sendLoop frame delivered rest _).2 = _
        rw [ih _ hrest, List.filter_congr hsame]
      · rw [if_neg hwants, List.filter_cons_of_neg (by simpa using hwants)]
        exact ih clients hrest

/-- A slot changes only by being deactivated, and only when it wanted the frame
and its own send failed. -/
theorem sendLoop_clients (frame : Frame) (delivered : Fin maxWsClients → Bool)
    (j : Fin maxWsClients) : ∀ (is : List (Fin maxWsClients)) (clients : WsClients), is.Nodup →
      (sendLoop frame delivered is clients).1 j =
        if j ∈ is ∧ wants frame (clients j) = true ∧ delivered j = false then
          { clients j with active := false } else clients j := by
  intro is
  induction is with
  | nil => intro clients _; simp [sendLoop]
  | cons i rest ih =>
      intro clients hnodup
      obtain ⟨hi, hrest⟩ := List.nodup_cons.mp hnodup
      unfold sendLoop
      by_cases hj : j = i
      · subst hj
        have hkeep := fun clients => sendLoop_of_notMem frame delivered rest clients hi
        split
        next hwants =>
          show (sendLoop frame delivered rest _).1 j = _
          rw [hkeep]
          cases hd : delivered j <;> simp [hwants, deactivate]
        next hwants => rw [hkeep]; simp [hwants]
      · split
        next hwants =>
          show (sendLoop frame delivered rest _).1 j = _
          have hsame : (if delivered i then clients else deactivate i clients) j = clients j := by
            split
            · rfl
            · exact deactivate_of_ne hj clients
          rw [ih _ hrest, hsame]
          simp [hj]
        next => rw [ih _ hrest]; simp [hj]

/-- A frame goes to exactly the slots that want it, once each. -/
theorem sendFrame_sent (frame : Frame) (delivered : Fin maxWsClients → Bool)
    (clients : WsClients) :
    (sendFrame frame delivered clients).2 =
      (List.finRange maxWsClients).filter fun i => wants frame (clients i) :=
  sendLoop_sent frame delivered _ clients (List.nodup_finRange _)

theorem mem_sendFrame_sent {frame : Frame} {delivered : Fin maxWsClients → Bool}
    {clients : WsClients} {i : Fin maxWsClients} :
    i ∈ (sendFrame frame delivered clients).2 ↔ wants frame (clients i) = true := by
  simp [sendFrame_sent]

/-- A failed send deactivates that client and nothing else changes. -/
theorem sendFrame_clients (frame : Frame) (delivered : Fin maxWsClients → Bool)
    (clients : WsClients) (j : Fin maxWsClients) :
    (sendFrame frame delivered clients).1 j =
      if wants frame (clients j) = true ∧ delivered j = false then
        { clients j with active := false } else clients j := by
  have h := sendLoop_clients frame delivered j _ clients (List.nodup_finRange maxWsClients)
  simp only [List.mem_finRange, true_and] at h
  exact h

theorem sendFrame_eq_of_active {frame : Frame} {delivered : Fin maxWsClients → Bool}
    {clients : WsClients} {j : Fin maxWsClients}
    (h : ((sendFrame frame delivered clients).1 j).active = true) :
    (sendFrame frame delivered clients).1 j = clients j := by
  rw [sendFrame_clients] at h ⊢
  split
  next hcond => rw [if_pos hcond] at h; simp at h
  next => rfl

end WebTerminal
