import WebTerminal.Wifi.Events

/-!
# The radio under the driver

What the station does on the air, and the events it has raised that
`event_handler` has not read yet.  The calls of the firmware are replayed on it
with the answers they got: a call that is valid in the current mode succeeds.
-/

set_option autoImplicit false

namespace WebTerminal

/-- The station of the driver. -/
inductive Link
  | idle
  /-- an `esp_wifi_connect` has not been answered -/
  | connecting
  | online
  deriving DecidableEq

structure Radio where
  link : Link
  /-- the events raised and not yet handled, the oldest first -/
  queue : List WifiEvent
  deriving DecidableEq

/-- The event answers an attempt to connect, or tells that a link is lost. -/
def WifiEvent.isNews : WifiEvent → Bool
  | .staDisconnected | .gotIp => true
  | _ => false

/-- `event_handler` acts on the event. -/
def WifiEvent.isActive : WifiEvent → Bool
  | .staStart | .staDisconnected | .gotIp => true
  | _ => false

/-- The last of the queued events that tell how the link fared. -/
def latestNews : List WifiEvent → Option WifiEvent
  | [] => none
  | event :: rest => (latestNews rest).or (if event.isNews then some event else none)

/-- The driver has what `esp_wifi_connect` needs. -/
def Wifi.CanDial (wifi : Wifi) : Prop :=
  wifi.driverStarted = true ∧ wifi.driverMode ≠ .ap ∧ wifi.staConfig.ssid ≠ []

instance (wifi : Wifi) : Decidable wifi.CanDial := by
  unfold Wifi.CanDial
  infer_instance

namespace Radio

def raise (event : WifiEvent) (radio : Radio) : Radio :=
  { radio with queue := radio.queue ++ [event] }

/-- The station loses its link or gives up its attempt. -/
def drop (radio : Radio) : Radio :=
  if radio.link = .idle then radio
  else { link := .idle, queue := radio.queue ++ [.staDisconnected] }

/-- `esp_wifi_connect`.  A station that is not idle may start over. -/
def dial (restarts : Bool) (radio : Radio) : Radio :=
  if radio.link = .idle then { radio with link := .connecting }
  else if restarts then { link := .connecting, queue := radio.queue ++ [.staDisconnected] }
  else radio

/-- What a call the driver accepts does on the air. -/
def call (restarts : Bool) (wifi : Wifi) (radio : Radio) : WifiCall → Radio
  | .setMode .ap | .stop | .disconnect => radio.drop
  | .setMode _ =>
      if wifi.driverStarted = true ∧ wifi.driverMode = .ap then radio.raise .staStart else radio
  | .start =>
      if wifi.driverStarted = false ∧ wifi.driverMode ≠ .ap then radio.raise .staStart else radio
  | .connect => if wifi.CanDial then radio.dial restarts else radio
  | _ => radio

/-- The call is valid in the current mode.  A station that is not idle may refuse
another attempt, and one that is connecting a new configuration. -/
def Valid (wifi : Wifi) (radio : Radio) : WifiCall → Prop
  | .setApConfig _ => wifi.driverMode ≠ .sta
  | .setStaConfig conf => wifi.driverMode ≠ .ap ∧ conf.ssid ≠ [] ∧ radio.link ≠ .connecting
  | .start => wifi.driverStarted = false
  | .stop => wifi.driverStarted = true
  | .connect => wifi.CanDial ∧ radio.link = .idle
  | .disconnect | .scanStart => wifi.driverStarted = true ∧ wifi.driverMode ≠ .ap
  | .setMode _ | .clearApList | .setHostname _ | .mdnsHostname _ | .mdnsInstance _
  | .mdnsService _ => True

instance (wifi : Wifi) (radio : Radio) (call : WifiCall) : Decidable (Valid wifi radio call) := by
  cases call <;> unfold Valid <;> infer_instance

/-- The radio after these calls; `none` where one that is valid has failed. -/
def replay (restarts : Bool) : Wifi → List (WifiCall × EspErr) → Radio → Option Radio
  | _, [], radio => some radio
  | wifi, (call, err) :: rest, radio =>
      if err = .ok then replay restarts (wifi.drive call) rest (radio.call restarts wifi call)
      else if Valid wifi radio call then none
      else replay restarts wifi rest radio

/-- What is on its way fits what the station does. -/
structure Consistent (radio : Radio) : Prop where
  down : radio.link ≠ .online → latestNews radio.queue ≠ some .gotIp
  up : radio.link = .online → latestNews radio.queue ≠ some .staDisconnected

/-- The station is idle, and no event will make it dial. -/
def Still (radio : Radio) : Prop :=
  radio.link = .idle ∧ ∀ event ∈ radio.queue, event.isActive = false

end Radio

/-! ## The queue -/

theorem latestNews_isNews {queue : List WifiEvent} {event : WifiEvent}
    (h : latestNews queue = some event) : event.isNews = true := by
  induction queue with
  | nil => cases h
  | cons first rest ih =>
      rw [latestNews, Option.or_eq_some_iff] at h
      rcases h with hrest | ⟨-, hfirst⟩
      · exact ih hrest
      · obtain ⟨hnews, heq⟩ := Option.ite_none_right_eq_some.mp hfirst
        exact Option.some.inj heq ▸ hnews

theorem latestNews_mem {queue : List WifiEvent} {event : WifiEvent}
    (h : latestNews queue = some event) : event ∈ queue := by
  induction queue with
  | nil => cases h
  | cons first rest ih =>
      rw [latestNews, Option.or_eq_some_iff] at h
      rcases h with hrest | ⟨-, hfirst⟩
      · exact List.mem_cons_of_mem first (ih hrest)
      · obtain ⟨-, heq⟩ := Option.ite_none_right_eq_some.mp hfirst
        exact Option.some.inj heq ▸ List.mem_cons_self

theorem latestNews_append (queue : List WifiEvent) (event : WifiEvent) :
    latestNews (queue ++ [event]) = if event.isNews then some event else latestNews queue := by
  induction queue with
  | nil => simp [latestNews]
  | cons first rest ih =>
      rw [List.cons_append, latestNews, ih, latestNews]
      split
      · rfl
      · rfl

/-- Only the oldest event can be the last one. -/
theorem latestNews_cons_of_none {event : WifiEvent} {rest : List WifiEvent}
    (h : latestNews rest = none) :
    latestNews (event :: rest) = if event.isNews then some event else none := by
  rw [latestNews, h, Option.none_or]

theorem latestNews_cons_of_some {event e : WifiEvent} {rest : List WifiEvent}
    (h : latestNews rest = some e) : latestNews (event :: rest) = some e := by
  rw [latestNews, h, Option.some_or]

namespace Radio

/-! ## What the calls keep -/

@[simp] theorem drop_link (radio : Radio) : radio.drop.link = .idle := by
  unfold drop
  split
  next h => exact h
  next => rfl

/-- The answer to an attempt that is given up is on its way. -/
theorem drop_news {radio : Radio} (h : radio.link ≠ .idle) :
    latestNews radio.drop.queue = some .staDisconnected := by
  unfold drop
  rw [if_neg h, latestNews_append]
  rfl

theorem dial_link (restarts : Bool) (radio : Radio) : (radio.dial restarts).link ≠ .idle := by
  unfold dial
  split
  next => simp
  next h =>
    split
    · simp
    · exact h

/-- A station that is online after dialling has gone on as it was. -/
theorem dial_of_online {restarts : Bool} {radio : Radio}
    (h : (radio.dial restarts).link = .online) :
    radio.dial restarts = radio := by
  unfold dial at h ⊢
  split
  next hidle =>
    rw [if_pos hidle] at h
    cases h
  next hidle =>
    rw [if_neg hidle] at h
    split
    next hrestarts =>
      rw [if_pos hrestarts] at h
      cases h
    next => rfl

theorem Consistent.raise {radio : Radio} (h : radio.Consistent) {event : WifiEvent}
    (hevent : event.isNews = false) : (radio.raise event).Consistent := by
  have hnews : latestNews (radio.raise event).queue = latestNews radio.queue := by
    rw [Radio.raise, latestNews_append, if_neg (by simp [hevent])]
  exact ⟨fun hlink => hnews ▸ h.down hlink, fun hlink => hnews ▸ h.up hlink⟩

theorem Consistent.drop {radio : Radio} (h : radio.Consistent) : radio.drop.Consistent := by
  refine ⟨fun _ => ?_, fun hlink => by rw [drop_link] at hlink; cases hlink⟩
  by_cases hidle : radio.link = .idle
  · rw [Radio.drop, if_pos hidle]
    exact h.down (by simp [hidle])
  · rw [drop_news hidle]
    decide

theorem Consistent.dial {radio : Radio} (h : radio.Consistent) (restarts : Bool) :
    (radio.dial restarts).Consistent := by
  unfold Radio.dial
  split
  next hidle => exact ⟨fun _ => h.down (by simp [hidle]), fun hlink => by cases hlink⟩
  next =>
    split
    · refine ⟨fun _ => ?_, fun hlink => by cases hlink⟩
      rw [latestNews_append]
      simp [WifiEvent.isNews]
    · exact h

/-- Handling the oldest event. -/
theorem Consistent.tail {link : Link} {event : WifiEvent} {rest : List WifiEvent}
    (h : Consistent ⟨link, event :: rest⟩) : Consistent ⟨link, rest⟩ := by
  refine ⟨fun hlink hnews => h.down hlink ?_, fun hlink hnews => h.up hlink ?_⟩
  · exact latestNews_cons_of_some hnews
  · exact latestNews_cons_of_some hnews

/-- What a replayed call has been: answered as it had to be, or not valid. -/
theorem replay_cons {restarts : Bool} {wifi : Wifi} {call : WifiCall} {err : EspErr}
    {rest : List (WifiCall × EspErr)} {radio radio' : Radio}
    (h : replay restarts wifi ((call, err) :: rest) radio = some radio') :
    (err = .ok ∧
        replay restarts (wifi.drive call) rest (radio.call restarts wifi call) = some radio') ∨
      err ≠ .ok ∧ ¬Valid wifi radio call ∧ replay restarts wifi rest radio = some radio' := by
  rw [replay] at h
  split at h
  next herr => exact .inl ⟨herr, h⟩
  next herr =>
    split at h
    next => cases h
    next hvalid => exact .inr ⟨herr, hvalid, h⟩

/-- A valid call has been accepted. -/
theorem replay_cons_valid {restarts : Bool} {wifi : Wifi} {call : WifiCall} {err : EspErr}
    {rest : List (WifiCall × EspErr)} {radio radio' : Radio} (hvalid : Valid wifi radio call)
    (h : replay restarts wifi ((call, err) :: rest) radio = some radio') :
    err = .ok ∧
      replay restarts (wifi.drive call) rest (radio.call restarts wifi call) = some radio' := by
  rcases replay_cons h with haccepted | ⟨-, hnot, -⟩
  · exact haccepted
  · exact absurd hvalid hnot

theorem replay_setMode {restarts : Bool} {wifi : Wifi} {mode : WifiMode} {err : EspErr}
    {rest : List (WifiCall × EspErr)} {radio radio' : Radio}
    (h : replay restarts wifi ((.setMode mode, err) :: rest) radio = some radio') :
    err = .ok ∧ replay restarts (wifi.drive (.setMode mode)) rest
      (radio.call restarts wifi (.setMode mode)) = some radio' :=
  replay_cons_valid (show Valid wifi radio (.setMode mode) from trivial) h

/-- A driver that is off does not start its station. -/
theorem call_setMode_of_off {restarts : Bool} {wifi : Wifi} {mode : WifiMode} (radio : Radio)
    (hmode : mode ≠ .ap) (h : wifi.driverStarted = false) :
    radio.call restarts wifi (.setMode mode) = radio := by
  cases mode with
  | ap => exact absurd rfl hmode
  | _ => exact if_neg fun hon => by simp [h] at hon

/-- A mode with a station that the driver had before. -/
theorem call_setMode_of_sta {restarts : Bool} {wifi : Wifi} {mode : WifiMode} (radio : Radio)
    (hmode : mode ≠ .ap) (h : wifi.driverMode ≠ .ap) :
    radio.call restarts wifi (.setMode mode) = radio := by
  cases mode with
  | ap => exact absurd rfl hmode
  | _ => exact if_neg fun hap => h hap.2

/-- Dialling at the end of a step. -/
theorem replay_connect {restarts : Bool} {wifi : Wifi} {err : EspErr} {radio radio' : Radio}
    (h : replay restarts wifi [(.connect, err)] radio = some radio') :
    (wifi.CanDial ∧ ∃ b, radio' = radio.dial b) ∨ ¬wifi.CanDial ∧ radio' = radio := by
  by_cases hdial : wifi.CanDial
  · refine .inl ⟨hdial, ?_⟩
    rcases replay_cons h with ⟨-, hrest⟩ | ⟨-, hnot, hrest⟩
    · obtain rfl := Option.some.inj hrest
      exact ⟨restarts, if_pos hdial⟩
    · -- it was refused, which an idle station does not do
      obtain rfl := Option.some.inj hrest
      refine ⟨false, ?_⟩
      rw [dial, if_neg fun hidle => hnot ⟨hdial, hidle⟩]
      rfl
  · refine .inr ⟨hdial, ?_⟩
    rcases replay_cons h with ⟨-, hrest⟩ | ⟨-, -, hrest⟩
    · obtain rfl := Option.some.inj hrest
      exact if_neg hdial
    · exact (Option.some.inj hrest).symm

end Radio

end WebTerminal
