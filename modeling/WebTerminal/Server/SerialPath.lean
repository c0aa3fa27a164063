import WebTerminal.Server.Sockets
import WebTerminal.Ws.Stream

/-!
# From a serial port to the sockets

The ring with its producers and the device around one client table.  The ring machine
lets anything happen to the table between two flushes, and the device takes a flush as one
call with the frames it is given.  Here both are replaced by the code: a handler is the
call that runs, and a flush runs step by step on the device, with the producers between
its steps and with the frames it pops.

A run of this machine is a run of the ring machine and a run of the device with the same
calls on its connections (`serial_path_refines`), so what is proved about either of them
holds of it.  On the side of the device a flush in pieces is a sequence of flushes at one
reading of the clock, one for the revalidation and one for each frame: a client that was
checked at this reading is not checked again at it.  Such a call answers nobody, and only
its answer is missing on the path.  The path begins when the device is up.
-/

set_option autoImplicit false

namespace WebTerminal

open Proc

/-- The device, the ring, the work items waiting on the httpd queue and the tasks. -/
structure SerialPath (ι : Type*) where
  system : System
  server : Bool
  ring : TxRing
  queued : ℕ
  flush : FlushPc
  producer : ι → ProducerPc

namespace SerialPath

variable {ι : Type*}

/-- The ring and the tasks, with the client table of the device. -/
def ringSys (s : SerialPath ι) : RingSys ι where
  server := s.server
  ring := s.ring
  queued := s.queued
  flush := s.flush
  producer := s.producer
  clients := s.system.device.clients

/-- Put the ring and the tasks back, and the client table with them. -/
def setRing (r : RingSys ι) (s : SerialPath ι) : SerialPath ι where
  system := { s.system with device := s.system.device.setClients r.clients }
  server := r.server
  ring := r.ring
  queued := r.queued
  flush := r.flush
  producer := r.producer

def setSystem (system : System) (s : SerialPath ι) : SerialPath ι := { s with system := system }

/-- Other tasks change the radio and the serial ports. -/
def setDrivers (wifi : Wifi) (serial : Serial) (s : SerialPath ι) : SerialPath ι :=
  let board := { s.system.device.board with wifi := wifi, serial := serial }
  s.setSystem { s.system with device := s.system.device.setBoard board }

@[simp] theorem ringSys_setRing (r : RingSys ι) (s : SerialPath ι) : (s.setRing r).ringSys = r :=
  rfl

@[simp] theorem setRing_device (r : RingSys ι) (s : SerialPath ι) :
    (s.setRing r).system.device = s.system.device.setClients r.clients := rfl

/-- A step of the ring that leaves the table alone leaves the device alone. -/
theorem setRing_system {r : RingSys ι} {s : SerialPath ι} (h : r.clients = s.ringSys.clients) :
    (s.setRing r).system = s.system := by
  unfold setRing
  rw [h]
  rfl

/-- After boot, before the first byte. -/
structure Init (s : SerialPath ι) : Prop where
  system : s.system.Init
  ring : s.ringSys.Init

end SerialPath

inductive PathAction (ι : Type*)
  /-- a step of a producer or of a flush, but for the revalidation -/
  | task (a : RingAction ι)
  /-- `ws_revalidate_locked` -/
  | revalidate (env : Env)
  /-- a call on a connection -/
  | call (a : Action)
  /-- other tasks change the radio and the serial ports -/
  | background (wifi : Wifi) (serial : Serial)

inductive PathEvent (ι : Type*)
  | ring (e : RingEvent ι)
  | device (e : Event)

/-- The steps of the tasks that edit no table but through the send loop. -/
def RingAction.ofTask {ι : Type*} : RingAction ι → Bool
  | .revalidate _ | .handler _ => false
  | _ => true

/-- The calls the HTTP server makes on a connection. -/
def Call.onConnection : Call → Bool
  | .request _ | .frame _ _ | .close _ => true
  | .flush _ | .background _ _ => false

/-- What the device shows of the send loop, in a flush that read the clock as `now`. -/
def RingEvent.shown {ι : Type*} (now : ℕ) : RingEvent ι → List Event
  | .sent frame before slots _ _ => slots.map fun i => .sent i (before i).token frame now
  | _ => []

/-- An event of the ring with what the device shows of it. -/
def RingEvent.onPath {ι : Type*} (now : ℕ) (e : RingEvent ι) : List (PathEvent ι) :=
  .ring e :: (e.shown now).map .device

section

variable {ι : Type*} [DecidableEq ι] (pf : Platform)

def pathStep (s : SerialPath ι) : PathAction ι → Option (SerialPath ι × List (PathEvent ι))
  | .task a =>
      if s.system.running && a.ofTask then
        (ringStep s.ringSys a).map fun r => (s.setRing r.1, r.2.flatMap (·.onPath s.system.now))
      else none
  | .revalidate env =>
      if s.system.running = false ∨ env.now < s.system.now then none
      else
        let w := (revalidateClients env).final s.system.device.start
        (ringStep s.ringSys (.revalidate w.state.clients)).map fun r =>
          ((s.setRing r.1).setSystem ⟨env.now, true, w.state⟩, w.shown.map .device)
  | .call a =>
      if a.call.onConnection then
        (systemStep pf s.system a).bind fun v =>
          (ringStep s.ringSys (.handler v.1.device.clients)).map fun r =>
            ((s.setRing r.1).setSystem v.1, v.2.map .device)
      else none
  | .background wifi serial =>
      if s.system.running then some (s.setDrivers wifi serial, []) else none

/-- The device with the ring, its producers and the flushes in steps. -/
def pathMachine (ι : Type*) [DecidableEq ι] (pf : Platform) :
    Machine (SerialPath ι) (PathAction ι) (PathEvent ι) where
  step := pathStep pf

end

/-! ## The two sides of a trace -/

def PathEvent.ring? {ι : Type*} : PathEvent ι → Option (RingEvent ι)
  | .ring e => some e
  | .device _ => none

def PathEvent.device? {ι : Type*} : PathEvent ι → Option Event
  | .ring _ => none
  | .device e => some e

/-- What the ring shows of a trace. -/
def ringEvents {ι : Type*} (es : List (PathEvent ι)) : List (RingEvent ι) :=
  es.filterMap PathEvent.ring?

/-- What the device shows of a trace. -/
def deviceEvents {ι : Type*} (es : List (PathEvent ι)) : List Event :=
  es.filterMap PathEvent.device?

section

variable {ι : Type*}

@[simp] theorem ringEvents_append (es fs : List (PathEvent ι)) :
    ringEvents (es ++ fs) = ringEvents es ++ ringEvents fs := List.filterMap_append

@[simp] theorem deviceEvents_append (es fs : List (PathEvent ι)) :
    deviceEvents (es ++ fs) = deviceEvents es ++ deviceEvents fs := List.filterMap_append

@[simp] theorem ringEvents_device (es : List Event) :
    ringEvents (es.map (.device : Event → PathEvent ι)) = [] := by
  unfold ringEvents
  rw [List.filterMap_map]
  exact List.filterMap_eq_nil_iff.mpr fun _ _ => rfl

@[simp] theorem deviceEvents_device (es : List Event) :
    deviceEvents (es.map (.device : Event → PathEvent ι)) = es := by
  unfold deviceEvents
  rw [List.filterMap_map]
  exact List.filterMap_some

@[simp] theorem ringEvents_onPath (now : ℕ) (es : List (RingEvent ι)) :
    ringEvents (es.flatMap (·.onPath now)) = es := by
  induction es with
  | nil => rfl
  | cons e es ih =>
      have hfirst : ringEvents (e.onPath now) = [e] :=
        congrArg (e :: ·) (ringEvents_device (e.shown now))
      rw [List.flatMap_cons, ringEvents_append, hfirst, ih]
      rfl

@[simp] theorem deviceEvents_onPath (now : ℕ) (es : List (RingEvent ι)) :
    deviceEvents (es.flatMap (·.onPath now)) = es.flatMap (·.shown now) := by
  induction es with
  | nil => rfl
  | cons e es ih =>
      have hfirst : deviceEvents (e.onPath now) = e.shown now := deviceEvents_device (e.shown now)
      rw [List.flatMap_cons, deviceEvents_append, hfirst, ih, List.flatMap_cons]

end

/-! ## What a step does -/

section

variable {ι : Type*} [DecidableEq ι] {pf : Platform} {s t : SerialPath ι}

/-- The branches of `pathStep`. -/
inductive PathCase (pf : Platform) (s : SerialPath ι) :
    PathAction ι → SerialPath ι → List (PathEvent ι) → Prop
  | task {a : RingAction ι} {r : RingSys ι} {es : List (RingEvent ι)}
      (hrunning : s.system.running = true) (htask : a.ofTask = true)
      (hring : (ringMachine ι).step s.ringSys a = some (r, es)) :
      PathCase pf s (.task a) (s.setRing r) (es.flatMap (·.onPath s.system.now))
  | revalidate {env : Env} (hrunning : s.system.running = true) (htime : s.system.now ≤ env.now)
      (hflush : s.flush = .cleared) {w : World Device Event}
      (hrun : revalidateClients env s.system.device.start = .ok ⟨⟩ w) :
      PathCase pf s (.revalidate env)
        { s with system := ⟨env.now, true, w.state⟩, flush := .draining } (w.shown.map .device)
  | call {a : Action} {v : System} {es : List Event} (hcall : a.call.onConnection = true)
      (hflush : s.flush = .idle) (hsystem : (systemMachine pf).step s.system a = some (v, es)) :
      PathCase pf s (.call a) (s.setSystem v) (es.map .device)
  | background {wifi : Wifi} {serial : Serial} (hrunning : s.system.running = true) :
      PathCase pf s (.background wifi serial) (s.setDrivers wifi serial) []

theorem revalidateClients_returns (env : Env) (w : World Device Event) :
    ∃ v, revalidateClients env w = .ok ⟨⟩ v := by
  obtain ⟨v, -, hrun, -⟩ := chain_forM (revalidateClient_does env) (revalidateClient_returns env)
    (List.finRange maxWsClients) w
  exact ⟨v, hrun⟩

theorem pathStep_cases {a : PathAction ι} {es : List (PathEvent ι)}
    (h : (pathMachine ι pf).step s a = some (t, es)) : PathCase pf s a t es := by
  cases a with
  | task a =>
      change (if _ then _ else none) = _ at h
      split at h
      next hcond =>
        simp only [Bool.and_eq_true] at hcond
        obtain ⟨⟨r, fs⟩, hring, heq⟩ := Option.map_eq_some_iff.mp h
        obtain ⟨rfl, rfl⟩ := Prod.mk.inj heq
        exact .task hcond.1 hcond.2 hring
      next => cases h
  | revalidate env =>
      change (if _ then none else _) = _ at h
      split at h
      next => cases h
      next hcond =>
        simp only [not_or, Bool.not_eq_false, not_lt] at hcond
        obtain ⟨w, hrun⟩ := revalidateClients_returns env s.system.device.start
        rw [final_of_ok hrun] at h
        obtain ⟨⟨r, fs⟩, hring, heq⟩ := Option.map_eq_some_iff.mp h
        obtain ⟨rfl, rfl⟩ := Prod.mk.inj heq
        -- the ring takes this step from one place of the flush only
        have hflush : s.flush = .cleared := by
          cases hpc : s.flush <;> simp [ringStep, SerialPath.ringSys, hpc] at hring
          rfl
        simp only [ringStep, SerialPath.ringSys, hflush] at hring
        obtain ⟨rfl, -⟩ := Prod.mk.inj (Option.some.inj hring)
        exact .revalidate hcond.1 hcond.2 hflush hrun
  | call a =>
      change (if _ then _ else none) = _ at h
      split at h
      next hcall =>
        obtain ⟨⟨v, fs⟩, hsystem, hrest⟩ := Option.bind_eq_some_iff.mp h
        obtain ⟨⟨r, gs⟩, hring, heq⟩ := Option.map_eq_some_iff.mp hrest
        obtain ⟨rfl, rfl⟩ := Prod.mk.inj heq
        -- a call runs between two flushes
        have hflush : s.flush = .idle := by
          cases hpc : s.flush <;> simp [ringStep, SerialPath.ringSys, hpc] at hring
          rfl
        simp only [ringStep, SerialPath.ringSys, hflush] at hring
        obtain ⟨rfl, -⟩ := Prod.mk.inj (Option.some.inj hring)
        have hcase : PathCase pf s _ _ _ := .call hcall hflush hsystem
        simpa [SerialPath.setRing, SerialPath.setSystem, hflush] using hcase
      next => cases h
  | background wifi serial =>
      change (if _ then some _ else none) = _ at h
      split at h
      next hrunning =>
        obtain ⟨rfl, rfl⟩ := Prod.mk.inj (Option.some.inj h)
        exact .background hrunning
      next => cases h

/-! ## A flush in pieces -/

/-- The flush has been through `ws_revalidate_locked`. -/
def FlushPc.revalidated : FlushPc → Bool
  | .draining | .sending _ => true
  | .idle | .started | .cleared => false

/-- Behind the revalidation no client is due for a check at the reading of this flush. -/
def Settled (s : SerialPath ι) : Prop :=
  s.flush.revalidated = true → ∀ i, (s.system.device.clients i).active = true →
    s.system.now < (s.system.device.clients i).lastAuthUs + wsAuthRecheckUs

/-- Where no client is due, `ws_revalidate_locked` does nothing. -/
theorem revalidateClients_of_fresh {env : Env} {w : World Device Event}
    (h : ∀ i, Fresh env i w.state) : revalidateClients env w = .ok ⟨⟩ w := by
  have hround : ∀ i, revalidateClient env i w = .ok () w := by
    intro i
    unfold revalidateClient
    rw [bind_ok (read_apply _ _)]
    refine congrFun (if_neg ?_) w
    simp only [Bool.and_eq_true, decide_eq_true_eq, not_and, not_le]
    exact h i
  have hrounds : ∀ is : List (Fin maxWsClients), is.forM (revalidateClient env) w = .ok ⟨⟩ w := by
    intro is
    induction is with
    | nil => rfl
    | cons i is ih => exact (bind_ok (hround i)).trans ih
  exact hrounds _

/-- A flush that finds no client due hands out its frame. -/
theorem flush_of_fresh (pf : Platform) {env : Env} {d : Device} (h : ∀ i, Fresh env i d)
    (frame : Frame) (delivered : Fin maxWsClients → Bool) :
    ∃ w, callHandler pf env (.flush [(frame, delivered)]) d.start = .ok .accepted w ∧
      w.state = d.setClients (sendFrame frame delivered d.clients).1 ∧
      w.shown = (sendFrame frame delivered d.clients).2.map fun i =>
        .sent i (d.clients i).token frame env.now := by
  have hnothing : revalidateClients env d.start = .ok ⟨⟩ d.start := revalidateClients_of_fresh h
  have hrun : callHandler pf env (.flush [(frame, delivered)]) d.start = .ok .accepted _ :=
    bind_ok ((bind_ok hnothing).trans (bind_ok (act_apply _ _)))
  exact ⟨_, hrun, rfl, List.nil_append _⟩

/-- A flush of an empty ring revalidates. -/
theorem flush_nil (pf : Platform) {env : Env} {d : Device} {w : World Device Event}
    (hrun : revalidateClients env d.start = .ok ⟨⟩ w) :
    callHandler pf env (.flush []) d.start = .ok .accepted w :=
  bind_ok ((bind_ok hrun).trans rfl)

/-- A step of a task edits the table in the send loop alone. -/
theorem RingCase.table {s t : RingSys ι} {q q' : List Frame} {a : RingAction ι}
    {es : List (RingEvent ι)} (h : RingCase s q a t q' es) (htask : a.ofTask = true) (now : ℕ) :
    t.clients = s.clients ∧ es.flatMap (·.shown now) = [] ∨
      ∃ frame delivered, s.flush = .sending frame ∧
        t.clients = (sendFrame frame delivered s.clients).1 ∧
        es.flatMap (·.shown now) = (sendFrame frame delivered s.clients).2.map fun i =>
          .sent i (s.clients i).token frame now := by
  cases h with
  | @send frame delivered hflush =>
      exact .inr ⟨frame, delivered, hflush, rfl, List.append_nil _⟩
  | revalidate => cases htask
  | handler => cases htask
  | _ => exact .inl ⟨rfl, rfl⟩

/-- A flush is past the revalidation because it was before the step. -/
theorem RingCase.revalidated {s t : RingSys ι} {q q' : List Frame} {a : RingAction ι}
    {es : List (RingEvent ι)} (h : RingCase s q a t q' es) (htask : a.ofTask = true)
    (ht : t.flush.revalidated = true) : s.flush.revalidated = true := by
  cases h with
  | start => cases ht
  | clear => cases ht
  | observeEmpty => cases ht
  | revalidate => cases htask
  | pop hflush => exact congrArg _ hflush
  | send hflush => exact congrArg _ hflush
  | handler => cases htask
  | _ => exact ht

/-- What every step relies on. -/
structure PathInv (s : SerialPath ι) : Prop where
  holds : ∃ q, s.ring.Holds q
  settled : Settled s

omit [DecidableEq ι] in
theorem SerialPath.Init.inv (h : s.Init) : PathInv s where
  holds := ⟨[], h.ring.holds⟩
  settled hflush := by
    rw [show s.flush = .idle from h.ring.noFlush] at hflush
    cases hflush

theorem PathCase.inv {a : PathAction ι} {es : List (PathEvent ι)} (h : PathCase pf s a t es)
    (hs : PathInv s) : PathInv t := by
  cases h with
  | @task a r es hrunning htask hring =>
      obtain ⟨q, hq⟩ := hs.holds
      obtain ⟨q', hq', hcase⟩ := ringStep_cases (s := s.ringSys) hq hring
      refine ⟨⟨q', hq'⟩, fun hflush i hi => ?_⟩
      have hold := hs.settled (hcase.revalidated htask hflush)
      rcases hcase.table htask 0 with ⟨hclients, -⟩ | ⟨frame, delivered, -, hclients, -⟩
      · rw [SerialPath.setRing_system hclients] at hi ⊢
        exact hold i hi
      · simp only [SerialPath.setRing_device, Device.setClients_clients, hclients] at hi ⊢
        have hkept := sendFrame_eq_of_active hi
        rw [hkept] at hi ⊢
        exact hold i hi
  | @revalidate env hrunning htime hflush w hrun =>
      refine ⟨hs.holds, fun _ i hi => ?_⟩
      obtain ⟨v, es, hrun', -, hchain⟩ := chain_forM (revalidateClient_does env)
        (revalidateClient_returns env) (List.finRange maxWsClients) s.system.device.start
      obtain ⟨-, rfl⟩ := EStateM.Result.ok.inj (hrun.symm.trans hrun')
      exact fresh_of_revalidated hchain (.inl (List.mem_finRange i)) hi
  | call hcall hflush =>
      refine ⟨hs.holds, fun hdraining => ?_⟩
      change s.flush.revalidated = true at hdraining
      rw [hflush] at hdraining
      cases hdraining
  | background => exact ⟨hs.holds, hs.settled⟩

theorem path_inv {as : List (PathAction ι)} {es : List (PathEvent ι)}
    (hrun : (pathMachine ι pf).Run s as es t) (hs : PathInv s) : PathInv t :=
  hrun.invariant hs fun _ _ _ _ ht hstep => (pathStep_cases hstep).inv ht

/-! ## The run on either side -/

/-- What a call shows on the path.  A call shows its answer last, and the answer of a flush
or of a step of other tasks goes to nobody. -/
def Action.shows (a : Action) (es : List Event) : List Event :=
  if a.call.onConnection then es else es.dropLast

/-- The device, as the path shows it. -/
def shownMachine (pf : Platform) : Machine System Action Event :=
  (systemMachine pf).viewed Action.shows

/-- A call on a connection is seen as it is. -/
theorem shownMachine_of_onConnection {v w : System} {a : Action} {es : List Event}
    (ha : a.call.onConnection = true) (hstep : (systemMachine pf).step v a = some (w, es)) :
    (shownMachine pf).step v a = some (w, es) := by
  have hshows : a.shows es = es := if_pos ha
  exact hshows ▸ Machine.viewed_step hstep

/-- Any other call is seen without its answer. -/
theorem shownMachine_of_answered {v w : System} {a : Action} {es : List Event}
    {response : Response} (ha : a.call.onConnection = false)
    (hstep : (systemMachine pf).step v a = some (w, es ++ [.answered response])) :
    (shownMachine pf).step v a = some (w, es) := by
  have hshows : a.shows (es ++ [.answered response]) = es := by
    unfold Action.shows
    rw [ha]
    exact List.dropLast_concat
  exact hshows ▸ Machine.viewed_step hstep

/-- The call on a connection that a step runs. -/
def PathAction.call? : PathAction ι → Option Action
  | .call a => some a
  | _ => none

/-- The device takes this step as one call, or does not notice it. -/
theorem PathCase.onSystem {a : PathAction ι} {es : List (PathEvent ι)} (h : PathCase pf s a t es)
    (hs : PathInv s) :
    ∃ bs, (shownMachine pf).Run s.system bs (deviceEvents es) t.system ∧
      bs.filter (·.call.onConnection) = [a].filterMap PathAction.call? := by
  cases h with
  | @task a r es hrunning htask hring =>
      obtain ⟨q, hq⟩ := hs.holds
      obtain ⟨q', hq', hcase⟩ := ringStep_cases (s := s.ringSys) hq hring
      rw [deviceEvents_onPath]
      rcases hcase.table htask s.system.now with
        ⟨hclients, hshown⟩ | ⟨frame, delivered, hflush, hclients, hshown⟩
      · rw [SerialPath.setRing_system hclients, hshown]
        exact ⟨[], .nil, rfl⟩
      · -- behind the revalidation a second one at the same reading finds nobody due
        have hsettled : ∀ i, Fresh (demoEnv s.system.now []) i s.system.device :=
          hs.settled (congrArg _ hflush)
        obtain ⟨w, hcall, hstate, hw⟩ := flush_of_fresh pf hsettled frame delivered
        have hstep := systemStep_of_ok (a := ⟨demoEnv s.system.now [], _⟩) hrunning le_rfl hcall
        have hnext : (⟨s.system.now, true, w.state⟩ : System) = (s.setRing r).system := by
          rw [hstate, ← hrunning]
          unfold SerialPath.setRing
          rw [hclients]
          rfl
        have hseen := shownMachine_of_answered rfl hstep
        rw [hw.trans hshown.symm] at hseen
        exact ⟨[_], hnext ▸ Machine.Run.single hseen, rfl⟩
  | revalidate hrunning htime hflush hrun =>
      have hstep : (systemMachine pf).step s.system ⟨_, .flush []⟩ = _ :=
        systemStep_of_ok hrunning htime (flush_nil pf hrun)
      rw [deviceEvents_device]
      exact ⟨[_], .single (shownMachine_of_answered rfl hstep), rfl⟩
  | call hcall hflush hsystem =>
      rw [deviceEvents_device]
      refine ⟨[_], .single (shownMachine_of_onConnection hcall hsystem), ?_⟩
      rw [List.filter_singleton, hcall]
      rfl
  | @background wifi serial hrunning =>
      have hstep : (systemMachine pf).step s.system
          ⟨demoEnv s.system.now [], .background wifi serial⟩ = _ :=
        systemStep_of_ok hrunning le_rfl rfl
      have hnext : (⟨s.system.now, true, (s.setDrivers wifi serial).system.device⟩ : System) =
          (s.setDrivers wifi serial).system := by
        rw [← hrunning]
        rfl
      have hseen : (shownMachine pf).step s.system _ = some (_, []) :=
        shownMachine_of_answered rfl hstep
      exact ⟨[_], hnext ▸ Machine.Run.single hseen, rfl⟩

/-- The ring machine takes every step but those of other tasks as one of its own. -/
theorem PathCase.onRing {a : PathAction ι} {es : List (PathEvent ι)} (h : PathCase pf s a t es) :
    ∃ as, (ringMachine ι).Run s.ringSys as (ringEvents es) t.ringSys := by
  cases h with
  | @task a r es hrunning htask hring =>
      rw [ringEvents_onPath]
      exact ⟨[a], .single hring⟩
  | @revalidate env hrunning htime hflush w hrun =>
      rw [ringEvents_device]
      refine ⟨[.revalidate w.state.clients], .single ?_⟩
      simp only [ringMachine, ringStep, SerialPath.ringSys, hflush]
  | @call a v es hcall hflush hsystem =>
      rw [ringEvents_device]
      refine ⟨[.handler v.device.clients], .single ?_⟩
      simp only [ringMachine, ringStep, SerialPath.ringSys, SerialPath.setSystem, hflush]
  | background => exact ⟨[], .nil⟩

theorem path_onRing {as : List (PathAction ι)} {es : List (PathEvent ι)}
    (hrun : (pathMachine ι pf).Run s as es t) :
    ∃ as, (ringMachine ι).Run s.ringSys as (ringEvents es) t.ringSys := by
  induction hrun with
  | nil => exact ⟨[], .nil⟩
  | snoc _ hstep ih =>
      obtain ⟨as, has⟩ := ih
      obtain ⟨bs, hbs⟩ := (pathStep_cases hstep).onRing
      rw [ringEvents_append]
      exact ⟨as ++ bs, has.append hbs⟩

theorem path_onSystem {as : List (PathAction ι)} {es : List (PathEvent ι)}
    (hrun : (pathMachine ι pf).Run s as es t) (hs : PathInv s) :
    ∃ bs, (shownMachine pf).Run s.system bs (deviceEvents es) t.system ∧
      bs.filter (·.call.onConnection) = as.filterMap PathAction.call? := by
  induction hrun with
  | nil => exact ⟨[], .nil, rfl⟩
  | snoc hbefore hstep ih =>
      obtain ⟨bs, hbs, hcalls⟩ := ih
      obtain ⟨cs, hcs, hcall⟩ := (pathStep_cases hstep).onSystem (path_inv hbefore hs)
      refine ⟨bs ++ cs, ?_, ?_⟩
      · rw [deviceEvents_append]
        exact hbs.append hcs
      · rw [List.filter_append, List.filterMap_append, hcalls, hcall]

end

/-- A device with two producers that have sent nothing yet. -/
def demoPath : SerialPath Bool where
  system := demoSystem
  server := true
  ring := ringAtBoot.ring
  queued := 0
  flush := .idle
  producer := fun _ => .idle

theorem demoPath_init : demoPath.Init := ⟨demoSystem_init, rfl, rfl, rfl, rfl, fun _ => rfl⟩

/-- A client logs in and opens a terminal, and a byte of serial output reaches it. -/
def demoPathRun : List (PathAction Bool) :=
  [.call (demoLogin 1), .call (demoHandshake 2), .task (.call false [0x41] 0), .task (.push false),
    .task (.queueWork false true), .task .start, .task .clear, .revalidate (demoEnv 3 []),
    .task .pop, .task (.send fun _ => true)]

/-- A run with the flushes in steps is a run of the device with the same calls on its
connections, which shows the same, and a run of the ring machine, which shows the same. -/
theorem serial_path_refines {ι : Type*} [DecidableEq ι] {pf : Platform} {s t : SerialPath ι}
    {as : List (PathAction ι)} {es : List (PathEvent ι)} (hinit : s.Init)
    (hrun : (pathMachine ι pf).Run s as es t) :
    (∃ bs, (shownMachine pf).Run s.system bs (deviceEvents es) t.system ∧
      bs.filter (·.call.onConnection) = as.filterMap PathAction.call?) ∧
    ∃ bs, (ringMachine ι).Run s.ringSys bs (ringEvents es) t.ringSys :=
  ⟨path_onSystem hrun hinit.inv, path_onRing hrun⟩

theorem serial_path_refines_byte :
    ∃ t es, (pathMachine Bool demoParser).Run demoPath demoPathRun es t ∧
      (t.system.device.clients 0).active = true ∧
      (∃ bs, (shownMachine demoParser).Run demoPath.system bs (deviceEvents es) t.system ∧
        bs.filter (·.call.onConnection) = [demoLogin 1, demoHandshake 2]) ∧
      ∃ bs, (ringMachine Bool).Run demoPath.ringSys bs (ringEvents es) t.ringSys := by
  obtain ⟨t, es, hrun, hopen⟩ := Machine.Run.exists_of_exec (M := pathMachine Bool demoParser)
    (s := demoPath) (p := fun t _ => (t.system.device.clients 0).active)
    (show ((pathMachine _ demoParser).exec demoPath demoPathRun).any _ = true by decide +kernel)
  exact ⟨t, es, hrun, hopen, serial_path_refines demoPath_init hrun⟩

end WebTerminal
