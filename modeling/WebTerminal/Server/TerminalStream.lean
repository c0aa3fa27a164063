import WebTerminal.Server.Connections
import WebTerminal.Server.Revocation
import WebTerminal.Server.SerialPath

/-!
# What a terminal sees of its port

A client that was registered in a slot and is still there has been sent, since then, the
chunks of its port that were popped since then: in order, each once, and none left out.
What was popped is a stretch of what the producers stored (`ring_queue`), so between its
handshake and now a terminal sees one contiguous stretch of the output of its port.

The induction is on the run, with the events since the registration as a trace of their
own.  The frame in the hands of a flush is popped and not yet sent.
-/

set_option autoImplicit false

namespace WebTerminal

open Proc

/-- A client of this port is to get the frame. -/
def Frame.goesTo (port : ℤ) (frame : Frame) : Bool := decide (frame.port < 0) || port == frame.port

theorem wants_of_active {client : WsClient} (h : client.active = true) (frame : Frame) :
    wants frame client = frame.goesTo client.portIndex := by
  unfold wants
  rw [h]
  rfl

section

variable {ι : Type*}

/-- The frame a send handed to slot `i`, if the driver took it. -/
def RingEvent.takenBy (i : Fin maxWsClients) : RingEvent ι → Option Frame
  | .sent frame _ slots delivered _ => if i ∈ slots ∧ delivered i = true then some frame else none
  | _ => none

/-- The frames the driver took for slot `i`. -/
def framesTo (i : Fin maxWsClients) (es : List (RingEvent ι)) : List Frame :=
  es.filterMap (RingEvent.takenBy i)

/-- The frames popped, oldest first. -/
def poppedFrames (es : List (RingEvent ι)) : List Frame := (pops es).map WsTxSlot.frame

@[simp] theorem framesTo_append (i : Fin maxWsClients) (es fs : List (RingEvent ι)) :
    framesTo i (es ++ fs) = framesTo i es ++ framesTo i fs := List.filterMap_append

@[simp] theorem poppedFrames_append (es fs : List (RingEvent ι)) :
    poppedFrames (es ++ fs) = poppedFrames es ++ poppedFrames fs := by
  unfold poppedFrames pops
  rw [List.filterMap_append, List.map_append]

/-- Since the events `es` began, the client in slot `i` has been sent what was popped for
its port. -/
def InTune (i : Fin maxWsClients) (es : List (RingEvent ι)) (s : RingSys ι) : Prop :=
  (s.clients i).active = true →
    (poppedFrames es).filter (Frame.goesTo (s.clients i).portIndex) =
      framesTo i es ++ s.flush.inHand.filter (Frame.goesTo (s.clients i).portIndex)

/-- What leaves the client, the frames popped and sent and the frame in hand as they were. -/
theorem InTune.congr {i : Fin maxWsClients} {es : List (RingEvent ι)} {s t : RingSys ι}
    (h : InTune i es s)
    (hclient : (t.clients i).active = true → t.clients i = s.clients i)
    (hhand : t.flush.inHand = s.flush.inHand) : InTune i es t := by
  intro hi
  have hsame := hclient hi
  rw [hsame] at hi ⊢
  rw [hhand]
  exact h hi

/-- The send loop leaves an active client that has the frame if it is for its port. -/
theorem framesTo_sendFrame {i : Fin maxWsClients} {frame : Frame}
    {delivered : Fin maxWsClients → Bool} {clients : WsClients} (after : WsClients)
    (hi : ((sendFrame frame delivered clients).1 i).active = true) :
    framesTo i [(.sent frame clients (sendFrame frame delivered clients).2 delivered after :
      RingEvent ι)] = [frame].filter (Frame.goesTo (clients i).portIndex) := by
  have hkept := sendFrame_eq_of_active hi
  have hactive : (clients i).active = true := hkept ▸ hi
  have htook : wants frame (clients i) = true → delivered i = true := by
    intro hwants
    by_contra hfailed
    rw [sendFrame_clients, if_pos ⟨hwants, Bool.eq_false_of_not_eq_true hfailed⟩] at hi
    cases hi
  unfold framesTo RingEvent.takenBy
  by_cases hwants : wants frame (clients i) = true
  · have hgoes := (wants_of_active hactive frame).symm.trans hwants
    simp [mem_sendFrame_sent, hwants, htook hwants, hgoes]
  · have hgoes : frame.goesTo (clients i).portIndex = false :=
      (wants_of_active hactive frame).symm.trans (Bool.eq_false_of_not_eq_true hwants)
    simp [mem_sendFrame_sent, hwants, hgoes]

/-- A step of the ring keeps every client in tune. -/
theorem RingCase.inTune [DecidableEq ι] {s t : RingSys ι} {q q' : List Frame} {a : RingAction ι}
    {es fs : List (RingEvent ι)} (h : RingCase s q a t q' fs) (htask : a.ofTask = true)
    {i : Fin maxWsClients} (hs : InTune i es s) : InTune i (es ++ fs) t := by
  -- an event that neither pops nor sends
  have still : ∀ {gs : List (RingEvent ι)}, poppedFrames gs = [] → framesTo i gs = [] →
      InTune i es t → InTune i (es ++ gs) t := by
    intro gs hpopped hsent ht hi
    rw [poppedFrames_append, framesTo_append, hpopped, hsent, List.append_nil, List.append_nil]
    exact ht hi
  cases h with
  | revalidate => cases htask
  | handler => cases htask
  | start hflush =>
      exact still rfl rfl (hs.congr (fun _ => rfl) (by rw [hflush]; rfl))
  | clear hflush =>
      exact still rfl rfl (hs.congr (fun _ => rfl) (by rw [hflush]; rfl))
  | observeEmpty hflush =>
      exact still rfl rfl (hs.congr (fun _ => rfl) (by rw [hflush]; rfl))
  | @pop slot q' hflush =>
      intro hi
      have hbefore := hs hi
      rw [hflush] at hbefore
      calc (poppedFrames (es ++ [.popped slot])).filter (Frame.goesTo (s.clients i).portIndex)
          = (poppedFrames es).filter (Frame.goesTo (s.clients i).portIndex) ++
              [slot.frame].filter (Frame.goesTo (s.clients i).portIndex) := by
            rw [poppedFrames_append, List.filter_append]
            rfl
        _ = framesTo i es ++ [slot.frame].filter (Frame.goesTo (s.clients i).portIndex) := by
            rw [hbefore]
            exact congrArg (· ++ _) (List.append_nil _)
        _ = framesTo i (es ++ [.popped slot]) ++
              [slot.frame].filter (Frame.goesTo (s.clients i).portIndex) := by
            rw [framesTo_append]
            exact congrArg (· ++ _) (List.append_nil _).symm
  | @send frame delivered hflush =>
      intro hi
      have hkept := sendFrame_eq_of_active hi
      have hsent : framesTo i [(.sent frame s.clients _ delivered _ : RingEvent ι)] = _ :=
        framesTo_sendFrame (sendFrame frame delivered s.clients).1 hi
      simp only [hkept] at hi ⊢
      have hbefore := hs hi
      rw [hflush] at hbefore
      rw [poppedFrames_append, framesTo_append, hsent, List.filter_append, hbefore]
      rfl
  | _ => exact still rfl rfl (hs.congr (fun _ => rfl) rfl)

end

/-! ## Steps of the device -/

/-- A call that registers nobody in a slot leaves a client that stays as it was. -/
theorem CallCase.unregistered {pf : Platform} {env : Env} {d d' : Device} {call : Call}
    {es : List Event} (hcase : CallCase pf env d call d' es) (hcall : call.onConnection = true)
    {i : Fin maxWsClients} (hnew : ∀ fd token, .registered i fd token ∉ es)
    (hi : (d'.clients i).active = true) : d'.clients i = d.clients i := by
  cases hcase with
  | checked hpre => exact congrFun hpre.clients i
  | revoked => cases (revoked_inactive _ i).symm.trans hi
  | @registered req d₁ es token j clients hpre hoffers hvalid hunlocked hadd =>
      have hij : i ≠ j := by
        rintro rfl
        exact hnew req.fd (copyToken token) (by simp)
      exact (wsAddClient_some hadd).2 i hij
  | socketEvicted => exact deactivate_eq_of_active hi
  | socketRemoved => exact wsRemoveClient_eq_of_active hi
  | closed => exact wsRemoveClient_eq_of_active hi
  | flushed => cases hcall
  | background => cases hcall
  | _ => rfl

/-- A revalidation leaves a client that stays on its port. -/
theorem revalidated_portIndex (pf : Platform) {env : Env} {d : Device} {w : World Device Event}
    (hrun : revalidateClients env d.start = .ok ⟨⟩ w) {i : Fin maxWsClients}
    (hi : (w.state.clients i).active = true) :
    (d.clients i).active = true ∧ (w.state.clients i).portIndex = (d.clients i).portIndex := by
  have hadded : Does NoneAdded (callHandler pf env (.flush [])) :=
    callHandler_noneAdded pf env fun _ h => by cases h
  obtain ⟨es, -, hnone⟩ := hadded d.start
  rw [final_of_ok (flush_nil pf hrun)] at hnone
  obtain ⟨hactive, hentry⟩ := WsClient.active_of_entry (hnone i _ (WsClient.entry_of_active hi))
  exact ⟨hactive, congrArg WsEntry.portIndex hentry⟩

section

variable {ι : Type*} [DecidableEq ι] {pf : Platform} {s t : SerialPath ι}

/-- The event that puts a client in slot `i`. -/
abbrev enters (i : Fin maxWsClients) (fd : ℤ) (token : CString) : PathEvent ι :=
  .device (.registered i fd token)

/-- A step keeps in tune every client it does not register. -/
theorem PathCase.inTune {a : PathAction ι} {fs : List (PathEvent ι)} (h : PathCase pf s a t fs)
    (hs : PathInv s) {i : Fin maxWsClients} (hnew : ∀ fd token, enters i fd token ∉ fs)
    {es : List (RingEvent ι)} (htune : InTune i es s.ringSys) :
    InTune i (es ++ ringEvents fs) t.ringSys := by
  cases h with
  | @task a r es hrunning htask hring =>
      obtain ⟨q, hq⟩ := hs.holds
      obtain ⟨q', -, hcase⟩ := ringStep_cases (s := s.ringSys) hq hring
      rw [ringEvents_onPath]
      exact hcase.inTune htask htune
  | @revalidate env hrunning htime hflush w hrun =>
      rw [ringEvents_device, List.append_nil]
      intro hi
      obtain ⟨hactive, hport⟩ := revalidated_portIndex pf hrun hi
      have hbefore := htune hactive
      rw [show s.ringSys.flush = .cleared from hflush] at hbefore
      calc (poppedFrames es).filter (Frame.goesTo (w.state.clients i).portIndex)
          = (poppedFrames es).filter (Frame.goesTo (s.system.device.clients i).portIndex) := by
            rw [hport]
        _ = framesTo i es ++ [] := hbefore
  | @call a v es hcall hflush hsystem =>
      rw [ringEvents_device, List.append_nil]
      obtain ⟨-, -, -, shown, answer, rfl, hcase⟩ := systemStep_cases hsystem
      refine htune.congr (hcase.unregistered hcall fun fd token hmem => ?_) rfl
      exact hnew fd token (List.mem_map_of_mem (List.mem_append_left _ hmem))
  | background =>
      rw [show ringEvents [] = ([] : List (RingEvent ι)) from rfl, List.append_nil]
      exact htune.congr (fun _ => rfl) rfl

/-- A client is registered by a call, while no flush runs. -/
theorem PathCase.registers {a : PathAction ι} {fs : List (PathEvent ι)} (h : PathCase pf s a t fs)
    {i : Fin maxWsClients} {fd : ℤ} {token : CString} (hmem : enters i fd token ∈ fs) :
    ringEvents fs = [] ∧ t.flush = .idle := by
  cases h with
  | task =>
      obtain ⟨e, -, he⟩ := List.mem_flatMap.mp hmem
      rcases List.mem_cons.mp he with heq | he
      · cases heq
      obtain ⟨e', hshown, heq⟩ := List.mem_map.mp he
      cases heq
      cases e <;> simp [RingEvent.shown] at hshown
  | @revalidate env hrunning htime hflush w hrun =>
      obtain ⟨e, hshown, heq⟩ := List.mem_map.mp hmem
      cases heq
      have hflushed := flush_ofFlush env [] s.system.device
      rw [final_of_ok (show flushWork env [] s.system.device.start = .ok ⟨⟩ w from
        (bind_ok hrun).trans rfl)] at hflushed
      exact (hflushed _ hshown).elim
  | call hcall hflush => exact ⟨ringEvents_device _, hflush⟩
  | background => cases hmem

/-- Every client is in tune since it was registered. -/
def AllInTune (es : List (PathEvent ι)) (s : SerialPath ι) : Prop :=
  ∀ pre i fd token post, es = pre ++ enters i fd token :: post →
    (∀ fd token, enters i fd token ∉ post) → InTune i (ringEvents post) s.ringSys

theorem PathCase.allInTune {a : PathAction ι} {es fs : List (PathEvent ι)}
    (h : PathCase pf s a t fs) (hs : PathInv s) (htune : AllInTune es s) :
    AllInTune (es ++ fs) t := by
  intro pre i fd token post heq hlast
  -- the registration is in this step, or it was before it
  have hnow : ∀ mid, fs = mid ++ enters i fd token :: post →
      InTune i (ringEvents post) t.ringSys := by
    rintro mid rfl
    have hentry : enters i fd token ∈ mid ++ enters i fd token :: post := by simp
    obtain ⟨hring, hidle⟩ := h.registers hentry
    have hnothing : ringEvents post = [] := by
      rw [ringEvents_append] at hring
      exact (List.append_eq_nil_iff.mp hring).2
    rw [hnothing]
    intro _
    rw [show t.ringSys.flush = .idle from hidle]
    rfl
  rcases List.append_eq_append_iff.mp heq with ⟨mid, -, hfs⟩ | ⟨mid, hes, hpost⟩
  · exact hnow mid hfs
  · cases mid with
    | nil => exact hnow [] hpost.symm
    | cons e mid =>
        rw [List.cons_append] at hpost
        obtain ⟨rfl, rfl⟩ := List.cons.inj hpost
        rw [ringEvents_append]
        refine h.inTune hs (fun fd token hmem => hlast fd token ?_)
          (htune pre i fd token mid hes ?_)
        · exact List.mem_append_right _ hmem
        · exact fun fd token hmem => hlast fd token (List.mem_append_left _ hmem)

/-- What was popped is what was stored, less what the ring still holds. -/
theorem ring_queue {r r' : RingSys ι} {as : List (RingAction ι)} {es : List (RingEvent ι)}
    (hinit : r.Init) (hrun : (ringMachine ι).Run r as es r') :
    ∃ q, r'.ring.Holds q ∧ pushes es = poppedFrames es ++ q := by
  suffices hqueue : ∃ q, r'.ring.Holds q ∧ (∀ i, (r'.producer i).Busy) ∧ QueueInv es r' q by
    obtain ⟨q, hq, -, hinv⟩ := hqueue
    exact ⟨q, hq, hinv.fifo⟩
  apply hrun.history (P := fun _ => True) (I := fun es r => ∃ q, r.ring.Holds q ∧
    (∀ i, (r.producer i).Busy) ∧ QueueInv es r q)
  · exact fun _ _ h => h
  · refine ⟨[], hinit.holds, fun i => ?_, rfl, by simp [pushes], by simp [pops],
      Machine.throughout_nil _, ?_, by simp⟩
    · rw [hinit.noProducer i]
      trivial
    · rw [hinit.noFlush]
      rfl
  · rintro es r a u fs - ⟨q, hq, hbusy, hinv⟩ hstep
    obtain ⟨q', hq', hcase⟩ := ringStep_cases hq hstep
    exact ⟨q', hq', ringCase_busy hcase hbusy, ringCase_queue hcase hbusy hinv⟩
  · trivial

/-- A terminal that is still open has been sent, since its handshake, one contiguous stretch
`seen` of the chunks stored: those for its port, in order, each taken by the driver once.
Before it lies what was popped before the handshake, behind it what the ring still holds;
the frame in the hands of a flush is about to be sent. -/
theorem terminal_sees_stream {as : List (PathAction ι)} {es pre post : List (PathEvent ι)}
    {i : Fin maxWsClients} {fd : ℤ} {token : CString} (hinit : s.Init)
    (hrun : (pathMachine ι pf).Run s as es t)
    (hes : es = pre ++ .device (.registered i fd token) :: post)
    (hlast : ∀ fd token, .device (.registered i fd token) ∉ post)
    (hopen : (t.system.device.clients i).active = true) :
    ∃ seen waiting : List Frame, t.ring.Holds waiting ∧
      pushes (ringEvents es) = poppedFrames (ringEvents pre) ++ seen ++ waiting ∧
      seen.filter (Frame.goesTo (t.system.device.clients i).portIndex) =
        framesTo i (ringEvents post) ++
          t.flush.inHand.filter (Frame.goesTo (t.system.device.clients i).portIndex) := by
  have htune : AllInTune es t := by
    refine (hrun.history (P := fun _ => True) (I := fun es t => AllInTune es t ∧ PathInv t)
      (fun _ _ h => h) ⟨?_, hinit.inv⟩ ?_ trivial).1
    · intro pre i fd token post heq
      simp at heq
    · rintro es t a u fs - ⟨htune, hinv⟩ hstep
      have hcase := pathStep_cases hstep
      exact ⟨hcase.allInTune hinv htune, hcase.inv hinv⟩
  obtain ⟨bs, hring⟩ := path_onRing hrun
  obtain ⟨waiting, hholds, hqueue⟩ := ring_queue hinit.ring hring
  refine ⟨poppedFrames (ringEvents post), waiting, hholds, ?_, ?_⟩
  · have hpopped : poppedFrames (ringEvents es) =
        poppedFrames (ringEvents pre) ++ poppedFrames (ringEvents post) := by
      rw [hes, ringEvents_append, poppedFrames_append]
      rfl
    rw [hqueue, hpopped]
  · exact htune pre i fd token post hes hlast hopen

end

/-- Somebody is registered in slot `i`. -/
def PathEvent.isEntry {ι : Type*} (i : Fin maxWsClients) : PathEvent ι → Bool
  | .device (.registered j _ _) => i == j
  | _ => false

theorem PathEvent.of_isEntry {ι : Type*} {i : Fin maxWsClients} {e : PathEvent ι}
    (h : e.isEntry i = true) : ∃ fd token, e = enters i fd token := by
  cases e with
  | ring => cases h
  | device e =>
      cases e with
      | registered j fd token =>
          obtain rfl : i = j := eq_of_beq h
          exact ⟨fd, token, rfl⟩
      | _ => cases h

/-- One byte on its way from a producer to the terminal that a login opened. -/
theorem terminal_sees_stream_byte :
    ∃ t es pre fd token post, (pathMachine Bool demoParser).Run demoPath demoPathRun es t ∧
      es = pre ++ .device (.registered 0 fd token) :: post ∧
      framesTo 0 (ringEvents es) = [⟨0, [0x41]⟩] ∧
      ∃ seen waiting : List Frame, t.ring.Holds waiting ∧
        pushes (ringEvents es) = poppedFrames (ringEvents pre) ++ seen ++ waiting ∧
        seen.filter (Frame.goesTo (t.system.device.clients 0).portIndex) =
          framesTo 0 (ringEvents post) ++
            t.flush.inHand.filter (Frame.goesTo (t.system.device.clients 0).portIndex) := by
  obtain ⟨t, es, hrun, hchecks⟩ := Machine.Run.exists_of_exec (M := pathMachine Bool demoParser)
    (s := demoPath) (p := fun t es => es.countP (PathEvent.isEntry 0) == 1 &&
      (t.system.device.clients 0).active && framesTo 0 (ringEvents es) == [⟨0, [0x41]⟩])
    (show ((pathMachine _ demoParser).exec demoPath demoPathRun).any _ = true by decide +kernel)
  simp only [Bool.and_eq_true, beq_iff_eq] at hchecks
  obtain ⟨⟨hone, hopen⟩, hsent⟩ := hchecks
  obtain ⟨e, hmem, hentry⟩ : ∃ e ∈ es, PathEvent.isEntry 0 e = true :=
    List.countP_pos_iff.mp (by omega)
  obtain ⟨pre, post, hes⟩ := List.append_of_mem hmem
  obtain ⟨fd, token, rfl⟩ := PathEvent.of_isEntry hentry
  have hlast : ∀ fd token, enters 0 fd token ∉ post := by
    intro fd' token' hpost
    have hagain : 0 < post.countP (PathEvent.isEntry 0) :=
      List.countP_pos_iff.mpr ⟨_, hpost, rfl⟩
    rw [hes, List.countP_append, List.countP_cons_of_pos hentry] at hone
    omega
  exact ⟨t, es, pre, fd, token, post, hrun, hes, hsent,
    terminal_sees_stream demoPath_init hrun hes hlast hopen⟩

end WebTerminal
