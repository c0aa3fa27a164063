import WebTerminal.Server.HandlerRules
import WebTerminal.Server.Sockets

/-!
# Revocation reaches the sockets

A token dies by expiry, by a logout, by a credential change or because a login
takes its slot.  The sockets that were opened with it notice: a data frame is
relayed only after its token was validated in the same step, a flush sends only
to sockets whose token was accepted less than a second ago, and a socket whose
token is found invalid gets nothing more.
-/

set_option autoImplicit false

namespace WebTerminal

open Proc

/-- The slot was evicted, or every slot was. -/
def Event.closes (i : Fin maxWsClients) : Event → Prop
  | .evicted j => j = i
  | .credentialsChanged => True
  | _ => False

/-- Every rejection is followed by the eviction of a slot with that token. -/
def Evicting (d : Device) (es : List Event) : Prop :=
  ∀ pre token time post, es = pre ++ .rejected token time :: post →
    ∃ i post', post = .evicted i :: post' ∧ (d.clients i).active = true ∧
      (d.clients i).token = token

/-- A frame is sent to a slot that is open, with the token it was opened with,
which was accepted less than a second before. -/
def SentFresh (h : List Event) : Event → Prop
  | .sent i token _ time =>
      slotOpen i h = true ∧ (∃ fd, .registered i fd token ∈ h) ∧
        ∃ time', .accepted token time' ∈ h ∧ time' ≤ time ∧ time < time' + wsAuthRecheckUs
  | _ => True

/-- What a step after the history `h` owes to revoked tokens. -/
structure RevokingStep (env : Env) (h : List Event) (d : Device) (call : Call) (es : List Event) :
    Prop where
  relayed : ∀ fd port data, .relayed fd port data ∈ es →
    ∃ i, findFd fd d.clients = some i ∧ .registered i fd (d.clients i).token ∈ h ∧
      d.validates env (d.clients i).token = true
  found : (∀ req, call ≠ .request req) → Evicting d es

/-- Revocation reaches the sockets in a run from `s` along `as` to `t`. -/
structure RevocationReaches (pf : Platform) (s : System) (as : List Action) (es : List Event)
    (t : System) : Prop where
  accepted : ∀ pre i token frame time post, es = pre ++ .sent i token frame time :: post →
    (∃ fd, .registered i fd token ∈ pre) ∧
      ∃ time', .accepted token time' ∈ pre ∧ time' ≤ time ∧ time < time' + wsAuthRecheckUs
  closed : ∀ pre e mid i token frame time post, e.closes i →
    es = pre ++ e :: mid ++ .sent i token frame time :: post →
    ∃ fd token', .registered i fd token' ∈ mid
  inactive : ∀ pre e post i, e.closes i → es = pre ++ e :: post →
    (t.device.clients i).active = true → ∃ fd token', .registered i fd token' ∈ post
  steps : ∀ pre a post h u v fs, as = pre ++ a :: post → (systemMachine pf).Run s pre h u →
    (systemMachine pf).step u a = some (v, fs) → RevokingStep a.env h u.device a.call fs
  /-- unless the device resets -/
  changed : ∀ pre a post h u v fs, as = pre ++ a :: post → (systemMachine pf).Run s pre h u →
    (systemMachine pf).step u a = some (v, fs) → v.running = true →
    u.device.board.config.SameCredentials v.device.board.config ∨ .credentialsChanged ∈ fs

/-! ## Open slots -/

theorem slotOpen_snoc_closes {i : Fin maxWsClients} {e : Event} (he : e.closes i)
    (h : List Event) : slotOpen i (h ++ [e]) = false := by
  unfold slotOpen
  cases e with
  | evicted j =>
      obtain rfl := he
      simp
  | credentialsChanged => simp
  | _ => cases he

/-- A slot that is open was open before or has been registered since. -/
theorem slotOpen_append {i : Fin maxWsClients} {h es : List Event}
    (hopen : slotOpen i (h ++ es) = true) :
    slotOpen i h = true ∨ ∃ fd token, .registered i fd token ∈ es := by
  induction es using List.reverseRecOn with
  | nil => exact .inl (by simpa using hopen)
  | append_singleton es e ih =>
      have hstep : slotOpen i (h ++ es) = true ∨ ∃ fd token, e = .registered i fd token := by
        rw [← List.append_assoc] at hopen
        unfold slotOpen at hopen ⊢
        rw [List.foldl_append, List.foldl_cons, List.foldl_nil] at hopen
        cases e <;> simp_all
      rcases hstep with hbefore | ⟨fd, token, rfl⟩
      · exact (ih hbefore).imp id fun ⟨fd, token, hmem⟩ => ⟨fd, token, by simp [hmem]⟩
      · exact .inr ⟨fd, token, by simp⟩

/-- A slot that is open after it was closed has been registered since. -/
theorem registered_of_slotOpen {i : Fin maxWsClients} {pre post : List Event} {e : Event}
    (he : e.closes i) (hopen : slotOpen i (pre ++ e :: post) = true) :
    ∃ fd token, .registered i fd token ∈ post := by
  rw [← List.singleton_append, ← List.append_assoc] at hopen
  rcases slotOpen_append hopen with hclosed | hregistered
  · rw [slotOpen_snoc_closes he] at hclosed
    cases hclosed
  · exact hregistered

/-! ## Rejections -/

theorem evicting_of_not_rejected {d : Device} {es : List Event}
    (hes : ∀ token time, .rejected token time ∉ es) : Evicting d es := by
  rintro pre token time post rfl
  exact absurd (by simp) (hes token time)

theorem evicting_pair {d : Device} {i : Fin maxWsClients} (hi : (d.clients i).active = true)
    (time : ℕ) : Evicting d [.rejected (d.clients i).token time, .evicted i] := by
  intro pre token time' post heq
  cases pre with
  | nil =>
      simp only [List.nil_append, List.cons.injEq, Event.rejected.injEq] at heq
      exact ⟨i, [], heq.2.symm, hi, heq.1.1⟩
  | cons e pre =>
      simp only [List.cons_append, List.cons.injEq] at heq
      have hmem : Event.rejected token time' ∈ [Event.evicted i] := by simp [heq.2]
      simp at hmem

theorem Evicting.append {d : Device} {es fs : List Event} (hes : Evicting d es)
    (hfs : Evicting d fs) : Evicting d (es ++ fs) := by
  intro pre token time post heq
  rcases List.append_eq_append_iff.mp heq with ⟨mid, rfl, hright⟩ | ⟨mid, hleft, hright⟩
  · exact hfs mid token time post hright
  · cases mid with
    | nil => exact hfs [] token time post hright.symm
    | cons e mid =>
        obtain ⟨rfl, rfl⟩ := List.cons.inj hright
        obtain ⟨i, rest, rfl, hi⟩ := hes pre token time mid hleft
        exact ⟨i, rest ++ fs, rfl, hi⟩

/-- A slot of `d'` is as it was in `d`, apart from the time of its last check. -/
def SameSlots (d d' : Device) : Prop :=
  ∀ i, (d'.clients i).active = true →
    (d.clients i).active = true ∧ (d'.clients i).token = (d.clients i).token

theorem RevalidateCase.evicting {env : Env} {i : Fin maxWsClients} {d d' : Device}
    {es : List Event} (h : RevalidateCase env i d d' es) : Evicting d es ∧ SameSlots d d' := by
  have hslots : ∀ client : WsClient, (client.active = true → (d.clients i).active = true) →
      client.token = (d.clients i).token →
      SameSlots d ((d.checked env (d.clients i).token).setClients
        (Function.update d.clients i client)) := by
    intro client hactive htoken j hj
    by_cases hji : j = i
    · subst hji
      simp only [Device.setClients_clients, Function.update_self] at hj ⊢
      exact ⟨hactive hj, htoken⟩
    · simp only [Device.setClients_clients, Function.update_of_ne hji] at hj ⊢
      exact ⟨hj, trivial⟩
  cases h with
  | skipped => exact ⟨evicting_of_not_rejected (by simp), fun _ hi => ⟨hi, rfl⟩⟩
  | accepted hi => exact ⟨evicting_of_not_rejected (by simp), hslots _ id rfl⟩
  | rejected hi => exact ⟨evicting_pair hi _, hslots _ (fun h => by cases h) rfl⟩

theorem flush_evicting (env : Env) (frames : List (Frame × (Fin maxWsClients → Bool)))
    (d : Device) : Evicting d ((flushWork env frames).final d.start).shown := by
  obtain ⟨d₁, es, fs, hshown, hchecks, hpushes⟩ := flushWork_chains env frames d
  have hstart : Evicting d [] ∧ SameSlots d d :=
    ⟨evicting_of_not_rejected (by simp), fun _ hi => ⟨hi, rfl⟩⟩
  have hchecked := hchecks.invariant (I := fun h d' => Evicting d h ∧ SameSlots d d')
    (fun i h d₂ es d₃ hs hlink => by
      obtain ⟨hevict, hslots⟩ := hlink.evicting
      refine ⟨hs.1.append fun pre token time post heq => ?_, fun j hj => ?_⟩
      · obtain ⟨j, rest, hpost, hj, htoken⟩ := hevict pre token time post heq
        exact ⟨j, rest, hpost, (hs.2 j hj).1, (hs.2 j hj).2.symm.trans htoken⟩
      · obtain ⟨hwas, htoken⟩ := hslots j hj
        exact ⟨(hs.2 j hwas).1, htoken.trans (hs.2 j hwas).2⟩) hstart
  rw [hshown]
  refine hchecked.1.append (evicting_of_not_rejected fun token time hmem => ?_)
  have hneutral := hpushes.invariant (I := fun h _ => ∀ token time, .rejected token time ∉ h)
    (fun frame h d₂ es d₃ hs hlink token time hmem => by
      rcases List.mem_append.mp hmem with hmem | hmem
      · exact hs token time hmem
      · rw [hlink.2] at hmem
        simp at hmem) (h := []) (by simp)
  exact hneutral token time hmem

/-! ## Frames sent -/

/-- What a flush shows: checks, evictions and frames sent. -/
def Event.ofFlush : Event → Prop
  | .accepted .. | .rejected .. | .evicted _ | .sent .. => True
  | _ => False

theorem flush_ofFlush (env : Env) (frames : List (Frame × (Fin maxWsClients → Bool)))
    (d : Device) : ∀ e ∈ ((flushWork env frames).final d.start).shown, e.ofFlush := by
  obtain ⟨d₁, es, fs, hshown, hchecks, hpushes⟩ := flushWork_chains env frames d
  have hchecked := hchecks.invariant (I := fun h _ => ∀ e ∈ h, e.ofFlush)
    (fun i h d₂ es d₃ hs hlink => by
      have hes : ∀ e ∈ es, e.ofFlush := by cases hlink <;> simp [Event.ofFlush]
      exact List.forall_mem_append.mpr ⟨hs, hes⟩) (h := []) (by simp)
  have hpushed := hpushes.invariant (I := fun h _ => ∀ e ∈ h, e.ofFlush)
    (fun frame h d₂ es d₃ hs hlink => by
      have hes : ∀ e ∈ es, e.ofFlush := by
        rw [hlink.2]
        simp [Event.ofFlush]
      exact List.forall_mem_append.mpr ⟨hs, hes⟩) hchecked
  rw [hshown]
  exact hpushed

/-- After the revalidation of a flush every frame goes to a slot that is open and
whose token was accepted less than a second ago. -/
theorem PushLink.sentFresh {env : Env} {frame : Frame × (Fin maxWsClients → Bool)}
    {h es : List Event} {d d' : Device} (hd : SocketsInv env.now h d)
    (hfresh : ∀ i, Fresh env i d) (hlink : PushLink env frame d es d') :
    ∀ pre e post, es = pre ++ e :: post → SentFresh (h ++ pre) e := by
  intro pre e post heq
  have hpre : ∀ e ∈ pre, e.neutral = true := fun e he => hlink.neutral e (by simp [heq, he])
  have he : e ∈ es := by simp [heq]
  rw [hlink.2] at he
  obtain ⟨i, hsent, rfl⟩ := List.mem_map.mp he
  have hi : (d.clients i).active = true := by
    have hwants := mem_sendFrame_sent.mp hsent
    simp only [wants, Bool.and_eq_true] at hwants
    exact hwants.1
  refine ⟨?_, ⟨_, List.mem_append_left _ (hd.captured i hi)⟩, (d.clients i).lastAuthUs,
    List.mem_append_left _ (hd.accepted i hi), hd.past i hi, hfresh i hi⟩
  rw [slotOpen_append_neutral hpre]
  exact hd.opened i hi

/-- No frame is sent by anything but a flush. -/
theorem CallCase.not_sent {pf : Platform} {env : Env} {d d' : Device} {call : Call}
    {es : List Event} (hcase : CallCase pf env d call d' es)
    (hcall : ∀ frames, call ≠ .flush frames) :
    ∀ i token frame time, .sent i token frame time ∉ es := by
  intro i token frame time hmem
  cases hcase with
  | flushed => exact hcall _ rfl
  | checked hpre => rcases hpre.shown_checked _ _ hmem with ⟨_, h | h⟩ <;> cases h
  | registered hpre => cases hpre <;> simp at hmem
  | _ => simp at hmem

/-- What a call adds to the history keeps to the rule for sent frames. -/
theorem CallCase.sentFresh {pf : Platform} {env : Env} {h es : List Event} {d d' : Device}
    {call : Call} (hd : SocketsInv env.now h d) (hcase : CallCase pf env d call d' es)
    (hh : Machine.Throughout SentFresh h) : Machine.Throughout SentFresh (h ++ es) := by
  -- an event that sends nothing meets the rule anywhere
  have hquiet : ∀ {h es : List Event}, Machine.Throughout SentFresh h →
      (∀ i token frame time, .sent i token frame time ∉ es) →
      Machine.Throughout SentFresh (h ++ es) := by
    intro h es hh hes
    refine hh.append fun pre e post heq => ?_
    cases e with
    | sent i token frame time => exact absurd (by simp [heq]) (hes i token frame time)
    | _ => trivial
  by_cases hcall : ∀ frames, call ≠ .flush frames
  · exact hquiet hh (hcase.not_sent hcall)
  push Not at hcall
  obtain ⟨frames, rfl⟩ := hcall
  cases hcase with
  | idle => simpa using hh
  | flushed =>
      obtain ⟨d₁, es, fs, hshown, hchecks, hpushes⟩ := flushWork_chains env frames d
      rw [hshown, ← List.append_assoc]
      obtain ⟨hchecked, hthroughout⟩ := hchecks.invariant
        (I := fun h d => SocketsInv env.now h d ∧ Machine.Throughout SentFresh h)
        (fun i h d es d' hs hlink => ⟨hs.1.revalidate hlink, hquiet hs.2 (by
          cases hlink <;> simp)⟩) ⟨hd, hh⟩
      have hfresh : ∀ i, Fresh env i d₁ :=
        fun i => fresh_of_revalidated hchecks (.inl (List.mem_finRange i))
      have hpushed := hpushes.invariant
        (I := fun h d => SocketsInv env.now h d ∧ (∀ i, Fresh env i d) ∧
          Machine.Throughout SentFresh h)
        (fun frame h d es d' hs hlink =>
          ⟨hs.1.push hlink, fun i hi => hlink.clients hi ▸ hs.2.1 i (hlink.clients hi ▸ hi),
            hs.2.2.append (hlink.sentFresh hs.1 hs.2.1)⟩) ⟨hchecked, hfresh, hthroughout⟩
      exact hpushed.2.2

/-! ## Credential changes -/

/-- Only a settings request replaces the credentials. -/
theorem CallCase.sameCredentials {pf : Platform} {env : Env} {d d' : Device} {call : Call}
    {es : List Event} (hcase : CallCase pf env d call d' es)
    (hcall : ∀ req, call = .request req → req.route ≠ .configPost) :
    d.board.config.SameCredentials d'.board.config := by
  cases hcase with
  | checked hpre => exact hpre.board ▸ .refl _
  | worked _ _ hworked => exact hworked.kept.resolve_right (hcall _ rfl)
  | revoked _ _ hworked => exact hworked.kept.resolve_right (hcall _ rfl)
  | registered hpre => exact hpre.board ▸ .refl _
  | relayed _ _ hkeeps => exact hkeeps.config
  | flushed => exact flush_board env _ d ▸ .refl _
  | _ => exact .refl _

/-- A call after which the credentials are what they were. -/
def SparesCredentials (d : Device) (_ : List Event) (d' : Device) : Prop :=
  d.board.config.SameCredentials d'.board.config

theorem sparesCredentials_composes : Composes SparesCredentials where
  refl d := .refl d.board.config
  trans h h' := h.trans h'

/-- What the handlers have in common leaves the credentials alone. -/
theorem handlerRules_sparesCredentials (pf : Platform) (env : Env) :
    HandlerRules pf env SparesCredentials where
  composes := sparesCredentials_composes
  validate _ := does_act fun _ => .refl _
  lockout _ := does_act fun _ => .refl _
  login _ _ _ _ := does_act fun _ => .refl _
  logout _ := does_act fun _ => .refl _
  reissue _ _ := .refl _
  board h := Does.zoom h fun d es board honly => by
    unfold OnlyPeripherals at honly
    rw [honly]
    exact .refl _

/-- Up to the credentials a settings request leaves them alone. -/
theorem configPostUpToCredentials_spares (pf : Platform) (env : Env) (req : Request) :
    Does SparesCredentials (configPostUpToCredentials pf env req) := by
  have hread : Does SparesCredentials (readConfigBody pf env req) :=
    (handlerRules_sparesCredentials pf env).readConfigBody
  refine .bind sparesCredentials_composes hread fun json => ?_
  refine .bind sparesCredentials_composes ?_ fun _ => does_pure sparesCredentials_composes _
  exact Does.zoom (applySettings_keeps pf env json) fun _ _ _ hkeeps => hkeeps.config

/-- A settings request that is answered has kept the credentials or has closed
what they had opened. -/
theorem handleConfigPost_credentials {pf : Platform} {env : Env} {req : Request} {d : Device}
    (hanswered : (responseOf (handleConfigPost pf env req d.start)).isSome = true) :
    d.board.config.SameCredentials
        ((handleConfigPost pf env req).final d.start).state.board.config ∨
      .credentialsChanged ∈ ((handleConfigPost pf env req).final d.start).shown := by
  obtain ⟨es, -, hspares⟩ := configPostUpToCredentials_spares pf env req d.start
  unfold handleConfigPost at hanswered ⊢
  cases hreach : configPostUpToCredentials pf env req d.start with
  | error stop v =>
      rw [final_of_error hreach] at hspares
      rw [final_bind_of_error hreach]
      exact .inl hspares
  | ok json v =>
      rw [final_of_ok hreach] at hspares
      rw [bind_ok hreach] at hanswered
      rw [final_bind_of_ok hreach, final_bind_pure]
      have hchanges := changeCredentials_cases pf env json v
      unfold final
      generalize hrun : changeCredentials pf env json v = result at hchanges
      cases hchanges with
      | absent => exact .inl hspares
      | refused => exact .inl hspares
      | aborted =>
          -- the device resets without an answer
          rw [bind_error hrun] at hanswered
          cases hanswered
      | changed _ _ _ _ _ _ hshown => exact .inr (by simp [hshown])

/-- As long as the device runs, a change of the credentials closes what they had opened. -/
theorem step_credentials {pf : Platform} {s t : System} {a : Action} {es : List Event}
    (hstep : (systemMachine pf).step s a = some (t, es)) (hrunning : t.running = true) :
    s.device.board.config.SameCredentials t.device.board.config ∨ .credentialsChanged ∈ es := by
  obtain ⟨-, -, -, hran, hdevice, hes⟩ := systemStep_some hstep
  rw [hran] at hrunning
  have hcase := ends_callHandler pf a.env s.device a.call
  rw [hdevice, hes]
  by_cases hpost : ∃ req, a.call = .request req ∧ req.route = .configPost
  · obtain ⟨req, hcall, hroute⟩ := hpost
    rw [hcall, callHandler_configPost pf a.env hroute] at hrunning ⊢
    exact (handleConfigPost_credentials hrunning).imp id (List.mem_append_left _)
  · exact .inl (hcase.sameCredentials fun req hcall hroute => hpost ⟨req, hcall, hroute⟩)

/-! ## Steps and runs -/

theorem not_evicting_answer (d : Device) (answer : Option Response) :
    Evicting d (answer.toList.map .answered) :=
  evicting_of_not_rejected fun token time hmem => by simp at hmem

theorem CallCase.revokingStep {pf : Platform} {env : Env} {h es : List Event} {d d' : Device}
    {call : Call} (hd : SocketsInv env.now h d) (hcase : CallCase pf env d call d' es) :
    RevokingStep env h d call es where
  relayed fd port data hmem := by
    cases hcase with
    | checked hpre => rcases hpre.shown_checked _ _ hmem with ⟨_, h | h⟩ <;> cases h
    | registered hpre => cases hpre <;> simp at hmem
    | @relayed fd' frame i _ _ hfind hvalid =>
        obtain ⟨hi, hfd⟩ := findFd_spec hfind
        simp only [List.mem_cons, reduceCtorEq, Event.relayed.injEq, List.mem_map, exists_false,
          or_false, false_or, and_false] at hmem
        obtain ⟨rfl, -, -⟩ := hmem
        have hcaptured := hd.captured i hi
        rw [hfd] at hcaptured
        exact ⟨i, hfind, hcaptured, hvalid⟩
    | flushed => cases flush_ofFlush env _ d _ hmem
    | _ => simp at hmem
  found hcall := by
    cases hcase with
    | idle => exact evicting_of_not_rejected (by simp)
    | socketEvicted hfind hinvalid => exact evicting_pair (findFd_spec hfind).1 _
    | socketKept => exact evicting_of_not_rejected (by simp)
    | socketRemoved => exact evicting_of_not_rejected (by simp)
    | relayed => exact evicting_of_not_rejected (by simp)
    | closed => exact evicting_of_not_rejected (by simp)
    | flushed => exact flush_evicting env _ d
    | background => exact evicting_of_not_rejected (by simp)
    | _ => exact absurd rfl (hcall _)

theorem RevokingStep.answered {env : Env} {h es : List Event} {d : Device} {call : Call}
    (hstep : RevokingStep env h d call es) (answer : Option Response) :
    RevokingStep env h d call (es ++ answer.toList.map .answered) where
  relayed fd port data hmem := hstep.relayed fd port data (by simpa using hmem)
  found hcall := (hstep.found hcall).append (not_evicting_answer d answer)

/-- The rule for sent frames holds of the history of every run. -/
theorem sentFresh_run {pf : Platform} {s t : System} {as : List Action} {es : List Event}
    (hs : s.Init) (hrun : (systemMachine pf).Run s as es t) : Machine.Throughout SentFresh es := by
  have hinv := hrun.history (P := fun _ => True)
    (I := fun es t => SocketsInv t.now es t.device ∧ Machine.Throughout SentFresh es)
    (fun _ _ h => h) ⟨.init hs, Machine.throughout_nil _⟩ (fun h u a v fs _ hu hstep => by
      obtain ⟨-, htime, -, shown, answer, rfl, hcase⟩ := systemStep_cases hstep
      refine ⟨hu.1.step hstep, ?_⟩
      rw [← List.append_assoc]
      refine (hcase.sentFresh (hu.1.mono htime) hu.2).append fun pre e post heq => ?_
      have he : e ∈ answer.toList.map Event.answered := by simp [heq]
      obtain ⟨_, -, rfl⟩ := List.mem_map.mp he
      trivial) trivial
  exact hinv.2

/-- Revocation reaches the sockets in every run. -/
theorem revocation_reaches {pf : Platform} {s t : System} {as : List Action} {es : List Event}
    (hs : s.Init) (hrun : (systemMachine pf).Run s as es t) : RevocationReaches pf s as es t where
  accepted pre i token frame time post heq := (sentFresh_run hs hrun pre _ post heq).2
  closed pre e mid i token frame time post he heq :=
    registered_of_slotOpen he (sentFresh_run hs hrun _ _ post heq).1
  inactive pre e post i he heq hi := by
    have hopen := (SocketsInv.run hs hrun).opened i hi
    rw [heq] at hopen
    exact registered_of_slotOpen he hopen
  steps pre a post h u v fs _ hprefix hstep := by
    obtain ⟨-, htime, -, shown, answer, rfl, hcase⟩ := systemStep_cases hstep
    exact (hcase.revokingStep ((SocketsInv.run hs hprefix).mono htime)).answered answer
  changed pre a post h u v fs _ _ hstep hrunning := step_credentials hstep hrunning

/-- A login, a handshake and a flush that sends and rechecks nothing yet. -/
theorem revocation_reaches_flush :
    ∃ t es, (systemMachine demoParser).Run demoSystem
        [demoLogin 10, demoHandshake 20, demoFlush 30] es t ∧
      demoSent 0 30 ∈ es ∧
      RevocationReaches demoParser demoSystem [demoLogin 10, demoHandshake 20, demoFlush 30] es
        t := by
  obtain ⟨t, es, hrun, hsent⟩ := Machine.Run.exists_of_exec (M := systemMachine demoParser)
    (s := demoSystem) (p := fun _ es => decide (demoSent 0 30 ∈ es))
    (show ((systemMachine demoParser).exec demoSystem
      [demoLogin 10, demoHandshake 20, demoFlush 30]).any _ = true by decide +kernel)
  exact ⟨t, es, hrun, of_decide_eq_true hsent, revocation_reaches demoSystem_init hrun⟩

end WebTerminal
