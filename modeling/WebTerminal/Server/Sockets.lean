import WebTerminal.Server.CallCases

/-!
# Sockets and the history

An active slot of the client table was registered by a handshake after the last
time it was evicted, its token is the one that handshake captured, and that
token was accepted at the time the slot remembers.
-/

set_option autoImplicit false

namespace WebTerminal

open Proc

/-- The slot was registered after it was last evicted and after the last
credential change. -/
def slotOpen (i : Fin maxWsClients) (h : List Event) : Bool :=
  h.foldl (fun opened e =>
    match e with
    | .registered slot _ _ => opened || slot == i
    | .evicted slot => opened && slot != i
    | .credentialsChanged => false
    | _ => opened) false

/-- Events that close or open no slot. -/
def Event.neutral : Event → Bool
  | .registered .. | .evicted _ | .credentialsChanged => false
  | _ => true

theorem slotOpen_append_neutral {i : Fin maxWsClients} {h es : List Event}
    (hes : ∀ e ∈ es, e.neutral = true) : slotOpen i (h ++ es) = slotOpen i h := by
  unfold slotOpen
  rw [List.foldl_append]
  generalize List.foldl _ false h = opened
  induction es generalizing opened with
  | nil => rfl
  | cons e es ih =>
      rw [List.foldl_cons]
      have he := hes e (by simp)
      rw [ih (fun e he => hes e (by simp [he]))]
      cases e <;> first | rfl | cases he

theorem slotOpen_registered (i : Fin maxWsClients) (h : List Event) (fd : ℤ) (token : CString) :
    slotOpen i (h ++ [.registered i fd token]) = true := by
  simp [slotOpen]

theorem slotOpen_registered_of_open {i : Fin maxWsClients} {h : List Event}
    (hi : slotOpen i h = true) (j : Fin maxWsClients) (fd : ℤ) (token : CString) :
    slotOpen i (h ++ [.registered j fd token]) = true := by
  unfold slotOpen at hi ⊢
  simp [hi]

theorem slotOpen_evicted_of_ne {i j : Fin maxWsClients} (hij : i ≠ j) {h : List Event}
    (hi : slotOpen i h = true) : slotOpen i (h ++ [.evicted j]) = true := by
  unfold slotOpen at hi ⊢
  simp [hi, hij.symm]

/-- What is known about the sessions: their tokens are as long as generated ones. -/
def SessionTokens (d : Device) : Prop :=
  ∀ i, (d.auth.sessions i).active = true →
    (d.auth.sessions i).token.length = authSessionTokenLen * 2

structure SocketsInv (now : ℕ) (h : List Event) (d : Device) : Prop where
  tokens : SessionTokens d
  unlocked : ∀ i, (d.clients i).active = true → d.board.config.authInitialized = true
  captured : ∀ i, (d.clients i).active = true →
    .registered i (d.clients i).fd (d.clients i).token ∈ h
  accepted : ∀ i, (d.clients i).active = true →
    .accepted (d.clients i).token (d.clients i).lastAuthUs ∈ h
  past : ∀ i, (d.clients i).active = true → (d.clients i).lastAuthUs ≤ now
  opened : ∀ i, (d.clients i).active = true → slotOpen i h = true

/-! ## Sessions -/

theorem authValidateSession_active {now : ℕ} {token : CString} {sessions : Sessions}
    {i : Fin authMaxSessions}
    (h : ((authValidateSession now token sessions).1 i).active = true) :
    (sessions i).active = true ∧
      ((authValidateSession now token sessions).1 i).token = (sessions i).token := by
  have hcases := authValidateSession_cases now token sessions
  generalize (authValidateSession now token sessions).1 = sessions' at hcases h ⊢
  generalize (authValidateSession now token sessions).2 = ok at hcases
  cases hcases with
  | unknown => exact ⟨h, rfl⟩
  | @expired j =>
      by_cases hij : i = j
      · subst hij
        simp at h
      · rw [endSession_of_ne hij] at h ⊢
        exact ⟨h, rfl⟩
  | @accepted j _ hj =>
      by_cases hij : i = j
      · subst hij
        exact ⟨hj, by simp⟩
      · rw [Function.update_of_ne hij] at h ⊢
        exact ⟨h, rfl⟩

theorem authLogout_active {token : CString} {sessions : Sessions} {i : Fin authMaxSessions}
    (h : (authLogout token sessions i).active = true) :
    authLogout token sessions i = sessions i := by
  unfold authLogout at h ⊢
  cases hfind : findToken token sessions with
  | none => rfl
  | some j =>
      rw [hfind] at h
      by_cases hij : i = j
      · subst hij
        simp at h
      · exact endSession_of_ne hij sessions

/-- A session that is active after a login was so before, or is the new one. -/
theorem openSession_active {now : ℕ} {random : Vector UInt8 authSessionTokenLen}
    {sessions : Sessions} {i : Fin authMaxSessions}
    (h : ((openSession now random sessions).1 i).active = true) :
    (openSession now random sessions).1 i = sessions i ∨
      (openSession now random sessions).1 i = ⟨generateToken random, now, true⟩ := by
  unfold openSession at h ⊢
  simp only at h ⊢
  by_cases hi : i = (loginSlot now sessions).2
  · subst hi
    exact .inr (by simp)
  · rw [Function.update_of_ne hi] at h ⊢
    refine .inl ?_
    rcases (loginSlot_spec now sessions).kept i with heq | ⟨-, heq⟩
    · exact heq
    · rw [heq] at h
      cases h

theorem SessionTokens.checked {d : Device} (h : SessionTokens d) (env : Env) (token : CString) :
    SessionTokens (d.checked env token) := by
  intro i hi
  obtain ⟨hactive, htoken⟩ := authValidateSession_active hi
  exact (congrArg List.length htoken).trans (h i hactive)

/-- A token that validates is as long as a generated one. -/
theorem SessionTokens.length {d : Device} (h : SessionTokens d) {env : Env} {token : CString}
    (hvalid : d.validates env token = true) : token.length = authSessionTokenLen * 2 := by
  have hcases := authValidateSession_cases env.monoNow token d.auth.sessions
  unfold Device.validates at hvalid
  rw [hvalid] at hcases
  generalize (authValidateSession env.monoNow token d.auth.sessions).1 = sessions' at hcases
  cases hcases with
  | accepted _ hi htoken => exact htoken ▸ h _ hi

/-- The copy of a token that validates is the token. -/
theorem SessionTokens.copyToken {d : Device} (h : SessionTokens d) {env : Env} {token : CString}
    (hvalid : d.validates env token = true) : copyToken token = token :=
  strncpy_eq_self (by rw [h.length hvalid]; omega)

/-! ## Operations -/

theorem SocketsInv.mono {now now' : ℕ} {h : List Event} {d : Device} (hd : SocketsInv now h d)
    (hnow : now ≤ now') : SocketsInv now' h d :=
  { hd with past := fun i hi => (hd.past i hi).trans hnow }

/-- An operation that registers nobody. -/
theorem SocketsInv.keep {now : ℕ} {h es : List Event} {d d' : Device} (hd : SocketsInv now h d)
    (htokens : SessionTokens d')
    (hinit : d.board.config.authInitialized = true → d'.board.config.authInitialized = true)
    (hclients : ∀ i, (d'.clients i).active = true → d'.clients i = d.clients i)
    (hopen : ∀ i, (d'.clients i).active = true → slotOpen i h = true →
      slotOpen i (h ++ es) = true) : SocketsInv now (h ++ es) d' := by
  have hwas : ∀ i, (d'.clients i).active = true → (d.clients i).active = true :=
    fun i hi => hclients i hi ▸ hi
  refine ⟨htokens, fun i hi => hinit (hd.unlocked i (hwas i hi)), fun i hi => ?_, fun i hi => ?_,
    fun i hi => ?_, fun i hi => hopen i hi (hd.opened i (hwas i hi))⟩
  · rw [hclients i hi]
    exact List.mem_append_left _ (hd.captured i (hwas i hi))
  · rw [hclients i hi]
    exact List.mem_append_left _ (hd.accepted i (hwas i hi))
  · rw [hclients i hi]
    exact hd.past i (hwas i hi)

/-- An operation that neither registers nor evicts anybody. -/
theorem SocketsInv.keep_neutral {now : ℕ} {h es : List Event} {d d' : Device}
    (hd : SocketsInv now h d) (htokens : SessionTokens d')
    (hinit : d.board.config.authInitialized = true → d'.board.config.authInitialized = true)
    (hclients : ∀ i, (d'.clients i).active = true → d'.clients i = d.clients i)
    (hes : ∀ e ∈ es, e.neutral = true) : SocketsInv now (h ++ es) d' :=
  hd.keep htokens hinit hclients fun i _ hi => by rwa [slotOpen_append_neutral hes]

theorem neutral_effects (effects : List Effect) :
    ∀ e ∈ effects.map Event.effect, e.neutral = true := by
  intro e he
  obtain ⟨_, -, rfl⟩ := List.mem_map.mp he
  rfl

/-- `ws_add_client` takes a free slot and leaves the others alone. -/
theorem wsAddClient_some {now : ℕ} {fd port : ℤ} {token : CString} {clients clients' : WsClients}
    {i : Fin maxWsClients} (h : wsAddClient now fd port token clients = (clients', some i)) :
    clients' i = ⟨fd, true, port, copyToken token, now⟩ ∧ ∀ j, j ≠ i → clients' j = clients j := by
  unfold wsAddClient at h
  split at h
  next j _ =>
    obtain ⟨rfl, hj⟩ := Prod.mk.inj h
    obtain rfl := Option.some.inj hj
    exact ⟨by simp, fun j hj => Function.update_of_ne hj _ _⟩
  next => simp at h

/-! ## Flushes -/

/-- How one round of `ws_revalidate_locked` ends. -/
inductive RevalidateCase (env : Env) (i : Fin maxWsClients) (d : Device) :
    Device → List Event → Prop
  | skipped
      (h : (d.clients i).active = true → env.now < (d.clients i).lastAuthUs + wsAuthRecheckUs) :
      RevalidateCase env i d d []
  | accepted (hi : (d.clients i).active = true)
      (hdue : (d.clients i).lastAuthUs + wsAuthRecheckUs ≤ env.now)
      (hvalid : d.validates env (d.clients i).token = true) :
      RevalidateCase env i d
        ((d.checked env (d.clients i).token).setClients
          (Function.update d.clients i { d.clients i with lastAuthUs := env.now }))
        [.accepted (d.clients i).token env.now]
  | rejected (hi : (d.clients i).active = true)
      (hdue : (d.clients i).lastAuthUs + wsAuthRecheckUs ≤ env.now)
      (hinvalid : d.validates env (d.clients i).token = false) :
      RevalidateCase env i d
        ((d.checked env (d.clients i).token).setClients
          (Function.update d.clients i
            { d.clients i with lastAuthUs := env.now, active := false }))
        [.rejected (d.clients i).token env.now, .evicted i]

theorem revalidateClient_does (env : Env) (i : Fin maxWsClients) :
    Does (fun d es d' => RevalidateCase env i d d' es) (revalidateClient env i) := by
  intro w
  unfold revalidateClient
  rw [final_bind_of_ok (read_apply _ _)]
  split
  next hdue =>
    simp only [Bool.and_eq_true, decide_eq_true_eq] at hdue
    obtain ⟨hi, hdue⟩ := hdue
    rw [final_bind_of_ok (update_apply _ _), final_bind_of_ok (validateSession_apply _ _ _)]
    generalize hclients : Function.update w.state.clients i _ = clients
    -- the new time in the slot is not what the session is judged by
    have hsame : (w.state.setClients clients).validates env (w.state.clients i).token =
        w.state.validates env (w.state.clients i).token := rfl
    cases hvalid : w.state.validates env (w.state.clients i).token with
    | true =>
        rw [if_pos (hsame.trans hvalid), pure_final]
        refine ⟨[.accepted (w.state.clients i).token env.now], ?_, ?_⟩
        · simp [checkedWorld, validation, hsame, hvalid]
        · subst hclients
          exact .accepted hi hdue hvalid
    | false =>
        rw [if_neg (by simp [hsame, hvalid])]
        refine ⟨[.rejected (w.state.clients i).token env.now, .evicted i], ?_, ?_⟩
        · simp [evictClient, final, checkedWorld, validation, hsame, hvalid]
        · subst hclients
          have hcase : RevalidateCase env i _ _ _ := .rejected hi hdue hvalid
          simpa [evictClient, final, checkedWorld, deactivate] using hcase
  next hdue =>
    refine ⟨[], by simp [final], .skipped fun hi => ?_⟩
    simpa [hi] using hdue

theorem SocketsInv.revalidate {env : Env} {h es : List Event} {d d' : Device}
    {i : Fin maxWsClients} (hd : SocketsInv env.now h d) (hcase : RevalidateCase env i d d' es) :
    SocketsInv env.now (h ++ es) d' := by
  cases hcase with
  | skipped => simpa using hd
  | rejected hi hdue hinvalid =>
      refine hd.keep (hd.tokens.checked env _) id ?_ ?_
      · intro j hj
        by_cases hji : j = i
        · subst hji
          simp at hj
        · exact Function.update_of_ne hji _ _
      · intro j hj hopen
        have hji : j ≠ i := by
          rintro rfl
          simp at hj
        rw [← List.singleton_append, ← List.append_assoc]
        apply slotOpen_evicted_of_ne hji
        rwa [slotOpen_append_neutral (by simp [Event.neutral])]
  | accepted hi hdue hvalid =>
      have hneutral : ∀ e ∈ [Event.accepted (d.clients i).token env.now], e.neutral = true := by
        simp [Event.neutral]
      -- every slot but the one at hand is as it was
      have hslot : ∀ j, (Function.update d.clients i
          { d.clients i with lastAuthUs := env.now } j).active = true →
            (d.clients j).active = true := by
        intro j hj
        by_cases hji : j = i
        · exact hji ▸ hi
        · simpa [Function.update_of_ne hji] using hj
      refine ⟨hd.tokens.checked env _, fun j hj => hd.unlocked j (hslot j hj), fun j hj => ?_,
        fun j hj => ?_, fun j hj => ?_, fun j hj => ?_⟩
      · have hold := hd.captured j (hslot j hj)
        by_cases hji : j = i
        · subst hji
          simpa using hold
        · simpa [Function.update_of_ne hji] using hold
      · have hold := hd.accepted j (hslot j hj)
        by_cases hji : j = i
        · subst hji
          simp
        · simpa [Function.update_of_ne hji] using .inl hold
      · have hold := hd.past j (hslot j hj)
        by_cases hji : j = i
        · subst hji
          simp
        · simpa [Function.update_of_ne hji] using hold
      · rw [slotOpen_append_neutral hneutral]
        exact hd.opened j (hslot j hj)

/-- The slot needs no recheck at this reading of the clock. -/
def Fresh (env : Env) (i : Fin maxWsClients) (d : Device) : Prop :=
  (d.clients i).active = true → env.now < (d.clients i).lastAuthUs + wsAuthRecheckUs

/-- A round makes its own slot fresh and keeps the others fresh. -/
theorem RevalidateCase.fresh {env : Env} {i : Fin maxWsClients} {d d' : Device} {es : List Event}
    (h : RevalidateCase env i d d' es) (j : Fin maxWsClients) (hj : j = i ∨ Fresh env j d) :
    Fresh env j d' := by
  have hother : ∀ {client : WsClient}, (client.active = true → client.lastAuthUs = env.now) →
      Fresh env j ((d.checked env (d.clients i).token).setClients
        (Function.update d.clients i client)) := by
    intro client hclient hactive
    by_cases hji : j = i
    · subst hji
      simp only [Device.setClients_clients, Function.update_self] at hactive ⊢
      rw [hclient hactive]
      exact Nat.lt_add_of_pos_right (by decide)
    · simp only [Device.setClients_clients, Function.update_of_ne hji] at hactive ⊢
      exact (hj.resolve_left hji) hactive
  cases h with
  | skipped hskip =>
      rcases hj with rfl | hfresh
      · exact hskip
      · exact hfresh
  | accepted => exact hother fun _ => rfl
  | rejected => exact hother fun h => by cases h

theorem revalidateClient_returns (env : Env) (i : Fin maxWsClients) :
    Returns (revalidateClient env i) := by
  refine (returns_read _).bind fun clients => .ite ?_ (returns_pure _)
  refine (returns_update _).bind fun _ => (returns_act _).bind fun ok => ?_
  exact .ite (returns_pure _) (returns_act _)

/-- One frame handed out. -/
def PushLink (env : Env) (frame : Frame × (Fin maxWsClients → Bool)) (d : Device)
    (es : List Event) (d' : Device) : Prop :=
  d' = d.setClients (sendFrame frame.1 frame.2 d.clients).1 ∧
    es = (sendFrame frame.1 frame.2 d.clients).2.map fun i =>
      .sent i (d.clients i).token frame.1 env.now

theorem pushFrame_does (env : Env) (frame : Frame × (Fin maxWsClients → Bool)) :
    Does (PushLink env frame) (pushFrame env frame.1 frame.2) :=
  does_act fun _ => ⟨rfl, rfl⟩

/-- A flush revalidates every slot, then hands out every frame. -/
theorem flushWork_chains (env : Env) (frames : List (Frame × (Fin maxWsClients → Bool)))
    (d : Device) :
    ∃ d₁ es fs, ((flushWork env frames).final d.start).shown = es ++ fs ∧
      Chain (fun i d es d' => RevalidateCase env i d d' es) (List.finRange maxWsClients) d es d₁ ∧
      Chain (PushLink env) frames d₁ fs ((flushWork env frames).final d.start).state := by
  obtain ⟨w, es, hrun, hes, hchain⟩ := chain_forM (revalidateClient_does env)
    (revalidateClient_returns env) (List.finRange maxWsClients) d.start
  obtain ⟨v, fs, hpush, hfs, hpushed⟩ := chain_forM (pushFrame_does env)
    (fun _ => returns_act _) frames w
  have hfinal : (flushWork env frames).final d.start = v :=
    (final_bind_of_ok hrun).trans (final_of_ok hpush)
  rw [hfinal]
  exact ⟨w.state, es, fs, by rw [hfs, hes]; rfl, hchain, hpushed⟩

/-- A flush leaves the board alone. -/
theorem flush_board (env : Env) (frames : List (Frame × (Fin maxWsClients → Bool))) (d : Device) :
    ((flushWork env frames).final d.start).state.board = d.board := by
  obtain ⟨d₁, es, fs, -, hchecks, hpushes⟩ := flushWork_chains env frames d
  have hchecked := hchecks.invariant (I := fun _ d₂ => d₂.board = d.board)
    (fun i h d₂ es d₃ hs hlink => by cases hlink <;> exact hs) (h := []) rfl
  exact hpushes.invariant (I := fun _ d₂ => d₂.board = d.board)
    (fun frame h d₂ es d₃ hs hlink => by rw [hlink.1]; exact hs) (h := []) hchecked

/-- After the loop over all slots no client is due for a recheck. -/
theorem fresh_of_revalidated {env : Env} {is : List (Fin maxWsClients)} {d d' : Device}
    {es : List Event}
    (hchain : Chain (fun i d es d' => RevalidateCase env i d d' es) is d es d')
    {j : Fin maxWsClients} (hj : j ∈ is ∨ Fresh env j d) : Fresh env j d' := by
  induction hchain with
  | nil => exact hj.resolve_left (by simp)
  | cons hcase _ ih =>
      apply ih
      rcases hj with hj | hj
      · rcases List.mem_cons.mp hj with rfl | hj
        · exact .inr (hcase.fresh _ (.inl rfl))
        · exact .inl hj
      · exact .inr (hcase.fresh _ (.inr hj))

/-- A slot that is active after a frame was handed out is as it was. -/
theorem PushLink.clients {env : Env} {frame : Frame × (Fin maxWsClients → Bool)} {d d' : Device}
    {es : List Event} (h : PushLink env frame d es d') {i : Fin maxWsClients}
    (hi : (d'.clients i).active = true) : d'.clients i = d.clients i := by
  rw [h.1] at hi ⊢
  exact sendFrame_eq_of_active hi

theorem PushLink.neutral {env : Env} {frame : Frame × (Fin maxWsClients → Bool)} {d d' : Device}
    {es : List Event} (h : PushLink env frame d es d') : ∀ e ∈ es, e.neutral = true := by
  intro e he
  rw [h.2] at he
  obtain ⟨_, -, rfl⟩ := List.mem_map.mp he
  rfl

theorem SocketsInv.push {env : Env} {frame : Frame × (Fin maxWsClients → Bool)} {h es : List Event}
    {d d' : Device} (hd : SocketsInv env.now h d) (hlink : PushLink env frame d es d') :
    SocketsInv env.now (h ++ es) d' := by
  refine hd.keep_neutral ?_ ?_ (fun i hi => hlink.clients hi) hlink.neutral
  · rw [hlink.1]
    exact hd.tokens
  · rw [hlink.1]
    exact id

/-! ## All calls -/

theorem SocketsInv.precheck {now : ℕ} {h es : List Event} {pf : Platform} {env : Env}
    {req : Request} {d d₁ : Device} (hd : SocketsInv now h d)
    (hpre : Precheck pf env req d d₁ es) : SocketsInv now (h ++ es) d₁ := by
  cases hpre with
  | none => simpa using hd
  | rejected =>
      exact hd.keep_neutral (hd.tokens.checked env _) id (fun _ _ => rfl) (by simp [Event.neutral])

theorem Precheck.board {pf : Platform} {env : Env} {req : Request} {d d₁ : Device}
    {es : List Event} (hpre : Precheck pf env req d d₁ es) : d₁.board = d.board := by
  cases hpre <;> rfl

theorem Precheck.clients {pf : Platform} {env : Env} {req : Request} {d d₁ : Device}
    {es : List Event} (hpre : Precheck pf env req d d₁ es) : d₁.clients = d.clients := by
  cases hpre <;> rfl

/-- A handshake that is let in fills one free slot. -/
theorem SocketsInv.register {env : Env} {h : List Event} {d : Device} {fd port : ℤ}
    {token : CString} {clients : WsClients} {i : Fin maxWsClients} (hd : SocketsInv env.now h d)
    (hvalid : d.validates env token = true) (hunlocked : d.board.config.authInitialized = true)
    (hadd : wsAddClient env.now fd port (copyToken token) d.clients = (clients, some i)) :
    SocketsInv env.now (h ++ [.accepted token env.now, .registered i fd (copyToken token)])
      ((d.checked env token).setClients clients) := by
  obtain ⟨hnew, hold⟩ := wsAddClient_some hadd
  rw [hd.tokens.copyToken hvalid] at hnew ⊢
  rw [hd.tokens.copyToken hvalid] at hnew
  have hwas : ∀ j, j ≠ i → (clients j).active = true → (d.clients j).active = true :=
    fun j hj hactive => hold j hj ▸ hactive
  refine ⟨hd.tokens.checked env token, fun _ _ => hunlocked, fun j hj => ?_, fun j hj => ?_,
    fun j hj => ?_, fun j hj => ?_⟩
  all_goals
    simp only [Device.setClients_clients] at hj ⊢
    by_cases hji : j = i
  · subst hji
    simp [hnew]
  · rw [hold j hji]
    exact List.mem_append_left _ (hd.captured j (hwas j hji hj))
  · subst hji
    simp [hnew]
  · rw [hold j hji]
    exact List.mem_append_left _ (hd.accepted j (hwas j hji hj))
  · subst hji
    simp [hnew]
  · rw [hold j hji]
    exact hd.past j (hwas j hji hj)
  · subst hji
    rw [← List.singleton_append, ← List.append_assoc]
    exact slotOpen_registered j _ fd token
  · rw [← List.singleton_append, ← List.append_assoc]
    apply slotOpen_registered_of_open
    rw [slotOpen_append_neutral (by simp [Event.neutral])]
    exact hd.opened j (hwas j hji hj)

theorem SocketsInv.evict {now : ℕ} {h : List Event} {d : Device} (hd : SocketsInv now h d)
    (env : Env) (i : Fin maxWsClients) :
    SocketsInv now (h ++ [.rejected (d.clients i).token env.now, .evicted i])
      ((d.checked env (d.clients i).token).setClients (deactivate i d.clients)) := by
  refine hd.keep (hd.tokens.checked env _) id (fun j hj => deactivate_eq_of_active hj) ?_
  intro j hj hopen
  have hji : j ≠ i := by
    rintro rfl
    simp at hj
  rw [← List.singleton_append, ← List.append_assoc]
  apply slotOpen_evicted_of_ne hji
  rwa [slotOpen_append_neutral (by simp [Event.neutral])]

/-- After a credential change no slot is active. -/
theorem revoked_inactive (d : Device) (i : Fin maxWsClients) :
    (d.revoked.clients i).active = false := rfl

theorem SocketsInv.call {pf : Platform} {env : Env} {h es : List Event} {d d' : Device}
    {call : Call} (hd : SocketsInv env.now h d) (hcase : CallCase pf env d call d' es) :
    SocketsInv env.now (h ++ es) d' := by
  cases hcase with
  | idle => simpa using hd
  | checked hpre hoffers =>
      refine hd.keep_neutral ((hd.precheck hpre).tokens.checked env _) ?_ ?_ ?_
      · exact fun hinit => hpre.board ▸ hinit
      · exact fun i _ => congrFun hpre.clients i
      · intro e he
        rcases hpre.shown_checked _ _ he with ⟨_, rfl | rfl⟩ <;> rfl
  | worked hoffers hvalid hworked =>
      refine hd.keep_neutral (hd.tokens.checked env _) hworked.unlocked (fun _ _ => rfl) ?_
      intro e he
      rcases List.mem_cons.mp he with rfl | he
      · rfl
      · exact neutral_effects _ e he
  | revoked hoffers hvalid hworked =>
      -- a credential change leaves no session and no client to speak of
      refine hd.keep ?_ hworked.unlocked ?_ ?_
      · intro i hi
        simp [Device.revoked, authInvalidateAllSessions] at hi
      · intro i hi
        cases (revoked_inactive _ i).symm.trans hi
      · intro i hi
        cases (revoked_inactive _ i).symm.trans hi
  | reissued =>
      exact hd.keep_neutral (hd.tokens.checked env _) id (fun _ _ => rfl) (by simp [Event.neutral])
  | hosts => exact hd.keep_neutral hd.tokens id (fun _ _ => rfl) (by simp)
  | @loggedIn req hosts random =>
      -- the session in the slot is the old one or the new one
      refine hd.keep_neutral ?_ id (fun _ _ => rfl) (by simp [Event.neutral])
      intro i hi
      rcases openSession_active hi with hsame | hnew
      · have hold := hd.tokens i (hsame ▸ hi)
        exact (congrArg (fun session => session.token.length) hsame).trans hold
      · have hlength := length_generateToken random
        exact (congrArg (fun session => session.token.length) hnew).trans hlength
  | loggedOut =>
      refine hd.keep_neutral ?_ id (fun _ _ => rfl) (by simp)
      intro i hi
      have hsame := authLogout_active hi
      have hold := hd.tokens i (hsame ▸ hi)
      exact (congrArg (fun session => session.token.length) hsame).trans hold
  | registered hpre hoffers hvalid hunlocked hadd =>
      -- the check before the handshake has read the same board and the same table
      rw [← hpre.board] at hunlocked
      rw [← hpre.clients] at hadd
      rw [← List.append_assoc]
      exact (hd.precheck hpre).register hvalid hunlocked hadd
  | socketEvicted hfind hinvalid => exact hd.evict env _
  | socketKept hfind hvalid =>
      exact hd.keep_neutral (hd.tokens.checked env _) id (fun _ _ => rfl) (by simp [Event.neutral])
  | socketRemoved hfind hvalid =>
      exact hd.keep_neutral (hd.tokens.checked env _) id
        (fun i hi => wsRemoveClient_eq_of_active hi) (by simp [Event.neutral])
  | relayed hfind hvalid hkeeps =>
      refine hd.keep_neutral (hd.tokens.checked env _)
        (fun h => hkeeps.config.authInitialized.trans h) (fun _ _ => rfl) ?_
      intro e he
      rcases List.mem_cons.mp he with rfl | he
      · rfl
      rcases List.mem_cons.mp he with rfl | he
      · rfl
      · exact neutral_effects _ e he
  | closed =>
      exact hd.keep_neutral hd.tokens id (fun i hi => wsRemoveClient_eq_of_active hi) (by simp)
  | @flushed frames =>
      -- the revalidation keeps it client by client, and so does every send
      obtain ⟨d₁, es, fs, hshown, hchecks, hpushes⟩ := flushWork_chains env frames d
      rw [hshown, ← List.append_assoc]
      have hchecked := hchecks.invariant (I := SocketsInv env.now)
        (fun _ _ _ _ _ hs hlink => hs.revalidate hlink) hd
      exact hpushes.invariant (I := SocketsInv env.now)
        (fun _ _ _ _ _ hs hlink => hs.push hlink) hchecked
  | background => exact hd.keep_neutral hd.tokens id (fun _ _ => rfl) (by simp)

/-- The answer at the end of a step closes and opens nothing. -/
theorem SocketsInv.answer {now : ℕ} {h : List Event} {d : Device} (hd : SocketsInv now h d)
    (answer : Option Response) : SocketsInv now (h ++ answer.toList.map .answered) d := by
  refine hd.keep_neutral hd.tokens id (fun _ _ => rfl) ?_
  intro e he
  obtain ⟨_, -, rfl⟩ := List.mem_map.mp he
  rfl

theorem SocketsInv.init {s : System} (hs : s.Init) : SocketsInv s.now [] s.device := by
  have hnone : ∀ i, ¬(s.device.clients i).active = true := by simp [hs.clients]
  refine ⟨fun i hi => ?_, fun i hi => absurd hi (hnone i), fun i hi => absurd hi (hnone i),
    fun i hi => absurd hi (hnone i), fun i hi => absurd hi (hnone i),
    fun i hi => absurd hi (hnone i)⟩
  rw [hs.auth] at hi
  cases hi

theorem SocketsInv.step {pf : Platform} {h es : List Event} {s t : System} {a : Action}
    (hs : SocketsInv s.now h s.device) (hstep : (systemMachine pf).step s a = some (t, es)) :
    SocketsInv t.now (h ++ es) t.device := by
  obtain ⟨-, htime, hnow, shown, answer, rfl, hcase⟩ := systemStep_cases hstep
  rw [hnow, ← List.append_assoc]
  exact ((hs.mono htime).call hcase).answer answer

theorem SocketsInv.run {pf : Platform} {s t : System} {as : List Action} {es : List Event}
    (hs : s.Init) (hrun : (systemMachine pf).Run s as es t) : SocketsInv t.now es t.device :=
  hrun.history (P := fun _ => True) (I := fun es t => SocketsInv t.now es t.device)
    (fun _ _ h => h) (.init hs) (fun _ _ _ _ _ _ ht hstep => ht.step hstep) trivial

end WebTerminal
