import WebTerminal.Server.Revocation

/-!
# Idle expiry

A session lives on what is accepted: a call that does not accept a token leaves
its session as old as it was.  Without requests and data frames that carry a
token only a flush can accept it, when it rechecks an open socket.  As long as no
flush does, the session ends an hour after its last use and the sockets opened
with it get nothing more.
-/

set_option autoImplicit false

namespace WebTerminal

open Proc

/-- Every active session and client is as it was, or its token was just
accepted or issued. -/
structure Kept (env : Env) (d : Device) (es : List Event) (d' : Device) : Prop where
  sessions : ∀ i, (d'.auth.sessions i).active = true →
    d'.auth.sessions i = d.auth.sessions i ∨ (d'.auth.sessions i).lastActivity = env.monoNow ∧
      (.accepted (d'.auth.sessions i).token env.now ∈ es ∨
        .issued (d'.auth.sessions i).token env.now ∈ es)
  clients : ∀ i, (d'.clients i).active = true →
    d'.clients i = d.clients i ∨ (d'.clients i).lastAuthUs = env.now ∧
      .accepted (d'.clients i).token env.now ∈ es

/-- No active session with this token was used after the second `limit`, and no
active client with it was checked after the microsecond `checked`. -/
structure IdleSince (token : CString) (limit checked : ℕ) (d : Device) : Prop where
  sessions : ∀ i, (d.auth.sessions i).active = true → (d.auth.sessions i).token = token →
    (d.auth.sessions i).lastActivity ≤ limit
  clients : ∀ i, (d.clients i).active = true → (d.clients i).token = token →
    (d.clients i).lastAuthUs ≤ checked

/-- A session with this token is live. -/
def Device.lives (env : Env) (token : CString) (d : Device) : Prop :=
  ∃ i, (d.auth.sessions i).token = token ∧ (d.auth.sessions i).live env.monoNow = true

/-- While a session with this token is live the call does not use it behind the
client's back: the scan for the cookie stays inside the header, and a flush finds
no client with the token due for a recheck. -/
def Passive (env : Env) (token : CString) (d : Device) (call : Call) : Prop :=
  d.lives env token → call.ScanInside ∧
    ∀ frames, call = .flush frames → ∀ i, (d.clients i).active = true →
      (d.clients i).token = token → env.now < (d.clients i).lastAuthUs + wsAuthRecheckUs

/-- While a session with this token is live the call does not use it. -/
def Spares (pf : Platform) (env : Env) (token : CString) (d : Device) (call : Call) : Prop :=
  Passive env token d call ∧ (d.lives env token → ¬call.carries pf d token)

/-- Neither accepted nor issued. -/
def Unused (token : CString) (es : List Event) : Prop :=
  ∀ time, .accepted token time ∉ es ∧ .issued token time ∉ es

/-! ## What a call keeps -/

section

variable {env : Env} {d d' d'' : Device} {es fs : List Event}

theorem Kept.trans (h : Kept env d es d') (h' : Kept env d' fs d'') :
    Kept env d (es ++ fs) d'' where
  sessions i hi := by
    rcases h'.sessions i hi with heq | ⟨hlast, hshown⟩
    · rw [heq] at hi ⊢
      refine (h.sessions i hi).imp id fun ⟨hlast, hshown⟩ => ⟨hlast, ?_⟩
      exact hshown.imp (List.mem_append_left _) (List.mem_append_left _)
    · exact .inr ⟨hlast, hshown.imp (List.mem_append_right _) (List.mem_append_right _)⟩
  clients i hi := by
    rcases h'.clients i hi with heq | ⟨hlast, hshown⟩
    · rw [heq] at hi ⊢
      exact (h.clients i hi).imp id fun ⟨hlast, hshown⟩ => ⟨hlast, List.mem_append_left _ hshown⟩
    · exact .inr ⟨hlast, List.mem_append_right _ hshown⟩

/-- Nothing but an end has come to a session or a client. -/
theorem kept_of_eq
    (hsessions : ∀ i, (d'.auth.sessions i).active = true →
      d'.auth.sessions i = d.auth.sessions i)
    (hclients : ∀ i, (d'.clients i).active = true → d'.clients i = d.clients i) :
    Kept env d es d' :=
  ⟨fun i hi => .inl (hsessions i hi), fun i hi => .inl (hclients i hi)⟩

/-- After that, nothing but an end has come to a session or a client. -/
theorem Kept.ended (h : Kept env d es d') (fs : List Event)
    (hsessions : ∀ j, (d''.auth.sessions j).active = true →
      d''.auth.sessions j = d'.auth.sessions j)
    (hclients : ∀ j, (d''.clients j).active = true → d''.clients j = d'.clients j) :
    Kept env d (es ++ fs) d'' :=
  h.trans (kept_of_eq hsessions hclients)

theorem kept_refl (env : Env) (d : Device) (es : List Event) : Kept env d es d :=
  kept_of_eq (fun _ _ => rfl) fun _ _ => rfl

theorem kept_checked (env : Env) (token : CString) (d : Device) :
    Kept env d [validation token env.now (d.validates env token)] (d.checked env token) where
  sessions i hi := by
    have hcases := authValidateSession_cases env.monoNow token d.auth.sessions
    unfold Device.validates
    unfold Device.checked at hi ⊢
    simp only [Device.setSessions_sessions] at hi ⊢
    generalize (authValidateSession env.monoNow token d.auth.sessions).1 = sessions at hcases hi ⊢
    generalize (authValidateSession env.monoNow token d.auth.sessions).2 = ok at hcases ⊢
    cases hcases with
    | unknown => exact .inl rfl
    | @expired j =>
        refine .inl (endSession_of_ne ?_ _)
        rintro rfl
        simp at hi
    | @accepted j _ hj htoken =>
        by_cases hij : i = j
        · subst hij
          refine .inr ⟨by simp, .inl ?_⟩
          simp [validation, htoken]
        · exact .inl (Function.update_of_ne hij _ _)
  clients i _ := .inl rfl

/-- A token that was accepted. -/
theorem kept_accepted {token : CString} (hvalid : d.validates env token = true) :
    Kept env d [.accepted token env.now] (d.checked env token) := by
  have h := kept_checked env token d
  rwa [hvalid] at h

/-- A token that was rejected. -/
theorem kept_rejected {token : CString} (hinvalid : d.validates env token = false) :
    Kept env d [.rejected token env.now] (d.checked env token) := by
  have h := kept_checked env token d
  rwa [hinvalid] at h

theorem Precheck.kept {pf : Platform} {req : Request} (hpre : Precheck pf env req d d' es) :
    Kept env d es d' := by
  cases hpre with
  | none => exact kept_refl env d []
  | rejected _ hinvalid => exact kept_rejected hinvalid

theorem RevalidateCase.kept {i : Fin maxWsClients} (h : RevalidateCase env i d d' es) :
    Kept env d es d' := by
  cases h with
  | skipped => exact kept_refl env d []
  | rejected hi hdue hinvalid =>
      refine (kept_rejected hinvalid).ended [.evicted _] (fun _ _ => rfl) fun j hj => ?_
      by_cases hji : j = i
      · subst hji
        simp at hj
      · exact Function.update_of_ne hji _ _
  | accepted hi hdue hvalid =>
      refine ⟨(kept_accepted hvalid).sessions, fun j hj => ?_⟩
      by_cases hji : j = i
      · subst hji
        exact .inr (by simp)
      · exact .inl (Function.update_of_ne hji _ _)

theorem PushLink.kept {frame : Frame × (Fin maxWsClients → Bool)}
    (h : PushLink env frame d es d') : Kept env d es d' := by
  refine kept_of_eq (fun i _ => ?_) fun i hi => h.clients hi
  rw [h.1]
  rfl

theorem CallCase.kept {pf : Platform} {call : Call} (htokens : SessionTokens d)
    (hcase : CallCase pf env d call d' es) : Kept env d es d' := by
  cases hcase with
  | idle => exact kept_refl env d []
  | checked hpre => exact hpre.kept.trans (kept_checked env _ _)
  | worked _ hvalid =>
      exact (kept_accepted hvalid).ended _ (fun _ _ => rfl) fun _ _ => rfl
  | revoked _ hvalid =>
      -- nothing is left that could be kept
      refine kept_of_eq (fun i hi => ?_) fun i hi => ?_
      · simp [Device.revoked, authInvalidateAllSessions] at hi
      · cases (revoked_inactive _ i).symm.trans hi
  | reissued _ hvalid =>
      exact (kept_accepted hvalid).ended [.reissued _] (fun _ _ => rfl) fun _ _ => rfl
  | hosts => exact kept_of_eq (fun _ _ => rfl) fun _ _ => rfl
  | @loggedIn req hosts random =>
      -- the session in the slot is an old one, or issued just now
      refine ⟨fun i hi => (openSession_active hi).imp id fun hnew => ?_, fun _ _ => .inl rfl⟩
      have hsession : ((d.setHosts hosts).setSessions
          (openSession env.monoNow random d.auth.sessions).1).auth.sessions i =
            ⟨generateToken random, env.monoNow, true⟩ := hnew
      rw [hsession]
      simp
  | loggedOut => exact kept_of_eq (fun i hi => authLogout_active hi) fun _ _ => rfl
  | @registered req d₁ es token i clients hpre hoffers hvalid hunlocked hadd =>
      obtain ⟨hnew, hold⟩ := wsAddClient_some hadd
      -- the check keeps every session, and the slot it adds was checked just now
      have hadded : Kept env d₁ [.accepted token env.now, .registered i req.fd (copyToken token)]
          ((d₁.checked env token).setClients clients) := by
        have hlength : SessionTokens d₁ := by
          cases hpre with
          | none => exact htokens
          | rejected => exact htokens.checked env _
        rw [hlength.copyToken hvalid] at hnew ⊢
        rw [hlength.copyToken hvalid] at hnew
        refine ⟨fun j hj => ((kept_accepted hvalid).sessions j hj).imp id fun h =>
          ⟨h.1, by simpa using h.2⟩, fun j hj => ?_⟩
        by_cases hji : j = i
        · subst hji
          exact .inr (by simp [hnew])
        · exact .inl ((hold j hji).trans (congrFun hpre.clients j).symm)
      exact hpre.kept.trans hadded
  | socketEvicted hfind hinvalid =>
      exact (kept_rejected hinvalid).ended [.evicted _] (fun _ _ => rfl)
        fun j hj => deactivate_eq_of_active hj
  | socketKept _ hvalid => exact kept_accepted hvalid
  | socketRemoved _ hvalid =>
      exact (kept_accepted hvalid).ended [] (fun _ _ => rfl)
        fun j hj => wsRemoveClient_eq_of_active hj
  | relayed _ hvalid =>
      exact (kept_accepted hvalid).ended _ (fun _ _ => rfl) fun _ _ => rfl
  | closed => exact kept_of_eq (fun _ _ => rfl) fun i hi => wsRemoveClient_eq_of_active hi
  | @flushed frames =>
      -- every revalidation and every send is a step of its own
      obtain ⟨d₁, es, fs, hshown, hchecks, hpushes⟩ := flushWork_chains env frames d
      rw [hshown]
      have hchecked := hchecks.invariant (I := fun h d₂ => Kept env d h d₂)
        (fun _ _ _ _ _ hs hlink => hs.trans hlink.kept) (kept_refl env d [])
      exact hpushes.invariant (I := fun h d₂ => Kept env d h d₂)
        (fun _ _ _ _ _ hs hlink => hs.trans hlink.kept) hchecked
  | background => exact kept_of_eq (fun _ _ => rfl) fun _ _ => rfl

/-! ## Who accepts a token -/

theorem lives_of_validates {token : CString} (hvalid : d.validates env token = true) :
    d.lives env token := by
  have hcases := authValidateSession_cases env.monoNow token d.auth.sessions
  unfold Device.validates at hvalid
  rw [hvalid] at hcases
  generalize (authValidateSession env.monoNow token d.auth.sessions).1 = sessions at hcases
  cases hcases with
  | @accepted i _ hi htoken hidle => exact ⟨i, htoken, by simp [Session.live, hi, hidle]⟩

/-- A token that was not used since comes to life no more. -/
theorem Kept.lives {token : CString} (h : Kept env d es d') (hunused : Unused token es)
    (hlives : d'.lives env token) : d.lives env token := by
  obtain ⟨i, htoken, hlive⟩ := hlives
  have hi : (d'.auth.sessions i).active = true := by
    simp only [Session.live, Bool.and_eq_true] at hlive
    exact hlive.1
  rcases h.sessions i hi with heq | ⟨-, haccepted | hissued⟩
  · rw [heq] at htoken hlive
    exact ⟨i, htoken, hlive⟩
  · exact absurd (htoken ▸ haccepted) (hunused _).1
  · exact absurd (htoken ▸ hissued) (hunused _).2

theorem Unused.append {token : CString} (hes : Unused token es) (hfs : Unused token fs) :
    Unused token (es ++ fs) := by
  intro time
  simp [hes time, hfs time]

/-- The loop over the slots does not use a token it finds no client due with. -/
theorem revalidate_unused {token : CString} {is : List (Fin maxWsClients)}
    (hchecks : Chain (fun i d es d' => RevalidateCase env i d d' es) is d es d')
    (hspared : d.lives env token → ∀ i, (d.clients i).active = true →
      (d.clients i).token = token → env.now < (d.clients i).lastAuthUs + wsAuthRecheckUs) :
    Unused token es ∧ Kept env d es d' := by
  refine hchecks.invariant (I := fun h d₂ => Unused token h ∧ Kept env d h d₂)
    (fun i h d₂ es d₃ ⟨hunused, hkept⟩ hlink => ?_) (h := []) ⟨by simp [Unused], kept_refl env d []⟩
  refine ⟨hunused.append ?_, hkept.trans hlink.kept⟩
  cases hlink with
  | skipped => simp [Unused]
  | rejected => simp [Unused]
  | accepted hi hdue hvalid =>
      refine fun time => ⟨fun hmem => ?_, by simp⟩
      obtain ⟨rfl, -⟩ : token = _ ∧ time = _ := by simpa using hmem
      -- this is the first time the token is accepted in this flush
      have hlives := hkept.lives hunused (lives_of_validates hvalid)
      rcases hkept.clients i hi with heq | ⟨-, haccepted⟩
      · have hnotDue := hspared hlives i (heq ▸ hi) (by rw [heq])
        rw [heq] at hdue
        omega
      · exact (hunused _).1 haccepted

/-- What the loop over the frames sends goes to clients that were active before. -/
theorem pushed_of_sent {frames : List (Frame × (Fin maxWsClients → Bool))}
    (hpushes : Chain (PushLink env) frames d es d') :
    ∀ e ∈ es, ∃ i frame, e = .sent i (d.clients i).token frame env.now ∧
      (d.clients i).active = true := by
  refine (hpushes.invariant (I := fun h d₂ => (∀ e ∈ h, ∃ i frame,
      e = .sent i (d.clients i).token frame env.now ∧ (d.clients i).active = true) ∧
        ∀ i, (d₂.clients i).active = true → d₂.clients i = d.clients i)
    (fun frame h d₂ es d₃ ⟨hsent, hsame⟩ hlink => ⟨fun e he => ?_, fun i hi => ?_⟩) (h := [])
    ⟨by simp, fun _ _ => rfl⟩).1
  · rcases List.mem_append.mp he with he | he
    · exact hsent e he
    · rw [hlink.2] at he
      obtain ⟨i, hi, rfl⟩ := List.mem_map.mp he
      have hwants := mem_sendFrame_sent.mp hi
      simp only [wants, Bool.and_eq_true] at hwants
      have heq := hsame i hwants.1
      exact ⟨i, frame.1, by rw [heq], heq ▸ hwants.1⟩
  · have heq := hlink.clients hi
    rw [heq] at hi ⊢
    exact hsame i hi

/-- A flush spares a token when it finds no client due for a recheck with it. -/
theorem flush_unused {token : CString} (frames : List (Frame × (Fin maxWsClients → Bool)))
    (hspared : d.lives env token → ∀ i, (d.clients i).active = true →
      (d.clients i).token = token → env.now < (d.clients i).lastAuthUs + wsAuthRecheckUs) :
    Unused token ((flushWork env frames).final d.start).shown := by
  obtain ⟨d₁, es, fs, hshown, hchecks, hpushes⟩ := flushWork_chains env frames d
  rw [hshown]
  refine (revalidate_unused hchecks hspared).1.append fun time => ⟨fun he => ?_, fun he => ?_⟩
  all_goals
    obtain ⟨i, frame, heq, -⟩ := pushed_of_sent hpushes _ he
    cases heq

theorem Precheck.unused {pf : Platform} {req : Request} (hpre : Precheck pf env req d d' es)
    (token : CString) : Unused token es := by
  cases hpre <;> simp [Unused]

/-- A token that a handshake finds valid at its second attempt was live before the first. -/
theorem Precheck.lives {pf : Platform} {req : Request} {token : CString}
    (hpre : Precheck pf env req d d' es) (hvalid : d'.validates env token = true) :
    d.lives env token :=
  hpre.kept.lives (hpre.unused token) (lives_of_validates hvalid)

/-- A token that a call other than a flush accepts was live, and the call carries it. -/
theorem CallCase.of_accepted {pf : Platform} {call : Call} {token : CString} {time : ℕ}
    (hcase : CallCase pf env d call d' es) (hcall : ∀ frames, call ≠ .flush frames)
    (haccepted : .accepted token time ∈ es) :
    d.lives env token ∧ (call.ScanInside → call.carries pf d token) := by
  cases hcase with
  | idle => cases haccepted
  | @checked req d₁ es₁ token' hpre hoffers =>
      rcases List.mem_append.mp haccepted with hmem | hmem
      · exact absurd hmem (hpre.unused token time).1
      · cases hvalid : d₁.validates env token' with
        | false => simp [validation, hvalid] at hmem
        | true =>
            obtain ⟨rfl, -⟩ : token = _ ∧ time = _ := by simpa [validation, hvalid] using hmem
            exact ⟨hpre.lives hvalid, fun hinside => carries_of_offers hinside hoffers d⟩
  | worked hoffers hvalid =>
      obtain ⟨rfl, -⟩ : token = _ ∧ time = _ := by simpa using haccepted
      exact ⟨lives_of_validates hvalid, fun hinside => carries_of_offers hinside hoffers d⟩
  | revoked hoffers hvalid =>
      obtain ⟨rfl, -⟩ : token = _ ∧ time = _ := by simpa using haccepted
      exact ⟨lives_of_validates hvalid, fun hinside => carries_of_offers hinside hoffers d⟩
  | reissued hoffers hvalid =>
      obtain ⟨rfl, -⟩ : token = _ ∧ time = _ := by simpa using haccepted
      exact ⟨lives_of_validates hvalid, fun hinside => carries_of_offers hinside hoffers d⟩
  | hosts => cases haccepted
  | loggedIn => simp at haccepted
  | loggedOut => cases haccepted
  | registered hpre hoffers hvalid =>
      rcases List.mem_append.mp haccepted with hmem | hmem
      · exact absurd hmem (hpre.unused token time).1
      · obtain ⟨rfl, -⟩ : token = _ ∧ time = _ := by simpa using hmem
        exact ⟨hpre.lives hvalid, fun hinside => carries_of_offers hinside hoffers d⟩
  | socketEvicted => simp at haccepted
  | socketKept hfind hvalid =>
      obtain ⟨rfl, -⟩ : token = _ ∧ time = _ := by simpa using haccepted
      exact ⟨lives_of_validates hvalid, fun _ => ⟨_, hfind, rfl⟩⟩
  | socketRemoved hfind hvalid =>
      obtain ⟨rfl, -⟩ : token = _ ∧ time = _ := by simpa using haccepted
      exact ⟨lives_of_validates hvalid, fun _ => ⟨_, hfind, rfl⟩⟩
  | relayed hfind hvalid =>
      obtain ⟨rfl, -⟩ : token = _ ∧ time = _ := by simpa using haccepted
      exact ⟨lives_of_validates hvalid, fun _ => ⟨_, hfind, rfl⟩⟩
  | closed => cases haccepted
  | flushed => exact absurd rfl (hcall _)
  | background => cases haccepted

/-- A call that spares a token does not use it. -/
theorem CallCase.unused {pf : Platform} {call : Call} {token : CString}
    (hcase : CallCase pf env d call d' es) (hspared : Spares pf env token d call)
    (hissued : ∀ time, .issued token time ∉ es) : Unused token es := by
  by_cases hcall : ∀ frames, call ≠ .flush frames
  · refine fun time => ⟨fun haccepted => ?_, hissued time⟩
    obtain ⟨hlives, hcarries⟩ := hcase.of_accepted hcall haccepted
    exact hspared.2 hlives (hcarries (hspared.1 hlives).1)
  · push Not at hcall
    obtain ⟨frames, rfl⟩ := hcall
    cases hcase with
    | idle => simp [Unused]
    | flushed => exact flush_unused frames fun hlives => (hspared.1 hlives).2 frames rfl

/-! ## A token that lies idle -/

theorem IdleSince.kept {token : CString} {limit checked : ℕ} (h : IdleSince token limit checked d)
    (hkept : Kept env d es d') (hunused : Unused token es) : IdleSince token limit checked d' where
  sessions i hi htoken := by
    rcases hkept.sessions i hi with heq | ⟨-, haccepted | hissued⟩
    · rw [heq] at hi htoken ⊢
      exact h.sessions i hi htoken
    · exact absurd (htoken ▸ haccepted) (hunused _).1
    · exact absurd (htoken ▸ hissued) (hunused _).2
  clients i hi htoken := by
    rcases hkept.clients i hi with heq | ⟨-, haccepted⟩
    · rw [heq] at hi htoken ⊢
      exact h.clients i hi htoken
    · exact absurd (htoken ▸ haccepted) (hunused _).1

/-- After an hour of rest no session is live. -/
theorem IdleSince.dead {token : CString} {limit checked : ℕ}
    (h : IdleSince token limit checked d) (htime : limit + authSessionTimeoutS < env.monoNow) :
    ¬d.lives env token := by
  rintro ⟨i, htoken, hlive⟩
  simp only [Session.live, Session.idle, Bool.and_eq_true, Bool.not_eq_true',
    decide_eq_false_iff_not] at hlive
  have := h.sessions i hlive.1 htoken
  omega

/-- What a call sends, it sends now, and not with a token that is dead and due for
a recheck. -/
theorem CallCase.of_sent {pf : Platform} {call : Call} {token : CString} {limit checked : ℕ}
    {i : Fin maxWsClients} {frame : Frame} {time : ℕ} (hcase : CallCase pf env d call d' es)
    (hsent : .sent i token frame time ∈ es) :
    time = env.now ∧ (IdleSince token limit checked d → checked + wsAuthRecheckUs ≤ env.now →
      d.lives env token) := by
  have hcall : ¬∀ frames, call ≠ .flush frames :=
    fun hcall => hcase.not_sent hcall i token frame time hsent
  push Not at hcall
  obtain ⟨frames, rfl⟩ := hcall
  cases hcase with
  | idle => cases hsent
  | flushed =>
      obtain ⟨d₁, es, fs, hshown, hchecks, hpushes⟩ := flushWork_chains env frames d
      rw [hshown] at hsent
      have hpushed : .sent i token frame time ∈ fs := by
        refine (List.mem_append.mp hsent).resolve_left fun hmem => ?_
        have hnone := hchecks.invariant (I := fun h _ => .sent i token frame time ∉ h)
          (fun j h d₂ es d₃ hs hlink => by cases hlink <;> simp [hs]) (h := []) (by simp)
        exact hnone hmem
      obtain ⟨j, frame', heq, hj⟩ := pushed_of_sent hpushes _ hpushed
      obtain ⟨rfl, htoken, rfl, rfl⟩ := Event.sent.inj heq
      refine ⟨rfl, fun hidle hdue => by_contra fun hdead => ?_⟩
      -- the client was not due, but its last check is too long ago
      obtain ⟨hunused, hkept⟩ := revalidate_unused hchecks
        fun hlives => absurd hlives hdead
      have hchecked := (hidle.kept hkept hunused).clients i hj htoken.symm
      have hfresh := fresh_of_revalidated hchecks (.inl (List.mem_finRange i)) hj
      omega

end

/-! ## Runs -/

/-- No session was used later than now. -/
def SessionsPast (now : ℕ) (d : Device) : Prop :=
  ∀ i, (d.auth.sessions i).active = true → (d.auth.sessions i).lastActivity ≤ now / 1000000

section

variable {pf : Platform} {s t u v : System} {as pre silent : List Action} {es h : List Event}
  {token : CString} {limit checked : ℕ}

theorem run_now_le (hrun : (systemMachine pf).Run s as es t) : s.now ≤ t.now :=
  hrun.invariant (I := fun t => s.now ≤ t.now) le_rfl fun u a v fs hu hstep => by
    obtain ⟨-, htime, hnow, -⟩ := systemStep_cases hstep
    omega

theorem sessionsPast_run (hs : s.Init) (hrun : (systemMachine pf).Run s as es t) :
    SessionsPast t.now t.device := by
  induction hrun with
  | nil =>
      intro i hi
      rw [hs.auth] at hi
      cases hi
  | snoc hrun hstep ih =>
      obtain ⟨-, htime, hnow, shown, answer, -, hcase⟩ := systemStep_cases hstep
      intro i hi
      rw [hnow]
      rcases (hcase.kept (SocketsInv.run hs hrun).tokens).sessions i hi with heq | ⟨hlast, -⟩
      · rw [heq] at hi ⊢
        exact (ih i hi).trans (Nat.div_le_div_right htime)
      · exact hlast.le

/-- What a run does to a token that its calls spare. -/
structure Resting (token : CString) (limit checked start : ℕ) (es : List Event) (t : System) :
    Prop where
  idle : IdleSince token limit checked t.device
  sent : ∀ i frame time, .sent i token frame time ∈ es →
    start ≤ time ∧ (limit + authSessionTimeoutS < time / 1000000 → time < checked + wsAuthRecheckUs)

theorem resting_run (hs : s.Init) (hpre : (systemMachine pf).Run s pre h u)
    (hrun : (systemMachine pf).Run u as es t) (hidle : IdleSince token limit checked u.device)
    (hissued : ∀ time, .issued token time ∉ es)
    (hspared : ∀ v a, (systemMachine pf).Takes u as v a → v.now ≤ a.env.now →
      IdleSince token limit checked v.device → Spares pf a.env token v.device a.call) :
    Resting token limit checked u.now es t := by
  induction hrun with
  | nil => exact ⟨hidle, by simp⟩
  | @snoc as es fs v t a hrun hstep ih =>
      obtain ⟨hidle, hsent⟩ := ih (fun time hmem => hissued time (List.mem_append_left _ hmem))
        fun v a htakes => hspared v a htakes.snoc
      obtain ⟨-, htime, -, shown, answer, rfl, hcase⟩ := systemStep_cases hstep
      have hunused : Unused token shown :=
        hcase.unused (hspared v a (hrun.takes_last a) htime hidle) fun time hmem =>
          hissued time (by simp [hmem])
      have hkept := hcase.kept (SocketsInv.run hs (hpre.append hrun)).tokens
      refine ⟨hidle.kept hkept hunused, fun i frame time hmem => ?_⟩
      rcases List.mem_append.mp hmem with hmem | hmem
      · exact hsent i frame time hmem
      · obtain ⟨rfl, hlives⟩ := hcase.of_sent (by simpa using hmem : _ ∈ shown)
        refine ⟨(run_now_le hrun).trans htime, fun hpast => ?_⟩
        by_contra hdue
        exact hidle.dead hpast (hlives hidle (by omega))

/-- Nobody uses the token: no call carries it and no login returns it. -/
structure Silent (pf : Platform) (token : CString) (s : System) (as : List Action)
    (es : List Event) : Prop where
  calls : ∀ t a, (systemMachine pf).Takes s as t a → ¬a.call.carries pf t.device token
  logins : ∀ time, .issued token time ∉ es

/-- After a silence that showed `es` and led to `t` the token is of no use any more
once the second `limit` has passed, whatever happens then, until it is issued again. -/
structure Expired (pf : Platform) (token : CString) (limit : ℕ) (es : List Event) (t : System) :
    Prop where
  invalid : ∀ env, t.now ≤ env.now → limit < env.monoNow →
    t.device.validates env token = false
  unsent : ∀ i frame time, .sent i token frame time ∈ es → time / 1000000 ≤ limit
  after : limit < t.now / 1000000 → ∀ as fs u, (systemMachine pf).Run t as fs u →
    (∀ time, .issued token time ∉ fs) →
    (∀ env, u.now ≤ env.now → u.device.validates env token = false) ∧
      ∀ i frame time, .sent i token frame time ∉ fs

/-- When nobody uses the token along `silent`, it expires. -/
def ExpiresIdle (pf : Platform) (token : CString) (s : System) (pre silent : List Action) : Prop :=
  ∀ h t es u, (systemMachine pf).Run s pre h t → (systemMachine pf).Run t silent es u →
    Silent pf token t silent es →
    Expired pf token (t.now / 1000000 + authSessionTimeoutS) es u

theorem not_validates_of_dead {d : Device} {env : Env} (hdead : ¬d.lives env token) :
    d.validates env token = false := by
  cases hvalid : d.validates env token with
  | false => rfl
  | true => exact absurd (lives_of_validates hvalid) hdead

/-- An hour after a check the next one is due. -/
theorem recheck_due {checked now : ℕ}
    (h : checked / 1000000 + authSessionTimeoutS < now / 1000000) :
    checked + wsAuthRecheckUs ≤ now := by
  unfold authSessionTimeoutS at h
  unfold wsAuthRecheckUs
  omega

/-- A token that nobody uses for more than an hour expires, if no flush finds a
socket that was opened with it due for a recheck while its session is live. -/
theorem idle_expiry (hs : s.Init)
    (hpassive : ∀ h t u a, (systemMachine pf).Run s pre h t →
      (systemMachine pf).Takes t silent u a → Passive a.env token u.device a.call) :
    ExpiresIdle pf token s pre silent := by
  intro h t es u hpre hrun hsilent
  have hstart : IdleSince token (t.now / 1000000) t.now t.device :=
    ⟨fun i hi _ => sessionsPast_run hs hpre i hi, fun i hi _ => (SocketsInv.run hs hpre).past i hi⟩
  obtain ⟨hidle, hsent⟩ := resting_run hs hpre hrun hstart hsilent.logins
    fun v a htakes _ _ => ⟨hpassive h t v a hpre htakes, fun _ => hsilent.calls v a htakes⟩
  refine ⟨fun env _ hpast => not_validates_of_dead (hidle.dead hpast), fun i frame time hmem => ?_,
    fun hpast as fs w hafter hissued => ?_⟩
  · obtain ⟨-, hlast⟩ := hsent i frame time hmem
    by_contra hlate
    have hrecent := hlast (by omega)
    exact absurd (recheck_due (by omega)) (by omega : ¬t.now + wsAuthRecheckUs ≤ time)
  · -- from here on the session is dead, which spares the token in every step
    have hrun' := hpre.append hrun
    obtain ⟨hidle', hsent'⟩ := resting_run hs hrun' hafter hidle hissued
      fun v a htakes htime hv => by
        obtain ⟨bs, cs, gs, -, hvrun⟩ := htakes
        have hdead : ¬v.device.lives a.env token := by
          refine hv.dead (lt_of_lt_of_le hpast (Nat.div_le_div_right ?_))
          exact (run_now_le hvrun).trans htime
        exact ⟨fun hlives => absurd hlives hdead, fun hlives => absurd hlives hdead⟩
    refine ⟨fun env htime => not_validates_of_dead (hidle'.dead ?_), fun i frame time hmem => ?_⟩
    · exact lt_of_lt_of_le hpast (Nat.div_le_div_right ((run_now_le hafter).trans htime))
    · obtain ⟨htime, hlast⟩ := hsent' i frame time hmem
      have hlate := lt_of_lt_of_le hpast (Nat.div_le_div_right htime)
      exact absurd (recheck_due hlate) (not_le.mpr (hlast hlate))

end

/-- A second, in microseconds. -/
abbrev second : ℕ := 1000000

/-- A login and a handshake, then nothing but a flush after more than an hour. -/
theorem idle_expiry_flush :
    (∃ h t es u, (systemMachine demoParser).Run demoSystem [demoLogin 10, demoHandshake 20] h t ∧
      (systemMachine demoParser).Run t [demoFlush (3700 * second)] es u ∧
      .registered 0 54 demoToken ∈ h ∧ demoSent 0 (3700 * second) ∉ es) ∧
    ExpiresIdle demoParser demoToken demoSystem [demoLogin 10, demoHandshake 20]
      [demoFlush (3700 * second)] := by
  obtain ⟨t, h, u, es, hrun, hflush, hdead, hquiet⟩ := Machine.Run.exists_of_exec_exec
    (M := systemMachine demoParser) (s := demoSystem)
    (p := fun t h => decide (.registered 0 54 demoToken ∈ h) &&
      decide (∀ i, (t.device.auth.sessions i).live 3700 = false))
    (q := fun _ es => decide (demoSent 0 (3700 * second) ∉ es))
    (show ((systemMachine demoParser).exec demoSystem [demoLogin 10, demoHandshake 20]).any
      (fun r => _ && ((systemMachine demoParser).exec r.1 [demoFlush (3700 * second)]).any _) =
        true by decide +kernel)
  simp only [Bool.and_eq_true, decide_eq_true_eq] at hdead hquiet
  refine ⟨⟨h, t, es, u, hrun, hflush, hdead.1, hquiet⟩, ?_⟩
  refine idle_expiry demoSystem_init fun h' t' u' a hpre' htakes => ?_
  obtain ⟨-, rfl⟩ := hrun.det hpre'
  obtain ⟨rfl, rfl⟩ := htakes.single
  rintro ⟨i, -, hlive⟩
  exact absurd ((hdead.2 i).symm.trans hlive) (by simp)

/-- Events that issue this token. -/
def Event.issues (token : CString) : Event → Bool
  | .issued token' _ => token' == token
  | _ => false

/-- Two flushes at most an hour apart keep a session alive on which nobody acts. -/
theorem idle_expiry_pushed :
    ¬ExpiresIdle demoParser demoToken demoSystem [demoLogin 10, demoHandshake 20]
      [demoFlush (3000 * second), demoFlush (6000 * second)] := by
  intro hexpires
  obtain ⟨t, h, u, es, hpre, hrun, hnow, hend⟩ := Machine.Run.exists_of_exec_exec
    (M := systemMachine demoParser) (s := demoSystem) (p := fun t _ => t.now == 20)
    (q := fun _ es => !es.any (Event.issues demoToken) &&
      decide (demoSent 0 (6000 * second) ∈ es))
    (show ((systemMachine demoParser).exec demoSystem [demoLogin 10, demoHandshake 20]).any
      (fun r => _ && ((systemMachine demoParser).exec r.1
        [demoFlush (3000 * second), demoFlush (6000 * second)]).any _) = true by decide +kernel)
  simp only [Bool.and_eq_true, beq_iff_eq, decide_eq_true_eq, Bool.not_eq_true',
    List.any_eq_false] at hnow hend
  obtain ⟨hissued, hsent⟩ := hend
  have hsilent : Silent demoParser demoToken t
      [demoFlush (3000 * second), demoFlush (6000 * second)] es := by
    refine ⟨fun v a htakes hcarries => ?_, fun time hmem => ?_⟩
    · -- a flush carries nothing
      obtain ⟨bs, cs, -, heq, -⟩ := htakes
      have ha : a ∈ [demoFlush (3000 * second), demoFlush (6000 * second)] := by simp [heq]
      simp only [List.mem_cons, List.not_mem_nil, or_false] at ha
      rcases ha with rfl | rfl <;> cases hcarries
    · exact hissued _ hmem (by simp [Event.issues])
  have hlast := (hexpires h t es u hpre hrun hsilent).unsent _ _ _ hsent
  rw [hnow] at hlast
  exact absurd hlast (by decide)

end WebTerminal
