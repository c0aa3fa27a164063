import WebTerminal.Auth.AuthMachine

/-!
# Which session a login ends

When all four slots are live, the scan of `auth_login` is to find the one that
was not used for longest.  It keeps the smallest `last_activity` seen so far in
`oldest_time` and reads the value `0` as "none seen yet".  A session last used
in the first second after boot has exactly this value: the slot behind it
replaces it as the candidate, however recently that one was used.  So the scan is
right if no session has the value, and also if the last slot has it, since
nothing is behind that one.
-/

set_option autoImplicit false

namespace WebTerminal

/-- What a login owes the table it finds.  A slot that is free or expired is
there to be taken, and every live session stays; otherwise the new session
replaces exactly one, and none of the four was used before that one. -/
def EvictsLeastRecent (now : ℕ) (new : Session) (before after : Sessions) : Prop :=
  if ∀ i, (before i).live now = true then
    ∃ slot, after = Function.update before slot new ∧
      ∀ i, (before slot).lastActivity ≤ (before i).lastActivity
  else ∀ i, (before i).live now = true → after i = before i

/-- The last slot the scan looks at. -/
def lastSlot : Fin authMaxSessions := Fin.last 3

/-- The scan does not mistake a session for the marker in `oldest_time`: it finds
a slot that is not live, or no session was last used in second `0`, or the
session in the last slot was. -/
def MarkerUnused (now : ℕ) (sessions : Sessions) : Prop :=
  (∃ i, (sessions i).live now = false) ∨ (∀ i, (sessions i).lastActivity ≠ 0) ∨
    (sessions lastSlot).lastActivity = 0

variable {now : ℕ} {sessions : Sessions}

/-! ## The scan over live slots -/

theorem loginScan_cons_live {i : Fin authMaxSessions} (hi : (sessions i).live now = true)
    (rest : List (Fin authMaxSessions)) (oldestTime : ℕ) (oldestSlot : Fin authMaxSessions) :
    loginScan now (i :: rest) sessions oldestTime oldestSlot =
      if oldestTime = 0 ∨ (sessions i).lastActivity < oldestTime then
        loginScan now rest sessions (sessions i).lastActivity i
      else loginScan now rest sessions oldestTime oldestSlot := by
  obtain ⟨hactive, hidle⟩ : (sessions i).active = true ∧ (sessions i).idle now = false := by
    simpa [Session.live] using hi
  simp [loginScan, hactive, hidle]

/-- Away from the marker the scan finds a minimum.  `oldest_time` is the time of
the candidate throughout. -/
theorem loginScan_minimal {visited : List (Fin authMaxSessions)}
    (hlive : ∀ j ∈ visited, (sessions j).live now = true)
    (hused : ∀ j, (sessions j).lastActivity ≠ 0) (slot : Fin authMaxSessions) :
    ∀ j ∈ slot :: visited,
      (sessions (loginScan now visited sessions (sessions slot).lastActivity slot).2).lastActivity ≤
        (sessions j).lastActivity := by
  induction visited generalizing slot with
  | nil => simp [loginScan]
  | cons i rest ih =>
      have hrest : ∀ j ∈ rest, (sessions j).live now = true :=
        fun j hj => hlive j (List.mem_cons_of_mem i hj)
      rw [loginScan_cons_live (hlive i List.mem_cons_self)]
      intro j hj
      split
      next hnew =>
        have hbefore := ih hrest i
        have hi := hbefore i List.mem_cons_self
        rcases List.mem_cons.mp hj with rfl | hj
        · have := hnew.resolve_left (hused j)
          omega
        · exact hbefore j hj
      next hold =>
        have hbefore := ih hrest slot
        have hslot := hbefore slot List.mem_cons_self
        rcases List.mem_cons.mp hj with rfl | hj
        · exact hslot
        · rcases List.mem_cons.mp hj with rfl | hj
          · omega
          · exact hbefore j (List.mem_cons_of_mem slot hj)

/-- With the marker in play only the last slot counts: the scan ends with a session
of second `0` exactly if the last one is. -/
theorem loginScan_marker {last : Fin authMaxSessions} (hlast : (sessions last).live now = true)
    {visited : List (Fin authMaxSessions)} (hlive : ∀ j ∈ visited, (sessions j).live now = true)
    {oldestTime : ℕ} {slot : Fin authMaxSessions}
    (hslot : oldestTime = 0 ∨ oldestTime = (sessions slot).lastActivity) :
    (sessions (loginScan now (visited ++ [last]) sessions oldestTime slot).2).lastActivity = 0 ↔
      (sessions last).lastActivity = 0 := by
  induction visited generalizing oldestTime slot with
  | nil =>
      rw [List.nil_append, loginScan_cons_live hlast]
      split
      next => simp [loginScan]
      next hold =>
        simp only [loginScan]
        omega
  | cons i rest ih =>
      have hrest : ∀ j ∈ rest, (sessions j).live now = true :=
        fun j hj => hlive j (List.mem_cons_of_mem i hj)
      rw [List.cons_append, loginScan_cons_live (hlive i List.mem_cons_self)]
      split
      next => exact ih hrest (.inr rfl)
      next => exact ih hrest hslot

theorem finRange_eq_snoc : List.finRange authMaxSessions = [0, 1, 2] ++ [lastSlot] := by decide

/-- On a table of live sessions the scan finds a least recently used one exactly
if it does not meet its marker. -/
theorem loginSlot_minimal_iff (hlive : ∀ i, (sessions i).live now = true) :
    (∀ i, (sessions (loginSlot now sessions).2).lastActivity ≤ (sessions i).lastActivity) ↔
      MarkerUnused now sessions := by
  have hmarker : (sessions (loginSlot now sessions).2).lastActivity = 0 ↔
      (sessions lastSlot).lastActivity = 0 := by
    unfold loginSlot
    rw [finRange_eq_snoc]
    exact loginScan_marker (hlive lastSlot) (fun j _ => hlive j) (.inl rfl)
  have hnone : ¬∃ i, (sessions i).live now = false := by simpa using hlive
  unfold MarkerUnused
  constructor
  · intro hmin
    by_cases hzero : ∃ i, (sessions i).lastActivity = 0
    · obtain ⟨i, hi⟩ := hzero
      have := hmin i
      exact .inr (.inr (hmarker.mp (by omega)))
    · exact .inr (.inl (not_exists.mp hzero))
  · rintro (hfree | hused | hlast)
    · exact absurd hfree hnone
    · -- the first slot becomes the candidate whatever it holds
      intro i
      have hfirst : loginSlot now sessions =
          loginScan now [1, 2, 3] sessions (sessions 0).lastActivity 0 := by
        have hrange : List.finRange authMaxSessions = 0 :: [1, 2, 3] := by decide
        unfold loginSlot
        rw [hrange, loginScan_cons_live (hlive 0), if_pos (.inl rfl)]
      rw [hfirst]
      exact loginScan_minimal (fun j _ => hlive j) hused 0 i (by revert i; decide)
    · intro i
      rw [hmarker.mpr hlast]
      exact Nat.zero_le _

/-! ## The login -/

/-- The table a login leaves. -/
theorem openSession_evicts_iff (now : ℕ) (random : Vector UInt8 authSessionTokenLen)
    (sessions : Sessions) :
    EvictsLeastRecent now ⟨generateToken random, now, true⟩ sessions
        (openSession now random sessions).1 ↔ MarkerUnused now sessions := by
  have hopen : (openSession now random sessions).1 =
      Function.update (loginSlot now sessions).1 (loginSlot now sessions).2
        ⟨generateToken random, now, true⟩ := rfl
  obtain ⟨hkept, hslot⟩ := loginSlot_spec now sessions
  have hstays : ∀ j, (sessions j).live now = true → (loginSlot now sessions).1 j = sessions j := by
    intro j hj
    rcases hkept j with heq | ⟨hidle, -⟩
    · exact heq
    · simp [Session.live, hidle] at hj
  unfold EvictsLeastRecent
  split
  next hlive =>
    have hsame : (loginSlot now sessions).1 = sessions := funext fun j => hstays j (hlive j)
    rw [hopen, hsame, ← loginSlot_minimal_iff hlive]
    generalize (loginSlot now sessions).2 = taken
    constructor
    · rintro ⟨slot, heq, hmin⟩
      by_cases htaken : slot = taken
      · rwa [htaken] at hmin
      · -- the two slots can only differ when both already hold the new session
        have hs := congrFun heq slot
        have ht := congrFun heq taken
        rw [Function.update_of_ne htaken, Function.update_self] at hs
        rw [Function.update_of_ne (Ne.symm htaken), Function.update_self] at ht
        rw [← ht, ← hs]
        exact hmin
    · exact fun hmin => ⟨taken, rfl, hmin⟩
  next hlive =>
    refine iff_of_true (fun j hj => ?_) (.inl (by simpa using hlive))
    have hfree := hslot.resolve_right fun h => hlive fun i => h.2 i (List.mem_finRange i)
    have hne : j ≠ (loginSlot now sessions).2 := by
      rintro rfl
      rw [hstays _ hj] at hfree
      simp [Session.live, hfree] at hj
    rw [hopen, Function.update_of_ne hne, hstays j hj]

/-- A call that issues a token is a login that opened a session. -/
theorem authStep_issued {sha256 : Digest} {s t : AuthSys} {a : AuthAction} {es : List AuthEvent}
    (hstep : (authMachine sha256).step s a = some (t, es)) {ip : Option CString}
    {token : CString} {time : ℕ} (hissued : .issued ip token time ∈ es) :
    time = a.time ∧ ∃ random, token = generateToken random ∧
      t.auth.sessions = (openSession a.time random s.auth.sessions).1 := by
  obtain ⟨-, rfl, rfl⟩ := authStep_some hstep
  cases hcall : a.call with
  | login username password ip' random =>
      rw [hcall] at hissued
      simp only [authCall] at hissued ⊢
      generalize hauth :
        (authLogin sha256 s.config a.time random username password ip' s.auth).1 = auth at *
      generalize hresult :
        (authLogin sha256 s.config a.time random username password ip' s.auth).2 = result at *
      have hcase := authLogin_cases sha256 s.config a.time random username password ip' s.auth
      rw [hauth, hresult] at hcase
      cases hcase with
      | refused hlocked => simp [loginEvents, hlocked] at hissued
      | failed hlocked hcred => simp [loginEvents, hlocked] at hissued
      | accepted hlocked hcred =>
          have hmem : AuthEvent.issued ip token time =
              .issued ip' (generateToken random) a.time := by
            simpa [loginEvents] using hissued
          obtain ⟨-, rfl, rfl⟩ := AuthEvent.issued.inj hmem
          exact ⟨rfl, random, rfl, rfl⟩
  | isLockedOut ip => simp [hcall, authCall] at hissued
  | validate token' =>
      simp only [hcall, authCall, List.mem_singleton] at hissued
      split at hissued <;> cases hissued
  | logout token' => simp [hcall, authCall] at hissued
  | invalidateAll => simp [hcall, authCall] at hissued
  | configure conf => simp [hcall, authCall] at hissued

/-- In every reachable state a login ends a least recently used session if it has
to end one, exactly if no session it finds looks like the marker. -/
theorem login_evicts_least_recent_iff (sha256 : Digest) :
    ∀ t, (authMachine sha256).Reachable AuthSys.Init t →
      ∀ a u es, (authMachine sha256).step t a = some (u, es) →
        ∀ ip token time, .issued ip token time ∈ es →
          (EvictsLeastRecent time ⟨token, time, true⟩ t.auth.sessions u.auth.sessions ↔
            MarkerUnused time t.auth.sessions) := by
  intro t _ a u es hstep ip token time hissued
  obtain ⟨rfl, random, rfl, hsessions⟩ := authStep_issued hstep hissued
  rw [hsessions]
  exact openSession_evicts_iff a.time random t.auth.sessions

/-- Four logins of `admin`, one in the first second after boot. -/
def fourLogins : List AuthAction :=
  [(0, 1), (5, 2), (6, 3), (7, 4)].map fun login =>
    ⟨login.1, .login (cstr "admin") (cstr "admin") none (Vector.replicate 32 login.2)⟩

/-- A fifth one. -/
def fifthLogin : AuthAction :=
  ⟨8, .login (cstr "admin") (cstr "admin") none (Vector.replicate 32 5)⟩

/-- The fifth login finds four live sessions and leaves the first one alone, the
only one that was not used since second `0`. -/
theorem fifth_login_run : ∃ t u fs,
    (authMachine zeroDigest).Reachable AuthSys.Init t ∧
      (authMachine zeroDigest).step t fifthLogin = some (u, fs) ∧
      .issued none (generateToken (Vector.replicate 32 5)) 8 ∈ fs ∧
      (∀ i, (t.auth.sessions i).live 8 = true) ∧
      (∀ i, (t.auth.sessions i).lastActivity = 0 → i = 0) ∧
      (t.auth.sessions 0).lastActivity = 0 ∧
      (u.auth.sessions 0).token ≠ generateToken (Vector.replicate 32 5) := by
  obtain ⟨t, es, u, fs, hrun, hlast, ht, hu⟩ := Machine.Run.exists_of_exec_exec
    (M := authMachine zeroDigest) (s := { adminBoot with now := 0 })
    (p := fun t _ => decide ((∀ i, (t.auth.sessions i).live 8 = true) ∧
      (∀ i, (t.auth.sessions i).lastActivity = 0 → i = 0) ∧
        (t.auth.sessions 0).lastActivity = 0))
    (q := fun u fs => decide (.issued none (generateToken (Vector.replicate 32 5)) 8 ∈ fs ∧
      (u.auth.sessions 0).token ≠ generateToken (Vector.replicate 32 5)))
    (show ((authMachine zeroDigest).exec _ fourLogins).any (fun r => _ &&
      ((authMachine zeroDigest).exec r.1 [fifthLogin]).any _) = true by decide +kernel)
  obtain ⟨hlive, honly, hfirst⟩ := of_decide_eq_true ht
  obtain ⟨hissued, htoken⟩ := of_decide_eq_true hu
  exact ⟨t, u, fs, ⟨{ adminBoot with now := 0 }, _, _, adminBoot_init, hrun⟩, hlast.single_inv,
    hissued, hlive, honly, hfirst, htoken⟩

/-- The condition fails for the fifth login, and so does the eviction. -/
theorem login_evicts_least_recent_iff_fifth : ∃ t u fs,
    (authMachine zeroDigest).step t fifthLogin = some (u, fs) ∧
      (EvictsLeastRecent 8 ⟨generateToken (Vector.replicate 32 5), 8, true⟩ t.auth.sessions
        u.auth.sessions ↔ MarkerUnused 8 t.auth.sessions) := by
  obtain ⟨t, u, fs, hreach, hstep, hissued, -⟩ := fifth_login_run
  exact ⟨t, u, fs, hstep,
    login_evicts_least_recent_iff zeroDigest t hreach fifthLogin u fs hstep none _ 8 hissued⟩

/-- A session used later than another is ended in its place. -/
theorem login_evicts_recent :
    ¬∀ (sha256 : Digest) (t : AuthSys), (authMachine sha256).Reachable AuthSys.Init t →
      ∀ a u es, (authMachine sha256).step t a = some (u, es) →
        ∀ ip token time, .issued ip token time ∈ es →
          EvictsLeastRecent time ⟨token, time, true⟩ t.auth.sessions u.auth.sessions := by
  intro hall
  obtain ⟨t, u, fs, hreach, hstep, hissued, hlive, honly, hfirst, htoken⟩ := fifth_login_run
  have hevicts := hall zeroDigest t hreach fifthLogin u fs hstep none _ 8 hissued
  unfold EvictsLeastRecent at hevicts
  rw [if_pos hlive] at hevicts
  obtain ⟨slot, hafter, hmin⟩ := hevicts
  obtain rfl := honly slot (by have := hmin 0; omega)
  exact htoken (by rw [hafter, Function.update_self])

/-! ## A device whose clock has left the first second -/

/-- Whatever a call leaves active in a slot was there before, or was used now. -/
theorem authCall_stamped (sha256 : Digest) (s : AuthSys) (now : ℕ) (call : AuthCall)
    (i : Fin authMaxSessions)
    (hi : ((authCall sha256 now s call).1.auth.sessions i).active = true) :
    (authCall sha256 now s call).1.auth.sessions i = s.auth.sessions i ∨
      ((authCall sha256 now s call).1.auth.sessions i).lastActivity = now := by
  cases call with
  | login username password ip random =>
      simp only [authCall] at hi ⊢
      generalize hauth :
        (authLogin sha256 s.config now random username password ip s.auth).1 = auth at *
      generalize hresult :
        (authLogin sha256 s.config now random username password ip s.auth).2 = result at *
      have hcase := authLogin_cases sha256 s.config now random username password ip s.auth
      rw [hauth, hresult] at hcase
      cases hcase with
      | refused hlocked => exact .inl rfl
      | failed hlocked hcred => exact .inl rfl
      | accepted hlocked hcred =>
          simp only [openSession] at hi ⊢
          obtain ⟨hkept, -⟩ := loginSlot_spec now s.auth.sessions
          -- the slot of the login is used now; the others are untouched, or have been ended
          by_cases hslot : i = (loginSlot now s.auth.sessions).2
          · rw [hslot]
            exact .inr (by simp)
          · rw [Function.update_of_ne hslot] at hi ⊢
            rcases hkept i with heq | ⟨-, heq⟩
            · exact .inl heq
            · simp [heq] at hi
  | isLockedOut ip => exact .inl rfl
  | validate token =>
      simp only [authCall] at hi ⊢
      have hcase := authValidateSession_cases now token s.auth.sessions
      generalize (authValidateSession now token s.auth.sessions).1 = sessions at *
      generalize (authValidateSession now token s.auth.sessions).2 = ok at *
      cases hcase with
      -- one slot is renewed, or ended
      | @accepted j _ _ _ _ =>
          by_cases hj : i = j
          · rw [hj]
            exact .inr (by simp)
          · exact .inl (Function.update_of_ne hj _ _)
      | @expired j _ _ _ =>
          by_cases hj : i = j
          · simp [hj] at hi
          · exact .inl (endSession_of_ne hj _)
      | unknown => exact .inl rfl
  | logout token =>
      simp only [authCall, authLogout] at hi ⊢
      cases hfind : findToken token s.auth.sessions with
      | none => exact .inl rfl
      | some j =>
          by_cases hj : i = j
          · simp [hfind, hj] at hi
          · exact .inl (by simpa [hfind] using endSession_of_ne hj _)
  | invalidateAll => simp [authCall, authInvalidateAllSessions] at hi
  | configure conf => exact .inl rfl

/-- On a device where nothing happens in the first second after boot, every login
ends a least recently used session if it has to end one. -/
theorem login_evicts_of_clock {sha256 : Digest} {s t u : AuthSys} {as : List AuthAction}
    {es fs : List AuthEvent} (hs : s.Init) (hrun : (authMachine sha256).Run s as es t)
    (hclock : ∀ a ∈ as, 1 ≤ a.time) {a : AuthAction}
    (hstep : (authMachine sha256).step t a = some (u, fs)) {ip : Option CString}
    {token : CString} {time : ℕ} (hissued : .issued ip token time ∈ fs) :
    EvictsLeastRecent time ⟨token, time, true⟩ t.auth.sessions u.auth.sessions := by
  have hused : ∀ i, (t.auth.sessions i).active = true → (t.auth.sessions i).lastActivity ≠ 0 := by
    apply hrun.invariant_of (P := fun a => 1 ≤ a.time)
      (I := fun t => ∀ i, (t.auth.sessions i).active = true →
        (t.auth.sessions i).lastActivity ≠ 0) hclock
    · intro i hi
      rw [hs] at hi
      simp [authInit] at hi
    · intro v b w gs hb hv hvw i hi
      obtain ⟨-, rfl, -⟩ := authStep_some hvw
      rcases authCall_stamped sha256 { v with now := b.time } b.time b.call i hi with heq | heq
      · rw [heq] at hi ⊢
        exact hv i hi
      · omega
  obtain ⟨rfl, random, rfl, hsessions⟩ := authStep_issued hstep hissued
  rw [hsessions, openSession_evicts_iff]
  by_cases hlive : ∃ i, (t.auth.sessions i).live a.time = false
  · exact .inl hlive
  · refine .inr (.inl fun i => hused i ?_)
    have hi : (t.auth.sessions i).live a.time = true := by simpa using not_exists.mp hlive i
    exact (Bool.and_eq_true_iff.mp hi).1

end WebTerminal
