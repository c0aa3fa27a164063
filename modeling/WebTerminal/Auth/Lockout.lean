import WebTerminal.Auth.AuthMachine

/-!
# Lockout counts over a run

The counters one address reads change only by its own logins, with one
exception: a failing login from another address that has no entry, when no slot
is free, recycles the entry with the smallest `lockout_until`.  A count still
short of a lockout has `lockout_until` zero, so it goes before every lapsed
lockout, and the address starts from zero again.

`lockout_iff_not_recycled` says that nothing else can go wrong: five failures
within one lockout time end in a lockout exactly when the entry of the address
was not recycled in between.
-/

set_option autoImplicit false

namespace WebTerminal

/-- The addresses of a call fit a `host_t`. -/
def AuthCall.ShortAddress : AuthCall → Prop
  | .login _ _ ip _ => (hostKey ip).length < authIpLen
  | _ => True

/-- The event is a failed login of `key`. -/
def AuthEvent.failureOf (key : CString) : AuthEvent → Bool
  | .failed ip _ => hostKey ip == key
  | _ => false

/-- The number of failed logins of `key` in a trace. -/
def failuresOf (key : CString) (es : List AuthEvent) : ℕ := es.countP (AuthEvent.failureOf key)

/-- The event is a successful login of `key`. -/
def AuthEvent.successOf (key : CString) : AuthEvent → Bool
  | .issued ip _ _ => hostKey ip == key
  | _ => false

/-- The trace has no successful login of `key`. -/
def NoSuccess (key : CString) (es : List AuthEvent) : Prop := ∀ e ∈ es, e.successOf key = false

/-- The address a call attempts a login from. -/
def AuthCall.loginKey : AuthCall → Option CString
  | .login _ _ ip _ => some (hostKey ip)
  | _ => none

/-- The addresses other than `key` that attempt a login, each once. -/
def otherAddresses (key : CString) (as : List AuthAction) : List CString :=
  (as.filterMap fun a => a.call.loginKey).dedup.filter (· ≠ key)

theorem failuresOf_append (key : CString) (es fs : List AuthEvent) :
    failuresOf key (es ++ fs) = failuresOf key es + failuresOf key fs :=
  List.countP_append

/-! ## What one call does to the counters of one address -/

/-- What a call at `now` does to the counters of `key`, and shows about it. -/
inductive CounterCase (key : CString) (now : ℕ) (c : Counters) :
    List AuthEvent → Counters → Prop
  /-- a call of another address, or about sessions -/
  | other {es : List AuthEvent} (hfail : failuresOf key es = 0)
      (hrecycled : .recycled key ∉ es) : CounterCase key now c es c
  /-- its own lockout is looked at, and no credentials are evaluated -/
  | checked {es : List AuthEvent} (hfail : failuresOf key es = 0)
      (hrecycled : .recycled key ∉ es) : CounterCase key now c es (c.check now)
  /-- its own credentials are evaluated and do not match -/
  | failed {es : List AuthEvent} {ip : Option CString} (hlocked : c.locked now = false)
      (hmem : .failed ip now ∈ es) (hkey : hostKey ip = key) (hfail : failuresOf key es = 1)
      (hrecycled : .recycled key ∉ es) : CounterCase key now c es ((c.check now).fail now)
  /-- its own credentials are accepted -/
  | cleared {es : List AuthEvent} {ip : Option CString} {token : CString}
      (hmem : .issued ip token now ∈ es) (hkey : hostKey ip = key) (hfail : failuresOf key es = 0) :
      CounterCase key now c es .zero
  /-- its entry goes to another address -/
  | recycled {es : List AuthEvent} (hfail : failuresOf key es = 0)
      (hmem : .recycled key ∈ es) : CounterCase key now c es .zero

/-- A login never recycles the entry of its own address. -/
theorem recycledEntry_ne (ip : Option CString) (hosts : Hosts) :
    recycledEntry ip hosts ≠ some (hostKey ip) := by
  unfold recycledEntry
  cases hscan : scanHosts (hostKey ip) hosts with
  | found i => simp
  | missing freeSlot stalest =>
      obtain ⟨hnone, -, hstale, -⟩ := scanHosts_missing hscan
      cases freeSlot with
      | some j => simp
      | none =>
          cases stalest with
          | none => simp
          | some i => simpa using hnone i (hstale i rfl)

theorem counterCase_login {sha256 : Digest} {now : ℕ} {s : AuthSys} (h : s.auth.hosts.Distinct)
    (username password : CString) (ip : Option CString)
    (random : Vector UInt8 authSessionTokenLen) (hshort : (hostKey ip).length < authIpLen)
    (key : CString) :
    (authCall sha256 now s (.login username password ip random)).1.auth.hosts.Distinct ∧
      CounterCase key now (counters key s.auth.hosts)
        (authCall sha256 now s (.login username password ip random)).2
        (counters key
          (authCall sha256 now s (.login username password ip random)).1.auth.hosts) := by
  simp only [authCall]
  generalize hauth : (authLogin sha256 s.config now random username password ip s.auth).1 = auth
  generalize htoken : (authLogin sha256 s.config now random username password ip s.auth).2 = token
  have hcase := authLogin_cases sha256 s.config now random username password ip s.auth
  rw [hauth, htoken] at hcase
  -- every login looks at the lockout first, which ends one that has run out
  obtain ⟨hdistinct, hlock, hcheck⟩ := authIsLockedOut_spec h now ip
  cases hcase with
  | refused hlocked =>
      -- a refused login does nothing else
      refine ⟨hdistinct, ?_⟩
      have hevents : loginEvents now ip s.auth none = [.refused ip] := by
        simp [loginEvents, hlocked]
      rw [hevents, hcheck]
      split
      · exact .checked (by simp [failuresOf, AuthEvent.failureOf]) (by simp)
      · exact .other (by simp [failuresOf, AuthEvent.failureOf]) (by simp)
  | failed hlocked hcred =>
      obtain ⟨hdistinct', hfail⟩ := recordFailure_spec hdistinct now ip hshort
      refine ⟨hdistinct', ?_⟩
      have hevents : loginEvents now ip s.auth none =
          (recycledEntry ip s.auth.hosts).toList.map .recycled ++ [.failed ip now] := by
        simp [loginEvents, hlocked]
      rw [hevents, hfail, recycledEntry_authIsLockedOut, hcheck]
      -- a full table costs another address its entry, never this one its own
      have hne := recycledEntry_ne ip s.auth.hosts
      split
      next hkey =>
        subst hkey
        refine .failed (by rw [← hlock]; exact hlocked) (by simp) rfl ?_ ?_
        · cases recycledEntry ip s.auth.hosts <;> simp [failuresOf, AuthEvent.failureOf]
        · cases hrec : recycledEntry ip s.auth.hosts with
          | none => simp
          | some key' =>
              rw [hrec] at hne
              simpa using fun heq => hne (by rw [heq])
      next hkey =>
        -- the failure of another address shows only in the entry it takes
        have hnotown : ¬ hostKey ip = key := Ne.symm hkey
        split
        next hrec =>
          exact .recycled (by simp [failuresOf, AuthEvent.failureOf, hrec, hnotown])
            (by simp [hrec])
        next hrec =>
          cases hrec' : recycledEntry ip s.auth.hosts with
          | none =>
              exact .other (by simp [failuresOf, AuthEvent.failureOf, hnotown]) (by simp)
          | some key' =>
              have hkey' : key ≠ key' := by
                rintro rfl
                exact hrec hrec'
              exact .other (by simp [failuresOf, AuthEvent.failureOf, hnotown])
                (by simpa using hkey')
  | accepted hlocked hcred =>
      obtain ⟨hdistinct', hclear⟩ := clearFailures_spec hdistinct ip
      refine ⟨hdistinct', ?_⟩
      -- a success counts no failure and takes no entry
      have hevents : ∀ e ∈ loginEvents now ip s.auth (some (generateToken random)),
          e.failureOf key = false ∧ e ≠ .recycled key := by
        intro e he
        cases hdis : displacedToken now s.auth.sessions <;>
          simp [loginEvents, hdis] at he <;> rcases he with rfl | rfl <;>
            simp [AuthEvent.failureOf]
      have hfail : failuresOf key (loginEvents now ip s.auth (some (generateToken random))) = 0 :=
        List.countP_eq_zero.mpr fun e he => by simp [(hevents e he).1]
      rw [hclear, hcheck]
      split
      next hkey =>
        have hmem : .issued ip (generateToken random) now ∈
            loginEvents now ip s.auth (some (generateToken random)) := by simp [loginEvents]
        exact .cleared hmem hkey.symm hfail
      next hkey => exact .other hfail fun hmem => (hevents _ hmem).2 rfl

/-- Every call treats the counters of an address in one of the five ways. -/
theorem authCall_counters (sha256 : Digest) (now : ℕ) {s : AuthSys} (h : s.auth.hosts.Distinct)
    {call : AuthCall} (hshort : call.ShortAddress) (key : CString) :
    (authCall sha256 now s call).1.auth.hosts.Distinct ∧
      CounterCase key now (counters key s.auth.hosts) (authCall sha256 now s call).2
        (counters key (authCall sha256 now s call).1.auth.hosts) := by
  cases call with
  | login username password ip random =>
      exact counterCase_login h username password ip random hshort key
  | isLockedOut ip =>
      obtain ⟨hdistinct, -, hcheck⟩ := authIsLockedOut_spec h now ip
      refine ⟨hdistinct, ?_⟩
      simp only [authCall, hcheck]
      split
      · exact .checked rfl (by simp)
      · exact .other rfl (by simp)
  | validate token =>
      refine ⟨h, .other ?_ ?_⟩
      · simp only [authCall]
        split <;> simp [failuresOf, AuthEvent.failureOf]
      · simp only [authCall]
        split <;> simp
  | logout token => exact ⟨h, .other rfl (by simp [authCall])⟩
  | invalidateAll => exact ⟨h, .other rfl (by simp [authCall])⟩
  | configure conf => exact ⟨h, .other rfl (by simp [authCall])⟩

/-! ## Counters over a run -/

/-- A lockout is set exactly when the count has reached the limit. -/
def Counters.Consistent (c : Counters) : Prop :=
  c.failedAttempts < authMaxFailed ↔ c.lockoutUntil = 0

theorem consistent_zero : Counters.zero.Consistent := by
  simp [Counters.Consistent, Counters.zero]

theorem Counters.Consistent.check {c : Counters} (h : c.Consistent) (now : ℕ) :
    (c.check now).Consistent := by
  unfold Counters.check
  split
  · exact consistent_zero
  · exact h

/-- Counters that are not locked out are, once checked, below the limit. -/
theorem Counters.Consistent.check_of_not_locked {c : Counters} (h : c.Consistent) {now : ℕ}
    (hlocked : c.locked now = false) :
    (c.check now).failedAttempts < authMaxFailed ∧ (c.check now).lockoutUntil = 0 := by
  have hzero : (c.check now).lockoutUntil = 0 := by
    unfold Counters.check
    split
    next => rfl
    next hnot =>
      simp only [Counters.locked, decide_eq_false_iff_not] at hlocked
      by_contra hne
      exact hlocked ⟨hne, by by_contra hle; exact hnot ⟨hne, by omega⟩⟩
  exact ⟨(h.check now).mpr hzero, hzero⟩

theorem Counters.Consistent.fail {c : Counters} (h : c.Consistent) (now : ℕ) :
    (c.fail now).Consistent := by
  unfold Counters.Consistent at h ⊢
  simp only [Counters.fail]
  split
  next hge => simp only [authLockoutS]; omega
  next hlt => constructor <;> intro _ <;> first | exact h.mp (by omega) | omega

/-- The counters of a reachable table. -/
structure HostsInv (hosts : Hosts) : Prop where
  distinct : hosts.Distinct
  consistent : ∀ key, (counters key hosts).Consistent

theorem hostsInv_init : HostsInv authInit.hosts where
  distinct i j hi := by simp [authInit] at hi
  consistent key := by
    rw [counters_of_no_entry fun i hi => by simp [authInit] at hi]
    exact consistent_zero

theorem CounterCase.consistent {key : CString} {now : ℕ} {c c' : Counters} {es : List AuthEvent}
    (h : CounterCase key now c es c') (hc : c.Consistent) : c'.Consistent := by
  cases h with
  | other => exact hc
  | checked => exact hc.check now
  | failed => exact (hc.check now).fail now
  | cleared => exact consistent_zero
  | recycled => exact consistent_zero

theorem HostsInv.call {sha256 : Digest} {now : ℕ} {s : AuthSys} (h : HostsInv s.auth.hosts)
    {call : AuthCall} (hshort : call.ShortAddress) :
    HostsInv (authCall sha256 now s call).1.auth.hosts where
  distinct := (authCall_counters sha256 now h.distinct hshort []).1
  consistent key :=
    (authCall_counters sha256 now h.distinct hshort key).2.consistent (h.consistent key)

theorem authRun_hostsInv {sha256 : Digest} {s t : AuthSys} {as : List AuthAction}
    {es : List AuthEvent} (hrun : (authMachine sha256).Run s as es t)
    (hshort : ∀ a ∈ as, a.call.ShortAddress) (hs : HostsInv s.auth.hosts) :
    HostsInv t.auth.hosts := by
  apply hrun.invariant_of (I := fun t => HostsInv t.auth.hosts)
    (P := fun a => a.call.ShortAddress) hshort hs
  intro t a u fs ha ht hstep
  obtain ⟨-, rfl, -⟩ := authStep_some hstep
  exact HostsInv.call (s := { t with now := a.time }) ht ha

/-- A failure is recorded under the time of its call. -/
theorem time_of_failed {sha256 : Digest} {now t₀ : ℕ} {s : AuthSys} {call : AuthCall}
    {ip : Option CString} (h : .failed ip t₀ ∈ (authCall sha256 now s call).2) : t₀ = now := by
  cases call with
  | login username password ip' random =>
      simp only [authCall] at h
      cases htoken : (authLogin sha256 s.config now random username password ip' s.auth).2 with
      | none =>
          rw [htoken] at h
          cases hlocked : (authIsLockedOut now ip' s.auth.hosts).2 <;>
            simp [loginEvents, hlocked] at h
          exact h.2
      | some token =>
          rw [htoken] at h
          simp [loginEvents] at h
  | isLockedOut ip' => simp [authCall] at h
  | validate token =>
      simp only [authCall] at h
      split at h <;> simp at h
  | logout token => simp [authCall] at h
  | invalidateAll => simp [authCall] at h
  | configure conf => simp [authCall] at h

/-- The calls of a run are made before its end. -/
theorem authRun_time_le {sha256 : Digest} {s t : AuthSys} {as : List AuthAction}
    {es : List AuthEvent} (hrun : (authMachine sha256).Run s as es t) :
    s.now ≤ t.now ∧ ∀ a ∈ as, s.now ≤ a.time ∧ a.time ≤ t.now := by
  induction hrun with
  | nil => exact ⟨le_refl _, by simp⟩
  | @snoc as es fs t u a _ hstep ih =>
      obtain ⟨htime, hu, -⟩ := authStep_some hstep
      have hnow : u.now = a.time := by rw [hu, authCall_now]
      refine ⟨by omega, fun b hb => ?_⟩
      rcases List.mem_append.mp hb with hb | hb
      · have := ih.2 b hb
        omega
      · rw [List.mem_singleton.mp hb]
        omega

/-! ## Main result -/

/-- The counters of an address inside a span that began with one of its failures
at `t₀`, after `n` of them in all. -/
structure SpanInv (key : CString) (t₀ n : ℕ) (recycled : Prop) (c : Counters) : Prop where
  consistent : c.Consistent
  until_ge : c.lockoutUntil = 0 ∨ t₀ + authLockoutS ≤ c.lockoutUntil
  counted : ¬ recycled → n ≤ c.failedAttempts
  lost : recycled → c.failedAttempts < n

/-- One call inside the span. -/
theorem SpanInv.step {key : CString} {t₀ n now : ℕ} {es fs : List AuthEvent} {c c' : Counters}
    (h : SpanInv key t₀ n (.recycled key ∈ es) c) (hcase : CounterCase key now c fs c')
    (hstart : t₀ ≤ now) (hwindow : now < t₀ + authLockoutS) (hn : 0 < n)
    (hsuccess : NoSuccess key fs) :
    SpanInv key t₀ (n + failuresOf key fs) (.recycled key ∈ es ++ fs) c' := by
  have hopen : c.lockoutUntil = 0 ∨ now < c.lockoutUntil := by
    have := h.until_ge
    omega
  -- inside the window no lockout lapses
  have hcheck : c.check now = c := by
    unfold Counters.check
    rw [if_neg (by omega)]
  cases hcase with
  | other hfail hrecycled =>
      simpa [hfail, hrecycled] using h
  | checked hfail hrecycled =>
      simpa [hfail, hrecycled, hcheck] using h
  | failed hlocked hmem hkey hfail hrecycled =>
      obtain ⟨hlt, hzero⟩ := h.consistent.check_of_not_locked hlocked
      rw [hcheck] at hlt hzero ⊢
      rw [hfail]
      refine ⟨h.consistent.fail now, ?_, ?_, ?_⟩
      · simp only [Counters.fail]
        split
        · exact .inr (by omega)
        · exact .inl hzero
      · intro hnot
        have := h.counted fun hes => hnot (List.mem_append_left _ hes)
        simp only [Counters.fail]
        omega
      · intro hes
        have := h.lost ((List.mem_append.mp hes).resolve_right hrecycled)
        simp only [Counters.fail]
        omega
  | cleared hmem hkey =>
      have := hsuccess _ hmem
      simp [AuthEvent.successOf, hkey] at this
  | recycled hfail hmem =>
      rw [hfail]
      exact ⟨consistent_zero, .inl rfl, fun hnot => absurd (List.mem_append_right _ hmem) hnot,
        fun _ => by simpa [Counters.zero] using hn⟩

/-- The first failure opens the span. -/
theorem spanInv_opened {key : CString} {now : ℕ} {fs : List AuthEvent} {c c' : Counters}
    (hconsistent : c.Consistent) (hcase : CounterCase key now c fs c')
    (hpos : 0 < failuresOf key fs) :
    failuresOf key fs = 1 ∧ SpanInv key now 1 (.recycled key ∈ ([] : List AuthEvent)) c' := by
  cases hcase with
  | other hnone => omega
  | checked hnone => omega
  | cleared _ _ hnone => omega
  | recycled hnone => omega
  | failed hlocked _ _ hone _ =>
      obtain ⟨hlt, hzero⟩ := hconsistent.check_of_not_locked hlocked
      refine ⟨hone, (hconsistent.check _).fail _, ?_, ?_, by simp⟩
      · simp only [Counters.fail]
        split
        · exact .inr (by omega)
        · exact .inl hzero
      · intro _
        simp only [Counters.fail]
        omega

/-- The calls inside the span. -/
theorem SpanInv.run {sha256 : Digest} {key : CString} {s t : AuthSys} {bs : List AuthAction}
    {es : List AuthEvent} {t₀ n : ℕ} (hs : HostsInv s.auth.hosts)
    (h : SpanInv key t₀ n (.recycled key ∈ ([] : List AuthEvent)) (counters key s.auth.hosts))
    (hrun : (authMachine sha256).Run s bs es t) (hn : 0 < n)
    (hcalls : ∀ b ∈ bs, b.call.ShortAddress ∧ t₀ ≤ b.time ∧ b.time < t₀ + authLockoutS)
    (hsuccess : NoSuccess key es) :
    HostsInv t.auth.hosts ∧
      SpanInv key t₀ (n + failuresOf key es) (.recycled key ∈ es) (counters key t.auth.hosts) := by
  apply hrun.history_of (P := NoSuccess key)
    (Q := fun b => b.call.ShortAddress ∧ t₀ ≤ b.time ∧ b.time < t₀ + authLockoutS)
    (I := fun es t => HostsInv t.auth.hosts ∧ SpanInv key t₀ (n + failuresOf key es)
      (.recycled key ∈ es) (counters key t.auth.hosts))
  · exact fun es fs h e he => h e (List.mem_append_left _ he)
  · exact hcalls
  · exact ⟨hs, h⟩
  · rintro es u b v fs hno ⟨hb, hstart, hlt⟩ ⟨hu, hspan⟩ hstep
    obtain ⟨-, rfl, rfl⟩ := authStep_some hstep
    have hcase :=
      (authCall_counters sha256 b.time (s := { u with now := b.time }) hu.distinct hb key).2
    refine ⟨HostsInv.call (s := { u with now := b.time }) hu hb, ?_⟩
    rw [failuresOf_append, ← Nat.add_assoc]
    exact hspan.step hcase hstart hlt (by omega) fun e he =>
      hno e (List.mem_append_right _ he)
  · exact hsuccess

/-- After `AUTH_MAX_FAILED` failures inside the span. -/
theorem SpanInv.locked_iff {key : CString} {t₀ now : ℕ} {recycled : Prop} {c : Counters}
    (h : SpanInv key t₀ authMaxFailed recycled c) (hwindow : now < t₀ + authLockoutS) :
    c.locked now = true ↔ ¬recycled := by
  have hconsistent := h.consistent
  unfold Counters.Consistent at hconsistent
  simp only [Counters.locked, decide_eq_true_eq]
  constructor
  · intro hlocked hrecycled
    exact hlocked.1 (hconsistent.mp (h.lost hrecycled))
  · intro hnot
    have hge := h.counted hnot
    have hne : c.lockoutUntil ≠ 0 := fun hzero => by
      have := hconsistent.mpr hzero
      omega
    have := h.until_ge
    exact ⟨hne, by omega⟩

/-- **When five failures lock out.**  Let a run from boot reach a failed login of
an address at `t₀`, and go on for less than `AUTH_LOCKOUT_S` with no successful
login of that address until it has failed `AUTH_MAX_FAILED` times.  Then the
address is locked out exactly when its entry was not recycled meanwhile. -/
theorem lockout_iff_not_recycled {sha256 : Digest} {s₀ s s₁ t : AuthSys}
    {as bs : List AuthAction} {a : AuthAction} {pre first es : List AuthEvent} (h₀ : s₀.Init)
    (hpre : (authMachine sha256).Run s₀ as pre s)
    (hfirst : (authMachine sha256).step s a = some (s₁, first))
    (hspan : (authMachine sha256).Run s₁ bs es t)
    (hshort : ∀ b ∈ as ++ a :: bs, b.call.ShortAddress) (ip : Option CString) {t₀ : ℕ}
    (hfail : .failed ip t₀ ∈ first)
    (hcount : failuresOf (hostKey ip) (first ++ es) = authMaxFailed)
    (hsuccess : NoSuccess (hostKey ip) es) (hwindow : t.now < t₀ + authLockoutS) :
    (authIsLockedOut t.now ip t.auth.hosts).2 = true ↔ .recycled (hostKey ip) ∉ es := by
  set key := hostKey ip with hkey
  obtain ⟨-, hs₁, hevents⟩ := authStep_some hfirst
  obtain rfl : t₀ = a.time := time_of_failed (hevents ▸ hfail)
  have hs : HostsInv s.auth.hosts :=
    authRun_hostsInv hpre (fun b hb => hshort b (by simp [hb])) (by rw [h₀]; exact hostsInv_init)
  have ha : a.call.ShortAddress := hshort a (by simp)
  have hinv₁ : HostsInv s₁.auth.hosts := by
    rw [hs₁]
    exact HostsInv.call (s := { s with now := a.time }) hs ha
  -- the first failure opens the span
  have hpos : 0 < failuresOf key first :=
    List.countP_pos_iff.mpr ⟨_, hfail, by simp [AuthEvent.failureOf, hkey]⟩
  have hcase₁ : CounterCase key a.time (counters key s.auth.hosts) first
      (counters key s₁.auth.hosts) := by
    rw [hs₁, hevents]
    exact (authCall_counters sha256 a.time (s := { s with now := a.time }) hs.distinct ha key).2
  obtain ⟨hone, hopen⟩ := spanInv_opened (hs.consistent key) hcase₁ hpos
  -- the calls that follow stay inside it
  obtain ⟨-, hspanTimes⟩ := authRun_time_le hspan
  have hnow₁ : s₁.now = a.time := by rw [hs₁, authCall_now]
  obtain ⟨hhosts, hfinal⟩ := hopen.run hinv₁ hspan one_pos (fun b hb => by
    have := hspanTimes b hb
    exact ⟨hshort b (by simp [hb]), by omega, by omega⟩) hsuccess
  rw [failuresOf_append, hone] at hcount
  rw [hcount] at hfinal
  rw [(authIsLockedOut_spec hhosts.distinct t.now ip).2.1, ← hkey]
  exact hfinal.locked_iff hwindow

/-- A login with a wrong user name. -/
def wrongLogin (time : ℕ) (ip : String) : AuthAction :=
  ⟨time, .login (cstr "root") (cstr "guess") (some (cstr ip)) (Vector.replicate 32 0)⟩

/-- Five failures within eight seconds, with nothing in between. -/
theorem lockout_iff_not_recycled_single :
    ∃ s₁ t first es, (authMachine zeroDigest).step adminBoot (wrongLogin 20 "10.0.0.9") =
        some (s₁, first) ∧
      (authMachine zeroDigest).Run s₁ ([22, 24, 26, 28].map (wrongLogin · "10.0.0.9")) es t ∧
      ((authIsLockedOut t.now (some (cstr "10.0.0.9")) t.auth.hosts).2 = true ↔
        .recycled (cstr "10.0.0.9") ∉ es) := by
  obtain ⟨t, es, hrun, hend⟩ := Machine.Run.exists_of_exec (M := authMachine zeroDigest)
    (s := adminBoot) (p := fun t es => failuresOf (cstr "10.0.0.9") es == authMaxFailed &&
      decide (∀ e ∈ es, e.successOf (cstr "10.0.0.9") = false) && t.now == 28)
    (show ((authMachine zeroDigest).exec adminBoot
      ([wrongLogin 20 "10.0.0.9"] ++ [22, 24, 26, 28].map (wrongLogin · "10.0.0.9"))).any _ = true
      by decide +kernel)
  obtain ⟨s₁, first, es', hone, hspan, rfl⟩ := hrun.split
  have hfirst := hone.single_inv
  simp only [Bool.and_eq_true, beq_iff_eq, decide_eq_true_eq] at hend
  obtain ⟨⟨hcount, hsuccess⟩, hnow⟩ := hend
  have hfail : .failed (some (cstr "10.0.0.9")) 20 ∈ first := by
    have hstep : authStep zeroDigest adminBoot (wrongLogin 20 "10.0.0.9") = some (s₁, first) :=
      hfirst
    obtain ⟨-, -, rfl⟩ := authStep_some hstep
    decide +kernel
  have hshort : ∀ b ∈ [] ++ wrongLogin 20 "10.0.0.9" ::
      [22, 24, 26, 28].map (wrongLogin · "10.0.0.9"), b.call.ShortAddress := by
    have hall : ∀ time, (wrongLogin time "10.0.0.9").call.ShortAddress := by
      intro time
      show (hostKey (some (cstr "10.0.0.9"))).length < authIpLen
      decide
    intro b hb
    simp only [List.nil_append, List.mem_cons, List.mem_map] at hb
    rcases hb with rfl | ⟨time, -, rfl⟩
    · exact hall 20
    · exact hall time
  refine ⟨s₁, t, first, es', hfirst, hspan, ?_⟩
  exact lockout_iff_not_recycled adminBoot_init .nil hfirst hspan hshort (some (cstr "10.0.0.9"))
    hfail hcount (fun e he => hsuccess e (List.mem_append_right _ he)) (by rw [hnow]; decide)

/-- Eight addresses that each mistyped once. -/
def olderFailures : List AuthAction :=
  ["10.0.0.1", "10.0.0.2", "10.0.0.3", "10.0.0.4", "10.0.0.5", "10.0.0.6", "10.0.0.7",
    "10.0.0.8"].map (wrongLogin 10)

/-- Two addresses guessing in turn. -/
def alternatingFailures : List AuthAction :=
  [wrongLogin 20 "10.0.0.9", wrongLogin 21 "10.0.0.10", wrongLogin 22 "10.0.0.9",
    wrongLogin 23 "10.0.0.10", wrongLogin 24 "10.0.0.9", wrongLogin 25 "10.0.0.10",
    wrongLogin 26 "10.0.0.9", wrongLogin 27 "10.0.0.10", wrongLogin 28 "10.0.0.9"]

/-- Two addresses that guess in turn on a full table wash out each other's
counts: after five failures in eight seconds the first is not locked out. -/
theorem lockout_washed_out :
    ∃ s t pre es, (authMachine zeroDigest).Run adminBoot olderFailures pre s ∧
      (authMachine zeroDigest).Run s alternatingFailures es t ∧
      failuresOf (cstr "10.0.0.9") es = authMaxFailed ∧ NoSuccess (cstr "10.0.0.9") es ∧
      otherAddresses (cstr "10.0.0.9") alternatingFailures = [cstr "10.0.0.10"] ∧
      t.now < 20 + authLockoutS ∧
      (authIsLockedOut t.now (some (cstr "10.0.0.9")) t.auth.hosts).2 = false := by
  obtain ⟨s, pre, t, es, hpre, hspan, -, hend⟩ := Machine.Run.exists_of_exec_exec
    (M := authMachine zeroDigest) (s := adminBoot) (p := fun _ _ => true)
    (q := fun t es => failuresOf (cstr "10.0.0.9") es == authMaxFailed &&
      decide (∀ e ∈ es, e.successOf (cstr "10.0.0.9") = false) && t.now == 28 &&
        !(authIsLockedOut t.now (some (cstr "10.0.0.9")) t.auth.hosts).2)
    (show ((authMachine zeroDigest).exec adminBoot olderFailures).any (fun r => _ &&
      ((authMachine zeroDigest).exec r.1 alternatingFailures).any _) = true by decide +kernel)
  simp only [Bool.and_eq_true, beq_iff_eq, decide_eq_true_eq, Bool.not_eq_true'] at hend
  obtain ⟨⟨⟨hcount, hsuccess⟩, hnow⟩, hlocked⟩ := hend
  refine ⟨s, t, pre, es, hpre, hspan, hcount, hsuccess, by decide +kernel, ?_, hlocked⟩
  rw [hnow]
  decide

end WebTerminal
