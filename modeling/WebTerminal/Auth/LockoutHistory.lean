import Mathlib.Data.Fintype.Card
import WebTerminal.Auth.Lockout

/-!
# What a lockout says about the past, and about the future

A lockout of an address is earned by its own failures.  `Stretch` is the part of a run the
counters of an address speak about: it begins where they were zero, has none of its
successful logins and none of its lockouts has ended in it, and the count is the number of
its failures in there.  Every run ends with such a stretch for every address.

A lockout also lasts.  While it does only recycling could end it, and `host_entry` recycles
the entry with the smallest `lockout_until`: every other entry must then belong to an
address locked out no earlier, so that seven of them and the newcomer have failed since.
-/

set_option autoImplicit false

namespace WebTerminal

/-- In `s` the address is locked out, and remains so until `T` if it is left alone. -/
def LockedUntil (ip : Option CString) (T : ℕ) (s : AuthSys) : Prop :=
  s.now < T ∧ ∀ now, s.now ≤ now → ((authIsLockedOut now ip s.auth.hosts).2 = true ↔ now < T)

/-- The last failure of `key` in a trace is at this time. -/
def LastFailure (key : CString) (es : List AuthEvent) (time : ℕ) : Prop :=
  ∃ ip before after, hostKey ip = key ∧ es = before ++ .failed ip time :: after ∧
    failuresOf key after = 0

theorem LastFailure.append {key : CString} {es fs : List AuthEvent} {time : ℕ}
    (h : LastFailure key es time) (hfs : failuresOf key fs = 0) :
    LastFailure key (es ++ fs) time := by
  obtain ⟨ip, before, after, hkey, rfl, hafter⟩ := h
  exact ⟨ip, before, after ++ fs, hkey, by simp, by rw [failuresOf_append, hafter, hfs]⟩

theorem LastFailure.prepend {key : CString} {fs : List AuthEvent} {time : ℕ}
    (h : LastFailure key fs time) (es : List AuthEvent) : LastFailure key (es ++ fs) time := by
  obtain ⟨ip, before, after, hkey, rfl, hafter⟩ := h
  exact ⟨ip, es ++ before, after, hkey, by simp, hafter⟩

/-- A call has at most one failure, which is then the last. -/
theorem lastFailure_of_mem {ip : Option CString} {fs : List AuthEvent} {time : ℕ}
    (hmem : .failed ip time ∈ fs) (hone : failuresOf (hostKey ip) fs = 1) :
    LastFailure (hostKey ip) fs time := by
  obtain ⟨before, after, rfl⟩ := List.append_of_mem hmem
  refine ⟨ip, before, after, rfl, rfl, ?_⟩
  have hsplit : failuresOf (hostKey ip) (before ++ .failed ip time :: after) =
      failuresOf (hostKey ip) before + (failuresOf (hostKey ip) after + 1) := by
    rw [failuresOf_append]
    simp [failuresOf, AuthEvent.failureOf]
  omega

/-! ## The own history of an address -/

section

variable {sha256 : Digest} {key : CString}

/-- A successful login clears the counters, and was not locked out. -/
theorem cleared_of_success {now : ℕ} {s : AuthSys} (h : s.auth.hosts.Distinct) {call : AuthCall}
    {e : AuthEvent} (hmem : e ∈ (authCall sha256 now s call).2)
    (hsuccess : e.successOf key = true) :
    (counters key s.auth.hosts).locked now = false ∧
      counters key (authCall sha256 now s call).1.auth.hosts = .zero := by
  cases call with
  | login username password ip random =>
      simp only [authCall] at hmem ⊢
      generalize hauth : (authLogin sha256 s.config now random username password ip s.auth).1 = auth
      generalize htoken :
        (authLogin sha256 s.config now random username password ip s.auth).2 = token at hmem
      have hcase := authLogin_cases sha256 s.config now random username password ip s.auth
      rw [hauth, htoken] at hcase
      obtain ⟨hdistinct, hlock, -⟩ := authIsLockedOut_spec h now ip
      cases hcase with
      -- the events of a refused login, of a failure and of a success, in turn
      | refused hlocked =>
          rw [show loginEvents now ip s.auth none = [.refused ip] by
            simp [loginEvents, hlocked]] at hmem
          obtain rfl := List.mem_singleton.mp hmem
          cases hsuccess
      | failed hlocked =>
          rw [show loginEvents now ip s.auth none =
            (recycledEntry ip s.auth.hosts).toList.map .recycled ++ [.failed ip now] by
              simp [loginEvents, hlocked]] at hmem
          cases hrec : recycledEntry ip s.auth.hosts <;> simp [hrec] at hmem
          · subst hmem
            cases hsuccess
          · rcases hmem with rfl | rfl <;> cases hsuccess
      | accepted hlocked =>
          -- the success is the one of this call, so its address is the key
          have hkey : key = hostKey ip := by
            cases hdis : displacedToken now s.auth.sessions <;> simp [loginEvents, hdis] at hmem
            · subst hmem
              exact (beq_iff_eq.mp hsuccess).symm
            · rcases hmem with rfl | rfl
              · cases hsuccess
              · exact (beq_iff_eq.mp hsuccess).symm
          rw [hkey, ← hlock]
          exact ⟨hlocked, by rw [(clearFailures_spec hdistinct ip).2, if_pos rfl]⟩
  | isLockedOut ip => cases hmem
  | validate token =>
      simp only [authCall, List.mem_singleton] at hmem
      subst hmem
      split at hsuccess <;> cases hsuccess
  | logout token =>
      obtain rfl := List.mem_singleton.mp hmem
      cases hsuccess
  | invalidateAll =>
      obtain rfl := List.mem_singleton.mp hmem
      cases hsuccess
  | configure conf => cases hmem

/-- The calls `cs` from `u` to `t` the counters `c` of `key` speak about. -/
structure Stretch (sha256 : Digest) (key : CString) (c : Counters) (u : AuthSys)
    (cs : List AuthAction) (post : List AuthEvent) (t : AuthSys) : Prop where
  run : (authMachine sha256).Run u cs post t
  success : NoSuccess key post
  counted : failuresOf key post = c.failedAttempts
  /-- no other lockout has been seen on the way -/
  ongoing : ∀ bs ds v fs, cs = bs ++ ds → bs ≠ [] → (authMachine sha256).Run u bs fs v →
    (counters key v.auth.hosts).lockoutUntil = 0 ∨
      (counters key v.auth.hosts).lockoutUntil = c.lockoutUntil
  last : c.lockoutUntil ≠ 0 → ∃ time, LastFailure key post time ∧ time ≤ t.now ∧
    c.lockoutUntil = time + authLockoutS

theorem Stretch.nil (t : AuthSys) : Stretch sha256 key .zero t [] [] t where
  run := .nil
  success := by simp [NoSuccess]
  counted := rfl
  ongoing bs ds v fs heq hne := absurd (List.append_eq_nil_iff.mp heq.symm).1 hne
  last h := absurd rfl h

/-- One more call. -/
theorem Stretch.snoc {c c' : Counters} {u t t' : AuthSys} {cs : List AuthAction} {a : AuthAction}
    {post fs : List AuthEvent} (h : Stretch sha256 key c u cs post t)
    (hstep : (authMachine sha256).step t a = some (t', fs)) (hsuccess : NoSuccess key fs)
    (hcount : failuresOf key fs + c.failedAttempts = c'.failedAttempts)
    (hcounters : counters key t'.auth.hosts = c')
    (huntil : c'.lockoutUntil = c.lockoutUntil ∧ failuresOf key fs = 0 ∨
      c.lockoutUntil = 0 ∧ (c'.lockoutUntil ≠ 0 → LastFailure key fs t'.now ∧
        c'.lockoutUntil = t'.now + authLockoutS)) :
    Stretch sha256 key c' u (cs ++ [a]) (post ++ fs) t' where
  run := h.run.snoc hstep
  success e he := (List.mem_append.mp he).elim (h.success e) (hsuccess e)
  counted := by rw [failuresOf_append, h.counted, Nat.add_comm, hcount]
  ongoing bs ds v gs heq hne hrun := by
    rcases List.eq_nil_or_concat ds with rfl | ⟨ds, b, rfl⟩
    · -- the last state
      rw [List.append_nil] at heq
      subst heq
      obtain ⟨-, rfl⟩ := hrun.det (h.run.snoc hstep)
      exact .inr (by rw [hcounters])
    · rw [List.concat_eq_append, ← List.append_assoc] at heq
      obtain ⟨rfl, -⟩ := List.append_inj' heq rfl
      have hseen := h.ongoing bs ds v gs rfl hne hrun
      rcases huntil with ⟨hsame, -⟩ | ⟨hzero, -⟩
      · rwa [hsame]
      · exact .inl (hseen.elim id (·.trans hzero))
  last hne := by
    obtain ⟨htime, ht', -⟩ := authStep_some hstep
    have hnow : t.now ≤ t'.now := by rw [ht', authCall_now]; exact htime
    rcases huntil with ⟨hsame, hnone⟩ | ⟨-, hset⟩
    · rw [hsame] at hne ⊢
      obtain ⟨time, hlast, hle, huntil⟩ := h.last hne
      exact ⟨time, hlast.append hnone, hle.trans hnow, huntil⟩
    · obtain ⟨hlast, huntil⟩ := hset hne
      exact ⟨_, hlast.prepend post, le_refl _, huntil⟩

/-- The stretch a run ends with. -/
def HasStretch (sha256 : Digest) (key : CString) (c : Counters) (s : AuthSys)
    (as : List AuthAction) (es : List AuthEvent) (t : AuthSys) : Prop :=
  ∃ bs cs pre post u, as = bs ++ cs ∧ es = pre ++ post ∧
    (authMachine sha256).Run s bs pre u ∧ Stretch sha256 key c u cs post t

theorem HasStretch.restart {s t : AuthSys} {as : List AuthAction} {es : List AuthEvent}
    (hrun : (authMachine sha256).Run s as es t) : HasStretch sha256 key .zero s as es t :=
  ⟨as, [], es, [], t, by simp, by simp, hrun, .nil t⟩

/-- A look at the counters keeps the stretch, or it ends with the lockout that has lapsed. -/
theorem HasStretch.check {c : Counters} {s t : AuthSys} {as : List AuthAction}
    {es : List AuthEvent} (h : HasStretch sha256 key c s as es t)
    (hrun : (authMachine sha256).Run s as es t) (now : ℕ) :
    HasStretch sha256 key (c.check now) s as es t := by
  unfold Counters.check
  split
  · exact .restart hrun
  · exact h

theorem HasStretch.snoc {c c' : Counters} {s t t' : AuthSys} {as : List AuthAction}
    {a : AuthAction} {es fs : List AuthEvent} (h : HasStretch sha256 key c s as es t)
    (hstep : (authMachine sha256).step t a = some (t', fs)) (hsuccess : NoSuccess key fs)
    (hcount : failuresOf key fs + c.failedAttempts = c'.failedAttempts)
    (hcounters : counters key t'.auth.hosts = c')
    (huntil : c'.lockoutUntil = c.lockoutUntil ∧ failuresOf key fs = 0 ∨
      c.lockoutUntil = 0 ∧ (c'.lockoutUntil ≠ 0 → LastFailure key fs t'.now ∧
        c'.lockoutUntil = t'.now + authLockoutS)) :
    HasStretch sha256 key c' s (as ++ [a]) (es ++ fs) t' := by
  obtain ⟨bs, cs, pre, post, u, rfl, rfl, hpre, hstretch⟩ := h
  exact ⟨bs, cs ++ [a], pre, post ++ fs, u, by simp, by simp, hpre,
    hstretch.snoc hstep hsuccess hcount hcounters huntil⟩

theorem stretch_of_run (key : CString) {s t : AuthSys} {as : List AuthAction} {es : List AuthEvent}
    (hs : s.Init) (hrun : (authMachine sha256).Run s as es t)
    (hshort : ∀ a ∈ as, a.call.ShortAddress) :
    HasStretch sha256 key (counters key t.auth.hosts) s as es t := by
  induction hrun with
  | nil =>
      rw [hs, counters_of_no_entry fun i hi => by simp [authInit] at hi]
      exact .restart .nil
  | @snoc as es fs t t' a hrun hstep ih =>
      have hprefix : ∀ b ∈ as, b.call.ShortAddress := fun b hb => hshort b (by simp [hb])
      have ih := ih hprefix
      have hinv : HostsInv t.auth.hosts :=
        authRun_hostsInv hrun hprefix (by rw [hs]; exact hostsInv_init)
      obtain ⟨-, ht', hfs⟩ := authStep_some hstep
      have hnow : t'.now = a.time := by rw [ht', authCall_now]
      have hcase := (authCall_counters sha256 a.time (s := { t with now := a.time }) hinv.distinct
        (hshort a (by simp)) key).2
      rw [← ht', ← hfs] at hcase
      by_cases hsuccess : NoSuccess key fs
      -- without a success the stretch goes on, unless the entry is recycled
      · have hconsistent := hinv.consistent key
        generalize hc : counters key t.auth.hosts = c at ih hcase hconsistent
        generalize hc' : counters key t'.auth.hosts = c' at hcase
        cases hcase with
        | other hfail =>
            exact ih.snoc hstep hsuccess (by rw [hfail, Nat.zero_add]) hc' (.inl ⟨rfl, hfail⟩)
        | checked hfail =>
            exact (ih.check hrun a.time).snoc hstep hsuccess (by rw [hfail, Nat.zero_add]) hc'
              (.inl ⟨rfl, hfail⟩)
        | failed hlocked hmem hkey hfail =>
            -- the failure is counted, and the fifth one locks from now on
            obtain ⟨hlt, hzero⟩ := hconsistent.check_of_not_locked hlocked
            refine (ih.check hrun a.time).snoc hstep hsuccess
              (by rw [hfail, Nat.add_comm]; rfl) hc' (.inr ⟨hzero, fun hne => ?_⟩)
            subst hkey
            rw [hnow]
            refine ⟨lastFailure_of_mem hmem hfail, ?_⟩
            simp only [Counters.fail] at hne ⊢
            split at hne
            next hge => rw [if_pos hge]
            next hnot => exact absurd hzero hne
        | cleared hmem hkey =>
            have := hsuccess _ hmem
            simp [AuthEvent.successOf, hkey] at this
        | recycled => exact .restart (hrun.snoc hstep)
      -- a success starts a new stretch
      · simp only [NoSuccess, not_forall, Bool.not_eq_false] at hsuccess
        obtain ⟨e, hmem, he⟩ := hsuccess
        rw [hfs] at hmem
        rw [ht', (cleared_of_success (s := { t with now := a.time }) hinv.distinct hmem he).2,
          ← ht']
        exact .restart (hrun.snoc hstep)

/-! ## A lockout is earned -/

/-- In the calls `cs` from `u` on the address has earned the lockout it is under at `now`. -/
structure EarnsLockout (sha256 : Digest) (ip : Option CString) (now : ℕ) (u : AuthSys)
    (cs : List AuthAction) (post : List AuthEvent) : Prop where
  success : NoSuccess (hostKey ip) post
  failures : authMaxFailed ≤ failuresOf (hostKey ip) post
  /-- none of its lockouts has ended since -/
  ongoing : ∀ bs ds v fs, cs = bs ++ ds → bs ≠ [] → (authMachine sha256).Run u bs fs v →
    ∀ T, LockedUntil ip T v → now < T
  last : ∃ time, LastFailure (hostKey ip) post time ∧ time ≤ now ∧ now < time + authLockoutS

end

theorem Counters.locked_iff {c : Counters} {now : ℕ} :
    c.locked now = true ↔ c.lockoutUntil ≠ 0 ∧ now < c.lockoutUntil := decide_eq_true_iff

theorem locked_iff {hosts : Hosts} (h : hosts.Distinct) (now : ℕ) (ip : Option CString) :
    (authIsLockedOut now ip hosts).2 = true ↔
      (counters (hostKey ip) hosts).lockoutUntil ≠ 0 ∧
        now < (counters (hostKey ip) hosts).lockoutUntil := by
  rw [(authIsLockedOut_spec h now ip).2.1, Counters.locked_iff]

theorem LockedUntil.eq {ip : Option CString} {T : ℕ} {s : AuthSys} (h : LockedUntil ip T s)
    (hdistinct : s.auth.hosts.Distinct) :
    (counters (hostKey ip) s.auth.hosts).lockoutUntil = T := by
  obtain ⟨hlt, hiff⟩ := h
  generalize hc : counters (hostKey ip) s.auth.hosts = c
  have hnow := (hiff s.now (le_refl _)).mpr hlt
  have hend := hiff T hlt.le
  have huntil := hiff c.lockoutUntil
  rw [locked_iff hdistinct, hc] at hnow hend huntil
  have := huntil hnow.2.le
  omega

/-- An address is locked out by its own failures only: `AUTH_MAX_FAILED` of them, since its last
success and since its last lockout, the last one less than `AUTH_LOCKOUT_S` ago. -/
theorem lockout_earned {sha256 : Digest} {s t : AuthSys} {as : List AuthAction}
    {es : List AuthEvent} {ip : Option CString} {now : ℕ} (hs : s.Init)
    (hrun : (authMachine sha256).Run s as es t) (hshort : ∀ a ∈ as, a.call.ShortAddress)
    (hnow : t.now ≤ now) (hlocked : (authIsLockedOut now ip t.auth.hosts).2 = true) :
    ∃ bs cs pre post u, as = bs ++ cs ∧ es = pre ++ post ∧
      (authMachine sha256).Run s bs pre u ∧ (authMachine sha256).Run u cs post t ∧
        EarnsLockout sha256 ip now u cs post := by
  have hinit : HostsInv s.auth.hosts := by rw [hs]; exact hostsInv_init
  have hinv : HostsInv t.auth.hosts := authRun_hostsInv hrun hshort hinit
  obtain ⟨bs, cs, pre, post, u, rfl, rfl, hpre, hstretch⟩ :=
    stretch_of_run (hostKey ip) hs hrun hshort
  have hdistinct : ∀ ds es v, (∀ a ∈ ds, a ∈ cs) → (authMachine sha256).Run u ds es v →
      v.auth.hosts.Distinct := by
    intro ds es v hds hrest
    exact (authRun_hostsInv (hpre.append hrest) (fun a ha => hshort a (by
      rcases List.mem_append.mp ha with ha | ha
      · simp [ha]
      · simp [hds a ha])) hinit).distinct
  rw [locked_iff hinv.distinct] at hlocked
  have hconsistent := hinv.consistent (hostKey ip)
  generalize hc : counters (hostKey ip) t.auth.hosts = c at hlocked hstretch hconsistent
  obtain ⟨time, hlast, htime, huntil⟩ := hstretch.last hlocked.1
  refine ⟨bs, cs, pre, post, u, rfl, rfl, hpre, hstretch.run, hstretch.success, ?_, ?_,
    time, hlast, htime.trans hnow, by omega⟩
  · rw [hstretch.counted]
    by_contra hlt
    exact hlocked.1 (hconsistent.mp (by omega))
  · intro ds ds' v fs heq hne hrest T hT
    have hv := hT.eq (hdistinct ds fs v (fun a ha => by rw [heq]; simp [ha]) hrest)
    have hpositive := hT.1
    rcases hstretch.ongoing ds ds' v fs heq hne hrest with hzero | hsame
    · omega
    · omega

theorem wrongLogin_short {ip : String} (h : (cstr ip).length < authIpLen) (time : ℕ) :
    (wrongLogin time ip).call.ShortAddress := h

/-- Five failures in a row are a lockout that is earned. -/
theorem lockout_earned_single :
    ∃ t es, (authMachine zeroDigest).Run adminBoot
        ([20, 22, 24, 26, 28].map (wrongLogin · "10.0.0.9")) es t ∧
      ∃ bs cs pre post u, ([20, 22, 24, 26, 28].map (wrongLogin · "10.0.0.9")) = bs ++ cs ∧
        es = pre ++ post ∧ (authMachine zeroDigest).Run adminBoot bs pre u ∧
          (authMachine zeroDigest).Run u cs post t ∧
            EarnsLockout zeroDigest (some (cstr "10.0.0.9")) 30 u cs post := by
  obtain ⟨t, es, hrun, hend⟩ := Machine.Run.exists_of_exec (M := authMachine zeroDigest)
    (s := adminBoot) (p := fun t _ => decide (t.now ≤ 30) &&
      (authIsLockedOut 30 (some (cstr "10.0.0.9")) t.auth.hosts).2)
    (show ((authMachine zeroDigest).exec adminBoot
      ([20, 22, 24, 26, 28].map (wrongLogin · "10.0.0.9"))).any _ = true by decide +kernel)
  simp only [Bool.and_eq_true, decide_eq_true_eq] at hend
  refine ⟨t, es, hrun, lockout_earned adminBoot_init hrun (fun b hb => ?_) hend.1 hend.2⟩
  obtain ⟨time, -, rfl⟩ := List.mem_map.mp hb
  exact wrongLogin_short (by decide) time

/-! ## A lockout lasts -/

/-- The addresses other than `key` that failed at `t₀` or later, each once. -/
def failingSince (key : CString) (t₀ : ℕ) (es : List AuthEvent) : List CString :=
  (es.filterMap fun
    | .failed ip time => if t₀ ≤ time ∧ hostKey ip ≠ key then some (hostKey ip) else none
    | _ => none).dedup

theorem mem_failingSince {key : CString} {t₀ time : ℕ} {es : List AuthEvent}
    {ip : Option CString} (hmem : .failed ip time ∈ es) (hlate : t₀ ≤ time)
    (hne : hostKey ip ≠ key) : hostKey ip ∈ failingSince key t₀ es := by
  refine List.mem_dedup.mpr (List.mem_filterMap.mpr ⟨_, hmem, ?_⟩)
  exact if_pos ⟨hlate, hne⟩

theorem length_failingSince_le (key : CString) (t₀ : ℕ) (es fs : List AuthEvent) :
    (failingSince key t₀ es).length ≤ (failingSince key t₀ (es ++ fs)).length := by
  refine ((List.nodup_dedup _).subperm fun k hk => ?_).length_le
  unfold failingSince
  rw [List.mem_dedup] at hk ⊢
  rw [List.filterMap_append]
  exact List.mem_append_left _ hk

theorem length_failingSince_le_length (key : CString) (t₀ : ℕ) (es : List AuthEvent) :
    (failingSince key t₀ es).length ≤ es.length :=
  (List.dedup_sublist _).length_le.trans (List.length_filterMap_le _ _)

section

variable {sha256 : Digest} {key : CString}

/-- An address with a lockout has failed `AUTH_LOCKOUT_S` before its end. -/
theorem failed_of_lockout {s t : AuthSys} {as : List AuthAction} {es : List AuthEvent}
    (hs : s.Init) (hrun : (authMachine sha256).Run s as es t)
    (hshort : ∀ a ∈ as, a.call.ShortAddress)
    (hne : (counters key t.auth.hosts).lockoutUntil ≠ 0) :
    ∃ ip time, .failed ip time ∈ es ∧ hostKey ip = key ∧
      (counters key t.auth.hosts).lockoutUntil = time + authLockoutS := by
  obtain ⟨bs, cs, pre, post, u, -, rfl, -, hstretch⟩ := stretch_of_run key hs hrun hshort
  obtain ⟨time, ⟨ip, before, after, hkey, rfl, -⟩, -, huntil⟩ := hstretch.last hne
  exact ⟨ip, time, by simp, hkey, huntil⟩

theorem failed_of_recycled {now : ℕ} {s : AuthSys} {call : AuthCall}
    (h : .recycled key ∈ (authCall sha256 now s call).2) :
    ∃ ip, recycledEntry ip s.auth.hosts = some key ∧
      .failed ip now ∈ (authCall sha256 now s call).2 := by
  cases call with
  | login username password ip random =>
      refine ⟨ip, ?_⟩
      simp only [authCall] at h ⊢
      cases htoken : (authLogin sha256 s.config now random username password ip s.auth).2 with
      | none =>
          rw [htoken] at h
          cases hlocked : (authIsLockedOut now ip s.auth.hosts).2 <;>
            simp [loginEvents, hlocked] at h ⊢
          exact h
      | some token =>
          rw [htoken] at h
          simp [loginEvents] at h
  | isLockedOut ip => simp [authCall] at h
  | validate token =>
      simp only [authCall] at h
      split at h <;> simp at h
  | logout token => simp [authCall] at h
  | invalidateAll => simp [authCall] at h
  | configure conf => simp [authCall] at h

/-- Recycling the entry of an address locked out at `t₀` takes eight other addresses that
have failed since: seven in the table and the newcomer. -/
theorem eight_failing {s t : AuthSys} {as : List AuthAction} {es fs : List AuthEvent}
    {ip : Option CString} {t₀ now : ℕ} (hs : s.Init) (hrun : (authMachine sha256).Run s as es t)
    (hshort : ∀ a ∈ as, a.call.ShortAddress)
    (huntil : (counters key t.auth.hosts).lockoutUntil = t₀ + authLockoutS)
    (hrec : recycledEntry ip t.auth.hosts = some key) (hmem : .failed ip now ∈ fs)
    (hlate : t₀ ≤ now) : authTrackedHosts ≤ (failingSince key t₀ (es ++ fs)).length := by
  have hdistinct : t.auth.hosts.Distinct :=
    (authRun_hostsInv hrun hshort (by rw [hs]; exact hostsInv_init)).distinct
  obtain ⟨i, rfl, hall⟩ := recycledEntry_some hrec
  rw [counters_of_entry hdistinct (hall i).1] at huntil
  have hothers : ∀ j, j ≠ i →
      (t.auth.hosts j).ip ∈ failingSince (t.auth.hosts i).ip t₀ (es ++ fs) := by
    intro j hj
    have hne : (t.auth.hosts j).ip ≠ (t.auth.hosts i).ip := fun heq =>
      hj (hdistinct j i (hall j).1 (hall i).1 heq)
    have hcounters := counters_of_entry hdistinct (hall j).1
    have hlast : t₀ + authLockoutS ≤ (t.auth.hosts j).lockoutUntil :=
      huntil.symm.le.trans (hall j).2.2
    have hpositive : (t.auth.hosts j).counters.lockoutUntil ≠ 0 :=
      Nat.ne_of_gt (Nat.lt_of_lt_of_le (Nat.add_pos_right _ (by decide)) hlast)
    obtain ⟨ip', time, hfailed, hip', heq⟩ :=
      failed_of_lockout hs hrun hshort (hcounters.symm ▸ hpositive)
    rw [hcounters] at heq
    have hlate' : t₀ ≤ time := by
      have : (t.auth.hosts j).lockoutUntil = time + authLockoutS := heq
      omega
    rw [← hip'] at hne ⊢
    exact mem_failingSince (List.mem_append_left _ hfailed) hlate' hne
  -- one address for each slot
  let failing : Fin authTrackedHosts → CString := fun j =>
    if j = i then hostKey ip else (t.auth.hosts j).ip
  have hinjective : Function.Injective failing := by
    intro j k heq
    by_cases hji : j = i <;> by_cases hki : k = i
    · rw [hji, hki]
    · simp only [failing, if_pos hji, if_neg hki] at heq
      exact absurd heq.symm (hall k).2.1
    · simp only [failing, if_neg hji, if_pos hki] at heq
      exact absurd heq (hall j).2.1
    · simp only [failing, if_neg hji, if_neg hki] at heq
      exact hdistinct j k (hall j).1 (hall k).1 heq
  have hsubset : Finset.univ.image failing ⊆
      (failingSince (t.auth.hosts i).ip t₀ (es ++ fs)).toFinset := by
    intro k hk
    obtain ⟨j, -, rfl⟩ := Finset.mem_image.mp hk
    rw [List.mem_toFinset]
    by_cases hji : j = i
    · simp only [failing, if_pos hji]
      exact mem_failingSince (List.mem_append_right _ hmem) hlate (Ne.symm (hall i).2.1)
    · simp only [failing, if_neg hji]
      exact hothers j hji
  calc
    authTrackedHosts = (Finset.univ.image failing).card := by
      rw [Finset.card_image_of_injective _ hinjective, Finset.card_univ, Fintype.card_fin]
    _ ≤ (failingSince (t.auth.hosts i).ip t₀ (es ++ fs)).toFinset.card :=
      Finset.card_le_card hsubset
    _ ≤ (failingSince (t.auth.hosts i).ip t₀ (es ++ fs)).length := List.toFinset_card_le _

/-- A call that locks an address out does so for `AUTH_LOCKOUT_S`. -/
theorem CounterCase.locks {now : ℕ} {c c' : Counters} {es : List AuthEvent}
    (h : CounterCase key now c es c') (hc : c.Consistent) (hbefore : c.locked now = false)
    (hafter : c'.locked now = true) : c'.lockoutUntil = now + authLockoutS := by
  cases h with
  | other => cases hbefore.symm.trans hafter
  | checked =>
      unfold Counters.check at hafter
      split at hafter
      · simp [Counters.locked, Counters.zero] at hafter
      · cases hbefore.symm.trans hafter
  | failed hlocked =>
      have hzero := (hc.check_of_not_locked hlocked).2
      have hne := (Counters.locked_iff.mp hafter).1
      unfold Counters.fail at hne ⊢
      dsimp only at hne ⊢
      split at hne
      next hge => rw [if_pos hge]
      next => exact absurd hzero hne
  | cleared => simp [Counters.locked, Counters.zero] at hafter
  | recycled => simp [Counters.locked, Counters.zero] at hafter

/-- A call during a lockout leaves it as it is, unless the entry is recycled. -/
theorem CounterCase.during {now : ℕ} {c c' : Counters} {es : List AuthEvent}
    (h : CounterCase key now c es c') (hlocked : c.locked now = true)
    (hsuccess : NoSuccess key es) (hkept : .recycled key ∉ es) : c' = c := by
  cases h with
  | other => rfl
  | checked =>
      obtain ⟨hne, hlt⟩ := Counters.locked_iff.mp hlocked
      unfold Counters.check
      rw [if_neg fun h => Nat.not_le.mpr hlt h.2]
  | failed hnot => cases hnot.symm.trans hlocked
  | cleared hmem hkey =>
      have := hsuccess _ hmem
      simp [AuthEvent.successOf, hkey] at this
  | recycled _ hmem => exact absurd hmem hkept

/-- The counters of a lockout stay what they are, for all that is done meanwhile. -/
theorem lockout_kept {s₀ s t : AuthSys} {as bs : List AuthAction} {pre es : List AuthEvent}
    {t₀ : ℕ} (h₀ : s₀.Init) (hpre : (authMachine sha256).Run s₀ as pre s)
    (hspan : (authMachine sha256).Run s bs es t) (hshort : ∀ b ∈ as ++ bs, b.call.ShortAddress)
    (huntil : (counters key s.auth.hosts).lockoutUntil = t₀ + authLockoutS) (hstart : t₀ ≤ s.now)
    (hothers : (failingSince key t₀ (pre ++ es)).length < authTrackedHosts)
    (hnow : t.now < t₀ + authLockoutS) : counters key t.auth.hosts = counters key s.auth.hosts := by
  induction hspan with
  | nil => rfl
  | @snoc bs es fs u u' b hrun hstep ih =>
      obtain ⟨htime, hu', hfs⟩ := authStep_some hstep
      have hnow' : u'.now = b.time := by rw [hu', authCall_now]
      have hle := (authRun_time_le hrun).1
      rw [← List.append_assoc] at hothers hshort
      have hprefix : ∀ b ∈ as ++ bs, b.call.ShortAddress := fun b hb =>
        hshort b (List.mem_append_left _ hb)
      have ih := ih hprefix
        (Nat.lt_of_le_of_lt (length_failingSince_le _ _ _ fs) hothers) (by omega)
      have hwhole := hpre.append hrun
      have hdistinct : u.auth.hosts.Distinct :=
        (authRun_hostsInv hwhole hprefix (by rw [h₀]; exact hostsInv_init)).distinct
      have hlocked : (counters key u.auth.hosts).locked b.time = true :=
        Counters.locked_iff.mpr (by rw [ih, huntil]; omega)
      have hcase := (authCall_counters sha256 b.time (s := { u with now := b.time }) hdistinct
        (hshort b (by simp)) key).2
      rw [← hu', ← hfs] at hcase
      refine (hcase.during hlocked (fun e he => ?_) fun hrec => ?_).trans ih
      · rw [hfs] at he
        by_contra hsuccess
        rw [Bool.not_eq_false] at hsuccess
        cases (cleared_of_success (s := { u with now := b.time }) hdistinct he
          hsuccess).1.symm.trans
          hlocked
      · rw [hfs] at hrec
        obtain ⟨ip, hentry, hfailed⟩ := failed_of_recycled hrec
        rw [← hfs] at hfailed
        have height := eight_failing h₀ hwhole hprefix (by rw [ih, huntil]) hentry hfailed
          (by omega)
        omega

end

/-- A look at a lockout leaves the table alone. -/
theorem authIsLockedOut_of_locked {now : ℕ} {ip : Option CString} {hosts : Hosts}
    (h : (authIsLockedOut now ip hosts).2 = true) :
    authIsLockedOut now ip hosts = (hosts, true) := by
  rcases hostEntry_lookup ip hosts with ⟨hentry, -⟩ | ⟨i, hentry, -⟩
  · simp [authIsLockedOut, hentry] at h
  · unfold authIsLockedOut at h ⊢
    rw [hentry] at h ⊢
    dsimp only at h ⊢
    split at h
    next => cases h
    next hne =>
      split at h
      next => cases h
      next hlt => rw [if_neg hne, if_neg hlt]

/-- An address that is locked out at second `t₀` is refused, whatever the credentials, until
`t₀ + AUTH_LOCKOUT_S`, as long as fewer than `AUTH_TRACKED_HOSTS` others fail at `t₀` or later. -/
theorem lockout_lasts {sha256 : Digest} {s₀ s s₁ t : AuthSys} {as bs : List AuthAction}
    {a : AuthAction} {pre first es : List AuthEvent} {ip : Option CString} (h₀ : s₀.Init)
    (hpre : (authMachine sha256).Run s₀ as pre s)
    (hstep : (authMachine sha256).step s a = some (s₁, first))
    (hspan : (authMachine sha256).Run s₁ bs es t)
    (hshort : ∀ b ∈ as ++ a :: bs, b.call.ShortAddress)
    (hbefore : (authIsLockedOut a.time ip s.auth.hosts).2 = false)
    (hafter : (authIsLockedOut a.time ip s₁.auth.hosts).2 = true)
    (hothers : (failingSince (hostKey ip) a.time (pre ++ first ++ es)).length < authTrackedHosts)
    (hnow : t.now < a.time + authLockoutS) :
    LockedUntil ip (a.time + authLockoutS) t ∧
      ∀ sha256' conf now random username password ip', t.now ≤ now →
        now < a.time + authLockoutS → hostKey ip' = hostKey ip →
          authLogin sha256' conf now random username password ip' t.auth = (t.auth, none) := by
  have hinit : HostsInv s₀.auth.hosts := by rw [h₀]; exact hostsInv_init
  have hinv : HostsInv s.auth.hosts :=
    authRun_hostsInv hpre (fun b hb => hshort b (by simp [hb])) hinit
  obtain ⟨-, hs₁, hfirst⟩ := authStep_some hstep
  have hnow₁ : s₁.now = a.time := by rw [hs₁, authCall_now]
  have hreach := hpre.snoc hstep
  have hshort' : ∀ b ∈ as ++ [a] ++ bs, b.call.ShortAddress := by simpa using hshort
  have hdistinct₁ : s₁.auth.hosts.Distinct :=
    (authRun_hostsInv hreach (fun b hb => hshort' b (List.mem_append_left _ hb)) hinit).distinct
  have hdistinct : t.auth.hosts.Distinct :=
    (authRun_hostsInv (hreach.append hspan) hshort' hinit).distinct
  -- the lockout that begins is kept
  have huntil₁ : (counters (hostKey ip) s₁.auth.hosts).lockoutUntil = a.time + authLockoutS := by
    have hcase := (authCall_counters sha256 a.time (s := { s with now := a.time }) hinv.distinct
      (hshort a (by simp)) (hostKey ip)).2
    rw [← hs₁, ← hfirst] at hcase
    rw [(authIsLockedOut_spec hinv.distinct a.time ip).2.1] at hbefore
    rw [(authIsLockedOut_spec hdistinct₁ a.time ip).2.1] at hafter
    exact hcase.locks (hinv.consistent _) hbefore hafter
  have hkept := lockout_kept h₀ hreach hspan hshort' huntil₁ hnow₁.symm.le hothers hnow
  have huntil : (counters (hostKey ip) t.auth.hosts).lockoutUntil = a.time + authLockoutS := by
    rw [hkept, huntil₁]
  have hlocked : ∀ now ip', hostKey ip' = hostKey ip →
      ((authIsLockedOut now ip' t.auth.hosts).2 = true ↔ now < a.time + authLockoutS) := by
    intro now ip' hip'
    rw [locked_iff hdistinct, hip', huntil]
    omega
  refine ⟨⟨hnow, fun now _ => hlocked now ip rfl⟩, ?_⟩
  intro sha256' conf now random username password ip' _ hlt hip'
  have hrefused := (hlocked now ip' hip').mpr hlt
  unfold authLogin
  rw [show authIsLockedOut now ip' t.auth.hosts = (t.auth.hosts, true) from
    authIsLockedOut_of_locked hrefused]

/-- The password of `admin`, from the address that has been guessing. -/
def rightLogin (time : ℕ) : AuthAction :=
  ⟨time, .login (cstr "admin") (cstr "admin-pass") (some (cstr "10.0.0.9")) (Vector.replicate 32 0)⟩

/-- The address that has been guessing is not locked out yet. -/
def stillGuessing (s : AuthSys) (es : List AuthEvent) : Bool :=
  !(authIsLockedOut 28 (some (cstr "10.0.0.9")) s.auth.hosts).2 && decide (es.length ≤ 4)

/-- Another guess and the right password do not take long. -/
def fewEvents (t : AuthSys) (es : List AuthEvent) : Bool :=
  decide (t.now = 40) && decide (es.length ≤ 2)

/-- Now it is locked out, and the run goes on. -/
def justLockedOut (s : AuthSys) (es : List AuthEvent) : Bool :=
  (authIsLockedOut 28 (some (cstr "10.0.0.9")) s.auth.hosts).2 && decide (es.length ≤ 1) &&
    ((authMachine zeroDigest).exec s [wrongLogin 30 "10.0.0.10", rightLogin 40]).any fun r =>
      fewEvents r.1 r.2

/-- The fifth guess locks the address out, and the right password does not help. -/
theorem lockout_lasts_right_password :
    ∃ s pre s₁ first t es, (authMachine zeroDigest).Run adminBoot
        ([20, 22, 24, 26].map (wrongLogin · "10.0.0.9")) pre s ∧
      (authMachine zeroDigest).step s (wrongLogin 28 "10.0.0.9") = some (s₁, first) ∧
      (authMachine zeroDigest).Run s₁ [wrongLogin 30 "10.0.0.10", rightLogin 40] es t ∧
        LockedUntil (some (cstr "10.0.0.9")) (28 + authLockoutS) t ∧
          authLogin zeroDigest t.config 50 (Vector.replicate 32 0) (cstr "admin")
            (cstr "admin-pass")
            (some (cstr "10.0.0.9")) t.auth = (t.auth, none) := by
  obtain ⟨s, pre, s₁, first, hpre, hfifth, hstart, hlocking⟩ := Machine.Run.exists_of_exec_exec
    (M := authMachine zeroDigest) (s := adminBoot) (p := stillGuessing) (q := justLockedOut)
    (show ((authMachine zeroDigest).exec adminBoot
      ([20, 22, 24, 26].map (wrongLogin · "10.0.0.9"))).any (fun r => stillGuessing r.1 r.2 &&
        ((authMachine zeroDigest).exec r.1 [wrongLogin 28 "10.0.0.9"]).any fun r' =>
          justLockedOut r'.1 r'.2) = true by decide +kernel)
  simp only [stillGuessing, justLockedOut, Bool.and_eq_true, Bool.not_eq_true',
    decide_eq_true_eq] at hstart hlocking
  obtain ⟨⟨hafter, hfirst⟩, hrest⟩ := hlocking
  obtain ⟨t, es, hspan, hend⟩ := Machine.Run.exists_of_exec (p := fewEvents) hrest
  simp only [fewEvents, Bool.and_eq_true, decide_eq_true_eq] at hend
  have hstep := hfifth.single_inv
  have hshort : ∀ b ∈ [20, 22, 24, 26].map (wrongLogin · "10.0.0.9") ++
      wrongLogin 28 "10.0.0.9" :: [wrongLogin 30 "10.0.0.10", rightLogin 40],
      b.call.ShortAddress := by
    simp only [List.map_cons, List.map_nil, List.cons_append, List.nil_append, List.forall_mem_cons,
      List.not_mem_nil, false_implies, implies_true, and_true]
    have h9 : ∀ time, (wrongLogin time "10.0.0.9").call.ShortAddress := wrongLogin_short (by decide)
    exact ⟨h9 20, h9 22, h9 24, h9 26, h9 28, wrongLogin_short (by decide) 30,
      h9 40⟩
  have hothers :
      (failingSince (cstr "10.0.0.9") 28 (pre ++ first ++ es)).length < authTrackedHosts := by
    have hle := length_failingSince_le_length (cstr "10.0.0.9") 28 (pre ++ first ++ es)
    simp only [List.length_append] at hle
    have : authTrackedHosts = 8 := rfl
    omega
  obtain ⟨huntil, hrefused⟩ := lockout_lasts adminBoot_init hpre hstep hspan hshort
    hstart.1 hafter hothers (by rw [hend.1]; decide)
  exact ⟨s, pre, s₁, first, t, es, hpre, hstep, hspan, huntil,
    hrefused _ _ 50 _ _ _ _ (by rw [hend.1]; decide) (by decide) rfl⟩

end WebTerminal
