import WebTerminal.Auth.Host
import WebTerminal.Auth.Session
import WebTerminal.Config.AppConfig

/-!
# Logging in

`auth_is_locked_out` and `auth_login`.  Each call reads the clock once; `ip` is
`none` for `NULL`.  What they do to the failed-login counters is stated per
address, by three functions on `Counters`: `check` (a lapsed lockout is
cleared), `fail` and `zero`.
-/

set_option autoImplicit false

namespace WebTerminal

/-- The tables of `auth.c`. -/
structure AuthTables where
  sessions : Sessions
  hosts : Hosts

/-- `auth_init` -/
def authInit : AuthTables where
  sessions := fun _ => { token := [], lastActivity := 0, active := false }
  hosts := fun _ => { used := false, ip := [], failedAttempts := 0, lockoutUntil := 0 }

/-- `auth_is_locked_out` -/
def authIsLockedOut (now : ℕ) (ip : Option CString) (hosts : Hosts) : Hosts × Bool :=
  match hostEntry ip false hosts with
  | (hosts, none) => (hosts, false)
  | (hosts, some i) =>
      if (hosts i).lockoutUntil = 0 then (hosts, false)
      else if (hosts i).lockoutUntil ≤ now then (setCounters i .zero hosts, false)
      else (hosts, true)

/-- The failure branch of `auth_login`. -/
def recordFailure (now : ℕ) (ip : Option CString) (hosts : Hosts) : Hosts :=
  match hostEntry ip true hosts with
  | (hosts, none) => hosts
  | (hosts, some i) =>
      let failed := (hosts i).failedAttempts + 1
      let lockout :=
        if authMaxFailed ≤ failed then now + authLockoutS else (hosts i).lockoutUntil
      setCounters i ⟨failed, lockout⟩ hosts

/-- What `auth_login` does to the counters after the credentials were accepted. -/
def clearFailures (ip : Option CString) (hosts : Hosts) : Hosts :=
  match hostEntry ip false hosts with
  | (hosts, none) => hosts
  | (hosts, some i) => setCounters i .zero hosts

/-- The test of `auth_login` on the credentials. -/
def credentialsOk (sha256 : Digest) (conf : AppConfig) (username password : CString) : Bool :=
  username == conf.authUser && conf.checkPassword sha256 password

/-- `auth_login` -/
def authLogin (sha256 : Digest) (conf : AppConfig) (now : ℕ)
    (random : Vector UInt8 authSessionTokenLen) (username password : CString)
    (ip : Option CString) (auth : AuthTables) : AuthTables × Option CString :=
  match authIsLockedOut now ip auth.hosts with
  | (hosts, true) => ({ auth with hosts := hosts }, none)
  | (hosts, false) =>
      if !credentialsOk sha256 conf username password then
        ({ auth with hosts := recordFailure now ip hosts }, none)
      else
        let hosts := clearFailures ip hosts
        let (sessions, token) := openSession now random auth.sessions
        ({ sessions := sessions, hosts := hosts }, some token)

/-! ## The counters of one address -/

/-- The address is locked out at `now`. -/
def Counters.locked (now : ℕ) (c : Counters) : Bool :=
  decide (c.lockoutUntil ≠ 0 ∧ now < c.lockoutUntil)

/-- The counters after `auth_is_locked_out` has looked at them. -/
def Counters.check (now : ℕ) (c : Counters) : Counters :=
  if c.lockoutUntil ≠ 0 ∧ c.lockoutUntil ≤ now then .zero else c

/-- The counters after one more failure. -/
def Counters.fail (now : ℕ) (c : Counters) : Counters where
  failedAttempts := c.failedAttempts + 1
  lockoutUntil :=
    if authMaxFailed ≤ c.failedAttempts + 1 then now + authLockoutS else c.lockoutUntil

theorem hostEntry_lookup (ip : Option CString) (hosts : Hosts) :
    hostEntry ip false hosts = (hosts, none) ∧ counters (hostKey ip) hosts = .zero ∨
      ∃ i, hostEntry ip false hosts = (hosts, some i) ∧ (hosts i).used = true ∧
        (hosts i).ip = hostKey ip ∧ counters (hostKey ip) hosts = (hosts i).counters := by
  cases hscan : scanHosts (hostKey ip) hosts with
  | found i =>
      obtain ⟨hused, hip⟩ := scanHosts_found hscan
      exact .inr ⟨i, by simp [hostEntry, hscan], hused, hip, by simp [counters, hscan]⟩
  | missing freeSlot stalest =>
      exact .inl ⟨by simp [hostEntry, hscan], by simp [counters, hscan]⟩

/-- `auth_is_locked_out` answers from the address's own counters and clears a
lapsed lockout. -/
theorem authIsLockedOut_spec {hosts : Hosts} (h : hosts.Distinct) (now : ℕ)
    (ip : Option CString) :
    (authIsLockedOut now ip hosts).1.Distinct ∧
      (authIsLockedOut now ip hosts).2 = (counters (hostKey ip) hosts).locked now ∧
      ∀ key, counters key (authIsLockedOut now ip hosts).1 =
        if key = hostKey ip then (counters key hosts).check now else counters key hosts := by
  rcases hostEntry_lookup ip hosts with ⟨hentry, hzero⟩ | ⟨i, hentry, hused, hip, hcount⟩
  · -- without an entry the counters read as zero
    have hres : authIsLockedOut now ip hosts = (hosts, false) := by
      simp [authIsLockedOut, hentry]
    rw [hres]
    refine ⟨h, by simp [hzero, Counters.locked, Counters.zero], fun key => ?_⟩
    split
    next heq => simp [heq, hzero, Counters.check, Counters.zero]
    next => rfl
  · by_cases hnever : (hosts i).lockoutUntil = 0
    · have hres : authIsLockedOut now ip hosts = (hosts, false) := by
        simp [authIsLockedOut, hentry, hnever]
      rw [hres]
      refine ⟨h, by simp [hcount, Host.counters, Counters.locked, hnever], fun key => ?_⟩
      split
      next heq => simp [heq, hcount, Host.counters, Counters.check, hnever]
      next => rfl
    · by_cases hlapsed : (hosts i).lockoutUntil ≤ now
      · -- the lockout has run out: the counters are cleared
        have hres : authIsLockedOut now ip hosts = (setCounters i .zero hosts, false) := by
          simp [authIsLockedOut, hentry, hnever, hlapsed]
        rw [hres]
        refine ⟨setCounters_distinct h i _, ?_, fun key => ?_⟩
        · simp [hcount, Host.counters, Counters.locked, hlapsed]
        · rw [counters_setCounters h hused, hip]
          split
          next heq => simp [heq, hcount, Host.counters, Counters.check, hnever, hlapsed]
          next => rfl
      · have hres : authIsLockedOut now ip hosts = (hosts, true) := by
          simp [authIsLockedOut, hentry, hnever, hlapsed]
        rw [hres]
        refine ⟨h, ?_, fun key => ?_⟩
        · simpa [hcount, Host.counters, Counters.locked, hnever] using hlapsed
        · split
          next heq => simp [heq, hcount, Host.counters, Counters.check, hlapsed]
          next => rfl

/-- An address that is not locked out is not locked out when it is asked for again. -/
theorem authIsLockedOut_again {now : ℕ} {ip : Option CString} {hosts : Hosts}
    (h : (authIsLockedOut now ip hosts).2 = false) :
    (authIsLockedOut now ip (authIsLockedOut now ip hosts).1).2 = false := by
  have hunchanged : (authIsLockedOut now ip hosts).1 = hosts →
      (authIsLockedOut now ip (authIsLockedOut now ip hosts).1).2 = false := by
    intro heq
    rwa [heq]
  cases hscan : scanHosts (hostKey ip) hosts with
  | missing freeSlot stalest =>
      refine hunchanged ?_
      simp [authIsLockedOut, hostEntry, hscan]
  | found i =>
      have hentry : hostEntry ip false hosts = (hosts, some i) := by simp [hostEntry, hscan]
      by_cases hnever : (hosts i).lockoutUntil = 0
      · refine hunchanged ?_
        simp [authIsLockedOut, hentry, hnever]
      · by_cases hlapsed : (hosts i).lockoutUntil ≤ now
        · have hres : (authIsLockedOut now ip hosts).1 = setCounters i .zero hosts := by
            simp [authIsLockedOut, hentry, hnever, hlapsed]
          have hscan' : scanHosts (hostKey ip) (setCounters i .zero hosts) = .found i :=
            hostScan_found_congr (setCounters_same i .zero hosts) _ _ _ _ _ hscan
          have hzero : (setCounters i .zero hosts i).lockoutUntil = 0 := by
            simp [setCounters, Counters.zero]
          rw [hres]
          simp [authIsLockedOut, hostEntry, hscan', hzero]
        · simp [authIsLockedOut, hentry, hnever, hlapsed] at h

/-- Looking at the counters does not change which entry would be recycled. -/
theorem recycledEntry_authIsLockedOut (now : ℕ) (ip : Option CString) (hosts : Hosts) :
    recycledEntry ip (authIsLockedOut now ip hosts).1 = recycledEntry ip hosts := by
  rcases hostEntry_lookup ip hosts with ⟨hentry, -⟩ | ⟨i, hentry, hused, hip, -⟩
  · simp [authIsLockedOut, hentry]
  · -- an address with an entry recycles none, before and after
    have hnone : ∀ hosts' : Hosts, (hosts' i).used = true → (hosts' i).ip = hostKey ip →
        recycledEntry ip hosts' = none := by
      intro hosts' hused' hip'
      unfold recycledEntry
      cases hscan : scanHosts (hostKey ip) hosts' with
      | found j => rfl
      | missing freeSlot stalest =>
          exact absurd hip' ((scanHosts_missing hscan).1 i hused')
    rw [hnone hosts hused hip]
    apply hnone
    · simp only [authIsLockedOut, hentry]
      split_ifs <;> simp [setCounters, hused]
    · simp only [authIsLockedOut, hentry]
      split_ifs <;> simp [setCounters, hip]

/-- A recorded failure counts for its own address, which may cost another
address its entry. -/
theorem recordFailure_spec {hosts : Hosts} (h : hosts.Distinct) (now : ℕ) (ip : Option CString)
    (hlen : (hostKey ip).length < authIpLen) :
    (recordFailure now ip hosts).Distinct ∧
      ∀ key, counters key (recordFailure now ip hosts) =
        if key = hostKey ip then (counters key hosts).fail now
        else if recycledEntry ip hosts = some key then .zero
        else counters key hosts := by
  obtain ⟨i, hosts', hentry, hdistinct, hused, hip, hcount⟩ := hostEntry_create h ip hlen
  have hown : (hosts' i).counters = counters (hostKey ip) hosts := by
    rw [← counters_of_entry hdistinct hused, hip, hcount, if_neg (by simp)]
  have hrec : recordFailure now ip hosts =
      setCounters i ((hosts' i).counters.fail now) hosts' := by
    unfold recordFailure
    rw [hentry]
    rfl
  rw [hrec]
  refine ⟨setCounters_distinct hdistinct i _, fun key => ?_⟩
  rw [counters_setCounters hdistinct hused, hip, hown]
  split
  next heq => rw [heq]
  next hne => simp [hcount, hne]

/-- Accepted credentials clear the counters of their address. -/
theorem clearFailures_spec {hosts : Hosts} (h : hosts.Distinct) (ip : Option CString) :
    (clearFailures ip hosts).Distinct ∧
      ∀ key, counters key (clearFailures ip hosts) =
        if key = hostKey ip then .zero else counters key hosts := by
  rcases hostEntry_lookup ip hosts with ⟨hentry, hzero⟩ | ⟨i, hentry, hused, hip, -⟩
  · have hres : clearFailures ip hosts = hosts := by simp [clearFailures, hentry]
    rw [hres]
    refine ⟨h, fun key => ?_⟩
    split
    next heq => rw [heq, hzero]
    next => rfl
  · have hres : clearFailures ip hosts = setCounters i .zero hosts := by
      simp [clearFailures, hentry]
    rw [hres]
    refine ⟨setCounters_distinct h i _, fun key => ?_⟩
    rw [counters_setCounters h hused, hip]

/-! ## The three ends of a login -/

/-- How `auth_login` ends. -/
inductive LoginCase (sha256 : Digest) (conf : AppConfig) (now : ℕ)
    (random : Vector UInt8 authSessionTokenLen) (username password : CString)
    (ip : Option CString) (auth : AuthTables) : AuthTables → Option CString → Prop
  | refused (hlocked : (authIsLockedOut now ip auth.hosts).2 = true) :
      LoginCase sha256 conf now random username password ip auth
        { auth with hosts := (authIsLockedOut now ip auth.hosts).1 } none
  | failed (hlocked : (authIsLockedOut now ip auth.hosts).2 = false)
      (hcred : credentialsOk sha256 conf username password = false) :
      LoginCase sha256 conf now random username password ip auth
        { auth with hosts := recordFailure now ip (authIsLockedOut now ip auth.hosts).1 } none
  | accepted (hlocked : (authIsLockedOut now ip auth.hosts).2 = false)
      (hcred : credentialsOk sha256 conf username password = true) :
      LoginCase sha256 conf now random username password ip auth
        { sessions := (openSession now random auth.sessions).1
          hosts := clearFailures ip (authIsLockedOut now ip auth.hosts).1 }
        (some (generateToken random))

theorem authLogin_cases (sha256 : Digest) (conf : AppConfig) (now : ℕ)
    (random : Vector UInt8 authSessionTokenLen) (username password : CString)
    (ip : Option CString) (auth : AuthTables) :
    LoginCase sha256 conf now random username password ip auth
      (authLogin sha256 conf now random username password ip auth).1
      (authLogin sha256 conf now random username password ip auth).2 := by
  unfold authLogin
  cases hlocked : authIsLockedOut now ip auth.hosts with
  | mk hosts locked =>
      have hhosts : hosts = (authIsLockedOut now ip auth.hosts).1 := by rw [hlocked]
      cases locked with
      | true =>
          rw [hhosts]
          exact .refused (by rw [hlocked])
      | false =>
          cases hcred : credentialsOk sha256 conf username password with
          | false =>
              rw [hhosts]
              exact .failed (by rw [hlocked]) hcred
          | true =>
              rw [hhosts]
              exact .accepted (by rw [hlocked]) hcred

end WebTerminal
