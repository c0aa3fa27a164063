import WebTerminal.Auth.Login
import WebTerminal.Lib.Lease

/-!
# Runs of the authentication functions

The calls into `auth.c` in any order, on a clock that never runs backwards.  A
call that happens at `time` is enabled in every state whose clock has not passed
`time`.  The stored configuration may be replaced between calls.
-/

set_option autoImplicit false

namespace WebTerminal

/-- The state of `auth.c`, the clock and the configuration it reads. -/
structure AuthSys where
  now : ℕ
  config : AppConfig
  auth : AuthTables

inductive AuthCall
  | login (username password : CString) (ip : Option CString)
      (random : Vector UInt8 authSessionTokenLen)
  | isLockedOut (ip : Option CString)
  | validate (token : CString)
  | logout (token : CString)
  | invalidateAll
  | configure (conf : AppConfig)

structure AuthAction where
  time : ℕ
  call : AuthCall

/-- What a call shows. -/
inductive AuthEvent
  /-- a login refused because of a lockout -/
  | refused (ip : Option CString)
  /-- a login whose credentials were evaluated and did not match -/
  | failed (ip : Option CString) (time : ℕ)
  /-- the entry of this address was recycled for another -/
  | recycled (key : CString)
  | issued (ip : Option CString) (token : CString) (time : ℕ)
  /-- the session with this token was live and made room for a new one -/
  | displaced (token : CString)
  | accepted (token : CString) (time : ℕ)
  | rejected (token : CString)
  | loggedOut (token : CString)
  | invalidatedAll
  deriving DecidableEq

/-- What a login shows, by how it ended. -/
def loginEvents (now : ℕ) (ip : Option CString) (auth : AuthTables) :
    Option CString → List AuthEvent
  | none =>
      if (authIsLockedOut now ip auth.hosts).2 then [.refused ip]
      else (recycledEntry ip auth.hosts).toList.map .recycled ++ [.failed ip now]
  | some token =>
      (displacedToken now auth.sessions).toList.map .displaced ++ [.issued ip token now]

/-- One call at `now`. -/
def authCall (sha256 : Digest) (now : ℕ) (s : AuthSys) : AuthCall → AuthSys × List AuthEvent
  | .login username password ip random =>
      let (auth, token) := authLogin sha256 s.config now random username password ip s.auth
      ({ s with auth := auth }, loginEvents now ip s.auth token)
  | .isLockedOut ip =>
      ({ s with auth := { s.auth with hosts := (authIsLockedOut now ip s.auth.hosts).1 } }, [])
  | .validate token =>
      let (sessions, ok) := authValidateSession now token s.auth.sessions
      ({ s with auth := { s.auth with sessions := sessions } },
        [if ok then .accepted token now else .rejected token])
  | .logout token =>
      ({ s with auth := { s.auth with sessions := authLogout token s.auth.sessions } },
        [.loggedOut token])
  | .invalidateAll =>
      ({ s with auth := { s.auth with sessions := authInvalidateAllSessions s.auth.sessions } },
        [.invalidatedAll])
  | .configure conf => ({ s with config := conf }, [])

def authStep (sha256 : Digest) (s : AuthSys) (a : AuthAction) :
    Option (AuthSys × List AuthEvent) :=
  if a.time < s.now then none
  else some (authCall sha256 a.time { s with now := a.time } a.call)

def authMachine (sha256 : Digest) : Machine AuthSys AuthAction AuthEvent where
  step := authStep sha256

/-- After `auth_init`. -/
def AuthSys.Init (s : AuthSys) : Prop := s.auth = authInit

/-- The digest of the concrete runs below. -/
def zeroDigest : Digest := fun _ => Vector.replicate 32 0

/-- A device whose only user is `admin`, with a hash written by old firmware. -/
def adminConfig : AppConfig where
  staSsid := []
  staPass := []
  apSsid := cstr "ESP-Terminal"
  apPass := cstr "esp32term"
  baudRate := fun _ => 115200
  powerOnDefault := true
  authUser := cstr "admin"
  authHash := List.replicate 32 0
  authSalt := List.replicate 16 0
  authInitialized := true
  authHashVer := 0
  deviceName := cstr "ESP32 Terminal"
  ntpServer := []
  timezone := cstr "UTC0"

/-- That device ten seconds after boot. -/
def adminBoot : AuthSys := ⟨10, adminConfig, authInit⟩

theorem adminBoot_init : adminBoot.Init := rfl

/-- The leases on tokens: a login grants one, an accepted validation uses it. -/
def AuthEvent.lease : AuthEvent → Option (Lease.Event CString)
  | .issued _ token time => some (.grant token time)
  | .accepted token time => some (.use token time)
  | .displaced token => some (.revoke token)
  | .loggedOut token => some (.revoke token)
  | .invalidatedAll => some .revokeAll
  | _ => none

/-- The history of the leases in a trace. -/
def leases (es : List AuthEvent) : List (Lease.Event CString) := es.filterMap AuthEvent.lease

/-- A step of the machine moves the clock, then makes a call. -/
theorem authStep_some {sha256 : Digest} {s t : AuthSys} {a : AuthAction} {es : List AuthEvent}
    (h : authStep sha256 s a = some (t, es)) :
    s.now ≤ a.time ∧ t = (authCall sha256 a.time { s with now := a.time } a.call).1 ∧
      es = (authCall sha256 a.time { s with now := a.time } a.call).2 := by
  unfold authStep at h
  split at h
  next => simp at h
  next htime =>
    rw [Option.some.inj h]
    exact ⟨by omega, rfl, rfl⟩

/-- No call moves the clock. -/
theorem authCall_now (sha256 : Digest) (now : ℕ) (s : AuthSys) (call : AuthCall) :
    (authCall sha256 now s call).1.now = s.now := by
  cases call <;> rfl

end WebTerminal
