import Mathlib.Data.Fin.Tuple.Basic
import Mathlib.Logic.Function.Basic
import WebTerminal.Base.CString

/-!
# The session table

`s_sessions` and the functions of `auth.c` that look only at it.  Times are
`mono_now` seconds.  They are natural numbers: the differences the code takes
are compared with a positive bound, so a truncated difference decides alike.
-/

set_option autoImplicit false

namespace WebTerminal

/-- `AUTH_SESSION_TOKEN_LEN`, the random bytes in a token. -/
abbrev authSessionTokenLen : ℕ := 32

/-- `AUTH_MAX_SESSIONS` -/
abbrev authMaxSessions : ℕ := 4

/-- `AUTH_SESSION_TIMEOUT_S` -/
abbrev authSessionTimeoutS : ℕ := 3600

/-- `session_t` -/
structure Session where
  token : CString
  lastActivity : ℕ
  active : Bool
  deriving DecidableEq

/-- `s_sessions` -/
abbrev Sessions := Fin authMaxSessions → Session

/-- The idle test `now - last_activity > AUTH_SESSION_TIMEOUT_S`. -/
def Session.idle (now : ℕ) (session : Session) : Bool :=
  decide (authSessionTimeoutS < now - session.lastActivity)

/-- An active session that is not idle. -/
def Session.live (now : ℕ) (session : Session) : Bool :=
  session.active && !session.idle now

def hexDigit (n : UInt8) : UInt8 := if n < 10 then 48 + n else 87 + n

/-- `sprintf(buf, "%02x", byte)` -/
def hexByte (byte : UInt8) : CString := [hexDigit (byte / 16), hexDigit (byte % 16)]

/-- `generate_token`, from the bytes `esp_fill_random` returned. -/
def generateToken (random : Vector UInt8 authSessionTokenLen) : CString :=
  random.toList.flatMap hexByte

/-- `s_sessions[i].active = false` -/
def endSession (i : Fin authMaxSessions) (sessions : Sessions) : Sessions :=
  Function.update sessions i { sessions i with active := false }

/-- The slot scan of `auth_login` over the slots still to visit: idle sessions
are ended on the way, the scan stops at the first inactive slot and otherwise
ends with the least recently used one. -/
def loginScan (now : ℕ) :
    List (Fin authMaxSessions) → Sessions → ℕ → Fin authMaxSessions →
      Sessions × Fin authMaxSessions
  | [], sessions, _, oldestSlot => (sessions, oldestSlot)
  | i :: rest, sessions, oldestTime, oldestSlot =>
      let sessions :=
        if (sessions i).active && (sessions i).idle now then endSession i sessions else sessions
      if !(sessions i).active then (sessions, i)
      else if oldestTime = 0 ∨ (sessions i).lastActivity < oldestTime then
        loginScan now rest sessions (sessions i).lastActivity i
      else loginScan now rest sessions oldestTime oldestSlot

/-- The slot `auth_login` puts a new session in, and the table the scan leaves. -/
def loginSlot (now : ℕ) (sessions : Sessions) : Sessions × Fin authMaxSessions :=
  loginScan now (List.finRange authMaxSessions) sessions 0 0

/-- The end of `auth_login`: a new session in the slot found. -/
def openSession (now : ℕ) (random : Vector UInt8 authSessionTokenLen) (sessions : Sessions) :
    Sessions × CString :=
  let (sessions, slot) := loginSlot now sessions
  let token := generateToken random
  (Function.update sessions slot { token := token, lastActivity := now, active := true }, token)

/-- The slot the loops of `auth_validate_session` and `auth_logout` stop at. -/
def findToken (token : CString) (sessions : Sessions) : Option (Fin authMaxSessions) :=
  Fin.find? fun i => (sessions i).active && (sessions i).token == token

/-- `auth_validate_session`, for a token that is not `NULL`. -/
def authValidateSession (now : ℕ) (token : CString) (sessions : Sessions) : Sessions × Bool :=
  if token = [] then (sessions, false)
  else
    match findToken token sessions with
    | some i =>
        if (sessions i).idle now then (endSession i sessions, false)
        else (Function.update sessions i { sessions i with lastActivity := now }, true)
    | none => (sessions, false)

/-- `auth_logout`, for a token that is not `NULL`. -/
def authLogout (token : CString) (sessions : Sessions) : Sessions :=
  match findToken token sessions with
  | some i => endSession i sessions
  | none => sessions

/-- `auth_invalidate_all_sessions` -/
def authInvalidateAllSessions (sessions : Sessions) : Sessions :=
  fun i => { sessions i with active := false }

/-- The token of the session that a login at `now` displaces: the one in the
slot it takes, when it found all four slots live. -/
def displacedToken (now : ℕ) (sessions : Sessions) : Option CString :=
  if ∀ i, (sessions i).live now then some (sessions (loginSlot now sessions).2).token else none

/-! ## Tokens -/

theorem length_generateToken (random : Vector UInt8 authSessionTokenLen) :
    (generateToken random).length = authSessionTokenLen * 2 := by
  simp [generateToken, hexByte, List.length_flatMap, List.map_const']

theorem generateToken_ne_nil (random : Vector UInt8 authSessionTokenLen) :
    generateToken random ≠ [] := by
  rw [← List.length_pos_iff, length_generateToken]
  decide

/-! ## Editing one slot -/

@[simp] theorem endSession_self (i : Fin authMaxSessions) (sessions : Sessions) :
    endSession i sessions i = { sessions i with active := false } := by
  simp [endSession]

theorem endSession_of_ne {i j : Fin authMaxSessions} (h : j ≠ i) (sessions : Sessions) :
    endSession i sessions j = sessions j := by
  simp [endSession, h]

theorem findToken_some {token : CString} {sessions : Sessions} {i : Fin authMaxSessions}
    (h : findToken token sessions = some i) :
    (sessions i).active = true ∧ (sessions i).token = token := by
  have := Fin.eq_true_of_find?_eq_some h
  simpa using this

theorem findToken_none {token : CString} {sessions : Sessions}
    (h : findToken token sessions = none) (i : Fin authMaxSessions)
    (hactive : (sessions i).active = true) : (sessions i).token ≠ token := by
  have := Fin.find?_eq_none_iff.mp h i
  simpa [hactive] using this

/-- How `auth_validate_session` ends. -/
inductive ValidateCase (now : ℕ) (token : CString) (sessions : Sessions) : Sessions → Bool → Prop
  | accepted {i : Fin authMaxSessions} (hnamed : token ≠ []) (hi : (sessions i).active = true)
      (htoken : (sessions i).token = token) (hidle : (sessions i).idle now = false) :
      ValidateCase now token sessions
        (Function.update sessions i { sessions i with lastActivity := now }) true
  | expired {i : Fin authMaxSessions} (hi : (sessions i).active = true)
      (htoken : (sessions i).token = token) (hidle : (sessions i).idle now = true) :
      ValidateCase now token sessions (endSession i sessions) false
  | unknown (h : token = [] ∨ ∀ i, (sessions i).active = true → (sessions i).token ≠ token) :
      ValidateCase now token sessions sessions false

theorem authValidateSession_cases (now : ℕ) (token : CString) (sessions : Sessions) :
    ValidateCase now token sessions (authValidateSession now token sessions).1
      (authValidateSession now token sessions).2 := by
  unfold authValidateSession
  split
  next hnil => exact .unknown (.inl hnil)
  next hnamed =>
    cases hfind : findToken token sessions with
    | none => exact .unknown (.inr (findToken_none hfind))
    | some i =>
        obtain ⟨hi, htoken⟩ := findToken_some hfind
        cases hidle : (sessions i).idle now with
        | true => simpa [hidle] using ValidateCase.expired hi htoken hidle
        | false => simpa [hidle] using ValidateCase.accepted hnamed hi htoken hidle

/-! ## The slot scan -/

/-- What the scan of `auth_login` leaves of the table, and the slot it chose:
sessions are only ended when idle, and the slot is free unless every slot the
scan was to visit is live. -/
structure ScanSpec (now : ℕ) (visited : List (Fin authMaxSessions)) (sessions : Sessions)
    (result : Sessions × Fin authMaxSessions) : Prop where
  kept : ∀ j, result.1 j = sessions j ∨
    (sessions j).idle now = true ∧ result.1 j = { sessions j with active := false }
  slot : (result.1 result.2).active = false ∨
    result.1 = sessions ∧ ∀ j ∈ visited, (sessions j).live now = true

theorem loginScan_spec (now : ℕ) : ∀ (visited : List (Fin authMaxSessions)) (sessions : Sessions)
    (oldestTime : ℕ) (oldestSlot : Fin authMaxSessions),
      ScanSpec now visited sessions (loginScan now visited sessions oldestTime oldestSlot) := by
  intro visited
  induction visited with
  | nil =>
      intro sessions oldestTime oldestSlot
      exact ⟨fun j => .inl rfl, .inr ⟨rfl, by simp⟩⟩
  | cons i rest ih =>
      intro sessions oldestTime oldestSlot
      by_cases hidle : ((sessions i).active && (sessions i).idle now) = true
      · -- an idle session is ended, and its slot is taken
        have hscan : loginScan now (i :: rest) sessions oldestTime oldestSlot =
            (endSession i sessions, i) := by
          simp [loginScan, hidle]
        rw [hscan]
        refine ⟨fun j => ?_, .inl (by simp)⟩
        by_cases hj : j = i
        · subst hj
          exact .inr ⟨by simp_all, by simp⟩
        · exact .inl (endSession_of_ne hj sessions)
      · by_cases hactive : (sessions i).active = true
        · -- a live session is only a candidate for eviction
          have hfresh : (sessions i).idle now = false := by simpa [hactive] using hidle
          have hlive : (sessions i).live now = true := by simp [Session.live, hactive, hfresh]
          have hrec : ∃ time slot, loginScan now (i :: rest) sessions oldestTime oldestSlot =
              loginScan now rest sessions time slot := by
            by_cases hold : oldestTime = 0 ∨ (sessions i).lastActivity < oldestTime
            · exact ⟨(sessions i).lastActivity, i, by simp [loginScan, hactive, hfresh, hold]⟩
            · exact ⟨oldestTime, oldestSlot, by simp [loginScan, hactive, hfresh, hold]⟩
          obtain ⟨time, slot, hrec⟩ := hrec
          obtain ⟨hkept, hslot⟩ := ih sessions time slot
          rw [hrec]
          refine ⟨hkept, hslot.imp id fun ⟨heq, hall⟩ => ⟨heq, ?_⟩⟩
          intro j hj
          rcases List.mem_cons.mp hj with rfl | hj
          · exact hlive
          · exact hall j hj
        · have hscan :
              loginScan now (i :: rest) sessions oldestTime oldestSlot = (sessions, i) := by
            simp [loginScan, hactive]
          rw [hscan]
          exact ⟨fun j => .inl rfl, .inl (by simpa using hactive)⟩

theorem loginSlot_spec (now : ℕ) (sessions : Sessions) :
    ScanSpec now (List.finRange authMaxSessions) sessions (loginSlot now sessions) :=
  loginScan_spec now _ sessions 0 0

/-- How a new session finds its slot: a free one, after idle sessions were
ended, or else the slot of the session it displaces. -/
inductive OpenCase (now : ℕ) (sessions : Sessions) : Sessions → Fin authMaxSessions → Prop
  | free {sessions' : Sessions} {slot : Fin authMaxSessions}
      (hdisplaced : displacedToken now sessions = none)
      (hkept : ∀ j, sessions' j = sessions j ∨
        (sessions j).idle now = true ∧ sessions' j = { sessions j with active := false })
      (hfree : (sessions' slot).active = false) : OpenCase now sessions sessions' slot
  | evict {slot : Fin authMaxSessions}
      (hdisplaced : displacedToken now sessions = some (sessions slot).token)
      (hlive : ∀ j, (sessions j).live now = true) : OpenCase now sessions sessions slot

theorem loginSlot_cases (now : ℕ) (sessions : Sessions) :
    OpenCase now sessions (loginSlot now sessions).1 (loginSlot now sessions).2 := by
  obtain ⟨hkept, hslot⟩ := loginSlot_spec now sessions
  by_cases hlive : ∀ j, (sessions j).live now = true
  · have hsame : (loginSlot now sessions).1 = sessions := by
      funext j
      rcases hkept j with heq | ⟨hidle, -⟩
      · exact heq
      · have hj := hlive j
        simp [Session.live, hidle] at hj
    rw [hsame]
    exact .evict (by unfold displacedToken; rw [if_pos hlive]) hlive
  · refine .free (by unfold displacedToken; rw [if_neg hlive]) hkept ?_
    rcases hslot with hfree | ⟨-, hall⟩
    · exact hfree
    · exact absurd (fun j => hall j (List.mem_finRange j)) hlive

end WebTerminal
