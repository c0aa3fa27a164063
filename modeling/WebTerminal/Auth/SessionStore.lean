import WebTerminal.Auth.AuthMachine

/-!
# The session table is a store of leases

`s_sessions` has four slots, keeps stale tokens in inactive ones and notices
expiry late: in the slot scan of a login, which stops early, or when the expired
token is used.  Seen from outside it is nevertheless a store of leases on
tokens with idle timeout `AUTH_SESSION_TIMEOUT_S`: `StoreInv` relates the table
to the history of the run, every function of `auth.c` keeps it, and
`session_table_refines_store` reads the answers of `auth_login` and
`auth_validate_session` off the history.
-/

set_option autoImplicit false

namespace WebTerminal

open Lease (lastUse grants)

/-- The table against the history of leases.  A lease that has expired may be
gone from the table; a recent one is in it, with the time of its last use. -/
structure StoreInv (history : List (Lease.Event CString)) (now : ℕ) (sessions : Sessions) :
    Prop where
  prompt : Lease.Prompt authSessionTimeoutS history
  distinct : ∀ i j, (sessions i).active = true → (sessions j).active = true →
    (sessions i).token = (sessions j).token → i = j
  named : ∀ i, (sessions i).active = true → (sessions i).token ≠ []
  granted : ∀ i, (sessions i).active = true → (sessions i).token ∈ grants history
  last : ∀ i, (sessions i).active = true →
    lastUse history (sessions i).token = some (sessions i).lastActivity
  complete : ∀ token u, lastUse history token = some u → now - u ≤ authSessionTimeoutS →
    ∃ i, (sessions i).active = true ∧ (sessions i).token = token

variable {history : List (Lease.Event CString)} {now : ℕ} {sessions : Sessions}

theorem storeInv_init (now : ℕ) : StoreInv [] now authInit.sessions where
  prompt := Machine.throughout_nil _
  distinct i j hi := by simp [authInit] at hi
  named i hi := by simp [authInit] at hi
  granted i hi := by simp [authInit] at hi
  last i hi := by simp [authInit] at hi
  complete token u hu := by simp [lastUse] at hu

theorem StoreInv.advance (h : StoreInv history now sessions) {time : ℕ} (htime : now ≤ time) :
    StoreInv history time sessions :=
  { h with complete := fun token u hu hgap => h.complete token u hu (by omega) }

/-- Ending idle sessions loses no lease. -/
theorem StoreInv.expire (h : StoreInv history now sessions) {sessions' : Sessions}
    (hkept : ∀ j, sessions' j = sessions j ∨
      (sessions j).idle now = true ∧ sessions' j = { sessions j with active := false }) :
    StoreInv history now sessions' := by
  have hactive : ∀ j, (sessions' j).active = true → sessions' j = sessions j := by
    intro j hj
    rcases hkept j with heq | ⟨-, heq⟩
    · exact heq
    · simp [heq] at hj
  refine ⟨h.prompt, ?_, ?_, ?_, ?_, ?_⟩
  · intro i j hi hj
    have hii := hactive i hi
    have hjj := hactive j hj
    rw [hii] at hi ⊢
    rw [hjj] at hj ⊢
    exact h.distinct i j hi hj
  · intro i hi
    have hii := hactive i hi
    rw [hii] at hi ⊢
    exact h.named i hi
  · intro i hi
    have hii := hactive i hi
    rw [hii] at hi ⊢
    exact h.granted i hi
  · intro i hi
    have hii := hactive i hi
    rw [hii] at hi ⊢
    exact h.last i hi
  · intro token u hu hgap
    obtain ⟨i, hi, rfl⟩ := h.complete token u hu hgap
    obtain rfl : (sessions i).lastActivity = u := by simpa [h.last i hi] using hu
    rcases hkept i with heq | ⟨hidle, -⟩
    · exact ⟨i, by rw [heq]; exact ⟨hi, rfl⟩⟩
    · simp only [Session.idle, decide_eq_true_eq] at hidle
      omega

/-- Ending the session of one token revokes its lease. -/
theorem StoreInv.revoke (h : StoreInv history now sessions) {sessions' : Sessions}
    {token : CString}
    (hkept : ∀ j, (sessions j).active = true → (sessions j).token ≠ token →
      sessions' j = sessions j)
    (hended : ∀ j, (sessions' j).active = true →
      sessions' j = sessions j ∧ (sessions j).token ≠ token) :
    StoreInv (history ++ [.revoke token]) now sessions' := by
  have hlast : ∀ token', token' ≠ token →
      lastUse (history ++ [.revoke token]) token' = lastUse history token' := by
    intro token' hne
    simp [Lease.lastUse_snoc, Lease.track, Ne.symm hne]
  refine ⟨h.prompt.snoc (by simp), ?_, ?_, ?_, ?_, ?_⟩
  · intro i j hi hj
    have hii := (hended i hi).1
    have hjj := (hended j hj).1
    rw [hii] at hi ⊢
    rw [hjj] at hj ⊢
    exact h.distinct i j hi hj
  · intro i hi
    have hii := (hended i hi).1
    rw [hii] at hi ⊢
    exact h.named i hi
  · intro i hi
    have hii := (hended i hi).1
    rw [hii] at hi ⊢
    have := h.granted i hi
    simpa [grants] using this
  · intro i hi
    obtain ⟨hii, hne⟩ := hended i hi
    rw [hii] at hi ⊢
    rw [hlast _ hne]
    exact h.last i hi
  · intro token' u hu hgap
    have hne : token' ≠ token := by
      rintro rfl
      simp [Lease.lastUse_snoc, Lease.track] at hu
    rw [hlast _ hne] at hu
    obtain ⟨i, hi, htoken⟩ := h.complete token' u hu hgap
    exact ⟨i, by rw [hkept i hi (by rw [htoken]; exact hne)]; exact ⟨hi, htoken⟩⟩

/-- A new session in a free slot grants a lease. -/
theorem StoreInv.grant (h : StoreInv history now sessions) {slot : Fin authMaxSessions}
    (hfree : (sessions slot).active = false) {token : CString} (hnamed : token ≠ [])
    (hfresh : token ∉ grants history) :
    StoreInv (history ++ [.grant token now]) now
      (Function.update sessions slot ⟨token, now, true⟩) := by
  -- nothing changes for the other tokens, and the new one is not among them
  have hlast : ∀ token', token' ≠ token →
      lastUse (history ++ [.grant token now]) token' = lastUse history token' := by
    intro token' hne
    simp [Lease.lastUse_snoc, Lease.track, Ne.symm hne]
  have hself : lastUse (history ++ [.grant token now]) token = some now := by
    simp [Lease.lastUse_snoc, Lease.track]
  have hne : ∀ i, (sessions i).active = true → (sessions i).token ≠ token := by
    rintro i hi rfl
    exact hfresh (h.granted i hi)
  refine ⟨h.prompt.snoc (by simp), ?_, ?_, ?_, ?_, ?_⟩
  · intro i j hi hj htoken
    by_cases his : i = slot <;> by_cases hjs : j = slot
    · rw [his, hjs]
    · subst his
      simp only [Function.update_self, Function.update_of_ne hjs] at hj htoken
      exact absurd htoken.symm (hne j hj)
    · subst hjs
      simp only [Function.update_self, Function.update_of_ne his] at hi htoken
      exact absurd htoken (hne i hi)
    · simp only [Function.update_of_ne his, Function.update_of_ne hjs] at hi hj htoken
      exact h.distinct i j hi hj htoken
  · intro i hi
    by_cases his : i = slot
    · subst his; simpa using hnamed
    · simp only [Function.update_of_ne his] at hi ⊢
      exact h.named i hi
  · intro i hi
    by_cases his : i = slot
    · subst his; simp [grants]
    · simp only [Function.update_of_ne his] at hi ⊢
      have := h.granted i hi
      simp only [grants, List.filterMap_append, List.mem_append]
      exact .inl this
  · intro i hi
    by_cases his : i = slot
    · subst his; simpa using hself
    · simp only [Function.update_of_ne his] at hi ⊢
      rw [hlast _ (hne i hi)]
      exact h.last i hi
  · intro token' u hu hgap
    by_cases htoken : token' = token
    · subst htoken
      exact ⟨slot, by simp⟩
    · rw [hlast _ htoken] at hu
      -- the slot of another lease was in use, so it is not the new one
      obtain ⟨i, hi, rfl⟩ := h.complete token' u hu hgap
      have his : i ≠ slot := by
        rintro rfl
        simp [hfree] at hi
      exact ⟨i, by rw [Function.update_of_ne his]; exact ⟨hi, rfl⟩⟩

/-- A validated use extends its lease. -/
theorem StoreInv.use (h : StoreInv history now sessions) {i : Fin authMaxSessions}
    (hi : (sessions i).active = true) (hidle : (sessions i).idle now = false) :
    StoreInv (history ++ [.use (sessions i).token now]) now
      (Function.update sessions i { sessions i with lastActivity := now }) := by
  have hlast : ∀ token', token' ≠ (sessions i).token →
      lastUse (history ++ [.use (sessions i).token now]) token' = lastUse history token' := by
    intro token' hne
    simp [Lease.lastUse_snoc, Lease.track, Ne.symm hne]
  have hself :
      lastUse (history ++ [.use (sessions i).token now]) (sessions i).token = some now := by
    simp [Lease.lastUse_snoc, Lease.track, h.last i hi]
  -- but for the time of use the table is as it was
  have hsame : ∀ j, (Function.update sessions i { sessions i with lastActivity := now } j).active =
      (sessions j).active ∧
        (Function.update sessions i { sessions i with lastActivity := now } j).token =
          (sessions j).token := by
    intro j
    by_cases hj : j = i
    · subst hj; simp
    · simp [hj]
  have hgap : now - (sessions i).lastActivity ≤ authSessionTimeoutS := by
    simpa [Session.idle] using hidle
  refine ⟨h.prompt.snoc ?_, ?_, ?_, ?_, ?_, ?_⟩
  · intro token time heq
    -- the use comes before the lease runs out
    obtain ⟨rfl, rfl⟩ := Lease.Event.use.inj heq
    exact ⟨_, h.last i hi, hgap⟩
  · intro j k hj hk
    rw [(hsame j).1] at hj
    rw [(hsame k).1] at hk
    rw [(hsame j).2, (hsame k).2]
    exact h.distinct j k hj hk
  · intro j hj
    rw [(hsame j).1] at hj
    rw [(hsame j).2]
    exact h.named j hj
  · intro j hj
    rw [(hsame j).1] at hj
    rw [(hsame j).2]
    have := h.granted j hj
    simpa [grants] using this
  · intro j hj
    by_cases hji : j = i
    · subst hji; simpa using hself
    · simp only [Function.update_of_ne hji] at hj ⊢
      rw [hlast _ fun heq => hji (h.distinct j i hj hi heq)]
      exact h.last j hj
  · intro token u hu hrecent
    by_cases htoken : token = (sessions i).token
    · exact ⟨i, by simp [hi, htoken]⟩
    · rw [hlast _ htoken] at hu
      obtain ⟨j, hj, rfl⟩ := h.complete token u hu hrecent
      exact ⟨j, by rw [(hsame j).1, (hsame j).2]; exact ⟨hj, rfl⟩⟩

/-! ## The functions of `auth.c` -/

theorem StoreInv.validate (h : StoreInv history now sessions) (token : CString) :
    StoreInv
      (history ++ if (authValidateSession now token sessions).2 then [.use token now] else []) now
      (authValidateSession now token sessions).1 := by
  generalize hsessions : (authValidateSession now token sessions).1 = sessions'
  generalize hok : (authValidateSession now token sessions).2 = ok
  have hcase := authValidateSession_cases now token sessions
  rw [hsessions, hok] at hcase
  cases hcase with
  | accepted hnamed hi htoken hidle =>
      subst htoken
      exact h.use hi hidle
  | @expired i hi htoken hidle =>
      simp only [Bool.false_eq_true, if_false, List.append_nil]
      apply h.expire
      intro j
      by_cases hj : j = i
      · subst hj; exact .inr ⟨hidle, endSession_self j sessions⟩
      · exact .inl (endSession_of_ne hj sessions)
  | unknown => simpa using h

theorem StoreInv.logout (h : StoreInv history now sessions) (token : CString) :
    StoreInv (history ++ [.revoke token]) now (authLogout token sessions) := by
  unfold authLogout
  cases hfind : findToken token sessions with
  | none => exact h.revoke (fun _ _ _ => rfl) fun j hj => ⟨rfl, findToken_none hfind j hj⟩
  | some i =>
      obtain ⟨hi, htoken⟩ := findToken_some hfind
      have hne : ∀ j, (sessions j).active = true → (sessions j).token ≠ token → j ≠ i := by
        rintro j - hj rfl
        exact hj htoken
      refine h.revoke (fun j hj hj' => endSession_of_ne (hne j hj hj') sessions) ?_
      intro j hj
      have hji : j ≠ i := by
        rintro rfl
        simp at hj
      refine ⟨endSession_of_ne hji sessions, fun heq => hji (h.distinct j i ?_ hi ?_)⟩
      · simpa [endSession_of_ne hji] using hj
      · rw [heq, htoken]

theorem StoreInv.invalidateAll (h : StoreInv history now sessions) :
    StoreInv (history ++ [.revokeAll]) now (authInvalidateAllSessions sessions) where
  prompt := h.prompt.snoc (by simp)
  distinct i j hi := by simp [authInvalidateAllSessions] at hi
  named i hi := by simp [authInvalidateAllSessions] at hi
  granted i hi := by simp [authInvalidateAllSessions] at hi
  last i hi := by simp [authInvalidateAllSessions] at hi
  complete token u hu := by simp [Lease.lastUse_snoc, Lease.track] at hu

/-- The lease events of a login that opened a session. -/
def loginLeases (now : ℕ) (token : CString) (sessions : Sessions) : List (Lease.Event CString) :=
  (displacedToken now sessions).toList.map .revoke ++ [.grant token now]

theorem StoreInv.login (h : StoreInv history now sessions)
    (random : Vector UInt8 authSessionTokenLen)
    (hfresh : (grants (history ++ loginLeases now (generateToken random) sessions)).Nodup) :
    StoreInv (history ++ loginLeases now (generateToken random) sessions) now
      (openSession now random sessions).1 := by
  have hnew : generateToken random ∉ grants history := by
    intro hmem
    simp only [grants, loginLeases, List.filterMap_append] at hfresh
    have hdisjoint := (List.nodup_append.mp hfresh).2.2
    exact hdisjoint _ hmem _ (by simp) rfl
  have hopen : (openSession now random sessions).1 =
      Function.update (loginSlot now sessions).1 (loginSlot now sessions).2
        ⟨generateToken random, now, true⟩ := rfl
  rw [hopen]
  generalize hsessions : (loginSlot now sessions).1 = sessions'
  generalize hslot : (loginSlot now sessions).2 = slot
  have hcase := loginSlot_cases now sessions
  rw [hsessions, hslot] at hcase
  cases hcase with
  | free hdisplaced hkept hfree =>
      have hleases : loginLeases now (generateToken random) sessions =
          [.grant (generateToken random) now] := by
        simp [loginLeases, hdisplaced]
      rw [hleases]
      exact (h.expire hkept).grant hfree (generateToken_ne_nil random) hnew
  | evict hdisplaced hlive =>
      have hactive : (sessions slot).active = true := by
        have := hlive slot
        simp only [Session.live, Bool.and_eq_true] at this
        exact this.1
      have hleases : loginLeases now (generateToken random) sessions =
          [.revoke (sessions slot).token] ++ [.grant (generateToken random) now] := by
        simp [loginLeases, hdisplaced]
      -- the displaced session is ended first, then its slot is taken
      have hrevoked : StoreInv (history ++ [.revoke (sessions slot).token]) now
          (endSession slot sessions) := by
        apply h.revoke
        · intro j _ hj
          exact endSession_of_ne (fun heq => hj (by rw [heq])) sessions
        · intro j hj
          have hne : j ≠ slot := by
            rintro rfl
            simp at hj
          have hsame := endSession_of_ne hne sessions
          refine ⟨hsame, fun heq => hne (h.distinct j slot ?_ hactive heq)⟩
          rwa [hsame] at hj
      have hfree : (endSession slot sessions slot).active = false := by simp
      have hgranted := hrevoked.grant hfree (generateToken_ne_nil random)
        (by simpa [grants] using hnew)
      rw [hleases, ← List.append_assoc]
      simpa [endSession] using hgranted

/-- Each call keeps the table in line with the history. -/
theorem authCall_storeInv {sha256 : Digest} {s : AuthSys} {es : List AuthEvent}
    (h : StoreInv (leases es) now s.auth.sessions) (call : AuthCall)
    (hfresh : (grants (leases (es ++ (authCall sha256 now s call).2))).Nodup) :
    StoreInv (leases (es ++ (authCall sha256 now s call).2)) now
      (authCall sha256 now s call).1.auth.sessions := by
  have happend : ∀ fs, leases (es ++ fs) = leases es ++ leases fs := fun fs =>
    List.filterMap_append
  rw [happend] at hfresh ⊢
  cases call with
  | login username password ip random =>
      simp only [authCall] at hfresh ⊢
      generalize hauth : (authLogin sha256 s.config now random username password ip s.auth).1 =
        auth at hfresh ⊢
      generalize htoken : (authLogin sha256 s.config now random username password ip s.auth).2 =
        token at hfresh ⊢
      have hcase := authLogin_cases sha256 s.config now random username password ip s.auth
      rw [hauth, htoken] at hcase
      have hquiet : leases (loginEvents now ip s.auth none) = [] := by
        unfold loginEvents
        cases (authIsLockedOut now ip s.auth.hosts).2 with
        | true => rfl
        | false => cases recycledEntry ip s.auth.hosts <;> rfl
      cases hcase with
      | refused => simpa [hquiet] using h
      | failed => simpa [hquiet] using h
      | accepted =>
          have hleases : leases (loginEvents now ip s.auth (some (generateToken random))) =
              loginLeases now (generateToken random) s.auth.sessions := by
            unfold loginEvents loginLeases
            cases displacedToken now s.auth.sessions <;> rfl
          rw [hleases] at hfresh ⊢
          exact h.login random hfresh
  | isLockedOut ip => simpa [authCall, leases] using h
  | validate token =>
      have hvalid := h.validate token
      have hleases : leases [if (authValidateSession now token s.auth.sessions).2
            then .accepted token now else .rejected token] =
          if (authValidateSession now token s.auth.sessions).2 then [.use token now] else [] := by
        cases (authValidateSession now token s.auth.sessions).2 <;> rfl
      simp only [authCall, hleases]
      exact hvalid
  | logout token => simpa [authCall, leases, AuthEvent.lease] using h.logout token
  | invalidateAll => simpa [authCall, leases, AuthEvent.lease] using h.invalidateAll
  | configure conf => simpa [authCall, leases] using h

/-- A token validates exactly when its lease was last used in time. -/
theorem StoreInv.validate_iff (h : StoreInv history now sessions) (token : CString) :
    (authValidateSession now token sessions).2 = true ↔
      ∃ u, lastUse history token = some u ∧ now - u ≤ authSessionTimeoutS := by
  generalize hsessions : (authValidateSession now token sessions).1 = sessions'
  generalize hok : (authValidateSession now token sessions).2 = ok
  have hcase := authValidateSession_cases now token sessions
  rw [hsessions, hok] at hcase
  cases hcase with
  | @accepted i hnamed hi htoken hidle =>
      subst htoken
      simp only [true_iff]
      exact ⟨_, h.last i hi, by simpa [Session.idle] using hidle⟩
  | @expired i hi htoken hidle =>
      subst htoken
      simp only [Bool.false_eq_true, false_iff, not_exists, not_and]
      intro u hu
      obtain rfl : (sessions i).lastActivity = u := by simpa [h.last i hi] using hu
      simp only [Session.idle, decide_eq_true_eq] at hidle
      omega
  | unknown hunknown =>
      simp only [Bool.false_eq_true, false_iff, not_exists, not_and]
      intro u hu hgap
      obtain ⟨i, hi, htoken⟩ := h.complete token u hu hgap
      rcases hunknown with hnil | hnone
      · exact h.named i hi (htoken.trans hnil)
      · exact hnone i hi htoken

/-! ## Main result -/

/-- **The session table refines the store of leases.**  After any run of calls in
which no token was generated twice: `auth_login` returns a token exactly for the
right credentials from an address that is not locked out, and
`auth_validate_session` accepts exactly the tokens whose lease is held. -/
theorem session_table_refines_store {sha256 : Digest} {s₀ s : AuthSys} {as : List AuthAction}
    {es : List AuthEvent} (h₀ : s₀.Init) (hrun : (authMachine sha256).Run s₀ as es s)
    (hfresh : (grants (leases es)).Nodup) (now : ℕ) (hnow : s.now ≤ now) :
    (∀ username password ip random,
      (authLogin sha256 s.config now random username password ip s.auth).2.isSome = true ↔
        (authIsLockedOut now ip s.auth.hosts).2 = false ∧ username = s.config.authUser ∧
          s.config.checkPassword sha256 password = true) ∧
    ∀ token, (authValidateSession now token s.auth.sessions).2 = true ↔
      Lease.Held authSessionTimeoutS (leases es) token now := by
  -- no token is granted twice in any shorter run either
  have hinv : StoreInv (leases es) s.now s.auth.sessions := by
    apply hrun.history (I := fun es s => StoreInv (leases es) s.now s.auth.sessions)
      (P := fun es => (grants (leases es)).Nodup)
    · intro es fs h
      simp only [leases, grants, List.filterMap_append] at h
      exact (List.nodup_append.mp h).1
    · rw [h₀]
      exact storeInv_init s₀.now
    · intro es t a u fs hfresh hinv hstep
      obtain ⟨htime, rfl, rfl⟩ := authStep_some hstep
      rw [authCall_now]
      exact authCall_storeInv (s := { t with now := a.time }) (hinv.advance htime) a.call hfresh
    · exact hfresh
  constructor
  · intro username password ip random
    generalize hauth : (authLogin sha256 s.config now random username password ip s.auth).1 = auth
    generalize htoken :
      (authLogin sha256 s.config now random username password ip s.auth).2 = token
    have hcase := authLogin_cases sha256 s.config now random username password ip s.auth
    rw [hauth, htoken] at hcase
    cases hcase with
    | refused hlocked => simp [hlocked]
    | failed hlocked hcred =>
        have hbad : ¬ (username = s.config.authUser ∧
            s.config.checkPassword sha256 password = true) := by
          simpa [credentialsOk] using hcred
        simp [hlocked, hbad]
    | accepted hlocked hcred => simpa [credentialsOk, hlocked] using hcred
  · intro token
    rw [(hinv.advance hnow).validate_iff, Lease.held_iff hfresh hinv.prompt]

/-- A login and a use of its token, seen ten seconds later. -/
theorem session_table_refines_store_admin :
    ∃ s es, (authMachine zeroDigest).Run adminBoot
      [⟨10, .login (cstr "admin") (cstr "admin") none (Vector.replicate 32 7)⟩,
        ⟨20, .validate (generateToken (Vector.replicate 32 7))⟩] es s ∧
      ∀ token, (authValidateSession 30 token s.auth.sessions).2 = true ↔
        Lease.Held authSessionTimeoutS (leases es) token 30 := by
  have hrun : (authMachine zeroDigest).Run adminBoot
      [⟨10, .login (cstr "admin") (cstr "admin") none (Vector.replicate 32 7)⟩,
        ⟨20, .validate (generateToken (Vector.replicate 32 7))⟩] _ _ := .of_exec rfl
  exact ⟨_, _, hrun, (session_table_refines_store adminBoot_init hrun (by decide) 30 (by decide)).2⟩

end WebTerminal
