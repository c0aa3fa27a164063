import WebTerminal.Auth.Eviction
import WebTerminal.Server.IdleExpiry
import WebTerminal.Server.RouteRules

/-!
# A session in use stays

A token is good for an hour after each use.  Four things end its session before: a
logout with it, a change of the credentials, an hour without use, and a login that
finds the table full and takes the slot of the session that was not used for longest.
The last one takes three other sessions that were all used in the same second or later.
This is so once the first second after the boot is over, since `auth_login` takes an
`oldest_time` of 0 for none seen yet, and as long as no two logins draw the same token.

`Ledger` ties the table to the history: every session in it was handed out once and was
last used when the history says so.
-/

set_option autoImplicit false

namespace WebTerminal

open Proc

/-- The token was accepted or handed out at this time. -/
def UsedAt (token : CString) (time : ℕ) (es : List Event) : Prop :=
  .accepted token time ∈ es ∨ .issued token time ∈ es

/-- The token was used in this second or later. -/
def UsedSince (second : ℕ) (es : List Event) (token : CString) : Prop :=
  ∃ time, UsedAt token time es ∧ second ≤ time / 1000000

/-- The tokens that logins returned, oldest first. -/
def issuedTokens (es : List Event) : List CString :=
  es.filterMap fun
    | .issued token _ => some token
    | _ => none

/-- The table against the history. -/
structure Ledger (h : List Event) (d : Device) : Prop where
  issued : ∀ i, (d.auth.sessions i).active = true → (d.auth.sessions i).token ∈ issuedTokens h
  used : ∀ i, (d.auth.sessions i).active = true →
    ∃ time, UsedAt (d.auth.sessions i).token time h ∧
      time / 1000000 = (d.auth.sessions i).lastActivity
  stamped : ∀ i, (d.auth.sessions i).active = true → (d.auth.sessions i).lastActivity ≠ 0
  distinct : ∀ i j, (d.auth.sessions i).active = true → (d.auth.sessions j).active = true →
    (d.auth.sessions i).token = (d.auth.sessions j).token → i = j

/-- The session of the token was last used in this second or later. -/
def Lasting (token : CString) (second : ℕ) (sessions : Sessions) : Prop :=
  ∃ i, (sessions i).active = true ∧ (sessions i).token = token ∧
    second ≤ (sessions i).lastActivity

/-- Less than three other tokens were used in this second or later. -/
def Uncrowded (token : CString) (second : ℕ) (es : List Event) : Prop :=
  ∀ others : List CString, others.Nodup → (∀ other ∈ others, other ≠ token) →
    (∀ other ∈ others, UsedSince second es other) → others.length < 3

/-! ## The history -/

section

variable {token : CString} {time second : ℕ} {es fs : List Event}

theorem UsedAt.append_right (h : UsedAt token time es) (fs : List Event) :
    UsedAt token time (es ++ fs) :=
  h.imp (List.mem_append_left _) (List.mem_append_left _)

theorem UsedAt.append_left (h : UsedAt token time fs) (es : List Event) :
    UsedAt token time (es ++ fs) :=
  h.imp (List.mem_append_right _) (List.mem_append_right _)

theorem UsedSince.append_right (h : UsedSince second es token) (fs : List Event) :
    UsedSince second (es ++ fs) token := by
  obtain ⟨time, hused, hsecond⟩ := h
  exact ⟨time, hused.append_right fs, hsecond⟩

theorem issuedTokens_append (es fs : List Event) :
    issuedTokens (es ++ fs) = issuedTokens es ++ issuedTokens fs := List.filterMap_append

theorem mem_issuedTokens : token ∈ issuedTokens es ↔ ∃ time, .issued token time ∈ es := by
  unfold issuedTokens
  rw [List.mem_filterMap]
  constructor
  · rintro ⟨e, he, htoken⟩
    cases e with
    | issued token' time => cases htoken; exact ⟨time, he⟩
    | _ => cases htoken
  · rintro ⟨time, hmem⟩
    exact ⟨_, hmem, rfl⟩

theorem Uncrowded.of_append (h : Uncrowded token second (es ++ fs)) : Uncrowded token second es :=
  fun others hnodup hothers hused =>
    h others hnodup hothers fun other hother => (hused other hother).append_right fs

/-- What is issued after a history was not issued before. -/
theorem fresh_of_nodup (h : (issuedTokens (es ++ fs)).Nodup) (hissued : .issued token time ∈ fs) :
    token ∉ issuedTokens es := by
  rw [issuedTokens_append] at h
  intro hmem
  exact (List.nodup_append.mp h).2.2 _ hmem _ (mem_issuedTokens.mpr ⟨time, hissued⟩) rfl

end

/-! ## The table over one call -/

section

variable {pf : Platform} {env : Env} {d d' : Device} {call : Call} {h es : List Event}
  {token : CString} {second : ℕ}

/-- The table after a login. -/
def LoggedIn (env : Env) (d : Device) (es : List Event) (d' : Device) : Prop :=
  ∃ random, es = [.issued (generateToken random) env.now] ∧
    d'.auth.sessions = (openSession env.monoNow random d.auth.sessions).1

/-- No session is new. -/
def NoneNew (d : Device) (es : List Event) (d' : Device) : Prop :=
  (∀ token time, .issued token time ∉ es) ∧ ∀ i, (d'.auth.sessions i).active = true →
    (d.auth.sessions i).active = true ∧ (d'.auth.sessions i).token = (d.auth.sessions i).token

theorem noneNew_refl (d : Device) : NoneNew d [] d := ⟨by simp, fun _ hi => ⟨hi, rfl⟩⟩

theorem NoneNew.trans {d'' : Device} {fs : List Event} (hfirst : NoneNew d es d')
    (hsecond : NoneNew d' fs d'') : NoneNew d (es ++ fs) d'' := by
  refine ⟨fun token time hmem => ?_, fun i hi => ?_⟩
  · rcases List.mem_append.mp hmem with hmem | hmem
    · exact hfirst.1 token time hmem
    · exact hsecond.1 token time hmem
  · obtain ⟨hi', htoken'⟩ := hsecond.2 i hi
    obtain ⟨hi'', htoken⟩ := hfirst.2 i hi'
    exact ⟨hi'', htoken'.trans htoken⟩

theorem noneNew_checked (env : Env) (token : CString) (d : Device)
    (hes : ∀ token time, .issued token time ∉ es) : NoneNew d es (d.checked env token) :=
  ⟨hes, fun _ hi => authValidateSession_active hi⟩

theorem Precheck.noneNew {req : Request} (hpre : Precheck pf env req d d' es) :
    NoneNew d es d' := by
  cases hpre with
  | none => exact noneNew_refl d
  | rejected => exact noneNew_checked env _ d (by simp)

theorem RevalidateCase.noneNew {i : Fin maxWsClients} (hcase : RevalidateCase env i d d' es) :
    NoneNew d es d' := by
  cases hcase with
  | skipped => exact noneNew_refl d
  | accepted => exact noneNew_checked env _ d (by simp)
  | rejected => exact noneNew_checked env _ d (by simp)

/-- What a call does to the table: a login puts a session in, everything else changes
those that are there. -/
theorem CallCase.table (hcase : CallCase pf env d call d' es) :
    LoggedIn env d es d' ∨ NoneNew d es d' := by
  cases hcase with
  | idle => exact .inr (noneNew_refl d)
  | checked hpre =>
      refine .inr (hpre.noneNew.trans (noneNew_checked env _ _ fun token time hmem => ?_))
      unfold validation at hmem
      split at hmem <;> simp at hmem
  | worked => exact .inr (noneNew_checked env _ d (by simp))
  | revoked =>
      refine .inr ⟨by simp, fun i hi => ?_⟩
      cases hi
  | reissued => exact .inr (noneNew_checked env _ d (by simp))
  | hosts => exact .inr ⟨by simp, fun _ hi => ⟨hi, rfl⟩⟩
  | loggedIn => exact .inl ⟨_, rfl, rfl⟩
  | loggedOut =>
      refine .inr ⟨by simp, fun i hi => ?_⟩
      have hsame := authLogout_active hi
      exact ⟨hsame ▸ hi, congrArg Session.token hsame⟩
  | registered hpre =>
      exact .inr (hpre.noneNew.trans (noneNew_checked env _ _ (by simp)))
  | socketEvicted => exact .inr (noneNew_checked env _ d (by simp))
  | socketKept => exact .inr (noneNew_checked env _ d (by simp))
  | socketRemoved => exact .inr (noneNew_checked env _ d (by simp))
  | relayed => exact .inr (noneNew_checked env _ d (by simp))
  | closed => exact .inr ⟨by simp, fun _ hi => ⟨hi, rfl⟩⟩
  | @flushed frames =>
      obtain ⟨d₁, es, fs, hshown, hchecks, hpushes⟩ := flushWork_chains env frames d
      rw [hshown]
      refine .inr ?_
      have hchecked := hchecks.invariant (I := fun h d₂ => NoneNew d h d₂)
        (fun _ _ _ _ _ hs hlink => hs.trans hlink.noneNew) (noneNew_refl d)
      refine hpushes.invariant (I := fun h d₂ => NoneNew d h d₂) ?_ hchecked
      intro frame h d₂ es d₃ hs hlink
      refine hs.trans ⟨fun token time hmem => ?_, fun i hi => ?_⟩
      · rw [hlink.2] at hmem
        simp at hmem
      · rw [hlink.1] at hi ⊢
        exact ⟨hi, rfl⟩
  | background => exact .inr ⟨by simp, fun _ hi => ⟨hi, rfl⟩⟩

/-- Where a login puts the new session, and what it leaves elsewhere. -/
theorem openSession_slots (now : ℕ) (random : Vector UInt8 authSessionTokenLen)
    (sessions : Sessions) : ∃ slot,
      (openSession now random sessions).1 slot = ⟨generateToken random, now, true⟩ ∧
        ∀ i, i ≠ slot → ((openSession now random sessions).1 i).active = true →
          (openSession now random sessions).1 i = sessions i := by
  refine ⟨(loginSlot now sessions).2, Function.update_self _ _ _, fun i hne hi => ?_⟩
  have hi' : (openSession now random sessions).1 i = (loginSlot now sessions).1 i :=
    Function.update_of_ne hne _ _
  rcases (loginSlot_spec now sessions).kept i with heq | ⟨-, hended⟩
  · exact hi'.trans heq
  · rw [hi', hended] at hi
    cases hi

/-- A call keeps the table in line with the history. -/
theorem CallCase.ledger (hd : Ledger h d) (htokens : SessionTokens d)
    (hfresh : (issuedTokens (h ++ es)).Nodup) (hclock : env.monoNow ≠ 0)
    (hcase : CallCase pf env d call d' es) : Ledger (h ++ es) d' := by
  have hkept := hcase.kept htokens
  have hused : ∀ i, (d'.auth.sessions i).active = true →
      ∃ time, UsedAt (d'.auth.sessions i).token time (h ++ es) ∧
        time / 1000000 = (d'.auth.sessions i).lastActivity := by
    intro i hi
    rcases hkept.sessions i hi with heq | ⟨hlast, hnow⟩
    · rw [heq] at hi ⊢
      obtain ⟨time, hused, htime⟩ := hd.used i hi
      exact ⟨time, hused.append_right es, htime⟩
    · exact ⟨env.now, UsedAt.append_left hnow h, hlast.symm⟩
  have hstamped : ∀ i, (d'.auth.sessions i).active = true →
      (d'.auth.sessions i).lastActivity ≠ 0 := by
    intro i hi
    rcases hkept.sessions i hi with heq | ⟨hlast, -⟩
    · rw [heq] at hi ⊢
      exact hd.stamped i hi
    · rwa [hlast]
  rcases hcase.table with ⟨random, rfl, hopened⟩ | ⟨-, hsame⟩
  · have hnew : generateToken random ∉ issuedTokens h :=
      fresh_of_nodup hfresh (List.mem_singleton_self _)
    obtain ⟨slot, htaken, hothers⟩ := openSession_slots env.monoNow random d.auth.sessions
    rw [← hopened] at htaken hothers
    -- a session in another slot is an old one, whose token is not the new one
    have hold : ∀ i, i ≠ slot → (d'.auth.sessions i).active = true →
        (d.auth.sessions i).active = true ∧
          (d'.auth.sessions i).token = (d.auth.sessions i).token := by
      intro i hne hi
      have hsame := hothers i hne hi
      exact ⟨hsame ▸ hi, congrArg Session.token hsame⟩
    have hdiffer : ∀ i, i ≠ slot → (d'.auth.sessions i).active = true →
        (d'.auth.sessions i).token ≠ generateToken random := by
      intro i hne hi htoken
      obtain ⟨hi', hsame⟩ := hold i hne hi
      exact hnew (htoken ▸ hsame ▸ hd.issued i hi')
    refine ⟨fun i hi => ?_, hused, hstamped, fun i j hi hj htoken => ?_⟩
    · rw [issuedTokens_append]
      by_cases hne : i = slot
      · rw [hne, htaken]
        exact List.mem_append_right _ (List.mem_singleton_self _)
      · obtain ⟨hi', hsame⟩ := hold i hne hi
        exact List.mem_append_left _ (hsame ▸ hd.issued i hi')
    · by_cases hne : i = slot
      · by_contra hij
        have hne' : j ≠ slot := fun hj' => hij (hne.trans hj'.symm)
        refine hdiffer j hne' hj ?_
        rw [← htoken, hne, htaken]
      · by_cases hne' : j = slot
        · refine absurd ?_ (hdiffer i hne hi)
          rw [htoken, hne', htaken]
        · obtain ⟨hi', hti⟩ := hold i hne hi
          obtain ⟨hj', htj⟩ := hold j hne' hj
          exact hd.distinct i j hi' hj' (hti.symm.trans (htoken.trans htj))
  · refine ⟨fun i hi => ?_, hused, hstamped, fun i j hi hj htoken => ?_⟩
    · obtain ⟨hi', htoken⟩ := hsame i hi
      rw [htoken, issuedTokens_append]
      exact List.mem_append_left _ (hd.issued i hi')
    · obtain ⟨hi', hti⟩ := hsame i hi
      obtain ⟨hj', htj⟩ := hsame j hj
      exact hd.distinct i j hi' hj' (hti.symm.trans (htoken.trans htj))

/-! ## What a session survives -/

variable {now : ℕ} {sessions : Sessions}

/-- A session that was used within the timeout is not idle. -/
theorem not_idle_of_recent {session : Session} (hlast : second ≤ session.lastActivity)
    (hgap : now ≤ second + authSessionTimeoutS) : session.idle now = false := by
  unfold Session.idle
  rw [decide_eq_false_iff_not]
  omega

/-- The check of any token leaves a recent session there. -/
theorem Lasting.checked (hl : Lasting token second sessions)
    (hgap : now ≤ second + authSessionTimeoutS) (hpast : second ≤ now) (other : CString) :
    Lasting token second (authValidateSession now other sessions).1 := by
  obtain ⟨i, hi, htoken, hlast⟩ := hl
  have hcases := authValidateSession_cases now other sessions
  generalize (authValidateSession now other sessions).1 = sessions' at hcases ⊢
  generalize (authValidateSession now other sessions).2 = ok at hcases
  refine ⟨i, ?_⟩
  cases hcases with
  | unknown => exact ⟨hi, htoken, hlast⟩
  | @expired j _ _ hidle =>
      have hne : i ≠ j := by
        rintro rfl
        rw [not_idle_of_recent hlast hgap] at hidle
        cases hidle
      rw [endSession_of_ne hne]
      exact ⟨hi, htoken, hlast⟩
  | @accepted j =>
      by_cases hij : i = j
      · subst hij
        rw [Function.update_self]
        exact ⟨hi, htoken, hpast⟩
      · rw [Function.update_of_ne hij]
        exact ⟨hi, htoken, hlast⟩

/-- A logout ends the session of its own token. -/
theorem Lasting.loggedOut (hl : Lasting token second sessions) {other : CString}
    (hne : other ≠ token) : Lasting token second (authLogout other sessions) := by
  obtain ⟨i, hi, htoken, hlast⟩ := hl
  unfold authLogout
  cases hfind : findToken other sessions with
  | none => exact ⟨i, hi, htoken, hlast⟩
  | some j =>
      have hij : i ≠ j := by
        rintro rfl
        exact hne ((findToken_some hfind).2.symm.trans htoken)
      refine ⟨i, ?_⟩
      dsimp only
      rw [endSession_of_ne hij]
      exact ⟨hi, htoken, hlast⟩

/-- A login takes the slot of a recent session only if the three others are as recent. -/
theorem Lasting.loggedIn (hl : Lasting token second d.auth.sessions) (hd : Ledger h d)
    (hgap : now ≤ second + authSessionTimeoutS) (hcalm : Uncrowded token second h)
    (random : Vector UInt8 authSessionTokenLen) :
    Lasting token second (openSession now random d.auth.sessions).1 := by
  obtain ⟨i, hi, htoken, hlast⟩ := hl
  have hopen : (openSession now random d.auth.sessions).1 =
      Function.update (loginSlot now d.auth.sessions).1 (loginSlot now d.auth.sessions).2
        ⟨generateToken random, now, true⟩ := rfl
  have hnotIdle := not_idle_of_recent hlast hgap
  have hslots := loginSlot_cases now d.auth.sessions
  have hminimal := @loginSlot_minimal_iff now d.auth.sessions
  rw [hopen]
  generalize (loginSlot now d.auth.sessions).1 = sessions' at hslots ⊢
  generalize (loginSlot now d.auth.sessions).2 = slot at hslots hminimal ⊢
  cases hslots with
  | free _ hkept hfree =>
      have hsame : sessions' i = d.auth.sessions i := by
        refine (hkept i).resolve_right fun ⟨hidle, _⟩ => ?_
        rw [hnotIdle] at hidle
        cases hidle
      have hne : i ≠ slot := by
        rintro rfl
        rw [hsame, hi] at hfree
        cases hfree
      refine ⟨i, ?_⟩
      rw [Function.update_of_ne hne, hsame]
      exact ⟨hi, htoken, hlast⟩
  | evict _ hlive =>
      have hactive : ∀ j, (d.auth.sessions j).active = true := fun j =>
        (Bool.and_eq_true_iff.mp (hlive j)).1
      by_cases hne : i = slot
      · -- the three others are at least as recent
        subst hne
        have hleast := (hminimal hlive).mpr (.inr (.inl fun j => hd.stamped j (hactive j)))
        have hothers := hcalm
          (((List.finRange authMaxSessions).filter (· ≠ i)).map fun j => (d.auth.sessions j).token)
          ?_ ?_ ?_
        · revert hothers
          rw [List.length_map]
          intro hshort
          have hthree : ∀ i : Fin authMaxSessions,
              ((List.finRange authMaxSessions).filter (· ≠ i)).length = 3 := by decide
          rw [hthree i] at hshort
          exact absurd hshort (Nat.lt_irrefl 3)
        · refine ((List.nodup_finRange _).filter _).map_on fun j _ k _ heq => ?_
          exact hd.distinct j k (hactive j) (hactive k) heq
        · intro other hother
          obtain ⟨j, hj, rfl⟩ := List.mem_map.mp hother
          have hji : j ≠ i := by simpa using (List.mem_filter.mp hj).2
          exact fun heq => hji (hd.distinct j i (hactive j) hi (heq.trans htoken.symm))
        · intro other hother
          obtain ⟨j, -, rfl⟩ := List.mem_map.mp hother
          obtain ⟨time, hused, htime⟩ := hd.used j (hactive j)
          exact ⟨time, hused, htime ▸ hlast.trans (hleast j)⟩
      · refine ⟨i, ?_⟩
        rw [Function.update_of_ne hne]
        exact ⟨hi, htoken, hlast⟩

end

/-! ## Who ends sessions -/

/-- Events that say that a session may have ended. -/
def Event.closing : Event → Bool
  | .rejected .. | .issued .. | .credentialsChanged => true
  | _ => false

/-- No session ends unseen. -/
def EndsSeen (d : Device) (es : List Event) (d' : Device) : Prop :=
  ∀ i, (d.auth.sessions i).active = true →
    (d'.auth.sessions i).active = true ∨ ∃ e ∈ es, e.closing = true

theorem endsSeen_of_eq {d d' : Device} (es : List Event)
    (hsame : d'.auth.sessions = d.auth.sessions) : EndsSeen d es d' :=
  fun _ hi => .inl (hsame ▸ hi)

theorem endsSeen_composes : Composes EndsSeen where
  refl d := endsSeen_of_eq [] rfl
  trans h h' i hi := by
    rcases h i hi with hi' | ⟨e, he, hclosing⟩
    · exact (h' i hi').imp id fun ⟨e, he, hclosing⟩ => ⟨e, List.mem_append_right _ he, hclosing⟩
    · exact .inr ⟨e, List.mem_append_left _ he, hclosing⟩

theorem endsSeen_rules (env : Env) : RouteRules env EndsSeen where
  composes := endsSeen_composes
  board _ _ _ := endsSeen_of_eq _ rfl
  reissue _ _ := endsSeen_of_eq _ rfl
  validate token := does_act fun d i hi => by
    dsimp only
    rw [Device.setSessions_sessions]
    have hcases := authValidateSession_cases env.monoNow token d.auth.sessions
    generalize (authValidateSession env.monoNow token d.auth.sessions).1 = sessions at hcases ⊢
    generalize (authValidateSession env.monoNow token d.auth.sessions).2 = ok at hcases ⊢
    cases hcases with
    | unknown => exact .inl hi
    | expired => exact .inr ⟨_, List.mem_singleton_self _, rfl⟩
    | @accepted j _ hj =>
        by_cases hij : i = j
        · subst hij
          rw [Function.update_self]
          exact .inl hi
        · rw [Function.update_of_ne hij]
          exact .inl hi

/-- A request that is no logout ends no session unseen. -/
theorem handler_endsSeen (pf : Platform) (env : Env) {req : Request}
    (hroute : req.route ≠ .logout) :
    Does EndsSeen (handler pf env req) := by
  have hrules := endsSeen_rules env
  have hlockout : ∀ ip, Does EndsSeen (isLockedOut env ip) :=
    fun _ => does_act fun _ => endsSeen_of_eq _ rfl
  have hlogin : ∀ random username password ip,
      Does EndsSeen (loginSession pf env random username password ip) := by
    intro random username password ip
    refine does_act fun d => ?_
    have hcases := authLogin_cases pf.sha256 d.board.config env.monoNow random username password ip
      d.auth
    dsimp only
    generalize
      (authLogin pf.sha256 d.board.config env.monoNow random username password ip d.auth).1 =
      auth at hcases ⊢
    generalize
      (authLogin pf.sha256 d.board.config env.monoNow random username password ip d.auth).2 =
      token at hcases ⊢
    cases hcases with
    | refused => exact endsSeen_of_eq _ rfl
    | failed => exact endsSeen_of_eq _ rfl
    | accepted => exact fun _ _ => .inr ⟨_, List.mem_singleton_self _, rfl⟩
  have hrevoke : Does EndsSeen revokeAll :=
    does_act fun d i hi => .inr ⟨.credentialsChanged, by simp, rfl⟩
  have hadd : ∀ fd port token, Does EndsSeen (addClient env fd port token) :=
    fun _ _ _ => does_act fun _ => endsSeen_of_eq _ rfl
  exact hrules.handler (fun _ => hrules.handleLogin hlockout hlogin)
    (fun hlogout => absurd hlogout hroute) (fun _ => hrules.handleConfigPost hrevoke)
    fun _ => hrules.handleWsHandshake hadd

/-! ## Over a run -/

section

variable {pf : Platform} {env : Env} {d d' : Device} {call : Call} {h es fs : List Event}
  {token : CString} {second : ℕ}

theorem Precheck.lasting {req : Request} (hpre : Precheck pf env req d d' es)
    (hl : Lasting token second d.auth.sessions) (hgap : env.monoNow ≤ second + authSessionTimeoutS)
    (hpast : second ≤ env.monoNow) : Lasting token second d'.auth.sessions := by
  cases hpre with
  | none => exact hl
  | rejected => exact hl.checked hgap hpast _

theorem RevalidateCase.lasting {i : Fin maxWsClients} (hcase : RevalidateCase env i d d' es)
    (hl : Lasting token second d.auth.sessions) (hgap : env.monoNow ≤ second + authSessionTimeoutS)
    (hpast : second ≤ env.monoNow) : Lasting token second d'.auth.sessions := by
  cases hcase with
  | skipped => exact hl
  | accepted => exact hl.checked hgap hpast _
  | rejected => exact hl.checked hgap hpast _

/-- A call spares a recent session, if it does not log it out, does not change the
credentials and finds less than three others as recent. -/
theorem CallCase.lasting (hcase : CallCase pf env d call d' es)
    (hl : Lasting token second d.auth.sessions) (hd : Ledger h d)
    (hgap : env.monoNow ≤ second + authSessionTimeoutS) (hpast : second ≤ env.monoNow)
    (hcalm : Uncrowded token second h)
    (hlogout : ∀ req, call = .request req → req.route = .logout → ¬req.offers pf env token)
    (hseen : ∀ req, call = .request req → req.route ≠ .logout → EndsSeen d es d')
    (hkept : .credentialsChanged ∉ es) : Lasting token second d'.auth.sessions := by
  cases hcase with
  | idle => exact hl
  | checked hpre => exact (hpre.lasting hl hgap hpast).checked hgap hpast _
  | worked => exact hl.checked hgap hpast _
  | revoked => exact absurd (by simp) hkept
  | reissued => exact hl.checked hgap hpast _
  | hosts => exact hl
  | @loggedIn req hosts random => exact hl.loggedIn hd hgap hcalm random
  | @loggedOut req other hoffers =>
      by_cases hroute : req.route = .logout
      · refine hl.loggedOut ?_
        rintro rfl
        exact hlogout req rfl hroute hoffers
      · -- elsewhere nothing would have been ended without a word
        obtain ⟨i, hi, htoken, hlast⟩ := hl
        have hends := hseen req rfl hroute
        have hi' := (hends i hi).resolve_right (by simp)
        have hsame := authLogout_active hi'
        exact ⟨i, hi', (congrArg Session.token hsame).trans htoken,
          hlast.trans (congrArg Session.lastActivity hsame).ge⟩
  | registered hpre => exact (hpre.lasting hl hgap hpast).checked hgap hpast _
  | socketEvicted => exact hl.checked hgap hpast _
  | socketKept => exact hl.checked hgap hpast _
  | socketRemoved => exact hl.checked hgap hpast _
  | relayed => exact hl.checked hgap hpast _
  | closed => exact hl
  | @flushed frames =>
      obtain ⟨d₁, es, fs, -, hchecks, hpushes⟩ := flushWork_chains env frames d
      have hchecked := hchecks.invariant
        (I := fun _ d₂ => Lasting token second d₂.auth.sessions)
        (fun _ _ _ _ _ hs hlink => hlink.lasting hs hgap hpast) (h := []) hl
      refine hpushes.invariant (I := fun _ d₂ => Lasting token second d₂.auth.sessions) ?_
        (h := []) hchecked
      intro frame h d₂ es d₃ hs hlink
      rw [hlink.1]
      exact hs
  | background => exact hl

theorem lasting_of_validates (hvalid : d.validates env token = true) :
    Lasting token env.monoNow (d.checked env token).auth.sessions := by
  have hcases := authValidateSession_cases env.monoNow token d.auth.sessions
  unfold Device.validates at hvalid
  unfold Device.checked
  rw [hvalid] at hcases
  rw [Device.setSessions_sessions]
  generalize (authValidateSession env.monoNow token d.auth.sessions).1 = sessions at hcases ⊢
  cases hcases with
  | @accepted i _ hi htoken =>
      refine ⟨i, ?_⟩
      rw [Function.update_self]
      exact ⟨hi, htoken, le_rfl⟩

/-- The check of a token that shows that a token was accepted. -/
theorem lasting_of_validation {other : CString} {time : ℕ}
    (hused : UsedAt token time [validation other env.now (d.validates env other)]) :
    Lasting token env.monoNow (d.checked env other).auth.sessions := by
  unfold validation at hused
  cases hvalid : d.validates env other with
  | false =>
      rw [hvalid] at hused
      rcases hused with hmem | hmem <;> simp at hmem
  | true =>
      rw [hvalid] at hused
      rcases hused with hmem | hmem
      · obtain ⟨rfl, -⟩ : token = other ∧ time = env.now := by simpa using hmem
        exact lasting_of_validates hvalid
      · simp at hmem

theorem lasting_of_accepted {other : CString} {time : ℕ} {rest : List Event}
    (hvalid : d.validates env other = true)
    (hused : UsedAt token time (.accepted other env.now :: rest))
    (hrest : ∀ token time, ¬UsedAt token time rest) :
    Lasting token env.monoNow (d.checked env other).auth.sessions := by
  have hfirst : UsedAt token time [.accepted other env.now] := by
    rcases hused with hmem | hmem
    · exact .inl (List.mem_singleton.mpr ((List.mem_cons.mp hmem).resolve_right
        fun hin => hrest token time (.inl hin)))
    · exact .inr (List.mem_singleton.mpr ((List.mem_cons.mp hmem).resolve_right
        fun hin => hrest token time (.inr hin)))
  have hchecked : UsedAt token time [validation other env.now (d.validates env other)] := by
    rw [hvalid]
    exact hfirst
  exact lasting_of_validation hchecked

theorem Precheck.not_usedAt {req : Request} (hpre : Precheck pf env req d d' es) (token : CString)
    (time : ℕ) : ¬UsedAt token time es := by
  cases hpre <;> simp [UsedAt]

theorem UsedAt.of_append {time : ℕ} (hused : UsedAt token time (es ++ fs))
    (hes : ¬UsedAt token time es) : UsedAt token time fs := by
  unfold UsedAt at hused hes ⊢
  simp only [List.mem_append] at hused
  tauto

/-- A token that was used in a call has a recent session after it, unless the call
changed the credentials. -/
theorem CallCase.lasting_of_used {time : ℕ} (hcase : CallCase pf env d call d' es)
    (hused : UsedAt token time es) (hkept : .credentialsChanged ∉ es) :
    Lasting token env.monoNow d'.auth.sessions := by
  cases hcase with
  | idle => exact absurd hused (by simp [UsedAt])
  | checked hpre => exact lasting_of_validation (hused.of_append (hpre.not_usedAt token time))
  | worked _ hvalid => exact lasting_of_accepted hvalid hused fun _ _ => by simp [UsedAt]
  | revoked => exact absurd (by simp) hkept
  | reissued _ hvalid => exact lasting_of_accepted hvalid hused fun _ _ => by simp [UsedAt]
  | hosts => exact absurd hused (by simp [UsedAt])
  | @loggedIn req hosts random =>
      -- the use is the login itself
      obtain ⟨rfl, -⟩ : token = generateToken random ∧ time = env.now := by
        simpa [UsedAt] using hused
      obtain ⟨slot, hslot, -⟩ := openSession_slots env.monoNow random d.auth.sessions
      refine ⟨slot, ?_⟩
      rw [Device.setSessions_sessions, hslot]
      exact ⟨rfl, rfl, le_rfl⟩
  | loggedOut => exact absurd hused (by simp [UsedAt])
  | registered hpre _ hvalid =>
      -- the rejected cookie before it is no use of a token
      exact lasting_of_accepted hvalid (hused.of_append (hpre.not_usedAt token time))
        fun _ _ => by simp [UsedAt]
  | socketEvicted => exact absurd hused (by simp [UsedAt])
  | socketKept _ hvalid => exact lasting_of_accepted hvalid hused fun _ _ => by simp [UsedAt]
  | socketRemoved _ hvalid => exact lasting_of_accepted hvalid hused fun _ _ => by simp [UsedAt]
  | relayed _ hvalid => exact lasting_of_accepted hvalid hused fun _ _ => by simp [UsedAt]
  | closed => exact absurd hused (by simp [UsedAt])
  | @flushed frames =>
      obtain ⟨d₁, es, fs, hshown, hchecks, hpushes⟩ := flushWork_chains env frames d
      rw [hshown] at hused
      -- of each client of the flush: its token was used before, or is used now
      have hchecked := hchecks.invariant
        (I := fun h d₂ => ∀ time, UsedAt token time h →
          Lasting token env.monoNow d₂.auth.sessions) (fun i h d₂ es d₃ hs hlink time hused => by
          by_cases hold : UsedAt token time h
          · exact hlink.lasting (hs time hold) (Nat.le_add_right _ _) le_rfl
          · have hnew := hused.of_append hold
            cases hlink with
            | skipped => exact absurd hnew (by simp [UsedAt])
            | accepted _ _ hvalid =>
                exact lasting_of_accepted hvalid hnew fun _ _ => by simp [UsedAt]
            | rejected => exact absurd hnew (by simp [UsedAt])) (h := [])
        fun time hused => absurd hused (by simp [UsedAt])
      refine hpushes.invariant (I := fun h d₂ => ∀ time, UsedAt token time h →
          Lasting token env.monoNow d₂.auth.sessions)
        (fun frame h d₂ es d₃ hs hlink time hused => ?_)
        hchecked time hused
      -- a send uses no token
      have hnone : ¬UsedAt token time es := by
        rw [hlink.2]
        simp [UsedAt]
      have hold : UsedAt token time h := by
        by_contra hold
        exact hnone (hused.of_append hold)
      rw [hlink.1]
      exact hs time hold
  | background => exact absurd hused (by simp [UsedAt])

end

section

variable {pf : Platform} {s t u v : System} {a : Action} {pre as : List Action}
  {h es fs : List Event} {token : CString} {second : ℕ}

theorem Ledger.append {d : Device} (hd : Ledger h d) (es : List Event) : Ledger (h ++ es) d where
  issued i hi := by
    rw [issuedTokens_append]
    exact List.mem_append_left _ (hd.issued i hi)
  used i hi := by
    obtain ⟨time, hused, htime⟩ := hd.used i hi
    exact ⟨time, hused.append_right es, htime⟩
  stamped := hd.stamped
  distinct := hd.distinct

theorem ledger_init (hs : s.Init) : Ledger [] s.device := by
  have hnone : ∀ i, (s.device.auth.sessions i).active ≠ true := fun i hi => by
    rw [hs.auth] at hi
    cases hi
  exact ⟨fun i hi => absurd hi (hnone i), fun i hi => absurd hi (hnone i),
    fun i hi => absurd hi (hnone i), fun i _ hi => absurd hi (hnone i)⟩

/-- In every run of a device that took a second to boot, the table is in line with the
history. -/
theorem ledger_run (hs : s.Init) (hboot : 1000000 ≤ s.now) (hrun : (systemMachine pf).Run s as es t)
    (hfresh : (issuedTokens es).Nodup) : Ledger es t.device := by
  induction hrun with
  | nil => exact ledger_init hs
  | snoc hrun hstep ih =>
      rw [issuedTokens_append] at hfresh
      have hbefore := ih (List.nodup_append.mp hfresh).1
      obtain ⟨-, htime, -, shown, answer, rfl, hcase⟩ := systemStep_cases hstep
      rw [← List.append_assoc]
      refine Ledger.append (hcase.ledger hbefore (SocketsInv.run hs hrun).tokens ?_ ?_) _
      · rw [issuedTokens_append]
        rw [issuedTokens_append, ← List.append_assoc] at hfresh
        exact (List.nodup_append.mp hfresh).1
      · have hlate := hboot.trans ((run_now_le hrun).trans htime)
        unfold Env.monoNow
        omega

/-- A step spares a recent session. -/
theorem step_lasting (hstep : (systemMachine pf).step s a = some (t, es))
    (hl : Lasting token second s.device.auth.sessions) (hd : Ledger h s.device)
    (hgap : a.env.monoNow ≤ second + authSessionTimeoutS) (hpast : second ≤ a.env.monoNow)
    (hcalm : Uncrowded token second h)
    (hlogout : ∀ req, a.call = .request req → req.route = .logout → ¬req.offers pf a.env token)
    (hkept : .credentialsChanged ∉ es) : Lasting token second t.device.auth.sessions := by
  obtain ⟨-, -, -, -, hdevice, hes⟩ := systemStep_some hstep
  have hends := ends_callHandler pf a.env s.device a.call
  rw [hdevice]
  refine hends.lasting hl hd hgap hpast hcalm hlogout (fun req hcall hroute => ?_) fun hmem =>
    hkept (by rw [hes]; exact List.mem_append_left _ hmem)
  obtain ⟨shown, hshown, hseen⟩ := handler_endsSeen pf a.env hroute s.device.start
  have hran : callHandler pf a.env a.call = handler pf a.env req := by rw [hcall]; rfl
  rw [hran, hshown]
  exact hseen

/-- A token with a recent session is accepted. -/
theorem Lasting.validates {d : Device} {env : Env} (hl : Lasting token second d.auth.sessions)
    (hd : Ledger h d) (htokens : SessionTokens d)
    (hgap : env.monoNow ≤ second + authSessionTimeoutS) : d.validates env token = true := by
  obtain ⟨i, hi, htoken, hlast⟩ := hl
  have hcases := authValidateSession_cases env.monoNow token d.auth.sessions
  unfold Device.validates
  generalize (authValidateSession env.monoNow token d.auth.sessions).1 = sessions at hcases
  generalize (authValidateSession env.monoNow token d.auth.sessions).2 = ok at hcases ⊢
  cases hcases with
  | accepted => rfl
  | @expired j hj htoken' hidle =>
      obtain rfl := hd.distinct i j hi hj (htoken.trans htoken'.symm)
      rw [not_idle_of_recent hlast hgap] at hidle
      cases hidle
  | unknown hunknown =>
      rcases hunknown with hnil | hnone
      · have hlength := htokens i hi
        rw [htoken, hnil] at hlength
        cases hlength
      · exact absurd htoken (hnone i hi)

/-- A recent session stays while nothing ends it. -/
theorem lasting_run (hs : s.Init) (hboot : 1000000 ≤ s.now)
    (hpre : (systemMachine pf).Run s pre h u)
    (hrun : (systemMachine pf).Run u as es t) (hfresh : (issuedTokens (h ++ es)).Nodup)
    (hl : Lasting token second u.device.auth.sessions) (hpast : second ≤ u.now / 1000000)
    (hgap : t.now / 1000000 ≤ second + authSessionTimeoutS)
    (hcalm : Uncrowded token second (h ++ es))
    (hlogout : ∀ v b, (systemMachine pf).Takes u as v b → ∀ req, b.call = .request req →
      req.route = .logout → ¬req.offers pf b.env token)
    (hkept : .credentialsChanged ∉ es) : Lasting token second t.device.auth.sessions := by
  induction hrun with
  | nil => exact hl
  | @snoc as es fs v w b hrun hstep ih =>
      rw [← List.append_assoc] at hfresh hcalm
      have hfresh' : (issuedTokens (h ++ es)).Nodup := by
        rw [issuedTokens_append] at hfresh
        exact (List.nodup_append.mp hfresh).1
      obtain ⟨-, htime, hnow, -⟩ := systemStep_cases hstep
      have hnow' : v.now / 1000000 ≤ w.now / 1000000 := Nat.div_le_div_right (hnow ▸ htime)
      have hbefore := ih hfresh' (hnow'.trans hgap) hcalm.of_append
        (fun x c htakes => hlogout x c htakes.snoc) fun hmem => hkept (List.mem_append_left _ hmem)
      have hlater : second ≤ b.env.monoNow := by
        unfold Env.monoNow
        rw [← hnow]
        exact (hpast.trans (Nat.div_le_div_right (run_now_le hrun))).trans hnow'
      exact step_lasting hstep hbefore (ledger_run hs hboot (hpre.append hrun) hfresh')
        (by unfold Env.monoNow; rw [← hnow]; exact hgap) hlater hcalm.of_append
        (hlogout v b (hrun.takes_last b)) fun hmem => hkept (List.mem_append_right _ hmem)

end

/-- After a token was used it opens every protected route for an hour, whatever happens
meanwhile: unless somebody logs out with it, the credentials are changed, or three other
tokens are used in the same second or later.  The run begins when the clock is at one second
or later (`hboot`), and the tokens it hands out are all different (`hfresh`). -/
theorem session_in_use_survives {pf : Platform} {s t u v : System} {a : Action}
    {pre as : List Action} {h es fs : List Event} {token : CString} (hs : s.Init)
    (hboot : 1000000 ≤ s.now) (hpre : (systemMachine pf).Run s pre h u)
    (hstep : (systemMachine pf).step u a = some (v, fs)) (hused : UsedAt token a.env.now fs)
    (hrun : (systemMachine pf).Run v as es t) (hfresh : (issuedTokens (h ++ fs ++ es)).Nodup)
    (hcalm : Uncrowded token a.env.monoNow (h ++ fs ++ es))
    (hlogout : ∀ w b, (systemMachine pf).Takes v as w b → ∀ req, b.call = .request req →
      req.route = .logout → ¬req.offers pf b.env token)
    (hkept : .credentialsChanged ∉ fs ++ es) {env : Env} {req : Request} (htime : t.now ≤ env.now)
    (hgap : env.monoNow ≤ a.env.monoNow + authSessionTimeoutS)
    (htoken : authGetTokenFromRequest env.heapTail req = some token) :
    ∃ w, requireAuth env req t.device.start = .ok () w := by
  obtain ⟨-, -, hnow, shown, answer, rfl, hcase⟩ := systemStep_cases hstep
  have hshown : UsedAt token a.env.now shown := by
    refine hused.imp (fun hmem => ?_) fun hmem => ?_
    · exact (List.mem_append.mp hmem).resolve_right (by simp)
    · exact (List.mem_append.mp hmem).resolve_right (by simp)
  have hstart : Lasting token a.env.monoNow v.device.auth.sessions :=
    hcase.lasting_of_used hshown fun hmem => hkept (by simp [hmem])
  have hlast : Lasting token a.env.monoNow t.device.auth.sessions := by
    refine lasting_run hs hboot (hpre.snoc hstep) hrun hfresh hstart ?_ ?_ hcalm hlogout
      fun hmem => hkept (List.mem_append_right _ hmem)
    · rw [hnow]
      rfl
    · exact (Nat.div_le_div_right htime).trans hgap
  have hruns := (hpre.snoc hstep).append hrun
  have hvalid := hlast.validates (ledger_run hs hboot hruns hfresh) (SocketsInv.run hs hruns).tokens
    hgap
  have hauth := requireAuth_cases env req t.device.start
  generalize requireAuth env req t.device.start = result at hauth ⊢
  cases hauth with
  | absent hnone => cases htoken.symm.trans hnone
  | invalid htoken' hinvalid =>
      obtain rfl := Option.some.inj (htoken.symm.trans htoken')
      cases hvalid.symm.trans hinvalid
  | valid => exact ⟨_, rfl⟩

/-- Events that use no other token. -/
def Event.ownUse (token : CString) : Event → Bool
  | .accepted token' _ | .issued token' _ => token' == token
  | _ => true

theorem uncrowded_of_ownUse {token : CString} {second : ℕ} {es : List Event}
    (hown : es.all (Event.ownUse token) = true) : Uncrowded token second es := by
  intro others _ hothers hused
  cases others with
  | nil => exact Nat.zero_lt_succ 2
  | cons other rest =>
      obtain ⟨time, hmem, -⟩ := hused other List.mem_cons_self
      refine absurd ?_ (hothers other List.mem_cons_self)
      rcases hmem with hmem | hmem
      · exact beq_iff_eq.mp (List.all_eq_true.mp hown _ hmem)
      · exact beq_iff_eq.mp (List.all_eq_true.mp hown _ hmem)

/-- The system a second after the boot. -/
def demoAwake : System := { demoSystem with now := second }

/-- A login and a flush; the token of the login opens a route an hour after it. -/
theorem session_in_use_survives_hour :
    ∃ t es, (systemMachine demoParser).Run demoAwake
        [demoLogin (2 * second), demoFlush (3 * second)] es t ∧
      ∃ w, requireAuth (demoEnv (3602 * second) [])
        { demoRequest .sysinfo 0 with authorization := some demoBearer } t.device.start =
          .ok () w := by
  obtain ⟨v, fs, t, es, hlogin, hflush, hfs, hes⟩ := Machine.Run.exists_of_exec_exec
    (M := systemMachine demoParser) (s := demoAwake)
    (p := fun _ fs => decide (.issued demoToken (2 * second) ∈ fs) &&
      (fs.all (Event.ownUse demoToken) && (decide (.credentialsChanged ∉ fs) &&
        decide (issuedTokens fs).Nodup)))
    (q := fun t es => es.all (Event.ownUse demoToken) && (decide (.credentialsChanged ∉ es) &&
      (decide (issuedTokens es = []) && t.now == 3 * second)))
    (show ((systemMachine demoParser).exec demoAwake [demoLogin (2 * second)]).any
      (fun r => _ && ((systemMachine demoParser).exec r.1 [demoFlush (3 * second)]).any _) =
        true by decide +kernel)
  simp only [Bool.and_eq_true, decide_eq_true_eq, beq_iff_eq] at hfs hes
  obtain ⟨hissued, hown, hkept, hnodup⟩ := hfs
  obtain ⟨hown', hkept', hnone, hnow⟩ := hes
  refine ⟨t, fs ++ es, hlogin.append hflush, ?_⟩
  refine session_in_use_survives (s := demoAwake)
    ⟨rfl, by decide, rfl, fun _ => rfl⟩ le_rfl .nil hlogin.single_inv (.inr hissued) hflush
    ?_ ?_ ?_ ?_ ?_ ?_ ?_
  · rw [List.nil_append, issuedTokens_append, hnone, List.append_nil]
    exact hnodup
  · refine uncrowded_of_ownUse ?_
    rw [List.nil_append, List.all_append, hown, hown']
    rfl
  · intro w b htakes req hcall hroute
    obtain rfl := List.mem_singleton.mp htakes.mem
    cases hcall
  · rw [List.mem_append]
    exact not_or.mpr ⟨hkept, hkept'⟩
  · rw [hnow]
    decide
  · decide
  · decide +kernel

end WebTerminal
