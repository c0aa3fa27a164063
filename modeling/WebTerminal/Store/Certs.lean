import WebTerminal.Server.HandlerParts
import WebTerminal.Server.System
import WebTerminal.Store.ConfigMachine

/-!
# The TLS certificate and its key

`load_or_save_certs`, `web_server_start` and uploads over a flash in which either
of the two blobs may fail to be written, or the power may go between them.  The
blobs are written one after the other and read back together, so a write that
leaves half of another pair behind is served as a pair at the next boot.
-/

set_option autoImplicit false

namespace WebTerminal

open Proc

/-- A certificate with its private key. -/
structure TlsPair where
  cert : CString
  key : CString
  deriving DecidableEq

/-- `s_cert_pem` and `s_key_pem`, with what they point to. -/
structure CertPems where
  certPem : Option CString
  keyPem : Option CString
  deriving DecidableEq

/-- Both are `NULL`. -/
def CertPems.null : CertPems := ⟨none, none⟩

/-- `nvs_get_blob` of one half into a buffer of `len` bytes. -/
def certsGet (env : Env) (half : TlsCerts → Option CString) (len : ℕ) :
    BoardM (Option CString) := do
  let err ← ask env.err
  let certs ← read Board.certs
  return if err = .ok then (half certs).filter fun pem => decide (pem.length + 1 ≤ len) else none

section

variable (env : Env)

/-- The branch of `load_or_save_certs` for a stored certificate of `certLen` bytes. -/
def loadCerts (certLen : ℕ) : BoardM CertPems := do
  let certBuf ← ask env.found
  let keyBuf ← ask env.found
  if certBuf = false ∨ keyBuf = false then return .null
  else do
    let cert ← certsGet env TlsCerts.cert certLen
    match cert with
    | none => return .null
    | some cert => do
        let key ← certsGet env TlsCerts.key maxCertSize
        match key with
        | none => return .null
        | some key => return ⟨some cert, some key⟩

/-- `nvs_set_blob` of a certificate and of its key. -/
def savePair (pair : TlsPair) : BoardM Unit := do
  certsSave env fun certs => { certs with cert := some pair.cert }
  certsSave env fun certs => { certs with key := some pair.key }

/-- The other branch: the embedded pair is saved and copied.  A buffer that was
allocated alone is left as it is, and reads as `uninit`. -/
def saveEmbedded (embedded uninit : TlsPair) : BoardM CertPems := do
  savePair env embedded
  let _ ← ask env.err
  let certBuf ← ask env.found
  let keyBuf ← ask env.found
  let copied := if certBuf && keyBuf then embedded else uninit
  return ⟨if certBuf then some copied.cert else none, if keyBuf then some copied.key else none⟩

/-- `load_or_save_certs` -/
def loadOrSaveCerts (embedded uninit : TlsPair) : BoardM CertPems := do
  let err ← ask env.err
  if err ≠ .ok then return .null
  else do
    let err ← ask env.err
    let certs ← read Board.certs
    match certs.cert with
    | some cert =>
        if err = .ok then loadCerts env (cert.length + 1)
        else saveEmbedded env embedded uninit
    | none => saveEmbedded env embedded uninit

end

/-- What `web_server_start` passes to the server. -/
def CertPems.inUse (pems : CertPems) (embedded : TlsPair) : TlsPair where
  cert := pems.certPem.getD embedded.cert
  key := pems.keyPem.getD embedded.key

section

variable (pf : Platform) (env : Env) (req : Request)

/-- `handle_tls_upload` up to `nvs_open`: the pair it is going to store. -/
def readTlsPair : BoardM TlsPair := do
  rejectIf (req.contentLen = 0 ∨ 8192 < req.contentLen) 400 "Invalid content length"
  let buf ← ask env.found
  rejectIf (buf = false) 400 "Out of memory"
  let body ← readBody env req (req.contentLen + 1)
  match body with
  | .complete bytes =>
      match pf.cJSONParse (ofBuffer bytes) with
      | none => sendJsonError 400 "Invalid JSON"
      | some json =>
          match CJson.string? (json.getObjectItem (cstr "cert")),
              CJson.string? (json.getObjectItem (cstr "key")) with
          | some cert, some key => do
              checkPair pf cert key
              let err ← ask env.err
              rejectIf (err ≠ .ok) 400 "NVS open failed"
              return ⟨cert, key⟩
          | _, _ => sendJsonError 400 "Missing cert or key"
  | _ => sendJsonError 400 "Failed to read body"

/-- The rest of `handle_tls_upload`. -/
def storeTlsPair (pair : TlsPair) : BoardM Response := do
  savePair env pair
  let err ← ask env.err
  rejectIf (err ≠ .ok) 400 "Failed to save certs"
  return .ok (cstr "\x7b\"ok\":true,\"message\":\"TLS certs updated, reboot to apply\"\x7d") none

theorem sendJsonError_bind {σ ε α β : Type} (status : ℕ) (message : String)
    (f : α → Proc σ ε Stop β) :
    (sendJsonError status message >>= f) = sendJsonError status message := by
  funext w
  exact bind_error rfl

theorem tlsBody_eq : tlsBody pf env req = readTlsPair pf env req >>= storeTlsPair env := by
  unfold tlsBody readTlsPair
  simp only [bind_assoc]
  congr 1
  funext _
  congr 1
  funext _
  congr 1
  funext _
  congr 1
  funext body
  cases body with
  | complete bytes =>
      cases hjson : pf.cJSONParse (ofBuffer bytes) with
      | none => simp only [hjson, sendJsonError_bind]
      | some json =>
          cases hcert : CJson.string? (json.getObjectItem (cstr "cert")) with
          | none => simp only [hjson, hcert, sendJsonError_bind]
          | some cert =>
              cases hkey : CJson.string? (json.getObjectItem (cstr "key")) with
              | none => simp only [hjson, hcert, hkey, sendJsonError_bind]
              | some key =>
                  simp only [hjson, hcert, hkey, bind_assoc, pure_bind, storeTlsPair, savePair]
  | _ => exact (sendJsonError_bind _ _ _).symm

end

/-! ## What the procedures do -/

/-- The blobs after `savePair`, with what became of the two writes. -/
def TlsCerts.written (env : Env) (n : ℕ) (pair : TlsPair) (certs : TlsCerts) : TlsCerts where
  cert := if env.err n = .ok then some pair.cert else certs.cert
  key := if env.err (n + 1) = .ok then some pair.key else certs.key

theorem savePair_apply (env : Env) (pair : TlsPair) (w : World Board Effect) :
    savePair env pair w = .ok () { w with
      state := { w.state with certs := w.state.certs.written env w.asked pair }
      asked := w.asked + 2 } := by
  have hsave : ∀ (edit : TlsCerts → TlsCerts) (u : World Board Effect),
      certsSave env edit u = .ok () { u with
        state := if env.err u.asked = .ok then { u.state with certs := edit u.state.certs }
          else u.state
        asked := u.asked + 1 } := fun _ _ => rfl
  unfold savePair
  rw [bind_ok (hsave _ _), hsave]
  unfold TlsCerts.written
  by_cases hcert : env.err w.asked = .ok <;> by_cases hkey : env.err (w.asked + 1) = .ok <;>
    simp [hcert, hkey]

/-- `load_or_save_certs` gets to the branch that saves the embedded pair. -/
def Board.savesEmbedded (env : Env) (board : Board) : Bool :=
  decide (env.err 0 = .ok) && !(decide (env.err 1 = .ok) && board.certs.cert.isSome)

/-- What a load of stored blobs yields. -/
inductive LoadedPems (certs : TlsCerts) : CertPems → Prop
  | unread : LoadedPems certs .null
  | pair {cert key : CString} (hcerts : certs = ⟨some cert, some key⟩) :
      LoadedPems certs ⟨some cert, some key⟩

theorem certsGet_apply (env : Env) (half : TlsCerts → Option CString) (len : ℕ)
    (w : World Board Effect) : certsGet env half len w = .ok
      (if env.err w.asked = .ok then
        (half w.state.certs).filter fun pem => decide (pem.length + 1 ≤ len) else none)
      { w with asked := w.asked + 1 } := rfl

/-- A half that is read is the one stored. -/
theorem certsGet_some {env : Env} {half : TlsCerts → Option CString} {len : ℕ}
    {w v : World Board Effect} {pem : CString} (h : certsGet env half len w = .ok (some pem) v) :
    half w.state.certs = some pem := by
  rw [certsGet_apply] at h
  have hread := (EStateM.Result.ok.inj h).1
  split at hread
  · exact (Option.filter_eq_some_iff.mp hread).1
  · cases hread

/-- A load moves nothing. -/
theorem loadCerts_cases (env : Env) (certLen : ℕ) (w : World Board Effect) :
    ∃ pems v, loadCerts env certLen w = .ok pems v ∧ v.state = w.state ∧
      LoadedPems w.state.certs pems := by
  unfold loadCerts
  rw [bind_ok (ask_apply _ _), bind_ok (ask_apply _ _)]
  split
  · exact ⟨_, _, rfl, rfl, .unread⟩
  · obtain ⟨cert, u, hcert⟩ : ∃ cert u, certsGet env TlsCerts.cert certLen
        { w with asked := w.asked + 1 + 1 } = .ok cert u ∧ u.state = w.state := ⟨_, _, rfl, rfl⟩
    rw [bind_ok hcert.1]
    cases cert with
    | none => exact ⟨_, _, rfl, hcert.2, .unread⟩
    | some cert =>
        obtain ⟨key, v, hkey, hv⟩ : ∃ key v, certsGet env TlsCerts.key maxCertSize u = .ok key v ∧
          v.state = u.state := ⟨_, _, rfl, rfl⟩
        show ∃ pems v, (certsGet env TlsCerts.key maxCertSize >>= _) u = .ok pems v ∧ _
        rw [bind_ok hkey]
        cases key with
        | none => exact ⟨_, _, rfl, hv.trans hcert.2, .unread⟩
        | some key =>
            refine ⟨_, _, rfl, hv.trans hcert.2, .pair ?_⟩
            have hstoredCert : w.state.certs.cert = some cert :=
              certsGet_some (w := { w with asked := w.asked + 1 + 1 }) hcert.1
            have hstoredKey : u.state.certs.key = some key := certsGet_some hkey
            rw [hcert.2] at hstoredKey
            cases hcerts : w.state.certs
            simp_all

/-- What the branch that saves leaves in the two pointers. -/
def CertPems.copied (env : Env) (n : ℕ) (embedded uninit : TlsPair) : CertPems :=
  let copied := if env.found n && env.found (n + 1) then embedded else uninit
  ⟨if env.found n then some copied.cert else none,
    if env.found (n + 1) then some copied.key else none⟩

theorem saveEmbedded_apply (env : Env) (embedded uninit : TlsPair) (w : World Board Effect) :
    saveEmbedded env embedded uninit w = .ok (.copied env (w.asked + 3) embedded uninit)
      { w with
        state := { w.state with certs := w.state.certs.written env w.asked embedded }
        asked := w.asked + 5 } := by
  unfold saveEmbedded
  rw [bind_ok (savePair_apply env embedded w)]
  rfl

/-- How `load_or_save_certs` ends. -/
inductive BootCase (env : Env) (embedded uninit : TlsPair) (board : Board) :
    CertPems → Board → Prop
  | read {pems : CertPems} (hread : board.savesEmbedded env = false)
      (hpems : LoadedPems board.certs pems) : BootCase env embedded uninit board pems board
  | saved (hsaved : board.savesEmbedded env = true) :
      BootCase env embedded uninit board (.copied env 5 embedded uninit)
        { board with certs := board.certs.written env 2 embedded }

theorem loadOrSaveCerts_cases (env : Env) (embedded uninit : TlsPair) (board : Board) :
    ∃ pems w, loadOrSaveCerts env embedded uninit board.start = .ok pems w ∧
      BootCase env embedded uninit board pems w.state := by
  unfold loadOrSaveCerts
  rw [bind_ok (ask_apply _ _)]
  by_cases hopened : env.err board.start.asked = .ok
  · rw [if_neg (not_not.mpr hopened), bind_ok (ask_apply _ _), bind_ok (read_apply _ _)]
    have hsaves :
        board.savesEmbedded env = !(decide (env.err 1 = .ok) && board.certs.cert.isSome) := by
      have hopened' : env.err 0 = .ok := hopened
      simp [Board.savesEmbedded, hopened']
    cases hcert : board.certs.cert with
    | none =>
        have hsaved : board.savesEmbedded env = true := by simp [hsaves, hcert]
        refine ⟨.copied env 5 embedded uninit,
          ⟨{ board with certs := board.certs.written env 2 embedded }, 7, []⟩, ?_, .saved hsaved⟩
        simp only [Board.start, hcert]
        exact saveEmbedded_apply _ _ _ _
    | some cert =>
        by_cases hread : env.err 1 = .ok
        · obtain ⟨pems, v, hrun, hv, hpems⟩ := loadCerts_cases env (cert.length + 1)
            { board.start with asked := 2 }
          refine ⟨pems, v, ?_, ?_⟩
          · simp only [Board.start, hcert, Nat.zero_add, hread]
            exact hrun
          · rw [hv]
            exact .read (by simp [hsaves, hcert, hread]) hpems
        · have hsaved : board.savesEmbedded env = true := by simp [hsaves, hread]
          refine ⟨.copied env 5 embedded uninit,
            ⟨{ board with certs := board.certs.written env 2 embedded }, 7, []⟩, ?_, .saved hsaved⟩
          simp only [Board.start, hcert, Nat.zero_add, hread]
          exact saveEmbedded_apply _ _ _ _
  · rw [if_pos hopened]
    have hopened' : ¬env.err 0 = .ok := hopened
    exact ⟨_, _, rfl, .read (by simp [Board.savesEmbedded, hopened']) .unread⟩

/-! ## Runs of boots and uploads -/

/-- The power goes at question `n`: what comes after it has no effect. -/
def Env.cutAt (cut : Option ℕ) (env : Env) : Env :=
  match cut with
  | none => env
  | some n => { env with err := fun k => if k < n then env.err k else .fail }

structure CertSystem where
  board : Board
  /-- the pair embedded in the firmware that runs -/
  embedded : TlsPair
  /-- what the server was started with, if it was -/
  serving : Option TlsPair
  /-- the pairs a first boot saved or an upload was accepted with -/
  offered : List TlsPair

inductive CertAction
  /-- `load_or_save_certs`, then `web_server_start` if there still is power -/
  | boot (env : Env) (embedded uninit : TlsPair) (cut : Option ℕ)
  | upload (env : Env) (req : Request) (cut : Option ℕ)
  /-- `nvs_flash_erase` -/
  | erase

section

variable (pf : Platform)

/-- The pair an upload is about to store, and the number of the question that does. -/
def uploadedPair (env : Env) (req : Request) (board : Board) : Option (TlsPair × ℕ) :=
  match readTlsPair pf env req board.start with
  | .ok pair w => some (pair, w.asked)
  | .error _ _ => none

/-- Where a boot ends that still has power, or has not. -/
def CertSystem.afterBoot (env : Env) (embedded : TlsPair) (powered : Bool) (s : CertSystem) :
    EStateM.Result Stop (World Board Effect) CertPems → CertSystem
  | .ok pems w =>
      { board := w.state
        embedded := embedded
        serving := if powered then some (pems.inUse embedded) else none
        offered := if s.board.savesEmbedded env then embedded :: s.offered else s.offered }
  | .error _ w => { s with board := w.state, serving := none }

/-- After an upload. -/
def CertSystem.afterUpload (env : Env) (req : Request) (powered : Bool) (s : CertSystem) :
    CertSystem :=
  { s with
    board := ((tlsBody pf env req).final s.board.start).state
    serving := if powered then s.serving else none
    offered := (uploadedPair pf env req s.board).toList.map Prod.fst ++ s.offered }

def certStep (s : CertSystem) : CertAction → Option CertSystem
  | .boot env embedded uninit cut => some <|
      s.afterBoot (env.cutAt cut) embedded cut.isNone
        (loadOrSaveCerts (env.cutAt cut) embedded uninit s.board.start)
  | .upload env req cut =>
      if s.serving.isSome then some (s.afterUpload pf (env.cutAt cut) req cut.isNone) else none
  | .erase => some { s with board := s.board.erased, serving := none }

def certMachine : Machine CertSystem CertAction Empty where
  step s a := (certStep pf s a).map fun t => (t, [])

end

/-- What the server uses belongs together. -/
def CertSystem.Together (s : CertSystem) : Prop :=
  ∀ pair, s.serving = some pair → pair = s.embedded ∨ pair ∈ s.offered

/-- A write of a pair keeps together what is stored: both halves are written or
neither is, or the half that stays is none or goes with the one that is written. -/
def CertSystem.KeepsPair (s : CertSystem) (env : Env) (n : ℕ) (pair : TlsPair) : Prop :=
  (env.err n = .ok ↔ env.err (n + 1) = .ok) ∨
    (env.err n = .ok ∧ ∀ key, s.board.certs.key = some key →
      key = pair.key ∨ ⟨pair.cert, key⟩ ∈ s.offered) ∨
    env.err (n + 1) = .ok ∧ ∀ cert, s.board.certs.cert = some cert →
      cert = pair.cert ∨ ⟨cert, pair.key⟩ ∈ s.offered

/-- The condition on a step.  A first boot also gets both its buffers or neither. -/
def PairKept (pf : Platform) (s : CertSystem) : CertAction → Prop
  | .boot env embedded _ cut => s.board.savesEmbedded (env.cutAt cut) = true →
      s.KeepsPair (env.cutAt cut) 2 embedded ∧ env.found 5 = env.found 6
  | .upload env req cut => ∀ pair n, uploadedPair pf (env.cutAt cut) req s.board = some (pair, n) →
      s.KeepsPair (env.cutAt cut) n pair
  | .erase => True

/-! ## The invariant -/

section

variable {pf : Platform} {env : Env} {req : Request}

theorem checkPair_quiet (pf : Platform) (cert key : CString) :
    Does Quiet (checkPair pf cert key) := by
  refine (does_rejectIf quiet_composes _ _ _).bind quiet_composes fun _ => ?_
  refine (does_rejectIf quiet_composes _ _ _).bind quiet_composes fun _ => ?_
  refine (does_rejectIf quiet_composes _ _ _).bind quiet_composes fun _ => ?_
  exact does_rejectIf quiet_composes _ _ _

theorem readTlsPair_quiet (pf : Platform) (env : Env) (req : Request) :
    Does Quiet (readTlsPair pf env req) := by
  have hstop : ∀ status message, Does Quiet (sendJsonError status message : BoardM TlsPair) :=
    fun _ _ => does_stop quiet_composes _
  refine (does_rejectIf quiet_composes _ _ _).bind quiet_composes fun _ => ?_
  refine (does_ask quiet_composes _).bind quiet_composes fun _ => ?_
  refine (does_rejectIf quiet_composes _ _ _).bind quiet_composes fun _ => ?_
  refine (does_readBody env quiet_composes req _).bind quiet_composes fun body => ?_
  cases body with
  | complete bytes =>
      dsimp only
      split
      · exact hstop _ _
      · split
        · refine (checkPair_quiet pf _ _).bind quiet_composes fun _ => ?_
          refine (does_ask quiet_composes _).bind quiet_composes fun _ => ?_
          refine (does_rejectIf quiet_composes _ _ _).bind quiet_composes fun _ => ?_
          exact does_pure quiet_composes _
        · exact hstop _ _
  | _ => exact hstop _ _

/-- An upload changes nothing but the two blobs, and those only if it is accepted. -/
theorem tlsBody_board (pf : Platform) (env : Env) (req : Request) (board : Board) :
    ((tlsBody pf env req).final board.start).state =
      match uploadedPair pf env req board with
      | some (pair, n) => { board with certs := board.certs.written env n pair }
      | none => board := by
  have hquiet := Quiet.final (readTlsPair_quiet pf env req) board.start
  rw [tlsBody_eq]
  unfold uploadedPair
  cases hread : readTlsPair pf env req board.start with
  | error stop w =>
      rw [final_of_error hread] at hquiet
      rw [final_of_error (bind_error hread)]
      exact hquiet.1
  | ok pair w =>
      rw [final_of_ok hread] at hquiet
      have hstate : w.state = board := hquiet.1
      rw [final_bind_of_ok hread]
      unfold storeTlsPair
      rw [final_bind_of_ok (savePair_apply env pair w), final_bind_of_ok (ask_apply _ _), hstate]
      -- the answer does not touch the board
      by_cases hcommitted : env.err (w.asked + 2) = .ok
      · rw [final_bind_of_ok ((rejectIf_apply _ _ _ _).trans (if_neg (not_not.mpr hcommitted)))]
        rfl
      · rw [final_of_error (bind_error ((rejectIf_apply _ _ _ _).trans (if_pos hcommitted)))]

/-- Stored halves have been offered together, and so has what is served. -/
structure CertSystem.CertInv (s : CertSystem) : Prop where
  stored : ∀ cert key, s.board.certs = ⟨some cert, some key⟩ → ⟨cert, key⟩ ∈ s.offered
  together : s.Together

/-- A write that keeps the pairs together leaves halves that were offered together. -/
theorem CertSystem.KeepsPair.stored {s : CertSystem} {n : ℕ} {pair : TlsPair}
    (h : s.KeepsPair env n pair)
    (hstored : ∀ cert key, s.board.certs = ⟨some cert, some key⟩ → ⟨cert, key⟩ ∈ s.offered)
    {cert key : CString} (hcerts : s.board.certs.written env n pair = ⟨some cert, some key⟩) :
    ⟨cert, key⟩ ∈ pair :: s.offered := by
  obtain ⟨hcert, hkey⟩ := TlsCerts.mk.inj hcerts
  by_cases hcertTook : env.err n = .ok <;> by_cases hkeyTook : env.err (n + 1) = .ok
  · -- both halves are new
    simp only [hcertTook, hkeyTook, if_true, Option.some.injEq] at hcert hkey
    rw [← hcert, ← hkey]
    exact List.mem_cons_self
  · simp only [hcertTook, hkeyTook, if_true, if_false, Option.some.injEq] at hcert hkey
    have hkeep := (h.resolve_left (by simp [hcertTook, hkeyTook])).resolve_right
      fun hother => hkeyTook hother.1
    rcases hkeep.2 key hkey with rfl | hoffered
    · rw [← hcert]
      exact List.mem_cons_self
    · rw [← hcert]
      exact List.mem_cons_of_mem _ hoffered
  · simp only [hcertTook, hkeyTook, if_true, if_false, Option.some.injEq] at hcert hkey
    have hkeep := (h.resolve_left (by simp [hcertTook, hkeyTook])).resolve_left
      fun hother => hcertTook hother.1
    rcases hkeep.2 cert hcert with rfl | hoffered
    · rw [← hkey]
      exact List.mem_cons_self
    · rw [← hkey]
      exact List.mem_cons_of_mem _ hoffered
  · -- both halves stay
    simp only [hcertTook, hkeyTook, if_false] at hcert hkey
    refine List.mem_cons_of_mem _ (hstored cert key ?_)
    cases hcerts : s.board.certs
    simp_all

/-- What the branch that saves passes to the server is the embedded pair, unless
one of its buffers was allocated alone. -/
theorem CertPems.copied_inUse {n : ℕ} {embedded uninit : TlsPair}
    (h : env.found n = env.found (n + 1)) :
    (CertPems.copied env n embedded uninit).inUse embedded = embedded := by
  unfold CertPems.copied CertPems.inUse
  rw [← h]
  cases env.found n <;> rfl

@[simp] theorem Env.cutAt_found (cut : Option ℕ) (env : Env) :
    (env.cutAt cut).found = env.found := by
  cases cut <;> rfl

/-- A boot that still has power or has not. -/
theorem CertSystem.CertInv.boot {s : CertSystem} (hinv : s.CertInv) {embedded uninit : TlsPair}
    (powered : Bool)
    (hkept : s.board.savesEmbedded env = true → s.KeepsPair env 2 embedded ∧
      env.found 5 = env.found 6) :
    (s.afterBoot env embedded powered
      (loadOrSaveCerts env embedded uninit s.board.start)).CertInv := by
  obtain ⟨pems, w, hrun, hcase⟩ := loadOrSaveCerts_cases env embedded uninit s.board
  rw [hrun]
  dsimp only [afterBoot]
  generalize w.state = board at hcase
  cases hcase with
  | read hread hpems =>
      refine ⟨fun cert key hcerts => ?_, fun pair hpair => ?_⟩
      · simp only [hread]
        exact hinv.stored cert key hcerts
      · cases powered with
        | false => cases hpair
        | true =>
            obtain rfl := Option.some.inj hpair
            cases hpems with
            | unread => exact .inl rfl
            | pair hcerts =>
                simp only [hread]
                exact .inr (hinv.stored _ _ hcerts)
  | saved hsaved =>
      obtain ⟨hkeeps, hfound⟩ := hkept hsaved
      refine ⟨fun cert key hcerts => ?_, fun pair hpair => ?_⟩
      · simp only [hsaved]
        exact hkeeps.stored hinv.stored hcerts
      · cases powered with
        | false => cases hpair
        | true =>
            obtain rfl := Option.some.inj hpair
            exact .inl (CertPems.copied_inUse hfound)

/-- An upload, accepted or not. -/
theorem CertSystem.CertInv.upload {s : CertSystem} (hinv : s.CertInv) (powered : Bool)
    (hkept : ∀ pair n, uploadedPair pf env req s.board = some (pair, n) → s.KeepsPair env n pair) :
    (s.afterUpload pf env req powered).CertInv := by
  have hboard := tlsBody_board pf env req s.board
  have hserving : ∀ pair, (s.afterUpload pf env req powered).serving = some pair →
      s.serving = some pair := by
    intro pair hpair
    cases powered with
    | false => cases hpair
    | true => exact hpair
  refine ⟨fun cert key hcerts => ?_, fun pair hpair => ?_⟩
  · replace hcerts : ((tlsBody pf env req).final s.board.start).state.certs = _ := hcerts
    rw [hboard] at hcerts
    unfold afterUpload
    cases huploaded : uploadedPair pf env req s.board with
    | none =>
        rw [huploaded] at hcerts
        exact hinv.stored cert key hcerts
    | some uploaded =>
        rw [huploaded] at hcerts
        exact (hkept uploaded.1 uploaded.2 huploaded).stored hinv.stored hcerts
  · exact (hinv.together pair (hserving pair hpair)).imp_right fun hoffered =>
      List.mem_append_right _ hoffered

theorem certs_step {s t : CertSystem} {a : CertAction} {es : List Empty} (hinv : s.CertInv)
    (hkept : PairKept pf s a) (hstep : (certMachine pf).step s a = some (t, es)) : t.CertInv := by
  have hnext : certStep pf s a = some t := by
    obtain ⟨u, hu, heq⟩ := Option.map_eq_some_iff.mp hstep
    rw [hu, (Prod.mk.inj heq).1]
  cases a with
  | boot env embedded uninit cut =>
      obtain rfl := Option.some.inj hnext
      exact hinv.boot _ fun hsaved => by simpa using hkept hsaved
  | upload env req cut =>
      by_cases hserving : s.serving.isSome = true
      · obtain rfl := Option.some.inj ((if_pos hserving).symm.trans hnext)
        exact hinv.upload _ hkept
      · cases (if_neg hserving).symm.trans hnext
  | erase =>
      obtain rfl := Option.some.inj hnext
      refine ⟨fun cert key hcerts => ?_, fun pair hpair => ?_⟩
      · cases hcerts
      · cases hpair

/-- A device without stored blobs that is not running. -/
structure CertSystem.Blank (s : CertSystem) : Prop where
  certs : s.board.certs = ⟨none, none⟩
  serving : s.serving = none

/-- In a run whose writes keep pairs together, so does what the server uses. -/
theorem certs_together {s t : CertSystem} {as : List CertAction} {es : List Empty} (hs : s.Blank)
    (h : (certMachine pf).Run s as es t)
    (hkept : ∀ u a, (certMachine pf).Takes s as u a → PairKept pf u a) : t.Together := by
  have hinv : t.CertInv := by
    refine h.invariant_taking (I := CertSystem.CertInv) hkept ?_ fun u a v fs hcond hinv hstep =>
      certs_step hinv hcond hstep
    refine ⟨fun cert key hcerts => ?_, fun pair hpair => ?_⟩
    · cases hs.certs.symm.trans hcerts
    · cases hs.serving.symm.trans hpair
  exact hinv.together

/-- A boot that finds both blobs readable serves them, together or not. -/
theorem boot_serves_stored (pf : Platform) {s : CertSystem} {cert key : CString}
    (hcerts : s.board.certs = ⟨some cert, some key⟩) (hsize : key.length + 1 ≤ maxCertSize)
    (hok : ∀ n, env.err n = .ok) (hfound : ∀ n, env.found n = true) (embedded uninit : TlsPair) :
    ∃ t, (certMachine pf).step s (.boot env embedded uninit none) = some (t, []) ∧
      t.serving = some ⟨cert, key⟩ ∧ t.embedded = embedded ∧ t.offered = s.offered := by
  have hrun : loadOrSaveCerts env embedded uninit s.board.start =
      .ok ⟨some cert, some key⟩ { s.board.start with asked := 6 } := by
    have hcert : certsGet env TlsCerts.cert (cert.length + 1) ⟨s.board, 4, []⟩ =
        .ok (some cert) ⟨s.board, 5, []⟩ := by
      simp [certsGet_apply, hok, hcerts, Option.filter]
    have hkey : certsGet env TlsCerts.key maxCertSize ⟨s.board, 5, []⟩ =
        .ok (some key) ⟨s.board, 6, []⟩ := by
      simp [certsGet_apply, hok, hcerts, Option.filter, hsize]
    have hload : loadCerts env (cert.length + 1) ⟨s.board, 2, []⟩ =
        .ok ⟨some cert, some key⟩ ⟨s.board, 6, []⟩ := by
      unfold loadCerts
      rw [bind_ok (ask_apply _ _), bind_ok (ask_apply _ _)]
      simp only [hfound, Bool.true_eq_false, or_self, if_false]
      refine (bind_ok hcert).trans ?_
      exact bind_ok hkey
    unfold loadOrSaveCerts
    rw [bind_ok (ask_apply _ _)]
    simp only [hok, ne_eq, not_true_eq_false, if_false]
    rw [bind_ok (ask_apply _ _), bind_ok (read_apply _ _)]
    simp only [Board.start, hcerts, hok, if_true]
    exact hload
  have hread : s.board.savesEmbedded env = false := by simp [Board.savesEmbedded, hok, hcerts]
  refine ⟨s.afterBoot env embedded true
    (.ok ⟨some cert, some key⟩ { s.board.start with asked := 6 }), ?_, rfl, rfl, ?_⟩
  · rw [← hrun]
    rfl
  · show (if s.board.savesEmbedded env then _ else _) = _
    rw [hread]
    rfl

/-- Halves that were never offered together are torn at the next boot that reads them. -/
theorem torn_after_boot (pf : Platform) {s : CertSystem} {cert key : CString}
    (hcerts : s.board.certs = ⟨some cert, some key⟩) (hsize : key.length + 1 ≤ maxCertSize)
    (hoffered : ⟨cert, key⟩ ∉ s.offered) (hok : ∀ n, env.err n = .ok)
    (hfound : ∀ n, env.found n = true) {embedded : TlsPair} (hembedded : ⟨cert, key⟩ ≠ embedded)
    (uninit : TlsPair) :
    ∃ t, (certMachine pf).step s (.boot env embedded uninit none) = some (t, []) ∧ ¬t.Together := by
  obtain ⟨t, hstep, hserving, hrunning, hsame⟩ :=
    boot_serves_stored pf hcerts hsize hok hfound embedded uninit
  refine ⟨t, hstep, fun htogether => ?_⟩
  rcases htogether _ hserving with heq | hmem
  · exact hembedded (heq.trans hrunning)
  · exact hoffered (hsame ▸ hmem)

end

/-- The pair embedded in the firmware. -/
def demoEmbedded : TlsPair := ⟨cstr "embedded cert", cstr "embedded key"⟩

/-- The body of an upload. -/
def tlsJson : CString := cstr "\x7b\"cert\":\"new cert\",\"key\":\"new key\"\x7d"

/-- A platform that parses and accepts it. -/
def demoUploader : Platform :=
  demoPlatform [(tlsJson, .object [(cstr "cert", .string (cstr "new cert")),
    (cstr "key", .string (cstr "new key"))])]

/-- A device without stored blobs. -/
def blankCertSystem : CertSystem where
  board := demoSystem.device.board
  embedded := demoEmbedded
  serving := none
  offered := []

theorem blankCertSystem_blank : blankCertSystem.Blank := ⟨rfl, rfl⟩

/-- A boot on flash that keeps everything. -/
def demoBoot : CertAction := .boot (demoEnv 0 []) demoEmbedded ⟨[], []⟩ none

/-- A first boot, an upload with these answers of flash, and a reboot. -/
def demoUploadRun (err : ℕ → EspErr) : List CertAction :=
  [demoBoot, .upload { demoEnv 0 tlsJson with err := err } (demoRequest .tls tlsJson.length) none,
    demoBoot]

/-- Where flash keeps both halves the uploaded pair is in use. -/
theorem certs_together_uploaded :
    ∃ t es, (certMachine demoUploader).Run blankCertSystem (demoUploadRun fun _ => .ok) es t ∧
      t.serving = some ⟨cstr "new cert", cstr "new key"⟩ ∧ t.Together := by
  obtain ⟨t, es, hrun, hserving⟩ := Machine.Run.exists_of_exec
    (M := certMachine demoUploader) (s := blankCertSystem)
    (p := fun t _ => decide (t.serving = some ⟨cstr "new cert", cstr "new key"⟩))
    (show ((certMachine demoUploader).exec blankCertSystem (demoUploadRun fun _ => .ok)).any
      (fun r => _) = true by decide +kernel)
  refine ⟨t, es, hrun, of_decide_eq_true hserving,
    certs_together blankCertSystem_blank hrun fun u a htakes => ?_⟩
  obtain ⟨bs, cs, -, hsplit, -⟩ := htakes
  have ha : a ∈ demoUploadRun fun _ => .ok := hsplit ▸ by simp
  simp only [demoUploadRun, List.mem_cons, List.not_mem_nil, or_false] at ha
  rcases ha with rfl | rfl | rfl
  · exact fun _ => ⟨.inl Iff.rfl, rfl⟩
  · exact fun _ _ _ => .inl Iff.rfl
  · exact fun _ => ⟨.inl Iff.rfl, rfl⟩

/-- With the write of the key lost, the new certificate is served with the old key. -/
theorem certs_together_lost_key :
    ¬∀ (s t : CertSystem) (as : List CertAction) (es : List Empty), s.Blank →
      (certMachine demoUploader).Run s as es t → t.Together := by
  intro hclaim
  -- the key is the fifth question of the upload
  obtain ⟨t, es, hrun, htest⟩ := Machine.Run.exists_of_exec
    (M := certMachine demoUploader) (s := blankCertSystem)
    (p := fun t _ => decide (t.serving = some ⟨cstr "new cert", demoEmbedded.key⟩ ∧
      t.embedded = demoEmbedded ∧ t.offered = [⟨cstr "new cert", cstr "new key"⟩, demoEmbedded]))
    (show ((certMachine demoUploader).exec blankCertSystem
      (demoUploadRun fun n => if n = 4 then .fail else .ok)).any (fun r => _) = true by
        decide +kernel)
  obtain ⟨hserving, hembedded, hoffered⟩ := of_decide_eq_true htest
  have htogether := hclaim _ _ _ _ blankCertSystem_blank hrun _ hserving
  rw [hembedded, hoffered] at htogether
  exact absurd htogether (by decide)

end WebTerminal
