import WebTerminal.Server.Board

/-!
# Requests

What a handler reads from a request: the session token in a header and the
body.  `cookie_value` scans memory, not a string: it starts in the `Cookie`
header, and the bytes that follow the header in memory are part of its input
(`heapTail`).  `ScanInside` says that a scan does not get there.
-/

set_option autoImplicit false

namespace WebTerminal

open Proc

/-- The registered routes, and the handler for everything else. -/
inductive Route
  | root
  | xterm
  | login
  | logout
  | token
  | configGet
  | configPost
  | reset
  | power
  | ota
  | sysinfo
  | wifiScan
  | otaCheck
  | otaGithub
  | tls
  | reboot
  | ws
  | notFound
  deriving DecidableEq

/-- `httpd_req_t`: the fields and headers the handlers read.  A missing header
is `none`. -/
structure Request where
  route : Route
  fd : ℤ
  contentLen : ℕ
  cookie : Option CString
  authorization : Option CString
  host : Option CString
  query : Option CString
  /-- the peer address as text, when it can be determined -/
  peer : Option CString

/-! ## The session token -/

/-- `strstr`: the offset of the first occurrence. -/
def strstr (needle : CString) : CString → Option ℕ
  | [] => if needle = [] then some 0 else none
  | c :: rest =>
      if needle.isPrefixOf (c :: rest) then some 0 else (strstr needle rest).map (· + 1)

/-- The test on an occurrence at `q`: it starts the header or follows `"; "`. -/
def separated (memory : List UInt8) (q : ℕ) : Bool :=
  decide (q = 0) ||
    (decide (2 ≤ q) && memory.getD (q - 1) 0 == 32 && memory.getD (q - 2) 0 == 59)

/-- The loop of `cookie_value` from position `p` on.  A name that is separated but
not followed by `=` is skipped twice, as in the source. -/
def cookieScan (memory : List UInt8) (name : CString) : ℕ → ℕ → Option CString
  | 0, _ => none
  | fuel + 1, p =>
      match strstr name (ofBuffer (memory.drop p)) with
      | none => none
      | some offset =>
          let q := p + offset
          if separated memory q then
            if memory.getD (q + name.length) 0 = 61 then
              some ((ofBuffer (memory.drop (q + name.length + 1))).takeWhile (· ≠ 59))
            else cookieScan memory name fuel (q + name.length + name.length)
          else cookieScan memory name fuel (q + name.length)

/-- `cookie_value`, on a header that is followed by `heapTail` in memory. -/
def cookieValue (heapTail : List UInt8) (header name : CString) : Option CString :=
  cookieScan (header ++ 0 :: heapTail) name (header.length + heapTail.length + 2) 0

/-- `"session"` -/
def sessionName : CString := cstr "session"

/-- `"Bearer "` -/
def bearerPrefix : CString := cstr "Bearer "

/-- The token after `"Bearer "`. -/
def bearerToken (header : CString) : Option CString :=
  if bearerPrefix.isPrefixOf header then some (header.drop bearerPrefix.length) else none

/-- `auth_get_token_from_request` -/
def authGetTokenFromRequest (heapTail : List UInt8) (req : Request) : Option CString :=
  match req.cookie.bind fun header => (cookieValue heapTail header sessionName).filter (· ≠ []) with
  | some token => some token
  | none => req.authorization.bind bearerToken

/-- The token in the headers of a request. -/
def Request.headerToken (req : Request) : Option CString := authGetTokenFromRequest [] req

/-- No position the loop of `cookie_value` starts a search from, from `p` on, is
behind the end of the header. -/
def scanInside (header name : CString) : ℕ → ℕ → Bool
  | 0, _ => true
  | fuel + 1, p =>
      decide (p ≤ header.length) &&
        match strstr name (ofBuffer (header.drop p)) with
        | none => true
        | some offset =>
            let q := p + offset
            if separated header q then
              if header.getD (q + name.length) 0 = 61 then true
              else scanInside header name fuel (q + name.length + name.length)
            else scanInside header name fuel (q + name.length)

/-- The scan for the session cookie stays inside the header. -/
def Request.ScanInside (req : Request) : Prop :=
  ∀ header, req.cookie = some header →
    scanInside header sessionName (header.length + 2) 0 = true

/-! ## A scan that stays inside

While the scan is inside the header it reads the same bytes whatever follows. -/

theorem ofBuffer_drop_append {header : CString} (tail : List UInt8) {p : ℕ}
    (hp : p ≤ header.length) :
    ofBuffer ((header ++ 0 :: tail).drop p) = ofBuffer (header.drop p) := by
  rw [List.drop_append_of_le_length hp]
  generalize header.drop p = rest
  unfold ofBuffer
  induction rest with
  | nil => simp
  | cons c rest ih =>
      rw [List.cons_append, List.takeWhile_cons, List.takeWhile_cons]
      split
      · rw [ih]
      · rfl

theorem getD_append_zero {header : CString} (tail : List UInt8) {i : ℕ}
    (hi : i ≤ header.length) : (header ++ 0 :: tail).getD i 0 = header.getD i 0 := by
  rcases Nat.lt_or_eq_of_le hi with hlt | rfl
  · simp [List.getD_eq_getElem?_getD, List.getElem?_append_left hlt]
  · simp [List.getD_eq_getElem?_getD]

theorem strstr_bound {needle : CString} : ∀ {s : CString} {offset : ℕ},
    strstr needle s = some offset → offset + needle.length ≤ s.length := by
  intro s
  induction s with
  | nil =>
      intro offset h
      unfold strstr at h
      split at h
      next hnil => obtain rfl := Option.some.inj h; simp [hnil]
      next => cases h
  | cons c rest ih =>
      intro offset h
      unfold strstr at h
      split at h
      next hprefix =>
        obtain rfl := Option.some.inj h
        simpa using (List.isPrefixOf_iff_prefix.mp hprefix).length_le
      next =>
        obtain ⟨n, hn, rfl⟩ := Option.map_eq_some_iff.mp h
        have := ih hn
        simp only [List.length_cons]
        omega

theorem separated_append {header : CString} (tail : List UInt8) {q : ℕ} (hq : q ≤ header.length) :
    separated (header ++ 0 :: tail) q = separated header q := by
  unfold separated
  rw [getD_append_zero tail (by omega : q - 1 ≤ header.length),
    getD_append_zero tail (by omega : q - 2 ≤ header.length)]

/-- Two scans of one header with different memory behind it agree as long as the
scan is inside.  Every round moves on, which is what the fuel is counted by. -/
theorem cookieScan_inside {header name : CString} (hname : 0 < name.length)
    (tail tail' : List UInt8) : ∀ (n fuel fuel' p : ℕ), header.length + 1 - p < n →
      n ≤ fuel → n ≤ fuel' → scanInside header name n p = true →
      cookieScan (header ++ 0 :: tail) name fuel p =
        cookieScan (header ++ 0 :: tail') name fuel' p := by
  intro n
  induction n with
  | zero => intro fuel fuel' p hn; omega
  | succ n ih =>
      intro fuel fuel' p hn hfuel hfuel' hinside
      obtain ⟨fuel, rfl⟩ := Nat.exists_eq_succ_of_ne_zero (by omega : fuel ≠ 0)
      obtain ⟨fuel', rfl⟩ := Nat.exists_eq_succ_of_ne_zero (by omega : fuel' ≠ 0)
      unfold scanInside at hinside
      simp only [Bool.and_eq_true, decide_eq_true_eq] at hinside
      obtain ⟨hp, hrest⟩ := hinside
      unfold cookieScan
      rw [ofBuffer_drop_append tail hp, ofBuffer_drop_append tail' hp]
      cases hfind : strstr name (ofBuffer (header.drop p)) with
      | none => rfl
      | some offset =>
          have hbound : p + offset + name.length ≤ header.length := by
            have h := strstr_bound hfind
            have hlen : (ofBuffer (header.drop p)).length ≤ header.length - p := by
              simpa [ofBuffer] using (List.takeWhile_prefix (l := header.drop p) (· ≠ 0)).length_le
            omega
          simp only [hfind] at hrest
          simp only [separated_append tail (by omega : p + offset ≤ header.length),
            separated_append tail' (by omega : p + offset ≤ header.length),
            getD_append_zero tail hbound, getD_append_zero tail' hbound]
          split
          next hsep =>
            rw [if_pos hsep] at hrest
            split
            next heq =>
              -- an equals sign is not the terminating zero
              have hlt : p + offset + name.length < header.length := by
                rcases Nat.lt_or_eq_of_le hbound with hlt | hend
                · exact hlt
                · rw [hend] at heq
                  simp at heq
              rw [ofBuffer_drop_append tail (by omega), ofBuffer_drop_append tail' (by omega)]
            next heq =>
              rw [if_neg heq] at hrest
              exact ih _ _ _ (by omega) (by omega) (by omega) hrest
          next hsep =>
            rw [if_neg hsep] at hrest
            exact ih _ _ _ (by omega) (by omega) (by omega) hrest

theorem cookieValue_inside {header : CString} (tail : List UInt8)
    (h : scanInside header sessionName (header.length + 2) 0 = true) :
    cookieValue tail header sessionName = cookieValue [] header sessionName :=
  cookieScan_inside (by decide) tail [] (header.length + 2) _ _ 0 (by omega) (by omega)
    (by simp) h

/-- The token taken from a request is the one in its headers. -/
theorem authGetTokenFromRequest_inside {req : Request} (h : req.ScanInside)
    (heapTail : List UInt8) : authGetTokenFromRequest heapTail req = req.headerToken := by
  unfold Request.headerToken authGetTokenFromRequest
  cases hcookie : req.cookie with
  | none => rfl
  | some header =>
      rw [Option.bind_some, Option.bind_some, cookieValue_inside heapTail (h header hcookie)]

/-! ## The body -/

section

variable (env : Env)

/-- A call of `httpd_req_recv` gets something, or there is nothing to get. -/
theorem recv_cases (k n : ℕ) :
    (∃ data, env.recv k = .bytes data ∧ data.take n ≠ []) ∨
      ∀ data, env.recv k = .bytes data → data.take n = [] := by
  by_cases h : ∃ data, env.recv k = .bytes data ∧ data.take n ≠ []
  · exact .inl h
  · refine .inr fun data hrecv => ?_
    by_contra hsome
    exact h ⟨data, hrecv, hsome⟩

/-- The loop of `read_body` with `remaining` bytes to go, which takes at most
`remaining` rounds: every round that goes on reads a byte. -/
def readBodyLoop {σ ε : Type} : ℕ → ℕ → List UInt8 → Proc σ ε Stop (Option (List UInt8))
  | 0, _, body => return some body
  | fuel + 1, remaining, body =>
      if remaining = 0 then return some body
      else do
        let received ← ask env.recv
        match received with
        | .bytes data =>
            let data := data.take remaining
            if data = [] then return none
            else readBodyLoop fuel (remaining - data.length) (body ++ data)
        | _ => return none

/-- How `read_body` ends. -/
inductive Body
  | absent
  | failed
  | complete (bytes : List UInt8)

/-- `read_body` into a buffer of `bufLen` bytes. -/
def readBody {σ ε : Type} (req : Request) (bufLen : ℕ) : Proc σ ε Stop Body :=
  if req.contentLen = 0 then return .absent
  else if bufLen ≤ req.contentLen then return .failed
  else do
    let body ← readBodyLoop env req.contentLen req.contentLen []
    return match body with
      | some bytes => .complete bytes
      | none => .failed

/-- `read_body` and `cJSON_Parse` with the answers to a body that is absent, does
not arrive or does not parse, as the handlers of JSON requests share them. -/
def readJson {σ ε : Type} (pf : Platform) (req : Request) (bufLen : ℕ) : Proc σ ε Stop CJson := do
  let body ← readBody env req bufLen
  match body with
  | .absent => sendJsonError 400 "Empty request body"
  | .failed => sendJsonError 400 "Invalid request size"
  | .complete bytes =>
      match pf.cJSONParse (ofBuffer bytes) with
      | none => sendJsonError 400 "Invalid JSON"
      | some json => return json

/-! Reading asks and stops; it changes and shows nothing. -/

variable {σ ε : Type} {R : σ → List ε → σ → Prop} (hR : Composes R)

include hR

theorem does_readBodyLoop : ∀ (fuel remaining : ℕ) (body : List UInt8),
    Does R (readBodyLoop env fuel remaining body) := by
  intro fuel
  induction fuel with
  | zero => intro remaining body; exact does_pure hR _
  | succ fuel ih =>
      intro remaining body
      refine .ite (fun _ => does_pure hR _) fun _ => (does_ask hR _).bind hR fun received => ?_
      cases received with
      | bytes data => exact .ite (fun _ => does_pure hR _) fun _ => ih _ _
      | timeout => exact does_pure hR _
      | failed => exact does_pure hR _

theorem does_readBody (req : Request) (bufLen : ℕ) : Does R (readBody env req bufLen) := by
  refine .ite (fun _ => does_pure hR _) fun _ => .ite (fun _ => does_pure hR _) fun _ => ?_
  exact (does_readBodyLoop env hR _ _ _).bind hR fun _ => does_pure hR _

theorem does_readJson (pf : Platform) (req : Request) (bufLen : ℕ) :
    Does R (readJson env pf req bufLen) := by
  refine (does_readBody env hR req bufLen).bind hR fun body => ?_
  cases body with
  | absent => exact does_stop hR _
  | failed => exact does_stop hR _
  | complete bytes =>
      dsimp only
      cases pf.cJSONParse (ofBuffer bytes) with
      | none => exact does_stop hR _
      | some json => exact does_pure hR _

end

end WebTerminal
