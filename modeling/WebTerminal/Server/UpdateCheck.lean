import WebTerminal.Server.System
import WebTerminal.Server.Versions
import WebTerminal.Store.ConfigMachine

/-!
# The update check

`ota_github_check` with its out-parameter: `*result` is zeroed first, and filled in as far
as the check gets.  What it owes its caller is `UpdateChecked`: an error and no update, or
the newer release with the URL of its image for this chip.

The URL is copied with `strncpy` into 256 bytes and `update_available` is decided from
whether something is there, so that a URL that does not fit is cut and offered all the
same.  And the versions are compared by a subtraction, which overflows between numbers that
lie far apart.  The check is right exactly if neither happens.
-/

set_option autoImplicit false

namespace WebTerminal

open Proc

/-- From question `k` on, calls of `esp_http_client_read` deliver `body` in pieces, with room
for `room` bytes. -/
inductive Responds (env : Env) : ℕ → ℕ → List UInt8 → Prop
  | full (k : ℕ) : Responds env k 0 []
  | ends {k room : ℕ} (hroom : room ≠ 0)
      (hnothing : ∀ data, env.recv k = .bytes data → data.take room = []) : Responds env k room []
  | piece {k room : ℕ} {data rest : List UInt8} (hrecv : env.recv k = .bytes data)
      (hsome : data.take room ≠ [])
      (hrest : Responds env (k + 1) (room - (data.take room).length) rest) :
      Responds env k room (data.take room ++ rest)

/-- `expected_name` -/
def imageName (pf : Platform) : CString := cstr ("esp32-web-terminal-" ++ pf.target.name ++ ".bin")

/-- `memset(result, 0, sizeof(*result))` -/
def OtaCheck.zero : OtaCheck where
  updateAvailable := false
  latestVersion := []
  assetUrl := []

section

variable (pf : Platform) (env : Env)

/-- The loop over the assets and the copy of the URL it finds. -/
def copyUrl (root : CJson) (result : OtaCheck) : OtaCheck :=
  match root.getObjectItem (cstr "assets") with
  | some (.array assets) =>
      match assetUrl (imageName pf) assets with
      | some url => { result with assetUrl := strncpy 256 url }
      | none => result
  | _ => result

/-- The part of `ota_github_check` after the tag was found. -/
def fillResult (root : CJson) (tag : CString) : OtaCheck :=
  let tagStr := stripV tag
  let result : OtaCheck := { OtaCheck.zero with
    latestVersion := strncpy 32 tagStr
    updateAvailable := decide (0 < semverCompare pf tagStr pf.version) }
  let result := copyUrl pf root result
  if result.updateAvailable = true ∧ result.assetUrl = [] then
    { result with updateAvailable := false }
  else result

/-- `ota_github_check`, with the answer of `malloc`: what it returns, and `*result`. -/
def otaGithubCheckInto (allocated : Bool) : BoardM (EspErr × OtaCheck) := do
  let result := OtaCheck.zero
  if allocated = false then return (.noMem, result)
  else do
    let err ← ask env.err
    if err ≠ .ok then return (err, result)
    else do
      let headers ← ask env.httpHeaders
      if headers.1 ≠ 200 then return (.fail, result)
      else do
        let buffer ← readResponse env (responseBufferSize - 1) []
        if buffer.length = 0 then return (.fail, result)
        else
          match pf.cJSONParse (ofBuffer buffer) with
          | none => return (.fail, result)
          | some root =>
              match CJson.string? (root.getObjectItem (cstr "tag_name")) with
              | none => return (.fail, result)
              | some tag => return (.ok, fillResult pf root tag)

end

/-! ## What the check is for -/

/-- `url` is the download URL of the first asset with this name. -/
def FirstAsset (name : CString) (assets : List CJson) (url : CString) : Prop :=
  ∃ before asset after, assets = before ++ asset :: after ∧
    (∀ other ∈ before, CJson.string? (other.getObjectItem (cstr "name")) ≠ some name) ∧
    CJson.string? (asset.getObjectItem (cstr "name")) = some name ∧
    CJson.string? (asset.getObjectItem (cstr "browser_download_url")) = some url

/-- `url` is where the release has the image for this chip. -/
def ImageUrl (pf : Platform) (root : CJson) (url : CString) : Prop :=
  url ≠ [] ∧ ∃ assets, root.getObjectItem (cstr "assets") = some (.array assets) ∧
    FirstAsset (imageName pf) assets url

/-- The server answers with status 200 and a release, which fits the buffer. -/
structure Released (pf : Platform) (env : Env) (allocated : Bool) (root : CJson) (tag : CString) :
    Prop where
  allocated : allocated = true
  opened : env.err 0 = .ok
  status : (env.httpHeaders 1).1 = 200
  body : ∃ body, Responds env 2 (responseBufferSize - 1) body ∧ body ≠ [] ∧
    pf.cJSONParse (ofBuffer body) = some root
  tagged : CJson.string? (root.getObjectItem (cstr "tag_name")) = some tag

/-- The version of a release is greater than the running one, by their numbers. -/
def Newer (pf : Platform) (tag : CString) : Prop :=
  scannedVersion pf pf.version < scannedVersion pf (stripV tag)

/-- The difference that `semver_compare` returns for the release fits an `int`. -/
def Comparable (pf : Platform) (tag : CString) : Prop :=
  (semverCompareInt pf (stripV tag) pf.version).isSome = true

/-- The release passes the comparison of `ota_github_check`. -/
abbrev Passes (pf : Platform) (tag : CString) : Prop :=
  0 < semverCompare pf (stripV tag) pf.version

theorem passes_iff_newer (pf : Platform) (tag : CString) :
    (Passes pf tag ↔ Newer pf tag) ↔ Comparable pf tag :=
  semverCompare_pos_iff pf (stripV tag) pf.version

/-- What is returned for a release: the update that `ota_github_apply` then downloads. -/
structure ReleaseChecked (pf : Platform) (env : Env) (root : CJson) (tag : CString)
    (returned : EspErr × OtaCheck) : Prop where
  ok : returned.1 = .ok
  available : returned.2.updateAvailable = true ↔ Newer pf tag ∧ ∃ url, ImageUrl pf root url
  exact : returned.2.updateAvailable = true → ImageUrl pf root returned.2.assetUrl
  downloads : returned.2.updateAvailable = true → ∀ w : World Board Effect, ∃ es,
    ((otaGithubApply env returned.2.assetUrl).final w).shown = w.shown ++ es ∧
      ∀ url, .httpsOta url ∈ es ↔ ImageUrl pf root url

/-- What `ota_github_check` owes its caller. -/
def UpdateChecked (pf : Platform) (env : Env) (allocated : Bool) (board : Board) : Prop :=
  ∃ returned v, otaGithubCheckInto pf env allocated board.start = .ok returned v ∧
    (∀ root tag, Released pf env allocated root tag → ReleaseChecked pf env root tag returned) ∧
    ((∀ root tag, ¬Released pf env allocated root tag) →
      returned.1 ≠ .ok ∧ returned.2.updateAvailable = false)

/-! ## The response -/

section

variable {env : Env} {k room : ℕ} {body body' : List UInt8}

/-- A connection delivers one response. -/
theorem Responds.unique (h : Responds env k room body) (h' : Responds env k room body') :
    body' = body := by
  induction h generalizing body' with
  | full k =>
      cases h' with
      | full => rfl
      | ends hroom => exact absurd rfl hroom
      | piece _ hsome => exact absurd List.take_zero hsome
  | ends hroom hnothing =>
      cases h' with
      | full => rfl
      | ends => rfl
      | piece hrecv hsome => exact absurd (hnothing _ hrecv) hsome
  | piece hrecv hsome hrest ih =>
      cases h' with
      | full => exact absurd List.take_zero hsome
      | ends _ hnothing => exact absurd (hnothing _ hrecv) hsome
      | piece hrecv' _ hrest' =>
          obtain rfl := RecvResult.bytes.inj (hrecv.symm.trans hrecv')
          rw [ih hrest']

/-- The loop reads the response. -/
theorem readResponse_responds (env : Env) : ∀ (fuel : ℕ) (buffer : List UInt8),
    responseBufferSize - 1 - buffer.length ≤ fuel → ∀ w : World Board Effect, ∃ body n,
      Responds env w.asked (responseBufferSize - 1 - buffer.length) body ∧
        readResponse env fuel buffer w = .ok (buffer ++ body) { w with asked := n } := by
  intro fuel
  induction fuel with
  | zero =>
      intro buffer hfuel w
      rw [Nat.le_zero.mp hfuel]
      exact ⟨[], w.asked, .full _, by rw [List.append_nil]; rfl⟩
  | succ fuel ih =>
      intro buffer hfuel w
      rw [readResponse, bind_ok (ask_apply _ _)]
      rcases recv_cases env w.asked (responseBufferSize - 1 - buffer.length) with
        ⟨data, hrecv, hsome⟩ | hnothing
      · have hpos := List.length_pos_iff.mpr hsome
        rw [hrecv]
        dsimp only
        rw [if_neg hsome]
        generalize hpiece : data.take (responseBufferSize - 1 - buffer.length) = piece at hpos hsome
        have hroom : responseBufferSize - 1 - (buffer ++ piece).length =
            responseBufferSize - 1 - buffer.length - piece.length := by
          rw [List.length_append, Nat.sub_sub _ buffer.length]
        obtain ⟨body, n, hresponds, hrun⟩ := ih (buffer ++ piece) (by omega)
          { w with asked := w.asked + 1 }
        refine ⟨piece ++ body, n, ?_, by rw [hrun, List.append_assoc]⟩
        rw [hroom] at hresponds
        subst hpiece
        exact .piece hrecv hsome hresponds
      · -- the end of the response, or of the room for it
        have hends : ∃ body, Responds env w.asked (responseBufferSize - 1 - buffer.length) body ∧
            body = [] := by
          by_cases hroom : responseBufferSize - 1 - buffer.length = 0
          · rw [hroom]
            exact ⟨[], .full _, rfl⟩
          · exact ⟨[], .ends hroom hnothing, rfl⟩
        obtain ⟨_, hresponds, rfl⟩ := hends
        refine ⟨[], w.asked + 1, hresponds, ?_⟩
        rw [List.append_nil]
        cases hrecv : env.recv w.asked with
        | bytes data =>
            dsimp only
            rw [if_pos (hnothing data hrecv)]
            rfl
        | timeout => rfl
        | failed => rfl

end

/-! ## The asset -/

section

variable {pf : Platform} {root : CJson} {name url url' : CString} {assets : List CJson}

/-- The loop over the assets finds the first one with the name. -/
theorem assetUrl_eq_some_iff : assetUrl name assets = some url ↔ FirstAsset name assets url := by
  unfold assetUrl FirstAsset
  rw [Option.bind_eq_some_iff]
  constructor
  · rintro ⟨asset, hfind, hurl⟩
    obtain ⟨hname, before, after, heq, hbefore⟩ := List.find?_eq_some_iff_append.mp hfind
    refine ⟨before, asset, after, heq, fun other hmem hother => ?_, eq_of_beq hname, hurl⟩
    simpa [hother] using hbefore other hmem
  · rintro ⟨before, asset, after, heq, hbefore, hname, hurl⟩
    refine ⟨asset, List.find?_eq_some_iff_append.mpr
      ⟨beq_of_eq hname, before, after, heq, ?_⟩, hurl⟩
    intro other hmem
    simpa using hbefore other hmem

/-- The URL of the image, as the check looks for it. -/
def foundUrl (pf : Platform) (root : CJson) : CString :=
  match root.getObjectItem (cstr "assets") with
  | some (.array assets) => (assetUrl (imageName pf) assets).getD []
  | _ => []

theorem imageUrl_iff : ImageUrl pf root url ↔ url ≠ [] ∧ foundUrl pf root = url := by
  unfold ImageUrl foundUrl
  refine and_congr_right fun hne => ?_
  constructor
  · rintro ⟨assets, hassets, hfirst⟩
    rw [hassets]
    dsimp only
    rw [assetUrl_eq_some_iff.mpr hfirst]
    rfl
  · intro hfound
    split at hfound
    next assets hassets =>
      refine ⟨assets, hassets, assetUrl_eq_some_iff.mp ?_⟩
      cases hurl : assetUrl (imageName pf) assets with
      | none => rw [hurl] at hfound; exact absurd hfound.symm hne
      | some found => rw [hurl] at hfound; exact congrArg some hfound
    next => exact absurd hfound.symm hne

theorem ImageUrl.unique (h : ImageUrl pf root url) (h' : ImageUrl pf root url') : url' = url :=
  (imageUrl_iff.mp h').2.symm.trans (imageUrl_iff.mp h).2

theorem exists_imageUrl_iff : (∃ url, ImageUrl pf root url) ↔ foundUrl pf root ≠ [] := by
  constructor
  · rintro ⟨url, h⟩
    obtain ⟨hne, hfound⟩ := imageUrl_iff.mp h
    rwa [hfound]
  · exact fun hne => ⟨_, imageUrl_iff.mpr ⟨hne, rfl⟩⟩

theorem strncpy_url_eq_nil (url : CString) : strncpy 256 url = [] ↔ url = [] := by
  simp [strncpy]

theorem copyUrl_eq {result : OtaCheck} (hzero : result.assetUrl = []) :
    copyUrl pf root result = { result with assetUrl := strncpy 256 (foundUrl pf root) } := by
  obtain ⟨available, version, url⟩ := result
  subst hzero
  unfold copyUrl foundUrl
  split
  next assets _ => cases assetUrl (imageName pf) assets <;> rfl
  next => rfl

/-- What is filled in: the URL as far as it fits, offered if something is there. -/
theorem fillResult_eq (pf : Platform) (root : CJson) (tag : CString) :
    fillResult pf root tag =
      { updateAvailable := decide (Passes pf tag ∧ foundUrl pf root ≠ [])
        latestVersion := strncpy 32 (stripV tag)
        assetUrl := strncpy 256 (foundUrl pf root) } := by
  unfold fillResult
  dsimp only
  rw [copyUrl_eq rfl]
  dsimp only
  by_cases hfound : foundUrl pf root = []
  · by_cases hpasses : Passes pf tag
    · rw [if_pos ⟨decide_eq_true hpasses, (strncpy_url_eq_nil _).mpr hfound⟩]
      simp [hfound]
    · rw [if_neg fun h => hpasses (of_decide_eq_true h.1)]
      simp [hfound, hpasses]
  · rw [if_neg fun h => hfound ((strncpy_url_eq_nil _).mp h.2)]
    simp [hfound]

end

/-! ## The download -/

/-- `ota_github_apply` downloads from the URL it is given, once. -/
theorem otaGithubApply_shown (env : Env) (url : CString) (w : World Board Effect) :
    ∃ es, ((otaGithubApply env url).final w).shown = w.shown ++ .httpsOta url :: es ∧
      ∀ other, .httpsOta other ∉ es := by
  unfold otaGithubApply
  rw [final_bind_of_ok (emit_apply _ _), final_bind_of_ok (ask_apply _ _)]
  split
  next => exact ⟨[], by simp, fun _ => List.not_mem_nil⟩
  next =>
    rw [final_bind_of_ok (ask_apply _ _)]
    split
    next =>
      refine ⟨[.otaAbort], ?_, by simp⟩
      rw [final_bind_of_ok (emit_apply _ _)]
      simp
    next =>
      rw [final_bind_of_ok (ask_apply _ _)]
      split
      next => exact ⟨[], by simp, fun _ => List.not_mem_nil⟩
      next =>
        refine ⟨[.otaSetBootPartition], ?_, by simp⟩
        rw [final_bind_of_ok (emit_apply _ _)]
        simp

/-! ## The check -/

section

variable {pf : Platform} {env : Env} {allocated : Bool} {root root' : CJson} {tag tag' : CString}

/-- The response is the text of the release. -/
theorem Released.parsed {body : List UInt8} (h : Released pf env allocated root tag)
    (hresponds : Responds env 2 (responseBufferSize - 1) body) :
    body ≠ [] ∧ pf.cJSONParse (ofBuffer body) = some root := by
  obtain ⟨body', hresponds', hne, hparse⟩ := h.body
  rw [hresponds.unique hresponds'] at hne hparse
  exact ⟨hne, hparse⟩

theorem Released.unique (h : Released pf env allocated root tag)
    (h' : Released pf env allocated root' tag') : root' = root ∧ tag' = tag := by
  obtain ⟨body, hresponds, -, hparse⟩ := h.body
  obtain rfl := Option.some.inj (hparse.symm.trans (h'.parsed hresponds).2)
  exact ⟨rfl, Option.some.inj (h'.tagged.symm.trans h.tagged)⟩

/-- How `ota_github_check` ends: with the release, or with an error and the zeroed result. -/
theorem otaGithubCheckInto_cases (pf : Platform) (env : Env) (allocated : Bool) (board : Board) :
    (∃ root tag v, Released pf env allocated root tag ∧
      otaGithubCheckInto pf env allocated board.start = .ok (.ok, fillResult pf root tag) v) ∨
    (∀ root tag, ¬Released pf env allocated root tag) ∧ ∃ err v, err ≠ .ok ∧
      otaGithubCheckInto pf env allocated board.start = .ok (err, OtaCheck.zero) v := by
  unfold otaGithubCheckInto Board.start
  by_cases halloc : allocated = false
  · refine .inr ⟨fun root tag h => ?_, .noMem, _, nofun, by rw [if_pos halloc]; rfl⟩
    cases halloc.symm.trans h.allocated
  · rw [if_neg halloc, bind_ok (ask_apply _ _)]
    dsimp only
    by_cases hopen : env.err 0 ≠ .ok
    · exact .inr ⟨fun root tag h => hopen h.opened, env.err 0, _, hopen, by rw [if_pos hopen]; rfl⟩
    · rw [if_neg hopen, bind_ok (ask_apply _ _)]
      dsimp only
      by_cases hstatus : (env.httpHeaders 1).1 ≠ 200
      · exact .inr ⟨fun root tag h => hstatus h.status, .fail, _, nofun,
          by rw [if_pos hstatus]; rfl⟩
      · obtain ⟨body, n, hresponds, hread⟩ := readResponse_responds env (responseBufferSize - 1) []
          le_rfl ⟨board, 2, []⟩
        rw [if_neg hstatus, bind_ok hread, List.nil_append]
        by_cases hempty : body.length = 0
        · refine .inr ⟨fun root tag h => ?_, .fail, _, nofun, by rw [if_pos hempty]; rfl⟩
          exact (h.parsed hresponds).1 (List.length_eq_zero_iff.mp hempty)
        · rw [if_neg hempty]
          cases hparse : pf.cJSONParse (ofBuffer body) with
          | none =>
              refine .inr ⟨fun root tag h => ?_, .fail, _, nofun, rfl⟩
              cases hparse.symm.trans (h.parsed hresponds).2
          | some root =>
              dsimp only
              cases htag : CJson.string? (root.getObjectItem (cstr "tag_name")) with
              | none =>
                  refine .inr ⟨fun root' tag h => ?_, .fail, _, nofun, rfl⟩
                  obtain rfl := Option.some.inj (hparse.symm.trans (h.parsed hresponds).2)
                  cases htag.symm.trans h.tagged
              | some tag =>
                  refine .inl ⟨root, tag, _, ⟨Bool.not_eq_false allocated ▸ halloc,
                    not_not.mp hopen, not_not.mp hstatus,
                    ⟨body, hresponds, fun h => hempty (by rw [h]; rfl), hparse⟩,
                    htag⟩, rfl⟩

theorem readRelease_eq (pf : Platform) (root : CJson) :
    readRelease pf root =
      (CJson.string? (root.getObjectItem (cstr "tag_name"))).map (fillResult pf root) := by
  unfold readRelease
  cases CJson.string? (root.getObjectItem (cstr "tag_name")) with
  | none => rfl
  | some tag =>
      rw [Option.map_some, fillResult_eq]
      dsimp only
      split
      next assets hassets =>
        have hfound : foundUrl pf root = (assetUrl (imageName pf) assets).getD [] := by
          unfold foundUrl
          rw [hassets]
        rw [hfound]
        exact congrArg (fun available => some (OtaCheck.mk available _ _))
          (decide_eq_decide.mpr (and_congr_right fun _ => not_congr (strncpy_url_eq_nil _)))
      next hnone =>
        have hfound : foundUrl pf root = [] := by
          unfold foundUrl
          split
          next assets hassets => exact absurd hassets (hnone assets)
          next => rfl
        rw [hfound]
        simp [assetUrl, strncpy]

/-- With its buffer allocated, the check is the one the handlers run. -/
theorem otaGithubCheck_eq_into (pf : Platform) (env : Env) :
    otaGithubCheck pf env = otaGithubCheckInto pf env true >>= fun returned =>
      return if returned.1 = .ok then .ok returned.2 else .error returned.1 := by
  funext w
  unfold otaGithubCheck otaGithubCheckInto
  rw [if_neg (by simp)]
  simp only [bind_assoc]
  rw [bind_ok (ask_apply _ _), bind_ok (ask_apply _ _)]
  by_cases hopen : env.err w.asked ≠ .ok
  · rw [if_pos hopen, if_pos hopen, pure_bind, if_neg hopen]
  · rw [if_neg hopen, if_neg hopen]
    simp only [bind_assoc]
    rw [bind_ok (ask_apply _ _), bind_ok (ask_apply _ _)]
    dsimp only
    by_cases hstatus : (env.httpHeaders (w.asked + 1)).1 ≠ 200
    · rw [if_pos hstatus, if_pos hstatus, pure_bind, if_neg nofun]
    · rw [if_neg hstatus, if_neg hstatus]
      simp only [bind_assoc]
      obtain ⟨body, n, -, hread⟩ := readResponse_responds env (responseBufferSize - 1) [] le_rfl
        { w with asked := w.asked + 1 + 1 }
      rw [bind_ok hread, bind_ok hread, List.nil_append]
      by_cases hempty : body.length = 0
      · rw [if_pos hempty, if_pos hempty, pure_bind, if_neg nofun]
      · rw [if_neg hempty, if_neg hempty]
        cases pf.cJSONParse (ofBuffer body) with
        | none => rfl
        | some root =>
            rw [Option.bind_some, readRelease_eq]
            dsimp only
            cases CJson.string? (root.getObjectItem (cstr "tag_name")) <;> rfl

/-- Of a release without an image for this chip nothing is offered. -/
theorem releaseChecked_of_none (env : Env) (tag : CString) (hnone : foundUrl pf root = []) :
    ReleaseChecked pf env root tag (.ok, fillResult pf root tag) := by
  rw [fillResult_eq]
  have hnot : ¬(Passes pf tag ∧ foundUrl pf root ≠ []) := fun h => h.2 hnone
  have hnever : decide (Passes pf tag ∧ foundUrl pf root ≠ []) = true → False := fun h =>
    hnot (of_decide_eq_true h)
  refine ⟨rfl, ⟨fun h => (hnever h).elim, ?_⟩, fun h => (hnever h).elim, fun h => (hnever h).elim⟩
  rintro ⟨-, himage⟩
  exact absurd hnone (exists_imageUrl_iff.mp himage)

/-- An image is offered as it should be exactly if the comparison does not overflow and the
URL fits. -/
theorem releaseChecked_iff (env : Env) (tag : CString) {url : CString}
    (himage : ImageUrl pf root url) :
    ReleaseChecked pf env root tag (.ok, fillResult pf root tag) ↔
      Comparable pf tag ∧ (Newer pf tag → url.length ≤ 255) := by
  obtain ⟨hne, rfl⟩ := imageUrl_iff.mp himage
  rw [fillResult_eq]
  have havailable : decide (Passes pf tag ∧ foundUrl pf root ≠ []) = true ↔ Passes pf tag := by
    rw [decide_eq_true_iff, and_iff_left hne]
  have hnewer : Newer pf tag ∧ (∃ url, ImageUrl pf root url) ↔ Newer pf tag :=
    and_iff_left ⟨_, himage⟩
  constructor
  · intro h
    have hsame : Passes pf tag ↔ Newer pf tag :=
      havailable.symm.trans (h.available.trans hnewer)
    refine ⟨(passes_iff_newer pf tag).mp hsame, fun hnew => ?_⟩
    have hexact := h.exact (havailable.mpr (hsame.mpr hnew))
    rw [hexact.unique himage]
    exact Nat.le_of_lt_succ (length_strncpy_lt (by decide) _)
  · rintro ⟨hcomparable, hfits⟩
    have hsame := (passes_iff_newer pf tag).mpr hcomparable
    have hwhole : Passes pf tag → ImageUrl pf root (strncpy 256 (foundUrl pf root)) := by
      intro hpasses
      rwa [strncpy_eq_self (Nat.lt_succ_of_le (hfits (hsame.mp hpasses)))]
    refine ⟨rfl, havailable.trans (hsame.trans hnewer.symm), fun h => hwhole (havailable.mp h),
      fun h w => ?_⟩
    obtain ⟨es, hshown, hquiet⟩ := otaGithubApply_shown env (strncpy 256 (foundUrl pf root)) w
    refine ⟨_, hshown, fun url => ⟨fun hmem => ?_, fun himage => ?_⟩⟩
    · rcases List.mem_cons.mp hmem with heq | hmem
      · obtain rfl := Effect.httpsOta.inj heq
        exact hwhole (havailable.mp h)
      · exact absurd hmem (hquiet url)
    · rw [himage.unique (hwhole (havailable.mp h))]
      exact List.mem_cons_self

/-- **The update check offers the right image exactly if its URL fits and the comparison of
the versions does not overflow.**  Of a release that is not newer than the running version
only the latter is asked, of one that has no image for this chip nothing; a check that gets
no release fails and offers nothing. -/
theorem update_check_right_iff (pf : Platform) (env : Env) (allocated : Bool) (board : Board) :
    UpdateChecked pf env allocated board ↔ ∀ root tag url, Released pf env allocated root tag →
      ImageUrl pf root url → Comparable pf tag ∧ (Newer pf tag → url.length ≤ 255) := by
  rcases otaGithubCheckInto_cases pf env allocated board with
    ⟨root, tag, v, hreleased, hrun⟩ | ⟨hnone, err, v, herr, hrun⟩
  · constructor
    · rintro ⟨returned, v', hrun', hchecked, -⟩ root' tag' url h himage
      obtain ⟨rfl, rfl⟩ := hreleased.unique h
      obtain ⟨rfl, -⟩ := EStateM.Result.ok.inj (hrun.symm.trans hrun')
      exact (releaseChecked_iff env _ himage).mp (hchecked _ _ h)
    · refine fun hright => ⟨_, v, hrun, fun root' tag' h => ?_,
        fun hnone => absurd hreleased (hnone root tag)⟩
      obtain ⟨rfl, rfl⟩ := hreleased.unique h
      by_cases hfound : foundUrl pf root' = []
      · exact releaseChecked_of_none env tag' hfound
      · obtain ⟨url, himage⟩ := exists_imageUrl_iff.mpr hfound
        exact (releaseChecked_iff env tag' himage).mpr (hright _ _ url h himage)
  · refine ⟨fun _ root tag _ h => absurd h (hnone root tag), fun _ => ⟨_, v, hrun, ?_, ?_⟩⟩
    · exact fun root tag h => absurd h (hnone root tag)
    · exact fun _ => ⟨herr, rfl⟩

end

/-- A URL of 256 bytes. -/
def demoLongUrl : CString := cstr "https://host/" ++ List.replicate 243 97

/-- A release with an image at this URL. -/
def demoReleaseText : CString :=
  cstr "\x7b\"tag_name\":\"v2.0.0\",\"assets\":[\x7b\"name\":\"esp32-web-terminal-esp32c6.bin\"," ++
    cstr "\"browser_download_url\":\"" ++ demoLongUrl ++ cstr "\"\x7d]\x7d"

def demoAsset : CJson :=
  .object [(cstr "name", .string (cstr "esp32-web-terminal-esp32c6.bin")),
    (cstr "browser_download_url", .string demoLongUrl)]

def demoRelease : CJson :=
  .object [(cstr "tag_name", .string (cstr "v2.0.0")), (cstr "assets", .array [demoAsset])]

/-- The response comes in as one piece, and the connection is closed. -/
def demoReleaseEnv : Env :=
  { demoEnv 1 [] with recv := fun k => if k = 2 then .bytes demoReleaseText else .bytes [] }

/-- The update is offered with the first 255 bytes of its URL. -/
theorem update_check_cuts_url :
    ¬UpdateChecked (demoPlatform [(demoReleaseText, demoRelease)]) demoReleaseEnv true
      demoSystem.device.board := by
  rintro ⟨returned, v, hrun, hchecked, -⟩
  have hreleased : Released (demoPlatform [(demoReleaseText, demoRelease)]) demoReleaseEnv true
      demoRelease (cstr "v2.0.0") := by
    have hresponds : Responds demoReleaseEnv 2 (responseBufferSize - 1)
        (demoReleaseText.take (responseBufferSize - 1) ++ []) :=
      .piece rfl (by decide +kernel) (.ends (by decide +kernel) fun data hrecv => by
        obtain rfl := RecvResult.bytes.inj hrecv
        exact List.take_nil)
    have hbody : ofBuffer (demoReleaseText.take (responseBufferSize - 1) ++ []) =
        demoReleaseText := by
      decide +kernel
    exact ⟨rfl, rfl, rfl, ⟨_, hresponds, by decide +kernel, by rw [hbody]; simp [demoPlatform]⟩,
      by decide +kernel⟩
  have hcomparable : Comparable (demoPlatform [(demoReleaseText, demoRelease)])
      (cstr "v2.0.0") := by
    unfold Comparable
    decide +kernel
  have hnewer : Newer (demoPlatform [(demoReleaseText, demoRelease)]) (cstr "v2.0.0") :=
    ((passes_iff_newer _ _).mpr hcomparable).mp (by decide +kernel)
  have himage : ImageUrl (demoPlatform [(demoReleaseText, demoRelease)]) demoRelease demoLongUrl :=
    ⟨by decide +kernel, [demoAsset], rfl, [], demoAsset, [], rfl, nofun, by decide +kernel,
      by decide +kernel⟩
  rcases otaGithubCheckInto_cases (demoPlatform [(demoReleaseText, demoRelease)])
    demoReleaseEnv true
    demoSystem.device.board with ⟨root, tag, v', hreleased', hrun'⟩ | ⟨hnone, -⟩
  · obtain ⟨rfl, rfl⟩ := hreleased.unique hreleased'
    obtain ⟨rfl, -⟩ := EStateM.Result.ok.inj (hrun'.symm.trans hrun)
    have hshort := ((releaseChecked_iff _ _ himage).mp (hchecked _ _ hreleased)).2 hnewer
    exact absurd hshort (by decide +kernel)
  · exact hnone _ _ hreleased

end WebTerminal
