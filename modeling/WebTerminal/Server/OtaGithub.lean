import WebTerminal.Server.Board

/-!
# Updates from GitHub

`ota_github.c`: reading the latest release, comparing its version with the
running one and downloading the image for this chip.
-/

set_option autoImplicit false

namespace WebTerminal

open Proc

def isSpace (c : UInt8) : Bool := c = 32 || (9 ≤ c && c ≤ 13)

def isDigit (c : UInt8) : Bool := 48 ≤ c && c ≤ 57

/-- The conversion `%d` of `sscanf`: the number and the rest of the input. -/
def scanInt (s : CString) : Option (ℤ × CString) :=
  let s := s.dropWhile isSpace
  let negative := s.head? = some 45
  let s := if s.head? = some 45 ∨ s.head? = some 43 then s.tail else s
  let digits := s.takeWhile isDigit
  if digits = [] then none
  else
    let n : ℕ := digits.foldl (fun n c => 10 * n + (c.toNat - 48)) 0
    some (if negative then -(n : ℤ) else n, s.drop digits.length)

/-- `atoi`, on numbers that an `int` holds. -/
def atoi (s : CString) : ℤ :=
  match scanInt s with
  | some (n, _) => n
  | none => 0

/-- The numbers that the format `%d.%d.%d` finds, 0 where it finds none. -/
def scanNumbers (s : CString) : ℤ × ℤ × ℤ :=
  match scanInt s with
  | none => (0, 0, 0)
  | some (major, 46 :: s) =>
      match scanInt s with
      | none => (major, 0, 0)
      | some (minor, 46 :: s) => (major, minor, atoi s)
      | some (minor, _) => (major, minor, 0)
  | some (major, _) => (major, 0, 0)

/-- An `int` holds the number. -/
def fitsInt (n : ℤ) : Bool := decide (-2147483648 ≤ n ∧ n < 2147483648)

/-- What is left of a number in an `int`: the chip keeps 32 bits of a difference. -/
def wrapInt (n : ℤ) : ℤ := n.bmod 4294967296

section

variable (pf : Platform)

/-- `sscanf(s, "%d.%d.%d", ..)` on `int`s that hold 0. -/
def scanVersion (s : CString) : ℤ × ℤ × ℤ :=
  let (major, minor, patch) := scanNumbers s
  if fitsInt major && fitsInt minor && fitsInt patch then (major, minor, patch)
  else
    let (major, minor, patch) := pf.scanBeyond s
    (major.toInt, minor.toInt, patch.toInt)

/-- `semver_compare` -/
def semverCompare (a b : CString) : ℤ :=
  let (aMajor, aMinor, aPatch) := scanVersion pf a
  let (bMajor, bMinor, bPatch) := scanVersion pf b
  if aMajor ≠ bMajor then wrapInt (aMajor - bMajor)
  else if aMinor ≠ bMinor then wrapInt (aMinor - bMinor)
  else wrapInt (aPatch - bPatch)

end

/-- `ota_github_check_result_t` -/
structure OtaCheck where
  updateAvailable : Bool
  latestVersion : CString
  assetUrl : CString
  deriving DecidableEq

/-- `RESPONSE_BUFFER_SIZE` -/
abbrev responseBufferSize : ℕ := 16384

section

variable (pf : Platform) (env : Env)

/-- The loop that reads the response, which takes at most as many rounds as there
is room for bytes. -/
def readResponse : ℕ → List UInt8 → BoardM (List UInt8)
  | 0, buffer => return buffer
  | fuel + 1, buffer => do
      let received ← ask env.recv
      match received with
      | .bytes data =>
          let data := data.take (responseBufferSize - 1 - buffer.length)
          if data = [] then return buffer else readResponse fuel (buffer ++ data)
      | _ => return buffer

/-- The tag without one leading `v` or `V`. -/
def stripV : CString → CString
  | 118 :: rest => rest
  | 86 :: rest => rest
  | tag => tag

/-- The loop over the assets: the URL of the first asset with this name. -/
def assetUrl (expectedName : CString) (assets : List CJson) : Option CString :=
  (assets.find? fun asset =>
    CJson.string? (asset.getObjectItem (cstr "name")) == some expectedName).bind fun asset =>
      CJson.string? (asset.getObjectItem (cstr "browser_download_url"))

/-- The part of `ota_github_check` after the response was parsed. -/
def readRelease (root : CJson) : Option OtaCheck :=
  match CJson.string? (root.getObjectItem (cstr "tag_name")) with
  | none => none
  | some tag =>
      let tag := stripV tag
      let assets :=
        match root.getObjectItem (cstr "assets") with
        | some (.array assets) => assets
        | _ => []
      let name := cstr ("esp32-web-terminal-" ++ pf.target.name ++ ".bin")
      let url := strncpy 256 ((assetUrl name assets).getD [])
      some
        { updateAvailable := decide (0 < semverCompare pf tag pf.version ∧ url ≠ [])
          latestVersion := strncpy 32 tag
          assetUrl := url }

/-- `ota_github_check`: the release, or the error. -/
def otaGithubCheck : BoardM (Except EspErr OtaCheck) := do
  let err ← ask env.err
  if err ≠ .ok then return .error err
  else do
    let headers ← ask env.httpHeaders
    if headers.1 ≠ 200 then return .error .fail
    else do
      let buffer ← readResponse env (responseBufferSize - 1) []
      if buffer.length = 0 then return .error .fail
      else
        return match (pf.cJSONParse (ofBuffer buffer)).bind (readRelease pf) with
          | none => .error .fail
          | some release => .ok release

/-- `ota_github_apply`.  The answer of `esp_https_ota_perform` is its last one: it
is called again as long as it answers `ESP_ERR_HTTPS_OTA_IN_PROGRESS`. -/
def otaGithubApply (url : CString) : BoardM EspErr := do
  emit (.httpsOta url)
  let err ← ask env.err
  if err ≠ .ok then return err
  else do
    let err ← ask env.err
    if err ≠ .ok then do
      emit .otaAbort
      return err
    else do
      let err ← ask env.err
      if err ≠ .ok then return err
      else do
        emit .otaSetBootPartition
        return .ok

end

end WebTerminal
