import WebTerminal.Tools.FactoryFlash

/-!
# The image of a seed

What the rows of `build_nvs_image` store under each key of the firmware.
-/

set_option autoImplicit false

namespace WebTerminal

namespace FactoryFlash

theorem hexValue_hexDigit {n : ℕ} (hn : n < 16) : hexValue (hexDigit n) = some n := by
  have hall : ∀ m : Fin 16, hexValue (hexDigit m) = some m.val := by decide
  exact hall ⟨n, hn⟩

theorem unhex_hex (bytes : List UInt8) : unhex (hex bytes) = some bytes := by
  induction bytes with
  | nil => rfl
  | cons byte bytes ih =>
      have hbyte := byte.toNat_lt
      have hrest : unhex (bytes.flatMap fun byte =>
          [hexDigit (byte.toNat / 16), hexDigit (byte.toNat % 16)]) = some bytes := ih
      simp only [hex, List.flatMap_cons, List.cons_append, List.nil_append, unhex,
        hexValue_hexDigit (by omega : byte.toNat / 16 < 16),
        hexValue_hexDigit (by omega : byte.toNat % 16 < 16), hrest]
      show some (UInt8.ofNat (16 * (byte.toNat / 16) + byte.toNat % 16) :: bytes) = _
      rw [Nat.div_add_mod, UInt8.ofNat_toNat]

/-- What a string that is not empty stores. -/
def seededString (value : PyStr) : Option NvsValue :=
  if value ≠ [] then some (.str value.encode) else none

/-- What the rows of a password store. -/
def authImage (username : PyStr) (pwHash salt : List UInt8) (forcePasswordChange : Bool) : Nvs
  | .authUser => some (.str username.encode)
  | .authHash => some (.blob pwHash)
  | .authSalt => some (.blob salt)
  | .hashVer => some (.u8 1)
  | .authInit => some (.u8 (if forcePasswordChange then 0 else 1))
  | _ => none

/-- What the image of a seed holds. -/
def Seed.image (sha256 : Digest) (salt : Vector UInt8 authSaltLen) (tokenUrlsafe : PyStr)
    (seed : Seed) : Nvs
  | .staSsid => seededString (get seed.staSsid)
  | .staPass => seededString (get seed.staPass)
  | .apSsid => seededString (get seed.apSsid)
  | .apPass => seededString (get seed.apPass)
  | .devName => seededString (get seed.deviceName)
  | .ntpSrv => seededString (get seed.ntpServer)
  | .timezone => seededString (get seed.timezone)
  | .baudRate 0 =>
      if seed.baudRate.getD 0 ≠ 0 then some (.u32 (UInt32.ofNat (seed.baudRate.getD 0).toNat))
      else none
  | .baudRate _ => none
  | .powerOn => seed.powerOnDefault.map fun powerOn => .u8 (if powerOn then 1 else 0)
  | key =>
      if get seed.password ≠ [] then
        authImage (seed.username.getD "admin".toList)
          (pbkdf2Hmac sha256 (seed.chosenPassword tokenUrlsafe).encode salt.toList) salt.toList
          (seed.forcePasswordChange.getD false) key
      else none

section

variable {sha256 : Digest} {salt : Vector UInt8 authSaltLen} {tokenUrlsafe : PyStr} {seed : Seed}

theorem rowOf_append (rows rows' : List CsvRow) (key : String) :
    rowOf (rows ++ rows') key = (rowOf rows key).or (rowOf rows' key) := List.find?_append

theorem rowOf_stringRow (nvsKey : String) (value : PyStr) (key : String) :
    rowOf (stringRow nvsKey value) key =
      if nvsKey = key ∧ value ≠ [] then some ⟨nvsKey, "data", "string", value⟩ else none := by
  unfold stringRow rowOf
  by_cases hvalue : value = []
  · simp [hvalue]
  · by_cases hkey : nvsKey = key
    · simp [hvalue, hkey]
    · simp [hvalue, hkey]

theorem rowOf_baudRow (baudRate : ℤ) (key : String) :
    rowOf (baudRow baudRate) key =
      if "baud_rate" = key ∧ baudRate ≠ 0 then
        some ⟨"baud_rate", "data", "u32", (toString baudRate).toList⟩
      else none := by
  unfold baudRow rowOf
  by_cases hbaud : baudRate = 0
  · simp [hbaud]
  · by_cases hkey : "baud_rate" = key
    · simp [hbaud, hkey]
    · simp [hbaud, hkey]

theorem rowOf_powerRow (powerOn : Option Bool) (key : String) :
    rowOf (powerRow powerOn) key = if "power_on" = key then
        powerOn.map fun on => ⟨"power_on", "data", "u8", if on then ['1'] else ['0']⟩
      else none := by
  cases powerOn with
  | none => simp [powerRow, rowOf]
  | some on => simp [powerRow, rowOf, List.find?_singleton]

/-- The rows of a password, read back. -/
theorem authRows_image (username : PyStr) (pwHash salt : List UInt8) (forcePasswordChange : Bool)
    {key : NvsKey} (hkey : key.ofCredentials = true) :
    (rowOf (authRows username pwHash salt forcePasswordChange) key.name).bind CsvRow.nvsValue =
      authImage username pwHash salt forcePasswordChange key := by
  cases key with
  | authUser => simp [authRows, rowOf, NvsKey.name, CsvRow.nvsValue, authImage]
  | authHash => simp [authRows, rowOf, NvsKey.name, CsvRow.nvsValue, authImage, unhex_hex]
  | authSalt => simp [authRows, rowOf, NvsKey.name, CsvRow.nvsValue, authImage, unhex_hex]
  | hashVer =>
      simp [authRows, rowOf, NvsKey.name, CsvRow.nvsValue, authImage]
      exact ⟨1, by decide, rfl⟩
  | authInit =>
      cases forcePasswordChange with
      | true =>
          simp [authRows, rowOf, NvsKey.name, CsvRow.nvsValue, authImage]
          exact ⟨0, by decide, rfl⟩
      | false =>
          simp [authRows, rowOf, NvsKey.name, CsvRow.nvsValue, authImage]
          exact ⟨1, by decide, rfl⟩
  | _ => cases hkey

theorem rowOf_authRows_of_setting (username : PyStr) (pwHash salt : List UInt8)
    (forcePasswordChange : Bool) {key : String}
    (hkey : key ∉ ["auth_user", "auth_hash", "auth_salt", "hash_ver", "auth_init"]) :
    rowOf (authRows username pwHash salt forcePasswordChange) key = none := by
  simp only [List.mem_cons, List.not_mem_nil, or_false, not_or] at hkey
  obtain ⟨huser, hhash, hsalt, hver, hinit⟩ := hkey
  simp [authRows, rowOf, Ne.symm huser, Ne.symm hhash, Ne.symm hsalt, Ne.symm hver, Ne.symm hinit]

theorem rowOf_credentialRows_of_setting {key : NvsKey} (hkey : ∀ port, key ≠ .baudRate (port + 1))
    (hsetting : key.ofCredentials = false) :
    rowOf (credentialRows sha256 salt tokenUrlsafe seed) key.name = none := by
  unfold credentialRows
  split
  · apply rowOf_authRows_of_setting
    cases key with
    | baudRate port =>
        cases port with
        | zero => decide
        | succ port => exact absurd rfl (hkey port)
    | _ => first | decide | exact absurd hsetting (by decide)
  · rfl

/-- The rows of the credentials, read back. -/
theorem credentialRows_image {key : NvsKey} (hkey : key.ofCredentials = true) :
    (rowOf (credentialRows sha256 salt tokenUrlsafe seed) key.name).bind CsvRow.nvsValue =
      seed.image sha256 salt tokenUrlsafe key := by
  have himage : seed.image sha256 salt tokenUrlsafe key =
      if get seed.password ≠ [] then
        authImage (seed.username.getD "admin".toList)
          (pbkdf2Hmac sha256 (seed.chosenPassword tokenUrlsafe).encode salt.toList) salt.toList
          (seed.forcePasswordChange.getD false) key
      else none := by
    cases key with
    | baudRate port => cases hkey
    | _ => first | rfl | exact absurd hkey (by decide)
  rw [himage]
  unfold credentialRows
  split
  · exact authRows_image _ _ _ _ hkey
  · rfl

/-- The rows have different keys. -/
theorem rows_keys_nodup (sha256 : Digest) (salt : Vector UInt8 authSaltLen) (tokenUrlsafe : PyStr)
    (seed : Seed) : ((rows sha256 salt tokenUrlsafe seed).map CsvRow.key).Nodup := by
  have hstring : ∀ nvsKey value, ((stringRow nvsKey value).map CsvRow.key).Sublist [nvsKey] := by
    intro nvsKey value
    unfold stringRow
    split
    · exact .refl _
    · exact List.nil_sublist _
  have hbaud : ∀ baudRate, ((baudRow baudRate).map CsvRow.key).Sublist ["baud_rate"] := by
    intro baudRate
    unfold baudRow
    split
    · exact .refl _
    · exact List.nil_sublist _
  have hpower : ∀ powerOn, ((powerRow powerOn).map CsvRow.key).Sublist ["power_on"] := by
    intro powerOn
    cases powerOn with
    | none => exact List.nil_sublist _
    | some powerOn => exact .refl _
  have hauth : ((credentialRows sha256 salt tokenUrlsafe seed).map CsvRow.key).Sublist
      ["auth_user", "auth_hash", "auth_salt", "hash_ver", "auth_init"] := by
    unfold credentialRows
    split
    · exact .refl _
    · exact List.nil_sublist _
  have hrows : ((rows sha256 salt tokenUrlsafe seed).map CsvRow.key).Sublist
      (["key", "webterm"] ++ (["sta_ssid"] ++ ["sta_pass"] ++ ["ap_ssid"] ++ ["ap_pass"] ++
        ["dev_name"] ++ ["ntp_srv"] ++ ["timezone"]) ++ ["baud_rate"] ++ ["power_on"] ++
        ["auth_user", "auth_hash", "auth_salt", "hash_ver", "auth_init"]) := by
    unfold rows
    simp only [List.map_append]
    exact (((List.Sublist.refl _).append (((((((hstring _ _).append (hstring _ _)).append
      (hstring _ _)).append (hstring _ _)).append (hstring _ _)).append (hstring _ _)).append
        (hstring _ _))).append (hbaud _) |>.append (hpower _)).append hauth
  exact hrows.nodup (by decide)

theorem decimal_validBaud {baudRate : ℤ} (h : baudRate ∈ validBauds) :
    decimal (toString baudRate).toList = some baudRate.toNat := by
  simp only [validBauds, List.mem_cons, List.not_mem_nil, or_false] at h
  rcases h with rfl | rfl | rfl | rfl | rfl | rfl | rfl | rfl | rfl <;> decide

theorem dieIf_eq_ok {p : Prop} [Decidable p] {msg : String} : dieIf p msg = .ok () ↔ ¬p := by
  unfold dieIf
  split <;> simp_all

theorem dieIf_bind_eq_ok {p : Prop} [Decidable p] {msg : String}
    {rest : Unit → Except String Unit} :
    (dieIf p msg >>= rest) = .ok () ↔ ¬p ∧ rest () = .ok () := by
  unfold dieIf
  by_cases hp : p
  · simp [hp, bind, Except.bind]
  · simp [hp, bind, Except.bind]

/-- A seed that is accepted has a rate the firmware knows, or none. -/
theorem baudRate_of_accepted (h : validate seed = .ok ()) (hbaud : seed.baudRate.getD 0 ≠ 0) :
    seed.baudRate.getD 0 ∈ validBauds := by
  unfold validate at h
  simp only [dieIf_bind_eq_ok, dieIf_eq_ok] at h
  by_contra hnot
  exact h.2.2.2.2.2.2.2 ⟨hbaud, hnot⟩

/-- `nvs_partition_gen` makes the image of the seed. -/
theorem image_of_rows {nvsPartitionGen : List CsvRow → Nvs} (hgen : StoresRows nvsPartitionGen)
    (h : validate seed = .ok ()) :
    ∀ key, (∀ port, key ≠ .baudRate (port + 1)) →
      nvsPartitionGen (rows sha256 salt tokenUrlsafe seed) key =
        seed.image sha256 salt tokenUrlsafe key := by
  intro key hkey
  rw [hgen _ (rows_keys_nodup sha256 salt tokenUrlsafe seed)]
  have hheader :
      rowOf [⟨"key", "type", "encoding", "value".toList⟩, ⟨"webterm", "namespace", "", []⟩]
      key.name = none := by
    have hnames : key.name ≠ "key" ∧ key.name ≠ "webterm" := by
      cases key with
      | baudRate port => cases port with
        | zero => decide
        | succ port => exact absurd rfl (hkey port)
      | _ => decide
    simp [rowOf, hnames.1.symm, hnames.2.symm]
  -- a string, under the only row with its key
  have hstring : ∀ (nvsKey : String) (value : PyStr),
      ((if value = [] then none else some (⟨nvsKey, "data", "string", value⟩ : CsvRow)).bind
        fun row => row.nvsValue) = seededString value := by
    intro nvsKey value
    unfold seededString
    by_cases hvalue : value = []
    · simp [hvalue]
    · simp [hvalue, CsvRow.nvsValue]
  unfold rows
  simp only [rowOf_append, rowOf_stringRow, rowOf_baudRow, rowOf_powerRow, hheader, Option.none_or]
  cases hcredentials : key.ofCredentials with
  | true =>
      -- only the rows of the password have such a key
      have hothers : "sta_ssid" ≠ key.name ∧ "sta_pass" ≠ key.name ∧ "ap_ssid" ≠ key.name ∧
          "ap_pass" ≠ key.name ∧ "dev_name" ≠ key.name ∧ "ntp_srv" ≠ key.name ∧
          "timezone" ≠ key.name ∧ "baud_rate" ≠ key.name ∧ "power_on" ≠ key.name := by
        cases key with
        | baudRate port => cases hcredentials
        | _ => first | decide | exact absurd hcredentials (by decide)
      obtain ⟨h1, h2, h3, h4, h5, h6, h7, h8, h9⟩ := hothers
      simp only [h1, h2, h3, h4, h5, h6, h7, h8, h9, false_and, if_false, Option.none_or]
      exact credentialRows_image hcredentials
  | false =>
      rw [rowOf_credentialRows_of_setting hkey hcredentials, Option.or_none]
      cases key with
      | baudRate port =>
          cases port with
          | succ port => exact absurd rfl (hkey port)
          | zero =>
              by_cases hbaud : seed.baudRate.getD 0 = 0
              · simp [NvsKey.name, Seed.image, hbaud]
              · simp only [NvsKey.name, Seed.image, CsvRow.nvsValue]
                simp [hbaud]
                exact ⟨_, decimal_validBaud (baudRate_of_accepted h hbaud), rfl⟩
      | powerOn =>
          cases hpower : seed.powerOnDefault with
          | none => simp [NvsKey.name, Seed.image, hpower]
          | some powerOn =>
              cases powerOn <;> simp [NvsKey.name, Seed.image, hpower, CsvRow.nvsValue] <;> decide
      | authUser => cases hcredentials
      | authHash => cases hcredentials
      | authSalt => cases hcredentials
      | authInit => cases hcredentials
      | hashVer => cases hcredentials
      | _ => simp [NvsKey.name, Seed.image, hstring]

end

end FactoryFlash

end WebTerminal
