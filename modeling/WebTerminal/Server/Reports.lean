import WebTerminal.Json.RoundTrip
import WebTerminal.Server.Operations
import WebTerminal.Usb.Bridge

/-!
# The bodies of the reports

The handlers of `Server/Handlers.lean` that only report answer `Response.report`.  Here is
what they report: the values each collects, and the JSON it makes of them.  A handler with
its report is the handler, but for the body.

The text of a report is read back as the report, so that two reports have the same text only
if they report the same.
-/

set_option autoImplicit false

namespace WebTerminal

open Proc

/-! ## What is reported -/

/-- What `handle_sysinfo` collects. -/
structure SysInfo where
  chip : CString
  cores : UInt8
  revision : UInt16
  firmwareVersion : CString
  idfVersion : CString
  buildDate : CString
  buildTime : CString
  /-- the label of the running partition, if there is one -/
  otaPartition : Option CString
  freeHeap : UInt32
  minFreeHeap : UInt32
  uptimeS : Int32

/-- A serial port in `handle_config_get`. -/
structure PortReport where
  name : CString
  type : SerialType
  baudRate : UInt32
  available : Bool

/-- What `handle_config_get` collects. -/
structure ConfigReport where
  baudRate : UInt32
  ports : List PortReport
  powerOn : Bool
  powerOnDefault : Bool
  apSsid : CString
  staSsid : CString
  staConnected : Bool
  staIp : CString
  apIp : CString
  staIp6 : List CString
  apIp6 : List CString
  wifiMode : WifiManagerMode
  authInitialized : Bool
  deviceName : CString
  ntpServer : CString
  ntpActiveServer : CString
  ntpSynced : Bool
  timezone : CString
  firmwareVersion : CString

/-- `uptime_s`: the cast to `int` keeps 32 bits. -/
def uptimeSeconds (uptimeUs : ℕ) : Int32 := Int32.ofNat (uptimeUs / 1000000)

/-- `uptime_str` -/
def uptimeText (uptimeS : ℤ) : CString :=
  let days := decimal (uptimeS.tdiv 86400) ++ cstr "d "
  let hours := decimal ((uptimeS.tmod 86400).tdiv 3600) ++ cstr "h "
  let mins := decimal ((uptimeS.tmod 3600).tdiv 60) ++ cstr "m "
  let secs := decimal (uptimeS.tmod 60) ++ cstr "s"
  strncpy 64 <|
    if 0 < uptimeS.tdiv 86400 then days ++ hours ++ mins ++ secs
    else if 0 < (uptimeS.tmod 86400).tdiv 3600 then hours ++ mins ++ secs
    else mins ++ secs

/-- The `type` of a port. -/
def serialTypeText : SerialType → CString
  | .uart => cstr "uart"
  | .usbCdc => cstr "usb"

/-- The `wifi_mode`. -/
def wifiModeText : WifiManagerMode → CString
  | .ap => cstr "ap"
  | .sta => cstr "sta"
  | .apSta => cstr "ap+sta"

/-- What the report of the settings takes from elsewhere: `s_ports`, the addresses, and the
state of SNTP. -/
structure Surroundings where
  ports : List SerialPort
  staIp : CString
  apIp : CString
  staIp6 : List CString
  apIp6 : List CString
  ntpActiveServer : CString
  ntpSynced : Bool

/-- The values of `handle_config_get`. -/
def configReport (pf : Platform) (around : Surroundings) (board : Board) : ConfigReport where
  baudRate := board.config.baudRate 0
  ports := around.ports.mapIdx fun i port =>
    ⟨port.name, port.type, board.config.baudRate i, port.available⟩
  powerOn := board.gpio.powerOn
  powerOnDefault := board.config.powerOnDefault
  apSsid := board.config.apSsid
  staSsid := board.config.staSsid
  staConnected := board.wifi.staConnected
  staIp := around.staIp
  apIp := around.apIp
  staIp6 := around.staIp6
  apIp6 := around.apIp6
  wifiMode := board.wifi.mode
  authInitialized := board.config.authInitialized
  deviceName := board.config.deviceName
  ntpServer := board.config.ntpServer
  ntpActiveServer := around.ntpActiveServer
  ntpSynced := around.ntpSynced
  timezone := board.config.timezone
  firmwareVersion := pf.version

/-- The answers that only report. -/
inductive Report
  | sysinfo (info : SysInfo)
  | config (report : ConfigReport)
  | scan (results : List WifiScanResult)
  | otaCheck (updateAvailable : Bool) (currentVersion latestVersion : CString)

/-! ## As JSON -/

section

-- the conversion of an integer to `double`
variable (double : ℤ → Double)

/-- The members `handle_sysinfo` adds. -/
def SysInfo.members (info : SysInfo) : List (String × CJson) :=
  [("chip", .string info.chip), ("cores", .number (double info.cores.toNat)),
    ("revision", .number (double info.revision.toNat)),
    ("firmware_version", .string info.firmwareVersion),
    ("idf_version", .string info.idfVersion), ("build_date", .string info.buildDate),
    ("build_time", .string info.buildTime)] ++
  (info.otaPartition.toList.map fun label => ("ota_partition", .string label)) ++
  [("free_heap", .number (double info.freeHeap.toNat)),
    ("min_free_heap", .number (double info.minFreeHeap.toNat)),
    ("uptime", .string (uptimeText info.uptimeS.toInt)),
    ("uptime_seconds", .number (double info.uptimeS.toInt))]

def PortReport.json (index : ℕ) (port : PortReport) : CJson :=
  objectOf [("index", .number (double index)), ("name", .string port.name),
    ("type", .string (serialTypeText port.type)),
    ("baud_rate", .number (double port.baudRate.toNat)), ("available", .bool port.available)]

/-- The members `handle_config_get` adds. -/
def ConfigReport.members (report : ConfigReport) : List (String × CJson) :=
  [("baud_rate", .number (double report.baudRate.toNat)),
    ("ports", .array (report.ports.mapIdx (PortReport.json double))),
    ("power_on", .bool report.powerOn), ("power_on_default", .bool report.powerOnDefault),
    ("ap_ssid", .string report.apSsid), ("sta_ssid", .string report.staSsid),
    ("sta_connected", .bool report.staConnected), ("sta_ip", .string report.staIp),
    ("ap_ip", .string report.apIp), ("sta_ip6", .array (report.staIp6.map .string)),
    ("ap_ip6", .array (report.apIp6.map .string)),
    ("wifi_mode", .string (wifiModeText report.wifiMode)),
    ("auth_initialized", .bool report.authInitialized),
    ("device_name", .string report.deviceName), ("ntp_server", .string report.ntpServer),
    ("ntp_active_server", .string report.ntpActiveServer), ("ntp_synced", .bool report.ntpSynced),
    ("timezone", .string report.timezone), ("firmware_version", .string report.firmwareVersion)]

/-- An access point in `handle_wifi_scan`. -/
def WifiScanResult.json (result : WifiScanResult) : CJson :=
  objectOf [("ssid", .string result.ssid), ("rssi", .number (double result.rssi)),
    ("secure", .bool result.secured)]

/-- What a handler hands to `cJSON_PrintUnformatted`. -/
def Report.json : Report → CJson
  | .sysinfo info => objectOf (info.members double)
  | .config report => objectOf (report.members double)
  | .scan results => .array (results.map (WifiScanResult.json double))
  | .otaCheck updateAvailable currentVersion latestVersion =>
      objectOf [("update_available", .bool updateAvailable),
        ("current_version", .string currentVersion), ("latest_version", .string latestVersion)]

/-- The body of the answer. -/
def Report.body (heap : Heap) (lib : DoubleText) (report : Report) : Option CString :=
  cjsonPrintUnformatted heap lib (report.json double)

end

/-! ## The handlers with their reports -/

section

variable (pf : Platform) (env : Env) (req : Request) (chip : SysInfo) (around : Surroundings)

/-- `handle_sysinfo`; what the chip and the image say of themselves is in `chip`. -/
def sysinfoReport : Handler Report := do
  requireAuth env req
  return .sysinfo { chip with
    chip := cstr pf.target.name
    firmwareVersion := pf.version
    uptimeS := uptimeSeconds env.now }

/-- `handle_config_get` -/
def configGetReport : Handler Report := do
  requireAuth env req
  let board ← read Device.board
  return .config (configReport pf around board)

/-- `handle_wifi_scan` -/
def wifiScanReport : Handler Report := do
  requireAuth env req
  requirePasswordChanged
  onBoard do
    let results ← wifiManagerScan env
    match results with
    | none => sendJsonError 500 "Scan failed"
    | some results => return .scan results

/-- `handle_ota_check` -/
def otaCheckReport : Handler Report := do
  requireAuth env req
  requirePasswordChanged
  onBoard do
    let result ← otaGithubCheck pf env
    match result with
    | .error _ => sendJsonError 500 "Failed to check for updates"
    | .ok check => return .otaCheck check.updateAvailable pf.version check.latestVersion

/-- The route of a handler that reports, with its report. -/
def reportOf : Route → Option (Handler Report)
  | .sysinfo => some (sysinfoReport pf env req chip)
  | .configGet => some (configGetReport pf env req around)
  | .wifiScan => some (wifiScanReport env req)
  | .otaCheck => some (otaCheckReport pf env req)
  | _ => none

end

/-- What is made of the result can be made on the board. -/
theorem onBoard_map {α β : Type} (m : BoardM α) (f : α → β) :
    (onBoard m >>= fun a => pure (f a)) = onBoard (m >>= fun a => pure (f a)) := by
  funext w
  cases hrun : m ⟨w.state.board, w.asked, []⟩ with
  | ok a v =>
      have hmap : (m >>= fun a => pure (f a)) ⟨w.state.board, w.asked, []⟩ = .ok (f a) v :=
        bind_ok hrun
      rw [bind_ok (onBoard_ok hrun), onBoard_ok hmap]
      rfl
  | error r v =>
      rw [bind_error (onBoard_error hrun), onBoard_error (bind_error hrun)]

/-- A handler with its report is the handler, but for the body. -/
theorem handler_of_report {pf : Platform} {env : Env} {req : Request} {chip : SysInfo}
    {around : Surroundings} {m : Handler Report}
    (h : reportOf pf env req chip around req.route = some m) :
    handler pf env req = m >>= fun _ => pure .report := by
  have hunlocked : ∀ (body : BoardM Response) (report : BoardM Report),
      (report >>= fun _ => pure .report) = body →
      whenUnlocked env req body = (do
        requireAuth env req
        requirePasswordChanged
        onBoard report) >>= fun _ => pure .report := by
    intro body report hbody
    unfold whenUnlocked
    rw [← hbody, ← onBoard_map]
    simp only [bind_assoc]
  unfold handler
  generalize req.route = route at h
  cases route with
  | sysinfo =>
      cases h
      show handleSysinfo env req = _
      unfold handleSysinfo sysinfoReport
      rw [bind_assoc]
      rfl
  | configGet =>
      cases h
      show handleConfigGet env req = _
      unfold handleConfigGet configGetReport
      rw [bind_assoc]
      rfl
  | wifiScan =>
      cases h
      refine hunlocked (wifiScanBody env) _ ?_
      unfold wifiScanBody
      rw [bind_assoc]
      refine bind_congr fun results => ?_
      cases results <;> rfl
  | otaCheck =>
      cases h
      refine hunlocked (otaCheckBody pf env) _ ?_
      unfold otaCheckBody
      rw [bind_assoc]
      refine bind_congr fun result => ?_
      cases result <;> rfl
  | _ => cases h

/-! ## The text of a report -/

/-- What an `int` or a `uint32_t` can hold. -/
def CInteger (n : ℤ) : Prop := -2147483648 ≤ n ∧ n < 4294967296

/-- The library keeps these integers apart, and prints them so that they are read back. -/
structure ReadsIntegers (strtod : List UInt8 → Double) (lib : DoubleText) (double : ℤ → Double) :
    Prop where
  exact : ∀ m n, CInteger m → CInteger n → double m = double n → m = n
  reads : ∀ n, CInteger n → NumberReads strtod lib (double n)

/-- The counts and the signal strengths fit their types. -/
def Report.InRange : Report → Prop
  | .scan results => ∀ result ∈ results, CInteger result.rssi
  | .config report => CInteger report.ports.length
  | _ => True

section

variable {strtod : List UInt8 → Double} {lib : DoubleText} {double : ℤ → Double}

theorem forall_numbers_objectOf {members : List (String × CJson)} {P : Double → Prop} :
    (∀ d ∈ (objectOf members).numbers, P d) ↔ ∀ m ∈ members, ∀ d ∈ m.2.numbers, P d := by
  unfold objectOf
  rw [CJson.numbers, CJson.forall_numbersOfMembers, List.forall_mem_map]

theorem forall_numbers_array {items : List CJson} {P : Double → Prop} :
    (∀ d ∈ (CJson.array items).numbers, P d) ↔ ∀ v ∈ items, ∀ d ∈ v.numbers, P d := by
  rw [CJson.numbers, CJson.forall_numbersOfItems]

theorem forall_numbers_number {d : Double} {P : Double → Prop} :
    (∀ d' ∈ (CJson.number d).numbers, P d') ↔ P d := List.forall_mem_singleton

theorem forall_numbers_string {s : CString} {P : Double → Prop} :
    (∀ d ∈ (CJson.string s).numbers, P d) ↔ True := by simp [CJson.numbers]

theorem forall_numbers_bool {b : Bool} {P : Double → Prop} :
    (∀ d ∈ (CJson.bool b).numbers, P d) ↔ True := by simp [CJson.numbers]

theorem nesting_objectOf {members : List (String × CJson)} {n : ℕ} :
    (objectOf members).nesting ≤ n + 1 ↔ ∀ m ∈ members, m.2.nesting ≤ n := by
  unfold objectOf
  rw [CJson.nesting_object, List.forall_mem_map]

theorem cInteger_uint8 (n : UInt8) : CInteger n.toNat := by
  have := n.toNat_lt
  unfold CInteger
  omega

theorem cInteger_uint16 (n : UInt16) : CInteger n.toNat := by
  have := n.toNat_lt
  unfold CInteger
  omega

theorem cInteger_uint32 (n : UInt32) : CInteger n.toNat := by
  have := n.toNat_lt
  unfold CInteger
  omega

theorem cInteger_int32 (n : Int32) : CInteger n.toInt := by
  have := n.le_toInt
  have := n.toInt_lt
  unfold CInteger
  omega

/-- The numbers of a report are integers of C. -/
theorem Report.numbers_json {r : Report} (h : r.InRange) {P : Double → Prop}
    (hP : ∀ n, CInteger n → P (double n)) : ∀ d ∈ (r.json double).numbers, P d := by
  cases r with
  | sysinfo info =>
      -- the label of the partition is there only if one is running
      have hlabel : ∀ m ∈ info.otaPartition.toList.map fun label =>
          (("ota_partition", CJson.string label) : String × CJson), ∀ d ∈ m.2.numbers, P d := by
        intro m hm
        obtain ⟨label, -, rfl⟩ := List.mem_map.mp hm
        exact forall_numbers_string.mpr trivial
      rw [Report.json, forall_numbers_objectOf]
      unfold SysInfo.members
      simp only [List.forall_mem_append, List.forall_mem_cons, forall_numbers_string,
        forall_numbers_number, true_and]
      exact ⟨⟨⟨hP _ (cInteger_uint8 _), hP _ (cInteger_uint16 _), by simp⟩, hlabel⟩,
        hP _ (cInteger_uint32 _), hP _ (cInteger_uint32 _), hP _ (cInteger_int32 _), by simp⟩
  | config report =>
      have hports : ∀ v ∈ report.ports.mapIdx (PortReport.json double), ∀ d ∈ v.numbers, P d := by
        intro v hv
        obtain ⟨i, hi, rfl⟩ := List.mem_mapIdx.mp hv
        unfold PortReport.json
        simp only [forall_numbers_objectOf, List.forall_mem_cons, forall_numbers_string,
          forall_numbers_number, forall_numbers_bool, true_and]
        refine ⟨hP _ ?_, hP _ (cInteger_uint32 _), by simp⟩
        -- an index is less than the number of ports
        have hlength : CInteger report.ports.length := h
        unfold CInteger at hlength ⊢
        omega
      have haddresses : ∀ l : List CString, ∀ v ∈ l.map CJson.string, ∀ d ∈ v.numbers, P d := by
        intro l v hv
        obtain ⟨s, -, rfl⟩ := List.mem_map.mp hv
        exact forall_numbers_string.mpr trivial
      rw [Report.json, forall_numbers_objectOf]
      unfold ConfigReport.members
      simp only [List.forall_mem_cons, forall_numbers_string, forall_numbers_number,
        forall_numbers_bool, forall_numbers_array, true_and]
      exact ⟨hP _ (cInteger_uint32 _), hports, haddresses _, haddresses _, by simp⟩
  | scan results =>
      rw [Report.json, forall_numbers_array]
      intro v hv
      obtain ⟨result, hresult, rfl⟩ := List.mem_map.mp hv
      unfold WifiScanResult.json
      simp only [forall_numbers_objectOf, List.forall_mem_cons, forall_numbers_string,
        forall_numbers_number, forall_numbers_bool, true_and]
      exact ⟨hP _ (h result hresult), by simp⟩
  | otaCheck updateAvailable currentVersion latestVersion =>
      rw [Report.json, forall_numbers_objectOf]
      simp only [List.forall_mem_cons, forall_numbers_string, forall_numbers_bool, true_and]
      simp

/-- A report nests three deep. -/
theorem Report.nesting_json (double : ℤ → Double) (r : Report) : (r.json double).nesting ≤ 3 := by
  have hstrings : ∀ l : List CString, ∀ v ∈ l.map CJson.string, v.nesting ≤ 1 := by
    intro l v hv
    obtain ⟨s, -, rfl⟩ := List.mem_map.mp hv
    exact Nat.zero_le 1
  cases r with
  | sysinfo info =>
      rw [Report.json, nesting_objectOf]
      unfold SysInfo.members
      simp only [List.forall_mem_append, List.forall_mem_map, List.forall_mem_cons, CJson.nesting]
      simp
  | config report =>
      have hports : CJson.nestingItems (report.ports.mapIdx (PortReport.json double)) ≤ 1 := by
        rw [CJson.nestingItems_le]
        intro v hv
        obtain ⟨i, hi, rfl⟩ := List.mem_mapIdx.mp hv
        unfold PortReport.json
        rw [nesting_objectOf]
        simp [CJson.nesting]
      have haddresses : ∀ l : List CString, CJson.nestingItems (l.map .string) ≤ 1 := fun l =>
        CJson.nestingItems_le.mpr (hstrings l)
      rw [Report.json, nesting_objectOf]
      unfold ConfigReport.members
      simp only [List.forall_mem_cons]
      simp [CJson.nesting, hports, haddresses]
  | scan results =>
      rw [Report.json, CJson.nesting_array]
      intro v hv
      obtain ⟨result, -, rfl⟩ := List.mem_map.mp hv
      unfold WifiScanResult.json
      rw [nesting_objectOf]
      simp [CJson.nesting]
  | otaCheck updateAvailable currentVersion latestVersion =>
      rw [Report.json, nesting_objectOf]
      simp [CJson.nesting]

theorem serialTypeText_inj {a b : SerialType} (h : serialTypeText a = serialTypeText b) :
    a = b := by
  revert h
  cases a <;> cases b <;> decide +kernel

theorem wifiModeText_inj {a b : WifiManagerMode} (h : wifiModeText a = wifiModeText b) : a = b := by
  revert h
  cases a <;> cases b <;> decide +kernel

theorem objectOf_inj {ms ms' : List (String × CJson)} (h : objectOf ms = objectOf ms') :
    ms.map (fun m => (cstr m.1, m.2)) = ms'.map fun m => (cstr m.1, m.2) :=
  CJson.object.inj h

theorem PortReport.json_inj (hexact : ∀ m n, CInteger m → CInteger n → double m = double n → m = n)
    {i : ℕ} {port port' : PortReport} (h : port.json double i = port'.json double i) :
    port = port' := by
  have hmembers := objectOf_inj h
  simp only [List.map_cons, List.map_nil, List.cons.injEq, Prod.mk.injEq, true_and, and_true,
    CJson.string.injEq, CJson.number.injEq, CJson.bool.injEq] at hmembers
  obtain ⟨hname, htype, hrate, havailable⟩ := hmembers
  have hrate' : port.baudRate = port'.baudRate := UInt32.toNat_inj.mp
    (Int.ofNat.inj (hexact _ _ (cInteger_uint32 _) (cInteger_uint32 _) hrate))
  cases port
  cases port'
  simp only [PortReport.mk.injEq]
  exact ⟨hname, serialTypeText_inj htype, hrate', havailable⟩

/-- The settings are read off their members. -/
theorem ConfigReport.members_inj
    (hexact : ∀ m n, CInteger m → CInteger n → double m = double n → m = n)
    {report report' : ConfigReport}
    (h : objectOf (report.members double) = objectOf (report'.members double)) :
    report = report' := by
  have hmembers := objectOf_inj h
  unfold ConfigReport.members at hmembers
  simp only [List.map_cons, List.map_nil, List.cons.injEq, Prod.mk.injEq, true_and, and_true,
    CJson.string.injEq, CJson.number.injEq, CJson.bool.injEq, CJson.array.injEq] at hmembers
  have haddresses : ∀ l l' : List CString, l.map CJson.string = l'.map CJson.string → l = l' :=
    fun l l' => (List.map_injective_iff.mpr fun _ _ => CJson.string.inj).eq_iff.mp
  have hports : ∀ ports ports' : List PortReport, ports.mapIdx (PortReport.json double) =
      ports'.mapIdx (PortReport.json double) → ports = ports' := by
    intro ports ports' heq
    have hlength : ports.length = ports'.length := by simpa using congrArg List.length heq
    refine List.ext_getElem hlength fun i hi hi' => ?_
    have hitem : (ports.mapIdx (PortReport.json double))[i]? =
        (ports'.mapIdx (PortReport.json double))[i]? := by rw [heq]
    rw [List.getElem?_mapIdx, List.getElem?_mapIdx, List.getElem?_eq_getElem hi,
      List.getElem?_eq_getElem hi'] at hitem
    exact PortReport.json_inj hexact (Option.some.inj hitem)
  obtain ⟨hrate, hlist, hon, hdefault, hap, hsta, hconnected, hstaIp, hapIp, hsta6, hap6, hmode,
    hinit, hname, hntp, hactive, hsynced, htz, hversion⟩ := hmembers
  have hrate' : report.baudRate = report'.baudRate := UInt32.toNat_inj.mp
    (Int.ofNat.inj (hexact _ _ (cInteger_uint32 _) (cInteger_uint32 _) hrate))
  cases report
  cases report'
  simp only [ConfigReport.mk.injEq]
  exact ⟨hrate', hports _ _ hlist, hon, hdefault, hap, hsta, hconnected,
    hstaIp, hapIp, haddresses _ _ hsta6, haddresses _ _ hap6, wifiModeText_inj hmode, hinit, hname,
    hntp, hactive, hsynced, htz, hversion⟩

/-- The state of the chip is read off its members. -/
theorem SysInfo.members_inj
    (hexact : ∀ m n, CInteger m → CInteger n → double m = double n → m = n) {info info' : SysInfo}
    (h : objectOf (info.members double) = objectOf (info'.members double)) : info = info' := by
  have hmembers := objectOf_inj h
  unfold SysInfo.members at hmembers
  obtain ⟨chip, cores, revision, version, idf, date, time, label, free, minFree, uptime⟩ := info
  obtain ⟨chip', cores', revision', version', idf', date', time', label', free', minFree',
    uptime'⟩ := info'
  have hlabel : label = label' := by
    cases label with
    | none =>
        cases label' with
        | none => rfl
        | some text => exact absurd (congrArg List.length hmembers) (by simp)
    | some text =>
        cases label' with
        | none => exact absurd (congrArg List.length hmembers) (by simp)
        | some text' => simp_all
  subst hlabel
  rw [List.map_append, List.map_append, List.map_append, List.map_append] at hmembers
  obtain ⟨hfirst, hlast⟩ := List.append_inj hmembers (by simp)
  obtain ⟨hfirst, -⟩ := List.append_inj hfirst (by simp)
  simp only [List.map_cons, List.map_nil, List.cons.injEq, Prod.mk.injEq, true_and, and_true,
    CJson.string.injEq, CJson.number.injEq] at hfirst hlast
  obtain ⟨rfl, hcores, hrevision, rfl, rfl, rfl, rfl⟩ := hfirst
  obtain ⟨hfree, hmin, -, huptime⟩ := hlast
  have hcores' := hexact _ _ (cInteger_uint8 _) (cInteger_uint8 _) hcores
  have hrevision' := hexact _ _ (cInteger_uint16 _) (cInteger_uint16 _) hrevision
  have hfree' := hexact _ _ (cInteger_uint32 _) (cInteger_uint32 _) hfree
  have hmin' := hexact _ _ (cInteger_uint32 _) (cInteger_uint32 _) hmin
  simp only [SysInfo.mk.injEq, true_and]
  exact ⟨UInt8.toNat_inj.mp (by omega), UInt16.toNat_inj.mp (by omega),
    UInt32.toNat_inj.mp (by omega), UInt32.toNat_inj.mp (by omega),
    Int32.toInt_inj.mp (hexact _ _ (cInteger_int32 _) (cInteger_int32 _) huptime)⟩

/-- The networks found are read off their items. -/
theorem map_scanResult_inj
    (hexact : ∀ m n, CInteger m → CInteger n → double m = double n → m = n) :
    ∀ {results results' : List WifiScanResult}, (∀ result ∈ results, CInteger result.rssi) →
      (∀ result ∈ results', CInteger result.rssi) →
      results.map (WifiScanResult.json double) = results'.map (WifiScanResult.json double) →
      results = results' := by
  intro results
  induction results with
  | nil =>
      intro results' _ _ h
      exact (List.map_eq_nil_iff.mp h.symm).symm
  | cons result results ih =>
      intro results' hr hr' h
      cases results' with
      | nil => cases h
      | cons result' results' =>
          obtain ⟨hrssi, hr⟩ := List.forall_mem_cons.mp hr
          obtain ⟨hrssi', hr'⟩ := List.forall_mem_cons.mp hr'
          obtain ⟨hitem, hitems⟩ := List.cons.inj h
          have hmembers := objectOf_inj hitem
          simp only [List.map_cons, List.map_nil, List.cons.injEq, Prod.mk.injEq, true_and,
            and_true, CJson.string.injEq, CJson.number.injEq, CJson.bool.injEq] at hmembers
          obtain ⟨hssid, hnumber, hsecured⟩ := hmembers
          have hsame : result = result' := by
            cases result
            cases result'
            simp only [WifiScanResult.mk.injEq]
            exact ⟨hssid, hexact _ _ hrssi hrssi' hnumber, hsecured⟩
          rw [hsame, ih hr hr' hitems]

/-- The first member of a report. -/
theorem Report.head_childNames (double : ℤ → Double) (r : Report) :
    (r.json double).childNames.head? =
    match r with
    | .sysinfo _ => some (some (cstr "chip"))
    | .config _ => some (some (cstr "baud_rate"))
    | .scan results => (results.map fun _ => none).head?
    | .otaCheck _ _ _ => some (some (cstr "update_available")) := by
  cases r with
  | sysinfo info => simp [Report.json, objectOf, CJson.childNames, SysInfo.members]
  | config report => simp [Report.json, objectOf, CJson.childNames, ConfigReport.members]
  | scan results =>
      rw [Report.json, CJson.childNames, List.map_map]
      rfl
  | otaCheck updateAvailable currentVersion latestVersion =>
      simp [Report.json, objectOf, CJson.childNames]

/-- Different reports are different JSON. -/
theorem Report.json_inj (hexact : ∀ m n, CInteger m → CInteger n → double m = double n → m = n)
    {r r' : Report} (hr : r.InRange) (hr' : r'.InRange) (h : r.json double = r'.json double) :
    r = r' := by
  have hfirst : (r.json double).childNames.head? = (r'.json double).childNames.head? :=
    congrArg (fun v => v.childNames.head?) h
  rw [r.head_childNames, r'.head_childNames] at hfirst
  have hnames : cstr "chip" ≠ cstr "baud_rate" ∧ cstr "chip" ≠ cstr "update_available" ∧
      cstr "baud_rate" ≠ cstr "update_available" := by decide +kernel
  obtain ⟨hchip, hchip', hbaud⟩ := hnames
  have hsome : ∀ {a b : CString}, some (some a) = some (some b) → a = b := fun heq =>
    Option.some.inj (Option.some.inj heq)
  cases r with
  | sysinfo info =>
      cases r' with
      | sysinfo info' => rw [SysInfo.members_inj hexact h]
      | config report => exact absurd (hsome hfirst) hchip
      | scan results => cases h
      | otaCheck updateAvailable currentVersion latestVersion =>
          exact absurd (hsome hfirst) hchip'
  | config report =>
      cases r' with
      | sysinfo info => exact absurd (hsome hfirst).symm hchip
      | config report' => rw [ConfigReport.members_inj hexact h]
      | scan results => cases h
      | otaCheck updateAvailable currentVersion latestVersion => exact absurd (hsome hfirst) hbaud
  | scan results =>
      cases r' with
      | scan results' =>
          rw [map_scanResult_inj hexact hr hr' (CJson.array.inj h)]
      | _ => cases h
  | otaCheck updateAvailable currentVersion latestVersion =>
      cases r' with
      | sysinfo info => exact absurd (hsome hfirst).symm hchip'
      | config report => exact absurd (hsome hfirst).symm hbaud
      | scan results => cases h
      | otaCheck updateAvailable' currentVersion' latestVersion' =>
          have hmembers := objectOf_inj h
          simp only [List.map_cons, List.map_nil, List.cons.injEq, Prod.mk.injEq, true_and,
            and_true, CJson.string.injEq, CJson.bool.injEq] at hmembers
          obtain ⟨rfl, rfl, rfl⟩ := hmembers
          rfl

theorem Report.body_eq_render {r : Report} {heap : Heap} {text : CString}
    (hbody : r.body double heap lib = some text) : text = render lib (r.json double) := by
  rcases cjsonPrint_cases heap lib (r.json double) with hnone | hsome
  · cases hnone.symm.trans hbody
  · exact Option.some.inj (hbody.symm.trans hsome)

/-- The body of a report is read back. -/
theorem Report.read_body {r : Report} (hints : ReadsIntegers strtod lib double) (h : r.InRange)
    (hclean : (r.json double).Clean) {heap : Heap} {text : CString}
    (hbody : r.body double heap lib = some text) :
    cjsonParse strtod text = some (r.json double) := by
  rw [Report.body_eq_render hbody]
  refine cjsonParse_render hclean (r.numbers_json h hints.reads) ?_
  exact (r.nesting_json double).trans (by decide)

/-- **Two reports have the same text if and only if they report the same**, and the text is
read back as the report. -/
theorem report_body_iff {r r' : Report} (hints : ReadsIntegers strtod lib double) (hr : r.InRange)
    (hr' : r'.InRange) (hclean : (r.json double).Clean) (hclean' : (r'.json double).Clean)
    {heap heap' : Heap} {text text' : CString} (hbody : r.body double heap lib = some text)
    (hbody' : r'.body double heap' lib = some text') :
    cjsonParse strtod text = some (r.json double) ∧ (text = text' ↔ r = r') := by
  have hread := Report.read_body hints hr hclean hbody
  have hread' := Report.read_body hints hr' hclean' hbody'
  refine ⟨hread, fun htext => ?_, fun hsame => ?_⟩
  · apply Report.json_inj hints.exact hr hr'
    apply Option.some.inj
    calc some (r.json double) = cjsonParse strtod text := hread.symm
      _ = cjsonParse strtod text' := by rw [htext]
      _ = some (r'.json double) := hread'
  · subst hsame
    exact (Report.body_eq_render hbody).trans (Report.body_eq_render hbody').symm

end

/-! ## A library that reads the integers of C -/

/-- An integer as its distance from the least `int`. -/
def offsetDouble (n : ℤ) : Double := UInt64.ofNat (n + 2147483648).toNat

/-- The digits of a number above `INT_MAX`. -/
def offsetDigits (d : Double) : CText :=
  ⟨JsonText.digits (d.toNat - 2147483648), fun h => absurd (JsonText.digits_digit 0 h) (by decide)⟩

theorem length_offsetDigits (d : Double) : (offsetDigits d).1.length ≤ 24 := by
  show (JsonText.digits (d.toNat - 2147483648)).length ≤ 24
  unfold JsonText.digits
  rw [List.length_map]
  have hlt := d.toNat_lt
  refine Nat.toDigits_length 10 _ 24 (by decide) ?_
  omega

def offsetText : DoubleText where
  isFinite _ := true
  valueint d := Int32.ofInt (d.toNat - 2147483648)
  isInt d := decide (d.toNat < 4294967296)
  g15 := offsetDigits
  g17 := offsetDigits
  readsBack _ _ := true
  length_g15 := length_offsetDigits
  length_g17 := length_offsetDigits

/-- `strtod` for such numbers. -/
def offsetStrtod : List UInt8 → Double
  | 45 :: text => offsetDouble (-(JsonText.numberOf text : ℤ))
  | text => offsetDouble (JsonText.numberOf text)

theorem toNat_offsetDouble {n : ℤ} (h : CInteger n) :
    ((offsetDouble n).toNat : ℤ) = n + 2147483648 := by
  unfold CInteger at h
  unfold offsetDouble
  rw [UInt64.toNat_ofNat']
  omega

theorem offsetStrtod_digits (n : ℕ) : offsetStrtod (JsonText.digits n) = offsetDouble n := by
  have hread : offsetDouble (JsonText.numberOf (JsonText.digits n)) = offsetDouble n := by
    rw [JsonText.numberOf_digits]
  unfold offsetStrtod
  split
  next text heq =>
    have hsign : (45 : UInt8) ∈ JsonText.digits n := by simp [heq]
    exact absurd (JsonText.digits_digit 45 hsign) (by decide)
  next => exact hread

/-- What it prints for an integer. -/
theorem print_offsetDouble {n : ℤ} (h : CInteger n) :
    offsetText.print (offsetDouble n) = decimal n := by
  have hvalue := toNat_offsetDouble h
  have hfinite : ¬offsetText.isFinite (offsetDouble n) = false := Bool.noConfusion
  unfold CInteger at h
  unfold DoubleText.print
  by_cases hint : n < 2147483648
  · have hsmall : (offsetText.isInt (offsetDouble n)) = true :=
      decide_eq_true (by omega)
    have hn : (offsetText.valueint (offsetDouble n)).toInt = n := by
      show (Int32.ofInt ((offsetDouble n).toNat - 2147483648)).toInt = n
      have hsub : ((offsetDouble n).toNat : ℤ) - 2147483648 = n := by omega
      rw [hsub, Int32.toInt_ofInt]
      exact Int.bmod_eq_of_le (by show -2147483648 ≤ n; omega) (by show n < 2147483648; omega)
    rw [if_neg hfinite, if_pos hsmall, hn]
  · have hlarge : ¬(offsetText.isInt (offsetDouble n)) = true := by
      show ¬decide _ = true
      rw [decide_eq_true_eq]
      omega
    have hdigits : (offsetDouble n).toNat - 2147483648 = n.natAbs := by omega
    have hreads :
        offsetText.readsBack (offsetText.g15 (offsetDouble n)).1 (offsetDouble n) = true :=
      rfl
    rw [if_neg hfinite, if_neg hlarge, if_pos hreads]
    show JsonText.digits ((offsetDouble n).toNat - 2147483648) = decimal n
    unfold decimal
    rw [hdigits, if_neg (by omega)]

theorem numberText_decimal (n : ℤ) : JsonText.NumberText (decimal n) := by
  have hdigits : ∀ k, JsonText.Digits (JsonText.digits k) := fun k =>
    ⟨JsonText.digits_ne_nil k, JsonText.digits_digit⟩
  unfold decimal
  split
  · have htext : JsonText.NumberText ([45] ++ JsonText.digits n.natAbs ++ [] ++ []) :=
      .mk (.inr rfl) (hdigits _) (.inl rfl) (.inl rfl)
    simpa using htext
  · have htext : JsonText.NumberText ([] ++ JsonText.digits n.natAbs ++ [] ++ []) :=
      .mk (.inl rfl) (hdigits _) (.inl rfl) (.inl rfl)
    simpa using htext

theorem readsIntegers_offset : ReadsIntegers offsetStrtod offsetText offsetDouble where
  exact m n hm hn heq := by
    have hm' := toNat_offsetDouble hm
    have hn' := toNat_offsetDouble hn
    rw [heq] at hm'
    omega
  reads n hn := by
    refine ⟨?_, ?_⟩
    · rw [print_offsetDouble hn]
      exact numberText_decimal n
    · rw [print_offsetDouble hn]
      unfold decimal
      split
      · show offsetDouble (-(JsonText.numberOf (JsonText.digits n.natAbs) : ℤ)) = offsetDouble n
        rw [JsonText.numberOf_digits]
        congr 1
        omega
      · rw [offsetStrtod_digits]
        congr 1
        omega

/-- What a scan found in the attic. -/
def atticScan (rssi : ℤ) : Report := .scan [⟨cstr "attic", rssi, true⟩]

theorem atticScan_clean (rssi : ℤ) : ((atticScan rssi).json offsetDouble).Clean := by
  have hall : ((atticScan 0).json offsetDouble).strings.all (fun s => !s.contains 0) = true := by
    decide +kernel
  intro s hs
  have hclean := List.all_eq_true.mp hall s hs
  simpa using hclean

/-- A change of the signal is seen. -/
theorem report_body_iff_scan : ∃ text text' : CString,
    (atticScan (-60)).body offsetDouble fullHeap offsetText = some text ∧
      (atticScan (-61)).body offsetDouble fullHeap offsetText = some text' ∧
      cjsonParse offsetStrtod text = some ((atticScan (-60)).json offsetDouble) ∧ text ≠ text' := by
  have hbody : ∀ rssi ∈ [(-60 : ℤ), -61], (atticScan rssi).body offsetDouble fullHeap offsetText =
      some (render offsetText ((atticScan rssi).json offsetDouble)) := by
    intro rssi hrssi
    refine cjsonPrint_eq offsetText (fun _ => rfl) ?_
    revert rssi
    decide +kernel
  have hrange : ∀ rssi ∈ [(-60 : ℤ), -61], (atticScan rssi).InRange := by
    intro rssi hrssi result hresult
    obtain rfl := List.mem_singleton.mp hresult
    unfold CInteger
    simp only [List.mem_cons, List.not_mem_nil, or_false] at hrssi
    rcases hrssi with rfl | rfl <;> decide
  obtain ⟨hread, hiff⟩ := report_body_iff readsIntegers_offset (hrange (-60) (by simp))
    (hrange (-61) (by simp)) (atticScan_clean _) (atticScan_clean _) (hbody (-60) (by simp))
    (hbody (-61) (by simp))
  exact ⟨_, _, hbody _ (by simp), hbody _ (by simp), hread, fun h => absurd (hiff.mp h) (by
    simp [atticScan])⟩

end WebTerminal
