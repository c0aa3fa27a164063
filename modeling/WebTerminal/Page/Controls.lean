import Mathlib.Data.List.DropRight
import WebTerminal.Page.Stringify
import WebTerminal.Server.Operations

/-!
# The controls of the page

What the page sends when a control is used, after the checks of its event handler, and
which operation the control stands for.  The page measures its input in code units and
the device in bytes, so the two meet only where the bytes fit as well.  The body of a
request is the one `JSON.stringify` writes, so a parser that reads such bodies is told
what was entered, and `performs_of_asks` has the rest.
-/

set_option autoImplicit false

namespace WebTerminal

/-! ## What is entered -/

/-- White space and line terminators of JavaScript. -/
def isWhiteSpace (u : UInt16) : Bool :=
  (0x09 ≤ u && u ≤ 0x0D) || u == 0x20 || u == 0xA0 || u == 0x1680 || (0x2000 ≤ u && u ≤ 0x200A) ||
    u == 0x2028 || u == 0x2029 || u == 0x202F || u == 0x205F || u == 0x3000 || u == 0xFEFF

/-- `s.trim()` -/
def JsString.trim (s : JsString) : JsString := (s.dropWhile isWhiteSpace).rdropWhile isWhiteSpace

/-- The options of `baud-select`. -/
def baudOptions : List ℕ := [9600, 19200, 38400, 57600, 115200, 230400, 460800, 921600, 1500000]

/-- The options of `tz-select`. -/
def timezones : List String :=
  ["UTC0", "EST5EDT,M3.2.0,M11.1.0", "CST6CDT,M3.2.0,M11.1.0", "MST7MDT,M3.2.0,M11.1.0",
    "PST8PDT,M3.2.0,M11.1.0", "GMT0BST,M3.5.0/1,M10.5.0", "CET-1CEST,M3.5.0,M10.5.0/3",
    "EET-2EEST,M3.5.0/3,M10.5.0/4", "JST-9", "CST-8", "IST-5:30", "AEST-10AEDT,M10.1.0,M4.1.0/3",
    "NZST-12NZDT,M9.5.0,M4.1.0/3"]

/-- The controls that send a command, with what is entered.  Where the page asks for a
confirmation it is given. -/
inductive Control
  | reset
  | power
  | reboot
  | baudSelect (baud currentPort : ℕ)
  | nameSave (name : JsString)
  | apSave (ssid pass : JsString)
  | wifiSave (ssid pass : JsString)
  | wifiDisconnect
  | ntpSave (server : JsString)
  | tzSave (custom : JsString) (selected : String)
  | passSave (current new confirm : JsString)
  | powerDefault (checked : Bool)
  | tlsUpload (cert key : JsString)

/-- What the fields admit: their `maxlength` and the options of a selection, on a device
with so many ports. -/
def Control.enterable (ports : ℕ) : Control → Bool
  | baudSelect baud currentPort => baudOptions.contains baud && decide (currentPort < ports)
  | nameSave name => name.length ≤ 32
  | apSave ssid pass => ssid.length ≤ 27 && pass.length ≤ 64
  | ntpSave server => server.length ≤ 64
  | tzSave custom selected => custom.length ≤ 40 && timezones.contains selected
  | _ => true

/-! ## What is sent -/

/-- The arguments of `api()`. -/
structure ApiCall where
  method : String
  url : String
  data : Option (List (String × JsValue))

namespace ApiCall

/-- The body: `data ? JSON.stringify(data) : null`, in UTF-8. -/
def body (call : ApiCall) : List UInt8 :=
  match call.data with
  | none => []
  | some ms => (stringify (ms.map fun m => (js m.1, m.2))).utf8

/-- What is sent is text. -/
def isText (call : ApiCall) : Bool := (call.data.getD []).all fun m => m.2.isText

@[simp] theorem isText_some (method url : String) (ms : List (String × JsValue)) :
    isText ⟨method, url, some ms⟩ = ms.all fun m => m.2.isText := rfl

end ApiCall

/-- The routes `web_server_start` registers. -/
def routes : List ((String × String) × Route) :=
  [(("GET", "/"), .root), (("GET", "/lib/xterm.min.js"), .xterm), (("POST", "/api/login"), .login),
    (("POST", "/api/logout"), .logout), (("GET", "/api/token"), .token),
    (("GET", "/api/config"), .configGet), (("POST", "/api/config"), .configPost),
    (("POST", "/api/reset"), .reset), (("POST", "/api/power"), .power),
    (("POST", "/api/ota"), .ota), (("GET", "/api/sysinfo"), .sysinfo),
    (("GET", "/api/wifi/scan"), .wifiScan),
    (("GET", "/api/ota/check"), .otaCheck), (("POST", "/api/ota/github"), .otaGithub),
    (("POST", "/api/tls"), .tls), (("POST", "/api/reboot"), .reboot), (("GET", "/ws"), .ws)]

/-- Where the server sends a call. -/
def ApiCall.route (call : ApiCall) : Route :=
  ((routes.find? fun entry => entry.1 == (call.method, call.url)).map Prod.snd).getD .notFound

namespace Control

/-- The event handlers: the call, unless a check of the page stops it. -/
def call : Control → Option ApiCall
  | reset => some ⟨"POST", "/api/reset", none⟩
  | power => some ⟨"POST", "/api/power", some []⟩
  | reboot => some ⟨"POST", "/api/reboot", none⟩
  | baudSelect baud currentPort =>
      some ⟨"POST", "/api/config",
        some [("baud_rate", .number baud), ("port", .number currentPort)]⟩
  | nameSave name =>
      if name.trim = [] then none
      else some ⟨"POST", "/api/config", some [("device_name", .string name.trim)]⟩
  | apSave ssid pass =>
      if ssid.trim = [] then none
      else if pass ≠ [] ∧ pass.length < 8 then none
      else some ⟨"POST", "/api/config",
        some [("ap_ssid", .string ssid.trim), ("ap_pass", .string pass)]⟩
  | wifiSave ssid pass =>
      if ssid = [] then none
      else some ⟨"POST", "/api/config",
        some [("sta_ssid", .string ssid), ("sta_pass", .string pass)]⟩
  | wifiDisconnect => some ⟨"POST", "/api/config", some [("wifi_disconnect", .boolean true)]⟩
  | ntpSave server => some ⟨"POST", "/api/config", some [("ntp_server", .string server.trim)]⟩
  | tzSave custom selected =>
      let tz := if custom.trim = [] then js selected else custom.trim
      some ⟨"POST", "/api/config", some [("timezone", .string tz)]⟩
  | passSave current new confirm =>
      if current = [] then none
      else if new = [] ∨ new.length < 8 then none
      else if new ≠ confirm then none
      else some ⟨"POST", "/api/config",
        some [("current_password", .string current), ("new_password", .string new)]⟩
  | powerDefault checked =>
      some ⟨"POST", "/api/config", some [("power_on_default", .boolean checked)]⟩
  | tlsUpload cert key =>
      some ⟨"POST", "/api/tls", some [("cert", .string cert.trim), ("key", .string key.trim)]⟩

/-- What the control stands for. -/
def operation : Control → Operation
  | reset => .reset
  | power => .togglePower
  | reboot => .restart
  | baudSelect baud currentPort => .setBaudRate currentPort (UInt32.ofNat baud)
  | nameSave name => .setDeviceName name.trim.utf8
  | apSave ssid pass => .setAccessPoint ssid.trim.utf8 pass.utf8
  | wifiSave ssid pass => .joinNetwork ssid.utf8 pass.utf8
  | wifiDisconnect => .leaveNetwork
  | ntpSave server => .setNtpServer server.trim.utf8
  | tzSave custom selected =>
      .setTimezone (if custom.trim = [] then js selected else custom.trim).utf8
  | passSave current new _ => .changePassword current.utf8 new.utf8
  | powerDefault checked => .setPowerDefault checked
  | tlsUpload cert key => .installCertificate cert.trim.utf8 key.trim.utf8

end Control

/-! ## The parser -/

/-- The values the parser can be trusted with: strings without NUL, and numbers far from
the bounds of the casts. -/
def Readable : JsonText.Scalar → Prop
  | .string bytes => 0 ∉ bytes
  | .bool _ => True
  | .number n => n < 2147483648

/-- What the parser makes of a value. -/
inductive Reads (pf : Platform) : JsonText.Scalar → CJson → Prop
  | string (bytes : CString) : Reads pf (.string bytes) (.string bytes)
  | bool (value : Bool) : Reads pf (.bool value) (.bool value)
  | number {n : ℕ} {value : Double} (hcounts : pf.Counts n value) :
      Reads pf (.number n) (.number value)

/-- `cJSON_Parse` reads the objects of strings, booleans and numbers that
`JSON.stringify` writes: the members by their names, in order. -/
def ReadsScalars (pf : Platform) : Prop :=
  ∀ ms : List (CString × JsonText.Scalar), (∀ m ∈ ms, 0 ∉ m.1 ∧ Readable m.2) →
    ∃ members, pf.cJSONParse (JsonText.writeScalars ms) = some (.object members) ∧
      List.Forall₂ (fun m member => member.1 = m.1 ∧ Reads pf m.2 member.2) ms members

/-- The names the page uses are the ones the handlers look up. -/
theorem utf8_requestNames : ∀ name ∈ requestNames,
    (js name).isText = true ∧ (js name).utf8 = cstr name ∧ (0 : UInt8) ∉ cstr name := by
  decide +kernel

/-- A value of the page that the parser can be trusted with. -/
def JsValue.Sendable (value : JsValue) : Prop := value.isText = true ∧ Readable value.scalar

@[simp] theorem JsValue.isText_string (s : JsString) : (string s).isText = s.isText := rfl

theorem JsValue.sendable_string {s : JsString} (hs : s.isText = true) : (string s).Sendable :=
  ⟨hs, JsString.notMem_utf8 hs⟩

section

variable {pf : Platform} {method url : String} {ms : List (String × JsValue)}

theorem ApiCall.body_eq (hnames : ∀ m ∈ ms, m.1 ∈ requestNames)
    (hvalues : ∀ m ∈ ms, m.2.Sendable) :
    (ApiCall.mk method url (some ms)).body =
      JsonText.writeScalars (ms.map fun m => (cstr m.1, m.2.scalar)) := by
  unfold ApiCall.body
  dsimp only
  rw [utf8_stringify, List.map_map]
  · congr 1
    refine List.map_congr_left fun m hm => ?_
    show ((js m.1).utf8, m.2.scalar) = _
    rw [(utf8_requestNames m.1 (hnames m hm)).2.1]
  · intro sent hsent
    obtain ⟨m, hm, rfl⟩ := List.mem_map.mp hsent
    exact ⟨(utf8_requestNames m.1 (hnames m hm)).1, (hvalues m hm).1⟩

/-- The members the parser found, by their names in the page. -/
theorem exists_objectOf {fields : List (CString × CJson)}
    (h : List.Forall₂ (fun m field => field.1 = cstr m.1 ∧ Reads pf m.2.scalar field.2) ms fields) :
    ∃ members, CJson.object fields = objectOf members ∧
      List.Forall₂ (fun m member => member.1 = m.1 ∧ Reads pf m.2.scalar member.2) ms members := by
  induction h with
  | nil => exact ⟨[], rfl, .nil⟩
  | @cons m field ms fields hfirst _ ih =>
      obtain ⟨members, hobject, hmembers⟩ := ih
      obtain rfl := CJson.object.inj hobject
      obtain ⟨name, value⟩ := field
      obtain ⟨rfl, hvalue⟩ := hfirst
      exact ⟨(m.1, value) :: members, rfl, .cons ⟨rfl, hvalue⟩ hmembers⟩

/-- The device is told what the page sends. -/
theorem ApiCall.told (hreads : ReadsScalars pf) (hnames : ∀ m ∈ ms, m.1 ∈ requestNames)
    (hvalues : ∀ m ∈ ms, m.2.Sendable) :
    ∃ members, List.Forall₂ (fun m member => member.1 = m.1 ∧ Reads pf m.2.scalar member.2)
        ms members ∧
      ∀ route, (ApiCall.mk method url (some ms)).body.length ≤ Route.bodyMax route →
        Says pf route (ApiCall.mk method url (some ms)).body (some (objectOf members)) := by
  let sent := ms.map fun m => (cstr m.1, m.2.scalar)
  have hbody : (ApiCall.mk method url (some ms)).body = JsonText.writeScalars sent :=
    ApiCall.body_eq hnames hvalues
  have hreadable : ∀ m ∈ sent, 0 ∉ m.1 ∧ Readable m.2 := by
    intro m' hm'
    obtain ⟨m, hm, rfl⟩ := List.mem_map.mp hm'
    exact ⟨(utf8_requestNames m.1 (hnames m hm)).2.2, (hvalues m hm).2⟩
  obtain ⟨fields, hparse, hfields⟩ := hreads sent hreadable
  obtain ⟨members, hobject, hmembers⟩ := exists_objectOf (List.forall₂_map_left_iff.mp hfields)
  refine ⟨members, hmembers, fun route hlength => ⟨?_, hlength, ?_⟩⟩
  · rw [hbody]
    exact List.cons_ne_nil _ _
  · rw [hbody, ofBuffer_eq_self (JsonText.zero_notMem_writeScalars sent), hparse, hobject]

/-- The request of a call, if its body is not too large for the handler, asks for an
operation. -/
def ApiCall.AsksFor (pf : Platform) (call : ApiCall) (op : Operation) : Prop :=
  ∃ json, Asks pf op call.route json ∧
    (call.body.length ≤ call.route.bodyMax → Says pf call.route call.body json)

variable {op : Operation} {name name' : String} {value value' : JsValue}

theorem asksFor_one (hreads : ReadsScalars pf) (hname : name ∈ requestNames)
    (hvalue : value.Sendable)
    (hasks : ∀ json, Reads pf value.scalar json →
      Asks pf op (ApiCall.mk method url (some [(name, value)])).route
        (some (objectOf [(name, json)]))) :
    (ApiCall.mk method url (some [(name, value)])).AsksFor pf op := by
  obtain ⟨members, hmembers, htold⟩ :=
    @ApiCall.told pf method url [(name, value)] hreads (by simpa using hname)
      (by simpa using hvalue)
  obtain ⟨member, rest, ⟨rfl, hread⟩, hrest, rfl⟩ := List.forall₂_cons_left_iff.mp hmembers
  obtain rfl := List.forall₂_nil_left_iff.mp hrest
  exact ⟨_, hasks member.2 hread, htold _⟩

theorem asksFor_two (hreads : ReadsScalars pf) (hname : name ∈ requestNames)
    (hvalue : value.Sendable) (hname' : name' ∈ requestNames) (hvalue' : value'.Sendable)
    (hasks : ∀ json json', Reads pf value.scalar json → Reads pf value'.scalar json' →
      Asks pf op (ApiCall.mk method url (some [(name, value), (name', value')])).route
        (some (objectOf [(name, json), (name', json')]))) :
    (ApiCall.mk method url (some [(name, value), (name', value')])).AsksFor pf op := by
  obtain ⟨members, hmembers, htold⟩ :=
    @ApiCall.told pf method url [(name, value), (name', value')] hreads
      (by simpa using ⟨hname, hname'⟩) (by simpa using ⟨hvalue, hvalue'⟩)
  obtain ⟨member, rest, ⟨rfl, hread⟩, hrest, rfl⟩ := List.forall₂_cons_left_iff.mp hmembers
  obtain ⟨member', rest', ⟨rfl, hread'⟩, hrest', rfl⟩ := List.forall₂_cons_left_iff.mp hrest
  obtain rfl := List.forall₂_nil_left_iff.mp hrest'
  exact ⟨_, hasks member.2 member'.2 hread hread', htold _⟩

/-- A call with one string. -/
theorem asksFor_string (hreads : ReadsScalars pf) (hname : name ∈ requestNames) {s : JsString}
    (hs : s.isText = true)
    (hasks : Asks pf op (ApiCall.mk method url (some [(name, .string s)])).route
      (some (objectOf [(name, .string s.utf8)]))) :
    (ApiCall.mk method url (some [(name, .string s)])).AsksFor pf op := by
  refine asksFor_one hreads hname (JsValue.sendable_string hs) ?_
  rintro _ ⟨⟩
  exact hasks

/-- A call with two strings. -/
theorem asksFor_strings (hreads : ReadsScalars pf) (hname : name ∈ requestNames) {s s' : JsString}
    (hname' : name' ∈ requestNames) (hs : s.isText = true ∧ s'.isText = true)
    (hasks : Asks pf op
      (ApiCall.mk method url (some [(name, .string s), (name', .string s')])).route
      (some (objectOf [(name, .string s.utf8), (name', .string s'.utf8)]))) :
    (ApiCall.mk method url (some [(name, .string s), (name', .string s')])).AsksFor pf op := by
  refine asksFor_two hreads hname (JsValue.sendable_string hs.1) hname'
    (JsValue.sendable_string hs.2) ?_
  rintro _ _ ⟨⟩ ⟨⟩
  exact hasks

/-- A call with a truth value. -/
theorem asksFor_boolean (hreads : ReadsScalars pf) (hname : name ∈ requestNames) {value : Bool}
    (hasks : Asks pf op (ApiCall.mk method url (some [(name, .boolean value)])).route
      (some (objectOf [(name, .bool value)]))) :
    (ApiCall.mk method url (some [(name, .boolean value)])).AsksFor pf op := by
  refine asksFor_one hreads hname ⟨rfl, trivial⟩ ?_
  rintro _ ⟨⟩
  exact hasks

end

/-! ## The operations asked for -/

/-- A text that is not empty has bytes. -/
theorem JsString.utf8_ne_nil {s : JsString} (hs : s.isText = true) (hne : s ≠ []) :
    s.utf8 ≠ [] := by
  have := JsString.length_le_utf8 hs
  have := List.length_pos_of_ne_nil hne
  exact List.ne_nil_of_length_pos (by omega)

/-- The rates of the page are rates of the device. -/
theorem baudOptions_valid :
    ∀ baud ∈ baudOptions, baud < 2147483648 ∧ UInt32.ofNat baud ∈ validBauds := by
  decide

namespace Control

variable {pf : Platform} {control : Control} {call : ApiCall}

/-- The checks of the page are those of the device: what is let through is valid. -/
theorem valid {ports : ℕ} (henter : control.enterable ports = true)
    (hcall : control.call = some call) (htext : call.isText = true) : control.operation.Valid := by
  cases control with
  | baudSelect baud currentPort =>
      simp only [enterable, Bool.and_eq_true, List.contains_iff_mem] at henter
      exact (baudOptions_valid baud henter.1).2
  | nameSave name =>
      simp only [Control.call, Option.ite_none_left_eq_some, Option.some.injEq] at hcall
      obtain ⟨hne, rfl⟩ := hcall
      exact JsString.utf8_ne_nil (by simpa using htext) hne
  | apSave ssid pass =>
      simp only [Control.call, Option.ite_none_left_eq_some, Option.some.injEq] at hcall
      obtain ⟨hne, hlong, rfl⟩ := hcall
      obtain ⟨hssid, hpass⟩ : ssid.trim.isText = true ∧ pass.isText = true := by simpa using htext
      refine ⟨JsString.utf8_ne_nil hssid hne, ?_⟩
      by_cases hempty : pass = []
      · exact .inl (congrArg JsString.utf8 hempty)
      · right
        calc 8 ≤ pass.length := not_lt.mp (not_and.mp hlong hempty)
          _ ≤ pass.utf8.length := JsString.length_le_utf8 hpass
  | wifiSave ssid pass =>
      simp only [Control.call, Option.ite_none_left_eq_some, Option.some.injEq] at hcall
      obtain ⟨hne, rfl⟩ := hcall
      obtain ⟨hssid, -⟩ : ssid.isText = true ∧ pass.isText = true := by simpa using htext
      exact JsString.utf8_ne_nil hssid hne
  | passSave current new confirm =>
      simp only [Control.call, Option.ite_none_left_eq_some, Option.some.injEq] at hcall
      obtain ⟨-, hlong, -, rfl⟩ := hcall
      obtain ⟨-, hnew⟩ : current.isText = true ∧ new.isText = true := by simpa using htext
      show minPasswordLen ≤ new.utf8.length
      calc 8 ≤ new.length := not_lt.mp (not_or.mp hlong).2
        _ ≤ new.utf8.length := JsString.length_le_utf8 hnew
  | _ => trivial

/-- The request of a control asks for its operation; the power button is another matter. -/
theorem asksFor (hreads : ReadsScalars pf) (hpower : control ≠ .power)
    (henter : control.enterable pf.target.serialPortMax = true) (hcall : control.call = some call)
    (htext : call.isText = true) : call.AsksFor pf control.operation := by
  cases control with
  | power => exact absurd rfl hpower
  | reset =>
      cases hcall
      exact ⟨none, .reset, fun _ => rfl⟩
  | reboot =>
      cases hcall
      exact ⟨none, .restart, fun _ => rfl⟩
  | baudSelect baud currentPort =>
      -- a rate and a port that the page offers are counts the parser reads back
      cases hcall
      simp only [enterable, Bool.and_eq_true, List.contains_iff_mem, decide_eq_true_eq] at henter
      have hsmall := (baudOptions_valid baud henter.1).1
      have hport : currentPort < 2147483648 := by
        have : pf.target.serialPortMax ≤ 2 := by cases pf.target <;> decide
        omega
      refine asksFor_two hreads (by decide) ⟨rfl, hsmall⟩ (by decide) ⟨rfl, hport⟩ ?_
      intro rate number hrate hnumber
      cases hrate with
      | number hrate =>
          cases hnumber with
          | number hnumber => exact .setBaudRate hrate hnumber
  -- the fields below are texts, and what the page refuses it does not send
  | nameSave name =>
      simp only [Control.call, Option.ite_none_left_eq_some, Option.some.injEq] at hcall
      obtain ⟨-, rfl⟩ := hcall
      exact asksFor_string hreads (by decide) (by simpa using htext) (.setDeviceName _)
  | apSave ssid pass =>
      simp only [Control.call, Option.ite_none_left_eq_some, Option.some.injEq] at hcall
      obtain ⟨-, -, rfl⟩ := hcall
      exact asksFor_strings hreads (by decide) (by decide) (by simpa using htext)
        (.setAccessPoint _ _)
  | wifiSave ssid pass =>
      simp only [Control.call, Option.ite_none_left_eq_some, Option.some.injEq] at hcall
      obtain ⟨-, rfl⟩ := hcall
      exact asksFor_strings hreads (by decide) (by decide) (by simpa using htext) (.joinNetwork _ _)
  | wifiDisconnect =>
      cases hcall
      exact asksFor_boolean hreads (by decide) .leaveNetwork
  | ntpSave server =>
      cases hcall
      exact asksFor_string hreads (by decide) (by simpa using htext) (.setNtpServer _)
  | tzSave custom selected =>
      cases hcall
      exact asksFor_string hreads (by decide) (by simpa using htext) (.setTimezone _)
  | passSave current new confirm =>
      simp only [Control.call, Option.ite_none_left_eq_some, Option.some.injEq] at hcall
      obtain ⟨-, -, -, rfl⟩ := hcall
      exact asksFor_strings hreads (by decide) (by decide) (by simpa using htext)
        (.changePassword _ _)
  | powerDefault checked =>
      cases hcall
      exact asksFor_boolean hreads (by decide) (.setPowerDefault _)
  | tlsUpload cert key =>
      cases hcall
      exact asksFor_strings hreads (by decide) (by decide) (by simpa using htext)
        (.installCertificate _ _)

end Control

/-- The browser sends the call, and its body comes in. -/
structure ApiCall.Sent (call : ApiCall) (env : Env) (req : Request) : Prop where
  route : req.route = call.route
  body : Carries env req call.body

/-- **The page and the firmware understand each other.**  Whatever the page lets through at
one of its controls, as long as it is text and fits the device in bytes, is accepted and
done; a password is changed by who knows it, and the power button is left out. -/
theorem page_control_performed {pf : Platform} (hreads : ReadsScalars pf) {s₀ s : System}
    {as : List Action} {h : List Event} (hs : s₀.Init) (hrun : (systemMachine pf).Run s₀ as h s)
    {control : Control} (hpower : control ≠ .power)
    (henter : control.enterable pf.target.serialPortMax = true) {call : ApiCall}
    (hcall : control.call = some call) (htext : call.isText = true)
    (hlength : call.body.length ≤ call.route.bodyMax)
    (hfits : control.operation.Fits pf s.device.board.config) {a : Action} {req : Request}
    (hserved : Served pf s a req) (hsent : call.Sent a.env req) :
    Performs pf s a control.operation := by
  have hvalid := Control.valid henter hcall htext
  obtain ⟨json, hasks, htold⟩ := Control.asksFor hreads hpower henter hcall htext
  rw [← hsent.route] at hasks htold hlength
  exact performs_of_asks hserved hasks hsent.body (htold hlength) hvalid hfits (named_run hs hrun)

/-! ## A device and its page -/

/-- What the parser of the demonstration makes of a value. -/
def scalarJson : JsonText.Scalar → CJson
  | .string bytes => .string (ofBuffer bytes)
  | .bool value => .bool value
  | .number n => .number (UInt64.ofNat n)

/-- A parser of objects of scalars; its numbers are their own bits. -/
def readScalarJson (text : CString) : Option CJson :=
  (JsonText.readScalars text).map fun ms =>
    .object (ms.map fun m => (ofBuffer m.1, scalarJson m.2))

/-- A platform with that parser and a digest that knows the password of `demoLogin`; it takes
no empty certificate. -/
def demoPage : Platform :=
  { demoPlatform [] with
    sha256 := fun data => Vector.replicate 32 (if (cstr "admin-pass").isSuffixOf data then 0 else 1)
    cJSONParse := readScalarJson
    toUInt32 := fun value => UInt32.ofNat value.toNat
    toInt := fun value => value.toNat
    x509CrtParse := fun cert => if cert = [] then -1 else 0 }

theorem demoPage_readsScalars : ReadsScalars demoPage := by
  intro ms hms
  refine ⟨ms.map fun m => (ofBuffer m.1, scalarJson m.2), ?_, ?_⟩
  · show (JsonText.readScalars _).map _ = _
    rw [JsonText.readScalars_write]
    rfl
  · rw [List.forall₂_map_right_iff, List.forall₂_same]
    intro m hm
    obtain ⟨hname, hvalue⟩ := hms m hm
    refine ⟨ofBuffer_eq_self hname, ?_⟩
    obtain ⟨name, value⟩ := m
    cases value with
    | string bytes =>
        show Reads demoPage _ (.string (ofBuffer bytes))
        rw [ofBuffer_eq_self hvalue]
        exact .string bytes
    | bool value => exact .bool value
    | number n =>
        have hn : (UInt64.ofNat n).toNat = n := by
          have : n < 2147483648 := hvalue
          rw [UInt64.toNat_ofNat']
          omega
        refine .number ⟨?_, ?_⟩
        · exact congrArg UInt32.ofNat hn
        · exact congrArg Int.ofNat hn

/-- A call from the browser of `demoLogin`. -/
def demoSend (call : ApiCall) : Request :=
  { demoRequest call.route call.body.length with authorization := some demoBearer }

/-- That call ten seconds after the login. -/
def demoClick (call : ApiCall) : Action := ⟨demoEnv 20 call.body, .request (demoSend call)⟩

/-- The login of `demoLogin` is in force. -/
def loggedIn (s : System) (_ : List Event) : Bool :=
  s.running && decide (s.now ≤ 20) && s.device.validates (demoEnv 20 []) demoToken &&
    s.device.board.config.authInitialized && decide (s.device.board.gpio.lastPowerToggle = 0)

theorem demo_logs_in : ((systemMachine demoPage).exec demoSystem [demoLogin 10]).any
    (fun r => loggedIn r.1 r.2) = true := by
  decide +kernel

theorem demoClick_served {s : System} {es : List Event} (h : loggedIn s es = true)
    (call : ApiCall) : Served demoPage s (demoClick call) (demoSend call) := by
  simp only [loggedIn, Bool.and_eq_true, decide_eq_true_eq] at h
  obtain ⟨⟨⟨⟨hrunning, htime⟩, hvalid⟩, hsetup⟩, hpower⟩ := h
  have htoken : authGetTokenFromRequest []
      { demoRequest .notFound 0 with authorization := some demoBearer } = some demoToken := by
    decide +kernel
  exact ⟨⟨hrunning, htime, rfl, ⟨demoToken, htoken, hvalid⟩, hsetup, fun _ => rfl⟩, .inl hpower,
    fun _ => rfl, fun hports => absurd hports (by decide)⟩

theorem demoSend_sent (call : ApiCall) : call.Sent (demoEnv 20 call.body) (demoSend call) :=
  ⟨rfl, rfl, demoEnv_arrives 20 call.body _⟩

/-- `Café` with a space before it. -/
def demoName : JsString := [32, 67, 97, 102, 233]

/-- A name is saved without its space, in UTF-8. -/
theorem page_control_performed_name :
    ∃ h s call, (systemMachine demoPage).Run demoSystem [demoLogin 10] h s ∧
      (Control.nameSave demoName).call = some call ∧
      Performs demoPage s (demoClick call) (.setDeviceName [67, 97, 102, 195, 169]) := by
  obtain ⟨s, h, hrun, hlogged⟩ :=
    Machine.Run.exists_of_exec (p := loggedIn) demo_logs_in
  have hfits : (Control.nameSave demoName).operation.Fits demoPage s.device.board.config :=
    (by decide +kernel : demoName.trim.utf8.length ≤ configDeviceNameMaxLen)
  have hpower : Control.nameSave demoName ≠ .power := nofun
  refine ⟨h, s, _, hrun, rfl, ?_⟩
  exact page_control_performed demoPage_readsScalars demoSystem_init hrun hpower (by decide +kernel)
    rfl (by decide +kernel) (by decide +kernel) hfits (demoClick_served hlogged _) (demoSend_sent _)

/-- An error is answered, or the setting is not the one asked for. -/
def misses (op : Operation) (t : System) (es : List Event) : Bool :=
  (es.any fun e =>
    match e with
    | .answered (.error _ _) => true
    | _ => false) ||
  match op with
  | .setDeviceName name => decide (t.device.board.config.deviceName ≠ name)
  | .setAccessPoint _ password => decide (t.device.board.config.apPass ≠ password)
  | .setNtpServer server => decide (t.device.board.config.ntpServer ≠ server)
  | .setTimezone tz => decide (t.device.board.config.timezone ≠ tz)
  | _ => false

theorem not_performs_of_misses {pf : Platform} {s : System} {a : Action} {op : Operation}
    (h : ((systemMachine pf).step s a).any (fun r => misses op r.1 r.2) = true) :
    ¬Performs pf s a op := by
  rintro ⟨t, es, hstep, hquiet, -, happlied, -⟩
  rw [hstep, Option.any_some] at h
  unfold misses at h
  rw [Bool.or_eq_true] at h
  rcases h with herror | hsetting
  · obtain ⟨e, he, herror⟩ := List.any_eq_true.mp herror
    split at herror
    next status message => exact hquiet status message he
    · cases herror
  · cases op with
    | setDeviceName name =>
        exact of_decide_eq_true hsetting (congrArg AppConfig.deviceName happlied.1.1)
    | setAccessPoint ssid password =>
        exact of_decide_eq_true hsetting (congrArg AppConfig.apPass happlied.1.1)
    | setNtpServer server =>
        exact of_decide_eq_true hsetting (congrArg AppConfig.ntpServer happlied.1)
    | setTimezone tz =>
        exact of_decide_eq_true hsetting (congrArg AppConfig.timezone happlied.1.1)
    | _ => cases hsetting

/-- Input the page lets through: accents that take two bytes each, names and passwords
longer than a network's, half a character and a character nobody types, a wrong password
and a long one, empty files, and the power button. -/
def demoMissed : List Control :=
  [.nameSave (List.replicate 32 233), .ntpSave (List.replicate 64 233),
    .tzSave (List.replicate 40 233) "UTC0", .apSave (List.replicate 27 233) [],
    .apSave (js "attic") (List.replicate 64 233), .wifiSave (List.replicate 33 97) [],
    .wifiSave (js "attic") (List.replicate 65 97), .nameSave [0xD800], .nameSave [65, 0],
    .passSave (js "admin") (js "new-pass") (js "new-pass"),
    .passSave (js "admin-pass") (List.replicate 500 97) (List.replicate 500 97),
    .tlsUpload [] [], .power]

/-- The page lets the control through, and the device does not do what it stands for. -/
def missed (s : System) (control : Control) : Bool :=
  control.enterable demoPage.target.serialPortMax && control.call.any fun call =>
    ((systemMachine demoPage).step s (demoClick call)).any fun r => misses control.operation r.1 r.2

/-- What the page lets through is not always accepted or done. -/
theorem page_control_refused :
    ∃ h s, (systemMachine demoPage).Run demoSystem [demoLogin 10] h s ∧
      ∀ control ∈ demoMissed, control.enterable demoPage.target.serialPortMax = true ∧
        ∃ call, control.call = some call ∧ Served demoPage s (demoClick call) (demoSend call) ∧
          call.Sent (demoEnv 20 call.body) (demoSend call) ∧
            ¬Performs demoPage s (demoClick call) control.operation := by
  obtain ⟨s, h, hrun, htest⟩ :=
    Machine.Run.exists_of_exec (p := fun s es => loggedIn s es && demoMissed.all (missed s))
      (by decide +kernel : ((systemMachine demoPage).exec demoSystem [demoLogin 10]).any _ = true)
  obtain ⟨hlogged, hmissed⟩ := Bool.and_eq_true_iff.mp htest
  refine ⟨h, s, hrun, fun control hcontrol => ?_⟩
  obtain ⟨henter, hcall⟩ := Bool.and_eq_true_iff.mp (List.all_eq_true.mp hmissed control hcontrol)
  obtain ⟨call, hcall, hmiss⟩ := (Option.any_eq_true _ _).mp hcall
  exact ⟨henter, call, hcall, demoClick_served hlogged call, demoSend_sent call,
    not_performs_of_misses hmiss⟩

end WebTerminal
