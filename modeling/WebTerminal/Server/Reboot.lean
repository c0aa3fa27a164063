import WebTerminal.Server.HandlerParts
import WebTerminal.Server.Startup
import WebTerminal.Server.System
import WebTerminal.Wifi.Networks

/-!
# Settings before and after a reset

`handle_config_post` applies a setting twice: to the running device from the
string in the request, and to the configuration, which holds as much of it as its
buffer takes.  The device comes up again with the second.  Over the runs of a
device whose drivers accept everything the two agree, except for a device name
and a time zone that are longer than their buffers, and for the web service, which
keeps the name the device came up with.
-/

set_option autoImplicit false

namespace WebTerminal

open Proc

/-- What is in effect is what is stored, up to the length of two strings.  The web service
has a name of its own. -/
structure Board.Synced (pf : Platform) (service : CString) (board : Board) : Prop where
  wellFormed : board.config.WellFormed
  stored : ∀ key ∈ savedKeys pf.target.serialPortMax, key.ofCredentials = false →
    board.reads pf key = board.config.saved key
  hostname : board.wifi.hostname = hostnameOf board.wifi.mdnsInstance
  mdnsHostname : board.wifi.mdnsHostname = hostnameOf board.wifi.mdnsInstance
  service : board.wifi.mdnsService = service
  deviceName :
      board.config.deviceName = strncpy (configDeviceNameMaxLen + 1) board.wifi.mdnsInstance
  timezone : board.config.timezone = strncpy (configTimezoneMaxLen + 1) board.tz
  uartRate : board.serial.uartRate = board.config.baudRate 0
  usbRate : 1 < pf.target.serialPortMax →
    board.serial.usbReady = true ∧ board.serial.usbRate = board.config.baudRate 1
  ap : board.wifi.apConfig = storedApConfig pf board.config
  noStation : board.config.staSsid = [] → board.wifi.driverMode = .ap
  station : board.config.staSsid ≠ [] →
    board.wifi.driverMode ≠ .ap ∧ board.wifi.staConfig = storedStaConfig board.config
  mode : board.wifi.mode ≠ .ap → board.wifi.driverMode ≠ .ap

section

variable {pf : Platform} {env : Env} {conf conf' : AppConfig} {nvs : Nvs} {service : CString}

/-! ## Reset -/

theorem hasSta_iff (h : conf.WellFormed) : conf.HasSta ↔ conf.staSsid ≠ [] := by
  have hlen := h.staSsid.1
  refine ⟨fun hsta => List.ne_nil_of_length_pos hsta.1,
    fun hne => ⟨List.length_pos_of_ne_nil hne, ?_⟩⟩
  exact not_lt.mpr (Nat.le_of_lt_succ hlen)

/-- The settings a load finds do not depend on the password it finds. -/
theorem AppConfig.sameSettings_load (pf : Platform) (salt : Vector UInt8 configAuthSaltLen)
    (conf : AppConfig) (nvs : Nvs) : (conf.stored pf.target.serialPortMax nvs).SameSettings
      (conf.load pf.sha256 pf.target.serialPortMax salt nvs) := by
  cases hhash : hashReadable nvs with
  | true => rw [AppConfig.load_of_readable hhash]; exact .refl _
  | false => rw [AppConfig.load_of_unreadable hhash]; rfl

theorem Board.reads_eq (pf : Platform) (board : Board) (salt : Vector UInt8 configAuthSaltLen)
    {key : NvsKey} (hkey : key.ofCredentials = false) :
    board.reads pf key =
      (AppConfig.zero.load pf.sha256 pf.target.serialPortMax salt board.nvs).saved key :=
  ((AppConfig.sameSettings_load pf salt .zero board.nvs).saved hkey).symm

/-- A device that has come up is in step with its flash. -/
theorem Board.synced_putInEffect (pf : Platform) {board : Board} (hconf : board.config.WellFormed)
    (hstored : ∀ key ∈ savedKeys pf.target.serialPortMax, key.ofCredentials = false →
      board.reads pf key = board.config.saved key) :
    (board.putInEffect pf).Synced pf board.config.deviceName where
  wellFormed := hconf
  stored := hstored
  hostname := rfl
  mdnsHostname := rfl
  service := rfl
  deviceName := (hconf.deviceName.strncpy_eq).symm
  timezone := (hconf.timezone.strncpy_eq).symm
  uartRate := by
    show (board.serial.started pf board.config).uartRate = _
    unfold Serial.started
    split <;> rfl
  usbRate := fun hports => by
    show (board.serial.started pf board.config).usbReady = true ∧
      (board.serial.started pf board.config).usbRate = _
    unfold Serial.started
    rw [if_pos hports]
    exact ⟨rfl, rfl⟩
  ap := rfl
  noStation := fun hnil => by
    show (board.wifi.initialized pf board.config).driverMode = .ap
    unfold Wifi.initialized
    rw [if_neg fun hsta => (hasSta_iff hconf).mp hsta hnil]
  station := fun hne => by
    show (board.wifi.initialized pf board.config).driverMode ≠ .ap ∧
      (board.wifi.initialized pf board.config).staConfig = _
    unfold Wifi.initialized
    rw [if_pos ((hasSta_iff hconf).mpr hne)]
    exact ⟨by simp, rfl⟩
  mode := fun hmode => by
    show (board.wifi.initialized pf board.config).driverMode ≠ .ap
    have hmode' : (board.wifi.initialized pf board.config).mode ≠ .ap := hmode
    unfold Wifi.initialized at hmode' ⊢
    split
    next => simp
    next hsta =>
      rw [if_neg hsta] at hmode'
      exact absurd rfl hmode'

/-- What a device has in effect once its flash is in effect. -/
theorem Board.inEffect_putInEffect (pf : Platform) (board : Board) :
    (board.putInEffect pf).inEffect pf =
      { hostname := hostnameOf board.config.deviceName
        mdnsHostname := hostnameOf board.config.deviceName
        mdnsInstance := board.config.deviceName
        mdnsService := board.config.deviceName
        tz := board.config.timezone
        uartRate := board.config.baudRate 0
        usbRate := if 1 < pf.target.serialPortMax then some (board.config.baudRate 1) else none
        ap := storedApConfig pf board.config
        sta := if board.config.HasSta then some (storedStaConfig board.config) else none } := by
  unfold Board.inEffect Board.putInEffect Serial.started Wifi.initialized
  by_cases hsta : board.config.HasSta <;> by_cases hports : 1 < pf.target.serialPortMax <;>
    simp [hsta, hports]

/-- A device in step with its flash has in effect what it would come up with, but for
the ends of two strings and the name of the web service. -/
theorem Board.Synced.inEffect_eq {board : Board} (h : board.Synced pf service) :
    board.inEffect pf = { (board.putInEffect pf).inEffect pf with
      hostname := hostnameOf board.wifi.mdnsInstance
      mdnsHostname := hostnameOf board.wifi.mdnsInstance
      mdnsInstance := board.wifi.mdnsInstance
      mdnsService := service
      tz := board.tz } := by
  rw [Board.inEffect_putInEffect]
  unfold Board.inEffect
  rw [h.hostname, h.mdnsHostname, h.service, h.uartRate, h.ap]
  by_cases hsta : board.config.staSsid = []
  · rw [if_pos (h.noStation hsta), if_neg fun hhas => (hasSta_iff h.wellFormed).mp hhas hsta]
    split
    next hports => rw [(h.usbRate hports).2]
    next => rfl
  · rw [if_neg (h.station hsta).1, if_pos ((hasSta_iff h.wellFormed).mpr hsta), (h.station hsta).2]
    split
    next hports => rw [(h.usbRate hports).2]
    next => rfl

/-- The settings that are put in effect are those that are saved. -/
theorem Board.inEffect_putInEffect_congr {board board' : Board}
    (h : ∀ key ∈ savedKeys pf.target.serialPortMax, key.ofCredentials = false →
      board'.config.saved key = board.config.saved key) :
    (board'.putInEffect pf).inEffect pf = (board.putInEffect pf).inEffect pf := by
  have hstr : ∀ key, (∀ port, key ≠ .baudRate port) → key.ofCredentials = false →
      board'.config.saved key = board.config.saved key :=
    fun key hne => h key (AppConfig.mem_savedKeys.mpr fun port heq => absurd heq (hne port))
  have hbaud : ∀ port < pf.target.serialPortMax,
      board'.config.baudRate port = board.config.baudRate port := fun port hport =>
    NvsValue.u32.inj (h (.baudRate port)
      (AppConfig.mem_savedKeys.mpr fun p heq => by cases heq; exact hport) rfl)
  have hstaSsid := NvsValue.str.inj (hstr .staSsid (by simp) rfl)
  have hstaPass := NvsValue.str.inj (hstr .staPass (by simp) rfl)
  have hapSsid := NvsValue.str.inj (hstr .apSsid (by simp) rfl)
  have hapPass := NvsValue.str.inj (hstr .apPass (by simp) rfl)
  have hname := NvsValue.str.inj (hstr .devName (by simp) rfl)
  have htz := NvsValue.str.inj (hstr .timezone (by simp) rfl)
  have hports : 0 < pf.target.serialPortMax := by cases pf.target <;> decide
  rw [Board.inEffect_putInEffect, Board.inEffect_putInEffect]
  simp only [AppConfig.HasSta, storedStaConfig, storedApConfig, hstaSsid, hstaPass, hapSsid,
    hapPass, hname, htz, hbaud 0 hports]
  split
  next hboth => rw [hbaud 1 hboth]
  next => rfl

/-- A device in step with its flash comes up as it was exactly if its name is that of its
web service and its time zone fits. -/
theorem Board.Synced.survivesReset_iff {board : Board} (h : board.Synced pf service)
    (hservice : service.length ≤ configDeviceNameMaxLen) (hok : env.AllOk) (hfound : env.AllFound) :
    board.SurvivesReset pf env ↔
      board.wifi.mdnsInstance = service ∧ board.tz.length ≤ configTimezoneMaxLen := by
  obtain ⟨w, hrun, hw⟩ := startUp_ok pf hok hfound board.reset
  have hcongr : w.state.inEffect pf = (board.putInEffect pf).inEffect pf := by
    rw [hw]
    refine Board.inEffect_putInEffect_congr fun key hkey hcred => ?_
    exact (Board.reads_eq pf board _ hcred).symm.trans (h.stored key hkey hcred)
  have hsurvives : board.SurvivesReset pf env ↔
      (board.putInEffect pf).inEffect pf = board.inEffect pf := by
    refine ⟨fun ⟨v, hrun', heq⟩ => ?_, fun heq => ⟨w, hrun, hcongr.trans heq⟩⟩
    cases hrun.symm.trans hrun'
    exact hcongr.symm.trans heq
  rw [hsurvives, h.inEffect_eq, Board.inEffect_putInEffect, h.deviceName, h.timezone]
  have hfits : ∀ (n : ℕ) (s : CString), strncpy (n + 1) s = s ↔ s.length ≤ n := by
    intro n s
    refine ⟨fun heq => ?_, fun hle => List.take_of_length_le hle⟩
    have hlen := congrArg List.length heq
    simp only [strncpy, List.length_take] at hlen
    omega
  simp only [InEffect.mk.injEq, and_true]
  constructor
  · rintro ⟨-, -, hname, hsame, htz⟩
    exact ⟨hname.symm.trans hsame, (hfits _ _).mp htz⟩
  · rintro ⟨rfl, htz⟩
    rw [(hfits _ _).mpr hservice]
    exact ⟨rfl, rfl, rfl, rfl, (hfits _ _).mpr htz⟩

end

end WebTerminal
