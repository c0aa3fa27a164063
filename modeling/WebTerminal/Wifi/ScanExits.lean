import WebTerminal.Server.Survival
import WebTerminal.Wifi.Scanning

/-!
# The exits of a scan

`wifi_manager_scan` has five exits, and each cleans up by itself:

```text
starting the scan fails    mode, flag and reconnect in one branch      -1
nothing is found           list, mode, flag and reconnect in one       0
no room for the records    list, mode, flag, reconnect                 -1
no room for the results    list, mode, flag, reconnect                 -1
success                    list, mode, flag and reconnect in one       count
```

`wifiManagerScanInto` has the exits as the source writes them, and what it stores in
`*results`.  Up to the clearing of `s_scanning` it is `scanUpToClear`; what comes after
that is the reconnect.
-/

set_option autoImplicit false

namespace WebTerminal

open Proc

section

variable (env : Env)

/-- `s_scanning` is cleared in both branches of the test for a stored network. -/
def clearInBranches : BoardM Unit := do
  let conf ← read Board.config
  if 0 < conf.staSsid.length then do
    wifiUpdate fun wifi => { wifi with scanning := false }
    let _ ← wifiCall env .connect
  else wifiUpdate fun wifi => { wifi with scanning := false }

/-- The reconnect at the end. -/
def reconnectStored : BoardM Unit := do
  let conf ← read Board.config
  onlyIf (0 < conf.staSsid.length) (wifiCall env .connect)

/-- `s_scanning` is cleared before the test. -/
def clearThenTest : BoardM Unit := do
  wifiUpdate fun wifi => { wifi with scanning := false }
  reconnectStored env

/-- `wifi_manager_scan`: what it returns, and `*results`. -/
def wifiManagerScanInto : BoardM (ℤ × Option (List WifiScanResult)) := do
  wifiUpdate fun wifi => { wifi with scanning := true }
  let wifi ← read Board.wifi
  let origMode := wifi.driverMode
  onlyIf (origMode = .ap) (wifiCall env (.setMode .apsta))
  onlyIf (origMode = .sta ∨ origMode = .apsta) (wifiCall env .disconnect)
  let err ← wifiCall env .scanStart
  if err ≠ .ok then do
    onlyIf (origMode = .ap) (wifiCall env (.setMode origMode))
    clearInBranches env
    return (-1, none)
  else do
    let records ← ask env.scanResult
    if records.length = 0 then do
      let _ ← wifiCall env .clearApList
      onlyIf (origMode = .ap) (wifiCall env (.setMode origMode))
      clearInBranches env
      return (0, none)
    else do
      let apRecords ← ask env.found
      if apRecords = false then do
        let _ ← wifiCall env .clearApList
        onlyIf (origMode = .ap) (wifiCall env (.setMode origMode))
        clearThenTest env
        return (-1, none)
      else do
        let _ ← wifiCall env .clearApList
        let res ← ask env.found
        if res = false then do
          onlyIf (origMode = .ap) (wifiCall env (.setMode origMode))
          clearThenTest env
          return (-1, none)
        else do
          onlyIf (origMode = .ap) (wifiCall env (.setMode origMode))
          clearInBranches env
          let found := (records.take 20).foldl addRecord []
          return (found.length, some found)

/-- The scan and its result, between the calls that prepare it and those that clean up. -/
def scanResults : BoardM (ℤ × Option (List WifiScanResult)) := do
  let err ← wifiCall env .scanStart
  if err ≠ .ok then return (-1, none)
  else do
    let records ← ask env.scanResult
    if records.length = 0 then do
      let _ ← wifiCall env .clearApList
      return (0, none)
    else do
      let apRecords ← ask env.found
      let _ ← wifiCall env .clearApList
      if apRecords = false then return (-1, none)
      else do
        let res ← ask env.found
        if res = false then return (-1, none)
        else do
          let found := (records.take 20).foldl addRecord []
          return (found.length, some found)

/-- `wifi_manager_scan` until `s_scanning` is clear. -/
def scanUpToClear : BoardM (ℤ × Option (List WifiScanResult)) := do
  let origMode ← beginScan env
  let result ← scanResults env
  onlyIf (origMode = .ap) (wifiCall env (.setMode origMode))
  wifiUpdate fun wifi => { wifi with scanning := false }
  return result

/-! ## The exits are one -/

/-- Clearing the flag does not change what is tested. -/
theorem clearInBranches_eq : clearInBranches env = clearThenTest env := by
  funext w
  unfold clearInBranches clearThenTest reconnectStored
  rw [bind_ok (read_apply _ _), bind_ok (wifiUpdate_apply _ _), bind_ok (read_apply _ _)]
  by_cases hssid : 0 < w.state.config.staSsid.length
  · rw [if_pos hssid]
    refine (bind_ok (wifiUpdate_apply _ _)).trans ((bind_ok (wifiCall_apply _ _ _)).trans ?_)
    exact (onlyIf_of hssid (wifiCall_apply _ _ _)).symm
  · rw [if_neg hssid]
    exact ((onlyIf_of_not hssid).trans rfl).symm

/-- Whatever exit a scan takes, the reconnect comes last, behind the clearing of the flag. -/
theorem wifiManagerScanInto_eq : wifiManagerScanInto env = (do
    let result ← scanUpToClear env
    reconnectStored env
    return result) := by
  have hstation : ∀ mode : WifiMode,
      onlyIf (mode = .sta ∨ mode = .apsta) (wifiCall env .disconnect) =
        onlyIf (mode ≠ .ap) (wifiCall env .disconnect) := by
    intro mode
    cases mode <;> rfl
  unfold wifiManagerScanInto scanUpToClear scanResults beginScan
  simp only [clearInBranches_eq, clearThenTest, bind_assoc, pure_bind, hstation]
  refine bind_congr fun _ => bind_congr fun wifi => bind_congr fun _ => bind_congr fun _ =>
    bind_congr fun err => ?_
  by_cases herr : err ≠ .ok
  · simp only [if_pos herr, pure_bind]
  · simp only [if_neg herr, bind_assoc]
    refine bind_congr fun records => ?_
    by_cases hnone : records.length = 0
    · simp only [if_pos hnone, bind_assoc, pure_bind]
    · simp only [if_neg hnone, bind_assoc]
      refine bind_congr fun apRecords => ?_
      by_cases hroom : apRecords = false
      · simp only [if_pos hroom, pure_bind]
      · simp only [if_neg hroom, bind_assoc]
        refine bind_congr fun _ => bind_congr fun res => ?_
        by_cases hres : res = false
        · simp only [if_pos hres, pure_bind]
        · simp only [if_neg hres, pure_bind]

/-- The handler is modelled with the same scan. -/
theorem wifiManagerScan_eq_into : wifiManagerScan env = (do
    let result ← wifiManagerScanInto env
    return if result.1 < 0 then none else some (result.2.getD [])) := by
  have hend : ∀ origMode : WifiMode, endScan env origMode = (do
      onlyIf (origMode = .ap) (wifiCall env (.setMode origMode))
      clearThenTest env) := fun _ => rfl
  have hfound : ∀ n : ℕ, ¬(n : ℤ) < 0 := fun n => by omega
  rw [wifiManagerScan_eq, wifiManagerScanInto_eq]
  unfold scanUpToClear scanResults
  simp only [hend, clearThenTest, bind_assoc, pure_bind]
  refine bind_congr fun origMode => bind_congr fun err => ?_
  by_cases herr : err ≠ .ok
  · simp only [if_pos herr, pure_bind]
    rfl
  · simp only [if_neg herr, bind_assoc]
    refine bind_congr fun records => ?_
    by_cases hnone : records.length = 0
    · simp only [if_pos hnone, bind_assoc, pure_bind]
      rfl
    · simp only [if_neg hnone, bind_assoc]
      refine bind_congr fun apRecords => bind_congr fun _ => ?_
      cases apRecords with
      | false =>
          simp only [Bool.not_false, if_true, pure_bind]
          rfl
      | true =>
          simp only [Bool.not_true, Bool.false_eq_true, Bool.true_eq_false, if_false, bind_assoc]
          refine bind_congr fun res => ?_
          cases res with
          | false =>
              simp only [if_true, Bool.false_eq_true, if_false, pure_bind]
              rfl
          | true =>
              simp only [if_true, Bool.true_eq_false, if_false, pure_bind, if_neg (hfound _)]
              rfl

end

/-! ## The outcomes -/

/-- What the driver and the heap do to a scan. -/
inductive ScanOutcome
  | startFails
  | noResults
  /-- the first allocation fails -/
  | noRecords
  /-- the second allocation fails -/
  | noArray
  | success
  deriving DecidableEq

/-- The outcome of a scan that is asked from question 0 on: question 0 is the call that
prepares it, and question 1 the start. -/
def Env.scanOutcome (env : Env) : ScanOutcome :=
  if env.err 1 ≠ .ok then .startFails
  else if (env.scanResult 2).length = 0 then .noResults
  else if env.found 3 = false then .noRecords
  else if env.found 5 = false then .noArray
  else .success

namespace ScanOutcome

/-- The question the way back to the mode at entry is answered by. -/
def restoreQuestion : ScanOutcome → ℕ
  | startFails => 2
  | noResults => 4
  | noRecords => 5
  | noArray | success => 6

/-- The calls of the scan itself. -/
def calls : ScanOutcome → List WifiCall
  | startFails => [.scanStart]
  | _ => [.scanStart, .clearApList]

/-- What is returned, and stored in `*results`. -/
def returns (env : Env) : ScanOutcome → ℤ × Option (List WifiScanResult)
  | startFails | noRecords | noArray => (-1, none)
  | noResults => (0, none)
  | success =>
      let found := ((env.scanResult 2).take 20).foldl addRecord []
      (found.length, some found)

end ScanOutcome

/-- The driver goes back to the mode it was switched from: none of the outcomes of a scan
is that it refuses to. -/
def Env.RestoresMode (env : Env) : Prop :=
  env.err 0 = .ok → env.err env.scanOutcome.restoreQuestion = .ok

instance (env : Env) : Decidable env.RestoresMode := inferInstanceAs (Decidable (_ → _))

section

variable (env : Env)

/-- The scan leaves the board as it is. -/
theorem scanResults_apply {w : World Board Effect} (hasked : w.asked = 1) :
    scanResults env w = .ok (env.scanOutcome.returns env)
      { w with
        asked := env.scanOutcome.restoreQuestion
        shown := w.shown ++ env.scanOutcome.calls.map .wifi } := by
  obtain ⟨board, asked, shown⟩ := w
  obtain rfl : asked = 1 := hasked
  have hcall : ∀ (call : WifiCall) (k : ℕ) (shown : List Effect),
      (call = .scanStart ∨ call = .clearApList) →
        wifiCall env call ⟨board, k, shown⟩ =
          .ok (env.err k) ⟨board, k + 1, shown ++ [.wifi call]⟩ := by
    rintro call k shown (rfl | rfl)
    · rw [wifiCall_apply, Wifi.drive_scanStart]
    · rw [wifiCall_apply, Wifi.drive_clearApList]
  unfold scanResults Env.scanOutcome
  rw [bind_ok (hcall .scanStart 1 shown (.inl rfl))]
  by_cases herr : env.err 1 ≠ .ok
  · rw [if_pos herr, if_pos herr]
    rfl
  · rw [if_neg herr, if_neg herr, bind_ok (ask_apply _ _)]
    by_cases hnone : (env.scanResult 2).length = 0
    · rw [if_pos hnone, if_pos hnone, bind_ok (hcall .clearApList 3 _ (.inr rfl))]
      simp [ScanOutcome.returns, ScanOutcome.restoreQuestion, ScanOutcome.calls]
    · rw [if_neg hnone, if_neg hnone, bind_ok (ask_apply _ _),
        bind_ok (hcall .clearApList 4 _ (.inr rfl))]
      by_cases hrecords : env.found 3 = false
      · rw [if_pos hrecords, if_pos hrecords]
        simp [ScanOutcome.returns, ScanOutcome.restoreQuestion, ScanOutcome.calls]
      · rw [if_neg hrecords, if_neg hrecords, bind_ok (ask_apply _ _)]
        by_cases hres : env.found 5 = false
        · rw [if_pos hres, if_pos hres]
          simp [ScanOutcome.returns, ScanOutcome.restoreQuestion, ScanOutcome.calls]
        · rw [if_neg hres, if_neg hres]
          simp [ScanOutcome.returns, ScanOutcome.restoreQuestion, ScanOutcome.calls]

/-- The call that prepares a scan, by the mode at entry. -/
def entryCalls (entry : WifiMode) : List WifiCall :=
  if entry = .ap then [.setMode .apsta] else [.disconnect]

/-- The way back to it. -/
def restoreCalls (entry : WifiMode) : List WifiCall := if entry = .ap then [.setMode .ap] else []

/-- The mode of the driver after a scan. -/
def Env.modeAfterScan (entry : WifiMode) : WifiMode :=
  if entry = .ap ∧ env.err 0 = .ok ∧ env.err env.scanOutcome.restoreQuestion ≠ .ok then .apsta
  else entry

/-- What `wifi_manager_scan` does until `s_scanning` is clear, whatever the answers. -/
theorem scanUpToClear_apply (board : Board) :
    ∃ u, scanUpToClear env board.start = .ok (env.scanOutcome.returns env) u ∧
      u.state = { board with wifi := { board.wifi with
        scanning := false, driverMode := env.modeAfterScan board.wifi.driverMode } } ∧
      u.shown = (entryCalls board.wifi.driverMode ++ env.scanOutcome.calls ++
        restoreCalls board.wifi.driverMode).map .wifi := by
  unfold scanUpToClear
  rcases beginScan_cases env board with ⟨hap, hbegin⟩ | ⟨hap, hbegin⟩
  · rw [bind_ok hbegin, bind_ok (scanResults_apply env rfl),
      bind_ok (onlyIf_of rfl (wifiCall_apply _ _ _)), bind_ok (wifiUpdate_apply _ _)]
    refine ⟨_, rfl, ?_, ?_⟩
    · unfold Env.modeAfterScan
      by_cases hswitch : env.err 0 = .ok
      · by_cases hback : env.err env.scanOutcome.restoreQuestion = .ok
        · simp [afterCalls, Board.start, Wifi.answered, Wifi.drive, hap, hswitch, hback]
        · simp [afterCalls, Board.start, Wifi.answered, Wifi.drive, hap, hswitch, hback]
      · -- a switch that was refused needs no way back
        by_cases hback : env.err env.scanOutcome.restoreQuestion = .ok
        · simp [afterCalls, Board.start, Wifi.answered, Wifi.drive, hap, hswitch, hback]
        · simp [afterCalls, Board.start, Wifi.answered, hap, hswitch, hback]
    · simp [afterCalls, Board.start, entryCalls, restoreCalls, hap]
  · rw [bind_ok hbegin, bind_ok (scanResults_apply env rfl), bind_ok (onlyIf_of_not hap),
      bind_ok (wifiUpdate_apply _ _)]
    refine ⟨_, rfl, ?_, ?_⟩
    · simp [afterCalls, Board.start, Env.modeAfterScan, hap]
    · simp [afterCalls, Board.start, entryCalls, restoreCalls, hap]

/-- The reconnect leaves the board as it is. -/
theorem reconnectStored_apply (w : World Board Effect) :
    ∃ v, reconnectStored env w = .ok () v ∧ v.state = w.state ∧
      v.shown = w.shown ++
        if w.state.config.staSsid = [] then [] else [.wifi .connect] := by
  unfold reconnectStored
  rw [bind_ok (read_apply _ _)]
  by_cases hssid : w.state.config.staSsid = []
  · exact ⟨w, onlyIf_of_not (by simp [hssid]), rfl, by simp [hssid]⟩
  · refine ⟨_, onlyIf_of (List.length_pos_iff.mpr hssid) (wifiCall_apply _ _ _), ?_, ?_⟩
    · rw [Wifi.answered_connect]
    · rw [if_neg hssid]

end

/-- A device in access point mode, with a stored network. -/
def demoHomeBoard : Board :=
  { demoSystem.device.board with config := { adminConfig with staSsid := cstr "home" } }

/-- A scan that finds one network. -/
def demoHomeScan : Env :=
  { demoEnv 1 [] with scanResult := fun _ => [⟨cstr "home", -60, false⟩] }

end WebTerminal
