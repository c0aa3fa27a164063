import WebTerminal.Wifi.DriverMode

/-!
# Events during a scan

`wifi_manager_scan` runs in the task of the server, one call into the driver after the
other.  Between any two of them the other tasks may handle an event or an expiry of the
reconnect timer.
-/

set_option autoImplicit false

namespace WebTerminal

open Proc

/-- Where `wifi_manager_scan` is. -/
inductive ScanPhase
  /-- `s_scanning` is set -/
  | begun
  /-- the station is switched on -/
  | switched (origMode : WifiMode)
  /-- the station is disconnected -/
  | ready (origMode : WifiMode)
  /-- `esp_wifi_scan_start` has succeeded -/
  | scanned (origMode : WifiMode)
  /-- there is nothing left in the driver's list -/
  | collected (origMode : WifiMode) (results : Option (List WifiScanResult))
  | restored (results : Option (List WifiScanResult))
  /-- `s_scanning` is clear -/
  | cleared (results : Option (List WifiScanResult))

namespace ScanPhase

/-- `s_scanning` is set until it is cleared. -/
def suppresses : ScanPhase → Bool
  | cleared _ => false
  | _ => true

variable (env : Env)

/-- The results of a scan that has succeeded. -/
def collect : BoardM (Option (List WifiScanResult)) := do
  let records ← ask env.scanResult
  if records.length = 0 then do
    let _ ← wifiCall env .clearApList
    return some []
  else do
    let apRecords ← ask env.found
    let _ ← wifiCall env .clearApList
    if !apRecords then return none
    else do
      let res ← ask env.found
      return if res then some ((records.take 20).foldl addRecord []) else none

/-- One call of `wifi_manager_scan` into the driver, or its last one. -/
def next : ScanPhase → BoardM (ScanPhase ⊕ Option (List WifiScanResult))
  | begun => do
      let wifi ← read Board.wifi
      let origMode := wifi.driverMode
      onlyIf (origMode = .ap) (wifiCall env (.setMode .apsta))
      return .inl (switched origMode)
  | switched origMode => do
      onlyIf (origMode ≠ .ap) (wifiCall env .disconnect)
      return .inl (ready origMode)
  | ready origMode => do
      let err ← wifiCall env .scanStart
      return .inl (if err ≠ .ok then collected origMode none else scanned origMode)
  | scanned origMode => do
      let results ← collect env
      return .inl (collected origMode results)
  | collected origMode results => do
      onlyIf (origMode = .ap) (wifiCall env (.setMode origMode))
      return .inl (restored results)
  | restored results => do
      wifiUpdate fun wifi => { wifi with scanning := false }
      return .inl (cleared results)
  | cleared results => do
      let conf ← read Board.config
      onlyIf (0 < conf.staSsid.length) (wifiCall env .connect)
      return .inr results

/-- The rest of a scan that nothing comes between. -/
def finish : ℕ → ScanPhase → BoardM (Option (List WifiScanResult))
  | 0, _ => return none
  | n + 1, phase => do
      let after ← phase.next env
      match after with
      | .inl phase => finish n phase
      | .inr results => return results

end ScanPhase

/-- The start of `wifi_manager_scan`. -/
def startScan : BoardM ScanPhase := do
  wifiUpdate fun wifi => { wifi with scanning := true }
  return .begun

theorem ScanPhase.finish_succ (env : Env) (n : ℕ) (phase : ScanPhase) :
    phase.finish env (n + 1) = (phase.next env >>= fun after =>
      match after with
      | .inl phase => phase.finish env n
      | .inr results => pure results) := rfl

theorem ScanPhase.finish_collected (env : Env) (n : ℕ) (origMode : WifiMode)
    (results : Option (List WifiScanResult)) :
    (collected origMode results).finish env (n + 3) = (do
      endScan env origMode
      return results) := by
  unfold endScan
  simp only [finish, next, bind_assoc, pure_bind]

/-- The phases one after the other are `wifi_manager_scan`. -/
theorem wifiManagerScan_eq_phases (env : Env) :
    wifiManagerScan env = (startScan >>= fun phase => phase.finish env 7) := by
  have hfinish : ∀ origMode, (ScanPhase.scanned origMode).finish env 4 =
      (ScanPhase.collect env >>= fun results => endScan env origMode >>= fun _ =>
        pure results) := by
    intro origMode
    rw [ScanPhase.finish]
    simp only [ScanPhase.next, bind_assoc, pure_bind, ScanPhase.finish_collected env 0]
  rw [wifiManagerScan_eq]
  unfold startScan beginScan
  simp only [ScanPhase.finish_succ env 6, ScanPhase.finish_succ env 5, ScanPhase.finish_succ env 4,
    ScanPhase.next, bind_assoc, pure_bind]
  refine bind_congr fun _ => bind_congr fun wifi => bind_congr fun _ => bind_congr fun _ =>
    bind_congr fun err => ?_
  by_cases herr : err ≠ .ok
  · rw [if_pos herr, if_pos herr, ScanPhase.finish_collected env 1]
  · rw [if_neg herr, if_neg herr, hfinish]
    unfold ScanPhase.collect
    simp only [bind_assoc]
    refine bind_congr fun records => ?_
    by_cases hnone : records.length = 0
    · simp only [if_pos hnone, bind_assoc, pure_bind]
    · simp only [if_neg hnone, bind_assoc]
      refine bind_congr fun apRecords => bind_congr fun _ => ?_
      cases apRecords with
      | false => rfl
      | true => simp only [Bool.not_true, Bool.false_eq_true, if_false, bind_assoc, pure_bind]

/-! ## Runs -/

structure Scanner where
  board : Board
  /-- the scan in progress -/
  scan : Option ScanPhase

inductive ScannerTask
  | call (call : ManagerCall)
  | startScan
  | scan

structure ScannerAction where
  env : Env
  task : ScannerTask

/-- The task of the server makes the call. -/
def ManagerCall.onServer : ManagerCall → Bool
  | .event _ | .timer => false
  | .request _ | .rename _ => true

/-- What a task runs, and where the scan is after it.  The task of the server does nothing
else during a scan. -/
def ScannerTask.run (pf : Platform) (env : Env) (scan : Option ScanPhase) :
    ScannerTask → Option (BoardM (Option ScanPhase))
  | .call c =>
      if c.onServer = true ∧ scan.isSome = true then none
      else some do
        c.run pf env
        return scan
  | .startScan =>
      if scan.isSome = true then none
      else some do
        let phase ← WebTerminal.startScan
        return some phase
  | .scan => scan.map fun phase => do
      let after ← phase.next env
      return after.getLeft?

def scannerStep (pf : Platform) (s : Scanner) (a : ScannerAction) :
    Option (Scanner × List Effect) :=
  match a.task.run pf a.env s.scan with
  | none => none
  | some m =>
      match m s.board.start with
      | .ok scan w => some (⟨w.state, scan⟩, w.shown)
      | .error _ _ => none

def scannerMachine (pf : Platform) : Machine Scanner ScannerAction Effect where
  step := scannerStep pf

/-- `wifi_manager_scan` has set `s_scanning` and not cleared it. -/
def Scanner.Scanning (s : Scanner) : Prop := s.scan.any ScanPhase.suppresses = true

/-- The flag says where the scan is. -/
def Scanner.Flagged (s : Scanner) : Prop :=
  s.board.wifi.scanning = s.scan.any ScanPhase.suppresses

section

variable {pf : Platform} {env : Env}

/-- Nothing but a scan touches the flag. -/
def KeepsFlag (board : Board) (_ : List Effect) (board' : Board) : Prop :=
  board'.wifi.scanning = board.wifi.scanning

theorem keepsFlag_composes : Composes KeepsFlag where
  refl _ := rfl
  trans h h' := h'.trans h

theorem Wifi.answered_scanning (wifi : Wifi) (err : EspErr) (call : WifiCall) :
    (wifi.answered err call).scanning = wifi.scanning := by
  unfold answered
  split
  · cases call <;> rfl
  · rfl

theorem Wifi.answered_retryCount (wifi : Wifi) (err : EspErr) (call : WifiCall) :
    (wifi.answered err call).retryCount = wifi.retryCount := by
  unfold answered
  split
  · cases call <;> rfl
  · rfl

theorem wifiCall_keepsFlag (env : Env) (call : WifiCall) : Does KeepsFlag (wifiCall env call) :=
  fun _ => ⟨[.wifi call], rfl, Wifi.answered_scanning _ _ call⟩

theorem ManagerCase.scanning {board : Board} {call : ManagerCall} {wifi : Wifi}
    {answers : List (WifiCall × EspErr)} (hcase : ManagerCase pf env board call wifi answers) :
    wifi.scanning = board.wifi.scanning := by
  have hentered : ∀ (n : ℕ) (conf : ApConfig) (wifi : Wifi),
      (wifi.enteredApSta env n conf).scanning = wifi.scanning := fun n conf wifi =>
    (Wifi.answered_scanning _ _ _).trans (Wifi.answered_scanning wifi _ _)
  cases hcase with
  | event hcase =>
      cases hcase with
      | fellBack => exact (Wifi.answered_scanning _ _ _).trans (Wifi.answered_scanning _ _ _)
      | apOff => exact Wifi.answered_scanning _ _ _
      | _ => rfl
  | connectSta hcase =>
      cases hcase with
      | kept => rfl
      | joining => rfl
      | noMode => exact Wifi.answered_scanning _ _ _
      | noConfig => exact hentered _ _ _
      | started => exact (Wifi.answered_scanning _ _ _).trans (hentered _ _ _)
  | disconnectSta hcase =>
      cases hcase with
      | noMode => exact Wifi.answered_scanning _ _ _
      | started => exact (Wifi.answered_scanning _ _ _).trans ((Wifi.answered_scanning _ _ _).trans
          (Wifi.answered_scanning _ _ _))
  | updateAp hcase =>
      cases hcase with
      | unsaved => rfl
      | applied => exact Wifi.answered_scanning _ _ _
  | timerStopped => rfl
  | redialled => rfl
  | refused => rfl
  | renamed => rfl

theorem ScanPhase.collect_keepsFlag (env : Env) : Does KeepsFlag (ScanPhase.collect env) := by
  have hc := keepsFlag_composes
  refine (does_ask hc _).bind hc fun records => .ite (fun _ => ?_) fun _ => ?_
  · exact (wifiCall_keepsFlag env _).bind hc fun _ => does_pure hc _
  · refine (does_ask hc _).bind hc fun apRecords => (wifiCall_keepsFlag env _).bind hc fun _ => ?_
    refine .ite (fun _ => does_pure hc _) fun _ => ?_
    exact (does_ask hc _).bind hc fun _ => does_pure hc _

/-- A step of the scan leaves the flag as the phase it leads to says. -/
theorem ScanPhase.next_flag {phase : ScanPhase} {w v : World Board Effect}
    {after : ScanPhase ⊕ Option (List WifiScanResult)} (h : phase.next env w = .ok after v)
    (hflag : w.state.wifi.scanning = phase.suppresses) :
    v.state.wifi.scanning = after.getLeft?.any ScanPhase.suppresses := by
  have hc := keepsFlag_composes
  -- a step that is no more than a call
  have hcall : ∀ {α : Type} {m : BoardM α}
      {f : α → ScanPhase ⊕ Option (List WifiScanResult)}, Does KeepsFlag m →
        (m >>= fun a => pure (f a)) w = .ok after v →
          v.state.wifi.scanning = w.state.wifi.scanning ∧ ∃ a, after = f a := by
    intro α m f hm hrun
    obtain ⟨a, u, hm', hpure⟩ := of_bind_ok hrun
    cases hpure
    obtain ⟨es, -, hkeeps⟩ := hm w
    rw [final_of_ok hm'] at hkeeps
    exact ⟨hkeeps, a, rfl⟩
  cases phase with
  | begun =>
      have hrun : (onlyIf (w.state.wifi.driverMode = .ap) (wifiCall env (.setMode .apsta)) >>=
          fun _ => pure (.inl (switched w.state.wifi.driverMode))) w = .ok after v := h
      obtain ⟨hkeeps, _, rfl⟩ := hcall (Does.onlyIf hc (wifiCall_keepsFlag env _)) hrun
      exact hkeeps.trans hflag
  | switched origMode =>
      obtain ⟨hkeeps, _, rfl⟩ := hcall (Does.onlyIf hc (wifiCall_keepsFlag env _)) h
      exact hkeeps.trans hflag
  | ready origMode =>
      obtain ⟨hkeeps, err, rfl⟩ := hcall (wifiCall_keepsFlag env _) h
      rw [hkeeps, hflag]
      by_cases herr : err ≠ .ok
      · rw [if_pos herr]
        rfl
      · rw [if_neg herr]
        rfl
  | scanned origMode =>
      obtain ⟨hkeeps, results, rfl⟩ := hcall (collect_keepsFlag env) h
      exact hkeeps.trans hflag
  | collected origMode results =>
      obtain ⟨hkeeps, _, rfl⟩ := hcall (Does.onlyIf hc (wifiCall_keepsFlag env _)) h
      exact hkeeps.trans hflag
  | restored results =>
      cases h
      rfl
  | cleared results =>
      have hrun : (onlyIf (0 < w.state.config.staSsid.length) (wifiCall env .connect) >>=
          fun _ => pure (.inr results)) w = .ok after v := h
      obtain ⟨hkeeps, _, rfl⟩ := hcall (Does.onlyIf hc (wifiCall_keepsFlag env _)) hrun
      exact hkeeps.trans hflag

/-- What a step runs, and where it leads. -/
theorem scannerStep_some {s t : Scanner} {a : ScannerAction} {es : List Effect}
    (h : scannerStep pf s a = some (t, es)) :
    ∃ m w, a.task.run pf a.env s.scan = some m ∧ m s.board.start = .ok t.scan w ∧
      t.board = w.state ∧ es = w.shown := by
  unfold scannerStep at h
  cases hrun : a.task.run pf a.env s.scan with
  | none => simp [hrun] at h
  | some m =>
      cases hm : m s.board.start with
      | error r w => simp [hrun, hm] at h
      | ok scan w =>
          simp only [hrun, hm, Option.some.injEq, Prod.mk.injEq] at h
          obtain ⟨rfl, rfl⟩ := h
          exact ⟨m, w, rfl, hm, rfl, rfl⟩

/-- A call of a task leaves the scan where it is. -/
theorem scannerStep_call {s t : Scanner} {call : ManagerCall} {es : List Effect}
    (h : scannerStep pf s ⟨env, .call call⟩ = some (t, es)) :
    ∃ w, call.run pf env s.board.start = .ok () w ∧ t = ⟨w.state, s.scan⟩ ∧ es = w.shown := by
  obtain ⟨m, w, hm, hrun, hboard, rfl⟩ := scannerStep_some h
  obtain ⟨board, scan⟩ := t
  obtain ⟨-, heq⟩ := Option.ite_none_left_eq_some.mp hm
  obtain rfl := Option.some.inj heq
  obtain ⟨_, u, hcall, hreturn⟩ := of_bind_ok hrun
  cases hreturn
  cases hboard
  exact ⟨_, hcall, rfl, rfl⟩

theorem Scanner.Flagged.step {s t : Scanner} {a : ScannerAction} {es : List Effect}
    (hs : s.Flagged) (h : (scannerMachine pf).step s a = some (t, es)) : t.Flagged := by
  obtain ⟨env, task⟩ := a
  cases task with
  | call c =>
      obtain ⟨w, hrun, rfl, rfl⟩ := scannerStep_call h
      have hstep : managerStep pf s.board ⟨env, c⟩ =
          some (w.state, env.answers (w.asked - w.shown.length) w.shown) := by
        unfold managerStep
        rw [hrun]
      exact (managerStep_cases hstep).scanning.trans hs
  | startScan =>
      obtain ⟨m, w, hm, hrun, hboard, -⟩ := scannerStep_some h
      obtain ⟨-, heq⟩ := Option.ite_none_left_eq_some.mp hm
      obtain rfl := Option.some.inj heq
      obtain ⟨board, scan⟩ := t
      cases hrun
      cases hboard
      rfl
  | scan =>
      obtain ⟨m, w, hm, hrun, hboard, -⟩ := scannerStep_some h
      obtain ⟨phase, hphase, rfl⟩ := Option.map_eq_some_iff.mp hm
      obtain ⟨after, u, hnext, hreturn⟩ := of_bind_ok hrun
      have hflag := ScanPhase.next_flag hnext (hs.trans (by rw [hphase]; rfl))
      obtain ⟨board, scan⟩ := t
      cases hreturn
      cases hboard
      exact hflag

/-- While `s_scanning` is set `event_handler` does not dial, and only an address that is
obtained resets the retries.  An expiry of the timer that finds the station connected does
neither. -/
theorem scan_undisturbed {s u v : Scanner} {as : List ScannerAction} {fs : List Effect}
    {a : ScannerAction} (hidle : s.scan = none) (hclear : s.board.wifi.scanning = false)
    (htakes : (scannerMachine pf).Takes s as u a)
    (hstep : (scannerMachine pf).step u a = some (v, fs)) (hscan : u.Scanning) :
    (∀ event, a.task = .call (.event event) →
      .wifi .connect ∉ fs ∧ (v.board.wifi.retryCount = u.board.wifi.retryCount ∨
        event = .gotIp ∧ v.board.wifi.retryCount = 0)) ∧
    (a.task = .call .timer → u.board.wifi.staConnected = true →
      .wifi .connect ∉ fs ∧ v.board.wifi.retryCount = u.board.wifi.retryCount) := by
  -- the flag is set in every state of a run in which a scan is on
  have hflagged : u.Flagged := by
    obtain ⟨bs, cs, gs, -, hbefore⟩ := htakes
    refine hbefore.invariant (I := Scanner.Flagged) ?_ fun _ _ _ _ hs hstep => hs.step hstep
    rw [Scanner.Flagged, hidle, hclear]
    rfl
  have hset : u.board.wifi.scanning = true := hflagged.trans hscan
  obtain ⟨env, task⟩ := a
  refine ⟨fun event htask => ?_, fun htask hconnected => ?_⟩
  · cases htask
    have hstep' : scannerStep pf u ⟨env, .call (.event event)⟩ = some (v, fs) := hstep
    obtain ⟨w, hevent, rfl, rfl⟩ := scannerStep_call hstep'
    obtain ⟨wifi, calls, hrun, hcase⟩ := eventHandler_cases pf env u.board event
    cases hrun.symm.trans hevent
    cases hcase with
    | startIgnored => exact ⟨by simp [afterCalls, Board.start], .inl rfl⟩
    | lossIgnored => exact ⟨by simp [afterCalls, Board.start], .inl rfl⟩
    | noted => exact ⟨by simp [afterCalls, Board.start], .inl rfl⟩
    -- these cases ask for a flag that is clear
    | dialled hclear => cases hset.symm.trans hclear
    | retried hclear => cases hset.symm.trans hclear
    | fellBack hclear => cases hset.symm.trans hclear
    | gaveUp hclear => cases hset.symm.trans hclear
    | apKept => exact ⟨by simp [afterCalls, Board.start], .inr ⟨rfl, rfl⟩⟩
    | apOff =>
        exact ⟨by simp [afterCalls, Board.start], .inr ⟨rfl, Wifi.answered_retryCount _ _ _⟩⟩
  · cases htask
    have hstep' : scannerStep pf u ⟨env, .call .timer⟩ = some (v, fs) := hstep
    obtain ⟨w, htimer, rfl, rfl⟩ := scannerStep_call hstep'
    rcases reconnectTimerCb_cases env u.board with ⟨-, hrun⟩ | ⟨hdown, -⟩
    · cases hrun.symm.trans htimer
      exact ⟨by simp [afterCalls, Board.start], rfl⟩
    · cases hdown.symm.trans hconnected

end

/-- `demoStation` after `wifi_manager_init`. -/
def demoIdle : Scanner := ⟨demoStarted.board, none⟩

def demoCall (call : ManagerCall) : ScannerAction := ⟨demoEnv 0 [], .call call⟩

/-- The start of a scan. -/
def demoScan : ScannerAction := ⟨demoEnv 0 [], .startScan⟩

/-- A scan is on, after one retry. -/
def demoRetried (s : Scanner) (_ : List Effect) : Bool :=
  s.scan.any ScanPhase.suppresses && decide (s.board.wifi.retryCount = 1)

/-- A scan is on, the retries used up and the timer running. -/
def demoWatched (s : Scanner) (_ : List Effect) : Bool :=
  s.scan.any ScanPhase.suppresses && s.board.wifi.reconnectTimer &&
    decide (s.board.wifi.retryCount = maxStaRetries)

def demoRedialled (s : Scanner) (es : List Effect) : Bool :=
  decide (.wifi .connect ∈ es) && decide (s.board.wifi.retryCount = 0)

/-- The link is lost, and lost again during the scan. -/
theorem scan_undisturbed_loss :
    ∃ es u fs v, (scannerMachine (demoPlatform [])).Run demoIdle
        [demoCall (.event .staDisconnected), demoScan] es u ∧
      (scannerMachine (demoPlatform [])).step u (demoCall (.event .staDisconnected)) =
        some (v, fs) ∧
      u.Scanning ∧ .wifi .connect ∉ fs ∧ v.board.wifi.retryCount = 1 := by
  obtain ⟨u, es, v, fs, hrun, hlast, hu, -⟩ := Machine.Run.exists_of_exec_exec
    (M := scannerMachine (demoPlatform [])) (s := demoIdle) (p := demoRetried)
    (q := fun _ _ => true)
    (show ((scannerMachine (demoPlatform [])).exec demoIdle
      [demoCall (.event .staDisconnected), demoScan]).any (fun r => demoRetried r.1 r.2 &&
        ((scannerMachine (demoPlatform [])).exec r.1
          [demoCall (.event .staDisconnected)]).any fun _ => true) = true by decide +kernel)
  simp only [demoRetried, Bool.and_eq_true, decide_eq_true_eq] at hu
  have hstep := hlast.single_inv
  have htakes : (scannerMachine (demoPlatform [])).Takes demoIdle
      ([demoCall (.event .staDisconnected), demoScan] ++ [demoCall (.event .staDisconnected)]) u
      (demoCall (.event .staDisconnected)) := ⟨_, [], es, rfl, hrun⟩
  obtain ⟨hquiet, hretry⟩ := (scan_undisturbed rfl rfl htakes hstep hu.1).1
    .staDisconnected rfl
  exact ⟨es, u, fs, v, hrun, hstep, hu.1, hquiet,
    (hretry.resolve_right fun h => by cases h.1).trans hu.2⟩

/-- An address that is obtained during a scan resets the retries, and an expiry of the timer
during a scan dials. -/
theorem scan_disturbed :
    (∃ es u fs v, (scannerMachine (demoPlatform [])).Run demoIdle
        [demoCall (.event .staDisconnected), demoScan] es u ∧
      (scannerMachine (demoPlatform [])).step u (demoCall (.event .gotIp)) = some (v, fs) ∧
      u.Scanning ∧ u.board.wifi.retryCount = 1 ∧ v.board.wifi.retryCount = 0) ∧
    ∃ es u fs v, (scannerMachine (demoPlatform [])).Run demoIdle
        (List.replicate 6 (demoCall (.event .staDisconnected)) ++ [demoScan]) es u ∧
      (scannerMachine (demoPlatform [])).step u (demoCall .timer) = some (v, fs) ∧
      u.Scanning ∧ u.board.wifi.reconnectTimer = true ∧ u.board.wifi.retryCount = maxStaRetries ∧
      .wifi .connect ∈ fs ∧ v.board.wifi.retryCount = 0 := by
  constructor
  · obtain ⟨u, es, v, fs, hrun, hlast, hu, hv⟩ := Machine.Run.exists_of_exec_exec
      (M := scannerMachine (demoPlatform [])) (s := demoIdle) (p := demoRetried)
      (q := fun s _ => decide (s.board.wifi.retryCount = 0))
      (show ((scannerMachine (demoPlatform [])).exec demoIdle
        [demoCall (.event .staDisconnected), demoScan]).any (fun r => demoRetried r.1 r.2 &&
          ((scannerMachine (demoPlatform [])).exec r.1
            [demoCall (.event .gotIp)]).any fun r' => decide (r'.1.board.wifi.retryCount = 0)) =
          true by decide +kernel)
    simp only [demoRetried, Bool.and_eq_true, decide_eq_true_eq] at hu
    exact ⟨es, u, fs, v, hrun, hlast.single_inv, hu.1, hu.2, of_decide_eq_true hv⟩
  · obtain ⟨u, es, v, fs, hrun, hlast, hu, hv⟩ := Machine.Run.exists_of_exec_exec
      (M := scannerMachine (demoPlatform [])) (s := demoIdle) (p := demoWatched)
      (q := demoRedialled)
      (show ((scannerMachine (demoPlatform [])).exec demoIdle
        (List.replicate 6 (demoCall (.event .staDisconnected)) ++ [demoScan])).any
          (fun r => demoWatched r.1 r.2 && ((scannerMachine (demoPlatform [])).exec r.1
            [demoCall .timer]).any fun r' => demoRedialled r'.1 r'.2) = true by decide +kernel)
    simp only [demoWatched, demoRedialled, Bool.and_eq_true, decide_eq_true_eq] at hu hv
    exact ⟨es, u, fs, v, hrun, hlast.single_inv, hu.1.1, hu.1.2, hu.2, hv.1, hv.2⟩

end WebTerminal
