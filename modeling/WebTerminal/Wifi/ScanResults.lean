import Mathlib.Data.List.Dedup
import Mathlib.Order.Bounds.Basic
import WebTerminal.Server.Wifi

/-!
# What a scan finds

`wifi_manager_scan` copies the records of the driver into an array of as many cells,
leaving out hidden networks and raising the RSSI of a network it has met before.  The inner
loop stops at the first cell with the same SSID, so that the two loops do what
`addRecord` does as long as no SSID is in two cells: that is the invariant.  An access
outside the array or to a cell that was not written has no result here.
-/

set_option autoImplicit false

namespace WebTerminal

/-- A cell of `res`, which is not written when `malloc` returns it. -/
abbrev ScanCell := Option WifiScanResult

/-- The inner loop from `j` on: whether the SSID of the record is in one of the `count`
cells, and the cells after it. -/
def dupLoop (record : ApRecord) (count : ℕ) : ℕ → ℕ → List ScanCell →
    Option (Bool × List ScanCell)
  | 0, _, res => some (false, res)
  | fuel + 1, j, res =>
      if count ≤ j then some (false, res)
      else
        match res[j]? with
        | some (some result) =>
            if result.ssid = record.ssid then
              if result.rssi < record.rssi then
                some (true, res.set j (some { result with rssi := record.rssi }))
              else some (true, res)
            else dupLoop record count fuel (j + 1) res
        | _ => none

/-- The copy into `res[count]`. -/
def storeResult (record : ApRecord) (count : ℕ) (res : List ScanCell) : Option (List ScanCell) :=
  if count < res.length then
    some (res.set count (some ⟨strncpy 33 record.ssid, record.rssi, !record.authOpen⟩))
  else none

/-- The outer loop: the final `count`, and the cells. -/
def dedupLoop : List ApRecord → ℕ → List ScanCell → Option (ℕ × List ScanCell)
  | [], count, res => some (count, res)
  | record :: rest, count, res =>
      if record.ssid = [] then dedupLoop rest count res
      else do
        let (dup, res) ← dupLoop record count count 0 res
        if dup then dedupLoop rest count res
        else do
          let res ← storeResult record count res
          dedupLoop rest (count + 1) res

/-- The loops over the records `esp_wifi_scan_get_ap_records` returned. -/
def dedupRecords (records : List ApRecord) : Option (ℕ × List ScanCell) :=
  dedupLoop records 0 (List.replicate records.length none)

/-- The SSIDs of a scan that are not hidden. -/
def shownNames (records : List ApRecord) : List CString :=
  (records.map ApRecord.ssid).filter (· ≠ [])

/-- A result sums up the records of its name: the strongest signal, and the security of
the first. -/
structure SumsUp (records : List ApRecord) (result : WifiScanResult) : Prop where
  strongest : IsGreatest {rssi | ∃ r ∈ records, r.ssid = result.ssid ∧ r.rssi = rssi} result.rssi
  first : ∃ r, records.find? (fun r => r.ssid == result.ssid) = some r ∧
    result.secured = !r.authOpen

/-- The results of a scan with these records: each name once, in the order of first
appearance. -/
structure Deduped (records : List ApRecord) (results : List WifiScanResult) : Prop where
  names : results.map WifiScanResult.ssid = (shownNames records).eraseDups
  once : (results.map WifiScanResult.ssid).Nodup
  sums : ∀ result ∈ results, SumsUp records result

/-! ## One record -/

section

variable {records : List ApRecord} {results : List WifiScanResult} {record : ApRecord}

/-- The names of the results with one more record. -/
theorem map_ssid_addRecord (hfits : Fits 33 record.ssid) :
    (addRecord results record).map WifiScanResult.ssid =
      if record.ssid = [] ∨ record.ssid ∈ results.map WifiScanResult.ssid then
        results.map WifiScanResult.ssid
      else results.map WifiScanResult.ssid ++ [record.ssid] := by
  unfold addRecord
  by_cases hhidden : record.ssid = []
  · rw [if_pos hhidden, if_pos (.inl hhidden)]
  · rw [if_neg hhidden]
    have hany : (results.any fun result => result.ssid == record.ssid) = true ↔
        record.ssid ∈ results.map WifiScanResult.ssid := by
      simp [List.any_eq_true, List.mem_map]
    by_cases hdup : record.ssid ∈ results.map WifiScanResult.ssid
    · rw [if_pos (hany.mpr hdup), if_pos (.inr hdup), List.map_map]
      refine List.map_congr_left fun result _ => ?_
      dsimp only [Function.comp_apply]
      split <;> rfl
    · rw [if_neg fun h => hdup (hany.mp h), if_neg (not_or.mpr ⟨hhidden, hdup⟩), List.map_append,
        List.map_singleton, hfits.strncpy_eq]

/-- No name comes twice. -/
theorem nodup_addRecord (hfits : Fits 33 record.ssid)
    (h : (results.map WifiScanResult.ssid).Nodup) :
    ((addRecord results record).map WifiScanResult.ssid).Nodup := by
  rw [map_ssid_addRecord hfits]
  split
  · exact h
  next hnew =>
    rw [not_or] at hnew
    exact h.append (List.nodup_singleton _) (by simpa using hnew.2)

theorem shownNames_append (records : List ApRecord) (record : ApRecord) :
    shownNames (records ++ [record]) =
      if record.ssid = [] then shownNames records else shownNames records ++ [record.ssid] := by
  unfold shownNames
  rw [List.map_append, List.filter_append]
  by_cases hhidden : record.ssid = [] <;> simp [hhidden]

/-- One more element, at its first appearance or at a later one. -/
theorem eraseDups_append_singleton {α : Type} [BEq α] [LawfulBEq α] (l : List α) (a : α) :
    (l ++ [a]).eraseDups = if a ∈ l then l.eraseDups else l.eraseDups ++ [a] := by
  rw [List.eraseDups_append]
  by_cases hmem : a ∈ l <;> simp [List.removeAll, hmem, List.eraseDups_cons]

/-- A record of another network changes nothing. -/
theorem SumsUp.skip {result : WifiScanResult} (h : SumsUp records result)
    (hother : record.ssid ≠ result.ssid) : SumsUp (records ++ [record]) result := by
  obtain ⟨⟨⟨r, hr, hssid, hrssi⟩, hmax⟩, first, hfind, hsecured⟩ := h
  refine ⟨⟨⟨r, List.mem_append_left _ hr, hssid, hrssi⟩, ?_⟩, first, ?_, hsecured⟩
  · rintro rssi ⟨r', hr', hssid', rfl⟩
    rcases List.mem_append.mp hr' with hold | hnew
    · exact hmax ⟨r', hold, hssid', rfl⟩
    · rw [List.mem_singleton.mp hnew] at hssid'
      exact absurd hssid' hother
  · rw [List.find?_append, hfind, Option.some_or]

/-- A record of the network may be its strongest. -/
theorem SumsUp.raise {result : WifiScanResult} (h : SumsUp records result)
    (hsame : record.ssid = result.ssid) :
    SumsUp (records ++ [record])
      (if result.rssi < record.rssi then { result with rssi := record.rssi } else result) := by
  obtain ⟨⟨⟨r, hr, hssid, hrssi⟩, hmax⟩, first, hfind, hsecured⟩ := h
  have hfind' : (records ++ [record]).find? (fun r => r.ssid == result.ssid) = some first := by
    rw [List.find?_append, hfind, Option.some_or]
  have hnew : record ∈ records ++ [record] := by simp
  by_cases hlt : result.rssi < record.rssi
  · rw [if_pos hlt]
    refine ⟨⟨⟨record, hnew, hsame, rfl⟩, ?_⟩, first, hfind', hsecured⟩
    rintro rssi ⟨r', hr', hssid', rfl⟩
    rcases List.mem_append.mp hr' with hold | hnew
    · exact (hmax ⟨r', hold, hssid', rfl⟩).trans (Int.le_of_lt hlt)
    · rw [List.mem_singleton.mp hnew]
  · rw [if_neg hlt]
    refine ⟨⟨⟨r, List.mem_append_left _ hr, hssid, hrssi⟩, ?_⟩, first, hfind', hsecured⟩
    rintro rssi ⟨r', hr', hssid', rfl⟩
    rcases List.mem_append.mp hr' with hold | hnew
    · exact hmax ⟨r', hold, hssid', rfl⟩
    · rw [List.mem_singleton.mp hnew]
      exact Int.not_lt.mp hlt

/-- The first record of a network. -/
theorem sumsUp_new (hnew : record.ssid ∉ records.map ApRecord.ssid) :
    SumsUp (records ++ [record]) ⟨record.ssid, record.rssi, !record.authOpen⟩ := by
  have hnone : ∀ r ∈ records, r.ssid ≠ record.ssid := fun r hr heq =>
    hnew (heq ▸ List.mem_map_of_mem hr)
  refine ⟨⟨⟨record, by simp, rfl, rfl⟩, ?_⟩, record, ?_, rfl⟩
  · rintro rssi ⟨r, hr, hssid, rfl⟩
    rcases List.mem_append.mp hr with hold | hlast
    · exact absurd hssid (hnone r hold)
    · rw [List.mem_singleton.mp hlast]
  · have hold : records.find? (fun r => r.ssid == record.ssid) = none :=
      List.find?_eq_none.mpr fun r hr => by simpa using hnone r hr
    rw [List.find?_append, hold]
    simp

/-- One more record. -/
theorem Deduped.step (h : Deduped records results) (hfits : Fits 33 record.ssid) :
    Deduped (records ++ [record]) (addRecord results record) := by
  have hmem : record.ssid ∈ results.map WifiScanResult.ssid ↔ record.ssid ∈ shownNames records := by
    rw [h.names, List.mem_eraseDups]
  constructor
  · rw [map_ssid_addRecord hfits, shownNames_append]
    by_cases hhidden : record.ssid = []
    · rw [if_pos (.inl hhidden), if_pos hhidden, h.names]
    · rw [if_neg hhidden, eraseDups_append_singleton]
      by_cases hdup : record.ssid ∈ shownNames records
      · rw [if_pos (.inr (hmem.mpr hdup)), if_pos hdup, h.names]
      · rw [if_neg (not_or.mpr ⟨hhidden, fun hin => hdup (hmem.mp hin)⟩), if_neg hdup, h.names]
  · exact nodup_addRecord hfits h.once
  · intro result hresult
    unfold addRecord at hresult
    by_cases hhidden : record.ssid = []
    · rw [if_pos hhidden] at hresult
      refine (h.sums result hresult).skip fun heq => ?_
      -- a result has a name
      have hshown : result.ssid ∈ shownNames records := by
        rw [← List.mem_eraseDups, ← h.names]
        exact List.mem_map_of_mem hresult
      simp [shownNames, ← heq, hhidden] at hshown
    · rw [if_neg hhidden] at hresult
      split at hresult
      · obtain ⟨old, hold, rfl⟩ := List.mem_map.mp hresult
        by_cases hsame : record.ssid = old.ssid
        · simpa [hsame] using (h.sums old hold).raise hsame
        · rw [if_neg fun hboth => hsame hboth.1.symm]
          exact (h.sums old hold).skip hsame
      next hnone =>
        have hnames : record.ssid ∉ results.map WifiScanResult.ssid := by
          simpa [List.mem_map] using hnone
        rcases List.mem_append.mp hresult with hold | hlast
        · exact (h.sums result hold).skip fun heq => hnames (heq ▸ List.mem_map_of_mem hold)
        · rw [List.mem_singleton.mp hlast, hfits.strncpy_eq]
          refine sumsUp_new fun hin => hnames (hmem.mpr ?_)
          exact List.mem_filter.mpr ⟨hin, by simpa using hhidden⟩

/-- The records of a scan, one after the other. -/
theorem deduped_foldl (hfits : ∀ r ∈ records, Fits 33 r.ssid) :
    Deduped records (records.foldl addRecord []) := by
  induction records using List.reverseRecOn with
  | nil => exact ⟨rfl, by simp, by simp⟩
  | append_singleton records record ih =>
      rw [List.foldl_append]
      exact (ih fun r hr => hfits r (List.mem_append_left _ hr)).step (hfits record (by simp))

end

/-! ## The loops

`cells` is the array with these results in front and the cells behind them not written. -/

def cells (cap : ℕ) (results : List WifiScanResult) : List ScanCell :=
  results.map some ++ List.replicate (cap - results.length) none

/-- What the inner loop does to the results: the first one with the SSID is raised. -/
def raiseFirst (record : ApRecord) : List WifiScanResult → List WifiScanResult
  | [] => []
  | result :: rest =>
      if result.ssid = record.ssid then
        (if result.rssi < record.rssi then { result with rssi := record.rssi } else result) :: rest
      else result :: raiseFirst record rest

section

variable {record : ApRecord} {results : List WifiScanResult} {cap : ℕ}

theorem length_cells (h : results.length ≤ cap) : (cells cap results).length = cap := by
  unfold cells
  rw [List.length_append, List.length_map, List.length_replicate]
  omega

theorem length_raiseFirst (record : ApRecord) (results : List WifiScanResult) :
    (raiseFirst record results).length = results.length := by
  induction results with
  | nil => rfl
  | cons result rest ih =>
      unfold raiseFirst
      split
      · rfl
      · rw [List.length_cons, List.length_cons, ih]

/-- Where no SSID is met, nothing is raised. -/
theorem raiseFirst_of_not_mem (h : record.ssid ∉ results.map WifiScanResult.ssid) :
    raiseFirst record results = results := by
  induction results with
  | nil => rfl
  | cons result rest ih =>
      rw [List.map_cons, List.mem_cons, not_or] at h
      rw [raiseFirst, if_neg (Ne.symm h.1), ih h.2]

/-- Where no SSID is in two cells, the first one is the only one. -/
theorem raiseFirst_eq_map (h : (results.map WifiScanResult.ssid).Nodup) :
    raiseFirst record results = results.map fun result =>
      if result.ssid = record.ssid ∧ result.rssi < record.rssi then
        { result with rssi := record.rssi }
      else result := by
  induction results with
  | nil => rfl
  | cons result rest ih =>
      rw [List.map_cons, List.nodup_cons] at h
      rw [raiseFirst, List.map_cons]
      by_cases hsame : result.ssid = record.ssid
      · rw [if_pos hsame]
        have hrest := ih h.2
        rw [raiseFirst_of_not_mem (hsame ▸ h.1)] at hrest
        rw [← hrest]
        simp [hsame]
      · rw [if_neg hsame, ih h.2, if_neg fun hboth => hsame hboth.1]

/-- The inner loop, when `done` has been looked at. -/
theorem dupLoop_spec (record : ApRecord) (tail : List ScanCell) :
    ∀ (todo done : List WifiScanResult) (fuel : ℕ), todo.length ≤ fuel →
      dupLoop record (done.length + todo.length) fuel done.length
          ((done ++ todo).map some ++ tail) =
        some (decide (record.ssid ∈ todo.map WifiScanResult.ssid),
          (done ++ raiseFirst record todo).map some ++ tail) := by
  intro todo
  induction todo with
  | nil =>
      intro done fuel _
      cases fuel with
      | zero => simp [dupLoop, raiseFirst]
      | succ fuel => simp [dupLoop, raiseFirst]
  | cons result rest ih =>
      intro done fuel hfuel
      obtain ⟨fuel, rfl⟩ := Nat.exists_eq_succ_of_ne_zero
        (Nat.ne_of_gt (Nat.lt_of_lt_of_le (Nat.succ_pos _) hfuel))
      have hget :
          ((done ++ result :: rest).map some ++ tail)[done.length]? = some (some result) := by
        simp
      rw [dupLoop, if_neg (by rw [List.length_cons]; omega), hget]
      dsimp only
      by_cases hsame : result.ssid = record.ssid
      · rw [if_pos hsame, raiseFirst, if_pos hsame]
        have hfound : record.ssid ∈ (result :: rest).map WifiScanResult.ssid := by
          rw [List.map_cons, hsame]
          exact List.mem_cons_self
        rw [decide_eq_true hfound]
        by_cases hlt : result.rssi < record.rssi
        · rw [if_pos hlt, if_pos hlt]
          simp
        · rw [if_neg hlt, if_neg hlt]
      · rw [if_neg hsame, raiseFirst, if_neg hsame]
        have hnext := ih (done ++ [result]) fuel (by simpa using hfuel)
        simp only [List.length_append, List.length_singleton, List.append_assoc,
          List.singleton_append] at hnext
        rw [List.length_cons, ← Nat.add_assoc, Nat.add_right_comm, hnext, List.map_cons]
        simp [Ne.symm hsame]

/-- The copy into the first cell that is not written. -/
theorem storeResult_cells (hroom : results.length < cap) :
    storeResult record results.length (cells cap results) =
      some (cells cap (results ++ [⟨strncpy 33 record.ssid, record.rssi, !record.authOpen⟩])) := by
  unfold storeResult
  rw [if_pos (by rw [length_cells (Nat.le_of_lt hroom)]; exact hroom)]
  obtain ⟨free, hfree⟩ := Nat.exists_eq_add_of_lt hroom
  have hcells : cap - results.length = free + 1 := by omega
  have hcells' : cap - (results.length + 1) = free := by omega
  unfold cells
  rw [hcells, List.replicate_succ]
  simp [hcells']

/-- The outer loop adds the records one after the other. -/
theorem dedupLoop_spec {records : List ApRecord} (hfits : ∀ r ∈ records, Fits 33 r.ssid)
    (honce : (results.map WifiScanResult.ssid).Nodup)
    (hroom : results.length + records.length ≤ cap) :
    dedupLoop records results.length (cells cap results) =
      some ((records.foldl addRecord results).length,
        cells cap (records.foldl addRecord results)) := by
  induction records generalizing results with
  | nil => rfl
  | cons record rest ih =>
      have hrest := fun r hr => hfits r (List.mem_cons_of_mem record hr)
      rw [List.length_cons] at hroom
      rw [dedupLoop, List.foldl_cons]
      have honce' := nodup_addRecord (hfits record List.mem_cons_self) honce
      by_cases hhidden : record.ssid = []
      · rw [if_pos hhidden, addRecord, if_pos hhidden]
        exact ih hrest honce (by omega)
      · rw [if_neg hhidden]
        -- the inner loop finds the entry of the same name and raises it, or none
        have hloop := dupLoop_spec record (List.replicate (cap - results.length) none) results []
          results.length le_rfl
        rw [List.length_nil, Nat.zero_add, List.nil_append, List.nil_append] at hloop
        have hany : (results.any fun result => result.ssid == record.ssid) =
            decide (record.ssid ∈ results.map WifiScanResult.ssid) := by
          rw [Bool.eq_iff_iff]
          simp [List.any_eq_true, List.mem_map]
        rw [addRecord, if_neg hhidden, hany] at honce' ⊢
        unfold cells
        rw [hloop]
        by_cases hdup : record.ssid ∈ results.map WifiScanResult.ssid
        · -- a name that is there already: no entry is added
          rw [decide_eq_true hdup, if_pos rfl, ← raiseFirst_eq_map honce] at honce' ⊢
          have hsame := length_raiseFirst record results
          have hnext := ih hrest honce' (by omega)
          rw [hsame] at hnext
          simpa [cells, hsame] using hnext
        · -- a new name goes behind the last entry, where there is room
          rw [decide_eq_false hdup, if_neg Bool.false_ne_true] at honce' ⊢
          rw [raiseFirst_of_not_mem hdup]
          have hnext := ih hrest honce' (by rw [List.length_append, List.length_singleton]; omega)
          have hstore := @storeResult_cells record results cap (by omega)
          rw [List.length_append, List.length_singleton] at hnext
          unfold cells at hstore
          simp only [Option.bind_eq_bind, Option.bind_some, Bool.false_eq_true, if_false, hstore]
          exact hnext

/-- **Scan results are deduplicated without loss.**  Whatever list of records the driver
returns, the two loops stay inside the array of as many cells, and leave in its first
`count` cells the results `wifi_manager_scan` returns: every SSID that is not hidden
exactly once and nothing else, in the order of first appearance, with the largest RSSI of
its records and the security of its first. -/
theorem scan_results_deduped {records : List ApRecord} (hfits : ∀ r ∈ records, Fits 33 r.ssid) :
    ∃ count res results, dedupRecords records = some (count, res) ∧
      res.length = records.length ∧ count ≤ records.length ∧
      res.take count = results.map some ∧ results = records.foldl addRecord [] ∧
      results.map WifiScanResult.ssid =
        ((records.map ApRecord.ssid).filter (· ≠ [])).eraseDups ∧
      (∀ ssid, (results.map WifiScanResult.ssid).count ssid =
        if ssid ≠ [] ∧ ssid ∈ records.map ApRecord.ssid then 1 else 0) ∧
      count = ((records.map ApRecord.ssid).filter (· ≠ [])).dedup.length ∧
      ∀ result ∈ results, SumsUp records result := by
  have hdeduped := deduped_foldl hfits
  have hcount : (records.foldl addRecord []).length = (shownNames records).dedup.length := by
    rw [← List.length_map WifiScanResult.ssid]
    refine List.Perm.length_eq ((List.perm_ext_iff_of_nodup hdeduped.once (List.nodup_dedup _)).mpr
      fun ssid => ?_)
    rw [hdeduped.names, List.mem_eraseDups, List.mem_dedup]
  have hlength : (records.foldl addRecord []).length ≤ records.length :=
    calc (records.foldl addRecord []).length = (shownNames records).dedup.length := hcount
      _ ≤ (shownNames records).length := (List.dedup_sublist _).length_le
      _ ≤ (records.map ApRecord.ssid).length := List.length_filter_le _ _
      _ = records.length := List.length_map _
  have hloop := @dedupLoop_spec [] records.length records hfits (by simp) (by simp)
  refine ⟨_, _, _, hloop, length_cells hlength, hlength, ?_, rfl, hdeduped.names, ?_, hcount,
    hdeduped.sums⟩
  · unfold cells
    rw [List.take_left' (List.length_map _)]
  · intro ssid
    have hmem : ssid ∈ (records.foldl addRecord []).map WifiScanResult.ssid ↔
        ssid ≠ [] ∧ ssid ∈ records.map ApRecord.ssid := by
      rw [hdeduped.names, List.mem_eraseDups, shownNames, List.mem_filter]
      simp [and_comm]
    rw [hdeduped.once.count, if_congr hmem rfl rfl]

end

/-- Two networks, one of them seen twice, and a hidden one. -/
def demoRecords : List ApRecord :=
  [⟨cstr "a", -70, false⟩, ⟨[], -20, true⟩, ⟨cstr "b", -50, true⟩, ⟨cstr "a", -40, true⟩]

theorem demoRecords_fit : ∀ r ∈ demoRecords, Fits 33 r.ssid := by
  intro r hr
  unfold demoRecords at hr
  simp only [List.mem_cons, List.not_mem_nil, or_false] at hr
  rcases hr with rfl | rfl | rfl | rfl <;> exact ⟨by decide +kernel, by decide +kernel⟩

theorem scan_results_deduped_twice : ∃ count res, dedupRecords demoRecords = some (count, res) ∧
    count = 2 ∧ res.take count = [some ⟨cstr "a", -40, true⟩, some ⟨cstr "b", -50, false⟩] := by
  obtain ⟨count, res, results, hloop, -, -, htake, hresults, -, -, hcount, -⟩ :=
    scan_results_deduped demoRecords_fit
  have htwo : ((demoRecords.map ApRecord.ssid).filter (· ≠ [])).dedup.length = 2 := by
    decide +kernel
  have hfound : demoRecords.foldl addRecord [] =
      [⟨cstr "a", -40, true⟩, ⟨cstr "b", -50, false⟩] := by decide +kernel
  refine ⟨count, res, hloop, hcount.trans htwo, ?_⟩
  rw [htake, hresults, hfound]
  rfl

end WebTerminal
