import Mathlib.Data.Fin.Tuple.Basic
import Mathlib.Logic.Function.Basic
import WebTerminal.Base.CString

/-!
# Failed-login counters

`s_hosts` and `host_entry` of `auth.c`.  An address is looked up by its text;
`NULL` is the address of length zero.  What the rest of `auth.c` does to the
table is described by the counters an address reads from it (`counters`): they
are zero when the address has no entry, and only the address itself or a
recycling of its entry changes them.
-/

set_option autoImplicit false

namespace WebTerminal

/-- `AUTH_MAX_FAILED` -/
abbrev authMaxFailed : ℕ := 5

/-- `AUTH_LOCKOUT_S` -/
abbrev authLockoutS : ℕ := 300

/-- `AUTH_TRACKED_HOSTS` -/
abbrev authTrackedHosts : ℕ := 8

/-- `AUTH_IP_LEN` -/
abbrev authIpLen : ℕ := 46

/-- `host_t` -/
structure Host where
  used : Bool
  ip : CString
  failedAttempts : ℕ
  lockoutUntil : ℕ
  deriving DecidableEq

/-- `s_hosts` -/
abbrev Hosts := Fin authTrackedHosts → Host

/-- `ip ? ip : ""` -/
def hostKey (ip : Option CString) : CString := ip.getD []

/-- How the loop of `host_entry` ends. -/
inductive HostScan
  | found (i : Fin authTrackedHosts)
  | missing (freeSlot stalest : Option (Fin authTrackedHosts))
  deriving DecidableEq

/-- The loop of `host_entry` over the entries still to visit. -/
def hostScan (key : CString) (hosts : Hosts) :
    List (Fin authTrackedHosts) → Option (Fin authTrackedHosts) →
      Option (Fin authTrackedHosts) → HostScan
  | [], freeSlot, stalest => .missing freeSlot stalest
  | i :: rest, freeSlot, stalest =>
      if (hosts i).used && (hosts i).ip == key then .found i
      else if !(hosts i).used then hostScan key hosts rest (freeSlot.or (some i)) stalest
      else
        match stalest with
        | none => hostScan key hosts rest freeSlot (some i)
        | some j =>
            if (hosts i).lockoutUntil < (hosts j).lockoutUntil then
              hostScan key hosts rest freeSlot (some i)
            else hostScan key hosts rest freeSlot (some j)

/-- The loop of `host_entry` over the whole table. -/
def scanHosts (key : CString) (hosts : Hosts) : HostScan :=
  hostScan key hosts (List.finRange authTrackedHosts) none none

/-- `host_entry`: the table it leaves and the entry it returns. -/
def hostEntry (ip : Option CString) (create : Bool) (hosts : Hosts) :
    Hosts × Option (Fin authTrackedHosts) :=
  match scanHosts (hostKey ip) hosts with
  | .found i => (hosts, some i)
  | .missing freeSlot stalest =>
      if !create then (hosts, none)
      else
        match freeSlot.or stalest with
        | some i =>
            (Function.update hosts i
              { used := true, ip := strncpy authIpLen (hostKey ip), failedAttempts := 0,
                lockoutUntil := 0 }, some i)
        | none => (hosts, none)

/-- The address whose entry `host_entry(ip, true)` recycles, if it has to. -/
def recycledEntry (ip : Option CString) (hosts : Hosts) : Option CString :=
  match scanHosts (hostKey ip) hosts with
  | .missing none (some i) => some (hosts i).ip
  | _ => none

/-! ## The scan -/

/-- What the loop of `host_entry` found, starting from `freeSlot` and `stalest`. -/
inductive ScanResult (key : CString) (hosts : Hosts) (visited : List (Fin authTrackedHosts))
    (freeSlot stalest : Option (Fin authTrackedHosts)) : HostScan → Prop
  | found {i : Fin authTrackedHosts} (hmem : i ∈ visited) (hused : (hosts i).used = true)
      (hip : (hosts i).ip = key) : ScanResult key hosts visited freeSlot stalest (.found i)
  | missing {f s : Option (Fin authTrackedHosts)}
      (hne : ∀ i ∈ visited, (hosts i).used = true → (hosts i).ip ≠ key)
      (hfree : ∀ i, f = some i → freeSlot = some i ∨ i ∈ visited ∧ (hosts i).used = false)
      (hstale : ∀ i, s = some i → stalest = some i ∨ i ∈ visited ∧ (hosts i).used = true)
      (hsome : f.or s = none → freeSlot.or stalest = none ∧ visited = []) :
      ScanResult key hosts visited freeSlot stalest (.missing f s)

theorem ScanResult.skip {key : CString} {hosts : Hosts} {i : Fin authTrackedHosts}
    {rest : List (Fin authTrackedHosts)} {freeSlot stalest f s : Option (Fin authTrackedHosts)}
    {result : HostScan} (h : ScanResult key hosts rest f s result)
    (hne : (hosts i).used = true → (hosts i).ip ≠ key)
    (hfree : ∀ j, f = some j → freeSlot = some j ∨ j = i ∧ (hosts i).used = false)
    (hstale : ∀ j, s = some j → stalest = some j ∨ j = i ∧ (hosts i).used = true)
    (hsome : f.or s ≠ none) : ScanResult key hosts (i :: rest) freeSlot stalest result := by
  cases h with
  | found hmem hused hip => exact .found (List.mem_cons_of_mem _ hmem) hused hip
  | missing hne' hfree' hstale' hsome' =>
      refine .missing ?_ ?_ ?_ fun hnone => absurd (hsome' hnone).1 hsome
      · intro j hj
        rcases List.mem_cons.mp hj with rfl | hj
        · exact hne
        · exact hne' j hj
      · intro j hj
        rcases hfree' j hj with hj | ⟨hmem, hused⟩
        · rcases hfree j hj with hj | ⟨rfl, hused⟩
          · exact .inl hj
          · exact .inr ⟨List.mem_cons_self, hused⟩
        · exact .inr ⟨List.mem_cons_of_mem _ hmem, hused⟩
      · intro j hj
        rcases hstale' j hj with hj | ⟨hmem, hused⟩
        · rcases hstale j hj with hj | ⟨rfl, hused⟩
          · exact .inl hj
          · exact .inr ⟨List.mem_cons_self, hused⟩
        · exact .inr ⟨List.mem_cons_of_mem _ hmem, hused⟩

theorem hostScan_result (key : CString) (hosts : Hosts) :
    ∀ (visited : List (Fin authTrackedHosts)) (freeSlot stalest : Option (Fin authTrackedHosts)),
      ScanResult key hosts visited freeSlot stalest
        (hostScan key hosts visited freeSlot stalest) := by
  intro visited
  induction visited with
  | nil =>
      intro freeSlot stalest
      exact .missing (by simp) (fun i hi => .inl hi) (fun i hi => .inl hi) fun h => ⟨h, rfl⟩
  | cons i rest ih =>
      intro freeSlot stalest
      unfold hostScan
      by_cases hmatch : ((hosts i).used && (hosts i).ip == key) = true
      · rw [if_pos hmatch]
        simp only [Bool.and_eq_true, beq_iff_eq] at hmatch
        exact .found List.mem_cons_self hmatch.1 hmatch.2
      · rw [if_neg hmatch]
        -- an entry that does not match may become the free one or the stalest
        have hne : (hosts i).used = true → (hosts i).ip ≠ key := by simpa using hmatch
        cases hused : (hosts i).used with
        | false =>
            refine (ih (freeSlot.or (some i)) stalest).skip hne ?_ (fun j hj => .inl hj) ?_
            · intro j hj
              cases freeSlot with
              | none => exact .inr ⟨by simpa using hj.symm, hused⟩
              | some k => exact .inl (by simpa using hj)
            · cases freeSlot <;> simp
        | true =>
            cases stalest with
            | none =>
                refine (ih freeSlot (some i)).skip hne (fun j hj => .inl hj) ?_ ?_
                · exact fun j hj => .inr ⟨by simpa using hj.symm, hused⟩
                · cases freeSlot <;> simp
            | some k =>
                simp only [Bool.not_true, Bool.false_eq_true, if_false]
                split
                · refine (ih freeSlot (some i)).skip hne (fun j hj => .inl hj) ?_ ?_
                  · exact fun j hj => .inr ⟨by simpa using hj.symm, hused⟩
                  · cases freeSlot <;> simp
                · refine (ih freeSlot (some k)).skip hne (fun j hj => .inl hj)
                    (fun j hj => .inl hj) ?_
                  cases freeSlot <;> simp

/-- The entry of an address is found whatever the counters are. -/
theorem hostScan_found_congr {key : CString} {hosts hosts' : Hosts} {i : Fin authTrackedHosts}
    (hsame : ∀ j, (hosts' j).used = (hosts j).used ∧ (hosts' j).ip = (hosts j).ip) :
    ∀ (visited : List (Fin authTrackedHosts))
      (freeSlot stalest freeSlot' stalest' : Option (Fin authTrackedHosts)),
      hostScan key hosts visited freeSlot stalest = .found i →
        hostScan key hosts' visited freeSlot' stalest' = .found i := by
  intro visited
  induction visited with
  | nil => intro freeSlot stalest freeSlot' stalest' h; cases h
  | cons j rest ih =>
      intro freeSlot stalest freeSlot' stalest' h
      obtain ⟨hused, hip⟩ := hsame j
      unfold hostScan at h ⊢
      rw [hused, hip]
      by_cases hfound : ((hosts j).used && (hosts j).ip == key) = true
      · rw [if_pos hfound] at h ⊢
        exact h
      · rw [if_neg hfound] at h ⊢
        by_cases hfree : (!(hosts j).used) = true
        · rw [if_pos hfree] at h ⊢
          exact ih _ _ _ _ h
        · rw [if_neg hfree] at h ⊢
          have hrest : ∃ stalest, hostScan key hosts rest freeSlot stalest = .found i := by
            cases stalest with
            | none => exact ⟨_, h⟩
            | some k =>
                dsimp only at h
                split at h
                · exact ⟨_, h⟩
                · exact ⟨_, h⟩
          obtain ⟨stalest, hrest⟩ := hrest
          cases stalest' with
          | none => exact ih _ _ _ _ hrest
          | some k =>
              dsimp only
              split
              · exact ih _ _ _ _ hrest
              · exact ih _ _ _ _ hrest

theorem scanHosts_found {key : CString} {hosts : Hosts} {i : Fin authTrackedHosts}
    (h : scanHosts key hosts = .found i) : (hosts i).used = true ∧ (hosts i).ip = key := by
  have hresult := hostScan_result key hosts (List.finRange authTrackedHosts) none none
  rw [show hostScan key hosts _ none none = _ from h] at hresult
  cases hresult with
  | found _ hused hip => exact ⟨hused, hip⟩

/-- A scan that finds nothing says which entry `host_entry` would take. -/
theorem scanHosts_missing {key : CString} {hosts : Hosts}
    {freeSlot stalest : Option (Fin authTrackedHosts)}
    (h : scanHosts key hosts = .missing freeSlot stalest) :
    (∀ i, (hosts i).used = true → (hosts i).ip ≠ key) ∧
      (∀ i, freeSlot = some i → (hosts i).used = false) ∧
        (∀ i, stalest = some i → (hosts i).used = true) ∧ freeSlot.or stalest ≠ none := by
  have hresult := hostScan_result key hosts (List.finRange authTrackedHosts) none none
  rw [show hostScan key hosts _ none none = _ from h] at hresult
  cases hresult with
  | missing hne hfree hstale hsome =>
      refine ⟨fun i => hne i (List.mem_finRange i), ?_, ?_, ?_⟩
      · intro i hi
        simpa using hfree i hi
      · intro i hi
        simpa using hstale i hi
      · intro hnone
        exact absurd (hsome hnone).2 (by decide)

/-- A scan that ends with nothing free has gone through used entries only, and kept the one
with the smallest lockout. -/
theorem hostScan_full {key : CString} {hosts : Hosts} {i : Fin authTrackedHosts} :
    ∀ (visited : List (Fin authTrackedHosts)) (freeSlot stalest : Option (Fin authTrackedHosts)),
      hostScan key hosts visited freeSlot stalest = .missing none (some i) →
        freeSlot = none ∧ (∀ j ∈ visited, (hosts j).used = true ∧ (hosts j).ip ≠ key ∧
          (hosts i).lockoutUntil ≤ (hosts j).lockoutUntil) ∧
            ∀ k, stalest = some k → (hosts i).lockoutUntil ≤ (hosts k).lockoutUntil := by
  intro visited
  induction visited with
  | nil =>
      intro freeSlot stalest h
      obtain ⟨rfl, rfl⟩ := HostScan.missing.inj h
      refine ⟨rfl, by simp, fun k hk => ?_⟩
      rw [Option.some.inj hk]
  | cons j rest ih =>
      intro freeSlot stalest h
      unfold hostScan at h
      by_cases hfound : ((hosts j).used && (hosts j).ip == key) = true
      · rw [if_pos hfound] at h
        cases h
      rw [if_neg hfound] at h
      have hne : (hosts j).used = true → (hosts j).ip ≠ key := by simpa using hfound
      cases hused : (hosts j).used with
      | false =>
          rw [hused] at h
          -- a free slot would have been remembered
          have hfree := (ih _ _ h).1
          simp at hfree
      | true =>
          rw [hused] at h
          simp only [Bool.not_true, Bool.false_eq_true, if_false] at h
          have hvisited : ∀ m, (hosts i).lockoutUntil ≤ (hosts m).lockoutUntil →
              (hosts m).lockoutUntil ≤ (hosts j).lockoutUntil →
                (∀ l ∈ rest, (hosts l).used = true ∧ (hosts l).ip ≠ key ∧
                  (hosts i).lockoutUntil ≤ (hosts l).lockoutUntil) →
                    ∀ l ∈ j :: rest, (hosts l).used = true ∧ (hosts l).ip ≠ key ∧
                      (hosts i).lockoutUntil ≤ (hosts l).lockoutUntil := by
            intro m him hmj hrest l hl
            rcases List.mem_cons.mp hl with rfl | hl
            · exact ⟨hused, hne hused, him.trans hmj⟩
            · exact hrest l hl
          cases stalest with
          | none =>
              obtain ⟨hfree, hrest, hleast⟩ := ih _ _ h
              exact ⟨hfree, hvisited j (hleast j rfl) (le_refl _) hrest, by simp⟩
          | some k =>
              dsimp only at h
              split at h
              next hlt =>
                obtain ⟨hfree, hrest, hleast⟩ := ih _ _ h
                refine ⟨hfree, hvisited j (hleast j rfl) (le_refl _) hrest, fun l hl => ?_⟩
                obtain rfl := Option.some.inj hl
                exact (hleast j rfl).trans hlt.le
              next hge =>
                obtain ⟨hfree, hrest, hleast⟩ := ih _ _ h
                exact ⟨hfree, hvisited k (hleast k rfl) (Nat.le_of_not_lt hge) hrest, hleast⟩

/-- An entry is recycled for an address that has none, in a full table, and no other entry
has a smaller lockout. -/
theorem recycledEntry_some {ip : Option CString} {hosts : Hosts} {key : CString}
    (h : recycledEntry ip hosts = some key) :
    ∃ i, (hosts i).ip = key ∧ ∀ j, (hosts j).used = true ∧ (hosts j).ip ≠ hostKey ip ∧
      (hosts i).lockoutUntil ≤ (hosts j).lockoutUntil := by
  unfold recycledEntry at h
  cases hscan : scanHosts (hostKey ip) hosts with
  | found i => simp [hscan] at h
  | missing freeSlot stalest =>
      cases freeSlot with
      | some j => simp [hscan] at h
      | none =>
          cases stalest with
          | none => simp [hscan] at h
          | some i =>
              refine ⟨i, by simpa [hscan] using h, fun j => ?_⟩
              exact (hostScan_full _ _ _ hscan).2.1 j (List.mem_finRange j)

/-! ## The counters an address reads -/

/-- The counters kept for one address. -/
structure Counters where
  failedAttempts : ℕ
  lockoutUntil : ℕ
  deriving DecidableEq

/-- The counters of an address without an entry. -/
def Counters.zero : Counters := ⟨0, 0⟩

/-- The counters of an entry. -/
def Host.counters (host : Host) : Counters := ⟨host.failedAttempts, host.lockoutUntil⟩

/-- The counters kept for `key`. -/
def counters (key : CString) (hosts : Hosts) : Counters :=
  match scanHosts key hosts with
  | .found i => (hosts i).counters
  | .missing _ _ => .zero

/-- No address has two entries. -/
def Hosts.Distinct (hosts : Hosts) : Prop :=
  ∀ i j, (hosts i).used = true → (hosts j).used = true → (hosts i).ip = (hosts j).ip → i = j

theorem counters_of_entry {hosts : Hosts} (h : hosts.Distinct) {i : Fin authTrackedHosts}
    (hused : (hosts i).used = true) : counters (hosts i).ip hosts = (hosts i).counters := by
  unfold counters
  cases hscan : scanHosts (hosts i).ip hosts with
  | found j =>
      obtain ⟨hj, hip⟩ := scanHosts_found hscan
      rw [h j i hj hused hip]
  | missing f s => exact absurd rfl ((scanHosts_missing hscan).1 i hused)

theorem counters_of_no_entry {key : CString} {hosts : Hosts}
    (h : ∀ i, (hosts i).used = true → (hosts i).ip ≠ key) : counters key hosts = .zero := by
  unfold counters
  cases hscan : scanHosts key hosts with
  | found j =>
      obtain ⟨hj, hip⟩ := scanHosts_found hscan
      exact absurd hip (h j hj)
  | missing f s => rfl

/-- Tables that agree on the entries of `key` agree on its counters. -/
theorem counters_congr {key : CString} {hosts hosts' : Hosts} (h : hosts.Distinct)
    (h' : hosts'.Distinct)
    (heq : ∀ i, (hosts i).used = true ∧ (hosts i).ip = key ∨
      (hosts' i).used = true ∧ (hosts' i).ip = key → hosts' i = hosts i) :
    counters key hosts' = counters key hosts := by
  by_cases hentry : ∃ i, (hosts i).used = true ∧ (hosts i).ip = key
  · obtain ⟨i, hused, rfl⟩ := hentry
    have hi := heq i (.inl ⟨hused, rfl⟩)
    have hcount := counters_of_entry h' (i := i) (by rw [hi]; exact hused)
    rw [hi] at hcount
    rw [hcount, counters_of_entry h hused]
  · have hnone : ∀ i, (hosts i).used = true → (hosts i).ip ≠ key := fun i hi hip =>
      hentry ⟨i, hi, hip⟩
    have hnone' : ∀ i, (hosts' i).used = true → (hosts' i).ip ≠ key := by
      intro i hi hip
      have hii := heq i (.inr ⟨hi, hip⟩)
      rw [hii] at hi hip
      exact hnone i hi hip
    rw [counters_of_no_entry hnone, counters_of_no_entry hnone']

/-- Edit the counters of one entry. -/
def setCounters (i : Fin authTrackedHosts) (c : Counters) (hosts : Hosts) : Hosts :=
  Function.update hosts i
    { hosts i with failedAttempts := c.failedAttempts, lockoutUntil := c.lockoutUntil }

/-- Editing counters leaves the addresses alone. -/
theorem setCounters_same (i : Fin authTrackedHosts) (c : Counters) (hosts : Hosts)
    (j : Fin authTrackedHosts) :
    (setCounters i c hosts j).used = (hosts j).used ∧
      (setCounters i c hosts j).ip = (hosts j).ip := by
  by_cases hj : j = i
  · subst hj; simp [setCounters]
  · simp [setCounters, hj]

theorem setCounters_distinct {hosts : Hosts} (h : hosts.Distinct) (i : Fin authTrackedHosts)
    (c : Counters) : (setCounters i c hosts).Distinct := by
  have hsame := setCounters_same i c hosts
  intro j k hj hk hip
  rw [(hsame j).1] at hj
  rw [(hsame k).1] at hk
  rw [(hsame j).2, (hsame k).2] at hip
  exact h j k hj hk hip

/-- An edit of an entry changes the counters of its own address only. -/
theorem counters_setCounters {hosts : Hosts} (h : hosts.Distinct) {i : Fin authTrackedHosts}
    (hused : (hosts i).used = true) (c : Counters) (key : CString) :
    counters key (setCounters i c hosts) =
      if key = (hosts i).ip then c else counters key hosts := by
  have hdistinct := setCounters_distinct h i c
  split
  next heq =>
    have hentry := counters_of_entry hdistinct (i := i) (by simp [setCounters, hused])
    subst heq
    simpa [setCounters, Host.counters] using hentry
  next hne =>
    apply counters_congr h hdistinct
    intro j hj
    have hji : j ≠ i := by
      rintro rfl
      simp [setCounters, Ne.symm hne] at hj
    simp [setCounters, hji]

section

variable {hosts : Hosts} {key : CString}

/-- An entry claimed for an address that has none leaves the addresses distinct. -/
theorem Hosts.Distinct.claim (h : hosts.Distinct) (i : Fin authTrackedHosts)
    (hnone : ∀ j, (hosts j).used = true → (hosts j).ip ≠ key) :
    Hosts.Distinct (Function.update hosts i ⟨true, key, 0, 0⟩) := by
  intro j k hj hk hip
  by_cases hji : j = i <;> by_cases hki : k = i
  · rw [hji, hki]
  · subst hji
    rw [Function.update_self, Function.update_of_ne hki] at hip
    rw [Function.update_of_ne hki] at hk
    exact absurd hip.symm (hnone k hk)
  · subst hki
    rw [Function.update_self, Function.update_of_ne hji] at hip
    rw [Function.update_of_ne hji] at hj
    exact absurd hip (hnone j hj)
  · rw [Function.update_of_ne hji] at hj hip
    rw [Function.update_of_ne hki] at hk hip
    exact h j k hj hk hip

/-- The address the entry is claimed for starts afresh. -/
theorem counters_claim_self (h : hosts.Distinct) (i : Fin authTrackedHosts)
    (hnone : ∀ j, (hosts j).used = true → (hosts j).ip ≠ key) :
    counters key (Function.update hosts i ⟨true, key, 0, 0⟩) = counters key hosts := by
  have hnew := counters_of_entry (h.claim i hnone) (i := i) (by simp)
  rw [Function.update_self] at hnew
  rw [hnew, counters_of_no_entry hnone]
  rfl

/-- Another address keeps its counters unless the entry was its own. -/
theorem counters_claim_of_ne (h : hosts.Distinct) (i : Fin authTrackedHosts) {key' : CString}
    (hnone : ∀ j, (hosts j).used = true → (hosts j).ip ≠ key) (hkey : key' ≠ key)
    (hother : (hosts i).used = true → (hosts i).ip ≠ key') :
    counters key' (Function.update hosts i ⟨true, key, 0, 0⟩) = counters key' hosts := by
  apply counters_congr h (h.claim i hnone)
  intro j hj
  have hji : j ≠ i := by
    rintro rfl
    rcases hj with ⟨hused, hip⟩ | ⟨-, hip⟩
    · exact hother hused hip
    · exact hkey (by simpa using hip.symm)
  rw [Function.update_of_ne hji]

/-- An address loses its counters with its entry. -/
theorem counters_claim_owner (h : hosts.Distinct) {i : Fin authTrackedHosts}
    (hused : (hosts i).used = true) (hkey : (hosts i).ip ≠ key) :
    counters (hosts i).ip (Function.update hosts i ⟨true, key, 0, 0⟩) = .zero := by
  apply counters_of_no_entry
  intro j hj hjkey
  by_cases hji : j = i
  · subst hji
    exact hkey (by simpa using hjkey.symm)
  · rw [Function.update_of_ne hji] at hj hjkey
    exact hji (h j i hj hused hjkey)

end

/-- `host_entry` with `create` set leaves the counters of `ip` as they read and
makes sure it has an entry; the only other address it can touch is the one whose
entry it recycles. -/
theorem hostEntry_create {hosts : Hosts} (h : hosts.Distinct) (ip : Option CString)
    (hlen : (hostKey ip).length < authIpLen) :
    ∃ i hosts', hostEntry ip true hosts = (hosts', some i) ∧ hosts'.Distinct ∧
      (hosts' i).used = true ∧ (hosts' i).ip = hostKey ip ∧
      ∀ key, counters key hosts' =
        if key ≠ hostKey ip ∧ recycledEntry ip hosts = some key then .zero
        else counters key hosts := by
  cases hscan : scanHosts (hostKey ip) hosts with
  | found i =>
      obtain ⟨hused, hip⟩ := scanHosts_found hscan
      exact ⟨i, hosts, by simp [hostEntry, hscan], h, hused, hip,
        fun key => by simp [recycledEntry, hscan]⟩
  | missing freeSlot stalest =>
      obtain ⟨hnone, hfree, hstale, hsome⟩ := scanHosts_missing hscan
      obtain ⟨i, hi⟩ : ∃ i, freeSlot.or stalest = some i := Option.ne_none_iff_exists'.mp hsome
      have hcopy : strncpy authIpLen (hostKey ip) = hostKey ip := strncpy_eq_self hlen
      -- the free entry, or else the recycled one, is claimed
      have hentry : hostEntry ip true hosts =
          (Function.update hosts i ⟨true, hostKey ip, 0, 0⟩, some i) := by
        simp [hostEntry, hscan, hi, hcopy]
      refine ⟨i, _, hentry, h.claim i hnone, by simp, by simp, fun key => ?_⟩
      by_cases hkey : key = hostKey ip
      · rw [if_neg (by simp [hkey]), hkey, counters_claim_self h i hnone]
      · cases freeSlot with
        | some j =>
            obtain rfl : j = i := by simpa using hi
            rw [if_neg (by simp [recycledEntry, hscan])]
            refine counters_claim_of_ne h j hnone hkey fun hused => ?_
            simp [hfree j rfl] at hused
        | none =>
            -- no entry is free, so another address loses its own
            obtain rfl : stalest = some i := by simpa using hi
            have hrec : recycledEntry ip hosts = some (hosts i).ip := by
              simp [recycledEntry, hscan]
            by_cases hip : (hosts i).ip = key
            · subst hip
              rw [if_pos ⟨hkey, hrec⟩]
              exact counters_claim_owner h (hstale i rfl) hkey
            · rw [if_neg (by simp [hrec, hip])]
              exact counters_claim_of_ne h i hnone hkey fun _ => hip

end WebTerminal
