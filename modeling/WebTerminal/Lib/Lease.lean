import Mathlib.Data.List.Chain
import Mathlib.Data.List.Induction
import WebTerminal.Lib.Machine

/-!
# Leases with an idle timeout

A lease on a key is granted once, is extended by every use, and ends when it is
revoked or when it lies idle for longer than the timeout.  `Held` says this of a
history in so many words: the key was granted, nothing revoked it since, and no
gap between consecutive uses, the grant and the present moment included, is
longer than the timeout.

An implementation only stores the time of the last use.  `lastUse` computes it
from the history, and `held_iff` says that this is enough: when keys are never
granted twice and every recorded use happened in time, a lease is held exactly
when its last use is recent.
-/

set_option autoImplicit false

namespace Lease

variable {κ : Type*}

/-- What happens to leases. -/
inductive Event (κ : Type*)
  | grant (k : κ) (time : ℕ)
  | use (k : κ) (time : ℕ)
  | revoke (k : κ)
  | revokeAll

/-- The event ends a lease on `k`. -/
def Event.Ends (k : κ) : Event κ → Prop
  | .revoke k' => k' = k
  | .revokeAll => True
  | _ => False

/-- The keys granted, oldest first. -/
def grants (es : List (Event κ)) : List κ :=
  es.filterMap fun
    | .grant k _ => some k
    | _ => none

variable [DecidableEq κ]

/-- The time at which an event uses `k`. -/
def Event.useTime (k : κ) : Event κ → Option ℕ
  | .use k' time => if k' = k then some time else none
  | _ => none

/-- The times of the uses of `k`, oldest first. -/
def uses (k : κ) (es : List (Event κ)) : List ℕ := es.filterMap (Event.useTime k)

/-- The lease on `k` is held at `now`: granted, not revoked since, and never
idle for longer than `timeout`. -/
def Held (timeout : ℕ) (es : List (Event κ)) (k : κ) (now : ℕ) : Prop :=
  ∃ pre u post, es = pre ++ .grant k u :: post ∧ (∀ e ∈ post, ¬ e.Ends k) ∧
    (u :: uses k post ++ [now]).IsChain fun a b => b - a ≤ timeout

/-- Follow the last use of `k` over one event. -/
def track (k : κ) (last : Option ℕ) : Event κ → Option ℕ
  | .grant k' time => if k' = k then some time else last
  | .use k' time => if k' = k then last.map fun _ => time else last
  | .revoke k' => if k' = k then none else last
  | .revokeAll => none

/-- The last use of the lease on `k`, if it was granted and not revoked since. -/
def lastUse (es : List (Event κ)) (k : κ) : Option ℕ := es.foldl (track k) none

/-- Every use in the history found its lease at most `timeout` after the use
before. -/
def Prompt (timeout : ℕ) : List (Event κ) → Prop :=
  Machine.Throughout fun pre e =>
    ∀ k time, e = .use k time → ∃ u, lastUse pre k = some u ∧ time - u ≤ timeout

section

variable {timeout : ℕ} {es pre post : List (Event κ)} {k : κ} {u : ℕ}

theorem lastUse_snoc (es : List (Event κ)) (e : Event κ) (k : κ) :
    lastUse (es ++ [e]) k = track k (lastUse es k) e := by
  simp [lastUse]

theorem uses_snoc (k : κ) (es : List (Event κ)) (e : Event κ) :
    uses k (es ++ [e]) = uses k es ++ (e.useTime k).toList := by
  unfold uses
  rw [List.filterMap_append]
  cases h : e.useTime k <;> simp [h]

omit [DecidableEq κ] in
theorem getLast?_cons_snoc (a b : ℕ) (l : List ℕ) : (a :: (l ++ [b])).getLast? = some b := by
  rw [← List.cons_append, List.getLast?_concat]

/-- The history behind a last use. -/
theorem exists_tenure (hprompt : Prompt timeout es) (h : lastUse es k = some u) :
    ∃ pre u₀ post, es = pre ++ .grant k u₀ :: post ∧ (∀ e ∈ post, ¬ e.Ends k) ∧
      ((u₀ :: uses k post).IsChain fun a b => b - a ≤ timeout) ∧
        (u₀ :: uses k post).getLast? = some u := by
  induction es using List.reverseRecOn generalizing u with
  | nil => simp [lastUse] at h
  | append_singleton es e ih =>
      have hes : Prompt timeout es := fun pre f post heq =>
        hprompt pre f (post ++ [e]) (by simp [heq])
      -- an event that leaves the lease alone extends the history of its holder
      have keep : lastUse es k = some u → e.useTime k = none → ¬ e.Ends k →
          ∃ pre u₀ post, es ++ [e] = pre ++ .grant k u₀ :: post ∧ (∀ e ∈ post, ¬ e.Ends k) ∧
            ((u₀ :: uses k post).IsChain fun a b => b - a ≤ timeout) ∧
              (u₀ :: uses k post).getLast? = some u := by
        intro hlast hno hends
        obtain ⟨pre, u₀, post, rfl, hpost, hchain, hu⟩ := ih hes hlast
        refine ⟨pre, u₀, post ++ [e], by simp, ?_, ?_, ?_⟩
        · intro f hf
          rcases List.mem_append.mp hf with hf | hf
          · exact hpost f hf
          · rw [List.mem_singleton.mp hf]
            exact hends
        · simpa [uses_snoc, hno] using hchain
        · simpa [uses_snoc, hno] using hu
      rw [lastUse_snoc] at h
      cases e with
      | grant k' time =>
          by_cases hk : k' = k
          · subst hk
            obtain rfl : time = u := by simpa [track] using h
            exact ⟨es, time, [], rfl, by simp, .singleton _, rfl⟩
          · exact keep (by simpa [track, hk] using h) rfl (by simp [Event.Ends])
      | use k' time =>
          by_cases hk : k' = k
          · subst hk
            obtain ⟨v, hv, hgap⟩ := hprompt es _ [] rfl k' time rfl
            obtain rfl : time = u := by simpa [track, hv] using h
            obtain ⟨pre, u₀, post, rfl, hpost, hchain, hlast⟩ := ih hes hv
            refine ⟨pre, u₀, post ++ [.use k' time], by simp, ?_, ?_, ?_⟩
            · intro f hf
              rcases List.mem_append.mp hf with hf | hf
              · exact hpost f hf
              · rw [List.mem_singleton.mp hf]
                simp [Event.Ends]
            · rw [uses_snoc, ← List.cons_append]
              refine hchain.append (by simp [Event.useTime]) ?_
              intro a ha b hb
              have ha' : v = a := by simpa [hlast] using ha
              have hb' : time = b := by simpa [Event.useTime] using hb
              subst ha' hb'
              exact hgap
            · simp [uses_snoc, Event.useTime, getLast?_cons_snoc]
          · exact keep (by simpa [track, hk] using h) (by simp [Event.useTime, hk])
              (by simp [Event.Ends])
      | revoke k' =>
          by_cases hk : k' = k
          · simp [track, hk] at h
          · exact keep (by simpa [track, hk] using h) rfl (by simp [Event.Ends, hk])
      | revokeAll => simp [track] at h

/-- A tenure determines the last use. -/
theorem lastUse_of_tenure (pre : List (Event κ)) (u₀ : ℕ) (hpost : ∀ e ∈ post, ¬ e.Ends k)
    (hgrant : ∀ time, .grant k time ∉ post) :
    lastUse (pre ++ .grant k u₀ :: post) k = (u₀ :: uses k post).getLast? := by
  induction post using List.reverseRecOn with
  | nil => simp [lastUse, track, uses]
  | append_singleton post e ih =>
      have hih := ih (fun f hf => hpost f (by simp [hf])) fun time hmem =>
        hgrant time (by simp [hmem])
      have he : ¬ e.Ends k := hpost e (by simp)
      rw [← List.cons_append, ← List.append_assoc, lastUse_snoc, hih, uses_snoc]
      cases e with
      | grant k' time =>
          have hne : k' ≠ k := by
            rintro rfl
            exact hgrant time (by simp)
          simp [track, hne, Event.useTime]
      | use k' time =>
          by_cases hk : k' = k
          · subst hk
            cases hlast : (u₀ :: uses k' post).getLast? with
            | none => simp at hlast
            | some v => simp [track, Event.useTime, getLast?_cons_snoc]
          · simp [track, hk, Event.useTime]
      | revoke k' =>
          have hne : k' ≠ k := by simpa [Event.Ends] using he
          simp [track, hne, Event.useTime]
      | revokeAll => exact absurd trivial he

omit [DecidableEq κ] in
/-- A key granted once is not granted again after that. -/
theorem grant_notMem_post (h : (grants (pre ++ .grant k u :: post)).Nodup) (time : ℕ) :
    .grant k time ∉ post := by
  intro hmem
  simp only [grants, List.filterMap_append, List.filterMap_cons] at h
  have hcons := (List.nodup_append.mp h).2.1
  exact (List.nodup_cons.mp hcons).1 (List.mem_filterMap.mpr ⟨_, hmem, rfl⟩)

/-- **The last use is enough.**  For keys granted at most once and uses recorded
in time, a lease is held at `now` exactly when its last use is at most `timeout`
before. -/
theorem held_iff (hfresh : (grants es).Nodup) (hprompt : Prompt timeout es) (now : ℕ) :
    Held timeout es k now ↔ ∃ u, lastUse es k = some u ∧ now - u ≤ timeout := by
  constructor
  · rintro ⟨pre, u₀, post, rfl, hpost, hchain⟩
    have hlast := lastUse_of_tenure pre u₀ hpost (grant_notMem_post hfresh)
    obtain ⟨u, hu⟩ : ∃ u, (u₀ :: uses k post).getLast? = some u := by
      cases hlast' : (u₀ :: uses k post).getLast? with
      | none => simp at hlast'
      | some u => exact ⟨u, rfl⟩
    refine ⟨u, hlast.trans hu, ?_⟩
    exact (List.isChain_append.mp hchain).2.2 u hu now rfl
  · rintro ⟨u, hu, hgap⟩
    obtain ⟨pre, u₀, post, rfl, hpost, hchain, hlast⟩ := exists_tenure hprompt hu
    refine ⟨pre, u₀, post, rfl, hpost, hchain.append (by simp) ?_⟩
    intro a ha b hb
    have ha' : u = a := by simpa [hlast] using ha
    have hb' : now = b := by simpa using hb
    subst ha' hb'
    exact hgap

end

end Lease
