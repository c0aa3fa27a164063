import WebTerminal.Server.System
import WebTerminal.Store.ConfigMachine

/-!
# The relay

`gpio_control_init`, and then calls that switch the power of the board behind the relay.
Every change of the level goes through `power_set`, which refuses one that comes too soon
after the change before it.
-/

set_option autoImplicit false

namespace WebTerminal

open Proc

/-- The entry points that reach `power_set`. -/
inductive PowerCall
  | on
  | off
  | toggle
  deriving DecidableEq

def PowerCall.run (env : Env) : PowerCall → BoardM EspErr
  | on => gpioSbcPowerOn env
  | off => gpioSbcPowerOff env
  | toggle => gpioSbcPowerToggle env

/-- The level a call asks for. -/
def PowerCall.asks (gpio : Gpio) : PowerCall → Bool
  | on => true
  | off => false
  | toggle => !gpio.powerOn

structure Relay where
  now : ℕ
  board : Board

structure RelayAction where
  env : Env
  call : PowerCall

/-- What a call shows. -/
inductive RelayEvent
  | effect (time : ℕ) (effect : Effect)
  | answered (time : ℕ) (call : PowerCall) (err : EspErr)
  deriving DecidableEq

def relayStep (s : Relay) (a : RelayAction) : Option (Relay × List RelayEvent) :=
  if a.env.now = 0 ∨ a.env.now < s.now then none
  else
    match a.call.run a.env s.board.start with
    | .ok err w => some (⟨a.env.now, w.state⟩,
        w.shown.map (.effect a.env.now) ++ [.answered a.env.now a.call err])
    | .error _ _ => none

def relayMachine : Machine Relay RelayAction RelayEvent where
  step := relayStep

/-- How `power_set` ends. -/
inductive PowerCase (env : Env) (on : Bool) (board : Board) : EspErr → List Effect → Board → Prop
  /-- nothing to change -/
  | free (hon : board.gpio.powerOn = on) : PowerCase env on board .ok [] board
  | refused (hon : board.gpio.powerOn ≠ on) (htoggled : 0 < board.gpio.lastPowerToggle)
      (hsoon : env.now < board.gpio.lastPowerToggle + minPowerToggleMs * 1000) :
      PowerCase env on board .invalidState [] board
  | switched (hon : board.gpio.powerOn ≠ on)
      (hlate : board.gpio.lastPowerToggle = 0 ∨
        board.gpio.lastPowerToggle + minPowerToggleMs * 1000 ≤ env.now) :
      PowerCase env on board .ok [.gpioLevel .sbcPower on]
        { board with gpio := { board.gpio with powerOn := on, lastPowerToggle := env.now } }

theorem powerSet_cases (env : Env) (on : Bool) (w : World Board Effect) :
    ∃ err es board, powerSet env on w = .ok err ⟨board, w.asked, w.shown ++ es⟩ ∧
      PowerCase env on w.state err es board := by
  have hinterval : 0 < minPowerToggleMs := by decide
  unfold powerSet
  rw [bind_ok (read_apply _ _)]
  by_cases hon : w.state.gpio.powerOn = on
  · rw [if_pos hon]
    exact ⟨_, [], w.state, by simp, .free hon⟩
  rw [if_neg hon]
  by_cases hsoon : 0 < w.state.gpio.lastPowerToggle ∧
      env.now - w.state.gpio.lastPowerToggle < minPowerToggleMs * 1000
  · rw [if_pos hsoon]
    exact ⟨_, [], w.state, by simp, .refused hon hsoon.1 (by omega)⟩
  · rw [if_neg hsoon]
    exact ⟨_, _, _, rfl, .switched hon (by omega)⟩

/-- Every entry point is a request for a level. -/
theorem PowerCall.run_eq (env : Env) (call : PowerCall) (w : World Board Effect) :
    call.run env w = powerSet env (call.asks w.state.gpio) w := by
  cases call <;> rfl

/-- What a step does. -/
theorem relayStep_cases {s t : Relay} {a : RelayAction} {es : List RelayEvent}
    (h : relayStep s a = some (t, es)) :
    0 < a.env.now ∧ ∃ err effects,
      es = effects.map (.effect a.env.now) ++ [.answered a.env.now a.call err] ∧
        PowerCase a.env (a.call.asks s.board.gpio) s.board err effects t.board := by
  unfold relayStep at h
  split at h
  next => cases h
  next htime =>
    obtain ⟨err, effects, board, hrun, hcase⟩ :=
      powerSet_cases a.env (a.call.asks s.board.gpio) s.board.start
    rw [a.call.run_eq a.env s.board.start] at h
    have hstart : powerSet a.env (a.call.asks s.board.gpio) s.board.start = _ := hrun
    simp only [Board.start] at h hstart hcase
    rw [hstart] at h
    obtain ⟨rfl, rfl⟩ := Prod.mk.inj (Option.some.inj h)
    exact ⟨by omega, err, effects, rfl, hcase⟩

/-! ## Over a run -/

/-- What was shown of the world outside. -/
def shownEffects (es : List RelayEvent) : List Effect :=
  es.filterMap fun e =>
    match e with
    | .effect _ effect => some effect
    | .answered .. => none

/-- The level the relay was last driven to. -/
def drivenLevel (effects : List Effect) : Option Bool :=
  effects.foldl (fun level e =>
    match e with
    | .gpioLevel .sbcPower high => some high
    | _ => level) none

/-- The relay is driven. -/
def driven (time : ℕ) (on : Bool) : RelayEvent := .effect time (.gpioLevel .sbcPower on)

/-- Any two times the relay is driven are far enough apart. -/
def Spaced : List RelayEvent → Prop :=
  Machine.Throughout fun before e => ∀ time on, e = driven time on →
    ∀ time' on', driven time' on' ∈ before → time' + minPowerToggleMs * 1000 ≤ time

/-- `gpio_control_init` has returned, with these effects. -/
def Relay.Initialized (effects : List Effect) (s : Relay) : Prop :=
  ∃ (env : Env) (before : Board) (w : World Board Effect),
    gpioControlInit env before.start = .ok .ok w ∧ s.board = w.state ∧ effects = w.shown

structure RelayInv (before : List Effect) (es : List RelayEvent) (s : Relay) : Prop where
  level : drivenLevel (before ++ shownEffects es) = some s.board.gpio.powerOn
  spaced : Spaced es
  recorded : ∀ time on, driven time on ∈ es →
    0 < s.board.gpio.lastPowerToggle ∧ time ≤ s.board.gpio.lastPowerToggle

theorem gpioControlInit_ok {env : Env} {w v : World Board Effect}
    (h : gpioControlInit env w = .ok .ok v) :
    v.state = { w.state with gpio := ⟨w.state.config.powerOnDefault, 0, 0⟩ } ∧
      v.shown = w.shown ++ [.gpioDirection .sbcReset false, .gpioDirection .sbcPower true,
        .gpioLevel .sbcPower w.state.config.powerOnDefault] := by
  obtain ⟨_, _, hreset, h₁⟩ := of_bind_ok h
  obtain ⟨_, _, hasked, h₂⟩ := of_bind_ok h₁
  obtain ⟨_, _, hchecked, h₃⟩ := of_bind_ok h₂
  obtain ⟨_, _, hpower, h₄⟩ := of_bind_ok h₃
  obtain ⟨_, _, hasked', h₅⟩ := of_bind_ok h₄
  obtain ⟨_, _, hchecked', h₆⟩ := of_bind_ok h₅
  cases hreset
  cases hasked
  cases (of_espErrorCheck_ok hchecked).2
  cases hpower
  cases hasked'
  cases (of_espErrorCheck_ok hchecked').2
  cases h₆
  simp

theorem RelayInv.init {effects : List Effect} {s : Relay} (hs : s.Initialized effects) :
    RelayInv effects [] s := by
  obtain ⟨env, before, w, hrun, hboard, rfl⟩ := hs
  obtain ⟨hstate, hshown⟩ := gpioControlInit_ok hrun
  refine ⟨?_, Machine.throughout_nil _, fun _ _ h => by cases h⟩
  rw [hboard, hstate, hshown]
  rfl

theorem Spaced.answered {es : List RelayEvent} (h : Spaced es) (time : ℕ) (call : PowerCall)
    (err : EspErr) : Spaced (es ++ [.answered time call err]) :=
  Machine.Throughout.snoc h fun _ _ heq => by cases heq

theorem drivenLevel_snoc (effects : List Effect) (on : Bool) :
    drivenLevel (effects ++ [.gpioLevel .sbcPower on]) = some on := by
  unfold drivenLevel
  rw [List.foldl_append]
  rfl

theorem shownEffects_append (es : List RelayEvent) (effects : List Effect) (time : ℕ)
    (call : PowerCall) (err : EspErr) :
    shownEffects (es ++ (effects.map (.effect time) ++ [.answered time call err])) =
      shownEffects es ++ effects := by
  unfold shownEffects
  rw [List.filterMap_append, List.filterMap_append, List.filterMap_map]
  simp

theorem RelayInv.step {before : List Effect} {es fs : List RelayEvent} {s t : Relay}
    {a : RelayAction} (h : RelayInv before es s) (hstep : relayMachine.step s a = some (t, fs)) :
    RelayInv before (es ++ fs) t := by
  obtain ⟨hnow, err, effects, rfl, hcase⟩ := relayStep_cases hstep
  -- a call that switches nothing shows its answer only
  have hquiet : effects = [] → t.board = s.board →
      RelayInv before (es ++ (effects.map (.effect a.env.now) ++ [.answered a.env.now a.call err]))
        t := by
    rintro rfl hboard
    refine ⟨?_, h.spaced.answered _ _ _, fun time on hmem => ?_⟩
    · rw [shownEffects_append, List.append_nil, hboard]
      exact h.level
    · rw [hboard]
      refine h.recorded time on ?_
      simpa [driven] using hmem
  generalize hboard : t.board = board at hcase hquiet
  cases hcase with
  | free => exact hquiet rfl rfl
  | refused => exact hquiet rfl rfl
  | switched hon hlate =>
      have hearlier : ∀ time on, driven time on ∈ es →
          time + minPowerToggleMs * 1000 ≤ a.env.now := by
        intro time on hmem
        obtain ⟨hpos, hle⟩ := h.recorded time on hmem
        have := hlate.resolve_left (by omega)
        omega
      refine ⟨?_, ?_, fun time on hmem => ?_⟩
      · rw [shownEffects_append, ← List.append_assoc, drivenLevel_snoc, hboard]
      · have hdriven : Spaced (es ++ [driven a.env.now (a.call.asks s.board.gpio)]) := by
          refine Machine.Throughout.snoc h.spaced fun time on heq time' on' hmem => ?_
          cases heq
          exact hearlier time' on' hmem
        simpa [driven] using hdriven.answered a.env.now a.call .ok
      · rw [hboard]
        refine ⟨hnow, ?_⟩
        simp only [driven, List.map_cons, List.map_nil, List.singleton_append, List.mem_append,
          List.mem_cons, List.not_mem_nil, or_false, RelayEvent.effect.injEq] at hmem
        rcases hmem with hmem | ⟨rfl, -⟩ | hmem
        · have := hearlier time on hmem
          show time ≤ a.env.now
          omega
        · exact le_rfl
        · cases hmem

/-- The explicit request for a level. -/
def PowerCall.forLevel : Bool → PowerCall
  | true => on
  | false => off

theorem PowerCall.asks_forLevel (gpio : Gpio) (on : Bool) : (forLevel on).asks gpio = on := by
  cases on <;> rfl

theorem PowerCall.toggle_eq (env : Env) (w : World Board Effect) :
    toggle.run env w = (forLevel (!w.state.gpio.powerOn)).run env w := by
  rw [run_eq, run_eq, asks_forLevel]
  rfl

/-- Over any run of calls after `gpio_control_init` the relay is driven at times that are
far enough apart, and the status is the level last driven.  A call that is refused and a
call for the level there is change nothing, and a toggle is a request for the other level. -/
theorem relay_protected {s t : Relay} {before : List Effect} {as : List RelayAction}
    {es : List RelayEvent} (hs : s.Initialized before) (hrun : relayMachine.Run s as es t) :
    Spaced es ∧
    drivenLevel (before ++ shownEffects es) = some t.board.gpio.powerOn ∧
    (∀ u a v fs, relayMachine.Takes s as u a → relayMachine.step u a = some (v, fs) →
      (∀ err, .answered a.env.now a.call err ∈ fs → err ≠ .ok →
        fs = [.answered a.env.now a.call err] ∧ v.board = u.board) ∧
      (a.call.asks u.board.gpio = u.board.gpio.powerOn →
        fs = [.answered a.env.now a.call .ok] ∧ v.board = u.board)) ∧
    ∀ (env : Env) (w : World Board Effect),
      PowerCall.toggle.run env w = (PowerCall.forLevel (!w.state.gpio.powerOn)).run env w := by
  have hinv := hrun.history (P := fun _ => True) (I := RelayInv before) (fun _ _ h => h) (.init hs)
    (fun _ _ _ _ _ _ h hstep => h.step hstep) trivial
  refine ⟨hinv.spaced, hinv.level, fun u a v fs _ hstep => ?_, PowerCall.toggle_eq⟩
  obtain ⟨-, err', effects, rfl, hcase⟩ := relayStep_cases hstep
  generalize hboard : v.board = board at hcase
  refine ⟨fun err hmem herr => ?_, fun hfree => ?_⟩
  · obtain rfl : err = err' := by simpa using hmem
    cases hcase with
    | free => exact absurd rfl herr
    | refused => exact ⟨rfl, rfl⟩
    | switched => exact absurd rfl herr
  · cases hcase with
    | free => exact ⟨rfl, rfl⟩
    | refused hon => exact absurd hfree.symm hon
    | switched hon => exact absurd hfree.symm hon

/-- `demoSystem`, its relay just initialized. -/
def demoRelay : Relay :=
  ⟨0, ((gpioControlInit (demoEnv 0 [])).final demoSystem.device.board.start).state⟩

def demoPower (time : ℕ) (call : PowerCall) : RelayAction := ⟨demoEnv time [], call⟩

/-- The second change comes too soon. -/
theorem relay_protected_toggles :
    ∃ (before : List Effect) (es : List RelayEvent) (t : Relay), demoRelay.Initialized before ∧
      relayMachine.Run demoRelay [demoPower 1 .toggle, demoPower 2000000 .on,
        demoPower 2000001 .toggle] es t ∧
      .answered 2000000 .on .invalidState ∈ es ∧ Spaced es := by
  have hs : demoRelay.Initialized _ := ⟨demoEnv 0 [], demoSystem.device.board, _, rfl, rfl, rfl⟩
  obtain ⟨t, es, hrun, hmem⟩ := Machine.Run.exists_of_exec (M := relayMachine) (s := demoRelay)
    (p := fun _ es => decide (.answered 2000000 .on .invalidState ∈ es))
    (show (relayMachine.exec demoRelay [demoPower 1 .toggle, demoPower 2000000 .on,
      demoPower 2000001 .toggle]).any _ = true by decide +kernel)
  exact ⟨_, es, t, hs, hrun, of_decide_eq_true hmem, (relay_protected hs hrun).1⟩

end WebTerminal
