import RsMatterStack.StackStep

set_option autoImplicit false

/-! Bump memory over the BLE phases of one run. -/

namespace RsMatterStack.Stack

open Alignment (padding)
open Transition (Reachable Everywhere everywhere_append Machine)

variable {Creds : Type}

def phasesStep (phases : Nat) : StackEvent Creds → Nat
  | .runStarted _ => 0
  | .btpStarted => phases + 1
  | _ => phases

/-- The BLE phases of the current run that got memory for their peripheral. -/
def phases (log : List (StackEvent Creds)) : Nat := log.foldl phasesStep 0

/-- Where the root future of `run` ends. -/
def rootEnd (config : Config) (base capacity : Nat) : Nat :=
  match (Bump.new base capacity).reserve (config.root false) with
  | .ok (_, bump) => bump.offset
  | .error _ => 0

/-- Where the first peripheral future starts. -/
def firstSlot (config : Config) (base capacity : Nat) : Nat :=
  rootEnd config base capacity +
    padding (base + rootEnd config base capacity) config.peripheral.align

/-- The bump offset after so many BLE phases. -/
def used (config : Config) (base capacity : Nat) : Nat → Nat
  | 0 => rootEnd config base capacity
  | phases + 1 => firstSlot config base capacity + (phases + 1) * config.peripheral.size

/-- Only the first BLE phase of a run runs out of bump memory. -/
def OnlyFirstPanics (before : List (StackEvent Creds)) : StackEvent Creds → Prop
  | .btpPanicked panic => panic = outOfBumpMemory → phases before = 0
  | _ => True

/-- The peripheral futures of all BLE phases of the run so far fit side by side. -/
def AllFit (config : Config) (base capacity : Nat) (before : List (StackEvent Creds)) :
    StackEvent Creds → Prop
  | .btpStarted | .btpPanicked _ =>
      phases before = 0 ∨ used config base capacity (phases before + 1) ≤ capacity
  | _ => True

variable {config : Config} {stack next : Stack Creds} {action : StackAction Creds}
  {log events : List (StackEvent Creds)} {window : Window} {base capacity : Nat}

/-- Dropped futures give nothing back: each phase takes one more peripheral future. -/
theorem used_succ (phases : Nat) :
    used config base capacity (phases + 1) = used config base capacity phases +
      padding (base + used config base capacity phases) config.peripheral.align +
      config.peripheral.size := by
  cases phases with
  | zero => simp only [used, firstSlot, Nat.zero_add, Nat.one_mul]
  | succ phases =>
      have positive := config.peripheral.align_pos
      have start : config.peripheral.align ∣ base + firstSlot config base capacity := by
        have aligned := Alignment.dvd_add_padding (base + rootEnd config base capacity) positive
        rwa [Nat.add_assoc] at aligned
      have sizes : config.peripheral.align ∣ (phases + 1) * config.peripheral.size :=
        Nat.dvd_mul_left_of_dvd config.peripheral.multiple (phases + 1)
      have none_needed : padding (base + used config base capacity (phases + 1))
          config.peripheral.align = 0 := by
        apply Alignment.padding_eq_zero positive
        rw [used, ← Nat.add_assoc]
        exact Nat.dvd_add start sizes
      rw [none_needed]
      simp only [used, Nat.add_mul]
      omega

/-- The runs of `run`, not of `run_coex`. -/
def nonConcurrent : Run → Bool
  | .idle | .coex => false
  | _ => true

/-- The offset is the one of so many BLE phases. -/
def Usage (config : Config) (base capacity : Nat) (log : List (StackEvent Creds))
    (stack : Stack Creds) : Prop :=
  nonConcurrent stack.run = true → stack.bump.offset = used config base capacity (phases log)

theorem phases_append : phases (log ++ events) = events.foldl phasesStep (phases log) := by
  simp only [phases, List.foldl_append]

theorem Usage.keep (now : Usage config base capacity log stack)
    (same : next.bump = stack.bump) (run : nonConcurrent next.run = nonConcurrent stack.run)
    (uncounted : phases (log ++ events) = phases log) :
    Usage config base capacity (log ++ events) next := by
  intro running
  rw [same, uncounted]
  exact now (run.symm.trans running)

theorem Usage.stop (stopped : nonConcurrent next.run = false) :
    Usage config base capacity log next := by
  intro running
  rw [stopped] at running
  cases running

/-- What `run_btp` finds: room for one more peripheral future, or not. -/
theorem Usage.reserve (sized : 0 < config.peripheral.size)
    (now : Usage config base capacity log stack) (allocator : stack.Allocator base capacity)
    (running : nonConcurrent stack.run = true) :
    stack.bump.reserve config.peripheral =
      if capacity < used config base capacity (phases log + 1) then .error outOfBumpMemory
      else .ok (base + used config base capacity (phases log) +
          padding (base + used config base capacity (phases log)) config.peripheral.align,
        ⟨base, capacity, used config base capacity (phases log + 1)⟩) := by
  rw [Bump.reserve_sized stack.bump config.peripheral allocator.bounded sized]
  rw [used_succ, ← now running, allocator.capacity, allocator.base]

theorem Step.usage (sized : 0 < config.peripheral.size)
    (moved : Step config stack action events next) (allocator : stack.Allocator base capacity)
    (now : Usage config base capacity log stack) :
    Usage config base capacity (log ++ events) next := by
  cases moved with
  | runStarted idle reserved =>
      intro _
      rw [allocator.empty idle] at reserved
      simp [phases_append, phasesStep, used, rootEnd, reserved]
  | btpStarted located reserved =>
      intro _
      have counted : phases (log ++ [.lent stack.networks, .btpStarted]) = phases log + 1 := by
        simp [phases_append, phasesStep]
      rw [now.reserve sized allocator (by rw [located]; rfl)] at reserved
      split at reserved
      · cases reserved
      · cases reserved
        rw [counted]
  | coexStarted | runFailed | btpPanicked | operMissing | connectFailed | startupFailed | stopped =>
      exact .stop rfl
  | reserved layout located => exact .stop (by rw [located]; rfl)
  | reset outcome idle => exact .stop (by cases outcome <;> simp [Stack.reset, idle, nonConcurrent])
  | window | hydrated | starting | loaded | startupOk | handled | recorded =>
      exact now.keep rfl rfl phases_append
  | bleStarted located | operDirect located | operStarted located | gattPolled located
  | operSkipped located | operDeferred located | connected located | readLeaving located
  | operPolled located | looped located =>
      exact now.keep rfl (by rw [located]; rfl) phases_append
  | gattDone located | windowAppeared located | taskDone _ located =>
      exact now.keep rfl (by rw [located]; rfl)
        (by simp [phases_append, foldl_cancelled, phasesStep])

theorem reachable_usage (sized : 0 < config.peripheral.size)
    (reached : Reachable (machine config) (fresh window base capacity) log stack) :
    Usage config base capacity log stack :=
  reached.invariant (fun log stack => Usage config base capacity log stack) (.stop rfl)
    (fun _ _ _ _ _ reached now _ moved =>
      (step_cases moved).usage sized (reachable_allocator reached) now)

/-- Every BLE phase takes the memory of one more peripheral future until the run ends, and
a later phase panics exactly when the futures of all phases so far do not fit. -/
theorem bump_usage_iff (sized : 0 < config.peripheral.size)
    (reached : Reachable (machine config) (fresh window base capacity) log stack) :
    (Everywhere OnlyFirstPanics log ↔ Everywhere (AllFit config base capacity) log) ∧
    (stack.run = .gattSetup → stack.bump.offset = used config base capacity (phases log)) := by
  constructor
  · apply reached.everywhere_iff
    intro log events stack next action reached moved
    have usage := reachable_usage sized reached
    have allocator := reachable_allocator reached
    cases step_cases moved with
    | btpStarted located reserved =>
        rw [usage.reserve sized allocator (by rw [located]; rfl)] at reserved
        split at reserved
        · cases reserved
        · rename_i room
          have fits : used config base capacity (phases log + 1) ≤ capacity := by omega
          simpa [OnlyFirstPanics, AllFit, phases_append, phasesStep] using Or.inr fits
    | btpPanicked located refused =>
        rw [usage.reserve sized allocator (by rw [located]; rfl)] at refused
        split at refused
        · rename_i full
          cases refused
          have overflows : ¬ used config base capacity (phases log + 1) ≤ capacity := by omega
          simp [everywhere_append, OnlyFirstPanics, AllFit, phases_append, phasesStep, overflows]
        · cases refused
    | _ => simp [everywhere_append, OnlyFirstPanics, AllFit]
  · intro located
    exact reachable_usage sized reached (by rw [located]; rfl)

/-- Room for the futures of both phases is enough. -/
theorem bump_usage_two_phases :
    Everywhere OnlyFirstPanics ((machine smallConfig).logOf smallStack twoPhases) := by
  have executed : ((machine smallConfig).exec smallStack twoPhases).isSome = true := rfl
  obtain ⟨last, reached⟩ := Machine.logOf_reachable executed
  apply (bump_usage_iff (by decide) reached).1.mpr
  show Everywhere (AllFit smallConfig 0 40) [.window _, .runStarted _, .bleStarted, .lent _,
    .btpStarted, .window _, .bleEnded _, .operStarted _, .deferred _, .lent _, .readLeaving _,
    .window _, .operEnded _, .bleStarted, .lent _, .btpStarted]
  have room : used smallConfig 0 40 2 ≤ 40 := by decide
  simp [AllFit, phases, phasesStep, room]

/-- In a smaller bump allocator the first phase runs and the second one panics. -/
theorem second_phase_panics :
    ∃ log stack,
      Reachable (machine smallConfig) (fresh ⟨.closed, 0, 0⟩ 0 16 : Stack Unit) log stack ∧
      .btpStarted ∈ log ∧ ¬ Everywhere OnlyFirstPanics log := by
  have executed : (machine smallConfig).exec (fresh ⟨.closed, 0, 0⟩ 0 16 : Stack Unit) twoPhases =
      some (_, [.window .openBasic, .runStarted false, .bleStarted, .lent _, .btpStarted,
        .window .close, .bleEnded none, .operStarted none, .deferred none, .lent _,
        .readLeaving none, .window .openBasic, .operEnded .window, .bleStarted, .lent _,
        .btpPanicked outOfBumpMemory, .runEnded .panicked]) := rfl
  refine ⟨_, _, Machine.exec_reachable executed, by simp, ?_⟩
  simp [OnlyFirstPanics, phases, phasesStep]

end RsMatterStack.Stack
