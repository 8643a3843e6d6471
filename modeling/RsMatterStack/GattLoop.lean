import RsMatterStack.CommWindow
import RsMatterStack.Transition

set_option autoImplicit false

/-! The peripheral of concurrent commissioning: `run_gatt_while_ble_commissionable`. -/

namespace RsMatterStack

open Transition (Machine Reaches Reachable)

/-- The three awaits of the loop, and its only exit. -/
inductive GattPc
  /-- `wait_comm_window(is_open)` -/
  | waitOpen (wait : Wait)
  /-- `wait_comm_window(!is_open)`, for a window opened over CASE. -/
  | overCase (wait : Wait)
  /-- `select` of the peripheral future with `wait_comm_window(!is_open)`. -/
  | serving (wait : Wait)
  | failed
deriving DecidableEq, Repr

/-- The loop and the window it runs beside. -/
structure GattLoop where
  window : Window
  pc : GattPc
deriving DecidableEq, Repr

inductive GattAction
  | window (event : WindowEvent)
  | poll
  /-- The peripheral future ends, successfully or not. -/
  | peripheral (ok : Bool)
deriving DecidableEq, Repr

inductive GattEvent
  | started
  | stopped
deriving DecidableEq, Repr

namespace GattLoop

def start (window : Window) : GattLoop := ⟨window, .waitOpen .subscribe⟩

def notOpen (state : CommWindowState) : Bool := !state.isOpen

/-- One step of the loop between two of its awaits, or inside one of them. -/
def poll (window : Window) : GattPc → Option (GattPc × List GattEvent)
  | .waitOpen (.returned state) =>
      if !state.state.isOpenOnAllTransports then some (.overCase .subscribe, [])
      else some (.serving .subscribe, [.started])
  | .waitOpen wait => (wait.step (·.isOpen) window).map (fun next => (.waitOpen next, []))
  | .overCase (.returned _) => some (.waitOpen .subscribe, [])
  | .overCase wait => (wait.step notOpen window).map (fun next => (.overCase next, []))
  | .serving (.returned _) => some (.waitOpen .subscribe, [.stopped])
  | .serving wait => (wait.step notOpen window).map (fun next => (.serving next, []))
  | .failed => none

def step (loop : GattLoop) : GattAction → Option (GattLoop × List GattEvent)
  | .window event => (loop.window.apply event).map (fun next => ({ loop with window := next }, []))
  | .poll => (poll loop.window loop.pc).map (fun next => ({ loop with pc := next.1 }, next.2))
  | .peripheral ok =>
      match loop.pc with
      -- Dropping the peripheral future here is what stops BLE
      | .serving _ => some ({ loop with pc := if ok then .waitOpen .subscribe else .failed },
          [.stopped])
      | _ => none

def machine : Machine GattLoop GattAction GattEvent := ⟨step⟩

/-- The peripheral future is alive. -/
def BleUp (loop : GattLoop) : Prop := ∃ wait, loop.pc = .serving wait

/-- Suspended, with no undelivered window change, and the peripheral has not failed. -/
def Quiescent (loop : GattLoop) : Prop :=
  match loop.pc with
  | .waitOpen wait | .overCase wait | .serving wait => wait.Quiescent loop.window
  | .failed => False

/-- While it waits for a window of one kind to close, the loop does not read a
window of the other kind, opened since behind its back. -/
def ReadsSameKind (loop : GattLoop) (action : GattAction) : Prop :=
  match action, loop.pc with
  | .poll, .serving (.read _) =>
      loop.window.state.isOpen = true → loop.window.state.isOpenOnAllTransports = true
  | .poll, .overCase (.read _) =>
      loop.window.state.isOpen = true → loop.window.state.isOpenOnAllTransports = false
  | _, _ => True

instance (window : Window) (pc : GattPc) : Decidable (ReadsSameKind ⟨window, pc⟩ .poll) :=
  match pc with
  | .serving (.read _) =>
      inferInstanceAs (Decidable
        (window.state.isOpen = true → window.state.isOpenOnAllTransports = true))
  | .overCase (.read _) =>
      inferInstanceAs (Decidable
        (window.state.isOpen = true → window.state.isOpenOnAllTransports = false))
  | .serving .subscribe | .serving (.test ..) | .serving (.awaiting ..)
  | .serving (.returned _) | .overCase .subscribe | .overCase (.test ..)
  | .overCase (.awaiting ..) | .overCase (.returned _) | .waitOpen _ | .failed => .isTrue trivial

instance (loop : GattLoop) (action : GattAction) : Decidable (loop.ReadsSameKind action) :=
  match loop, action with
  | ⟨window, pc⟩, .poll => inferInstanceAs (Decidable (ReadsSameKind ⟨window, pc⟩ .poll))
  | _, .window _ | _, .peripheral _ => .isTrue trivial

/-- What each await knows of the window. -/
def Valid (loop : GattLoop) : Prop :=
  match loop.pc with
  | .waitOpen wait => wait.Valid (·.isOpen) loop.window
  | .overCase wait | .serving wait => wait.Valid notOpen loop.window
  | .failed => True

/-- The window last read by an await for its end is of the kind that await is for. -/
def SameKind (loop : GattLoop) : Prop :=
  match loop.pc with
  | .overCase wait => ∀ window, wait.lastRead = some window →
      window.state.isOpen = true → window.state.isOpenOnAllTransports = false
  | .serving wait => ∀ window, wait.lastRead = some window →
      window.state.isOpen = true → window.state.isOpenOnAllTransports = true
  | _ => True

/-- Each kind of step of the loop itself. -/
inductive PcStep (window : Window) : GattPc → GattPc → Prop
  | waitOpen {wait next : Wait} (inner : wait.step (·.isOpen) window = some next) :
      PcStep window (.waitOpen wait) (.waitOpen next)
  | case {state : Window} : PcStep window (.waitOpen (.returned state)) (.overCase .subscribe)
  | serve {state : Window} : PcStep window (.waitOpen (.returned state)) (.serving .subscribe)
  | overCase {wait next : Wait} (inner : wait.step notOpen window = some next) :
      PcStep window (.overCase wait) (.overCase next)
  | serving {wait next : Wait} (inner : wait.step notOpen window = some next) :
      PcStep window (.serving wait) (.serving next)
  | again {pc : GattPc} : PcStep window pc (.waitOpen .subscribe)

theorem poll_cases {window : Window} {pc next : GattPc} {events : List GattEvent}
    (moved : poll window pc = some (next, events)) : PcStep window pc next := by
  unfold poll at moved
  split at moved
  · split at moved
    · cases Option.some.inj moved
      exact .case
    · cases Option.some.inj moved
      exact .serve
  · obtain ⟨after, stepped, same⟩ := Option.map_eq_some_iff.mp moved
    cases same
    exact .waitOpen stepped
  · cases Option.some.inj moved
    exact .again
  · obtain ⟨after, stepped, same⟩ := Option.map_eq_some_iff.mp moved
    cases same
    exact .overCase stepped
  · cases Option.some.inj moved
    exact .again
  · obtain ⟨after, stepped, same⟩ := Option.map_eq_some_iff.mp moved
    cases same
    exact .serving stepped
  · cases moved

/-- The window changes, or the loop is polled, or its peripheral ends. -/
inductive Step (loop : GattLoop) : GattAction → GattLoop → Prop
  | window (event : WindowEvent) {changed : Window}
      (applied : loop.window.apply event = some changed) :
      Step loop (.window event) ⟨changed, loop.pc⟩
  | poll {pc : GattPc} (polled : PcStep loop.window loop.pc pc) : Step loop .poll ⟨loop.window, pc⟩
  | finished : Step loop (.peripheral true) ⟨loop.window, .waitOpen .subscribe⟩
  | failed : Step loop (.peripheral false) ⟨loop.window, .failed⟩

theorem step_cases {loop next : GattLoop} {action : GattAction} {events : List GattEvent}
    (moved : machine.step loop action = some (next, events)) : Step loop action next := by
  cases action with
  | window event =>
      obtain ⟨changed, applied, same⟩ := Option.map_eq_some_iff.mp moved
      cases same
      exact .window event applied
  | poll =>
      obtain ⟨⟨pc, emitted⟩, polled, same⟩ := Option.map_eq_some_iff.mp moved
      cases same
      exact .poll (poll_cases polled)
  | peripheral ok =>
      simp only [machine, step] at moved
      split at moved
      · cases Option.some.inj moved
        cases ok with
        | true => exact .finished
        | false => exact .failed
      · cases moved

theorem Step.valid {loop next : GattLoop} {action : GattAction}
    (moved : Step loop action next) (valid : loop.Valid) : next.Valid := by
  obtain ⟨window, pc⟩ := loop
  cases moved with
  | window event applied =>
      cases pc with
      | failed => trivial
      | _ => exact Wait.Valid.apply valid applied
  | poll polled =>
      cases polled with
      | waitOpen inner | overCase inner | serving inner => exact Wait.Valid.step valid inner
      | case | serve | again => trivial
  | finished | failed => trivial

theorem reachable_valid {window : Window} {log : List GattEvent} {loop : GattLoop}
    (reached : Reachable machine (start window) log loop) : loop.Valid :=
  reached.invariant (fun _ loop => loop.Valid) trivial
    (fun _ _ _ _ _ _ valid _ moved => (step_cases moved).valid valid)

theorem Step.sameKind {loop next : GattLoop} {action : GattAction}
    (moved : Step loop action next) (permitted : loop.ReadsSameKind action)
    (same : loop.SameKind) : next.SameKind := by
  obtain ⟨window, pc⟩ := loop
  cases moved with
  | window event applied => exact same
  | poll polled =>
      cases polled with
      | waitOpen inner | again => trivial
      | case | serve =>
          intro state held
          cases held
      | overCase inner | serving inner =>
          intro state held
          rcases Wait.lastRead_step inner held with earlier | ⟨changed, rfl, rfl⟩
          · exact same state earlier
          · exact permitted
  | finished | failed => trivial

theorem reaches_sameKind {window : Window} {log : List GattEvent} {loop : GattLoop}
    (reached : Reaches machine ReadsSameKind (start window) log loop) : loop.SameKind :=
  reached.invariant (fun _ loop => loop.SameKind) trivial
    (fun _ _ _ _ _ _ same permitted moved => (step_cases moved).sameKind permitted same)

/-- A quiescent loop has the peripheral up exactly for a window of the device itself. -/
theorem bleUp_iff {window : Window} {log : List GattEvent} {loop : GattLoop}
    (reached : Reaches machine ReadsSameKind (start window) log loop)
    (quiet : loop.Quiescent) :
    loop.BleUp ↔ loop.window.state.isOpenOnAllTransports = true := by
  have valid := reachable_valid reached.reachable
  have same := reaches_sameKind reached
  obtain ⟨current, pc⟩ := loop
  cases pc with
  | waitOpen wait =>
      have known : wait.Valid (·.isOpen) current := valid
      obtain ⟨changed, _, shut⟩ := known.quiescent quiet
      constructor
      · rintro ⟨_, serving⟩
        cases serving
      · intro all
        rw [CommWindowState.isOpen_of_allTransports all] at shut
        cases shut
  | overCase wait =>
      have known : wait.Valid notOpen current := valid
      obtain ⟨changed, rfl, rejected⟩ := known.quiescent quiet
      have opened : current.state.isOpen = true := by simpa [notOpen] using rejected
      have overCase : current.state.isOpenOnAllTransports = false := same current rfl opened
      constructor
      · rintro ⟨_, serving⟩
        cases serving
      · intro all
        rw [overCase] at all
        cases all
  | serving wait =>
      have known : wait.Valid notOpen current := valid
      obtain ⟨changed, rfl, rejected⟩ := known.quiescent quiet
      have opened : current.state.isOpen = true := by simpa [notOpen] using rejected
      exact ⟨fun _ => same current rfl opened, fun _ => ⟨_, rfl⟩⟩
  | failed => cases quiet

/-- The loop makes the moves of the await it is in. -/
theorem settles {allowed : GattLoop → GattAction → Prop} {window : Window}
    {wrap : Wait → GattPc} {wait last : Wait}
    (permitted : ∀ loop, allowed loop .poll)
    (inner : ∀ now next, now.step notOpen window = some next →
      poll window (wrap now) = some (wrap next, []))
    (steps : Relation.ReflTransGen (fun now next => Wait.step notOpen window now = some next)
      wait last) :
    Reaches machine allowed ⟨window, wrap wait⟩ [] ⟨window, wrap last⟩ := by
  induction steps with
  | refl => exact .start
  | @tail now next _ moved ih =>
      have polled : machine.step ⟨window, wrap now⟩ .poll = some (⟨window, wrap next⟩, []) := by
        simp [machine, step, inner now next moved]
      exact .step ih (permitted _) polled

theorem poll_serving {window : Window} {now next : Wait}
    (moved : now.step notOpen window = some next) :
    poll window (.serving now) = some (.serving next, []) := by
  cases now with
  | returned state => cases moved
  | _ => simp [poll, moved]

theorem poll_overCase {window : Window} {now next : Wait}
    (moved : now.step notOpen window = some next) :
    poll window (.overCase now) = some (.overCase next, []) := by
  cases now with
  | returned state => cases moved
  | _ => simp [poll, moved]

/-- Once it has read a window of the other kind, the loop stays with it. -/
theorem stranded {loop : GattLoop} (other : ¬ loop.ReadsSameKind .poll) :
    ∃ last, Reaches machine (fun _ action => action = .poll) loop [] last ∧
      last.window = loop.window ∧ last.Quiescent ∧
      ¬ (last.BleUp ↔ last.window.state.isOpenOnAllTransports = true) := by
  obtain ⟨window, pc⟩ := loop
  unfold ReadsSameKind at other
  split at other
  · rename_i version _ located
    cases located
    obtain ⟨opened, overCase⟩ := Classical.not_imp.mp other
    have rejected : notOpen window.state = false := by simp [notOpen, opened]
    have steps := Wait.settles version rejected
    refine ⟨_, settles (fun _ => rfl) (fun _ _ => poll_serving) steps, rfl, rfl, ?_⟩
    intro follows
    exact overCase (follows.mp ⟨_, rfl⟩)
  · rename_i version _ located
    cases located
    obtain ⟨opened, all⟩ := Classical.not_imp.mp other
    have rejected : notOpen window.state = false := by simp [notOpen, opened]
    have steps := Wait.settles version rejected
    refine ⟨_, settles (fun _ => rfl) (fun _ _ => poll_overCase) steps, rfl, rfl, ?_⟩
    intro follows
    obtain ⟨_, serving⟩ := follows.mpr (Bool.not_eq_false _ ▸ all)
    cases serving
  · exact absurd trivial other

/-- BLE follows the window in every run in which no await for the end of a window of
one kind reads an open window of the other kind, and in no run after such a read. -/
theorem ble_follows_window (window : Window) :
    (∀ log loop, Reaches machine ReadsSameKind (start window) log loop → loop.Quiescent →
      (loop.BleUp ↔ loop.window.state.isOpenOnAllTransports = true)) ∧
    ∀ log loop, Reachable machine (start window) log loop → ¬ loop.ReadsSameKind .poll →
      ∃ last, Reaches machine (fun _ action => action = .poll) loop [] last ∧
        last.window = loop.window ∧ last.Quiescent ∧
        ¬ (last.BleUp ↔ last.window.state.isOpenOnAllTransports = true) :=
  ⟨fun _ _ => bleUp_iff, fun _ _ _ => stranded⟩

/-- A window of the device itself, then one over CASE after it is seen to close. -/
def served : List GattAction := [.window .openBasic] ++ List.replicate 7 .poll

def thenOverCase : List GattAction :=
  served ++ [.window .close] ++ List.replicate 8 .poll ++ [.window (.openOverCase 1)] ++
    List.replicate 8 .poll

/-- The peripheral is up for the first of them, and down for the other. -/
theorem ble_follows_window_down :
    (∃ loop, Reaches machine ReadsSameKind (start ⟨.closed, 0, 0⟩) [.started] loop ∧
      loop.BleUp) ∧
    ∃ loop, Reaches machine ReadsSameKind (start ⟨.closed, 0, 0⟩) [.started, .stopped] loop ∧
      ¬ loop.BleUp ∧ loop.window.state = .opened (some 1) := by
  have follows := (ble_follows_window ⟨.closed, 0, 0⟩).1
  constructor
  · have executed : machine.run ReadsSameKind (start ⟨.closed, 0, 0⟩) served =
        some (_, [.started]) := rfl
    have reached := Machine.run_reaches executed
    exact ⟨_, reached, (follows _ _ reached rfl).mpr rfl⟩
  · have executed : machine.run ReadsSameKind (start ⟨.closed, 0, 0⟩) thenOverCase =
        some (_, [.started, .stopped]) := rfl
    have reached := Machine.run_reaches executed
    refine ⟨_, reached, ?_, rfl⟩
    intro up
    cases (follows _ _ reached rfl).mp up

/-- A window over CASE that replaces the one served, seen as one change. -/
def replacedByCase : List GattAction :=
  [.window .openBasic] ++ List.replicate 7 .poll ++
    [.window .close, .window (.openOverCase 1)] ++ List.replicate 4 .poll

/-- The same with the two windows exchanged. -/
def replacedByBasic : List GattAction :=
  [.window (.openOverCase 1)] ++ List.replicate 7 .poll ++
    [.window .close, .window .openBasic] ++ List.replicate 4 .poll

/-- BLE stays up for a window opened over CASE, and down for one of the device. -/
theorem ble_misses_replaced_window :
    (∃ log loop, Reachable machine (start ⟨.closed, 0, 0⟩) log loop ∧ loop.Quiescent ∧
      loop.BleUp ∧ loop.window.state = .opened (some 1)) ∧
    ∃ log loop, Reachable machine (start ⟨.closed, 0, 0⟩) log loop ∧ loop.Quiescent ∧
      ¬ loop.BleUp ∧ loop.window.state = .opened none := by
  constructor
  · have executed : machine.exec (start ⟨.closed, 0, 0⟩) replacedByCase = some (_, _) := rfl
    exact ⟨_, _, Machine.exec_reachable executed, rfl, ⟨_, rfl⟩, rfl⟩
  · have executed : machine.exec (start ⟨.closed, 0, 0⟩) replacedByBasic = some (_, _) := rfl
    refine ⟨_, _, Machine.exec_reachable executed, rfl, ?_, rfl⟩
    rintro ⟨_, serving⟩
    cases serving

end GattLoop

end RsMatterStack
