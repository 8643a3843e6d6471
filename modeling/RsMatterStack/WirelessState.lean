import Mathlib.Logic.Function.Basic
import Mathlib.Tactic.Common

set_option autoImplicit false

/-! What `WirelessBle` keeps between the phases: `NetCtlState` and the networks store. -/

namespace RsMatterStack

abbrev NetworkId := List UInt8

/-- The outcome of the last scan or connect. -/
structure NetCtlState where
  networkId : NetworkId
  networkingStatus : Option Nat
  connectErrorValue : Option Int
deriving DecidableEq, Repr

/-- `reset_net_ctl_state`, and the initial state. -/
def NetCtlState.cleared : NetCtlState := ⟨[], none, none⟩

/-- What `NetCtlWithStatusImpl` is told to record. -/
inductive NetCtlOutcome
  | scanned (ok : Bool)
  | connected (networkId : NetworkId)
  | connectFailed (networkId : NetworkId) (error : Int)
deriving DecidableEq, Repr

/-- The network of a connect that succeeded. -/
def NetCtlOutcome.success : NetCtlOutcome → Option NetworkId
  | connected networkId => some networkId
  | _ => none

/-- `NetCtlState::is_prov_ready`, and how `NetCtlWithStatusImpl` updates the state. -/
structure NetCtl where
  isProvReady : NetCtlState → Bool
  record : NetCtlState → NetCtlOutcome → NetCtlState

/-- The id that an operational phase finds to connect to. -/
def NetCtl.pending (netCtl : NetCtl) (state : NetCtlState) : Option NetworkId :=
  if netCtl.isProvReady state then some state.networkId else none

/-- The verdict is on the last outcome alone: ready, with the id of the network,
after a successful connect, and not ready after anything else. -/
structure NetCtl.Lawful (netCtl : NetCtl) : Prop where
  cleared : netCtl.pending .cleared = none
  record : ∀ state outcome, netCtl.pending (netCtl.record state outcome) = outcome.success

/-- The state that only keeps what the last outcome was. -/
def NetCtl.lastOutcome : NetCtl where
  isProvReady := fun state => state.networkingStatus = some 0
  record := fun _ outcome =>
    match outcome with
    | .scanned _ => .cleared
    | .connected networkId => ⟨networkId, some 0, none⟩
    | .connectFailed networkId error => ⟨networkId, some 9, some error⟩

theorem NetCtl.lastOutcome_lawful : NetCtl.lastOutcome.Lawful where
  cleared := rfl
  record := by
    intro state outcome
    cases outcome <;> rfl

/-- The credentials of each network in the store. -/
abbrev Networks (Creds : Type) := NetworkId → Option Creds

def Networks.empty {Creds : Type} : Networks Creds := fun _ => none

/-- How the Network Commissioning handler changes the store lent to it. -/
inductive NetworksOp (Creds : Type)
  | addOrUpdate (networkId : NetworkId) (creds : Creds)
  | remove (networkId : NetworkId)
deriving DecidableEq, Repr

/-- The network that a change of the store is about. -/
def NetworksOp.networkId {Creds : Type} : NetworksOp Creds → NetworkId
  | addOrUpdate networkId _ | remove networkId => networkId

namespace Networks

variable {Creds : Type}

def apply (networks : Networks Creds) : NetworksOp Creds → Networks Creds
  | .addOrUpdate networkId creds => Function.update networks networkId (some creds)
  | .remove networkId => Function.update networks networkId none

/-- A change of the store leaves the other networks alone. -/
theorem apply_other {networks : Networks Creds} {op : NetworksOp Creds} {networkId : NetworkId}
    (other : op.networkId ≠ networkId) : networks.apply op networkId = networks networkId := by
  cases op with
  | addOrUpdate | remove => exact Function.update_of_ne other.symm _ _

@[simp] theorem apply_added {networks : Networks Creds} {networkId : NetworkId} {creds : Creds} :
    networks.apply (.addOrUpdate networkId creds) networkId = some creds :=
  Function.update_self _ _ _

/-- Every network of the other store is there, with the same credentials. -/
def Includes (networks other : Networks Creds) : Prop :=
  ∀ networkId creds, other networkId = some creds → networks networkId = some creds

theorem Includes.empty {networks : Networks Creds} : networks.Includes .empty := by
  intro networkId creds held
  cases held

theorem Includes.update {networks other : Networks Creds} (includes : networks.Includes other)
    (networkId : NetworkId) (creds : Option Creds) :
    Includes (Function.update networks networkId creds)
      (Function.update other networkId creds) := by
  intro id found held
  by_cases same : id = networkId
  · subst same
    simpa using held
  · rw [Function.update_of_ne same] at held ⊢
    exact includes id found held

theorem Includes.apply {networks other : Networks Creds} (includes : networks.Includes other)
    (op : NetworksOp Creds) : (networks.apply op).Includes (other.apply op) := by
  cases op with
  | addOrUpdate networkId creds => exact includes.update networkId (some creds)
  | remove networkId => exact includes.update networkId none

end Networks

end RsMatterStack
