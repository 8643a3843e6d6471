import Mathlib.Data.List.Infix
import Mathlib.Logic.Function.Basic
import RsMatterStack.Transition

set_option autoImplicit false

/-! Concurrent calls of the `run` methods of one stack: `run_lock`, the guard that
resets the bump allocator, and the boxes of a call. -/

namespace RsMatterStack

open Transition (Machine)

/-- The statements of a `run` method, in the order of the source. -/
inductive Stmt
  /-- `let _lock = self.run_lock.lock().await` -/
  | lockRun
  /-- `let mut networks = self.network.networks.lock().await` -/
  | lockNetworks
  /-- `let _defer = scopeguard::guard(..)` -/
  | deferReset
  /-- `self.matter().reset_transport()?` -/
  | resetTransport
  /-- `let net_task = pin_alloc!(..)` -/
  | allocRoot
  /-- `net_task.await` -/
  | awaitRoot
deriving DecidableEq, Repr

/-- The locals with a destructor. -/
inductive Local
  | lock
  | networks
  | defer
  | netTask
deriving DecidableEq, Repr

def Stmt.binds : Stmt → Option Local
  | lockRun => some .lock
  | lockNetworks => some .networks
  | deferReset => some .defer
  | allocRoot => some .netTask
  | resetTransport | awaitRoot => none

inductive Method
  | ethernetRun
  | wifiRunCoex
  | wifiRun
  | threadRunCoex
  | threadRun
deriving DecidableEq, Repr

namespace Method

def ethernetBody : List Stmt :=
  [.lockRun, .deferReset, .resetTransport, .allocRoot, .awaitRoot]

def wirelessBody : List Stmt :=
  [.lockRun, .lockNetworks, .deferReset, .resetTransport, .allocRoot, .awaitRoot]

def body : Method → List Stmt
  | ethernetRun => ethernetBody
  | wifiRunCoex | wifiRun | threadRunCoex | threadRun => wirelessBody

/-- The live locals before the statement at `pc`, the newest one first. -/
def frameAt (method : Method) (pc : Nat) : List Local :=
  ((method.body.take pc).filterMap Stmt.binds).reverse

end Method

/-- A future of a `run` method; once it ends, in whatever way, it is `unwinding`: its
locals are dropped, the newest one first. -/
structure Call where
  method : Method
  pc : Nat
  frame : List Local
  unwinding : Bool
deriving DecidableEq, Repr

/-- What the calls share; `boxes` has the owner of every live `BumpBox`. -/
structure Shared where
  calls : Nat → Option Call
  runLock : Option Nat
  networksLock : Option Nat
  boxes : List Nat

inductive CallAction
  | call (id : Nat) (method : Method)
  /-- The next statement; `ok` is false if it fails or panics. -/
  | step (id : Nat) (ok : Bool)
  /-- The root future allocates. -/
  | alloc (id : Nat)
  /-- The root future, or its destructor, drops one of its boxes. -/
  | drop (id : Nat)
  /-- The future is dropped, or panics. -/
  | cancel (id : Nat)
  /-- The destructor of the newest local runs. -/
  | unwind (id : Nat)
deriving DecidableEq, Repr

inductive CallEvent
  | locked (id : Nat)
  | unlocked (id : Nat)
  | allocated (id : Nat)
  | dropped (id : Nat)
  | reset (id : Nat)
deriving DecidableEq, Repr

namespace Shared

def initial : Shared := ⟨fun _ => none, none, none, []⟩

def set (state : Shared) (id : Nat) (call : Call) : Shared :=
  { state with calls := Function.update state.calls id (some call) }

/-- The call goes on, with a new local. -/
def bind (state : Shared) (id : Nat) (call : Call) (newest : Local) : Shared :=
  state.set id { call with pc := call.pc + 1, frame := newest :: call.frame }

def stop (state : Shared) (id : Nat) (call : Call) : Shared :=
  state.set id { call with unwinding := true }

def execute (state : Shared) (id : Nat) (call : Call) (ok : Bool) :
    Stmt → Option (Shared × List CallEvent)
  | .lockRun =>
      if state.runLock = none then
        some ({ state.bind id call .lock with runLock := some id }, [.locked id])
      else none
  | .lockNetworks =>
      if state.networksLock = none then
        some ({ state.bind id call .networks with networksLock := some id }, [])
      else none
  | .deferReset => some (state.bind id call .defer, [])
  | .resetTransport =>
      some (if ok then state.set id { call with pc := call.pc + 1 } else state.stop id call, [])
  | .allocRoot =>
      if ok then
        some ({ state.bind id call .netTask with boxes := id :: state.boxes }, [.allocated id])
      else some (state.stop id call, [])
  | .awaitRoot => some (state.stop id call, [])

/-- The destructor of a local, with the others still to be dropped. -/
def release (state : Shared) (id : Nat) (call : Call) (rest : List Local) :
    Local → Option (Shared × List CallEvent)
  | .netTask =>
      -- The boxes that the root future owns go first
      if state.boxes.count id = 1 then
        some ({ state.set id { call with frame := rest } with boxes := state.boxes.erase id },
          [.dropped id])
      else none
  | .defer => some (state.set id { call with frame := rest }, [.reset id])
  | .networks => some ({ state.set id { call with frame := rest } with networksLock := none }, [])
  | .lock =>
      some ({ state.set id { call with frame := rest } with runLock := none }, [.unlocked id])

def step (state : Shared) : CallAction → Option (Shared × List CallEvent)
  | .call id method =>
      if state.calls id = none then some (state.set id ⟨method, 0, [], false⟩, []) else none
  | .step id ok =>
      match state.calls id with
      | none => none
      | some call =>
          if call.unwinding then none
          else match call.method.body[call.pc]? with
            | none => none
            | some stmt => state.execute id call ok stmt
  | .alloc id =>
      match state.calls id with
      | none => none
      | some call =>
          if call.unwinding = false ∧ call.method.body[call.pc]? = some .awaitRoot then
            some ({ state with boxes := id :: state.boxes }, [.allocated id])
          else none
  | .drop id =>
      if 1 < state.boxes.count id then
        some ({ state with boxes := state.boxes.erase id }, [.dropped id])
      else none
  | .cancel id =>
      match state.calls id with
      | none => none
      | some call => if call.unwinding then none else some (state.stop id call, [])
  | .unwind id =>
      match state.calls id with
      | none => none
      | some call =>
          if call.unwinding then
            match call.frame with
            | [] => none
            | newest :: rest => state.release id call rest newest
          else none

def machine : Machine Shared CallAction CallEvent := ⟨step⟩

end Shared

end RsMatterStack
