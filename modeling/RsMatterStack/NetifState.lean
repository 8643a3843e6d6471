import RsMatterStack.BoundedVec
import RsMatterStack.Transition

set_option autoImplicit false

/-! The network interface that mDNS follows: `NetifState` and `load_netif_state`. -/

namespace RsMatterStack

open Transition (Everywhere)

abbrev Ipv4Addr := BitVec 32

abbrev Ipv6Addr := BitVec 128

def Ipv4Addr.unspecified : Ipv4Addr := 0

def Ipv6Addr.isUnspecified (addr : Ipv6Addr) : Bool := addr == 0

def maxNetifIpv6Addrs : Nat := 4

/-- What `NetifDiag` tells of one network interface. -/
structure NetifInfo where
  operational : Bool
  hwAddr : Vector UInt8 8
  ipv4Addrs : List Ipv4Addr
  ipv6Addrs : List Ipv6Addr
  netifIndex : UInt32
deriving DecidableEq, Repr

/-- A call of `netifs`: the interfaces it visits, and how it ends. -/
structure NetifDiag (Error : Type) where
  visited : List NetifInfo
  result : Except Error Unit

structure NetifState where
  ipv6 : BoundedVec Ipv6Addr maxNetifIpv6Addrs
  ipv4 : Ipv4Addr
  mac : Vector UInt8 8
  operational : Bool
  netifIndex : UInt32
deriving DecidableEq, Repr

def NetifInfo.qualifies (netif : NetifInfo) : Bool :=
  netif.operational && !netif.ipv6Addrs.isEmpty

namespace NetifState

variable {Error : Type}

def new : NetifState where
  ipv6 := .empty
  ipv4 := .unspecified
  mac := .replicate 8 0
  operational := false
  netifIndex := 0

/-- The closure that `load_netif_state` hands to `netifs`. -/
def visit (state : NetifState) (netif : NetifInfo) : NetifState :=
  if netif.qualifies then
    { state with
      operational := true
      ipv6 := BoundedVec.empty.extendNew Ipv6Addr.isUnspecified netif.ipv6Addrs
      ipv4 := netif.ipv4Addrs.head?.getD .unspecified
      mac := netif.hwAddr
      netifIndex := netif.netifIndex }
  else state

/-- `load_netif_state`: the state it leaves, and its result. -/
def load (state : NetifState) (diag : NetifDiag Error) : NetifState × Except Error Unit :=
  -- The index of the interface stays
  let cleared := { state with
    operational := false
    ipv6 := .empty
    ipv4 := .unspecified
    mac := .replicate 8 0 }
  (diag.visited.foldl visit cleared, diag.result)

/-- The state of one interface alone. -/
def ofNetif (netif : NetifInfo) : NetifState where
  ipv6 := BoundedVec.empty.extendNew Ipv6Addr.isUnspecified netif.ipv6Addrs
  ipv4 := netif.ipv4Addrs.head?.getD .unspecified
  mac := netif.hwAddr
  operational := true
  netifIndex := netif.netifIndex

end NetifState

/-- The last interface visited that is operational and has IPv6 addresses. -/
def NetifDiag.picked {Error : Type} (diag : NetifDiag Error) : Option NetifInfo :=
  (diag.visited.filter NetifInfo.qualifies).getLast?

theorem NetifDiag.picked_split {Error : Type} {diag : NetifDiag Error} {netif : NetifInfo}
    (picked : diag.picked = some netif) :
    ∃ before after, diag.visited = before ++ netif :: after ∧ netif.qualifies = true ∧
      ∀ later ∈ after, later.qualifies = false := by
  obtain ⟨earlier, filtered⟩ := List.getLast?_eq_some_iff.mp picked
  obtain ⟨front, back, visited, _, last⟩ := List.filter_eq_append_iff.mp filtered
  obtain ⟨skipped, after, rfl, _, qualifies, rest⟩ := List.filter_eq_cons_iff.mp last
  refine ⟨front ++ skipped, after, by simp [visited], qualifies, ?_⟩
  intro later member
  exact Bool.not_eq_true _ ▸ List.filter_eq_nil_iff.mp rest later member

theorem NetifDiag.picked_isSome {Error : Type} {diag : NetifDiag Error} :
    diag.picked.isSome = true ↔ ∃ netif ∈ diag.visited, netif.qualifies = true := by
  rw [picked, List.getLast?_isSome]
  simp [List.filter_eq_nil_iff]

namespace NetifState

variable {Error : Type}

theorem visit_qualifying {netif : NetifInfo} (state : NetifState)
    (qualifies : netif.qualifies = true) : state.visit netif = ofNetif netif := by
  rw [visit, if_pos qualifies]
  rfl

theorem visit_other {netif : NetifInfo} (state : NetifState)
    (other : netif.qualifies = false) : state.visit netif = state := by
  rw [visit, if_neg (by simp [other])]

theorem foldl_visit (visited : List NetifInfo) (state : NetifState) :
    visited.foldl visit state =
      ((visited.filter NetifInfo.qualifies).getLast?.map ofNetif).getD state := by
  induction visited generalizing state with
  | nil => rfl
  | cons netif rest ih =>
      rw [List.foldl_cons, ih]
      cases qualifies : netif.qualifies with
      | false =>
          rw [visit_other state qualifies, List.filter_cons_of_neg (by simp [qualifies])]
      | true =>
          rw [visit_qualifying state qualifies, List.filter_cons_of_pos qualifies,
            List.getLast?_cons]
          cases (rest.filter NetifInfo.qualifies).getLast? with
          | none => rfl
          | some last => rfl

/-- A load takes over one interface, or nothing; then only the index is left. -/
theorem load_eq (state : NetifState) (diag : NetifDiag Error) :
    (state.load diag).1 =
      (diag.picked.map ofNetif).getD { new with netifIndex := state.netifIndex } :=
  foldl_visit diag.visited _

/-- All of the state is that of one interface. -/
structure IsWhole (state : NetifState) (netif : NetifInfo) : Prop where
  operational : state.operational = true
  ipv6 : state.ipv6.items =
    ((netif.ipv6Addrs.filter fun addr => !addr.isUnspecified).eraseDups).take maxNetifIpv6Addrs
  ipv4 : state.ipv4 = netif.ipv4Addrs.head?.getD .unspecified
  mac : state.mac = netif.hwAddr
  netifIndex : state.netifIndex = netif.netifIndex

theorem ofNetif_isWhole (netif : NetifInfo) : IsWhole (ofNetif netif) netif :=
  ⟨rfl, BoundedVec.extendNew_empty _ _, rfl, rfl, rfl⟩

/-- Whatever the state was before, a load that visits qualifying interfaces leaves it with
exactly the last of them. -/
theorem load_picks_last (state : NetifState) (diag : NetifDiag Error)
    (qualifying : ∃ netif ∈ diag.visited, netif.qualifies = true) :
    ∃ before netif after, diag.visited = before ++ netif :: after ∧ netif.qualifies = true ∧
      (∀ later ∈ after, later.qualifies = false) ∧ IsWhole (state.load diag).1 netif := by
  obtain ⟨netif, picked⟩ := Option.isSome_iff_exists.mp (NetifDiag.picked_isSome.mpr qualifying)
  obtain ⟨before, after, visited, qualifies, others⟩ := NetifDiag.picked_split picked
  refine ⟨before, netif, after, visited, qualifies, others, ?_⟩
  rw [load_eq, picked]
  exact ofNetif_isWhole netif

/-- An interface with a repeated and an unspecified address, and one address more than there
is room for. -/
def crowded : NetifInfo := ⟨true, .replicate 8 1, [], [5, 5, 0, 1, 2, 3, 4], 3⟩

/-- An interface that is up without any address of its own. -/
def addressless : NetifInfo := ⟨true, .replicate 8 2, [], [0], 7⟩

/-- The state of an interface without addresses gives way to the one visited after it. -/
theorem load_picks_last_crowded :
    ∃ before netif after, [addressless, crowded] = before ++ netif :: after ∧
      netif.qualifies = true ∧ (∀ later ∈ after, later.qualifies = false) ∧
      IsWhole ((ofNetif addressless).load (⟨[addressless, crowded], .ok ()⟩ : NetifDiag Unit)).1
        netif :=
  load_picks_last _ (⟨[addressless, crowded], .ok ()⟩ : NetifDiag Unit)
    ⟨crowded, by simp, by decide⟩

example : (ofNetif crowded).ipv6.items = [5, 1, 2, 3] := by decide

/-- The states loaded one after another. -/
def loadAll (state : NetifState) (diags : List (NetifDiag Error)) : NetifState :=
  diags.foldl (fun state diag => (state.load diag).1) state

/-- Up means something to advertise, and down means nothing left. -/
structure Canonical (state : NetifState) : Prop where
  operational : state.operational = true ↔ state.ipv6.items ≠ []
  down : state.operational = false → state = new

/-- The state after one more load, if that is successful. -/
def CanonicalAfter (before : List (NetifDiag Error)) (diag : NetifDiag Error) : Prop :=
  diag.result = .ok () → Canonical (loadAll new (before ++ [diag]))

/-- The index of the last interface picked, zero if there was none. -/
def lastIndex (diags : List (NetifDiag Error)) : UInt32 :=
  diags.foldl (fun index diag => (diag.picked.map NetifInfo.netifIndex).getD index) 0

/-- The interface picked has an address to advertise; and if none is picked, the last one
picked before had index zero. -/
def LeavesNothing (before : List (NetifDiag Error)) (diag : NetifDiag Error) : Prop :=
  diag.result = .ok () →
    match diag.picked with
    | some netif => ∃ addr ∈ netif.ipv6Addrs, addr.isUnspecified = false
    | none => lastIndex before = 0

theorem load_netifIndex (state : NetifState) (diag : NetifDiag Error) :
    (state.load diag).1.netifIndex =
      (diag.picked.map NetifInfo.netifIndex).getD state.netifIndex := by
  rw [load_eq]
  cases diag.picked with
  | none => rfl
  | some netif => rfl

theorem loadAll_netifIndex (diags : List (NetifDiag Error)) (state : NetifState) :
    (loadAll state diags).netifIndex =
      diags.foldl (fun index diag => (diag.picked.map NetifInfo.netifIndex).getD index)
        state.netifIndex := by
  induction diags generalizing state with
  | nil => rfl
  | cons diag rest ih =>
      rw [loadAll, List.foldl_cons, List.foldl_cons, ← load_netifIndex]
      exact ih _

theorem loadAll_concat (state : NetifState) (before : List (NetifDiag Error))
    (diag : NetifDiag Error) :
    loadAll state (before ++ [diag]) = ((loadAll state before).load diag).1 := by
  simp only [loadAll, List.foldl_append, List.foldl_cons, List.foldl_nil]

theorem ofNetif_canonical (netif : NetifInfo) :
    Canonical (ofNetif netif) ↔ ∃ addr ∈ netif.ipv6Addrs, addr.isUnspecified = false := by
  have taken : (ofNetif netif).ipv6.items = [] ↔
      ∀ addr ∈ netif.ipv6Addrs, addr.isUnspecified = true :=
    BoundedVec.extendNew_eq_nil _ _ (by decide)
  constructor
  · intro canonical
    have advertised := canonical.operational.mp rfl
    rw [Ne, taken] at advertised
    simpa using advertised
  · rintro ⟨addr, member, specified⟩
    refine ⟨⟨fun _ nothing => ?_, fun _ => rfl⟩, fun down => by cases down⟩
    have skipped := taken.mp nothing addr member
    rw [specified] at skipped
    cases skipped

theorem cleared_canonical (index : UInt32) :
    Canonical { new with netifIndex := index } ↔ index = 0 := by
  constructor
  · intro canonical
    exact congrArg netifIndex (canonical.down rfl)
  · rintro rfl
    exact ⟨by decide, fun _ => rfl⟩

theorem canonicalAfter_iff (before : List (NetifDiag Error)) (diag : NetifDiag Error) :
    CanonicalAfter before diag ↔ LeavesNothing before diag := by
  unfold CanonicalAfter LeavesNothing
  rw [loadAll_concat, load_eq, loadAll_netifIndex]
  cases diag.picked with
  | none => exact imp_congr_right fun _ => cleared_canonical _
  | some netif => exact imp_congr_right fun _ => ofNetif_canonical netif

/-- Every successful load leaves a canonical state exactly if every one picks an interface
with an address to advertise, or picks none after one with index zero. -/
theorem loads_canonical_iff (diags : List (NetifDiag Error)) :
    Everywhere CanonicalAfter diags ↔ Everywhere LeavesNothing diags := by
  constructor
  · exact fun all => all.imp (fun before diag => (canonicalAfter_iff before diag).mp)
  · exact fun all => all.imp (fun before diag => (canonicalAfter_iff before diag).mpr)

/-- Once an interface has gone down its index is left, and an interface without addresses
of its own counts as up. -/
theorem leftovers_not_canonical :
    ¬ Everywhere CanonicalAfter
      ([⟨[crowded], .ok ()⟩, ⟨[], .ok ()⟩] : List (NetifDiag Unit)) ∧
    ¬ Everywhere CanonicalAfter ([⟨[addressless], .ok ()⟩] : List (NetifDiag Unit)) := by
  constructor
  · intro all
    have down := (all [_] _ [] rfl rfl).down (by decide)
    have index : (3 : UInt32) = 0 := congrArg netifIndex down
    cases index
  · intro all
    exact (all [] _ [] rfl rfl).operational.mp (by decide) (by decide)

end NetifState

end RsMatterStack
