import Fasttravel.Proto.Helpers

/-! Identifiers of `fasttravel_rt_services` and the internal messages of `cospace.rs`.
A `CospaceId` wraps a v4 uuid, kept here as a natural number; a `ClientId` is unique
within its cospace only. -/
namespace Fasttravel
open Proto

structure CospaceId where
  uuid : Nat
  deriving DecidableEq, Repr

theorem uuidNe {x y : CospaceId} (h : y ≠ x) : y.uuid ≠ x.uuid :=
  fun e => h (by cases x; cases y; cases e; rfl)

structure ClientId where
  id : UInt32
  cospace : CospaceId
  deriving DecidableEq, Repr

inductive Services
  | logging | function | core | presence | activity | model
  deriving DecidableEq, Repr

inductive ClientTopics
  | cospace (cospace : CospaceId)
  deriving DecidableEq, Repr

inductive ServiceTopics
  | default
  deriving DecidableEq, Repr

inductive ServiceMessageRecipient
  | client (client : ClientId)
  | broadcast (topic : ClientTopics)
  deriving DecidableEq, Repr

inductive ClientMessageRecipient
  | service (service : RealtimeService)
  | broadcast (topic : ServiceTopics)
  deriving DecidableEq, Repr

inductive MessagePayload
  | binary (bytes : ProtoBytes)
  | text (text : String)
  deriving DecidableEq, Repr

inductive ServiceMessageRoute
  | undefined
  | tell (recipient : ServiceMessageRecipient)
  | ask (client : ClientId)
  deriving DecidableEq, Repr

inductive ClientMessageRoute
  | undefined
  | tell (recipient : ClientMessageRecipient)
  | ask (service : RealtimeService)
  deriving DecidableEq, Repr

structure ServiceMessage where
  sender : RealtimeService
  route : ServiceMessageRoute
  payload : MessagePayload
  deriving DecidableEq, Repr

structure ClientMessage where
  route : ClientMessageRoute
  client : ClientId
  payload : MessagePayload
  deriving DecidableEq, Repr

inductive ClientConnectionMessage
  | connect (client : ClientId) (addr : Nat)
  | disconnect (client : ClientId)
  deriving DecidableEq, Repr

inductive WsMessage
  | text (text : String)
  | binary (bytes : ProtoBytes)
  | ping | pong | close
  deriving DecidableEq, Repr

def getServerServiceFromRealtimeService : RealtimeService → Services
  | .core => .core
  | .activity => .activity
  | .presence => .presence
  | .model => .model
  | _ => .logging

def getRealtimeServiceFromServerService : Services → RealtimeService
  | .core => .core
  | .presence => .presence
  | .activity => .activity
  | .model => .model
  | _ => .undefined

def Table (K V : Type) := K → Option V

namespace Table
variable {K V : Type}

def empty : Table K V := fun _ => none

@[simp] theorem emptyApply (j : K) : (empty : Table K V) j = none := rfl

variable [DecidableEq K]

def insert (t : Table K V) (k : K) (v : V) : Table K V := fun j => if j = k then some v else t j

def remove (t : Table K V) (k : K) : Table K V := fun j => if j = k then none else t j

@[simp] theorem insertSelf (t : Table K V) (k v) : t.insert k v k = some v := by simp [insert]

@[simp] theorem removeSelf (t : Table K V) (k) : t.remove k k = none := by simp [remove]

theorem insertNe (t : Table K V) {k j} (v) (h : j ≠ k) : t.insert k v j = t j := by simp [insert, h]

theorem removeNe (t : Table K V) {k j} (h : j ≠ k) : t.remove k j = t j := by simp [remove, h]

def KeysBelow (t : Table UInt32 V) (n : Nat) : Prop := ∀ k v, t k = some v → k.toNat < n

theorem KeysBelow.fresh {t : Table UInt32 V} {k : UInt32} (h : KeysBelow t k.toNat) : t k = none := by
  cases hk : t k
  · rfl
  · exact absurd (h k _ hk) (Nat.lt_irrefl _)

theorem KeysBelow.mono {t : Table UInt32 V} {n m : Nat} (h : KeysBelow t n) (le : n ≤ m) :
    KeysBelow t m := fun k v hk => Nat.lt_of_lt_of_le (h k v hk) le

theorem KeysBelow.insert {t : Table UInt32 V} {k : UInt32} {n : Nat} (h : KeysBelow t n) (v : V)
    (lt : k.toNat < n) : KeysBelow (t.insert k v) n := by
  intro j w hj
  by_cases e : j = k
  · exact e ▸ lt
  · exact h j w (by rwa [insertNe t v e] at hj)

theorem KeysBelow.remove {t : Table UInt32 V} {n : Nat} (h : KeysBelow t n) (k : UInt32) :
    KeysBelow (t.remove k) n := by
  intro j w hj
  by_cases e : j = k
  · simp [e] at hj
  · exact h j w (by rwa [removeNe t e] at hj)

end Table

theorem succToNat {c : UInt32} (h : c.toNat + 1 < UInt32.size) : (c + 1).toNat = c.toNat + 1 := by
  have : (c + 1).toNat = (c.toNat + 1) % UInt32.size := by
    simp [UInt32.add_def, UInt32.toNat, BitVec.toNat_add, UInt32.size]
  rw [this, Nat.mod_eq_of_lt h]

theorem succToNatLe (c : UInt32) : (c + 1).toNat ≤ c.toNat + 1 := by
  by_cases h : c.toNat + 1 < UInt32.size
  · rw [succToNat h]
  · have := (c + 1).toNat_lt_size
    omega

end Fasttravel
