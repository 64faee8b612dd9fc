import Mathlib.Data.List.AList
import Fasttravel.Server.ClientConnection

/-! Routing of service messages to client connections across the cluster: the
`ServiceExecutionContext` of `service_actor.rs`, the `CospaceActor` handlers of
`cospace_actor.rs`, the `CreateCospaceActorMessage` handler of the `CospaceNodeManager`
(`cospace_manager.rs`), and client registration (`create_client_actor` and
`handle_on_upgrade`). Actors are addressed by their index in the cluster's lists; each
event is one handler run by one actor. `Disconnect` is handled though nothing sends it yet,
and `connect` may repeat: both only add runs. The reachable clusters are those whose cospace
uuids are fresh and whose cospaces generate fewer than `2^32 - 1` client ids, the `u32`
counter wrapping as in a release build. -/
namespace Fasttravel
open Proto

inductive ServiceAllocation
  | dedicated (cospace : Nat)
  | shared (nodeManager : Nat)
  deriving DecidableEq, Repr

structure ServicePool where
  allocation : ServiceAllocation
  received : List ClientId := []
  deriving DecidableEq, Repr

inductive SpawnConfig
  | dedicated
  | shared (services : Nat)
  deriving DecidableEq, Repr

structure CospaceNodeManager where
  configSpawn : SpawnConfig
  cospaces : Table Nat Nat := Table.empty

structure CospaceActor where
  cospace : CospaceId
  clientIdCounter : UInt32
  services : Nat
  clients : AList (fun _ : UInt32 => Nat)

namespace CospaceActor

def new (cospace : CospaceId) (services : Nat) : CospaceActor := ⟨cospace, 1, services, ∅⟩

def handleGenerateClientId (a : CospaceActor) : CospaceActor × ClientId :=
  ({ a with clientIdCounter := a.clientIdCounter + 1 }, ⟨a.clientIdCounter, a.cospace⟩)

def handleConnect (a : CospaceActor) (client : ClientId) (addr : Nat) : CospaceActor :=
  { a with clients := a.clients.insert client.id addr }

def handleDisconnect (a : CospaceActor) (client : ClientId) : CospaceActor :=
  { a with clients := a.clients.erase client.id }

def handleServiceMessage (a : CospaceActor) (msg : ServiceMessage) : List Nat :=
  match msg.route with
  | .tell (.client client) => (a.clients.lookup client.id).toList
  | .tell (.broadcast _) => a.clients.entries.map Sigma.snd
  | .ask client => (a.clients.lookup client.id).toList
  | .undefined => []

end CospaceActor

structure Connection where
  actor : ClientConnectionActor
  cospaceAddr : Nat

structure Cluster where
  nodeManagers : List CospaceNodeManager := []
  cospaceActors : List CospaceActor := []
  pools : List ServicePool := []
  connections : List Connection := []

namespace Cluster

def init : Cluster := {}

def dedicatedNodeManager (cl : Cluster) : Cluster :=
  { cl with nodeManagers := cl.nodeManagers ++ [⟨.dedicated, Table.empty⟩] }

def sharedNodeManager (cl : Cluster) : Cluster :=
  { cl with nodeManagers := cl.nodeManagers ++ [⟨.shared cl.pools.length, Table.empty⟩],
            pools := cl.pools ++ [⟨.shared cl.nodeManagers.length, []⟩] }

def createCospaceActor (cl : Cluster) (m : Nat) (mgr : CospaceNodeManager)
    (cospaceId : CospaceId) : Cluster :=
  let addr := cl.cospaceActors.length
  let mgr := { mgr with cospaces := mgr.cospaces.insert cospaceId.uuid addr }
  match mgr.configSpawn with
  | .shared services =>
    { cl with cospaceActors := cl.cospaceActors ++ [.new cospaceId services],
              nodeManagers := cl.nodeManagers.set m mgr }
  | .dedicated =>
    { cl with cospaceActors := cl.cospaceActors ++ [.new cospaceId cl.pools.length],
              pools := cl.pools ++ [⟨.dedicated addr, []⟩],
              nodeManagers := cl.nodeManagers.set m mgr }

def toServices (cl : Cluster) (p : Nat) (client : ClientId) : Cluster :=
  let notify := fun (pool : ServicePool) => { pool with received := pool.received ++ [client] }
  { cl with pools := cl.pools.modify notify p }

def createClientActor (cl : Cluster) (y : Nat) (a : CospaceActor) : Cluster :=
  let r := a.handleGenerateClientId
  { cl with cospaceActors := cl.cospaceActors.set y r.1,
            connections := cl.connections ++ [⟨ClientConnectionActor.new r.2, y⟩] }

def connect (cl : Cluster) (i : Nat) (conn : Connection) (a : CospaceActor) : Cluster :=
  let a' := a.handleConnect conn.actor.clientId i
  ({ cl with cospaceActors := cl.cospaceActors.set conn.cospaceAddr a' }).toServices
    a.services conn.actor.clientId

def disconnect (cl : Cluster) (conn : Connection) (a : CospaceActor) : Cluster :=
  { cl with cospaceActors :=
      cl.cospaceActors.set conn.cospaceAddr (a.handleDisconnect conn.actor.clientId) }

inductive Event
  | dedicatedNodeManager
  | sharedNodeManager
  | createCospaceActor (nodeManager : Nat) (cospaceId : CospaceId)
  | createClientActor (cospace : Nat)
  | connect (connection : Nat)
  | disconnect (connection : Nat)
  | clientMessage (connection : Nat)
  deriving DecidableEq, Repr

def attached (cl : Cluster) (i : Nat) : Option (Connection × CospaceActor) :=
  (cl.connections[i]?).bind fun conn => (cl.cospaceActors[conn.cospaceAddr]?).map (conn, ·)

def step (cl : Cluster) : Event → Cluster
  | .dedicatedNodeManager => cl.dedicatedNodeManager
  | .sharedNodeManager => cl.sharedNodeManager
  | .createCospaceActor m x =>
    match cl.nodeManagers[m]? with
    | some mgr => cl.createCospaceActor m mgr x
    | none => cl
  | .createClientActor y =>
    match cl.cospaceActors[y]? with
    | some a => cl.createClientActor y a
    | none => cl
  | .connect i =>
    match cl.attached i with
    | some (conn, a) => cl.connect i conn a
    | none => cl
  | .disconnect i =>
    match cl.attached i with
    | some (conn, a) => cl.disconnect conn a
    | none => cl
  | .clientMessage i =>
    match cl.attached i with
    | some (conn, a) => cl.toServices a.services conn.actor.clientId
    | none => cl

def admissible (cl : Cluster) : Event → Bool
  | .createCospaceActor _ x => cl.cospaceActors.all fun a => a.cospace ≠ x
  | .createClientActor y =>
    (cl.cospaceActors[y]?).all fun a => a.clientIdCounter.toNat + 1 < UInt32.size
  | _ => true

inductive Reachable : Cluster → Prop
  | init : Reachable init
  | step {cl : Cluster} {e : Event} : Reachable cl → cl.admissible e → Reachable (cl.step e)

end Cluster

structure ServiceExecutionContext where
  sType : Services
  allocation : ServiceAllocation

namespace ServiceExecutionContext

def cospaceAddr (cx : ServiceExecutionContext) (cl : Cluster)
    (recipient : ServiceMessageRecipient) : Option Nat :=
  match cx.allocation with
  | .dedicated addr => some addr
  | .shared m =>
    let key := match recipient with
      | .client client => client.cospace.uuid
      | .broadcast (.cospace cospace) => cospace.uuid
    (cl.nodeManagers[m]?).bind fun mgr => mgr.cospaces key

def send (cx : ServiceExecutionContext) (cl : Cluster) (recipient : ServiceMessageRecipient)
    (msg : ServiceMessage) : List Nat :=
  match cx.cospaceAddr cl recipient with
  | some addr => ((cl.cospaceActors[addr]?).map fun a => a.handleServiceMessage msg).getD []
  | none => []

def tellText (cx : ServiceExecutionContext) (cl : Cluster) (recipient : ServiceMessageRecipient)
    (text : String) : List Nat :=
  cx.send cl recipient ⟨getRealtimeServiceFromServerService cx.sType, .tell recipient, .text text⟩

def tellEncoded (cx : ServiceExecutionContext) (cl : Cluster) (recipient : ServiceMessageRecipient)
    (bytes : ProtoBytes) : List Nat :=
  cx.send cl recipient
    ⟨getRealtimeServiceFromServerService cx.sType, .tell recipient, .binary bytes⟩

def askEncoded (cx : ServiceExecutionContext) (cl : Cluster) (client : ClientId)
    (bytes : ProtoBytes) : List Nat :=
  cx.send cl (.client client)
    ⟨getRealtimeServiceFromServerService cx.sType, .ask client, .binary bytes⟩

end ServiceExecutionContext

/-! ### Lists of actors: lookups after an append, a `set` or a `modify` -/

section Lists
variable {α β : Type} {l : List α} {x a b : α} {i j : Nat}

theorem getElem?ConcatSome :
    (l ++ [x])[j]? = some b ↔ l[j]? = some b ∨ (j = l.length ∧ x = b) := by
  rcases Nat.lt_trichotomy j l.length with h | h | h
  · simp [List.getElem?_append_left h, h.ne]
  · subst h; simp
  · have : [x].length ≤ j - l.length := by simp; omega
    simp [List.getElem?_append_right h.le, List.getElem?_eq_none h.le, h.ne',
      List.getElem?_eq_none this]

theorem getElem?ConcatOld (h : l[j]? = some b) : (l ++ [x])[j]? = some b :=
  getElem?ConcatSome.mpr (.inl h)

theorem getElem?SetSome :
    (l.set i a)[j]? = some b ↔ (j = i ∧ i < l.length ∧ a = b) ∨ (j ≠ i ∧ l[j]? = some b) := by
  rw [List.getElem?_set]
  by_cases h : i = j
  · subst h; by_cases lt : i < l.length <;> simp [lt]
  · simp [h, Ne.symm h]

theorem getElem?ModifySome (f : α → α) :
    (l.modify f i)[j]? = some b ↔ ∃ b0, l[j]? = some b0 ∧ (if i = j then f b0 else b0) = b := by
  rw [List.getElem?_modify]; cases l[j]? <;> simp

theorem mapSetSame (f : α → β) (ha : l[i]? = some a) (same : f x = f a) :
    (l.set i x).map f = l.map f := by
  apply List.ext_getElem?; intro j
  rw [List.getElem?_map, List.getElem?_map, List.getElem?_set]
  by_cases h : i = j
  · subst h; simp [ha, same, (List.getElem?_eq_some_iff.mp ha).1]
  · simp [h]

theorem mapModifySame (f : α → β) (g : α → α) (same : ∀ a, f (g a) = f a) :
    (l.modify g i).map f = l.map f := by
  apply List.ext_getElem?; intro j
  rw [List.getElem?_map, List.getElem?_map, List.getElem?_modify]
  cases l[j]? <;> simp; split <;> simp [same]

end Lists

namespace Cluster

def homes (cl : Cluster) : List (CospaceId × Nat) := cl.cospaceActors.map fun a => (a.cospace, a.services)

def allocations (cl : Cluster) : List ServiceAllocation := cl.pools.map ServicePool.allocation

theorem homesSome {cl : Cluster} {y : Nat} {a : CospaceActor} (h : cl.cospaceActors[y]? = some a) :
    cl.homes[y]? = some (a.cospace, a.services) := by
  simp [homes, h]

structure Wiring (homes : List (CospaceId × Nat)) (allocations : List ServiceAllocation)
    (managers : List CospaceNodeManager) : Prop where
  pool : ∀ {y : Nat} {x : CospaceId} {p : Nat}, homes[y]? = some (x, p) → allocations[p]? = some (.dedicated y) ∨
    ∃ m mgr, allocations[p]? = some (.shared m) ∧ managers[m]? = some mgr ∧
      mgr.cospaces x.uuid = some y
  managerPool : ∀ {m : Nat} {mgr : CospaceNodeManager} {p : Nat}, managers[m]? = some mgr → mgr.configSpawn = .shared p →
    allocations[p]? = some (.shared m)
  map : ∀ {m : Nat} {mgr : CospaceNodeManager} {u y : Nat}, managers[m]? = some mgr → mgr.cospaces u = some y →
    ∃ x p, homes[y]? = some (x, p) ∧ x.uuid = u
  distinct : ∀ {y y' : Nat} {x : CospaceId} {p p' : Nat}, homes[y]? = some (x, p) → homes[y']? = some (x, p') → y = y'

structure Wired (cl : Cluster) : Prop where
  wiring : Wiring cl.homes cl.allocations cl.nodeManagers
  clients : ∀ {y : Nat} {a : CospaceActor} {k : UInt32} {i : Nat}, cl.cospaceActors[y]? = some a →
    a.clients.lookup k = some i →
    ∃ conn, cl.connections[i]? = some conn ∧ conn.actor.clientId = ⟨k, a.cospace⟩
  connection : ∀ {i : Nat} {conn : Connection}, cl.connections[i]? = some conn →
    ∃ a, cl.cospaceActors[conn.cospaceAddr]? = some a ∧ conn.actor.clientId.cospace = a.cospace ∧
      conn.actor.clientId.id.toNat < a.clientIdCounter.toNat
  ids : (cl.connections.map fun conn => conn.actor.clientId).Nodup
  received : ∀ {p : Nat} {pool : ServicePool} {c : ClientId}, cl.pools[p]? = some pool →
    c ∈ pool.received → ∃ y : Nat, cl.homes[y]? = some (c.cospace, p)

theorem wiredInit : Wired init where
  wiring := ⟨by simp [homes, init], by simp [init], by simp [init], by simp [homes, init]⟩
  clients := by simp [init]
  connection := by simp [init]
  ids := List.nodup_nil
  received := by simp [init]

theorem Wiring.create {homes : List (CospaceId × Nat)} {allocs allocs' : List ServiceAllocation}
    {managers : List CospaceNodeManager} (w : Wiring homes allocs managers) {m : Nat}
    {mgr : CospaceNodeManager} {x : CospaceId} {pNew : Nat} (hm : managers[m]? = some mgr)
    (fresh : ∀ h ∈ homes, h.1 ≠ x)
    (old : ∀ {p : Nat} {a : ServiceAllocation}, allocs[p]? = some a → allocs'[p]? = some a)
    (new : allocs'[pNew]? = some (.dedicated homes.length) ∨ mgr.configSpawn = .shared pNew) :
    Wiring (homes ++ [(x, pNew)]) allocs'
      (managers.set m { mgr with cospaces := mgr.cospaces.insert x.uuid homes.length }) := by
  have lt : m < managers.length := (List.getElem?_eq_some_iff.mp hm).1
  have setSelf : (managers.set m { mgr with cospaces := mgr.cospaces.insert x.uuid homes.length })[m]? =
      some { mgr with cospaces := mgr.cospaces.insert x.uuid homes.length } := List.getElem?_set_self lt
  refine ⟨?pool, ?managerPool, ?map, ?distinct⟩
  case pool =>
    intro y x' p h
    rcases getElem?ConcatSome.mp h with h | ⟨rfl, he⟩
    · have ne : x'.uuid ≠ x.uuid := uuidNe (fresh _ (List.getElem?_mem h))
      rcases w.pool h with d | ⟨m0, mgr0, ha, hm0, hu⟩
      · exact .inl (old d)
      · refine .inr ⟨m0, ?_⟩
        by_cases e : m0 = m
        · subst e; cases hm.symm.trans hm0
          exact ⟨_, old ha, setSelf, (Table.insertNe _ _ ne).trans hu⟩
        · exact ⟨mgr0, old ha, by rwa [List.getElem?_set_ne (Ne.symm e)], hu⟩
    · cases he
      rcases new with d | hc
      · exact .inl d
      · exact .inr ⟨m, _, old (w.managerPool hm hc), setSelf, Table.insertSelf _ _ _⟩
  case managerPool =>
    intro m' mgr' p hm' hc
    rcases getElem?SetSome.mp hm' with ⟨rfl, -, rfl⟩ | ⟨-, hm'⟩
    · exact old (w.managerPool hm hc)
    · exact old (w.managerPool hm' hc)
  case map =>
    intro m' mgr' u y hm' hu
    rcases getElem?SetSome.mp hm' with ⟨rfl, -, rfl⟩ | ⟨-, hm'⟩
    · by_cases e : u = x.uuid
      · subst e
        cases (Table.insertSelf _ _ _).symm.trans hu
        exact ⟨x, pNew, by simp, rfl⟩
      · obtain ⟨x', p, h, hx⟩ := w.map hm ((Table.insertNe _ _ e).symm.trans hu)
        exact ⟨x', p, getElem?ConcatOld h, hx⟩
    · obtain ⟨x', p, h, hx⟩ := w.map hm' hu
      exact ⟨x', p, getElem?ConcatOld h, hx⟩
  case distinct =>
    intro y y' x' p p' h h'
    rcases getElem?ConcatSome.mp h with h | ⟨rfl, he⟩ <;>
      rcases getElem?ConcatSome.mp h' with h' | ⟨rfl, he'⟩
    · exact w.distinct h h'
    · cases he'; exact absurd rfl (fresh _ (List.getElem?_mem h))
    · cases he; exact absurd rfl (fresh _ (List.getElem?_mem h'))
    · rfl

section Events
variable {cl : Cluster}

theorem attachedSome {i : Nat} {conn : Connection} {a : CospaceActor}
    (h : cl.attached i = some (conn, a)) :
    cl.connections[i]? = some conn ∧ cl.cospaceActors[conn.cospaceAddr]? = some a := by
  simp only [attached, Option.bind_eq_some, Option.map_eq_some'] at h
  obtain ⟨conn', hc, a', ha, e⟩ := h
  cases e
  exact ⟨hc, ha⟩

theorem Wired.dedicatedNodeManager (w : Wired cl) : Wired cl.dedicatedNodeManager where
  wiring :=
    { pool := fun h => (w.wiring.pool h).imp_right
        fun ⟨m, mgr, ha, hm, hu⟩ => ⟨m, mgr, ha, getElem?ConcatOld hm, hu⟩
      managerPool := fun hm hc => by
        rcases getElem?ConcatSome.mp hm with hm | ⟨-, rfl⟩
        · exact w.wiring.managerPool hm hc
        · cases hc
      map := fun hm hu => by
        rcases getElem?ConcatSome.mp hm with hm | ⟨-, rfl⟩
        · exact w.wiring.map hm hu
        · simp at hu
      distinct := w.wiring.distinct }
  clients := w.clients
  connection := w.connection
  ids := w.ids
  received := w.received

theorem Wired.sharedNodeManager (w : Wired cl) : Wired cl.sharedNodeManager := by
  have alloc : cl.sharedNodeManager.allocations =
      cl.allocations ++ [.shared cl.nodeManagers.length] := by
    simp [allocations, Cluster.sharedNodeManager]
  refine ⟨⟨?pool, ?managerPool, ?map, w.wiring.distinct⟩, w.clients, w.connection, w.ids, ?received⟩
  case pool =>
    intro y x p h
    rw [alloc]
    exact (w.wiring.pool h).imp getElem?ConcatOld
      fun ⟨m, mgr, ha, hm, hu⟩ => ⟨m, mgr, getElem?ConcatOld ha, getElem?ConcatOld hm, hu⟩
  case managerPool =>
    intro m mgr p hm hc
    rw [alloc]
    rcases getElem?ConcatSome.mp hm with hm | ⟨rfl, rfl⟩
    · exact getElem?ConcatOld (w.wiring.managerPool hm hc)
    · cases hc
      exact getElem?ConcatSome.mpr (.inr ⟨by simp [allocations], rfl⟩)
  case map =>
    intro m mgr u y hm hu
    rcases getElem?ConcatSome.mp hm with hm | ⟨-, rfl⟩
    · exact w.wiring.map hm hu
    · simp at hu
  case received =>
    intro p pool c hp hc
    rcases getElem?ConcatSome.mp hp with hp | ⟨-, rfl⟩
    · exact w.received hp hc
    · simp at hc

theorem Wired.appendCospace (w : Wired cl) (x : CospaceId) (p : Nat) :
    (∀ {y : Nat} {a : CospaceActor} {k : UInt32} {i : Nat},
      (cl.cospaceActors ++ [.new x p])[y]? = some a → a.clients.lookup k = some i →
      ∃ conn, cl.connections[i]? = some conn ∧ conn.actor.clientId = ⟨k, a.cospace⟩) ∧
    (∀ {i : Nat} {conn : Connection}, cl.connections[i]? = some conn →
      ∃ a, (cl.cospaceActors ++ [.new x p])[conn.cospaceAddr]? = some a ∧
        conn.actor.clientId.cospace = a.cospace ∧
        conn.actor.clientId.id.toNat < a.clientIdCounter.toNat) := by
  refine ⟨fun h hk => ?_, fun hc => ?_⟩
  · rcases getElem?ConcatSome.mp h with h | ⟨-, rfl⟩
    · exact w.clients h hk
    · simp [CospaceActor.new] at hk
  · obtain ⟨a, ha, rest⟩ := w.connection hc
    exact ⟨a, getElem?ConcatOld ha, rest⟩

theorem Wired.createCospaceActor (w : Wired cl) {m : Nat} {mgr : CospaceNodeManager}
    {x : CospaceId} (hm : cl.nodeManagers[m]? = some mgr)
    (fresh : ∀ a ∈ cl.cospaceActors, a.cospace ≠ x) : Wired (cl.createCospaceActor m mgr x) := by
  have fresh' : ∀ h ∈ cl.homes, h.1 ≠ x := by
    simp only [homes, List.mem_map]; rintro _ ⟨a, ha, rfl⟩; exact fresh a ha
  have len : cl.homes.length = cl.cospaceActors.length := by simp [homes]
  cases hc : mgr.configSpawn with
  | shared p =>
    obtain ⟨clients, connection⟩ := w.appendCospace x p
    have wiring := w.wiring.create hm fresh' (fun h => h) (.inr hc)
    rw [len, hc] at wiring
    have hH : (cl.createCospaceActor m mgr x).homes = cl.homes ++ [(x, p)] := by
      simp [Cluster.createCospaceActor, hc, homes, CospaceActor.new]
    simp only [Cluster.createCospaceActor, hc] at hH ⊢
    refine ⟨hH ▸ wiring, clients, connection, w.ids, fun hp hr => ?_⟩
    obtain ⟨y, hy⟩ := w.received hp hr
    exact ⟨y, hH ▸ getElem?ConcatOld hy⟩
  | dedicated =>
    obtain ⟨clients, connection⟩ := w.appendCospace x cl.pools.length
    have old : ∀ {p : Nat} {a : ServiceAllocation}, cl.allocations[p]? = some a →
        (cl.allocations ++ [.dedicated cl.cospaceActors.length])[p]? = some a := getElem?ConcatOld
    have new : (cl.allocations ++ [.dedicated cl.cospaceActors.length])[cl.pools.length]? =
        some (.dedicated cl.homes.length) :=
      getElem?ConcatSome.mpr (.inr ⟨by simp [allocations], by rw [len]⟩)
    have wiring := w.wiring.create hm fresh' old (.inl new)
    rw [len, hc] at wiring
    have hH : (cl.createCospaceActor m mgr x).homes = cl.homes ++ [(x, cl.pools.length)] := by
      simp [Cluster.createCospaceActor, hc, homes, CospaceActor.new]
    have hA : (cl.createCospaceActor m mgr x).allocations =
        cl.allocations ++ [.dedicated cl.cospaceActors.length] := by
      simp [Cluster.createCospaceActor, hc, allocations]
    simp only [Cluster.createCospaceActor, hc] at hH hA ⊢
    refine ⟨hH ▸ hA ▸ wiring, clients, connection, w.ids, fun hp hr => ?_⟩
    rcases getElem?ConcatSome.mp hp with hp | ⟨-, rfl⟩
    · obtain ⟨y, hy⟩ := w.received hp hr
      exact ⟨y, hH ▸ getElem?ConcatOld hy⟩
    · simp at hr

theorem Wired.connectionSet (w : Wired cl) {y : Nat} {a : CospaceActor}
    (ha : cl.cospaceActors[y]? = some a) (a' : CospaceActor) (cos : a'.cospace = a.cospace)
    (cnt : a.clientIdCounter.toNat ≤ a'.clientIdCounter.toNat) {i : Nat} {conn : Connection}
    (hc : cl.connections[i]? = some conn) :
    ∃ b, (cl.cospaceActors.set y a')[conn.cospaceAddr]? = some b ∧
      conn.actor.clientId.cospace = b.cospace ∧
      conn.actor.clientId.id.toNat < b.clientIdCounter.toNat := by
  obtain ⟨b, hb, hcos, hlt⟩ := w.connection hc
  by_cases e : conn.cospaceAddr = y
  · rw [e] at hb ⊢
    cases ha.symm.trans hb
    exact ⟨a', List.getElem?_set_self (List.getElem?_eq_some_iff.mp ha).1, cos ▸ hcos, by omega⟩
  · exact ⟨b, by rwa [List.getElem?_set_ne (Ne.symm e)], hcos, hlt⟩

theorem Wired.counterFresh (w : Wired cl) {y : Nat} {a : CospaceActor}
    (ha : cl.cospaceActors[y]? = some a) :
    (⟨a.clientIdCounter, a.cospace⟩ : ClientId) ∉ cl.connections.map fun conn => conn.actor.clientId := by
  simp only [List.mem_map, not_exists, not_and]
  intro conn hc hid
  obtain ⟨i, hi⟩ := List.mem_iff_getElem?.mp hc
  obtain ⟨b, hb, hcos, hlt⟩ := w.connection hi
  rw [hid] at hcos hlt
  have same := w.wiring.distinct (homesSome ha) (hcos ▸ homesSome hb)
  rw [← same, ha] at hb
  cases hb
  exact absurd hlt (Nat.lt_irrefl _)

theorem Wired.createClientActor (w : Wired cl) {y : Nat} {a : CospaceActor}
    (ha : cl.cospaceActors[y]? = some a) (bound : a.clientIdCounter.toNat + 1 < UInt32.size) :
    Wired (cl.createClientActor y a) := by
  have hH : (cl.createClientActor y a).homes = cl.homes := mapSetSame _ ha rfl
  have counter := succToNat bound
  refine ⟨hH ▸ w.wiring, ?clients, ?connection, ?ids, fun hp hr => hH ▸ w.received hp hr⟩
  case clients =>
    intro j b k i hb hk
    rcases getElem?SetSome.mp hb with ⟨rfl, -, rfl⟩ | ⟨-, hb⟩
    · obtain ⟨conn, hc, hid⟩ := w.clients ha hk
      exact ⟨conn, getElem?ConcatOld hc, hid⟩
    · obtain ⟨conn, hc, hid⟩ := w.clients hb hk
      exact ⟨conn, getElem?ConcatOld hc, hid⟩
  case connection =>
    intro i conn hc
    rcases getElem?ConcatSome.mp hc with hc | ⟨-, rfl⟩
    · exact w.connectionSet ha a.handleGenerateClientId.1 rfl
        (by simp [CospaceActor.handleGenerateClientId, counter]) hc
    · exact ⟨_, List.getElem?_set_self (List.getElem?_eq_some_iff.mp ha).1, rfl,
        by simp [ClientConnectionActor.new, CospaceActor.handleGenerateClientId, counter]⟩
  case ids =>
    simp only [Cluster.createClientActor, List.map_append, List.map_cons, List.map_nil,
      List.nodup_append, List.nodup_singleton, List.disjoint_singleton, true_and]
    exact ⟨w.ids, w.counterFresh ha⟩

theorem Wired.receivedToServices (w : Wired cl) {y : Nat} {a : CospaceActor}
    (ha : cl.cospaceActors[y]? = some a) {client : ClientId} (hc : client.cospace = a.cospace)
    {p : Nat} {pool : ServicePool} {c : ClientId} (hp : (cl.toServices a.services client).pools[p]? = some pool)
    (hr : c ∈ pool.received) : ∃ y : Nat, cl.homes[y]? = some (c.cospace, p) := by
  obtain ⟨pool0, hp0, rfl⟩ := (getElem?ModifySome _).mp hp
  split at hr
  · rename_i e
    rcases List.mem_append.mp hr with hr | hr
    · exact w.received hp0 hr
    · rw [List.mem_singleton.mp hr, hc, ← e]; exact ⟨y, homesSome ha⟩
  · exact w.received hp0 hr

theorem Wired.connect (w : Wired cl) {i : Nat} {conn : Connection} {a : CospaceActor}
    (hc : cl.connections[i]? = some conn) (ha : cl.cospaceActors[conn.cospaceAddr]? = some a) :
    Wired (cl.connect i conn a) := by
  have hH : (cl.connect i conn a).homes = cl.homes := mapSetSame _ ha rfl
  have hA : (cl.connect i conn a).allocations = cl.allocations := mapModifySame _ _ fun _ => rfl
  obtain ⟨a0, ha0, hcos, -⟩ := w.connection hc
  cases ha.symm.trans ha0
  refine ⟨hH ▸ hA ▸ w.wiring, ?clients,
    fun hc' => w.connectionSet ha (a.handleConnect conn.actor.clientId i) rfl le_rfl hc', w.ids,
    fun hp hr => hH ▸ w.receivedToServices ha hcos hp hr⟩
  case clients =>
    intro j b k i' hb hk
    rcases getElem?SetSome.mp hb with ⟨rfl, -, rfl⟩ | ⟨-, hb⟩
    · by_cases e : k = conn.actor.clientId.id
      · subst e
        simp only [CospaceActor.handleConnect, AList.lookup_insert, Option.some.injEq] at hk
        subst hk
        exact ⟨conn, hc, by show conn.actor.clientId = ⟨_, a.cospace⟩; rw [← hcos]⟩
      · simp only [CospaceActor.handleConnect, AList.lookup_insert_ne e] at hk
        have h := w.clients ha hk
        exact h
    · exact w.clients hb hk

theorem Wired.disconnect (w : Wired cl) {conn : Connection} {a : CospaceActor}
    (ha : cl.cospaceActors[conn.cospaceAddr]? = some a) : Wired (cl.disconnect conn a) := by
  have hH : (cl.disconnect conn a).homes = cl.homes := mapSetSame _ ha rfl
  refine ⟨hH ▸ w.wiring, ?clients,
    fun hc' => w.connectionSet ha (a.handleDisconnect conn.actor.clientId) rfl le_rfl hc', w.ids,
    fun hp hr => hH ▸ w.received hp hr⟩
  case clients =>
    intro j b k i' hb hk
    rcases getElem?SetSome.mp hb with ⟨rfl, -, rfl⟩ | ⟨-, hb⟩
    · by_cases e : k = conn.actor.clientId.id
      · subst e; simp [CospaceActor.handleDisconnect] at hk
      · simp only [CospaceActor.handleDisconnect, AList.lookup_erase_ne e] at hk
        have h := w.clients ha hk
        exact h
    · exact w.clients hb hk

theorem Wired.clientMessage (w : Wired cl) {i : Nat} {conn : Connection} {a : CospaceActor}
    (hc : cl.connections[i]? = some conn) (ha : cl.cospaceActors[conn.cospaceAddr]? = some a) :
    Wired (cl.toServices a.services conn.actor.clientId) := by
  have hA : (cl.toServices a.services conn.actor.clientId).allocations = cl.allocations :=
    mapModifySame _ _ fun _ => rfl
  obtain ⟨a0, ha0, hcos, -⟩ := w.connection hc
  cases ha.symm.trans ha0
  exact ⟨hA ▸ w.wiring, w.clients, w.connection, w.ids, w.receivedToServices ha hcos⟩

theorem Wired.step (w : Wired cl) {e : Event} (adm : cl.admissible e) : Wired (cl.step e) := by
  cases e with
  | dedicatedNodeManager => exact w.dedicatedNodeManager
  | sharedNodeManager => exact w.sharedNodeManager
  | createCospaceActor m x =>
    simp only [Cluster.step]
    split
    · exact w.createCospaceActor ‹_› (by simpa [admissible] using adm)
    · exact w
  | createClientActor y =>
    simp only [Cluster.step]
    split
    · rename_i a ha
      exact w.createClientActor ha (by simpa [admissible, ha] using adm)
    · exact w
  | connect i | disconnect i | clientMessage i =>
    simp only [Cluster.step]
    split
    · rename_i conn a h
      obtain ⟨hc, ha⟩ := attachedSome h
      first
        | exact w.connect hc ha
        | exact w.disconnect ha
        | exact w.clientMessage hc ha
    · exact w

theorem Reachable.wired {cl : Cluster} (reach : cl.Reachable) : Wired cl := by
  induction reach with
  | init => exact wiredInit
  | step _ adm w => exact w.step adm

end Events

def ReachesOnly (cl : Cluster) (dests : List Nat) (P : ClientId → Prop) : Prop :=
  ∀ i ∈ dests, ∃ conn, cl.connections[i]? = some conn ∧ P conn.actor.clientId

/-- What the routing of the services of `pool` guarantees. A message to a client id the
services were given reaches at most one connection, one of that id. A broadcast to
`Cospace(x)` from a shared pool reaches only clients of `x`; from a pool dedicated to a
cospace actor, exactly the clients that actor registered, whatever `x` is. No two
connections share a client id. -/
structure Isolated (cl : Cluster) (pool : ServicePool) (s : Services) : Prop where
  toClient : ∀ c ∈ pool.received, ∀ (text : String) (bytes : ProtoBytes),
    ∀ dests ∈ [ServiceExecutionContext.tellText ⟨s, pool.allocation⟩ cl (.client c) text,
      ServiceExecutionContext.tellEncoded ⟨s, pool.allocation⟩ cl (.client c) bytes,
      ServiceExecutionContext.askEncoded ⟨s, pool.allocation⟩ cl c bytes],
    dests.length ≤ 1 ∧ cl.ReachesOnly dests (· = c)
  sharedBroadcast : ∀ m, pool.allocation = .shared m → ∀ (x : CospaceId) (text : String)
    (bytes : ProtoBytes),
    ∀ dests ∈ [ServiceExecutionContext.tellText ⟨s, pool.allocation⟩ cl (.broadcast (.cospace x)) text,
      ServiceExecutionContext.tellEncoded ⟨s, pool.allocation⟩ cl (.broadcast (.cospace x)) bytes],
    cl.ReachesOnly dests (·.cospace = x)
  dedicatedBroadcast : ∀ y a, pool.allocation = .dedicated y → cl.cospaceActors[y]? = some a →
    ∀ (x : CospaceId) (text : String) (bytes : ProtoBytes),
    ∀ dests ∈ [ServiceExecutionContext.tellText ⟨s, pool.allocation⟩ cl (.broadcast (.cospace x)) text,
      ServiceExecutionContext.tellEncoded ⟨s, pool.allocation⟩ cl (.broadcast (.cospace x)) bytes],
    cl.ReachesOnly dests (·.cospace = a.cospace) ∧ ∀ i, i ∈ dests ↔ ∃ k, a.clients.lookup k = some i
  ids : (cl.connections.map fun conn => conn.actor.clientId).Nodup

section Delivery
variable {cl : Cluster}

theorem homesSomeIff {y : Nat} {x : CospaceId} {p : Nat} :
    cl.homes[y]? = some (x, p) ↔ ∃ a, cl.cospaceActors[y]? = some a ∧ a.cospace = x ∧ a.services = p := by
  simp [homes]

theorem Wired.lookupReaches (w : Wired cl) {y : Nat} {a : CospaceActor}
    (ha : cl.cospaceActors[y]? = some a) (k : UInt32) :
    cl.ReachesOnly (a.clients.lookup k).toList (· = ⟨k, a.cospace⟩) := by
  intro i hi
  exact w.clients ha (Option.mem_toList.mp hi)

theorem Wired.broadcastReaches (w : Wired cl) {y : Nat} {a : CospaceActor}
    (ha : cl.cospaceActors[y]? = some a) :
    cl.ReachesOnly (a.clients.entries.map Sigma.snd) (·.cospace = a.cospace) := by
  intro i hi
  obtain ⟨⟨k, i'⟩, hk, rfl⟩ := List.mem_map.mp hi
  obtain ⟨conn, hc, hid⟩ := w.clients ha (AList.mem_lookup_iff.mpr hk)
  exact ⟨conn, hc, by rw [hid]⟩

theorem Wired.cospaceAddrClient (w : Wired cl) {p : Nat} {pool : ServicePool}
    (hp : cl.pools[p]? = some pool) {c : ClientId} (hc : c ∈ pool.received) (s : Services) :
    ∃ y a, cl.cospaceActors[y]? = some a ∧ a.cospace = c.cospace ∧
      ServiceExecutionContext.cospaceAddr ⟨s, pool.allocation⟩ cl (.client c) = some y := by
  obtain ⟨y, hy⟩ := w.received hp hc
  obtain ⟨a, ha, hx, -⟩ := homesSomeIff.mp hy
  have alloc : cl.allocations[p]? = some pool.allocation := by simp [allocations, hp]
  refine ⟨y, a, ha, hx, ?_⟩
  rcases w.wiring.pool hy with d | ⟨m, mgr, hs, hm, hu⟩
  · rw [alloc] at d
    simp [ServiceExecutionContext.cospaceAddr, Option.some.inj d]
  · rw [alloc] at hs
    simp [ServiceExecutionContext.cospaceAddr, Option.some.inj hs, hm, hx, hu]

theorem Wired.sendClient (w : Wired cl) {p : Nat} {pool : ServicePool}
    (hp : cl.pools[p]? = some pool) {c : ClientId} (hc : c ∈ pool.received) (s : Services)
    {msg : ServiceMessage} (route : msg.route = .tell (.client c) ∨ msg.route = .ask c) :
    (ServiceExecutionContext.send ⟨s, pool.allocation⟩ cl (.client c) msg).length ≤ 1 ∧
      cl.ReachesOnly (ServiceExecutionContext.send ⟨s, pool.allocation⟩ cl (.client c) msg)
        (· = c) := by
  obtain ⟨y, a, ha, hx, addr⟩ := w.cospaceAddrClient hp hc s
  have forward : a.handleServiceMessage msg = (a.clients.lookup c.id).toList := by
    rcases route with r | r <;> simp [CospaceActor.handleServiceMessage, r]
  simp only [ServiceExecutionContext.send, addr, ha, Option.map_some', Option.getD_some, forward]
  refine ⟨by cases a.clients.lookup c.id <;> simp, ?_⟩
  have := w.lookupReaches ha c.id
  rwa [hx] at this

theorem Wired.handleReaches (w : Wired cl) {y : Nat} {a : CospaceActor}
    (ha : cl.cospaceActors[y]? = some a) (msg : ServiceMessage) :
    cl.ReachesOnly (a.handleServiceMessage msg) (·.cospace = a.cospace) := by
  unfold CospaceActor.handleServiceMessage
  split
  · exact fun i hi => (w.lookupReaches ha _ i hi).imp fun _ h => ⟨h.1, by rw [h.2]⟩
  · exact w.broadcastReaches ha
  · exact fun i hi => (w.lookupReaches ha _ i hi).imp fun _ h => ⟨h.1, by rw [h.2]⟩
  · exact fun i hi => absurd hi (List.not_mem_nil i)

theorem Wired.sendReaches (w : Wired cl) (cx : ServiceExecutionContext)
    (r : ServiceMessageRecipient) (msg : ServiceMessage) :
    cl.ReachesOnly (cx.send cl r msg) fun id => ∃ y a, cx.cospaceAddr cl r = some y ∧
      cl.cospaceActors[y]? = some a ∧ id.cospace = a.cospace := by
  intro i hi
  unfold ServiceExecutionContext.send at hi
  cases haddr : cx.cospaceAddr cl r with
  | none => simp [haddr] at hi
  | some y =>
    cases ha : cl.cospaceActors[y]? with
    | none => simp [haddr, ha] at hi
    | some a =>
      simp only [haddr, ha, Option.map_some', Option.getD_some] at hi
      obtain ⟨conn, hc, hcos⟩ := w.handleReaches ha msg i hi
      exact ⟨conn, hc, y, a, rfl, ha, hcos⟩

theorem Wired.sharedAddr (w : Wired cl) {s : Services} {m : Nat} {x : CospaceId} {y : Nat}
    (haddr : ServiceExecutionContext.cospaceAddr ⟨s, .shared m⟩ cl (.broadcast (.cospace x)) =
      some y) : ∃ a, cl.cospaceActors[y]? = some a ∧ a.cospace = x := by
  obtain ⟨mgr, hmgr, hy⟩ := Option.bind_eq_some.mp haddr
  obtain ⟨x', p', hh, hx⟩ := w.wiring.map hmgr hy
  obtain ⟨a, ha, rfl, -⟩ := homesSomeIff.mp hh
  exact ⟨a, ha, by_contra fun h => uuidNe h hx⟩

end Delivery

theorem serviceRoutingIsolated {cl : Cluster} (reach : cl.Reachable) {p : Nat}
    {pool : ServicePool} (hp : cl.pools[p]? = some pool) (s : Services) : cl.Isolated pool s := by
  have w := reach.wired
  refine ⟨?toClient, ?sharedBroadcast, ?dedicatedBroadcast, w.ids⟩
  case toClient =>
    intro c hc text bytes dests hd
    simp only [List.mem_cons, List.mem_singleton, List.not_mem_nil, or_false] at hd
    rcases hd with rfl | rfl | rfl <;> exact w.sendClient hp hc s (by simp)
  case sharedBroadcast =>
    intro m hm x text bytes dests hd i hi
    simp only [List.mem_cons, List.mem_singleton, List.not_mem_nil, or_false] at hd
    obtain ⟨msg, rfl⟩ : ∃ msg, dests = ServiceExecutionContext.send ⟨s, pool.allocation⟩ cl
        (.broadcast (.cospace x)) msg := by rcases hd with rfl | rfl <;> exact ⟨_, rfl⟩
    obtain ⟨conn, hc, y, a, haddr, ha, hcos⟩ := w.sendReaches _ _ msg i hi
    rw [hm] at haddr
    obtain ⟨a', ha', rfl⟩ := w.sharedAddr haddr
    cases ha.symm.trans ha'
    exact ⟨conn, hc, hcos⟩
  case dedicatedBroadcast =>
    intro y a hd ha x text bytes dests hds
    simp only [List.mem_cons, List.mem_singleton, List.not_mem_nil, or_false] at hds
    obtain ⟨msg, rfl, route⟩ : ∃ msg : ServiceMessage, dests = ServiceExecutionContext.send
        ⟨s, pool.allocation⟩ cl (.broadcast (.cospace x)) msg ∧ msg.route = .tell (.broadcast (.cospace x)) := by
      rcases hds with rfl | rfl <;> exact ⟨_, rfl, rfl⟩
    have sent : ServiceExecutionContext.send ⟨s, pool.allocation⟩ cl (.broadcast (.cospace x)) msg =
        a.clients.entries.map Sigma.snd := by
      simp [ServiceExecutionContext.send, ServiceExecutionContext.cospaceAddr, hd, ha,
        CospaceActor.handleServiceMessage, route]
    rw [sent]
    refine ⟨w.broadcastReaches ha, fun i => ?_⟩
    simpa using exists_congr fun k => AList.mem_lookup_iff.symm

theorem sharedPoolIsolated :
    let cl := (((init.step .sharedNodeManager).step (.createCospaceActor 0 ⟨1⟩)).step
      (.createClientActor 0)).step (.connect 0)
    cl.Reachable ∧ cl.pools[0]? = some ⟨.shared 0, [⟨1, ⟨1⟩⟩]⟩ ∧
      cl.Isolated ⟨.shared 0, [⟨1, ⟨1⟩⟩]⟩ .core := by
  intro cl
  have reach : cl.Reachable := .step (.step (.step (.step .init rfl) rfl) rfl) rfl
  have hp : cl.pools[0]? = some ⟨.shared 0, [⟨1, ⟨1⟩⟩]⟩ := rfl
  exact ⟨reach, hp, serviceRoutingIsolated reach hp .core⟩

theorem dedicatedBroadcastLeaks :
    let cl := (((init.step .dedicatedNodeManager).step (.createCospaceActor 0 ⟨1⟩)).step
      (.createClientActor 0)).step (.connect 0)
    cl.Reachable ∧ cl.pools[0]? = some ⟨.dedicated 0, [⟨1, ⟨1⟩⟩]⟩ ∧
      ServiceExecutionContext.tellEncoded ⟨.core, .dedicated 0⟩ cl (.broadcast (.cospace ⟨2⟩)) [] =
        [0] ∧
      (cl.connections[0]?).map (fun conn => conn.actor.clientId) = some ⟨1, ⟨1⟩⟩ :=
  ⟨.step (.step (.step (.step .init rfl) rfl) rfl) rfl, rfl, rfl, rfl⟩

end Cluster

end Fasttravel
