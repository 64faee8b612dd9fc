import Fasttravel.Server.Messages

/-! The hosted-cospace registry of `cospace_manager.rs` (`HostedCospaces`: three `DashMap`s
keyed by the cospace uuid), the placement tasks the `CospaceManager` spawns, and the
`realtime_status` handler of `websocket_server.rs`. Each single map operation is one atomic
step. A placement task and a status call are program counters that advance by one such
step at a time, and a run is any interleaving of their steps. The result of an external
call a placement awaits (`spawn_worker_node`, `get_remote_addr`, the `CreateCospaceActor`
ask) comes with the step that consumes it. `CospaceId::generate` is the id an event
carries, and a timestamp stands for `Utc::now()` at scheduling. -/
namespace Fasttravel

structure CospaceCreationRequest where
  id : CospaceId
  timestamp : Nat
  deriving DecidableEq, Repr

inductive ResourceAllocation
  | dedicated
  | shared
  deriving DecidableEq, Repr

structure HostedCospace where
  resourceAlloc : ResourceAllocation
  addrActor : Nat
  deriving DecidableEq, Repr

structure HostedCospacesInner where
  scheduled : Table Nat CospaceCreationRequest := Table.empty
  failed : Table Nat CospaceCreationRequest := Table.empty
  cospaces : Table Nat HostedCospace := Table.empty

structure HostedCospaces where
  inner : HostedCospacesInner := {}

namespace HostedCospaces

def isScheduled (h : HostedCospaces) (uuid : Nat) : Bool := (h.inner.scheduled uuid).isSome

def isFailed (h : HostedCospaces) (uuid : Nat) : Bool := (h.inner.failed uuid).isSome

def isHosted (h : HostedCospaces) (uuid : Nat) : Bool := (h.inner.cospaces uuid).isSome

def scheduled (h : HostedCospaces) (cospaceId : CospaceId) (timestamp : Nat) : HostedCospaces :=
  { h with inner.scheduled := h.inner.scheduled.insert cospaceId.uuid ⟨cospaceId, timestamp⟩ }

def removeCospace (h : HostedCospaces) (cospaceId : CospaceId) : HostedCospaces :=
  { h with inner.cospaces := h.inner.cospaces.remove cospaceId.uuid }

def realtimeStatus (h : HostedCospaces) (uuid : Nat) : String :=
  if h.isHosted uuid then "HOSTED"
  else if h.isScheduled uuid then "SCHEDULED"
  else if h.isFailed uuid then "FAILED"
  else "NOT_FOUND"

end HostedCospaces

structure Presence where
  scheduled : Bool
  failed : Bool
  cospaces : Bool
  deriving DecidableEq, Repr

namespace Presence

def absent : Presence := ⟨false, false, false⟩

def count (p : Presence) : Nat := [p.scheduled, p.failed, p.cospaces].count true

def status (p : Presence) : String :=
  if p.cospaces then "HOSTED"
  else if p.scheduled then "SCHEDULED"
  else if p.failed then "FAILED"
  else "NOT_FOUND"

end Presence

def HostedCospaces.presence (h : HostedCospaces) (uuid : Nat) : Presence :=
  ⟨h.isScheduled uuid, h.isFailed uuid, h.isHosted uuid⟩

theorem HostedCospaces.realtimeStatusPresence (h : HostedCospaces) (uuid : Nat) :
    h.realtimeStatus uuid = (h.presence uuid).status := rfl

structure Outcome where
  node : Option Nat := none
  remoteAddr : Bool := false
  created : Option (Option Nat) := none
  deriving DecidableEq, Repr

/-- Where a placement task stands: before the external call it awaits, between the two map
operations of `failed` or of `insert_cospace`, or returned. `abandoned` is a task that
returned leaving its cospace scheduled, or that the executor never took. -/
inductive Placement
  | spawnWorker
  | remoteAddr (node : Nat)
  | shutdownWorker (node : Nat)
  | ask (alloc : ResourceAllocation)
  | failedRemove
  | failedInsert (request : CospaceCreationRequest)
  | insertCospace (cospace : HostedCospace)
  | removeScheduled
  | hosted
  | failed
  | abandoned
  deriving DecidableEq, Repr

namespace Placement

def step (cospaceId : CospaceId) (o : Outcome) (h : HostedCospaces)
    (workers : List (Nat × CospaceId)) : Placement → Placement × HostedCospaces × List (Nat × CospaceId)
  | spawnWorker =>
    match o.node with
    | some node => (remoteAddr node, h, (node, cospaceId) :: workers)
    | none => (failedRemove, h, workers)
  | remoteAddr node =>
    if o.remoteAddr then (ask .dedicated, h, workers) else (shutdownWorker node, h, workers)
  | shutdownWorker node => (failedRemove, h, workers.erase (node, cospaceId))
  | ask alloc =>
    match o.created with
    | some (some addr) => (insertCospace ⟨alloc, addr⟩, h, workers)
    | _ => (abandoned, h, workers)
  | failedRemove =>
    match h.inner.scheduled cospaceId.uuid with
    | some request =>
      (failedInsert request,
        { h with inner.scheduled := h.inner.scheduled.remove cospaceId.uuid }, workers)
    | none => (failed, h, workers)
  | failedInsert request =>
    (failed, { h with inner.failed := h.inner.failed.insert cospaceId.uuid request }, workers)
  | insertCospace cospace =>
    (removeScheduled, { h with inner.cospaces := h.inner.cospaces.insert cospaceId.uuid cospace },
      workers)
  | removeScheduled =>
    (hosted, { h with inner.scheduled := h.inner.scheduled.remove cospaceId.uuid }, workers)
  | hosted => (hosted, h, workers)
  | failed => (failed, h, workers)
  | abandoned => (abandoned, h, workers)

def presence : Placement → Presence
  | failedInsert _ => .absent
  | failed => ⟨false, true, false⟩
  | removeScheduled => ⟨true, false, true⟩
  | hosted => ⟨false, false, true⟩
  | _ => ⟨true, false, false⟩

def betweenOperations : Placement → Bool
  | failedInsert _ | removeScheduled => true
  | _ => false

theorem presenceCount (p : Placement) (h : p.betweenOperations = false) : p.presence.count = 1 := by
  cases p <;> first | rfl | cases h

theorem statusNotFound {p : Placement} (h : p.presence.status = "NOT_FOUND") :
    ∃ r, p = failedInsert r := by
  cases p <;> simp_all [presence, Presence.status, Presence.absent]

end Placement

inductive StatusPc
  | isHosted
  | isScheduled
  | isFailed
  | returned (status : String)
  deriving DecidableEq, Repr

def StatusPc.isReturned : StatusPc → Bool
  | returned _ => true
  | _ => false

theorem StatusPc.isReturnedSome {p : StatusPc} (h : p.isReturned = true) : ∃ s, p = returned s := by
  cases p <;> simp_all [isReturned]

structure StatusCall where
  uuid : Nat
  pc : StatusPc
  deriving DecidableEq, Repr

def StatusCall.lookup (h : HostedCospaces) (c : StatusCall) : StatusCall :=
  match c.pc with
  | .isHosted => { c with pc := if h.isHosted c.uuid then .returned "HOSTED" else .isScheduled }
  | .isScheduled =>
    { c with pc := if h.isScheduled c.uuid then .returned "SCHEDULED" else .isFailed }
  | .isFailed => { c with pc := .returned (if h.isFailed c.uuid then "FAILED" else "NOT_FOUND") }
  | .returned _ => c

structure Manager where
  hostedCospaces : HostedCospaces := {}
  placements : Table CospaceId Placement := Table.empty
  workers : List (Nat × CospaceId) := []
  statusCalls : List StatusCall := []

namespace Manager

def init : Manager := {}

def spawnCospace (m : Manager) (cospaceId : CospaceId) (timestamp : Nat) (start : Placement)
    (taskScheduled : Bool) : Manager × Except Unit CospaceId :=
  let m := { m with hostedCospaces := m.hostedCospaces.scheduled cospaceId timestamp }
  if taskScheduled then ({ m with placements := m.placements.insert cospaceId start }, .ok cospaceId)
  else ({ m with placements := m.placements.insert cospaceId .abandoned }, .error ())

def spawnCospaceInMainNode (m : Manager) (cospaceId : CospaceId) (timestamp : Nat) :
    Manager × Except Unit CospaceId :=
  m.spawnCospace cospaceId timestamp (.ask .shared) true

def spawnCospaceInSharedNode (m : Manager) (cospaceId : CospaceId) (timestamp : Nat) :
    Manager × Except Unit CospaceId :=
  m.spawnCospace cospaceId timestamp (.ask .shared) true

def spawnCospaceInDedicatedNode (m : Manager) (cospaceId : CospaceId) (timestamp : Nat)
    (taskScheduled : Bool) : Manager × Except Unit CospaceId :=
  m.spawnCospace cospaceId timestamp .spawnWorker taskScheduled

def place (m : Manager) (cospaceId : CospaceId) (o : Outcome) : Manager :=
  match m.placements cospaceId with
  | some p =>
    let r := p.step cospaceId o m.hostedCospaces m.workers
    { m with placements := m.placements.insert cospaceId r.1, hostedCospaces := r.2.1,
             workers := r.2.2 }
  | none => m

end Manager

inductive Event
  | spawnCospaceInMainNode (cospaceId : CospaceId) (timestamp : Nat)
  | spawnCospaceInSharedNode (cospaceId : CospaceId) (timestamp : Nat)
  | spawnCospaceInDedicatedNode (cospaceId : CospaceId) (timestamp : Nat) (taskScheduled : Bool)
  | place (cospaceId : CospaceId) (o : Outcome)
  | removeCospace (cospaceId : CospaceId)
  | realtimeStatus (uuid : Nat)
  | statusLookup (call : Nat)
  deriving DecidableEq, Repr

namespace Event

def owner : Event → Option CospaceId
  | spawnCospaceInMainNode x _ | spawnCospaceInSharedNode x _ | spawnCospaceInDedicatedNode x _ _
  | place x _ | removeCospace x => some x
  | realtimeStatus _ | statusLookup _ => none

def spawns (x : CospaceId) : Event → Bool
  | spawnCospaceInMainNode y _ | spawnCospaceInSharedNode y _
  | spawnCospaceInDedicatedNode y _ _ => y = x
  | _ => false

end Event

namespace Manager

def step (m : Manager) : Event → Manager
  | .spawnCospaceInMainNode x t => (m.spawnCospaceInMainNode x t).1
  | .spawnCospaceInSharedNode x t => (m.spawnCospaceInSharedNode x t).1
  | .spawnCospaceInDedicatedNode x t ok => (m.spawnCospaceInDedicatedNode x t ok).1
  | .place x o => m.place x o
  | .removeCospace x => { m with hostedCospaces := m.hostedCospaces.removeCospace x }
  | .realtimeStatus uuid => { m with statusCalls := m.statusCalls ++ [⟨uuid, .isHosted⟩] }
  | .statusLookup i =>
    { m with statusCalls := m.statusCalls.modify (StatusCall.lookup m.hostedCospaces) i }

def run (m : Manager) (es : List Event) : Manager := es.foldl step m

@[simp] theorem runNil (m : Manager) : m.run [] = m := rfl

@[simp] theorem runCons (m : Manager) (e : Event) (es : List Event) :
    m.run (e :: es) = (m.step e).run es := rfl

theorem runAppend (m : Manager) (es fs : List Event) : m.run (es ++ fs) = (m.run es).run fs :=
  List.foldl_append _ _ _ _

end Manager

/-! ### The registry keeps each cospace where its placement says -/

section Frame
variable {x : CospaceId} {u : Nat} {h : HostedCospaces}

theorem stepPresenceNe (p : Placement) {y : CospaceId} (o : Outcome) (ws : List (Nat × CospaceId))
    (ne : u ≠ y.uuid) : (p.step y o h ws).2.1.presence u = h.presence u := by
  cases p <;> simp only [Placement.step] <;> (try split) <;>
    simp [HostedCospaces.presence, HostedCospaces.isScheduled, HostedCospaces.isFailed,
      HostedCospaces.isHosted, Table.insertNe _ _ ne, Table.removeNe _ ne]

theorem stepPresenceSelf (p : Placement) (o : Outcome) (ws : List (Nat × CospaceId))
    (at_ : h.presence x.uuid = p.presence) :
    (p.step x o h ws).2.1.presence x.uuid = (p.step x o h ws).1.presence := by
  simp only [HostedCospaces.presence, HostedCospaces.isScheduled, HostedCospaces.isFailed,
    HostedCospaces.isHosted, Placement.presence, Presence.absent, Presence.mk.injEq] at at_
  cases p <;> simp only [Placement.step] <;> (try split) <;>
    simp_all [HostedCospaces.presence, HostedCospaces.isScheduled, HostedCospaces.isFailed,
      HostedCospaces.isHosted, Placement.presence, Presence.absent]

theorem presenceScheduled (y : CospaceId) (t : Nat) (ne : u ≠ y.uuid) :
    (h.scheduled y t).presence u = h.presence u := by
  simp [HostedCospaces.scheduled, HostedCospaces.presence, HostedCospaces.isScheduled,
    HostedCospaces.isFailed, HostedCospaces.isHosted, Table.insertNe _ _ ne]

theorem presenceRemoveCospace (y : CospaceId) (ne : u ≠ y.uuid) :
    (h.removeCospace y).presence u = h.presence u := by
  simp [HostedCospaces.removeCospace, HostedCospaces.presence, HostedCospaces.isScheduled,
    HostedCospaces.isFailed, HostedCospaces.isHosted, Table.removeNe _ ne]

theorem spawnCospaceSpec (m : Manager) (y : CospaceId) (t : Nat) (start : Placement) (ok : Bool) :
    (m.spawnCospace y t start ok).1 =
      { m with hostedCospaces := m.hostedCospaces.scheduled y t,
               placements := m.placements.insert y (if ok then start else .abandoned) } := by
  cases ok <;> rfl

theorem stepOther (m : Manager) (e : Event) (ne : e.owner ≠ some x) :
    (m.step e).hostedCospaces.presence x.uuid = m.hostedCospaces.presence x.uuid ∧
      (m.step e).placements x = m.placements x := by
  cases e with
  | place y o =>
    have yx : y ≠ x := fun e => ne (by rw [e]; rfl)
    simp only [Manager.step, Manager.place]
    split
    · exact ⟨stepPresenceNe _ o _ (uuidNe yx).symm, Table.insertNe _ _ yx.symm⟩
    · exact ⟨rfl, rfl⟩
  | removeCospace y =>
    exact ⟨presenceRemoveCospace y (uuidNe fun e => ne (by rw [e]; rfl)).symm, rfl⟩
  | realtimeStatus _ | statusLookup _ => exact ⟨rfl, rfl⟩
  | spawnCospaceInMainNode y t | spawnCospaceInSharedNode y t | spawnCospaceInDedicatedNode y t _ =>
    have yx : y ≠ x := fun e => ne (by rw [e]; rfl)
    simp only [Manager.step, Manager.spawnCospaceInMainNode, Manager.spawnCospaceInSharedNode,
      Manager.spawnCospaceInDedicatedNode, spawnCospaceSpec]
    exact ⟨presenceScheduled y t (uuidNe yx).symm, Table.insertNe _ _ yx.symm⟩

end Frame

/-- The registry holds `x` where its placement task stands, and nowhere before it is
scheduled. -/
def Tracks (x : CospaceId) (m : Manager) : Prop :=
  m.hostedCospaces.presence x.uuid = ((m.placements x).map Placement.presence).getD .absent

theorem tracksInit (x : CospaceId) : Tracks x Manager.init := rfl

theorem presenceScheduledSelf {h : HostedCospaces} (x : CospaceId) (t : Nat) :
    (h.scheduled x t).presence x.uuid = { h.presence x.uuid with scheduled := true } := by
  simp [HostedCospaces.scheduled, HostedCospaces.presence, HostedCospaces.isScheduled,
    HostedCospaces.isFailed, HostedCospaces.isHosted]

theorem spawnCospaceTracks {x : CospaceId} {m : Manager} (inv : Tracks x m)
    (unplaced : m.placements x = none) (t : Nat) {start : Placement} (ok : Bool)
    (hs : start.presence = ⟨true, false, false⟩) : Tracks x (m.spawnCospace x t start ok).1 := by
  simp only [Tracks, unplaced, Option.map_none', Option.getD_none] at inv
  simp only [Tracks, spawnCospaceSpec, Table.insertSelf, Option.map_some', Option.getD_some,
    presenceScheduledSelf, inv]
  cases ok
  · rfl
  · exact hs.symm

theorem stepTracks {x : CospaceId} {m : Manager} (e : Event) (inv : Tracks x m)
    (fresh : m.placements x ≠ none → e.spawns x = false) (kept : e ≠ .removeCospace x) :
    Tracks x (m.step e) := by
  by_cases own : e.owner = some x
  · cases e with
    | place y o =>
      cases own
      unfold Tracks at inv ⊢
      simp only [Manager.step, Manager.place]
      cases hp : m.placements x with
      | none => simpa [hp] using inv
      | some p =>
        rw [hp] at inv
        simpa using stepPresenceSelf p o m.workers inv
    | removeCospace y => cases own; exact absurd rfl kept
    | realtimeStatus _ | statusLookup _ => cases own
    | spawnCospaceInMainNode y t | spawnCospaceInSharedNode y t
    | spawnCospaceInDedicatedNode y t _ =>
      cases own
      have unplaced : m.placements x = none := by
        by_contra hn
        simpa [Event.spawns] using fresh hn
      exact spawnCospaceTracks inv unplaced t _ rfl
  · obtain ⟨hp, hq⟩ := stepOther m e own
    unfold Tracks at inv ⊢
    rw [hp, hq, inv]

theorem stepPlaced {x : CospaceId} (m : Manager) (e : Event) (placed : (m.step e).placements x ≠ none) :
    m.placements x ≠ none ∨ e.spawns x = true := by
  by_cases own : e.owner = some x
  · cases e with
    | place y o =>
      cases own
      left
      intro hn
      simp [Manager.step, Manager.place, hn] at placed
    | removeCospace y => exact .inl (by simpa [Manager.step] using placed)
    | realtimeStatus _ | statusLookup _ => cases own
    | spawnCospaceInMainNode y t | spawnCospaceInSharedNode y t
    | spawnCospaceInDedicatedNode y t _ => cases own; exact .inr (by simp [Event.spawns])
  · exact .inl ((stepOther m e own).2 ▸ placed)

theorem runKeeps {x : CospaceId} (Inv : Manager → Prop)
    (keeps : ∀ (m : Manager) (e : Event), Inv m → (m.placements x ≠ none → e.spawns x = false) →
      e ≠ .removeCospace x → Inv (m.step e)) :
    ∀ (es : List Event) (m : Manager), Inv m →
      es.countP (Event.spawns x) ≤ (if m.placements x = none then 1 else 0) →
      Event.removeCospace x ∉ es → Inv (m.run es)
  | [], _, inv, _, _ => inv
  | e :: es, m, inv, once, kept => by
    rw [List.countP_cons] at once
    obtain ⟨ne, kept⟩ : _ ≠ e ∧ _ ∉ es := by simpa [not_or] using kept
    refine runKeeps Inv keeps es _ (keeps m e inv (fun hp => ?_) (Ne.symm ne)) ?_ kept
    · revert once; cases e.spawns x <;> simp [hp]
    · cases hs : e.spawns x
      · simp only [hs, Bool.false_eq_true, if_false, Nat.add_zero] at once
        by_cases hn : (m.step e).placements x = none
        · simp only [hn, if_true]; split at once <;> omega
        · have := (stepPlaced m e hn).resolve_right (by simp [hs])
          simp only [hn, this, if_false] at once ⊢; omega
      · simp only [hs, if_true] at once; split <;> split at once <;> omega

theorem runTracks {x : CospaceId} (es : List Event) (m : Manager) (inv : Tracks x m)
    (once : es.countP (Event.spawns x) ≤ (if m.placements x = none then 1 else 0))
    (kept : Event.removeCospace x ∉ es) : Tracks x (m.run es) :=
  runKeeps (Tracks x) (fun _ e inv fresh kept => stepTracks e inv fresh kept) es m inv once kept

theorem registryFollowsPlacement (es : List Event) (x : CospaceId) (p : Placement)
    (once : es.countP (Event.spawns x) ≤ 1) (kept : Event.removeCospace x ∉ es)
    (placed : (Manager.init.run es).placements x = some p) :
    (Manager.init.run es).hostedCospaces.presence x.uuid = p.presence ∧
      (p.betweenOperations = false →
        ((Manager.init.run es).hostedCospaces.presence x.uuid).count = 1) := by
  have inv := runTracks es Manager.init (tracksInit x) (by simpa [Manager.init] using once) kept
  simp only [Tracks, placed, Option.map_some', Option.getD_some] at inv
  exact ⟨inv, fun between => inv ▸ p.presenceCount between⟩

theorem mainNodeHosted :
    (Manager.init.run [.spawnCospaceInMainNode ⟨0⟩ 0, .place ⟨0⟩ { created := some (some 7) },
      .place ⟨0⟩ {}, .place ⟨0⟩ {}]).placements ⟨0⟩ = some .hosted ∧
    ((Manager.init.run [.spawnCospaceInMainNode ⟨0⟩ 0, .place ⟨0⟩ { created := some (some 7) },
      .place ⟨0⟩ {}, .place ⟨0⟩ {}]).hostedCospaces.presence 0 = Placement.hosted.presence ∧
      (Placement.hosted.betweenOperations = false →
        ((Manager.init.run [.spawnCospaceInMainNode ⟨0⟩ 0,
          .place ⟨0⟩ { created := some (some 7) }, .place ⟨0⟩ {}, .place ⟨0⟩ {}]).hostedCospaces.presence
            0).count = 1)) :=
  ⟨rfl, registryFollowsPlacement _ ⟨0⟩ .hosted (by decide) (by decide) rfl⟩

theorem registryWindows :
    (Manager.init.run [.spawnCospaceInMainNode ⟨0⟩ 0, .place ⟨0⟩ { created := some (some 7) },
      .place ⟨0⟩ {}]).hostedCospaces.presence 0 = ⟨true, false, true⟩ ∧
    (Manager.init.run [.spawnCospaceInDedicatedNode ⟨0⟩ 0 true, .place ⟨0⟩ {},
      .place ⟨0⟩ {}]).hostedCospaces.presence 0 = .absent :=
  ⟨rfl, rfl⟩

/-! ### Status calls interleaved with placements -/

def Presence.shows (p : Presence) (s : String) : Bool :=
  (s = "HOSTED" && p.cospaces) || (s = "SCHEDULED" && p.scheduled) || (s = "FAILED" && p.failed)

def StatusCall.Answers (h : HostedCospaces) (c : StatusCall) : Prop :=
  match c.pc with
  | .isHosted => True
  | .isScheduled => h.isHosted c.uuid = false
  | .isFailed => h.isHosted c.uuid = false ∧ h.isScheduled c.uuid = false
  | .returned s => s = h.realtimeStatus c.uuid

namespace StatusCall
variable {h : HostedCospaces} {c : StatusCall}

@[simp] theorem lookupUuid : (c.lookup h).uuid = c.uuid := by
  unfold lookup; split <;> rfl

theorem lookupReturned {s : String} (hc : c.pc = .returned s) : c.lookup h = c := by
  simp [lookup, hc]

theorem lookupPresence {h' : HostedCospaces} (same : h.presence c.uuid = h'.presence c.uuid) :
    c.lookup h = c.lookup h' := by
  simp only [HostedCospaces.presence, Presence.mk.injEq] at same
  simp only [lookup, same]

theorem lookupAnswers (a : c.Answers h) : (c.lookup h).Answers h := by
  obtain ⟨u, pc⟩ := c
  cases pc with
  | isHosted => cases hh : h.isHosted u <;> simp [lookup, Answers, HostedCospaces.realtimeStatus, hh]
  | isScheduled =>
    simp only [Answers] at a
    cases hs : h.isScheduled u <;> simp [lookup, Answers, HostedCospaces.realtimeStatus, a, hs]
  | isFailed =>
    simp only [Answers] at a
    cases hf : h.isFailed u <;> simp [lookup, Answers, HostedCospaces.realtimeStatus, a, hf]
  | returned s => exact a

theorem answersReturned {s : String} (a : c.Answers h) (hc : c.pc = .returned s) :
    s = h.realtimeStatus c.uuid := by
  simpa [Answers, hc] using a

theorem lookupShows {s : String} (pending : c.pc.isReturned = false)
    (hs : (c.lookup h).pc = .returned s) (found : s ≠ "NOT_FOUND") :
    (h.presence c.uuid).shows s := by
  unfold lookup at hs
  split at hs <;> (try split at hs) <;> simp_all [StatusPc.isReturned, Presence.shows,
    HostedCospaces.presence]

end StatusCall

theorem stepCall (m : Manager) (e : Event) (i : Nat) :
    (m.step e).statusCalls[i]? = m.statusCalls[i]? ∨
      (∃ u, m.statusCalls[i]? = none ∧ (m.step e).statusCalls[i]? = some ⟨u, .isHosted⟩) ∨
      ∃ c, m.statusCalls[i]? = some c ∧
        (m.step e).statusCalls[i]? = some (c.lookup m.hostedCospaces) := by
  cases e with
  | realtimeStatus u =>
    simp only [Manager.step]
    rcases Nat.lt_or_ge i m.statusCalls.length with lt | ge
    · exact .inl (List.getElem?_append_left lt)
    · rw [List.getElem?_append_right ge, List.getElem?_eq_none ge]
      rcases Nat.eq_or_lt_of_le ge with eq | gt
      · exact .inr (.inl ⟨u, rfl, by simp [← eq]⟩)
      · exact .inl (by simp; omega)
  | statusLookup j =>
    simp only [Manager.step, List.getElem?_modify]
    cases hc : m.statusCalls[i]? with
    | none => exact .inl rfl
    | some c => by_cases ji : j = i <;> simp [ji]
  | place x o =>
    simp only [Manager.step, Manager.place]
    split <;> exact .inl rfl
  | _ => exact .inl (by simp [Manager.step, Manager.spawnCospaceInMainNode,
      Manager.spawnCospaceInSharedNode, Manager.spawnCospaceInDedicatedNode, spawnCospaceSpec])

theorem answerObserved (es : List Event) {i : Nat} {c : StatusCall} {s : String}
    (ret : (Manager.init.run es).statusCalls[i]? = some c) (hs : c.pc = .returned s)
    (found : s ≠ "NOT_FOUND") :
    ∃ k ≤ es.length, ∃ c', (Manager.init.run (es.take k)).statusCalls[i]? = some c' ∧
      c'.uuid = c.uuid ∧ c'.pc.isReturned = false ∧
      ((Manager.init.run (es.take k)).hostedCospaces.presence c.uuid).shows s := by
  induction es using List.reverseRecOn generalizing c with
  | nil => simp [Manager.init] at ret
  | append_singleton es e ih =>
    have earlier : (Manager.init.run es).statusCalls[i]? = some c → ∃ k ≤ (es ++ [e]).length,
        ∃ c', (Manager.init.run ((es ++ [e]).take k)).statusCalls[i]? = some c' ∧
          c'.uuid = c.uuid ∧ c'.pc.isReturned = false ∧
          ((Manager.init.run ((es ++ [e]).take k)).hostedCospaces.presence c.uuid).shows s := by
      intro h'
      obtain ⟨k, le, rest⟩ := ih h' hs
      exact ⟨k, by simp; omega, by rwa [List.take_append_of_le_length le]⟩
    rw [Manager.runAppend, Manager.runCons, Manager.runNil] at ret
    rcases stepCall (Manager.init.run es) e i with same | ⟨u, -, fresh⟩ | ⟨c', before, after⟩
    · exact earlier (same ▸ ret)
    · rw [fresh] at ret; cases ret; cases hs
    · rw [after] at ret
      cases hp : c'.pc.isReturned
      · cases Option.some.inj ret
        refine ⟨es.length, by simp, c', ?_⟩
        rw [List.take_left' rfl]
        exact ⟨before, by simp, hp, by simpa using StatusCall.lookupShows hp hs found⟩
      · obtain ⟨t, ht⟩ := StatusPc.isReturnedSome hp
        rw [StatusCall.lookupReturned ht] at ret
        exact earlier (before.trans ret)

theorem runQuiet {x : CospaceId} {h : HostedCospaces} {i : Nat} :
    ∀ (mid : List Event) (m : Manager), (∀ e ∈ mid, e.owner ≠ some x) →
      m.hostedCospaces.presence x.uuid = h.presence x.uuid →
      (∃ c, m.statusCalls[i]? = some c ∧ c.uuid = x.uuid ∧ c.Answers h) →
      ∃ c, (m.run mid).statusCalls[i]? = some c ∧ c.uuid = x.uuid ∧ c.Answers h
  | [], _, _, _, call => call
  | e :: mid, m, quiet, same, ⟨c, hc, hu, a⟩ => by
    have own := quiet e (List.mem_cons_self _ _)
    refine runQuiet mid _ (fun e' he' => quiet e' (List.mem_cons_of_mem _ he'))
      ((stepOther m e own).1.trans same) ?_
    rcases stepCall m e i with unchanged | ⟨u, none, -⟩ | ⟨c', before, after⟩
    · exact ⟨c, unchanged.trans hc, hu, a⟩
    · rw [hc] at none; cases none
    · rw [hc] at before
      cases Option.some.inj before
      refine ⟨_, after, by simpa using hu, ?_⟩
      rw [StatusCall.lookupPresence (hu ▸ same)]
      exact StatusCall.lookupAnswers a

theorem statusAnswers :
    (∀ (es : List Event) (i : Nat) (c : StatusCall) (s : String),
      (Manager.init.run es).statusCalls[i]? = some c → c.pc = .returned s → s ≠ "NOT_FOUND" →
      ∃ k ≤ es.length, ∃ c', (Manager.init.run (es.take k)).statusCalls[i]? = some c' ∧
        c'.uuid = c.uuid ∧ c'.pc.isReturned = false ∧
        ((Manager.init.run (es.take k)).hostedCospaces.presence c.uuid).shows s) ∧
    (∀ (pre mid : List Event) (x : CospaceId) (p : Placement) (c : StatusCall) (s : String),
      pre.countP (Event.spawns x) ≤ 1 → Event.removeCospace x ∉ pre →
      (Manager.init.run pre).placements x = some p → (∀ e ∈ mid, e.owner ≠ some x) →
      (((Manager.init.run pre).step (.realtimeStatus x.uuid)).run mid).statusCalls[
        (Manager.init.run pre).statusCalls.length]? = some c → c.pc = .returned s →
      s = p.presence.status ∧ (s = "NOT_FOUND" → ∃ r, p = .failedInsert r)) := by
  refine ⟨fun es _ _ _ ret hs found => answerObserved es ret hs found, ?_⟩
  intro pre mid x p c s once kept placed quiet ret hs
  set m := Manager.init.run pre
  have start : ∃ c, (m.step (.realtimeStatus x.uuid)).statusCalls[m.statusCalls.length]? = some c ∧
      c.uuid = x.uuid ∧ c.Answers m.hostedCospaces :=
    ⟨⟨x.uuid, .isHosted⟩, by simp [Manager.step], rfl, trivial⟩
  obtain ⟨c', hc', hu, a⟩ := @runQuiet x m.hostedCospaces _ mid (m.step (.realtimeStatus x.uuid)) quiet rfl start
  rw [hc'] at ret
  cases Option.some.inj ret
  have answer := StatusCall.answersReturned a hs
  rw [hu, HostedCospaces.realtimeStatusPresence,
    (registryFollowsPlacement pre x p once kept placed).1] at answer
  exact ⟨answer, fun nf => Placement.statusNotFound (answer ▸ nf)⟩

theorem scheduledStatusAnswer :
    (Manager.init.run [.spawnCospaceInMainNode ⟨0⟩ 0]).placements ⟨0⟩ = some (.ask .shared) ∧
      "SCHEDULED" = (Placement.ask .shared).presence.status ∧
      ("SCHEDULED" = "NOT_FOUND" → ∃ r, Placement.ask .shared = .failedInsert r) :=
  ⟨rfl, statusAnswers.2 [.spawnCospaceInMainNode ⟨0⟩ 0] [.statusLookup 0, .statusLookup 0] ⟨0⟩
    (.ask .shared) ⟨0, .returned "SCHEDULED"⟩ "SCHEDULED" (by decide) (by decide) rfl (by decide)
    rfl rfl⟩

theorem notFoundWhileHosted :
    (Manager.init.run [.spawnCospaceInMainNode ⟨0⟩ 0, .realtimeStatus 0, .statusLookup 0,
      .place ⟨0⟩ { created := some (some 7) }, .place ⟨0⟩ {}, .place ⟨0⟩ {},
      .statusLookup 0, .statusLookup 0]).statusCalls = [⟨0, .returned "NOT_FOUND"⟩] ∧
    (Manager.init.run [.spawnCospaceInMainNode ⟨0⟩ 0, .realtimeStatus 0, .statusLookup 0,
      .place ⟨0⟩ { created := some (some 7) }, .place ⟨0⟩ {}, .place ⟨0⟩ {},
      .statusLookup 0, .statusLookup 0]).placements ⟨0⟩ = some .hosted :=
  ⟨rfl, rfl⟩

end Fasttravel
