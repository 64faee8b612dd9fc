import Fasttravel.Server.HostedCospaces

/-! The lifecycle of one placement task of `cospace_manager.rs`. Whatever the external calls
it awaits give, a task returns after at most five of its own steps. Its cospace, spawned once
and never removed, is then in `cospaces`, or in `failed` with no worker node of it left
running, or, when the `CreateCospaceActor` ask gave no actor or the executor never took the
task, still in `scheduled`, where nothing removes it. Worker nodes carry the cospace whose
task spawned them. -/
namespace Fasttravel

namespace Placement

def finished : Placement → Bool
  | hosted | failed | abandoned => true
  | _ => false

def rank : Placement → Nat
  | spawnWorker => 5
  | remoteAddr _ => 4
  | shutdownWorker _ | ask _ => 3
  | failedRemove | insertCospace _ => 2
  | failedInsert _ | removeScheduled => 1
  | hosted | failed | abandoned => 0

def heldWorkers : Placement → Option (List Nat)
  | spawnWorker | failedRemove | failedInsert _ | failed => some []
  | remoteAddr node | shutdownWorker node => some [node]
  | _ => none

theorem rankFinished {p : Placement} (h : p.rank = 0) : p.finished = true := by
  cases p <;> simp_all [rank, finished]

theorem rankLe (p : Placement) : p.rank ≤ 5 := by
  cases p <;> simp [rank]

variable {x : CospaceId} {o : Outcome} {h : HostedCospaces} {ws : List (Nat × CospaceId)}

theorem stepRank (p : Placement) : (p.step x o h ws).1.rank ≤ p.rank - 1 := by
  cases p <;> simp only [step] <;> (try split) <;> simp [rank]

theorem filterEraseNe (ws : List (Nat × CospaceId)) {n : Nat} {y : CospaceId} (ne : y ≠ x) :
    (ws.erase (n, y)).filter (·.2 = x) = ws.filter (·.2 = x) := by
  rw [← List.erase_filter, List.erase_of_not_mem]
  simp [ne]

theorem stepWorkersNe (p : Placement) {y : CospaceId} (ne : y ≠ x) :
    (p.step y o h ws).2.2.filter (·.2 = x) = ws.filter (·.2 = x) := by
  cases p <;> simp only [step] <;> (try split) <;> simp [ne, filterEraseNe]

theorem stepHeld (p : Placement)
    (held : ∀ l ∈ p.heldWorkers, ws.filter (·.2 = x) = l.map (·, x)) :
    ∀ l ∈ (p.step x o h ws).1.heldWorkers, (p.step x o h ws).2.2.filter (·.2 = x) = l.map (·, x) := by
  cases p with
  | spawnWorker =>
    simp only [step]
    split
    · rintro _ ⟨⟩
      simp [held [] rfl]
    · exact held
  | remoteAddr node => simp only [step]; split; exacts [nofun, held]
  | shutdownWorker node =>
    rintro _ ⟨⟩
    simp [step, ← List.erase_filter, held [node] rfl]
  | failedRemove => simp only [step]; split <;> exact held
  | failedInsert _ | failed => exact held
  | ask _ => simp only [step]; split <;> nofun
  | insertCospace _ | removeScheduled | hosted | abandoned => nofun

end Placement

def Event.places (x : CospaceId) : Event → Bool
  | .place y _ => y = x
  | _ => false

/-! ### Each task returns -/

section Advance
variable {x : CospaceId} {m : Manager}

theorem placesOwner {e : Event} (own : e.owner ≠ some x) : e.places x = false := by
  cases e <;> simp_all [Event.places, Event.owner]

theorem stepPlacement {p : Placement} (e : Event) (placed : m.placements x = some p)
    (fresh : e.spawns x = false) : ∃ o, (m.step e).placements x =
      some (if e.places x then (p.step x o m.hostedCospaces m.workers).1 else p) := by
  by_cases own : e.owner = some x
  · cases e with
    | place y o => cases own; exact ⟨o, by simp [Manager.step, Manager.place, placed, Event.places]⟩
    | removeCospace y => exact ⟨{}, by simpa [Event.places] using placed⟩
    | realtimeStatus _ | statusLookup _ => cases own
    | spawnCospaceInMainNode y t | spawnCospaceInSharedNode y t
    | spawnCospaceInDedicatedNode y t _ => cases own; simp [Event.spawns] at fresh
  · exact ⟨{}, by simpa [placesOwner own] using (stepOther m e own).2 ▸ placed⟩

theorem stepAdvances {p : Placement} (e : Event) (placed : m.placements x = some p)
    (fresh : e.spawns x = false) :
    ∃ q, (m.step e).placements x = some q ∧ q.rank ≤ p.rank - (if e.places x then 1 else 0) := by
  obtain ⟨o, moved⟩ := stepPlacement e placed fresh
  exact ⟨_, moved, by cases e.places x <;> simp [p.stepRank]⟩

theorem runAdvances : ∀ (es : List Event) (m : Manager) (p : Placement),
    m.placements x = some p → es.countP (Event.spawns x) = 0 →
    ∃ q, (m.run es).placements x = some q ∧ q.rank ≤ p.rank - es.countP (Event.places x)
  | [], _, p, placed, _ => ⟨p, placed, le_rfl⟩
  | e :: es, m, p, placed, fresh => by
    simp only [List.countP_cons, Nat.add_eq_zero, ite_eq_right_iff, one_ne_zero, imp_false,
      Bool.not_eq_true] at fresh
    obtain ⟨q, hq, le⟩ := stepAdvances e placed fresh.2
    obtain ⟨r, hr, le'⟩ := runAdvances es _ q hq fresh.1
    refine ⟨r, hr, ?_⟩
    rw [List.countP_cons]
    omega

end Advance

/-! ### Where a returned task leaves its cospace -/

def WorkersHeld (x : CospaceId) (m : Manager) : Prop :=
  ∀ l ∈ (m.placements x).elim (some []) Placement.heldWorkers,
    m.workers.filter (·.2 = x) = l.map (·, x)

section Workers
variable {x : CospaceId} {m : Manager}

theorem workersHeldInit (x : CospaceId) : WorkersHeld x Manager.init := by
  simp [WorkersHeld, Manager.init, Table.empty]

theorem stepWorkersOther (e : Event) (own : e.owner ≠ some x) :
    (m.step e).workers.filter (·.2 = x) = m.workers.filter (·.2 = x) := by
  cases e with
  | place y o =>
    simp only [Manager.step, Manager.place]
    split
    · exact Placement.stepWorkersNe _ fun e => own (by rw [e]; rfl)
    · rfl
  | _ => simp [Manager.step, Manager.spawnCospaceInMainNode, Manager.spawnCospaceInSharedNode,
      Manager.spawnCospaceInDedicatedNode, spawnCospaceSpec]

theorem stepWorkersHeld (e : Event) (inv : WorkersHeld x m)
    (fresh : m.placements x ≠ none → e.spawns x = false) : WorkersHeld x (m.step e) := by
  by_cases own : e.owner = some x
  · cases e with
    | place y o =>
      cases own
      cases hp : m.placements x with
      | none => simpa only [WorkersHeld, Manager.step, Manager.place, hp] using inv
      | some p =>
        rw [WorkersHeld, hp] at inv
        simpa only [WorkersHeld, Manager.step, Manager.place, hp, Table.insertSelf] using
          p.stepHeld inv
    | removeCospace y => exact inv
    | realtimeStatus _ | statusLookup _ => cases own
    | spawnCospaceInMainNode y t | spawnCospaceInSharedNode y t
    | spawnCospaceInDedicatedNode y t _ =>
      cases own
      have unplaced : m.placements x = none := by
        by_contra hn
        simpa [Event.spawns] using fresh hn
      have none : m.workers.filter (·.2 = x) = [] := inv [] (by rw [unplaced]; rfl)
      simp only [WorkersHeld, Manager.step, Manager.spawnCospaceInMainNode,
        Manager.spawnCospaceInSharedNode, Manager.spawnCospaceInDedicatedNode, spawnCospaceSpec,
        Table.insertSelf, Option.elim, if_true]
      (try split) <;> rintro l ⟨⟩ <;> exact none
  · unfold WorkersHeld at inv ⊢
    rw [stepWorkersOther e own, (stepOther m e own).2]
    exact inv

end Workers

theorem placementLifecycle :
    (∀ (pre post : List Event) (x : CospaceId) (p : Placement),
      (Manager.init.run pre).placements x = some p → post.countP (Event.spawns x) = 0 →
      5 ≤ post.countP (Event.places x) →
      ∃ q, ((Manager.init.run pre).run post).placements x = some q ∧ q.finished = true) ∧
    (∀ (es : List Event) (x : CospaceId) (q : Placement),
      es.countP (Event.spawns x) ≤ 1 → Event.removeCospace x ∉ es →
      (Manager.init.run es).placements x = some q → q.finished = true →
      (q = .hosted ∧ (Manager.init.run es).hostedCospaces.presence x.uuid = ⟨false, false, true⟩) ∨
      (q = .failed ∧ (Manager.init.run es).hostedCospaces.presence x.uuid = ⟨false, true, false⟩ ∧
        ∀ n, (n, x) ∉ (Manager.init.run es).workers) ∨
      (q = .abandoned ∧
        (Manager.init.run es).hostedCospaces.presence x.uuid = ⟨true, false, false⟩)) := by
  refine ⟨fun pre post x p placed fresh steps => ?_, fun es x q once kept placed done => ?_⟩
  · obtain ⟨q, hq, le⟩ := runAdvances post _ p placed fresh
    exact ⟨q, hq, Placement.rankFinished (by have := p.rankLe; omega)⟩
  · have once' : es.countP (Event.spawns x) ≤
        (if Manager.init.placements x = none then 1 else 0) := by simpa [Manager.init] using once
    have tracks := runTracks es _ (tracksInit x) once' kept
    have held := runKeeps (WorkersHeld x) (fun _ e inv fresh _ => stepWorkersHeld e inv fresh)
      es _ (workersHeldInit x) once' kept
    simp only [Tracks, placed, Option.map_some', Option.getD_some] at tracks
    simp only [WorkersHeld, placed, Option.elim] at held
    cases q <;> simp only [Placement.finished, Bool.false_eq_true] at done
    · exact .inl ⟨rfl, tracks⟩
    · exact .inr (.inl ⟨rfl, tracks, fun n hn => List.filter_eq_nil_iff.mp (held [] rfl) _ hn (by simp)⟩)
    · exact .inr (.inr ⟨rfl, tracks⟩)

theorem placementLeavesScheduled :
    (Manager.init.spawnCospaceInDedicatedNode ⟨0⟩ 0 false).2 = .error () ∧
    (Manager.init.spawnCospaceInDedicatedNode ⟨0⟩ 0 false).1.hostedCospaces.presence 0 =
      ⟨true, false, false⟩ ∧
    (Manager.init.spawnCospaceInDedicatedNode ⟨0⟩ 0 true).2 = .ok ⟨0⟩ ∧
    (Manager.init.run [.spawnCospaceInDedicatedNode ⟨0⟩ 0 true, .place ⟨0⟩ { node := some 1 },
      .place ⟨0⟩ { remoteAddr := true }, .place ⟨0⟩ { created := some none }]).placements ⟨0⟩ =
      some .abandoned ∧
    (Manager.init.run [.spawnCospaceInDedicatedNode ⟨0⟩ 0 true, .place ⟨0⟩ { node := some 1 },
      .place ⟨0⟩ { remoteAddr := true }, .place ⟨0⟩ { created := some none }]).hostedCospaces.presence
      0 = ⟨true, false, false⟩ ∧
    (Manager.init.run [.spawnCospaceInDedicatedNode ⟨0⟩ 0 true, .place ⟨0⟩ { node := some 1 },
      .place ⟨0⟩ { remoteAddr := true }, .place ⟨0⟩ { created := some none }]).workers = [(1, ⟨0⟩)] :=
  ⟨rfl, rfl, rfl, rfl, rfl, rfl⟩

end Fasttravel
