import Fasttravel.Server.Ordering
import Fasttravel.Server.Routing

/-! `service_pool.rs` and the `ClientMessage` handler of `cospace_actor.rs`: how what a
client connection forwards reaches the services of its cospace. A pool runs Core, Presence,
Activity and Model; `ServicePoolMessenger::tell` and `broadcast` unwrap the address
`message_addr` gives, so a tell to any other service panics the cospace actor, and a
handler result of `none` is that panic. The `ClientConnectionMessage` messenger has the same
address table. -/
namespace Fasttravel
open Proto

structure ServiceAddr where
  pool : Nat
  service : Services
  deriving DecidableEq, Repr

namespace ServicePoolMessenger

def messageAddr (pool : Nat) : Services → Option ServiceAddr
  | .core => some ⟨pool, .core⟩
  | .presence => some ⟨pool, .presence⟩
  | .activity => some ⟨pool, .activity⟩
  | .model => some ⟨pool, .model⟩
  | _ => none

def tell (pool : Nat) (service : Services) : Option (List ServiceAddr) :=
  (messageAddr pool service).map fun addr => [addr]

def broadcast (pool : Nat) : Option (List ServiceAddr) :=
  [Services.core, .presence, .activity, .model].mapM (messageAddr pool)

theorem messageAddrRealtime (pool : Nat) (s : RealtimeService) :
    (∃ addr, messageAddr pool (getServerServiceFromRealtimeService s) = some addr) ↔
      s ≠ .undefined ∧ s ≠ .connection := by
  cases s <;> simp [messageAddr, getServerServiceFromRealtimeService]

theorem broadcastSpec (pool : Nat) :
    broadcast pool = some [⟨pool, .core⟩, ⟨pool, .presence⟩, ⟨pool, .activity⟩, ⟨pool, .model⟩] :=
  rfl

end ServicePoolMessenger

inductive Dispatch
  | tell (addr : ServiceAddr)
  | ask (addr : ServiceAddr)
  deriving DecidableEq, Repr

/-- `MessageClusterHandler<ClientMessage>::handle`; `none` is a panic. An ask for a service
with no address answers `None` at once. -/
def CospaceActor.handleClientMessage (a : CospaceActor) (msg : ClientMessage) :
    Option (List Dispatch) :=
  match msg.route with
  | .tell (.service service) =>
    (ServicePoolMessenger.tell a.services (getServerServiceFromRealtimeService service)).map
      (·.map .tell)
  | .tell (.broadcast _) => (ServicePoolMessenger.broadcast a.services).map (·.map .tell)
  | .ask service =>
    some ((ServicePoolMessenger.messageAddr a.services
      (getServerServiceFromRealtimeService service)).toList.map .ask)
  | .undefined => some []

def ClientMessage.routable (msg : ClientMessage) : Bool :=
  match msg.route with
  | .tell (.service s) => s ≠ .undefined && s ≠ .connection
  | _ => true

theorem CospaceActor.handleClientMessageSome (a : CospaceActor) (msg : ClientMessage) :
    (a.handleClientMessage msg).isSome = msg.routable := by
  obtain ⟨route, _, _⟩ := msg
  rcases route with _ | ⟨s | _⟩ | _ <;>
    simp [handleClientMessage, ClientMessage.routable, ServicePoolMessenger.tell,
      ServicePoolMessenger.broadcastSpec]
  cases s <;> simp [ServicePoolMessenger.messageAddr, getServerServiceFromRealtimeService]

theorem routableOfAsk {msg : ClientMessage} (h : msg.isTell = false) : msg.routable := by
  obtain ⟨route, _, _⟩ := msg
  rcases route with _ | _ | _ <;> simp_all [ClientMessage.isTell, ClientMessage.routable]

namespace ClientConnectionActor
variable {P : Bindings}

theorem tellsRoutable (a : ClientConnectionActor) (f : WsMessage) :
    ∀ m ∈ cospaceTells (a.recvSocketMsgFromClient P f).2, m.routable := by
  rcases f with text | bytes | _ | _ | _
  · simp [recvSocketMsgFromClient, recvTextMessageFromClient, cospaceTells, ClientMessage.routable]
  · simp only [recvSocketMsgFromClient, recvProtoMsgFromClient]
    cases hp : processRealtimeMessage P bytes with
    | tell payload =>
      simp only [recvProtoTellFromClient]
      split <;> simp [cospaceTells, ClientMessage.routable, processTellSpec hp, *]
    | response payload => simp only [recvProtoResFromClient]; split <;> simp [cospaceTells]
    | _ => simp [recvProtoReqFromClient, cospaceTells]
  all_goals simp [recvSocketMsgFromClient, cospaceTells]

end ClientConnectionActor

namespace Pump
variable {P : Bindings}

def Routable (s : Pump) : Prop := (∀ m ∈ s.cospace, m.routable) ∧ ∀ t ∈ s.tasks, t.msg.routable

theorem stepRoutable {s : Pump} (h : s.Routable) (e : Sched) : (s.step P e).Routable := by
  obtain ⟨received, pending⟩ := h
  rcases e with _ | _ | i <;> simp only [step]
  · split <;> exact ⟨received, pending⟩
  · split
    · have asks := (socketEffects (P := P) s.actor ‹_›).2.2.2.2
      refine ⟨fun m hm => ?_, fun t ht => ?_⟩
      · rcases List.mem_append.mp hm with hm | hm
        · exact received m hm
        · exact s.actor.tellsRoutable _ m hm
      · rcases List.mem_append.mp ht with ht | ht
        · exact pending t ht
        · exact routableOfAsk (asks t ht)
    · exact ⟨received, pending⟩
  · split
    · rename_i t ht
      have polled := pending t (List.getElem?_mem ht)
      have appended : ∀ m ∈ s.cospace ++ [t.msg], m.routable := fun m hm =>
        (List.mem_append.mp hm).elim (received m) fun h => List.mem_singleton.mp h ▸ polled
      have erased : ∀ t' ∈ s.tasks.erase t, t'.msg.routable := fun t' ht' =>
        pending t' (List.mem_of_mem_erase ht')
      split
      exacts [⟨appended, erased⟩, ⟨received, erased⟩]
    · exact ⟨received, pending⟩

theorem runRoutable : ∀ (scheds : List Sched) (s : Pump), s.Routable → (s.run P scheds).Routable
  | [], _, h => h
  | e :: es, _, h => runRoutable es _ (stepRoutable h e)

end Pump

theorem clientInputHandled :
    (∀ (P : Bindings) (frames : List WsMessage) (actor : ClientConnectionActor)
      (scheds : List Sched) (c : CospaceActor),
      ∀ msg ∈ ((Pump.init frames actor).run P scheds).cospace,
        ∃ ds, c.handleClientMessage msg = some ds) ∧
    (∀ (P : Bindings) (body : Body P.Msg) (s : RealtimeService) (q : ProtoBytes) (pool : Nat),
      extractServicePayloadFromRtMessage P body = some (s, q) → s ≠ .connection →
        ∃ addr, ServicePoolMessenger.messageAddr pool (getServerServiceFromRealtimeService s) =
          some addr) := by
  refine ⟨fun P frames actor scheds c msg hm => ?_, fun P body s q pool hs conn => ?_⟩
  · have routable := (Pump.runRoutable scheds _ ⟨by simp [Pump.init], by simp [Pump.init]⟩).1 msg hm
    rw [← c.handleClientMessageSome] at routable
    exact Option.isSome_iff_exists.mp routable
  · exact (ServicePoolMessenger.messageAddrRealtime pool s).2 ⟨extractService hs, conn⟩

example : ((Pump.init [.text "hi"] (ClientConnectionActor.new ⟨1, ⟨0⟩⟩)).run Bindings.tagged
    [.read, .handle]).cospace = [⟨.tell (.broadcast .default), ⟨1, ⟨0⟩⟩, .text "hi"⟩] := rfl

example : (CospaceActor.new ⟨0⟩ 3).handleClientMessage
    ⟨.tell (.service .connection), ⟨1, ⟨0⟩⟩, .binary []⟩ = none := rfl

end Fasttravel
