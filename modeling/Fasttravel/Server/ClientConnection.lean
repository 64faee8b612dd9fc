import Fasttravel.Server.Messages

/-! `client_connection_actor.rs`: the endpoint of one socket. A handler returns the
effects it hands to the rest of the system: frames on the socket channel, tells to the
cospace or to the connection service, spawned ask tasks and completed promises. The
socket channel is unbounded and its receiver lives as long as the outgoing socket loop,
so a send on it never fails. `request_id_counter += 1` is a wrapping `u32` add. -/
namespace Fasttravel
open Proto

structure ResponsePromise where
  tx : Nat
  deriving DecidableEq, Repr

inductive AskTarget
  | connService | cospace
  deriving DecidableEq, Repr

structure AskTask where
  target : AskTarget
  msg : ClientMessage
  requestId : UInt32
  service : RealtimeService
  deriving DecidableEq, Repr

inductive Effect
  | socket (frame : WsMessage)
  | cospaceTell (msg : ClientMessage)
  | connTell (msg : ClientMessage)
  | spawn (task : AskTask)
  | complete (tx : Nat) (bytes : ProtoBytes)
  deriving DecidableEq, Repr

structure ClientConnectionActor where
  clientId : ClientId
  requestIdCounter : UInt32
  servicePromises : Table UInt32 ResponsePromise

namespace ClientConnectionActor
variable (P : Bindings)

def new (clientId : ClientId) : ClientConnectionActor := ⟨clientId, 0, Table.empty⟩

def recvProtoTellFromClient (a : ClientConnectionActor) (payload : ProtoPayloadTell) :
    List Effect :=
  let clientMsg : ClientMessage :=
    ⟨.tell (.service payload.service), a.clientId, .binary payload.bytes⟩
  if payload.service = .connection then [.connTell clientMsg] else [.cospaceTell clientMsg]

def recvProtoReqFromClient (a : ClientConnectionActor) (payload : ProtoPayloadRequest) :
    List Effect :=
  let clientMsg : ClientMessage := ⟨.ask payload.service, a.clientId, .binary payload.bytes⟩
  let target := if payload.service = .connection then AskTarget.connService else .cospace
  [.spawn ⟨target, clientMsg, payload.requestId, payload.service⟩]

def recvProtoResFromClient (a : ClientConnectionActor) (payload : ProtoPayloadResponse) :
    ClientConnectionActor × List Effect :=
  match a.servicePromises payload.responseId with
  | some promise => ({ a with servicePromises := a.servicePromises.remove payload.responseId },
      [.complete promise.tx payload.bytes])
  | none => (a, [])

def recvProtoMsgFromClient (a : ClientConnectionActor) (protoBytes : ProtoBytes) :
    ClientConnectionActor × List Effect :=
  match processRealtimeMessage P protoBytes with
  | .tell payload => (a, a.recvProtoTellFromClient payload)
  | .request payload => (a, a.recvProtoReqFromClient payload)
  | .response payload => a.recvProtoResFromClient payload
  | .undefined => (a, [])

def recvTextMessageFromClient (a : ClientConnectionActor) (text : String) : List Effect :=
  [.cospaceTell ⟨.tell (.broadcast .default), a.clientId, .text text⟩]

def recvSocketMsgFromClient (a : ClientConnectionActor) :
    WsMessage → ClientConnectionActor × List Effect
  | .binary protoBytes => a.recvProtoMsgFromClient P protoBytes
  | .text text => (a, a.recvTextMessageFromClient text)
  | _ => (a, [])

def recvReqFromService (a : ClientConnectionActor) (msg : ServiceMessage) (tx : Nat) :
    ClientConnectionActor × List Effect × Option Nat :=
  match msg.payload with
  | .binary protoBytes =>
    let requestId := a.requestIdCounter
    let a := { a with requestIdCounter := a.requestIdCounter + 1 }
    match createRequestMessageFromServicePayload P requestId msg.sender protoBytes with
    | some protoMsg => ({ a with servicePromises := a.servicePromises.insert requestId ⟨tx⟩ },
        [.socket (.binary protoMsg)], some tx)
    | none => (a, [], none)
  | .text _ => (a, [], none)

def recvTellFromService (msg : ServiceMessage) : List Effect :=
  [.socket (match msg.payload with
    | .text t => .text t
    | .binary b => .binary b)]

def recvMsgFromService (a : ClientConnectionActor) (msg : ServiceMessage) (tx : Nat) :
    ClientConnectionActor × List Effect × Option Nat :=
  match msg.route with
  | .ask _ => a.recvReqFromService P msg tx
  | .tell _ => (a, recvTellFromService msg, none)
  | .undefined => (a, [], none)

end ClientConnectionActor

/-- The frames the spawned task enqueues once its ask is answered: `Ok(Some bytes)` is
`some bytes`, while `Ok(None)` and `Err` are `none`. -/
def AskTask.run (P : Bindings) (task : AskTask) : Option ProtoBytes → List WsMessage
  | some responseBytes =>
    match createResponseMessageFromServicePayload P task.requestId task.service responseBytes with
    | some resMsg => [.binary resMsg]
    | none => []
  | none => []

namespace ClientConnectionActor
variable {P : Bindings}

theorem tellFromServiceRaw (a : ClientConnectionActor) (sender : RealtimeService)
    (r : ServiceMessageRecipient) (p : ProtoBytes) (tx : Nat) :
    a.recvMsgFromService P ⟨sender, .tell r, .binary p⟩ tx = (a, [.socket (.binary p)], none) :=
  rfl

theorem coreTellUndecodable (a : ClientConnectionActor) (r : ServiceMessageRecipient) (tx : Nat) :
    a.recvMsgFromService P ⟨.core, .tell r, .binary ((P.service .core).encode (P.service .core).dflt)⟩
      tx = (a, [.socket (.binary [])], none) ∧ processRealtimeMessage P [] = .undefined := by
  rw [(P.service .core).encodeDflt]
  exact ⟨rfl, by simp [processRealtimeMessage, P.decodeNil, processHeaderAndMessage]⟩

theorem reqFromServiceFrame (a : ClientConnectionActor) {sender : RealtimeService}
    (framed : Framed sender) (m : P.Msg sender) (client : ClientId) (tx : Nat) :
    let out := a.recvMsgFromService P ⟨sender, .ask client, .binary ((P.service sender).encode m)⟩ tx
    out.2.2 = some tx ∧ out.1.servicePromises = a.servicePromises.insert a.requestIdCounter ⟨tx⟩ ∧
      out.1.requestIdCounter = a.requestIdCounter + 1 ∧
      ∃ frame, out.2.1 = [.socket (.binary frame)] ∧
        createRequestMessageFromServicePayload P a.requestIdCounter sender
          ((P.service sender).encode m) = some frame := by
  obtain ⟨body, hb, -⟩ := createRtFramed framed m
  have hframe : createRequestMessageFromServicePayload P a.requestIdCounter sender
      ((P.service sender).encode m) =
      some (P.realtime.encode { header := some { requestId := a.requestIdCounter }, body := some body }) := by
    simp [createRequestMessageFromServicePayload, hb]
  simp [recvMsgFromService, recvReqFromService, hframe]

theorem reqFromServiceCorrelated (a : ClientConnectionActor) {sender : RealtimeService}
    (framed : Framed sender) (m : P.Msg sender) (client : ClientId) (tx : Nat)
    (nonzero : a.requestIdCounter ≠ 0) :
    let out := a.recvMsgFromService P ⟨sender, .ask client, .binary ((P.service sender).encode m)⟩ tx
    out.2.2 = some tx ∧ out.1.servicePromises a.requestIdCounter = some ⟨tx⟩ ∧
      ∃ frame, out.2.1 = [.socket (.binary frame)] ∧
        processRealtimeMessage P frame = .request ⟨a.requestIdCounter, sender, (P.service sender).encode m⟩ := by
  obtain ⟨hp, ht, -, frame, hf, hc⟩ := reqFromServiceFrame a framed m client tx
  obtain ⟨frame', hc', hr⟩ := requestRoundTrip framed m _ nonzero
  rw [hc] at hc'; cases hc'
  exact ⟨hp, by simp [ht], frame, hf, hr⟩

theorem firstAskIdZero (c client : ClientId) (tx : Nat) :
    let out := (new c).recvMsgFromService P
      ⟨.core, .ask client, .binary ((P.service .core).encode (P.service .core).dflt)⟩ tx
    out.2.2 = some tx ∧ out.1.servicePromises 0 = some ⟨tx⟩ ∧
      ∃ frame, out.2.1 = [.socket (.binary frame)] ∧
        processRealtimeMessage P frame =
          .tell ⟨.core, (P.service .core).encode (P.service .core).dflt⟩ := by
  obtain ⟨hp, ht, -, frame, hf, hc⟩ := reqFromServiceFrame (new c) (Or.inr rfl) (P.service .core).dflt
    client tx
  obtain ⟨frame', hc', hr⟩ := requestZeroIsTell (show Framed .core from Or.inr rfl) (P.service .core).dflt
  rw [show (new c).requestIdCounter = 0 from rfl, hc'] at hc; cases hc
  exact ⟨hp, by rw [ht]; exact Table.insertSelf _ _ _, frame, hf, hr⟩

theorem socketRequest (a : ClientConnectionActor) {b : ProtoBytes} {p : ProtoPayloadRequest}
    (h : processRealtimeMessage P b = .request p) :
    a.recvSocketMsgFromClient P (.binary b) = (a, a.recvProtoReqFromClient p) := by
  simp [recvSocketMsgFromClient, recvProtoMsgFromClient, h]

theorem runFramed {task : AskTask} (framed : Framed task.service) (y : P.Msg task.service)
    (nonzero : task.requestId ≠ 0) : ∃ frame, task.run P (some ((P.service task.service).encode y)) =
      [.binary frame] ∧ processRealtimeMessage P frame =
        .response ⟨task.requestId, task.service, (P.service task.service).encode y⟩ := by
  obtain ⟨frame, hc, hr⟩ := responseRoundTrip framed y _ nonzero
  exact ⟨frame, by simp [AskTask.run, hc], hr⟩

theorem runUnframed {task : AskTask} (unframed : ¬ Framed task.service) (r : ProtoBytes) :
    task.run P (some r) = [] := by
  simp [AskTask.run, createResponseMessageFromServicePayload, createRtUnframed unframed]

theorem answeredRequestResponds (a : ClientConnectionActor) {b : ProtoBytes} {i : UInt32}
    {s : RealtimeService} {q : ProtoBytes} (h : processRealtimeMessage P b = .request ⟨i, s, q⟩)
    (y : P.Msg s) :
    ∃ task, a.recvSocketMsgFromClient P (.binary b) = (a, [.spawn task]) ∧
      task.target = (if s = .connection then .connService else .cospace) ∧
      task.msg = ⟨.ask s, a.clientId, .binary q⟩ ∧
      (Framed s → ∃ frame, task.run P (some ((P.service s).encode y)) = [.binary frame] ∧
        processRealtimeMessage P frame = .response ⟨i, s, (P.service s).encode y⟩) ∧
      (¬ Framed s → task.run P (some ((P.service s).encode y)) = []) :=
  ⟨_, socketRequest a h, rfl, rfl,
    fun framed => @runFramed P ⟨_, _, i, s⟩ framed y (processRequestSpec h).1,
    fun unframed => @runUnframed P ⟨_, _, i, s⟩ unframed _⟩

theorem coreRequestResponds :
    processRealtimeMessage Bindings.tagged
        (Bindings.tagged.realtime.encode { header := some { requestId := 1 }, body := some (.coreMsg []) }) =
      .request ⟨1, .core, []⟩ ∧
    ∃ task, (new ⟨1, ⟨0⟩⟩).recvSocketMsgFromClient Bindings.tagged (.binary
        (Bindings.tagged.realtime.encode { header := some { requestId := 1 }, body := some (.coreMsg []) })) =
        (new ⟨1, ⟨0⟩⟩, [.spawn task]) ∧
      task.target = (if RealtimeService.core = .connection then .connService else .cospace) ∧
      task.msg = ⟨.ask .core, ⟨1, ⟨0⟩⟩, .binary []⟩ ∧
      (Framed .core → ∃ frame, task.run Bindings.tagged (some []) = [.binary frame] ∧
        processRealtimeMessage Bindings.tagged frame = .response ⟨1, .core, []⟩) ∧
      (¬ Framed .core → task.run Bindings.tagged (some []) = []) := by
  have h : processRealtimeMessage Bindings.tagged
      (Bindings.tagged.realtime.encode { header := some { requestId := 1 }, body := some (.coreMsg []) }) =
      .request ⟨1, .core, []⟩ := by
    simp only [processRealtimeMessage, Codec.decodeEncode]
    exact processRequestHeader 1 (by decide) rfl
  exact ⟨h, answeredRequestResponds (new ⟨1, ⟨0⟩⟩) h ([] : ProtoBytes)⟩

theorem presenceRequestUnanswered :
    processRealtimeMessage Bindings.tagged
        (Bindings.tagged.realtime.encode { header := some { requestId := 1 }, body := some (.presenceMsg []) }) =
      .request ⟨1, .presence, []⟩ ∧
    ∃ task, (new ⟨1, ⟨0⟩⟩).recvSocketMsgFromClient Bindings.tagged (.binary
        (Bindings.tagged.realtime.encode { header := some { requestId := 1 }, body := some (.presenceMsg []) })) =
        (new ⟨1, ⟨0⟩⟩, [.spawn task]) ∧ task.run Bindings.tagged (some []) = [] := by
  have h : processRealtimeMessage Bindings.tagged
      (Bindings.tagged.realtime.encode { header := some { requestId := 1 }, body := some (.presenceMsg []) }) =
      .request ⟨1, .presence, []⟩ := by
    simp only [processRealtimeMessage, Codec.decodeEncode]
    exact processRequestHeader 1 (by decide) rfl
  exact ⟨h, _, socketRequest _ h, runUnframed (by decide) _⟩

/-! The server promise table over runs of the endpoint's mailbox. -/

inductive Event
  | socket (msg : WsMessage)
  | service (msg : ServiceMessage) (tx : Nat)

variable (P) in
def handle (a : ClientConnectionActor) : Event → ClientConnectionActor × List Effect
  | .socket msg => a.recvSocketMsgFromClient P msg
  | .service msg tx => let out := a.recvMsgFromService P msg tx; (out.1, out.2.1)

variable (P) in
def run (a : ClientConnectionActor) : List Event → ClientConnectionActor
  | [] => a
  | e :: es => (a.handle P e).1.run es

end ClientConnectionActor
end Fasttravel
