import Fasttravel.Client.MessageBroker
import Fasttravel.Server.ConnectionService
import Fasttravel.Server.ServiceActor

/-! One client session over one socket: the broker of `message_broker.rs` with the
`ConnectionServiceKernel` of `delegate_connection.rs`, the endpoint of
`client_connection_actor.rs` with the ask tasks it spawns, the connection service of
`client_connection_service_actor.rs`, and the cospace with its service pool. Frames keep
their order each way and the endpoint handles them one at a time; tasks are answered, and
the services' tells reach the socket channel, in any order. An ask is answered in one step:
neither the connection service's answer nor the cospace's and its services' depends on
their state. Every tell a service makes while handling this client's message is taken to
reach this socket, as the Mocker's reply to its sender does. The client sends no response
frames (the server sends it no requests), and a connection tell's answer is dropped. -/
namespace Fasttravel
open Proto Client

def ConnectionServiceKernel.handshakeSuccess {P : Bindings} (C : ConnectionSchema P) :
    Option ProtoBytes → Bool
  | some res =>
    match decodeConnectionMessageAndExtractPayload C res with
    | some (.handshakeRes success) => success
    | _ => false
  | none => false

structure Backend (P : Bindings) where
  schema : ConnectionSchema P
  connService : ClientConnectionServiceActor
  cospace : CospaceActor
  service : Services → Service

namespace Backend
variable {P : Bindings} (B : Backend P)

def mocked (C : ConnectionSchema P) (connService : ClientConnectionServiceActor)
    (cospace : CospaceActor) : Backend P :=
  ⟨C, connService, cospace, fun _ => mocker⟩

def answer (target : AskTarget) (msg : ClientMessage) : Option ProtoBytes :=
  match target with
  | .connService => B.connService.handleClientMessage B.schema msg
  | .cospace =>
    match B.cospace.handleClientMessage msg with
    | some [.ask addr] => (ServiceActor.handleClientMessage (B.service addr.service) msg).2
    | _ => none

def tellFrames (msg : ClientMessage) : List WsMessage :=
  ((B.cospace.handleClientMessage msg).getD []).flatMap fun
    | .tell addr => (ServiceActor.handleClientMessage (B.service addr.service) msg).1.map
        ContextCall.frame
    | .ask _ => []

/-- The result a call with these arguments gets, as the client decodes it: the answer to
the framed request, framed again. -/
def expected (client : ClientId) (service : RealtimeService) (payload : ProtoBytes) :
    Option ProtoBytes :=
  (framedPayload P service payload).bind fun q =>
    (B.answer (if service = .connection then .connService else .cospace)
      ⟨.ask service, client, .binary q⟩).bind (framedPayload P service)

end Backend

structure Session where
  client : World
  requests : List (RealtimeService × ProtoBytes)
  up : List WsMessage
  served : Nat
  endpoint : ClientConnectionActor
  tasks : List AskTask
  replies : List WsMessage
  down : List WsMessage

namespace Session

def init (client : ClientId) : Session := ⟨World.init, [], [], 0, .new client, [], [], []⟩

def onMessage (P : Bindings) (w : World) : WsMessage → World
  | .binary bytes => w.recvMsgFromServer P (.binary bytes)
  | .text text => w.recvMsgFromServer P (.text text)
  | _ => w

inductive Event
  | call (service : RealtimeService) (payload : ProtoBytes) (sendOk : Bool)
  | sendText (text : String)
  | serve
  | answer (i : Nat)
  | reply (i : Nat)
  | deliver
  | resume (i : Nat)

def Event.isCall : Event → Bool
  | .call .. => true
  | _ => false

variable {P : Bindings} (B : Backend P)

def step (s : Session) : Event → Session
  | .call service payload sendOk =>
    let client := s.client.sendProtoRequestToServer P service payload sendOk
    { s with client, requests := s.requests ++ [(service, payload)],
             up := s.up ++ (client.sent.drop s.client.sent.length).map .binary }
  | .sendText text => { s with up := s.up ++ [.text text] }
  | .serve =>
    match s.up[s.served]? with
    | some frame =>
      let out := s.endpoint.recvSocketMsgFromClient P frame
      { s with served := s.served + 1, endpoint := out.1, tasks := s.tasks ++ spawned out.2,
               replies := s.replies ++ (cospaceTells out.2).flatMap B.tellFrames }
    | none => s
  | .answer i =>
    match s.tasks[i]? with
    | some task =>
      { s with tasks := s.tasks.erase task,
               down := s.down ++ task.run P (B.answer task.target task.msg) }
    | none => s
  | .reply i =>
    match s.replies[i]? with
    | some frame => { s with replies := s.replies.erase frame, down := s.down ++ [frame] }
    | none => s
  | .deliver =>
    match s.down with
    | frame :: rest => { s with client := onMessage P s.client frame, down := rest }
    | [] => s
  | .resume i => { s with client := s.client.resume i }

def run (s : Session) : List Event → Session
  | [] => s
  | e :: es => (s.step B e).run es

end Session

/-! ### What a call does to the socket, and what a held borrow says -/

namespace Client.World
variable {P : Bindings}

theorem callCases (w : World) (service : RealtimeService) (payload : ProtoBytes) (sendOk : Bool) :
    (w.broker.counterBorrowed = true ∧
      w.sendProtoRequestToServer P service payload sendOk = { w with calls := w.calls ++ [.panicked] }) ∨
    (w.broker.counterBorrowed = false ∧
      (((w.sendProtoRequestToServer P service payload sendOk).broker.counterBorrowed = false ∧
        (w.sendProtoRequestToServer P service payload sendOk).broker.servicePromises =
          w.broker.servicePromises ∧
        (w.sendProtoRequestToServer P service payload sendOk).calls = w.calls ++ [.returned none] ∧
        (w.sendProtoRequestToServer P service payload sendOk).sent = w.sent) ∨
      ∃ f, createRequestMessageFromServicePayload P (w.broker.requestIdCounter + 1) service payload =
          some f ∧
        (w.sendProtoRequestToServer P service payload sendOk).broker.counterBorrowed = true ∧
        (w.sendProtoRequestToServer P service payload sendOk).broker.servicePromises =
          w.broker.servicePromises.insert (w.broker.requestIdCounter + 1) ⟨w.calls.length⟩ ∧
        (w.sendProtoRequestToServer P service payload sendOk).calls =
          dropDisplaced w.calls (w.broker.servicePromises (w.broker.requestIdCounter + 1)) ++
            [.awaiting (w.broker.requestIdCounter + 1) none] ∧
        (w.sendProtoRequestToServer P service payload sendOk).sent = w.sent ++ [f])) := by
  unfold sendProtoRequestToServer
  by_cases b : w.broker.counterBorrowed
  · exact .inl ⟨b, by simp [b]⟩
  · have nb : w.broker.counterBorrowed = false := by simpa using b
    refine .inr ⟨nb, ?_⟩
    simp only [nb, if_false, Bool.false_eq_true]
    split
    · split
      · exact .inr ⟨_, ‹_›, rfl, rfl, rfl, rfl⟩
      · exact .inl ⟨rfl, rfl, rfl, rfl⟩
    · exact .inl ⟨rfl, rfl, rfl, rfl⟩

theorem sendAwaits (w : World) (nb : w.broker.counterBorrowed = false)
    {service : RealtimeService} {payload f : ProtoBytes}
    (hf : createRequestMessageFromServicePayload P (w.broker.requestIdCounter + 1) service payload = some f) :
    w.sendProtoRequestToServer P service payload true =
      ⟨{ w.broker with
          requestIdCounter := w.broker.requestIdCounter + 1
          servicePromises := w.broker.servicePromises.insert (w.broker.requestIdCounter + 1) ⟨w.calls.length⟩
          counterBorrowed := true },
        dropDisplaced w.calls (w.broker.servicePromises (w.broker.requestIdCounter + 1)) ++
          [.awaiting (w.broker.requestIdCounter + 1) none], w.sent ++ [f]⟩ := by
  simp [sendProtoRequestToServer, nb, hf]

theorem BorrowCount.borrowed {w : World} (h : w.BorrowCount) {i : Nat} {k : UInt32}
    {v : Option (Option ProtoBytes)} (hi : w.calls[i]? = some (.awaiting k v)) :
    w.broker.counterBorrowed = true := by
  obtain ⟨lt, at_i⟩ := List.getElem?_eq_some_iff.mp hi
  have one : 1 ≤ w.calls.countP RequestCall.holdsBorrow := by
    simpa [at_i, RequestCall.holdsBorrow] using
      List.boole_getElem_le_countP RequestCall.holdsBorrow w.calls i lt
  by_contra nb
  rw [BorrowCount, if_neg nb] at h
  omega

theorem BorrowCount.unique {w : World} (h : w.BorrowCount) {i j : Nat} {k k' : UInt32}
    {v v' : Option (Option ProtoBytes)} (hi : w.calls[i]? = some (.awaiting k v))
    (hj : w.calls[j]? = some (.awaiting k' v')) : i = j := by
  by_contra ne
  obtain ⟨lt, at_i⟩ := List.getElem?_eq_some_iff.mp hi
  obtain ⟨lt', at_j⟩ := List.getElem?_eq_some_iff.mp
    ((List.getElem?_set_ne ne (a := RequestCall.panicked)).trans hj)
  have one : 1 ≤ (w.calls.set i .panicked).countP RequestCall.holdsBorrow := by
    simpa [at_j, RequestCall.holdsBorrow] using
      List.boole_getElem_le_countP RequestCall.holdsBorrow _ j lt'
  have le : w.calls.countP RequestCall.holdsBorrow ≤ 1 := by rw [h]; split <;> omega
  rw [List.countP_set _ _ _ _ lt, at_i] at one
  simp only [RequestCall.holdsBorrow, if_true, Bool.false_eq_true, if_false] at one
  omega

end Client.World

def Client.RequestCall.result : RequestCall → Option ProtoBytes
  | .returned r => r
  | .awaiting _ (some r) => r
  | _ => none

theorem getElemAppendSome {α : Type} {l m : List α} {i : Nat} {a : α} (h : l[i]? = some a) :
    (l ++ m)[i]? = some a := by
  rw [List.getElem?_append_left (List.getElem?_eq_some_iff.mp h).1, h]

theorem getElemConcat {α : Type} {l : List α} {c a : α} {i : Nat} (h : (l ++ [c])[i]? = some a) :
    l[i]? = some a ∨ a = c := by
  by_cases lt : i < l.length
  · exact .inl (by rwa [List.getElem?_append_left lt] at h)
  · rw [List.getElem?_append_right (by omega)] at h
    exact .inr (List.mem_singleton.mp (List.getElem?_mem h))

theorem modifyConcat {α : Type} (g : α → α) (l : List α) (x : α) :
    (l ++ [x]).modify g l.length = l ++ [g x] := by
  induction l with
  | nil => rfl
  | cons y l ih => simp [ih]

/-! ### The one exchange in flight -/

namespace Session
variable {P : Bindings} {B : Backend P} {cid : ClientId}

def binaries (fs : List WsMessage) : List ProtoBytes :=
  fs.filterMap fun
    | .binary bytes => some bytes
    | _ => none

@[simp] theorem binariesNil : binaries [] = [] := rfl

@[simp] theorem binariesAppend (l m : List WsMessage) :
    binaries (l ++ m) = binaries l ++ binaries m :=
  List.filterMap_append ..

@[simp] theorem binariesBinary (b : ProtoBytes) (l : List WsMessage) :
    binaries (.binary b :: l) = b :: binaries l := rfl

theorem binariesEqNil {l : List WsMessage} : binaries l = [] ↔ ∀ b, WsMessage.binary b ∉ l := by
  simp only [binaries, List.filterMap_eq_nil_iff]
  constructor
  · intro h b hb
    simpa using h _ hb
  · intro h f hf
    cases f <;> first | rfl | exact absurd hf (h _)

theorem binariesOther {f : WsMessage} (h : ∀ b, f ≠ .binary b) (l : List WsMessage) :
    binaries (f :: l) = binaries l := by
  cases f <;> first | rfl | exact absurd rfl (h _)

inductive Phase
  | idle
  | sent (f : ProtoBytes)
  | asked (t : AskTask)
  | answered (f : ProtoBytes)

def Shape (s : Session) : Phase → Prop
  | .idle => binaries (s.up.drop s.served) = [] ∧ s.tasks = [] ∧ binaries s.down = []
  | .sent f => binaries (s.up.drop s.served) = [f] ∧ s.tasks = [] ∧ binaries s.down = []
  | .asked t => binaries (s.up.drop s.served) = [] ∧ s.tasks = [t] ∧ binaries s.down = []
  | .answered f => binaries (s.up.drop s.served) = [] ∧ s.tasks = [] ∧ binaries s.down = [f]

def Pending (s : Session) (i : Nat) (k : UInt32) (req : RealtimeService × ProtoBytes) : Prop :=
  s.client.broker.servicePromises k = some ⟨i⟩ ∧ s.requests[i]? = some req

def Owned (B : Backend P) (cid : ClientId) (s : Session) : Phase → Prop
  | .idle => True
  | .sent f => ∃ i k req, s.Pending i k req ∧
      createRequestMessageFromServicePayload P k req.1 req.2 = some f
  | .asked t => ∃ i k req, s.Pending i k req ∧ k ≠ 0 ∧ ∃ q, framedPayload P req.1 req.2 = some q ∧
      t = ⟨if req.1 = .connection then .connService else .cospace, ⟨.ask req.1, cid, .binary q⟩,
        k, req.1⟩
  | .answered f => ∃ i k req, s.Pending i k req ∧ ∃ r,
      processRealtimeMessage P f = .response ⟨k, req.1, r⟩ ∧ B.expected cid req.1 req.2 = some r

/-- The session invariant: the promise table points at the awaiting calls, every result is
the backend's answer to its call, the services' tells carry no binary frame, and at most one
exchange is in flight, that of the awaiting call. -/
structure Inv (B : Backend P) (cid : ClientId) (s : Session) : Prop where
  requests : s.requests.length = s.client.calls.length
  served : s.served ≤ s.up.length
  borrow : s.client.BorrowCount
  promises : ∀ (k : UInt32) (p : Client.ResponsePromise), s.client.broker.servicePromises k = some p →
    s.client.calls[p.tx]? = some (.awaiting k none)
  results : ∀ (i : Nat) (c : RequestCall) (r : ProtoBytes), s.client.calls[i]? = some c →
    c.result = some r → ∃ req : RealtimeService × ProtoBytes, s.requests[i]? = some req ∧
      B.expected cid req.1 req.2 = some r
  endpoint : s.endpoint.clientId = cid
  replies : binaries s.replies = []
  phase : ∃ ph, s.Shape ph ∧ Owned B cid s ph

theorem initInv (B : Backend P) (cid : ClientId) : Inv B cid (init cid) where
  requests := rfl
  served := le_refl _
  borrow := rfl
  promises _ _ h := by cases h
  results _ _ _ h := by simp [init, World.init] at h
  endpoint := rfl
  replies := rfl
  phase := ⟨.idle, ⟨rfl, rfl, rfl⟩, trivial⟩

theorem Owned.mono {s t : Session} (h : ∀ i k req, s.Pending i k req → t.Pending i k req) :
    ∀ {ph : Phase}, Owned B cid s ph → Owned B cid t ph
  | .idle, _ => trivial
  | .sent _, ⟨i, k, req, pend, rest⟩ => ⟨i, k, req, h i k req pend, rest⟩
  | .asked _, ⟨i, k, req, pend, rest⟩ => ⟨i, k, req, h i k req pend, rest⟩
  | .answered _, ⟨i, k, req, pend, rest⟩ => ⟨i, k, req, h i k req pend, rest⟩

theorem Shape.congr {s t : Session} (up : binaries (t.up.drop t.served) = binaries (s.up.drop s.served))
    (tasks : t.tasks = s.tasks) (down : binaries t.down = binaries s.down) {ph : Phase} :
    s.Shape ph → t.Shape ph := by
  cases ph <;> simp only [Shape, up, tasks, down] <;> exact id

theorem Inv.free {s : Session} (inv : Inv B cid s) (b : s.client.broker.counterBorrowed = false)
    (k : UInt32) : s.client.broker.servicePromises k = none := by
  cases h : s.client.broker.servicePromises k with
  | none => rfl
  | some p => rw [inv.borrow.borrowed (inv.promises k p h)] at b; cases b

theorem Inv.idle {s : Session} (inv : Inv B cid s) (b : s.client.broker.counterBorrowed = false) :
    s.Shape .idle := by
  obtain ⟨ph, shape, owned⟩ := inv.phase
  have none : ∀ {i k req}, ¬ s.Pending i k req := fun pend => by
    rw [Pending, inv.free b] at pend; cases pend.1
  cases ph with
  | idle => exact shape
  | sent _ | asked _ | answered _ =>
    obtain ⟨_, _, _, pend, -⟩ := owned
    exact absurd pend none

/-! ### One step keeps the invariant -/

theorem Inv.extend {s t : Session} (inv : Inv B cid s) (borrow : t.client.BorrowCount)
    {c : RequestCall} (calls : t.client.calls = s.client.calls ++ [c]) (unresolved : c.result = none)
    (table : t.client.broker.servicePromises = s.client.broker.servicePromises)
    {req : RealtimeService × ProtoBytes} (requests : t.requests = s.requests ++ [req])
    (up : t.up = s.up) (served : t.served = s.served) (endpoint : t.endpoint = s.endpoint)
    (tasks : t.tasks = s.tasks) (replies : t.replies = s.replies) (down : t.down = s.down) :
    Inv B cid t where
  requests := by simp [requests, calls, inv.requests]
  served := by rw [up, served]; exact inv.served
  borrow := borrow
  promises k p h := by
    rw [table] at h
    rw [calls]; exact getElemAppendSome (inv.promises k p h)
  results i c' r h hr := by
    rw [calls] at h
    rcases getElemConcat h with h | rfl
    · obtain ⟨req', hreq, hexp⟩ := inv.results i c' r h hr
      exact ⟨req', by rw [requests]; exact getElemAppendSome hreq, hexp⟩
    · rw [unresolved] at hr; cases hr
  endpoint := by rw [endpoint]; exact inv.endpoint
  replies := by rw [replies]; exact inv.replies
  phase := by
    obtain ⟨ph, shape, owned⟩ := inv.phase
    refine ⟨ph, shape.congr (by rw [up, served]) tasks (by rw [down]), owned.mono ?_⟩
    exact fun i k req pend => ⟨by rw [table]; exact pend.1, by rw [requests]; exact getElemAppendSome pend.2⟩

theorem callInv {s : Session} (inv : Inv B cid s) (service : RealtimeService) (payload : ProtoBytes)
    (sendOk : Bool) : Inv B cid (s.step B (.call service payload sendOk)) := by
  have borrow := World.stepBorrowCount (P := P) inv.borrow (.call service payload sendOk)
  rcases World.callCases (P := P) s.client service payload sendOk with
    ⟨-, eq⟩ | ⟨b, ⟨-, table, calls, sent⟩ | ⟨f, hf, -, table, calls, sent⟩⟩
  · exact inv.extend borrow (c := .panicked) (by simp [step, eq]) rfl (by simp [step, eq]) rfl
      (by simp [step, eq]) rfl rfl rfl rfl rfl
  · exact inv.extend borrow calls rfl table rfl (by simp [step, sent]) rfl rfl rfl rfl rfl
  · have free := inv.free b
    have idle := inv.idle b
    rw [free] at calls
    obtain ⟨upIdle, tasksIdle, downIdle⟩ := idle
    have len := inv.requests
    have hup : (s.step B (.call service payload sendOk)).up = s.up ++ [.binary f] := by
      simp [step, sent]
    refine ⟨?_, ?_, borrow, fun k p h => ?_, fun i c r h hr => ?_, inv.endpoint, inv.replies, ?_⟩
    · simp [step, calls, len, World.dropDisplaced]
    · rw [hup, List.length_append]; exact Nat.le_succ_of_le inv.served
    · have h' : (s.client.broker.servicePromises.insert (s.client.broker.requestIdCounter + 1)
          ⟨s.client.calls.length⟩) k = some p := table ▸ h
      by_cases e : k = s.client.broker.requestIdCounter + 1
      · subst e
        rw [Table.insertSelf] at h'
        cases h'
        show (s.client.sendProtoRequestToServer P service payload sendOk).calls[_]? = _
        rw [calls]; exact List.getElem?_concat_length _ _
      · rw [Table.insertNe _ _ e, free] at h'; cases h'
    · change (s.client.sendProtoRequestToServer P service payload sendOk).calls[i]? = some c at h
      rw [calls] at h
      rcases getElemConcat h with h | rfl
      · obtain ⟨req, hreq, hexp⟩ := inv.results i c r h hr
        exact ⟨req, getElemAppendSome hreq, hexp⟩
      · cases hr
    · refine ⟨.sent f, ⟨?_, tasksIdle, downIdle⟩, s.client.calls.length,
        s.client.broker.requestIdCounter + 1, (service, payload), ⟨?_, ?_⟩, hf⟩
      · rw [hup]
        show binaries ((s.up ++ _).drop s.served) = _
        rw [List.drop_append_of_le_length inv.served]; simp [upIdle]
      · show (s.client.sendProtoRequestToServer P service payload sendOk).broker.servicePromises _ = _
        rw [table]; exact Table.insertSelf _ _ _
      · show (s.requests ++ [(service, payload)])[s.client.calls.length]? = _
        rw [← len]; exact List.getElem?_concat_length _ _

theorem sendTextInv {s : Session} (inv : Inv B cid s) (text : String) :
    Inv B cid (s.step B (.sendText text)) := by
  obtain ⟨ph, shape, owned⟩ := inv.phase
  have served : s.served ≤ (s.up ++ [WsMessage.text text]).length := by
    rw [List.length_append]; exact Nat.le_succ_of_le inv.served
  have up : binaries ((s.up ++ [WsMessage.text text]).drop s.served) = binaries (s.up.drop s.served) := by
    simp [List.drop_append_of_le_length inv.served, binariesOther]
  exact { inv with served, phase := ⟨ph, Shape.congr (t := s.step B (.sendText text)) up rfl rfl shape, owned⟩ }

theorem tellsQuiet (quiet : ∀ sv, (B.service sv).Quiet) (msgs : List ClientMessage) :
    binaries (msgs.flatMap B.tellFrames) = [] := by
  refine binariesEqNil.mpr fun b hb => ?_
  obtain ⟨msg, -, hb⟩ := List.mem_flatMap.mp hb
  obtain ⟨d, -, hb⟩ := List.mem_flatMap.mp hb
  rcases d with addr | addr
  · obtain ⟨x, hx, hxb⟩ := List.mem_map.mp hb
    have text := (quiet addr.service).handle msg x hx
    cases x <;> simp_all [ContextCall.frame, ContextCall.isText]
  · cases hb

theorem spawnedOther (a : ClientConnectionActor) {f : WsMessage} (h : ∀ b, f ≠ .binary b) :
    spawned (a.recvSocketMsgFromClient P f).2 = [] := by
  cases f <;> first | exact absurd rfl (h _) | rfl

theorem spawnedTell (a : ClientConnectionActor) {f : ProtoBytes} {p : ProtoPayloadTell}
    (h : processRealtimeMessage P f = .tell p) :
    spawned (a.recvSocketMsgFromClient P (.binary f)).2 = [] := by
  simp only [ClientConnectionActor.recvSocketMsgFromClient,
    ClientConnectionActor.recvProtoMsgFromClient, h, ClientConnectionActor.recvProtoTellFromClient]
  split <;> rfl

theorem serveInv (quiet : ∀ sv, (B.service sv).Quiet) {s : Session} (inv : Inv B cid s) :
    Inv B cid (s.step B .serve) := by
  cases hframe : s.up[s.served]? with
  | none => simpa [step, hframe] using inv
  | some frame =>
    obtain ⟨lt, hf⟩ := List.getElem?_eq_some_iff.mp hframe
    have drop : s.up.drop s.served = frame :: s.up.drop (s.served + 1) := by
      rw [List.drop_eq_getElem_cons lt, hf]
    simp only [step, hframe]
    obtain ⟨ph, shape, owned⟩ := inv.phase
    have replies : binaries (s.replies ++ (cospaceTells
        (s.endpoint.recvSocketMsgFromClient P frame).2).flatMap B.tellFrames) = [] := by
      rw [binariesAppend, inv.replies, tellsQuiet quiet]; rfl
    refine ⟨inv.requests, lt, inv.borrow, inv.promises, inv.results,
      (socketEffects _ _).1.trans inv.endpoint, replies, ?_⟩
    by_cases bin : ∃ f, frame = .binary f
    · obtain ⟨f, rfl⟩ := bin
      have hb : binaries (s.up.drop s.served) = f :: binaries (s.up.drop (s.served + 1)) := by
        rw [drop, binariesBinary]
      cases ph with
      | sent f' =>
        obtain ⟨hup, htasks, hdown⟩ := shape
        rw [hb] at hup
        obtain ⟨rfl, rest⟩ := List.cons_eq_cons.mp hup
        obtain ⟨i, k, req, pend, hreq⟩ := owned
        obtain ⟨q, hq, hp⟩ := requestFrame hreq
        by_cases k0 : k = 0
        · rw [if_pos k0] at hp
          exact ⟨.idle, ⟨rest, by rw [htasks, spawnedTell _ hp]; rfl, hdown⟩, trivial⟩
        · rw [if_neg k0] at hp
          rw [ClientConnectionActor.socketRequest _ hp]
          refine ⟨.asked _, ⟨rest, by rw [htasks]; rfl, hdown⟩, i, k, req, pend, k0, q, hq, ?_⟩
          rw [inv.endpoint]
      | idle | asked _ | answered _ =>
        obtain ⟨hup, -, -⟩ := shape
        rw [hb] at hup
        exact absurd hup (List.cons_ne_nil _ _)
    · have other : ∀ b, frame ≠ .binary b := fun b e => bin ⟨b, e⟩
      refine ⟨ph, Shape.congr (s := s) ?_ ?_ ?_ shape, owned.mono fun _ _ _ pend => pend⟩
      · show binaries (s.up.drop (s.served + 1)) = _
        rw [drop, binariesOther other]
      · show s.tasks ++ _ = _
        rw [spawnedOther _ other, List.append_nil]
      · rfl

theorem answerInv {s : Session} (inv : Inv B cid s) (i : Nat) : Inv B cid (s.step B (.answer i)) := by
  cases ht : s.tasks[i]? with
  | none => simpa [step, ht] using inv
  | some t =>
    simp only [step, ht]
    obtain ⟨ph, shape, owned⟩ := inv.phase
    have mem := List.getElem?_mem ht
    cases ph with
    | asked t' =>
      obtain ⟨hup, htasks, hdown⟩ := shape
      rw [htasks] at mem ⊢
      obtain rfl := List.mem_singleton.mp mem
      obtain ⟨j, k, req, pend, k0, q, hq, rfl⟩ := owned
      rw [List.erase_cons_head]
      refine { inv with phase := ?_ }
      cases ha : B.answer (if req.1 = .connection then .connService else .cospace)
          ⟨.ask req.1, cid, .binary q⟩ with
      | none => exact ⟨.idle, ⟨hup, rfl, by simp [ha, AskTask.run, hdown]⟩, trivial⟩
      | some a =>
        cases hc : createResponseMessageFromServicePayload P k req.1 a with
        | none => exact ⟨.idle, ⟨hup, rfl, by simp [ha, AskTask.run, hc, hdown]⟩, trivial⟩
        | some f =>
          obtain ⟨r, hr, hp⟩ := responseFrame k0 hc
          exact ⟨.answered f, ⟨hup, rfl, by simp [ha, AskTask.run, hc, hdown]⟩, j, k, req,
            pend, r, hp, by simp [Backend.expected, hq, ha, hr]⟩
    | idle | sent _ | answered _ =>
      rw [shape.2.1] at mem
      cases mem

theorem replyInv {s : Session} (inv : Inv B cid s) (i : Nat) : Inv B cid (s.step B (.reply i)) := by
  cases hf : s.replies[i]? with
  | none => simpa [step, hf] using inv
  | some f =>
    simp only [step, hf]
    have other : ∀ b, f ≠ .binary b := fun b e =>
      binariesEqNil.mp inv.replies b (e ▸ List.getElem?_mem hf)
    obtain ⟨ph, shape, owned⟩ := inv.phase
    refine ⟨inv.requests, inv.served, inv.borrow, inv.promises, inv.results, inv.endpoint, ?_, ph,
      Shape.congr (s := s) ?_ ?_ ?_ shape, owned.mono fun _ _ _ pend => pend⟩
    · exact binariesEqNil.mpr fun b hb =>
        binariesEqNil.mp inv.replies b (List.mem_of_mem_erase hb)
    · rfl
    · rfl
    · show binaries (s.down ++ [f]) = _
      rw [binariesAppend, binariesOther other, binariesNil, List.append_nil]

theorem onMessageOther (w : World) {f : WsMessage} (h : ∀ b, f ≠ .binary b) :
    onMessage P w f = w := by
  cases f <;> first | exact absurd rfl (h _) | rfl

theorem Inv.deliverCases {s : Session} (inv : Inv B cid s) {frame : WsMessage} {rest : List WsMessage}
    (hd : s.down = frame :: rest) :
    (∀ b, frame ≠ .binary b) ∨
    ∃ f i k req r, frame = .binary f ∧ s.Pending i k req ∧
      processRealtimeMessage P f = .response ⟨k, req.1, r⟩ ∧ B.expected cid req.1 req.2 = some r ∧
      binaries (s.up.drop s.served) = [] ∧ s.tasks = [] ∧ binaries rest = [] := by
  by_cases bin : ∃ f, frame = .binary f
  · obtain ⟨f, rfl⟩ := bin
    obtain ⟨ph, shape, owned⟩ := inv.phase
    cases ph with
    | answered f' =>
      obtain ⟨hup, htasks, hdown⟩ := shape
      rw [hd, binariesBinary] at hdown
      obtain ⟨rfl, rest0⟩ := List.cons_eq_cons.mp hdown
      obtain ⟨i, k, req, pend, r, hp, hexp⟩ := owned
      exact .inr ⟨f, i, k, req, r, rfl, pend, hp, hexp, hup, htasks, rest0⟩
    | idle | sent _ | asked _ =>
      obtain ⟨-, -, hdown⟩ := shape
      rw [hd, binariesBinary] at hdown
      exact absurd hdown (List.cons_ne_nil _ _)
  · exact .inl fun b e => bin ⟨b, e⟩

theorem deliverInv {s : Session} (inv : Inv B cid s) : Inv B cid (s.step B .deliver) := by
  cases hd : s.down with
  | nil => simpa [step, hd] using inv
  | cons frame rest =>
    simp only [step, hd]
    rcases inv.deliverCases hd with other | ⟨f, i, k, req, r, rfl, ⟨hk, hreq⟩, hp, hexp, hup, htasks, rest0⟩
    · rw [onMessageOther _ other]
      obtain ⟨ph, shape, owned⟩ := inv.phase
      refine ⟨inv.requests, inv.served, inv.borrow, inv.promises, inv.results, inv.endpoint,
        inv.replies, ph, Shape.congr (s := s) ?_ ?_ ?_ shape, owned.mono fun _ _ _ pend => pend⟩
      · rfl
      · rfl
      · show binaries rest = _
        rw [hd, binariesOther other]
    · have hi := inv.promises k ⟨i⟩ hk
      have borrow := World.stepBorrowCount (P := P) inv.borrow (.frame (.binary f))
      have client : onMessage P s.client (.binary f) =
          { s.client with
            broker := { s.client.broker with
              servicePromises := s.client.broker.servicePromises.remove k },
            calls := s.client.calls.modify (RequestCall.resolve (some r)) i } := by
        simp only [onMessage, World.recvMsgFromServer, World.recvProtoMsgFromServer, hp]
        exact World.resFromServerPending _ hk _ _
      change (onMessage P s.client (.binary f)).BorrowCount at borrow
      rw [client] at borrow ⊢
      refine ⟨by simp [inv.requests], inv.served, borrow, fun k' p h => ?_, fun j c r' h hr => ?_,
        inv.endpoint, inv.replies, .idle, ⟨hup, htasks, rest0⟩, trivial⟩
      · have ne : k' ≠ k := by rintro rfl; simp at h
        have hp' := inv.promises k' p (by simpa [Table.removeNe _ ne] using h)
        have tx : i ≠ p.tx := by
          rintro rfl; rw [hi] at hp'; cases hp'; exact ne rfl
        simpa [List.getElem?_modify_ne _ _ tx] using hp'
      · by_cases e : i = j
        · subst e
          simp only [List.getElem?_modify_eq, hi, Option.map_eq_map, Option.map_some',
            RequestCall.resolve, Option.some.injEq] at h
          subst h
          cases hr
          exact ⟨req, hreq, hexp⟩
        · exact inv.results j c r' (by simpa [List.getElem?_modify_ne _ _ e] using h) hr

theorem resumeInv {s : Session} (inv : Inv B cid s) (i : Nat) : Inv B cid (s.step B (.resume i)) := by
  have borrow := World.stepBorrowCount (P := P) inv.borrow (.resume i)
  change (s.client.resume i).BorrowCount at borrow
  show Inv B cid { s with client := s.client.resume i }
  rcases World.resumeCases s.client i with same | ⟨id, v, found, eq⟩
  · rw [same]; exact inv
  · rw [eq] at borrow ⊢
    have elsewhere : ∀ k p, s.client.broker.servicePromises k = some p → i ≠ p.tx := by
      rintro k p h rfl
      have := inv.promises k p h
      rw [found] at this; cases this
    have idle : s.Shape .idle := by
      obtain ⟨ph, shape, owned⟩ := inv.phase
      cases ph with
      | idle => exact shape
      | sent _ | asked _ | answered _ =>
        obtain ⟨j, k, _, ⟨hk, -⟩, -⟩ := owned
        exact absurd (inv.borrow.unique found (inv.promises k ⟨j⟩ hk)) (elsewhere k ⟨j⟩ hk)
    refine ⟨by simp [inv.requests], inv.served, borrow, fun k p h => ?_, fun j c r h hr => ?_,
      inv.endpoint, inv.replies, .idle, idle, trivial⟩
    · simpa [List.getElem?_set_ne (elsewhere k p h)] using inv.promises k p h
    · by_cases e : i = j
      · subst e
        have lt := (List.getElem?_eq_some_iff.mp found).1
        simp only [List.getElem?_set_self lt, Option.some.injEq] at h
        subst h
        exact inv.results i _ r found hr
      · exact inv.results j c r (by simpa [List.getElem?_set_ne e] using h) hr

section
variable (quiet : ∀ sv, (B.service sv).Quiet)
include quiet

theorem stepInv {s : Session} (inv : Inv B cid s) : ∀ e, Inv B cid (s.step B e)
  | .call service payload sendOk => callInv inv service payload sendOk
  | .sendText text => sendTextInv inv text
  | .serve => serveInv quiet inv
  | .answer i => answerInv inv i
  | .reply i => replyInv inv i
  | .deliver => deliverInv inv
  | .resume i => resumeInv inv i

theorem runInv : ∀ (es : List Event) {s : Session}, Inv B cid s → Inv B cid (s.run B es)
  | [], _, inv => inv
  | e :: es, _, inv => runInv es (stepInv quiet inv e)

end

/-! ### What the invariant gives -/

theorem Shape.single {s : Session} {ph : Phase} (h : s.Shape ph) :
    (binaries (s.up.drop s.served)).length + s.tasks.length + (binaries s.down).length ≤ 1 := by
  cases ph <;> obtain ⟨up, tasks, down⟩ := h <;> simp [up, tasks, down]

theorem Inv.stuck {s : Session} (inv : Inv B cid s) {i : Nat}
    {k : UInt32} {req : RealtimeService × ProtoBytes}
    (waits : s.client.calls[i]? = some (.awaiting k none)) (hreq : s.requests[i]? = some req)
    (silent : B.expected cid req.1 req.2 = none) :
    ∀ e, (s.step B e).client.calls[i]? = some (.awaiting k none)
  | .call service payload sendOk => by
    have borrowed := inv.borrow.borrowed waits
    rcases World.callCases (P := P) s.client service payload sendOk with
      ⟨-, eq⟩ | ⟨b, -⟩
    · show (s.client.sendProtoRequestToServer P service payload sendOk).calls[i]? = _
      rw [eq]; exact getElemAppendSome waits
    · rw [borrowed] at b; cases b
  | .sendText _ => waits
  | .serve => by simp only [step]; split <;> exact waits
  | .answer _ => by simp only [step]; split <;> exact waits
  | .reply _ => by simp only [step]; split <;> exact waits
  | .deliver => by
    simp only [step]
    split
    · rename_i frame rest hd
      rcases inv.deliverCases hd with other | ⟨f, j, k', req', r, rfl, ⟨hk, hreq'⟩, hp, hexp, -⟩
      · rw [onMessageOther _ other]; exact waits
      · have ne : j ≠ i := by
          rintro rfl
          rw [hreq, Option.some.injEq] at hreq'
          rw [← hreq', silent] at hexp; cases hexp
        simp only [onMessage, World.recvMsgFromServer, World.recvProtoMsgFromServer, hp,
          World.resFromServerPending _ hk]
        rw [List.getElem?_modify_ne _ _ ne]; exact waits
    · exact waits
  | .resume j => by
    show (s.client.resume j).calls[i]? = _
    rcases World.resumeCases s.client j with same | ⟨id, v, found, eq⟩
    · rw [same]; exact waits
    · have ne : j ≠ i := by rintro rfl; rw [waits] at found; cases found
      rw [eq]; simpa [List.getElem?_set_ne ne] using waits

theorem stepRequests (s : Session) (e : Event) : ∃ extra, (s.step B e).requests = s.requests ++ extra := by
  cases e <;> simp only [step] <;>
    first | exact ⟨_, rfl⟩ | exact ⟨[], (List.append_nil _).symm⟩ |
      (split <;> exact ⟨[], (List.append_nil _).symm⟩)

theorem Inv.stuckRun (quiet : ∀ sv, (B.service sv).Quiet) {i : Nat} {k : UInt32}
    {req : RealtimeService × ProtoBytes} (silent : B.expected cid req.1 req.2 = none) :
    ∀ (es : List Event) {s : Session}, Inv B cid s → s.client.calls[i]? = some (.awaiting k none) →
      s.requests[i]? = some req → (s.run B es).client.calls[i]? = some (.awaiting k none)
  | [], _, _, waits, _ => waits
  | e :: es, s, inv, waits, hreq => by
    obtain ⟨extra, grown⟩ := stepRequests (B := B) s e
    exact stuckRun quiet silent es (stepInv quiet inv e) (inv.stuck waits hreq silent e)
      (by rw [grown]; exact getElemAppendSome hreq)

/-! ### Every exchange completes -/

@[simp] theorem runNil (s : Session) : s.run B [] = s := rfl

@[simp] theorem runCons (s : Session) (e : Event) (es : List Event) :
    s.run B (e :: es) = (s.step B e).run B es := rfl

theorem runAppend (s : Session) (es es' : List Event) : s.run B (es ++ es') = (s.run B es).run B es' := by
  induction es generalizing s with
  | nil => rfl
  | cons e es ih => exact ih _

theorem onMessageCounter (w : World) (f : WsMessage) :
    (onMessage P w f).broker.requestIdCounter = w.broker.requestIdCounter := by
  cases f with
  | binary b =>
    rcases World.recvCases (P := P) w (.binary b) with same | ⟨k, p, r, hk, broker, -⟩
    · rw [onMessage, same]
    · rw [onMessage, broker]
  | _ => rfl

theorem stepCounter (s : Session) (e : Event) :
    (s.step B e).client.broker.requestIdCounter.toNat ≤
      s.client.broker.requestIdCounter.toNat + if e.isCall then 1 else 0 := by
  cases e with
  | call service payload sendOk =>
    rcases World.sendCases (P := P) s.client service payload sendOk with ⟨-, eq⟩ | ⟨-, counter, -⟩
    · simp [step, eq]
    · simpa [step, counter, Event.isCall] using succToNatLe _
  | deliver => simp only [step]; split <;> simp [onMessageCounter, Event.isCall]
  | resume i =>
    rcases World.resumeCases s.client i with same | ⟨id, v, found, eq⟩
    · simp [step, same]
    · simp [step, eq]
  | _ => simp only [step]; (try split) <;> simp [Event.isCall]

theorem runCounter : ∀ (es : List Event) (s : Session),
    (s.run B es).client.broker.requestIdCounter.toNat ≤
      s.client.broker.requestIdCounter.toNat + es.countP Event.isCall
  | [], _ => Nat.le_add_right _ _
  | e :: es, s => by
    have := stepCounter (B := B) s e
    have := runCounter es (s.step B e)
    rw [List.countP_cons, runCons]
    omega

theorem freshId (cid : ClientId) (es : List Event) (calls : es.countP Event.isCall + 1 < UInt32.size) :
    ((init cid).run B es).client.broker.requestIdCounter + 1 ≠ 0 := by
  have count := runCounter (B := B) es (init cid)
  have zero : (init cid).client.broker.requestIdCounter.toNat = 0 := rfl
  intro h
  have := congrArg UInt32.toNat h
  rw [succToNat (by omega)] at this
  cases this

theorem serveOther {s : Session} {frame : WsMessage} (h : s.up[s.served]? = some frame)
    (other : ∀ b, frame ≠ .binary b) :
    ∃ extra, s.step B .serve = { s with served := s.served + 1, replies := s.replies ++ extra } := by
  have endpoint : (s.endpoint.recvSocketMsgFromClient P frame).1 = s.endpoint := by
    cases frame <;> first | exact absurd rfl (other _) | rfl
  exact ⟨(cospaceTells (s.endpoint.recvSocketMsgFromClient P frame).2).flatMap B.tellFrames, by
    simp only [step, h, endpoint, spawnedOther _ other, List.append_nil]⟩

theorem serveOthers (rest : List WsMessage) : ∀ (l : List WsMessage) (s : Session),
    s.up.drop s.served = l ++ rest → (∀ f ∈ l, ∀ b, f ≠ .binary b) →
    ∃ extra, s.run B (List.replicate l.length .serve) =
      { s with served := s.served + l.length, replies := s.replies ++ extra }
  | [], s, _, _ => ⟨[], by simp⟩
  | f :: l, s, h, other => by
    have hf : s.up[s.served]? = some f := by
      rw [← Nat.add_zero s.served, ← List.getElem?_drop, h]; simp
    obtain ⟨e1, step1⟩ := serveOther (B := B) hf (other f (List.mem_cons_self _ _))
    have h' : (s.step B .serve).up.drop (s.step B .serve).served = l ++ rest := by
      obtain ⟨lt, at_f⟩ := List.getElem?_eq_some_iff.mp hf
      rw [List.drop_eq_getElem_cons lt, at_f] at h
      rw [step1]
      simpa using (List.cons_eq_cons.mp h).2
    obtain ⟨e2, rest2⟩ := serveOthers rest l _ h' fun g hg => other g (List.mem_cons_of_mem _ hg)
    refine ⟨e1 ++ e2, ?_⟩
    rw [List.length_cons, List.replicate_succ, runCons, rest2, step1]
    simp [Nat.add_assoc, Nat.add_comm 1]

theorem serveAnswer {s : Session} {f : ProtoBytes} {p : ProtoPayloadRequest}
    (h : s.up[s.served]? = some (.binary f)) (hp : processRealtimeMessage P f = .request p)
    (idle : s.tasks = []) :
    (s.step B .serve).step B (.answer 0) =
      let t : AskTask := ⟨if p.service = .connection then .connService else .cospace,
        ⟨.ask p.service, s.endpoint.clientId, .binary p.bytes⟩, p.requestId, p.service⟩
      { s with served := s.served + 1, down := s.down ++ t.run P (B.answer t.target t.msg) } := by
  simp only [step, h, ClientConnectionActor.socketRequest _ hp]
  simp [ClientConnectionActor.recvProtoReqFromClient, spawned, cospaceTells, idle]

theorem deliverOthers (rest : List WsMessage) : ∀ (l : List WsMessage) (s : Session),
    s.down = l ++ rest → (∀ f ∈ l, ∀ b, f ≠ .binary b) →
    s.run B (List.replicate l.length .deliver) = { s with down := rest }
  | [], ⟨_, _, _, _, _, _, _, _⟩, rfl, _ => rfl
  | f :: l, s, h, other => by
    have step1 : s.step B .deliver = { s with down := l ++ rest } := by
      simp only [step, h, List.cons_append, onMessageOther _ (other f (List.mem_cons_self _ _))]
    rw [List.length_cons, List.replicate_succ, runCons, step1,
      deliverOthers rest l _ rfl fun g hg => other g (List.mem_cons_of_mem _ hg)]

theorem Inv.completes {s : Session} (inv : Inv B cid s) (free : s.client.broker.counterBorrowed = false)
    (fresh : s.client.broker.requestIdCounter + 1 ≠ 0) {service : RealtimeService}
    {payload r : ProtoBytes} (answered : B.expected cid service payload = some r) :
    (s.run B (.call service payload true :: List.replicate (s.up.length - s.served + 1) .serve ++
      .answer 0 :: List.replicate (s.down.length + 1) .deliver ++ [.resume s.client.calls.length])).client.calls =
      s.client.calls ++ [.returned (some r)] ∧
    (s.run B (.call service payload true :: List.replicate (s.up.length - s.served + 1) .serve ++
      .answer 0 :: List.replicate (s.down.length + 1) .deliver ++
        [.resume s.client.calls.length])).client.broker.counterBorrowed = false := by
  simp only [Backend.expected, Option.bind_eq_some] at answered
  obtain ⟨q, hq, a, ha, hr⟩ := answered
  obtain ⟨⟨f, hf⟩, -⟩ := framesOfFramed hq (s.client.broker.requestIdCounter + 1)
  obtain ⟨-, f', hf'⟩ := framesOfFramed hr (s.client.broker.requestIdCounter + 1)
  obtain ⟨q', hq', hp⟩ := requestFrame hf
  rw [hq, Option.some.injEq] at hq'
  subst hq'
  rw [if_neg fresh] at hp
  obtain ⟨r', hr', hp'⟩ := responseFrame fresh hf'
  rw [hr, Option.some.injEq] at hr'
  subst hr'
  obtain ⟨upIdle, tasksIdle, downIdle⟩ := inv.idle free
  have sent : s.step B (.call service payload true) =
      { s with client := s.client.sendProtoRequestToServer P service payload true,
               requests := s.requests ++ [(service, payload)], up := s.up ++ [.binary f] } := by
    simp [step, World.sendAwaits _ free hf]
  obtain ⟨e, ahead⟩ := serveOthers (B := B) [.binary f] (s.up.drop s.served)
    (s.step B (.call service payload true)) (by rw [sent]; exact List.drop_append_of_le_length inv.served)
    fun g hg b hb => binariesEqNil.mp upIdle b (hb ▸ hg)
  rw [sent, List.length_drop] at ahead
  have at_f : (s.up ++ [WsMessage.binary f])[s.served + (s.up.length - s.served)]? = some (.binary f) := by
    rw [Nat.add_sub_cancel' inv.served]; exact List.getElem?_concat_length _ _
  rw [List.replicate_succ', List.replicate_succ']
  simp only [List.cons_append, List.append_assoc, List.singleton_append, runAppend, runCons, runNil,
    sent, ahead]
  rw [serveAnswer ?_ hp ?_]
  · dsimp only
    rw [inv.endpoint, ha]
    simp only [AskTask.run, hf']
    rw [deliverOthers [.binary f'] s.down _ rfl fun g hg b hb => binariesEqNil.mp downIdle b (hb ▸ hg)]
    simp [step, onMessage, World.recvMsgFromServer, World.recvProtoMsgFromServer, hp', World.sendAwaits _ free hf,
      World.recvProtoResFromServer, inv.free free, World.dropDisplaced, World.resume, RequestCall.resolve,
      modifyConcat]
  exacts [at_f, tasksIdle]

end Session

theorem Backend.mockedSilent {P : Bindings} (C : ConnectionSchema P)
    (connService : ClientConnectionServiceActor) (cospace : CospaceActor) (cid : ClientId)
    {service : RealtimeService} (h : service ≠ .connection) (payload : ProtoBytes) :
    (Backend.mocked C connService cospace).expected cid service payload = none := by
  simp only [Backend.expected, if_neg h, Backend.answer]
  cases framedPayload P service payload with
  | none => rfl
  | some q =>
    show Option.bind (match _ with | some [Dispatch.ask addr] => _ | _ => none) _ = none
    split <;> simp [Backend.mocked, (mockerSpec _).1]

/-! ### The session over every schedule -/

def Backend.sample : Backend Bindings.tagged :=
  .mocked ConnectionSchema.tagged (.new ⟨1, ⟨0⟩⟩ (· == "ticket")) (CospaceActor.new ⟨0⟩ 0)

theorem rpcResultsCorrelate {P : Bindings} (B : Backend P) (quiet : ∀ sv, (B.service sv).Quiet)
    (cid : ClientId) (es : List Session.Event) :
    (∀ (i : Nat) (r : ProtoBytes), ((Session.init cid).run B es).client.calls[i]? = some (.returned (some r)) →
      ∃ service payload, ((Session.init cid).run B es).requests[i]? = some (service, payload) ∧
        B.expected cid service payload = some r) ∧
    (Session.binaries (((Session.init cid).run B es).up.drop ((Session.init cid).run B es).served)).length +
      ((Session.init cid).run B es).tasks.length +
      (Session.binaries ((Session.init cid).run B es).down).length ≤ 1 := by
  have inv := Session.runInv quiet es (Session.initInv B cid)
  obtain ⟨_, shape, -⟩ := inv.phase
  refine ⟨fun i r h => ?_, shape.single⟩
  obtain ⟨⟨service, payload⟩, hreq, hexp⟩ := inv.results i _ r h rfl
  exact ⟨service, payload, hreq, hexp⟩

theorem rpcResultsCorrelateSample :
    (∀ sv, (Backend.sample.service sv).Quiet) ∧
    let es : List Session.Event := [.call .connection (createTicketHandshakeRequest
      ConnectionSchema.tagged "ticket") true, .sendText "hi", .serve, .serve, .answer 0, .deliver]
    (∀ (i : Nat) (r : ProtoBytes), ((Session.init ⟨1, ⟨0⟩⟩).run Backend.sample es).client.calls[i]? =
        some (.returned (some r)) →
      ∃ service payload, ((Session.init ⟨1, ⟨0⟩⟩).run Backend.sample es).requests[i]? =
        some (service, payload) ∧ Backend.sample.expected ⟨1, ⟨0⟩⟩ service payload = some r) ∧
    (Session.binaries (((Session.init ⟨1, ⟨0⟩⟩).run Backend.sample es).up.drop
        ((Session.init ⟨1, ⟨0⟩⟩).run Backend.sample es).served)).length +
      ((Session.init ⟨1, ⟨0⟩⟩).run Backend.sample es).tasks.length +
      (Session.binaries ((Session.init ⟨1, ⟨0⟩⟩).run Backend.sample es).down).length ≤ 1 :=
  ⟨fun _ => mockerQuiet, rpcResultsCorrelate _ (fun _ => mockerQuiet) _ _⟩

theorem ticketHandshake {P : Bindings} (B : Backend P) (quiet : ∀ sv, (B.service sv).Quiet)
    (cid : ClientId) (ticket : String) :
    (∀ (es : List Session.Event) (i : Nat) (r : Option ProtoBytes),
      ((Session.init cid).run B es).requests[i]? =
        some (.connection, createTicketHandshakeRequest B.schema ticket) →
      ((Session.init cid).run B es).client.calls[i]? = some (.returned r) →
      ConnectionServiceKernel.handshakeSuccess B.schema r =
        (r.isSome && B.connService.sessionRequestDecoding ticket)) ∧
    ∀ es : List Session.Event, es.countP Session.Event.isCall + 1 < UInt32.size →
      ((Session.init cid).run B es).client.broker.counterBorrowed = false →
      let s := (Session.init cid).run B es
      let t := s.run B (.call .connection (createTicketHandshakeRequest B.schema ticket) true ::
        List.replicate (s.up.length - s.served + 1) .serve ++
        .answer 0 :: List.replicate (s.down.length + 1) .deliver ++ [.resume s.client.calls.length])
      ∃ r, t.client.calls = s.client.calls ++ [.returned (some r)] ∧
        ConnectionServiceKernel.handshakeSuccess B.schema (some r) =
          B.connService.sessionRequestDecoding ticket := by
  have expect : B.expected cid .connection (createTicketHandshakeRequest B.schema ticket) =
      some (createTicketHandshakeResponse B.schema (B.connService.sessionRequestDecoding ticket)) := by
    simp [Backend.expected, Backend.answer]
  have success : ConnectionServiceKernel.handshakeSuccess B.schema
      (some (createTicketHandshakeResponse B.schema (B.connService.sessionRequestDecoding ticket))) =
      B.connService.sessionRequestDecoding ticket := by
    simp [ConnectionServiceKernel.handshakeSuccess]
  have inv := fun es => Session.runInv quiet es (Session.initInv B cid)
  refine ⟨fun es i r hreq hc => ?_, fun es calls free =>
    ⟨_, ((inv es).completes free (Session.freshId cid es calls) expect).1, success⟩⟩
  cases r with
  | none => rfl
  | some r =>
    obtain ⟨req, hreq', hexp⟩ := (inv es).results i _ r hc rfl
    rw [hreq, Option.some.injEq] at hreq'
    subst hreq'
    rw [expect, Option.some.injEq] at hexp
    subst hexp
    simpa using success

theorem ticketHandshakeSample :
    (∀ sv, (Backend.sample.service sv).Quiet) ∧
    (∀ (es : List Session.Event) (i : Nat) (r : Option ProtoBytes),
      ((Session.init ⟨1, ⟨0⟩⟩).run Backend.sample es).requests[i]? =
        some (.connection, createTicketHandshakeRequest Backend.sample.schema "ticket") →
      ((Session.init ⟨1, ⟨0⟩⟩).run Backend.sample es).client.calls[i]? = some (.returned r) →
      ConnectionServiceKernel.handshakeSuccess Backend.sample.schema r =
        (r.isSome && Backend.sample.connService.sessionRequestDecoding "ticket")) ∧
    ∀ es : List Session.Event, es.countP Session.Event.isCall + 1 < UInt32.size →
      ((Session.init ⟨1, ⟨0⟩⟩).run Backend.sample es).client.broker.counterBorrowed = false →
      let s := (Session.init ⟨1, ⟨0⟩⟩).run Backend.sample es
      let t := s.run Backend.sample (.call .connection
        (createTicketHandshakeRequest Backend.sample.schema "ticket") true ::
        List.replicate (s.up.length - s.served + 1) .serve ++
        .answer 0 :: List.replicate (s.down.length + 1) .deliver ++ [.resume s.client.calls.length])
      ∃ r, t.client.calls = s.client.calls ++ [.returned (some r)] ∧
        ConnectionServiceKernel.handshakeSuccess Backend.sample.schema (some r) =
          Backend.sample.connService.sessionRequestDecoding "ticket" :=
  ⟨fun _ => mockerQuiet, ticketHandshake _ (fun _ => mockerQuiet) _ _⟩

theorem mockedRequestsBlock {P : Bindings} (C : ConnectionSchema P)
    (connService : ClientConnectionServiceActor) (cospace : CospaceActor) (cid : ClientId)
    (es es' : List Session.Event) {i : Nat} {k : UInt32} {service : RealtimeService}
    {payload : ProtoBytes}
    (hreq : ((Session.init cid).run (.mocked C connService cospace) es).requests[i]? =
      some (service, payload))
    (notConnection : service ≠ .connection)
    (waits : ((Session.init cid).run (.mocked C connService cospace) es).client.calls[i]? =
      some (.awaiting k none)) :
    (((Session.init cid).run (.mocked C connService cospace) es).run (.mocked C connService cospace)
        es').client.calls[i]? = some (.awaiting k none) ∧
    ∀ service' payload' sendOk,
      ((((Session.init cid).run (.mocked C connService cospace) es).run (.mocked C connService cospace)
        es').step (.mocked C connService cospace) (.call service' payload' sendOk)).client.calls =
      (((Session.init cid).run (.mocked C connService cospace) es).run (.mocked C connService cospace)
        es').client.calls ++ [.panicked] := by
  have quiet : ∀ sv, ((Backend.mocked C connService cospace).service sv).Quiet := fun _ => mockerQuiet
  have inv := Session.runInv quiet es (Session.initInv _ cid)
  have stays := Session.Inv.stuckRun quiet
    (Backend.mockedSilent C connService cospace cid notConnection payload) es' inv waits hreq
  refine ⟨stays, fun service' payload' sendOk => ?_⟩
  have borrowed := (Session.runInv quiet es' inv).borrow.borrowed stays
  show (World.sendProtoRequestToServer P _ service' payload' sendOk).calls = _
  rw [World.callWhileBorrowedPanics _ borrowed]

theorem mockedRequestsBlockSample :
    ((Session.init ⟨1, ⟨0⟩⟩).run Backend.sample [.call .core [] true]).requests[0]? =
      some (.core, []) ∧ RealtimeService.core ≠ .connection ∧
    ((Session.init ⟨1, ⟨0⟩⟩).run Backend.sample [.call .core [] true]).client.calls[0]? =
      some (.awaiting 1 none) ∧
    (((Session.init ⟨1, ⟨0⟩⟩).run Backend.sample [.call .core [] true]).run Backend.sample
        [.serve, .answer 0, .deliver]).client.calls[0]? = some (.awaiting 1 none) ∧
    ∀ service' payload' sendOk,
      ((((Session.init ⟨1, ⟨0⟩⟩).run Backend.sample [.call .core [] true]).run Backend.sample
        [.serve, .answer 0, .deliver]).step Backend.sample (.call service' payload' sendOk)).client.calls =
      (((Session.init ⟨1, ⟨0⟩⟩).run Backend.sample [.call .core [] true]).run Backend.sample
        [.serve, .answer 0, .deliver]).client.calls ++ [.panicked] :=
  have hreq : ((Session.init ⟨1, ⟨0⟩⟩).run Backend.sample [.call .core [] true]).requests[0]? =
      some (.core, []) := rfl
  have waits : ((Session.init ⟨1, ⟨0⟩⟩).run Backend.sample [.call .core [] true]).client.calls[0]? =
      some (.awaiting 1 none) := by decide
  ⟨hreq, by decide, waits, mockedRequestsBlock ConnectionSchema.tagged _ _ _ _ [.serve, .answer 0, .deliver]
    hreq (by decide) waits⟩

theorem rpcCompletes {P : Bindings} (B : Backend P) (quiet : ∀ sv, (B.service sv).Quiet)
    (cid : ClientId) (es : List Session.Event) {service : RealtimeService} {payload r : ProtoBytes}
    (calls : es.countP Session.Event.isCall + 1 < UInt32.size)
    (free : ((Session.init cid).run B es).client.broker.counterBorrowed = false)
    (answered : B.expected cid service payload = some r) :
    let s := (Session.init cid).run B es
    let t := s.run B (.call service payload true :: List.replicate (s.up.length - s.served + 1) .serve ++
      .answer 0 :: List.replicate (s.down.length + 1) .deliver ++ [.resume s.client.calls.length])
    t.client.calls = s.client.calls ++ [.returned (some r)] ∧ t.client.broker.counterBorrowed = false := by
  exact (Session.runInv quiet es (Session.initInv B cid)).completes free (Session.freshId cid es calls) answered

theorem rpcCompletesSample :
    let es : List Session.Event := [.call .connection (createTicketHandshakeRequest
      ConnectionSchema.tagged "ticket") true, .sendText "hi", .serve, .serve, .answer 0, .deliver, .resume 0]
    let s := (Session.init ⟨1, ⟨0⟩⟩).run Backend.sample es
    let t := s.run Backend.sample (.call .connection (createTicketHandshakeRequest
      ConnectionSchema.tagged "ticket") true :: List.replicate (s.up.length - s.served + 1) .serve ++
      .answer 0 :: List.replicate (s.down.length + 1) .deliver ++ [.resume s.client.calls.length])
    (∀ sv, (Backend.sample.service sv).Quiet) ∧ es.countP Session.Event.isCall + 1 < UInt32.size ∧
      s.client.broker.counterBorrowed = false ∧
      Backend.sample.expected ⟨1, ⟨0⟩⟩ .connection (createTicketHandshakeRequest ConnectionSchema.tagged "ticket") =
        some (createTicketHandshakeResponse ConnectionSchema.tagged true) ∧
      t.client.calls = s.client.calls ++ [.returned (some (createTicketHandshakeResponse ConnectionSchema.tagged true))] ∧
      t.client.broker.counterBorrowed = false := by
  have free : ((Session.init ⟨1, ⟨0⟩⟩).run Backend.sample [.call .connection (createTicketHandshakeRequest
      ConnectionSchema.tagged "ticket") true, .sendText "hi", .serve, .serve, .answer 0, .deliver,
      .resume 0]).client.broker.counterBorrowed = false := by decide
  have answered : Backend.sample.expected ⟨1, ⟨0⟩⟩ .connection (createTicketHandshakeRequest
      ConnectionSchema.tagged "ticket") = some (createTicketHandshakeResponse ConnectionSchema.tagged true) := by
    decide
  exact ⟨fun _ => mockerQuiet, by decide, free, answered,
    rpcCompletes Backend.sample (fun _ => mockerQuiet) ⟨1, ⟨0⟩⟩ _ (by decide) free answered⟩

end Fasttravel
