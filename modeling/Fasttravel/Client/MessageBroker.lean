import Fasttravel.Server.ClientConnection

/-! `message_broker.rs`: the wasm client broker. Its JS event loop runs one task at a
time: a call of `send_proto_request_to_server` runs from its start to its `await` on the
response in one step, and `recv_msg_from_server` runs in one step as the socket's message
handler. The connection and both kernels are set. The `RefMut` of `request_id_counter`
taken at the top of a call lives to the end of its scope, across that `await`. `sendOk` is
what `send_with_u8_array` returned; `HashMap::insert` drops the promise it displaces, so the
await of that call fails; Tell and Request frames go to kernel tasks that touch no broker
state. -/
namespace Fasttravel.Client
open Proto

structure ResponsePromise where
  tx : Nat
  deriving DecidableEq, Repr

inductive SocketMessage
  | binary (bytes : ProtoBytes)
  | text (text : String)
  deriving DecidableEq, Repr

/-- Where one call of `send_proto_request_to_server` stands. An awaiting call keeps its
`RefMut`; `slot` is what its oneshot resolved to, `some none` once the sender is dropped. -/
inductive RequestCall
  | awaiting (id : UInt32) (slot : Option (Option ProtoBytes))
  | returned (result : Option ProtoBytes)
  | panicked
  deriving DecidableEq, Repr

def RequestCall.resolve (v : Option ProtoBytes) : RequestCall → RequestCall
  | .awaiting id none => .awaiting id (some v)
  | c => c

def RequestCall.holdsBorrow : RequestCall → Bool
  | .awaiting _ _ => true
  | _ => false

structure RealtimeMessageBroker where
  servicePromises : Table UInt32 ResponsePromise
  requestIdCounter : UInt32
  counterBorrowed : Bool

structure World where
  broker : RealtimeMessageBroker
  calls : List RequestCall
  sent : List ProtoBytes

def World.init : World := ⟨⟨Table.empty, 0, false⟩, [], []⟩

namespace World
variable (P : Bindings)

def dropDisplaced (calls : List RequestCall) : Option ResponsePromise → List RequestCall
  | some displaced => calls.modify (RequestCall.resolve none) displaced.tx
  | none => calls

def sendProtoRequestToServer (w : World) (service : RealtimeService) (payload : ProtoBytes)
    (sendOk : Bool) : World :=
  if w.broker.counterBorrowed then { w with calls := w.calls ++ [.panicked] }
  else
    let nextId := w.broker.requestIdCounter + 1
    let broker := { w.broker with requestIdCounter := nextId }
    match createRequestMessageFromServicePayload P nextId service payload with
    | some rtMsg =>
      if sendOk then
        let calls := dropDisplaced w.calls (broker.servicePromises nextId)
        let promises := broker.servicePromises.insert nextId ⟨w.calls.length⟩
        ⟨{ broker with servicePromises := promises, counterBorrowed := true },
          calls ++ [.awaiting nextId none], w.sent ++ [rtMsg]⟩
      else ⟨broker, w.calls ++ [.returned none], w.sent⟩
    | none => ⟨broker, w.calls ++ [.returned none], w.sent⟩

def recvProtoResFromServer (w : World) (payload : ProtoPayloadResponse) : World :=
  match w.broker.servicePromises payload.responseId with
  | some promise =>
    let broker := { w.broker with servicePromises := w.broker.servicePromises.remove payload.responseId }
    { w with broker, calls := w.calls.modify (RequestCall.resolve (some payload.bytes)) promise.tx }
  | none => w

def recvProtoMsgFromServer (w : World) (bytes : ProtoBytes) : World :=
  match processRealtimeMessage P bytes with
  | .response payload => w.recvProtoResFromServer payload
  | _ => w

def recvMsgFromServer (w : World) : SocketMessage → World
  | .text _ => w
  | .binary bytes => w.recvProtoMsgFromServer P bytes

def resume (w : World) (i : Nat) : World :=
  match w.calls[i]? with
  | some (.awaiting _ (some v)) =>
    let broker := { w.broker with counterBorrowed := false }
    { w with broker, calls := w.calls.set i (.returned v) }
  | _ => w

inductive Event
  | call (service : RealtimeService) (payload : ProtoBytes) (sendOk : Bool)
  | frame (msg : SocketMessage)
  | resume (i : Nat)

def step (w : World) : Event → World
  | .call service payload sendOk => w.sendProtoRequestToServer P service payload sendOk
  | .frame msg => w.recvMsgFromServer P msg
  | .resume i => w.resume i

def run (w : World) : List Event → World
  | [] => w
  | e :: es => (w.step P e).run es

variable {P}

theorem callWhileBorrowedPanics (w : World) (h : w.broker.counterBorrowed = true)
    (service : RealtimeService) (payload : ProtoBytes) (sendOk : Bool) :
    w.sendProtoRequestToServer P service payload sendOk = { w with calls := w.calls ++ [.panicked] } := by
  simp [sendProtoRequestToServer, h]

theorem concurrentRequestPanics :
    (init.run P [.call .core ((P.service .core).encode (P.service .core).dflt) true,
      .call .core ((P.service .core).encode (P.service .core).dflt) true]).calls =
      [.awaiting 1 none, .panicked] := by
  obtain ⟨body, hb, -⟩ := createRtFramed (show Framed .core from Or.inr rfl) (P.service .core).dflt
  have frame : ∀ i, createRequestMessageFromServicePayload P i .core
      ((P.service .core).encode (P.service .core).dflt) =
      some (P.realtime.encode { header := some { requestId := i }, body := some body }) := by
    intro i; simp [createRequestMessageFromServicePayload, hb]
  simp [run, step, sendProtoRequestToServer, init, frame, Table.empty, dropDisplaced]

@[simp] theorem holdsBorrowResolve (v : Option ProtoBytes) (c : RequestCall) :
    (c.resolve v).holdsBorrow = c.holdsBorrow := by
  rcases c with ⟨id, _ | _⟩ | _ | _ <;> rfl

theorem countBorrowModify (l : List RequestCall) (v : Option ProtoBytes) (n : Nat) :
    (l.modify (RequestCall.resolve v) n).countP RequestCall.holdsBorrow =
      l.countP RequestCall.holdsBorrow := by
  induction l generalizing n with
  | nil => simp
  | cons c l ih => cases n <;> simp [List.countP_cons, ih]

theorem sendCases (w : World) (service : RealtimeService) (payload : ProtoBytes) (sendOk : Bool) :
    (w.broker.counterBorrowed = true ∧
      w.sendProtoRequestToServer P service payload sendOk = { w with calls := w.calls ++ [.panicked] }) ∨
    (w.broker.counterBorrowed = false ∧
      (w.sendProtoRequestToServer P service payload sendOk).broker.requestIdCounter =
        w.broker.requestIdCounter + 1 ∧
      (((w.sendProtoRequestToServer P service payload sendOk).broker.counterBorrowed = false ∧
        (w.sendProtoRequestToServer P service payload sendOk).broker.servicePromises =
          w.broker.servicePromises ∧
        (w.sendProtoRequestToServer P service payload sendOk).calls = w.calls ++ [.returned none]) ∨
      ((w.sendProtoRequestToServer P service payload sendOk).broker.counterBorrowed = true ∧
        (w.sendProtoRequestToServer P service payload sendOk).broker.servicePromises =
          w.broker.servicePromises.insert (w.broker.requestIdCounter + 1) ⟨w.calls.length⟩ ∧
        (w.sendProtoRequestToServer P service payload sendOk).calls =
          dropDisplaced w.calls (w.broker.servicePromises (w.broker.requestIdCounter + 1)) ++
            [.awaiting (w.broker.requestIdCounter + 1) none]))) := by
  unfold sendProtoRequestToServer
  by_cases b : w.broker.counterBorrowed
  · exact .inl ⟨b, by simp [b]⟩
  · have nb : w.broker.counterBorrowed = false := by simpa using b
    refine .inr ⟨nb, ?_⟩
    simp only [nb, if_false, Bool.false_eq_true]
    split
    · split
      · exact ⟨rfl, .inr ⟨rfl, rfl, rfl⟩⟩
      · exact ⟨rfl, .inl ⟨rfl, rfl, rfl⟩⟩
    · exact ⟨rfl, .inl ⟨rfl, rfl, rfl⟩⟩

theorem recvCases (w : World) (msg : SocketMessage) :
    w.recvMsgFromServer P msg = w ∨
    ∃ k promise r, w.broker.servicePromises k = some promise ∧
      (w.recvMsgFromServer P msg).broker =
        { w.broker with servicePromises := w.broker.servicePromises.remove k } ∧
      (w.recvMsgFromServer P msg).calls = w.calls.modify (RequestCall.resolve (some r)) promise.tx ∧
      (w.recvMsgFromServer P msg).sent = w.sent := by
  rcases msg with bytes | _
  · simp only [recvMsgFromServer, recvProtoMsgFromServer]
    split
    · simp only [recvProtoResFromServer]
      split
      · exact .inr ⟨_, _, _, ‹_›, rfl, rfl, rfl⟩
      · exact .inl rfl
    all_goals exact .inl rfl
  · exact .inl rfl

theorem resumeCases (w : World) (i : Nat) :
    w.resume i = w ∨ ∃ id v, w.calls[i]? = some (.awaiting id (some v)) ∧
      w.resume i = ⟨{ w.broker with counterBorrowed := false }, w.calls.set i (.returned v), w.sent⟩ := by
  unfold resume
  split
  · exact .inr ⟨_, _, ‹_›, rfl⟩
  · exact .inl rfl

def BorrowCount (w : World) : Prop :=
  w.calls.countP RequestCall.holdsBorrow = if w.broker.counterBorrowed then 1 else 0

theorem stepBorrowCount {w : World} (h : w.BorrowCount) (e : Event) : (w.step P e).BorrowCount := by
  unfold BorrowCount at *
  rcases e with ⟨service, payload, sendOk⟩ | msg | i
  · rcases @sendCases P w service payload sendOk with ⟨b, eq⟩ | ⟨b, -, ⟨b', -, calls⟩ | ⟨b', -, calls⟩⟩
    · simp [step, eq, List.countP_append, RequestCall.holdsBorrow, h]
    · simp only [step, b', calls, List.countP_append, h, b]; rfl
    · have : (dropDisplaced w.calls (w.broker.servicePromises (w.broker.requestIdCounter + 1))).countP
          RequestCall.holdsBorrow = w.calls.countP RequestCall.holdsBorrow := by
        unfold dropDisplaced; split <;> simp [countBorrowModify]
      simp only [step, b', calls, List.countP_append, this, h, b]; rfl
  · rcases @recvCases P w msg with same | ⟨k, promise, r, -, broker, calls, -⟩
    · simpa [step, same] using h
    · simpa [step, broker, calls, countBorrowModify] using h
  · rcases resumeCases w i with same | ⟨id, v, found, eq⟩
    · simpa [step, same] using h
    · obtain ⟨lt, at_i⟩ := List.getElem?_eq_some_iff.mp found
      have one : 1 ≤ w.calls.countP RequestCall.holdsBorrow := by
        simpa [at_i, RequestCall.holdsBorrow] using
          List.boole_getElem_le_countP RequestCall.holdsBorrow w.calls i lt
      have b : w.broker.counterBorrowed = true := by
        by_contra nb; rw [if_neg nb] at h; omega
      simp only [b, if_true] at h
      simp [step, eq, List.countP_set _ _ _ _ lt, at_i, RequestCall.holdsBorrow, h]

theorem runBorrowCount {w : World} (h : w.BorrowCount) (es : List Event) :
    (w.run P es).BorrowCount := by
  induction es generalizing w with
  | nil => exact h
  | cons e es ih => exact ih (stepBorrowCount h e)

theorem awaitingBlocksCalls (es : List Event) {i : Nat} {id : UInt32} {v : Option (Option ProtoBytes)}
    (awaits : (init.run P es).calls[i]? = some (.awaiting id v)) (service : RealtimeService)
    (payload : ProtoBytes) (sendOk : Bool) :
    ((init.run P es).step P (.call service payload sendOk)).calls =
      (init.run P es).calls ++ [.panicked] := by
  have count : (init.run P es).BorrowCount := @runBorrowCount P init rfl es
  obtain ⟨lt, at_i⟩ := List.getElem?_eq_some_iff.mp awaits
  have one : 1 ≤ (init.run P es).calls.countP RequestCall.holdsBorrow := by
    simpa [at_i, RequestCall.holdsBorrow] using
      List.boole_getElem_le_countP RequestCall.holdsBorrow (init.run P es).calls i lt
  have b : (init.run P es).broker.counterBorrowed = true := by
    by_contra nb; rw [BorrowCount, if_neg nb] at count; omega
  simp [step, callWhileBorrowedPanics _ b]

/-! The client promise table over runs of the broker. -/

def Event.isCall : Event → Bool
  | .call .. => true
  | _ => false

theorem resFromServerPending (w : World) {k : UInt32} {promise : ResponsePromise}
    (h : w.broker.servicePromises k = some promise) (s : RealtimeService) (r : ProtoBytes) :
    w.recvProtoResFromServer ⟨k, s, r⟩ =
      { w with broker := { w.broker with servicePromises := w.broker.servicePromises.remove k },
               calls := w.calls.modify (RequestCall.resolve (some r)) promise.tx } := by
  simp [recvProtoResFromServer, h]

end World

variable {P : Bindings}

end Fasttravel.Client
