import Fasttravel.Server.ServicePool

/-! The `ServiceActor` handlers of `service_actor.rs` and the `Mocker` of
`services/mocker.rs`, behind every service alias of the sources. The only service keeps no
state of its own, so a service is its handlers: the tells each one makes through its
`ExecutionContext`, and what the future `answer_encoded` returns resolves to, `none` for
`Err(ProtoResponseError)`. -/
namespace Fasttravel
open Proto

inductive ContextCall
  | tellText (recipient : ServiceMessageRecipient) (text : String)
  | tellEncoded (recipient : ServiceMessageRecipient) (bytes : ProtoBytes)
  deriving DecidableEq, Repr

structure Service where
  recvConnect : ClientId → List ContextCall
  recvDisconnect : ClientId → List ContextCall
  recvText : ClientId → String → List ContextCall
  recvEncoded : ClientId → ProtoBytes → List ContextCall
  answerEncoded : ClientId → ProtoBytes → Option ProtoBytes

def mocker : Service where
  recvConnect _ := []
  recvDisconnect _ := []
  recvText client _ := [.tellText (.client client) "MOCKER_REPLY_TO_CLIENT"]
  recvEncoded _ _ := []
  answerEncoded _ _ := none

namespace ServiceActor

def handleClientConnectionMessage (S : Service) : ClientConnectionMessage → List ContextCall
  | .connect client _ => S.recvConnect client
  | .disconnect client => S.recvDisconnect client

def handleClientMessage (S : Service) (msg : ClientMessage) : List ContextCall × Option ProtoBytes :=
  match msg.route, msg.payload with
  | .tell _, .text text => (S.recvText msg.client text, none)
  | .tell _, .binary bytes => (S.recvEncoded msg.client bytes, none)
  | .ask _, .binary bytes => ([], S.answerEncoded msg.client bytes)
  | _, _ => ([], none)

theorem handleClientMessageAnswer (S : Service) (msg : ClientMessage) (r : ProtoBytes) :
    (handleClientMessage S msg).2 = some r ↔
      ∃ service bytes, msg.route = .ask service ∧ msg.payload = .binary bytes ∧
        S.answerEncoded msg.client bytes = some r := by
  rcases msg with ⟨_ | _ | _, _, _ | _⟩ <;> simp [handleClientMessage]

end ServiceActor

def ContextCall.frame : ContextCall → WsMessage
  | .tellText _ text => .text text
  | .tellEncoded _ bytes => .binary bytes

def ContextCall.run (cx : ServiceExecutionContext) (cl : Cluster) : ContextCall → List Nat
  | .tellText recipient text => cx.tellText cl recipient text
  | .tellEncoded recipient bytes => cx.tellEncoded cl recipient bytes

def ContextCall.isText : ContextCall → Bool
  | .tellText .. => true
  | .tellEncoded .. => false

def Service.Quiet (S : Service) : Prop :=
  (∀ c text, ∀ x ∈ S.recvText c text, x.isText) ∧ ∀ c bytes, ∀ x ∈ S.recvEncoded c bytes, x.isText

theorem Service.Quiet.handle {S : Service} (quiet : S.Quiet) (msg : ClientMessage) :
    ∀ x ∈ (ServiceActor.handleClientMessage S msg).1, x.isText := by
  rcases msg with ⟨_ | _ | _, client, bytes | text⟩ <;>
    simp only [ServiceActor.handleClientMessage, List.not_mem_nil, false_implies, implies_true]
  exacts [quiet.2 client bytes, quiet.1 client text]

theorem mockerQuiet : mocker.Quiet :=
  ⟨fun _ _ x hx => by simp [mocker] at hx; simp [hx, ContextCall.isText], fun _ _ x hx => by
    simp [mocker] at hx⟩

theorem mockerSpec (msg : ClientMessage) :
    (ServiceActor.handleClientMessage mocker msg).2 = none ∧
      ((ServiceActor.handleClientMessage mocker msg).1 =
        match msg.route, msg.payload with
        | .tell _, .text _ => [.tellText (.client msg.client) "MOCKER_REPLY_TO_CLIENT"]
        | _, _ => []) := by
  rcases msg with ⟨_ | _ | _, _, _ | _⟩ <;> simp [ServiceActor.handleClientMessage, mocker]

end Fasttravel
