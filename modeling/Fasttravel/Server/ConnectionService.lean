import Fasttravel.Server.Messages
import Fasttravel.Proto.Connection

/-! `client_connection_service_actor.rs`: the actor that answers the Connection service for
one client. `jsonwebtoken::decode::<TicketClaimsMessage>` under the actor's decoding key and
`TicketClaimsMessage::validation()` is kept as the test `sessionRequestDecoding` it makes of
a ticket. A failed `assert_eq!` is a panic, `none`. -/
namespace Fasttravel
open Proto

structure ClientConnectionServiceActor where
  clientId : ClientId
  clientServiceMsgAddr : Option Nat
  sessionRequestDecoding : String → Bool

namespace ClientConnectionServiceActor
variable {P : Bindings} (C : ConnectionSchema P)

def new (clientId : ClientId) (sessionRequestDecoding : String → Bool) :
    ClientConnectionServiceActor :=
  ⟨clientId, none, sessionRequestDecoding⟩

def handleClientConnectionMessage (a : ClientConnectionServiceActor) :
    ClientConnectionMessage → Option ClientConnectionServiceActor
  | .connect client addr =>
    if a.clientId = client then some { a with clientServiceMsgAddr := some addr } else none
  | .disconnect client =>
    if a.clientId = client then some { a with clientServiceMsgAddr := none } else none

def handleHandshakeRequest (a : ClientConnectionServiceActor) (ticket : String) :
    Option ProtoBytes :=
  some (createTicketHandshakeResponse C (a.sessionRequestDecoding ticket))

def handleClientMessage (a : ClientConnectionServiceActor) (msg : ClientMessage) :
    Option ProtoBytes :=
  match msg.payload with
  | .binary bytes =>
    match decodeConnectionMessageAndExtractPayload C bytes with
    | some (.handshakeReq ticket) => a.handleHandshakeRequest C ticket
    | _ => none
  | .text _ => none

variable {C}

theorem handleClientMessageSpec (a : ClientConnectionServiceActor) (msg : ClientMessage)
    (r : ProtoBytes) : a.handleClientMessage C msg = some r ↔
      ∃ bytes ticket, msg.payload = .binary bytes ∧
        decodeConnectionMessageAndExtractPayload C bytes = some (.handshakeReq ticket) ∧
        r = createTicketHandshakeResponse C (a.sessionRequestDecoding ticket) := by
  rcases msg with ⟨_, _, bytes | _⟩
  · simp only [handleClientMessage, MessagePayload.binary.injEq, exists_eq_left']
    split <;> simp_all [handleHandshakeRequest, eq_comm]
  · simp [handleClientMessage]

@[simp] theorem handleHandshake (a : ClientConnectionServiceActor) (route : ClientMessageRoute)
    (client : ClientId) (ticket : String) :
    a.handleClientMessage C ⟨route, client, .binary (createTicketHandshakeRequest C ticket)⟩ =
      some (createTicketHandshakeResponse C (a.sessionRequestDecoding ticket)) := by
  simp [handleClientMessage, handleHandshakeRequest]

end ClientConnectionServiceActor

end Fasttravel
