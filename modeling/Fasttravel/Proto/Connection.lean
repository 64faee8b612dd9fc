import Fasttravel.Proto.Helpers

/-! `helpers/connection.rs`: the messages of the connection service. `connection::Message`
has the one oneof field `payload`; the sources build and match its variants `HandshakeReq`
and `HandshakeRes`, and treat every other variant alike. -/
namespace Fasttravel.Proto

inductive ConnectionPayload
  | handshakeReq (ticket : String)
  | handshakeRes (success : Bool)
  | other
  deriving DecidableEq, Repr

structure ConnectionSchema (P : Bindings) where
  message : Option ConnectionPayload → P.Msg .connection
  payload : P.Msg .connection → Option ConnectionPayload
  payloadMessage : ∀ p, payload (message p) = p

attribute [simp] ConnectionSchema.payloadMessage

variable {P : Bindings} (C : ConnectionSchema P)

def createTicketHandshakeRequest (ticket : String) : ProtoBytes :=
  (P.service .connection).encode (C.message (some (.handshakeReq ticket)))

def createTicketHandshakeResponse (success : Bool) : ProtoBytes :=
  (P.service .connection).encode (C.message (some (.handshakeRes success)))

def decodeConnectionMessageAndExtractPayload (bytes : ProtoBytes) : Option ConnectionPayload :=
  ((P.service .connection).decode bytes).bind C.payload

variable {C}

@[simp] theorem decodeHandshakeRequest (ticket : String) :
    decodeConnectionMessageAndExtractPayload C (createTicketHandshakeRequest C ticket) =
      some (.handshakeReq ticket) := by
  simp [decodeConnectionMessageAndExtractPayload, createTicketHandshakeRequest]

@[simp] theorem decodeHandshakeResponse (success : Bool) :
    decodeConnectionMessageAndExtractPayload C (createTicketHandshakeResponse C success) =
      some (.handshakeRes success) := by
  simp [decodeConnectionMessageAndExtractPayload, createTicketHandshakeResponse]

theorem framedConnection {bytes q : ProtoBytes} (h : framedPayload P .connection bytes = some q) :
    decodeConnectionMessageAndExtractPayload C q = decodeConnectionMessageAndExtractPayload C bytes := by
  simp only [framedPayload, Option.map_eq_some'] at h
  obtain ⟨m, hm, rfl⟩ := h
  simp [decodeConnectionMessageAndExtractPayload, hm]

@[simp] theorem framedHandshakeResponse (success : Bool) :
    framedPayload P .connection (createTicketHandshakeResponse C success) =
      some (createTicketHandshakeResponse C success) := by
  simp [framedPayload, createTicketHandshakeResponse]

@[simp] theorem framedHandshakeRequest (ticket : String) :
    framedPayload P .connection (createTicketHandshakeRequest C ticket) =
      some (createTicketHandshakeRequest C ticket) := by
  simp [framedPayload, createTicketHandshakeRequest]

/- The schema of the concrete binding: a ticket is written as the code points of its
characters, four bytes each. -/
namespace Tagged

def ticketBytes : List Char → ProtoBytes
  | [] => []
  | c :: cs => u32Bytes c.val ++ ticketBytes cs

def ticketOf : ProtoBytes → Option (List Char)
  | [] => some []
  | b0 :: b1 :: b2 :: b3 :: rest => (ticketOf rest).map (Char.ofNat (u32Of b0 b1 b2 b3).toNat :: ·)
  | _ => none

theorem ticketOfBytes (cs : List Char) : ticketOf (ticketBytes cs) = some cs := by
  induction cs with
  | nil => rfl
  | cons c cs ih =>
    simp only [ticketBytes, u32Bytes, List.map_cons, List.map_nil, List.cons_append,
      List.append, ticketOf, ih, u32OfBytes, Option.map_some']
    exact congrArg (some <| · :: cs) (Char.ofNat_toNat c)

def connectionBytes : Option ConnectionPayload → ProtoBytes
  | none => []
  | some (.handshakeReq ticket) => 1 :: ticketBytes ticket.toList
  | some (.handshakeRes success) => [2, if success then 1 else 0]
  | some .other => [3]

def connectionPayloadOf : ProtoBytes → Option ConnectionPayload
  | 1 :: rest => (ticketOf rest).map fun cs => .handshakeReq ⟨cs⟩
  | [2, b] => some (.handshakeRes (b == 1))
  | [3] => some .other
  | _ => none

end Tagged

def ConnectionSchema.tagged : ConnectionSchema Bindings.tagged where
  message := Tagged.connectionBytes
  payload := Tagged.connectionPayloadOf
  payloadMessage := by
    rintro (_ | ⟨⟨cs⟩⟩ | ⟨_ | _⟩ | _) <;>
      simp [Tagged.connectionBytes, Tagged.connectionPayloadOf, Tagged.ticketOfBytes]

end Fasttravel.Proto
