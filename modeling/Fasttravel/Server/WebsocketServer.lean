import Fasttravel.Server.Lifecycle

/-! The HTTP handlers `realtime_host` and `realtime_connect` of `websocket_server.rs` over the
registry, with the `AuthError` responses of `authorization.rs`. The query string is a map of
its parameters. `jsonwebtoken::decode::<TicketClaimsQuery>` under the server's
session-request key is kept as the test `decodesQuery` it makes of a ticket. An upgraded
request is the address of the cospace actor its socket is handed to. -/
namespace Fasttravel

inductive AuthError
  | wrongCredentials | missingCredentials | ticketCreation | tokenCreation | invalidToken
  deriving DecidableEq, Repr

def AuthError.intoResponse : AuthError → Nat × String
  | .wrongCredentials => (401, "Wrong credentials")
  | .missingCredentials => (400, "Missing credentials")
  | .ticketCreation => (500, "Ticket creation error")
  | .tokenCreation => (500, "Token creation error")
  | .invalidToken => (400, "Invalid token")

def checkConnectAuthorization (params : Option (Table String String))
    (decodesQuery : String → Bool) : Bool :=
  match params with
  | some params =>
    match params "ticket" with
    | some queryTicket => decodesQuery queryTicket
    | none => false
  | none => false

def HostedCospaces.getCospaceAddr (h : HostedCospaces) (uuid : Nat) : Option Nat :=
  (h.inner.cospaces uuid).map (·.addrActor)

def realtimeConnect (h : HostedCospaces) (params : Option (Table String String))
    (decodesQuery : String → Bool) (uuid : Nat) : Except AuthError Nat :=
  if !checkConnectAuthorization params decodesQuery then .error .invalidToken
  else
    match h.getCospaceAddr uuid with
    | some cospaceAddr => .ok cospaceAddr
    | none => .error .wrongCredentials

theorem realtimeConnectOk (h : HostedCospaces) (params : Option (Table String String))
    (decodesQuery : String → Bool) (uuid : Nat) :
    (∃ cospaceAddr, realtimeConnect h params decodesQuery uuid = .ok cospaceAddr) ↔
      checkConnectAuthorization params decodesQuery = true ∧ h.isHosted uuid = true := by
  unfold realtimeConnect HostedCospaces.isHosted HostedCospaces.getCospaceAddr
  cases checkConnectAuthorization params decodesQuery <;> cases h.inner.cospaces uuid <;> simp

theorem Placement.presenceCospaces (p : Placement) :
    p.presence.cospaces = true ↔ p = .removeScheduled ∨ p = .hosted := by
  cases p <;> simp [Placement.presence, Presence.absent]

theorem Tracks.connect {x : CospaceId} {m : Manager} (inv : Tracks x m)
    (params : Option (Table String String)) (decodesQuery : String → Bool) :
    (∃ cospaceAddr, realtimeConnect m.hostedCospaces params decodesQuery x.uuid = .ok cospaceAddr) ↔
      checkConnectAuthorization params decodesQuery = true ∧
        (m.placements x = some .removeScheduled ∨ m.placements x = some .hosted) := by
  rw [realtimeConnectOk]
  have hosted : m.hostedCospaces.isHosted x.uuid = (m.hostedCospaces.presence x.uuid).cospaces := rfl
  rw [hosted, inv]
  cases m.placements x with
  | none => simp [Presence.absent]
  | some p => simp only [Option.map_some', Option.getD_some, Option.some.injEq, p.presenceCospaces]

end Fasttravel
