import Fasttravel.Server.ClientConnection

/-! One socket's pipeline into its cospace (`client_connection_actor_creator.rs` and
`client_connection_actor.rs`). The incoming socket loop forwards frames in order into
the endpoint's mailbox; the endpoint handles them in order, telling the cospace itself
for Tell and Text frames and spawning a task for each Request. A spawned task sends its
ask when the executor first polls it, in any order the executor picks. -/
namespace Fasttravel
open Proto

def cospaceTells (effects : List Effect) : List ClientMessage :=
  effects.filterMap fun
    | .cospaceTell m => some m
    | _ => none

def connTells (effects : List Effect) : List ClientMessage :=
  effects.filterMap fun
    | .connTell m => some m
    | _ => none

def spawned (effects : List Effect) : List AskTask :=
  effects.filterMap fun
    | .spawn t => some t
    | _ => none

def ClientMessage.isTell (m : ClientMessage) : Bool :=
  match m.route with
  | .tell _ => true
  | _ => false

structure Pump where
  socket : List WsMessage
  mailbox : List WsMessage
  actor : ClientConnectionActor
  tasks : List AskTask
  cospace : List ClientMessage
  connService : List ClientMessage

inductive Sched
  | read
  | handle
  | poll (i : Nat)

namespace Pump
variable (P : Bindings)

def init (frames : List WsMessage) (actor : ClientConnectionActor) : Pump :=
  ⟨frames, [], actor, [], [], []⟩

def step (s : Pump) : Sched → Pump
  | .read =>
    match s.socket with
    | f :: rest => { s with socket := rest, mailbox := s.mailbox ++ [f] }
    | [] => s
  | .handle =>
    match s.mailbox with
    | f :: rest =>
      let out := s.actor.recvSocketMsgFromClient P f
      { s with mailbox := rest, actor := out.1, tasks := s.tasks ++ spawned out.2,
               cospace := s.cospace ++ cospaceTells out.2,
               connService := s.connService ++ connTells out.2 }
    | [] => s
  | .poll i =>
    match s.tasks[i]? with
    | some t =>
      match t.target with
      | .cospace => { s with tasks := s.tasks.erase t, cospace := s.cospace ++ [t.msg] }
      | .connService => { s with tasks := s.tasks.erase t, connService := s.connService ++ [t.msg] }
    | none => s

def run (s : Pump) : List Sched → Pump
  | [] => s
  | e :: es => (s.step P e).run es

end Pump

variable {P : Bindings}

def frameTells (P : Bindings) (c : ClientId) (f : WsMessage) : List ClientMessage :=
  cospaceTells ((ClientConnectionActor.new c).recvSocketMsgFromClient P f).2

theorem socketEffects (a : ClientConnectionActor) (f : WsMessage) :
    (a.recvSocketMsgFromClient P f).1.clientId = a.clientId ∧
    cospaceTells (a.recvSocketMsgFromClient P f).2 = frameTells P a.clientId f ∧
    spawned (a.recvSocketMsgFromClient P f).2 =
      spawned ((ClientConnectionActor.new a.clientId).recvSocketMsgFromClient P f).2 ∧
    (∀ m ∈ cospaceTells (a.recvSocketMsgFromClient P f).2, m.isTell) ∧
    (∀ t ∈ spawned (a.recvSocketMsgFromClient P f).2, t.msg.isTell = false) := by
  rcases f with text | bytes | _ | _ | _
  · simp [ClientConnectionActor.recvSocketMsgFromClient, frameTells,
      ClientConnectionActor.recvTextMessageFromClient, cospaceTells, spawned, ClientMessage.isTell,
      ClientConnectionActor.new]
  · simp only [ClientConnectionActor.recvSocketMsgFromClient, frameTells,
      ClientConnectionActor.recvProtoMsgFromClient]
    cases processRealtimeMessage P bytes with
    | undefined => simp [cospaceTells, spawned]
    | tell payload =>
      simp only [ClientConnectionActor.recvProtoTellFromClient]
      split <;> simp [cospaceTells, spawned, ClientMessage.isTell, ClientConnectionActor.new]
    | request payload =>
      simp [ClientConnectionActor.recvProtoReqFromClient, cospaceTells, spawned,
        ClientMessage.isTell, ClientConnectionActor.new]
    | response payload =>
      simp only [ClientConnectionActor.recvProtoResFromClient]
      split <;> split <;> simp [cospaceTells, spawned]
  all_goals simp [ClientConnectionActor.recvSocketMsgFromClient, frameTells, cospaceTells, spawned]

end Fasttravel
