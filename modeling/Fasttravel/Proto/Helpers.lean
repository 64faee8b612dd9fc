import Fasttravel.Proto.Envelope

/-! `helpers.rs`: the frame codec used by both the server and the client sdk.
`process_realtime_message` decodes an envelope, checks its header and body, classifies
it by the two header ids and re-encodes the service body; the `create_*` functions
build the frames. Only Connection and Core payloads can be framed. -/
namespace Fasttravel.Proto

structure ProtoPayloadTell where
  service : RealtimeService
  bytes : ProtoBytes
  deriving DecidableEq, Repr

structure ProtoPayloadRequest where
  requestId : UInt32
  service : RealtimeService
  bytes : ProtoBytes
  deriving DecidableEq, Repr

structure ProtoPayloadResponse where
  responseId : UInt32
  service : RealtimeService
  bytes : ProtoBytes
  deriving DecidableEq, Repr

inductive ProtoMessage
  | undefined
  | tell (payload : ProtoPayloadTell)
  | request (payload : ProtoPayloadRequest)
  | response (payload : ProtoPayloadResponse)
  deriving DecidableEq, Repr

variable (P : Bindings)

def createRtMessageFromServicePayload (service : RealtimeService) (payload : ProtoBytes) :
    Option (RealtimeMessage P.Msg) :=
  let body : Option (Body P.Msg) := match service with
    | .connection => ((P.service .connection).decode payload).map .connectionMsg
    | .core => ((P.service .core).decode payload).map .coreMsg
    | _ => none
  body.bind fun b => some { body := some b }

def createTellMessageFromServicePayload (service : RealtimeService) (payload : ProtoBytes) :
    Option ProtoBytes :=
  (createRtMessageFromServicePayload P service payload).bind fun rtMsg =>
    some (P.realtime.encode rtMsg)

def createResponseMessageFromServicePayload (responseId : UInt32) (service : RealtimeService)
    (payload : ProtoBytes) : Option ProtoBytes :=
  (createRtMessageFromServicePayload P service payload).bind fun rtMsg =>
    some (P.realtime.encode { rtMsg with header := some { responseId := responseId } })

def createRequestMessageFromServicePayload (requestId : UInt32) (service : RealtimeService)
    (payload : ProtoBytes) : Option ProtoBytes :=
  (createRtMessageFromServicePayload P service payload).bind fun rtMsg =>
    some (P.realtime.encode { rtMsg with header := some { requestId := requestId } })

def extractServicePayloadFromRtMessage (body : Body P.Msg) :
    Option (RealtimeService × ProtoBytes) :=
  let (service, protoBytes) : RealtimeService × Option ProtoBytes := match body with
    | .connectionMsg m => (.connection, some ((P.service _).encode m))
    | .coreMsg m => (.core, some ((P.service _).encode m))
    | .presenceMsg m => (.presence, some ((P.service _).encode m))
    | .activityMsg m => (.activity, some ((P.service _).encode m))
    | .modelMsg m => (.model, some ((P.service _).encode m))
  match protoBytes with
  | some bytes => if service = .undefined then none else some (service, bytes)
  | none => none

def processHeaderAndMessage (rtMsg : RealtimeMessage P.Msg) : ProtoMessage :=
  match rtMsg.header, rtMsg.body with
  | some header, some body =>
    if header.requestId ≠ 0 ∧ header.responseId ≠ 0 then .undefined
    else match extractServicePayloadFromRtMessage P body with
      | some (service, bytes) =>
        if header.requestId ≠ 0 then .request ⟨header.requestId, service, bytes⟩
        else if header.responseId ≠ 0 then .response ⟨header.responseId, service, bytes⟩
        else .tell ⟨service, bytes⟩
      | none => .undefined
  | _, _ => .undefined

def processRealtimeMessage (msg : ProtoBytes) : ProtoMessage :=
  match P.realtime.decode msg with
  | some rtMsg => processHeaderAndMessage P rtMsg
  | none => .undefined

def Framed (s : RealtimeService) : Prop := s = .connection ∨ s = .core

instance (s) : Decidable (Framed s) := by unfold Framed; infer_instance

variable {P}

theorem createRtFramed {s : RealtimeService} (framed : Framed s) (m : P.Msg s) :
    ∃ b, createRtMessageFromServicePayload P s ((P.service s).encode m) = some { body := some b } ∧
      extractServicePayloadFromRtMessage P b = some (s, (P.service s).encode m) := by
  rcases framed with rfl | rfl
  · exact ⟨.connectionMsg m, by simp [createRtMessageFromServicePayload],
      by simp [extractServicePayloadFromRtMessage]⟩
  · exact ⟨.coreMsg m, by simp [createRtMessageFromServicePayload],
      by simp [extractServicePayloadFromRtMessage]⟩

theorem createRtUnframed {s : RealtimeService} (unframed : ¬ Framed s) (payload : ProtoBytes) :
    createRtMessageFromServicePayload P s payload = none := by
  cases s <;> simp_all [Framed, createRtMessageFromServicePayload]

theorem createRtHeader {s payload rtMsg}
    (h : createRtMessageFromServicePayload P s payload = some rtMsg) : rtMsg.header = none := by
  unfold createRtMessageFromServicePayload at h
  split at h <;> simp only [Option.bind_eq_some, Option.map_eq_some'] at h <;>
    obtain ⟨_, ⟨_, _, rfl⟩, h⟩ := h <;> cases h <;> rfl

theorem extractService {b : Body P.Msg} {s q}
    (h : extractServicePayloadFromRtMessage P b = some (s, q)) : s ≠ .undefined := by
  cases b <;> simp [extractServicePayloadFromRtMessage] at h <;> simp [← h.1]

theorem processHeaderless {rtMsg : RealtimeMessage P.Msg} (h : rtMsg.header = none) :
    processHeaderAndMessage P rtMsg = .undefined := by
  simp [processHeaderAndMessage, h]

theorem processBothIds {rtMsg : RealtimeMessage P.Msg} {header : Header}
    (h : rtMsg.header = some header) (req : header.requestId ≠ 0) (res : header.responseId ≠ 0) :
    processHeaderAndMessage P rtMsg = .undefined := by
  unfold processHeaderAndMessage
  split <;> simp_all

theorem processRequestHeader {b : Body P.Msg} {s q} (i : UInt32) (hi : i ≠ 0)
    (h : extractServicePayloadFromRtMessage P b = some (s, q)) :
    processHeaderAndMessage P { header := some { requestId := i }, body := some b } =
      .request ⟨i, s, q⟩ := by
  simp [processHeaderAndMessage, h, hi]

theorem processResponseHeader {b : Body P.Msg} {s q} (i : UInt32) (hi : i ≠ 0)
    (h : extractServicePayloadFromRtMessage P b = some (s, q)) :
    processHeaderAndMessage P { header := some { responseId := i }, body := some b } =
      .response ⟨i, s, q⟩ := by
  simp [processHeaderAndMessage, h, hi]

theorem processZeroHeader {b : Body P.Msg} {s q}
    (h : extractServicePayloadFromRtMessage P b = some (s, q)) :
    processHeaderAndMessage P { header := some {}, body := some b } = .tell ⟨s, q⟩ := by
  simp [processHeaderAndMessage, h]

theorem tellFrameUndefined {s payload b}
    (h : createTellMessageFromServicePayload P s payload = some b) :
    processRealtimeMessage P b = .undefined := by
  simp only [createTellMessageFromServicePayload, Option.bind_eq_some, Option.some.injEq] at h
  obtain ⟨rtMsg, hrt, rfl⟩ := h
  simp [processRealtimeMessage, processHeaderless (createRtHeader hrt)]

theorem coreTellUndefined :
    ∃ b, createTellMessageFromServicePayload P .core [] = some b ∧
      processRealtimeMessage P b = .undefined := by
  obtain ⟨b, hb, -⟩ := createRtFramed (show Framed .core from Or.inr rfl) (P.service .core).dflt
  rw [(P.service .core).encodeDflt] at hb
  have tell : createTellMessageFromServicePayload P .core [] =
      some (P.realtime.encode { body := some b }) := by
    simp [createTellMessageFromServicePayload, hb]
  exact ⟨_, tell, tellFrameUndefined tell⟩

theorem requestRoundTrip {s : RealtimeService} (framed : Framed s) (m : P.Msg s) (i : UInt32)
    (hi : i ≠ 0) : ∃ b, createRequestMessageFromServicePayload P i s ((P.service s).encode m) = some b ∧
      processRealtimeMessage P b = .request ⟨i, s, (P.service s).encode m⟩ := by
  obtain ⟨body, hb, he⟩ := createRtFramed framed m
  exact ⟨P.realtime.encode { header := some { requestId := i }, body := some body },
    by simp [createRequestMessageFromServicePayload, hb],
    by simp [processRealtimeMessage, processRequestHeader i hi he]⟩

theorem responseRoundTrip {s : RealtimeService} (framed : Framed s) (m : P.Msg s) (i : UInt32)
    (hi : i ≠ 0) : ∃ b, createResponseMessageFromServicePayload P i s ((P.service s).encode m) = some b ∧
      processRealtimeMessage P b = .response ⟨i, s, (P.service s).encode m⟩ := by
  obtain ⟨body, hb, he⟩ := createRtFramed framed m
  exact ⟨P.realtime.encode { header := some { responseId := i }, body := some body },
    by simp [createResponseMessageFromServicePayload, hb],
    by simp [processRealtimeMessage, processResponseHeader i hi he]⟩

theorem requestZeroIsTell {s : RealtimeService} (framed : Framed s) (m : P.Msg s) :
    ∃ b, createRequestMessageFromServicePayload P 0 s ((P.service s).encode m) = some b ∧
      processRealtimeMessage P b = .tell ⟨s, (P.service s).encode m⟩ := by
  obtain ⟨body, hb, he⟩ := createRtFramed framed m
  exact ⟨P.realtime.encode { header := some {}, body := some body },
    by simp [createRequestMessageFromServicePayload, hb],
    by simpa [processRealtimeMessage] using processZeroHeader he⟩

theorem processRequestSpec {b : ProtoBytes} {p : ProtoPayloadRequest}
    (h : processRealtimeMessage P b = .request p) : p.requestId ≠ 0 ∧ p.service ≠ .undefined := by
  unfold processRealtimeMessage processHeaderAndMessage at h
  split at h <;> try contradiction
  split at h <;> try contradiction
  split at h; · contradiction
  split at h <;> try contradiction
  rename_i hx
  split at h
  · cases h; exact ⟨‹_›, extractService hx⟩
  · split at h <;> cases h

theorem processTellSpec {b : ProtoBytes} {p : ProtoPayloadTell}
    (h : processRealtimeMessage P b = .tell p) : p.service ≠ .undefined := by
  unfold processRealtimeMessage processHeaderAndMessage at h
  repeat' split at h
  all_goals first | contradiction | (cases h; exact extractService ‹_›)

/-! ### Frames of any payload -/

def framedPayload (P : Bindings) (s : RealtimeService) (payload : ProtoBytes) : Option ProtoBytes :=
  match s with
  | .connection => ((P.service .connection).decode payload).map (P.service .connection).encode
  | .core => ((P.service .core).decode payload).map (P.service .core).encode
  | _ => none

theorem createRtSome {s : RealtimeService} {payload : ProtoBytes} {rt : RealtimeMessage P.Msg}
    (h : createRtMessageFromServicePayload P s payload = some rt) :
    ∃ b q, rt = { body := some b } ∧ extractServicePayloadFromRtMessage P b = some (s, q) ∧
      framedPayload P s payload = some q := by
  cases s <;> simp only [createRtMessageFromServicePayload, Option.bind_eq_some, Option.map_eq_some',
    Option.some.injEq, reduceCtorEq, false_and, exists_false, Option.bind_none] at h
  all_goals
    obtain ⟨_, ⟨m, hm, rfl⟩, rfl⟩ := h
    exact ⟨_, _, rfl, rfl, by simp [framedPayload, hm]⟩

theorem createRtNone {s : RealtimeService} {payload : ProtoBytes}
    (h : createRtMessageFromServicePayload P s payload = none) : framedPayload P s payload = none := by
  cases s <;> simp only [framedPayload, Option.map_eq_none'] <;> first
    | rfl
    | cases hd : (P.service _).decode payload <;> simp_all [createRtMessageFromServicePayload]

theorem createRtOfFramed {s : RealtimeService} {payload q : ProtoBytes}
    (h : framedPayload P s payload = some q) :
    ∃ rt, createRtMessageFromServicePayload P s payload = some rt := by
  cases hc : createRtMessageFromServicePayload P s payload with
  | none => rw [createRtNone hc] at h; cases h
  | some rt => exact ⟨rt, rfl⟩

theorem framesOfFramed {s : RealtimeService} {payload q : ProtoBytes}
    (h : framedPayload P s payload = some q) (i : UInt32) :
    (∃ f, createRequestMessageFromServicePayload P i s payload = some f) ∧
      ∃ f, createResponseMessageFromServicePayload P i s payload = some f := by
  obtain ⟨rt, hrt⟩ := createRtOfFramed h
  simp [createRequestMessageFromServicePayload, createResponseMessageFromServicePayload, hrt]

theorem requestFrame {i : UInt32} {s : RealtimeService} {payload b : ProtoBytes}
    (h : createRequestMessageFromServicePayload P i s payload = some b) :
    ∃ q, framedPayload P s payload = some q ∧
      processRealtimeMessage P b = if i = 0 then .tell ⟨s, q⟩ else .request ⟨i, s, q⟩ := by
  simp only [createRequestMessageFromServicePayload, Option.bind_eq_some, Option.some.injEq] at h
  obtain ⟨rt, hrt, rfl⟩ := h
  obtain ⟨body, q, rfl, he, hq⟩ := createRtSome hrt
  refine ⟨q, hq, ?_⟩
  split
  · subst i; simpa [processRealtimeMessage] using processZeroHeader he
  · simpa [processRealtimeMessage] using processRequestHeader i ‹_› he

theorem responseFrame {i : UInt32} (hi : i ≠ 0) {s : RealtimeService} {payload b : ProtoBytes}
    (h : createResponseMessageFromServicePayload P i s payload = some b) :
    ∃ r, framedPayload P s payload = some r ∧ processRealtimeMessage P b = .response ⟨i, s, r⟩ := by
  simp only [createResponseMessageFromServicePayload, Option.bind_eq_some, Option.some.injEq] at h
  obtain ⟨rt, hrt, rfl⟩ := h
  obtain ⟨body, r, rfl, he, hr⟩ := createRtSome hrt
  exact ⟨r, hr, by simpa [processRealtimeMessage] using processResponseHeader i hi he⟩

theorem responseNone {i : UInt32} {s : RealtimeService} {payload : ProtoBytes}
    (h : createResponseMessageFromServicePayload P i s payload = none) :
    framedPayload P s payload = none := by
  simp only [createResponseMessageFromServicePayload, Option.bind_eq_none, Option.some_ne_none,
    imp_false] at h
  exact createRtNone (Option.eq_none_iff_forall_not_mem.mpr h)

end Fasttravel.Proto
