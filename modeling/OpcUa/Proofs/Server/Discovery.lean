import OpcUa.Proofs.Server.Transcript

/-!
# Discovery from end to end

A client that asks a server for its endpoints gets them just when both messages are within the
limits of both sides; otherwise it is told that a message is too large or that the connection is
closed, and never that the server said something else.
-/

namespace OpcUa

namespace Discovery

variable {s : Service} {clock : Nat → Instant}

/-- The message that asks for endpoints. -/
def ask (id : String) (request : GetEndpointsRequest) : Message :=
  ⟨id, .request (.getEndpoints request)⟩

/-- What a client finds that is connected to the server. -/
def link (s : Service) (clock : Nat → Instant) : Link :=
  .peer fun sent => (s.serve clock 0 sent).1

/-! ### The server -/

/-- Nothing comes back for bytes that ask for nothing. -/
theorem serve_of_silent {turn : Nat} {input : List UInt8}
    (silent : ∀ m rest, ¬Message.Leads s.maxMessageSize (clock turn) m input rest) :
    (s.serve clock turn input).1 = [] :=
  (Service.serve_stuck (fun m rest leads => absurd leads (silent m rest)) (.of_silent silent)).1

theorem leads_frame {max : UInt32} (now : Instant) {m : Message}
    (fits : m.bytes.length ≤ max.toNat) : Message.Leads max now m.spelled m.frame [] :=
  ⟨m.bytes, (List.append_nil _).symm, fits, Message.parse?_bytes now m⟩

/-- No answer depends on when it was asked for. -/
theorem answer_spelled (s : Service) (now : Instant) (m : Message) :
    s.answer now m.spelled = s.answer now m := by
  obtain ⟨id, content⟩ := m
  rcases content with request | response
  · cases request <;> rfl
  · rfl

/-- A single message is replied to if it and its reply are within the limit of the server. -/
theorem serve_frame {m : Message} (fits : m.bytes.length ≤ s.maxMessageSize.toNat)
    (replyFits : (s.answer (clock 0) m).bytes.length ≤ s.maxMessageSize.toNat) :
    (s.serve clock 0 m.frame).1 = (s.answer (clock 0) m).frame := by
  have same := answer_spelled s (clock 0) m
  rw [Service.serve_next (leads_frame (clock 0) fits) (same ▸ replyFits), same,
    serve_of_silent fun _ _ => Service.not_leads_of_short (by decide), List.append_nil]

theorem serve_frame_over {m : Message} (exceeds : s.maxMessageSize.toNat < m.bytes.length)
    (bounded : m.bytes.length < 2 ^ 32) : (s.serve clock 0 m.frame).1 = [] := by
  refine serve_of_silent fun other rest leads => ?_
  obtain ⟨size, failed⟩ := Message.read_over (clock 0) exceeds bounded []
  rw [List.append_nil, Message.read_eq_ok_iff.mpr leads] at failed
  cases failed

theorem serve_reply_over {m : Message} (fits : m.bytes.length ≤ s.maxMessageSize.toNat)
    (exceeds : s.maxMessageSize.toNat < (s.answer (clock 0) m).bytes.length)
    (bounded : (s.answer (clock 0) m).bytes.length < 2 ^ 32) :
    (s.serve clock 0 m.frame).1 = [] := by
  have leads := leads_frame (clock 0) fits
  rw [← answer_spelled] at exceeds bounded
  refine (Service.serve_stuck (fun other rest following => ?_) (.of_next leads bounded
    (.of_silent fun _ _ => Service.not_leads_of_short (by decide)))).1
  obtain ⟨rfl, -⟩ := leads.unique following
  exact exceeds

/-! ### The client -/

theorem outcome_empty (id : String) (now : Instant) :
    outcome id now [] = .error .connectionClosed :=
  rfl

theorem outcome_frame {id : String} (now : Instant) {response : GetEndpointsResponse}
    (fits :
      (Message.bytes ⟨id, .response (.getEndpoints response)⟩).length ≤ maxMessageSize.toNat) :
    outcome id now (Message.frame ⟨id, .response (.getEndpoints response)⟩) =
      .ok response.spelled := by
  have success := Message.read_eq_ok_iff.mpr (leads_frame now fits)
  rw [outcome, success]
  exact if_pos rfl

theorem outcome_over {id : String} (now : Instant) {reply : Message}
    (exceeds : maxMessageSize.toNat < reply.bytes.length) (bounded : reply.bytes.length < 2 ^ 32) :
    ∃ size, outcome id now reply.frame = .error (.messageTooLarge size maxMessageSize) := by
  obtain ⟨size, failed⟩ := Message.read_over now exceeds bounded []
  refine ⟨size, ?_⟩
  rw [List.append_nil] at failed
  rw [outcome, failed]

/-! ### Both together -/

/-- What the server tells a client that asks for endpoints. -/
def told (s : Service) (now : Instant) (request : GetEndpointsRequest) : GetEndpointsResponse where
  responseHeader := .answering now request.requestHeader .good
  endpoints := request.select s.endpoints

theorem answer_ask (s : Service) (now : Instant) (id : String) (request : GetEndpointsRequest) :
    s.answer now (ask id request) = ⟨id, .response (.getEndpoints (told s now request))⟩ :=
  rfl

variable {now : Instant} {id : String} {request : GetEndpointsRequest}

theorem discoverEndpoints_of_fits
    (asked : (ask id request).bytes.length ≤ min s.maxMessageSize.toNat maxMessageSize.toNat)
    (replied : (s.answer (clock 0) (ask id request)).bytes.length ≤
      min s.maxMessageSize.toNat maxMessageSize.toNat) :
    discoverEndpoints (link s clock) now id request = .ok (told s (clock 0) request).spelled := by
  obtain ⟨served, sent⟩ := Nat.le_min.mp asked
  obtain ⟨answered, received⟩ := Nat.le_min.mp replied
  have question : question id request = .ok (ask id request).frame := Message.write_of_fits sent
  rw [link, discoverEndpoints, question]
  simp only
  rw [serve_frame served answered, answer_ask]
  exact outcome_frame now received

/-- Whichever message is too large, and whichever side it is too large for. -/
theorem discoverEndpoints_of_over (bounded : (ask id request).bytes.length < 2 ^ 32)
    (replyBounded : (s.answer (clock 0) (ask id request)).bytes.length < 2 ^ 32)
    (exceeds : ¬((ask id request).bytes.length ≤ min s.maxMessageSize.toNat maxMessageSize.toNat ∧
      (s.answer (clock 0) (ask id request)).bytes.length ≤
        min s.maxMessageSize.toNat maxMessageSize.toNat)) :
    ∃ fault, discoverEndpoints (link s clock) now id request = .error fault ∧
      (fault = .connectionClosed ∨ ∃ size max, fault = .messageTooLarge size max) := by
  simp only [Nat.le_min] at exceeds
  rw [link, discoverEndpoints]
  -- In the order in which the limits are met: of the client for what it asks, of the server for
  -- that and for its answer, and of the client for what it is told.
  rcases Nat.lt_or_ge maxMessageSize.toNat (ask id request).bytes.length with large | sent
  · obtain ⟨size, refused⟩ := Message.write_of_over large bounded
    rw [question, show Message.mk id _ = ask id request from rfl, refused]
    exact ⟨_, rfl, .inr ⟨_, _, rfl⟩⟩
  · have question : question id request = .ok (ask id request).frame := Message.write_of_fits sent
    rw [question]
    simp only
    rcases Nat.lt_or_ge s.maxMessageSize.toNat (ask id request).bytes.length with large | served
    · rw [serve_frame_over large bounded, outcome_empty]
      exact ⟨_, rfl, .inl rfl⟩
    · rcases Nat.lt_or_ge s.maxMessageSize.toNat (s.answer (clock 0) (ask id request)).bytes.length
        with large | answered
      · rw [serve_reply_over served large replyBounded, outcome_empty]
        exact ⟨_, rfl, .inl rfl⟩
      · rw [serve_frame served answered]
        obtain ⟨size, refused⟩ := outcome_over now (by omega) replyBounded
        rw [refused]
        exact ⟨_, rfl, .inr ⟨_, _, rfl⟩⟩

end Discovery

open Discovery in
/-- A client is told the endpoints that it asks for just when its message and the server's are
within the limits of both. Otherwise a message is too large or the connection is closed. -/
theorem discovers_endpoints {s : Service} {clock : Nat → Instant} {now : Instant} {id : String}
    {request : GetEndpointsRequest} (bounded : (ask id request).bytes.length < 2 ^ 32)
    (replyBounded : (s.answer (clock 0) (ask id request)).bytes.length < 2 ^ 32) :
    ((∃ response, discoverEndpoints (link s clock) now id request = .ok response) ↔
      (ask id request).bytes.length ≤ min s.maxMessageSize.toNat 4194240 ∧
      (s.answer (clock 0) (ask id request)).bytes.length ≤ min s.maxMessageSize.toNat 4194240) ∧
    (∀ response, discoverEndpoints (link s clock) now id request = .ok response →
      response.responseHeader.serviceResult = .good ∧
      response.responseHeader.requestHandle = request.requestHeader.requestHandle ∧
      response.endpoints = s.endpoints.filter fun e =>
        request.profileUris = [] ∨ e.transportProfileUri ∈ request.profileUris) ∧
    (∀ fault, discoverEndpoints (link s clock) now id request = .error fault →
      fault = .connectionClosed ∨ ∃ size max, fault = .messageTooLarge size max) := by
  by_cases fits : (ask id request).bytes.length ≤ min s.maxMessageSize.toNat 4194240 ∧
      (s.answer (clock 0) (ask id request)).bytes.length ≤ min s.maxMessageSize.toNat 4194240
  · rw [discoverEndpoints_of_fits fits.1 fits.2]
    refine ⟨⟨fun _ => fits, fun _ => ⟨_, rfl⟩⟩, fun response found => ?_, fun fault failed => ?_⟩
    · cases found
      exact ⟨rfl, rfl, Service.select_eq_filter request s.endpoints⟩
    · cases failed
  · obtain ⟨fault, failed, cause⟩ := discoverEndpoints_of_over bounded replyBounded fits
    rw [failed]
    refine ⟨⟨fun ⟨_, found⟩ => ?_, fun within => absurd within fits⟩, fun response found => ?_,
      fun other same => ?_⟩
    · cases found
    · cases found
    · cases same
      exact cause

namespace Discovery

/-- A service with endpoints of two transport profiles. -/
def twoProfiles : Service where
  endpoints := [{ transportProfileUri := "urn:first" }, { transportProfileUri := "urn:second" }]
  maxMessageSize := 2000

/-- A request for the endpoints of the second profile. -/
def secondProfile : GetEndpointsRequest where
  requestHeader := { timestamp := .epoch, requestHandle := 7 }
  profileUris := ["urn:second"]

theorem length_secondProfile : (ask "1" secondProfile).bytes.length ≤ 2000 := by
  rw [Message.bytes, Json.bytes_eq_utf8]
  decide +kernel

theorem length_twoProfiles :
    (twoProfiles.answer .epoch (ask "1" secondProfile)).bytes.length ≤ 2000 := by
  rw [Message.bytes, Json.bytes_eq_utf8]
  decide +kernel

theorem discovers_secondProfile :
    ∃ response, discoverEndpoints (link twoProfiles fun _ => .epoch) .epoch "1" secondProfile =
        .ok response ∧
      response.responseHeader.requestHandle = 7 ∧
      response.endpoints = [{ transportProfileUri := "urn:second" }] := by
  obtain ⟨found, content, -⟩ := @discovers_endpoints twoProfiles (fun _ => .epoch) .epoch "1"
    secondProfile (Nat.lt_of_le_of_lt length_secondProfile (by decide))
    (Nat.lt_of_le_of_lt length_twoProfiles (by decide))
  obtain ⟨response, told⟩ := found.mpr ⟨Nat.le_trans length_secondProfile (by decide),
    Nat.le_trans length_twoProfiles (by decide)⟩
  obtain ⟨-, handle, chosen⟩ := content response told
  exact ⟨response, told, handle, chosen.trans (by decide)⟩

end Discovery

end OpcUa
