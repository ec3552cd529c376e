import OpcUa.Proofs.Wire.Framing
import OpcUa.Server.Session

/-!
# Transcripts of sessions

What a server sends on a connection, for any bytes that come in. It answers the frames of the input
as long as each is within the limit, holds a message and has an answer within the limit, and sends
nothing for what follows. The session ends without a fault only where the input ends between two
frames or inside a length.
-/

namespace OpcUa

namespace Service

variable {s : Service} {clock : Nat → Instant}

/-- What a response tells in answer to what was asked. -/
inductive Tells (s : Service) : MessageContent → Response → Prop where
  | pong : Tells s (.request .ping) .pong
  | endpoints {request : GetEndpointsRequest} {response : GetEndpointsResponse}
      (good : response.responseHeader.serviceResult = .good)
      (handle : response.responseHeader.requestHandle = request.requestHeader.requestHandle)
      (chosen : response.endpoints = s.endpoints.filter fun e =>
        request.profileUris = [] ∨ e.transportProfileUri ∈ request.profileUris) :
      Tells s (.request (.getEndpoints request)) (.getEndpoints response)
  | unsupported {response : Response} {reason : String} :
      Tells s (.response response) (.error .badServiceUnsupported reason)

theorem select_eq_filter (request : GetEndpointsRequest) (endpoints : List EndpointDescription) :
    request.select endpoints = endpoints.filter fun e =>
      request.profileUris = [] ∨ e.transportProfileUri ∈ request.profileUris := by
  refine List.filter_congr fun e _ => ?_
  rw [GetEndpointsRequest.wants]
  cases request.profileUris <;> simp

/-- Every message is answered under its id, by what it asks for. -/
theorem answer_tells (s : Service) (now : Instant) (m : Message) :
    ∃ response, s.answer now m = m.reply response ∧ s.Tells m.content response := by
  refine ⟨s.response now m.content, rfl, ?_⟩
  rcases m.content with (request | _) | response
  · exact .endpoints rfl rfl (select_eq_filter request s.endpoints)
  · exact .pong
  · exact .unsupported

/-- The frames at the start of the input that are answered one after another, from a turn on, with
their replies and what comes after them. -/
inductive Answered (s : Service) (clock : Nat → Instant) :
    Nat → List UInt8 → List Message → List UInt8 → Prop where
  | none {turn : Nat} {input : List UInt8} : Answered s clock turn input [] input
  | next {turn : Nat} {m : Message} {input rest left : List UInt8} {replies : List Message}
      (leads : Message.Leads s.maxMessageSize (clock turn) m input rest)
      (fits : (s.answer (clock turn) m).bytes.length ≤ s.maxMessageSize.toNat)
      (later : Answered s clock (turn + 1) rest replies left) :
      Answered s clock turn input (s.answer (clock turn) m :: replies) left

/-- No frame leads the rest of the input that could be answered in that turn. -/
def Stuck (s : Service) (now : Instant) (input : List UInt8) : Prop :=
  ∀ m rest, Message.Leads s.maxMessageSize now m input rest →
    s.maxMessageSize.toNat < (s.answer now m).bytes.length

/-- The replies to a frame that is reached are shorter than lengths can tell. -/
def RepliesBounded (s : Service) (clock : Nat → Instant) (turn : Nat) (input : List UInt8) : Prop :=
  ∀ replies left m rest, Answered s clock turn input replies left →
    Message.Leads s.maxMessageSize (clock (turn + replies.length)) m left rest →
    (s.answer (clock (turn + replies.length)) m).bytes.length < 2 ^ 32

/-- The turn after the replies to a frame and to those that follow it. -/
theorem turn_cons (turn : Nat) (m : Message) (replies : List Message) :
    turn + (m :: replies).length = turn + 1 + replies.length := by
  rw [List.length_cons]
  omega

theorem RepliesBounded.first {turn : Nat} {input rest : List UInt8} {m : Message}
    (bounded : RepliesBounded s clock turn input)
    (leads : Message.Leads s.maxMessageSize (clock turn) m input rest) :
    (s.answer (clock turn) m).bytes.length < 2 ^ 32 :=
  bounded [] input m rest .none leads

theorem RepliesBounded.later {turn : Nat} {input rest : List UInt8} {m : Message}
    (bounded : RepliesBounded s clock turn input)
    (leads : Message.Leads s.maxMessageSize (clock turn) m input rest)
    (fits : (s.answer (clock turn) m).bytes.length ≤ s.maxMessageSize.toNat) :
    RepliesBounded s clock (turn + 1) rest := by
  intro replies left other after answered following
  rw [← turn_cons turn (s.answer (clock turn) m)] at following ⊢
  exact bounded _ _ _ _ (.next leads fits answered) following

/-- Nothing is asked by less than a length. -/
theorem not_leads_of_short {max : UInt32} {now : Instant} {m : Message} {input rest : List UInt8}
    (short : input.length < 4) : ¬Message.Leads max now m input rest := by
  intro leads
  have closed := (@Message.read_closed_iff max now input).mpr short
  rw [Message.read_eq_ok_iff.mpr leads] at closed
  cases closed

theorem Answered.of_silent {turn : Nat} {input left : List UInt8} {replies : List Message}
    (answered : s.Answered clock turn input replies left)
    (silent : ∀ m rest, ¬Message.Leads s.maxMessageSize (clock turn) m input rest) :
    replies = [] ∧ left = input := by
  cases answered with
  | none => exact ⟨rfl, rfl⟩
  | next leads _ _ => exact absurd leads (silent _ _)

theorem RepliesBounded.of_silent {turn : Nat} {input : List UInt8}
    (silent : ∀ m rest, ¬Message.Leads s.maxMessageSize (clock turn) m input rest) :
    RepliesBounded s clock turn input := by
  intro replies left m rest answered leads
  obtain ⟨rfl, rfl⟩ := answered.of_silent silent
  exact absurd leads (silent m rest)

theorem RepliesBounded.of_next {turn : Nat} {input rest : List UInt8} {m : Message}
    (leads : Message.Leads s.maxMessageSize (clock turn) m input rest)
    (first : (s.answer (clock turn) m).bytes.length < 2 ^ 32)
    (later : RepliesBounded s clock (turn + 1) rest) : RepliesBounded s clock turn input := by
  intro replies left other after answered following
  cases answered with
  | none =>
    obtain ⟨rfl, -⟩ := leads.unique following
    exact first
  | next asked _ answered =>
    obtain ⟨rfl, rfl⟩ := leads.unique asked
    rw [turn_cons] at following ⊢
    exact later _ _ _ _ answered following

/-- Whoever stops earlier has sent fewer of the same replies. -/
theorem Answered.fewer {turn : Nat} {input left other : List UInt8} {replies fewer : List Message}
    (all : Answered s clock turn input replies left)
    (stuck : s.Stuck (clock (turn + replies.length)) left)
    (some : Answered s clock turn input fewer other) : fewer <+: replies := by
  induction some generalizing replies left with
  | none => exact List.nil_prefix
  | next leads fits _ ih =>
    cases all with
    | none => exact absurd fits (Nat.not_le.mpr (stuck _ _ leads))
    | next leads' _ later =>
      obtain ⟨rfl, rfl⟩ := leads.unique leads'
      rw [turn_cons] at stuck
      exact (List.prefix_cons_inj _).mpr (ih later stuck)

/-! ### Turns -/

theorem serve_next {turn : Nat} {m : Message} {input rest : List UInt8}
    (leads : Message.Leads s.maxMessageSize (clock turn) m input rest)
    (fits : (s.answer (clock turn) m).bytes.length ≤ s.maxMessageSize.toNat) :
    s.serve clock turn input =
      ((s.answer (clock turn) m).frame ++ (s.serve clock (turn + 1) rest).1,
        (s.serve clock (turn + 1) rest).2) := by
  have success := Message.read_eq_ok_iff.mpr leads
  rw [serve]
  split
  · rename_i found
    rw [success] at found
    cases found
    rw [Message.write_of_fits fits]
  all_goals
    rename_i found
    rw [success] at found
    cases found

theorem serve_stuck {turn : Nat} {input : List UInt8} (stuck : s.Stuck (clock turn) input)
    (bounded : RepliesBounded s clock turn input) :
    (s.serve clock turn input).1 = [] ∧
      ((s.serve clock turn input).2 = none ↔ input.length < 4) := by
  rw [← @Message.read_closed_iff s.maxMessageSize (clock turn), serve]
  split
  -- A message is still read here where it is the answer to it that is too large.
  · rename_i m rest success
    have leads := Message.read_eq_ok_iff.mp success
    obtain ⟨size, refused⟩ := Message.write_of_over (stuck m rest leads) (bounded.first leads)
    rw [refused, success]
    simp
  · rename_i closed
    simp [closed]
  · rename_i fault rest other failed
    simpa [failed] using other

/-! ### Sessions -/

/-- The frames that are answered are those before the first one that cannot be. -/
theorem exists_answered (s : Service) (clock : Nat → Instant) (turn : Nat) (input : List UInt8) :
    ∃ replies left, s.Answered clock turn input replies left ∧
      s.Stuck (clock (turn + replies.length)) left := by
  by_cases stuck : s.Stuck (clock turn) input
  · exact ⟨[], input, .none, stuck⟩
  · simp only [Stuck, not_forall, Nat.not_lt] at stuck
    obtain ⟨m, rest, leads, fits⟩ := stuck
    -- A frame has at least its length, so what comes after it is shorter.
    have shorter := Message.length_of_read (Message.read_eq_ok_iff.mpr leads)
    obtain ⟨replies, left, answered, stuck⟩ := exists_answered s clock (turn + 1) rest
    refine ⟨_, left, .next leads fits answered, ?_⟩
    rwa [turn_cons]
termination_by input.length

theorem serve_answered {turn : Nat} {input left : List UInt8} {replies : List Message}
    (answered : s.Answered clock turn input replies left)
    (stuck : s.Stuck (clock (turn + replies.length)) left)
    (bounded : RepliesBounded s clock turn input) :
    (s.serve clock turn input).1 = (replies.map Message.frame).flatten ∧
      ((s.serve clock turn input).2 = none ↔ left.length < 4) := by
  induction answered with
  | none => exact serve_stuck stuck bounded
  | next leads fits _ ih =>
    rw [turn_cons] at stuck
    obtain ⟨sent, ended⟩ := ih stuck (bounded.later leads fits)
    rw [serve_next leads fits, List.map_cons, List.flatten_cons, sent]
    exact ⟨rfl, ended⟩

/-- What comes back on a connection are the frames of the replies to the longest run of frames that
can be answered, and each reply tells what was asked for. -/
theorem transcript_of_serve {turn : Nat} {input : List UInt8}
    (bounded : RepliesBounded s clock turn input) :
    ∃ replies left, s.Answered clock turn input replies left ∧
      (∀ fewer other, s.Answered clock turn input fewer other → fewer <+: replies) ∧
      (s.serve clock turn input).1 = (replies.map Message.frame).flatten ∧
      ((s.serve clock turn input).2 = none ↔ left.length < 4) ∧
      ∀ now m, ∃ response, s.answer now m = m.reply response ∧ s.Tells m.content response := by
  obtain ⟨replies, left, answered, stuck⟩ := s.exists_answered clock turn input
  obtain ⟨sent, ended⟩ := serve_answered answered stuck bounded
  exact ⟨replies, left, answered, fun _ _ => answered.fewer stuck, sent, ended, s.answer_tells⟩

/-- A service without endpoints whose messages take at most 100 bytes. -/
def bareService : Service where
  endpoints := []
  maxMessageSize := 100

def ping : Message := ⟨"1", .request .ping⟩

def pong : Message := ⟨"1", .response .pong⟩

theorem leads_ping (rest : List UInt8) :
    Message.Leads bareService.maxMessageSize .epoch ping (ping.frame ++ rest) rest := by
  refine ⟨ping.bytes, rfl, ?_, Message.parse?_bytes _ ping⟩
  rw [Message.bytes, Json.bytes_eq_utf8]
  decide +kernel

theorem length_pong : pong.bytes.length ≤ bareService.maxMessageSize.toNat := by
  rw [Message.bytes, Json.bytes_eq_utf8]
  decide +kernel

/-- A ping is answered, and the half of a length after it is not missed. -/
theorem transcript_of_ping :
    bareService.serve (fun _ => .epoch) 0 (ping.frame ++ [0, 0]) = (pong.frame, none) := by
  have bounded : RepliesBounded bareService (fun _ => .epoch) 0 (ping.frame ++ [0, 0]) :=
    .of_next (leads_ping [0, 0]) (Nat.lt_of_le_of_lt length_pong (by decide))
      (.of_silent fun _ _ => not_leads_of_short (by decide))
  obtain ⟨replies, left, answered, longest, sent, ended, -⟩ := transcript_of_serve bounded
  have some := longest _ _ (.next (leads_ping [0, 0]) length_pong .none)
  cases answered with
  | none => exact absurd some.length_le (by decide)
  | next leads _ later =>
    obtain ⟨rfl, rfl⟩ := (leads_ping [0, 0]).unique leads
    obtain ⟨rfl, rfl⟩ := later.of_silent fun _ _ => not_leads_of_short (by decide)
    refine Prod.ext (sent.trans ?_) (ended.mpr (by decide))
    exact List.append_nil pong.frame

end Service

end OpcUa
