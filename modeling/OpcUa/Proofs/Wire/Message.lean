import OpcUa.Proofs.Structure.RoundTrip
import OpcUa.Wire.Message

/-!
# Messages read back

A message is one flat record: its id, two tags and the members of the service, no two of them under
one name. So the tags choose what they were written for, the rest is read as the service, and the
body of a frame is read as the message, with its time stamp as it is spelled.
-/

namespace OpcUa

namespace Json

/-- A tag is taken off a record that has no other member of its name. -/
theorem tagged?_record {α : Type} {name : String} {all : List (String × α)} {tag : String} {a : α}
    {entries : List (String × Option Json)} (fresh : name ∉ entries.map (·.1))
    (chosen : named? all tag = some a) :
    tagged? name all (.object (record ((name, some (.text tag)) :: entries))) =
      some (a, .object (record entries)) := by
  have rest : (record ((name, some (.text tag)) :: entries)).filter (·.1 != name) =
      record entries := by
    rw [record_some, List.filter_cons_of_neg (by simp), filter_ne_record fresh]
  have only := @single?_record_cons name (some (.text tag)) entries fresh
  simp only [tagged?, only, rest, tag?, chosen, Option.map_some]

end Json

open Json

/-! ### Requests and responses -/

def Request.entries : Request → List (String × Option Json)
  | .getEndpoints request => ("method", some (.text "get_endpoints")) :: request.entries
  | .ping => [("method", some (.text "ping"))]

theorem Request.record_entries (r : Request) : record r.entries = r.members := by
  cases r <;> rfl

theorem Request.plain_entries (r : Request) :
    ∀ entry ∈ r.entries, ∀ value ∈ entry.2, IsPlain 4 value := by
  cases r with
  | getEndpoints request => simp [entries, GetEndpointsRequest.entries]
  | ping => simp [entries]

def Request.spelled : Request → Request
  | .getEndpoints request => .getEndpoints request.spelled
  | .ping => .ping

theorem Request.ofJson?_entries (now : Instant) (r : Request) :
    ofJson? now (.object (record r.entries)) = some r.spelled := by
  cases r with
  | getEndpoints request =>
    have read := request.ofJson?_toJson now
    rw [GetEndpointsRequest.toJson_eq] at read
    have tag := @tagged?_record _ "method" methods "get_endpoints" .getEndpoints request.entries
      (by simp [GetEndpointsRequest.entries]) rfl
    rw [entries, ofJson?, tag, Option.bind_eq_bind, Option.bind_some]
    simp only [read, Option.map_some, spelled]
  | ping => rfl

def Response.entries : Response → List (String × Option Json)
  | .getEndpoints response => ("method", some (.text "get_endpoints_result")) :: response.entries
  | .pong => [("method", some (.text "pong"))]
  | .error code message =>
    [("method", some (.text "error")), ("code", some code.toJson),
      ("message", some (.text message))]

theorem Response.record_entries (r : Response) : record r.entries = r.members := by
  cases r <;> rfl

theorem Response.plain_entries (r : Response) :
    ∀ entry ∈ r.entries, ∀ value ∈ entry.2, IsPlain 4 value := by
  cases r with
  | getEndpoints response =>
    simp [entries, GetEndpointsResponse.entries, GetEndpointsResponse.plain_endpoints 0]
  | pong => simp [entries]
  | error code message => simp [entries]

def Response.spelled : Response → Response
  | .getEndpoints response => .getEndpoints response.spelled
  | .pong => .pong
  | .error code message => .error code message

theorem Response.ofJson?_entries (now : Instant) (r : Response) :
    ofJson? now (.object (record r.entries)) = some r.spelled := by
  cases r with
  | getEndpoints response =>
    have read := response.ofJson?_toJson true now
    rw [GetEndpointsResponse.toJson_eq] at read
    have tag := @tagged?_record _ "method" methods "get_endpoints_result" .getEndpoints
      response.entries (by simp [GetEndpointsResponse.entries]) rfl
    rw [entries, ofJson?, tag, Option.bind_eq_bind, Option.bind_some]
    simp only [read, Option.map_some, spelled]
  | pong => rfl
  | error code message =>
    have tag := @tagged?_record _ "method" methods "error" .error
      [("code", some code.toJson), ("message", some (.text message))] (by simp) rfl
    rw [entries, ofJson?, tag, Option.bind_eq_bind, Option.bind_some]
    simp only
    rw [bind_fields?_record]
    · simp [spelled]
    · rfl
    · decide

/-! ### Messages -/

def MessageContent.entries : MessageContent → List (String × Option Json)
  | .request r => ("type", some (.text "request")) :: r.entries
  | .response r => ("type", some (.text "response")) :: r.entries

theorem MessageContent.record_entries (c : MessageContent) : record c.entries = c.members := by
  cases c with
  | request r => rw [entries, record_some, r.record_entries, members]
  | response r => rw [entries, record_some, r.record_entries, members]

theorem MessageContent.plain_entries (c : MessageContent) :
    ∀ entry ∈ c.entries, ∀ value ∈ entry.2, IsPlain 4 value := by
  cases c with
  | request r => exact List.forall_mem_cons.mpr ⟨by simp, r.plain_entries⟩
  | response r => exact List.forall_mem_cons.mpr ⟨by simp, r.plain_entries⟩

/-- The time stamps that a message carries. -/
def MessageContent.timestamps : MessageContent → List Instant
  | .request (.getEndpoints r) => [r.requestHeader.timestamp]
  | .response (.getEndpoints r) => [r.responseHeader.timestamp]
  | _ => []

def MessageContent.spelled : MessageContent → MessageContent
  | .request r => .request r.spelled
  | .response r => .response r.spelled

theorem MessageContent.spelled_eq_self_iff {c : MessageContent} :
    c.spelled = c ↔ ∀ t ∈ c.timestamps, t.IsRegular := by
  cases c with
  | request r => cases r <;> simp [spelled, Request.spelled, timestamps]
  | response r => cases r <;> simp [spelled, Response.spelled, timestamps]

theorem MessageContent.ofJson?_entries (now : Instant) (c : MessageContent) :
    ofJson? now (.object (record c.entries)) = some c.spelled := by
  cases c with
  | request r =>
    have tag := @tagged?_record _ "type" directions "request" .request r.entries
      (by cases r <;> simp [Request.entries, GetEndpointsRequest.entries]) rfl
    rw [entries, ofJson?, tag, Option.bind_eq_bind, Option.bind_some]
    simp only [r.ofJson?_entries now, Option.map_some, spelled]
  | response r =>
    have tag := @tagged?_record _ "type" directions "response" .response r.entries
      (by cases r <;> simp [Response.entries, GetEndpointsResponse.entries]) rfl
    rw [entries, ofJson?, tag, Option.bind_eq_bind, Option.bind_some]
    simp only [r.ofJson?_entries now, Option.map_some, spelled]

namespace Message

def IsRegular (m : Message) : Prop :=
  ∀ t ∈ m.content.timestamps, t.IsRegular

/-- The message that is read back, equal in everything but its time stamp. -/
def spelled (m : Message) : Message :=
  { m with content := m.content.spelled }

theorem spelled_eq_self_iff {m : Message} : m.spelled = m ↔ m.IsRegular := by
  rw [IsRegular, ← MessageContent.spelled_eq_self_iff]
  cases m
  simp [spelled]

def entries (m : Message) : List (String × Option Json) :=
  ("id", some (.text m.id)) :: m.content.entries

theorem toJson_eq (m : Message) : m.toJson = .object (record m.entries) := by
  rw [toJson, entries, record_some, m.content.record_entries]

theorem plain_toJson (m : Message) : IsPlain 5 m.toJson := by
  rw [toJson_eq]
  exact plain_record (List.forall_mem_cons.mpr ⟨by simp, m.content.plain_entries⟩)

theorem ofJson?_toJson (now : Instant) (m : Message) : ofJson? now m.toJson = some m.spelled := by
  -- The id is found and taken off because nothing else in the message has its name.
  have fresh : "id" ∉ m.content.entries.map (·.1) := by
    rcases m.content with r | r
    · cases r <;> simp [MessageContent.entries, Request.entries, GetEndpointsRequest.entries]
    · cases r <;> simp [MessageContent.entries, Response.entries, GetEndpointsResponse.entries]
  have content : (record m.entries).filter (·.1 != "id") = record m.content.entries := by
    rw [entries, record_some, List.filter_cons_of_neg (by simp), filter_ne_record fresh]
  have kept : (record m.content.entries).all (fun member =>
      member.2.isKept (nestingLimit - 1)) = true :=
    List.all_eq_true.mpr fun _ within => isKept_of_mem_record
      (fun entry member value stands =>
        (m.content.plain_entries entry member value stands).mono (by decide)) within
  have id : single? "id" (record m.entries) = some (some (.text m.id)) := single?_record_cons fresh
  rw [toJson_eq, ofJson?]
  simp [content, kept, id, m.content.ofJson?_entries now, spelled]

/-- The body of a frame is read as the message it was written for. -/
theorem parse?_bytes (now : Instant) (m : Message) : parse? now m.bytes = some m.spelled := by
  rw [parse?, bytes, Json.parse?_bytes m.plain_toJson, Option.bind_some, ofJson?_toJson]

end Message

end OpcUa
