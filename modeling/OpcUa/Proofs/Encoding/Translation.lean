import OpcUa.Proofs.Encoding.Items
import OpcUa.Proofs.Namespace.Indices

/-!
# Ids under two tables

An id that one table expands is localized by another table just when that has the namespace, and the
two local ids then have the same meaning, whatever their indices are. All that decoding takes from
the id of an envelope is its meaning.
-/

namespace OpcUa

open StructureFamily

namespace NamespaceTable

variable {t : NamespaceTable} {uri : String}

theorem expand_eq_ok_iff {id : NodeId} {expanded : ExpandedNodeId} :
    t.expand id = .ok expanded ↔ ∃ uri, t.uri? id.namespaceIndex = some uri ∧
      expanded = {
        namespaceUri := some uri
        namespaceIndex := id.namespaceIndex
        identifier := id.identifier } := by
  unfold expand
  cases t.uri? id.namespaceIndex with
  | none => simp
  | some uri => simp [eq_comm]

/-- The meaning of an id is its identifier in the namespace that it names by URI, or else by
index. -/
theorem qualify_eq_ok_iff {id : ExpandedNodeId} {meaning : QualifiedId} :
    t.qualify id = .ok meaning ↔ meaning.identifier = id.identifier ∧
      (id.namespaceUri = some meaning.namespaceUri ∨
        id.namespaceUri = none ∧ t.uri? id.namespaceIndex = some meaning.namespaceUri) := by
  obtain ⟨uri, identifier⟩ := meaning
  unfold qualify
  cases id.namespaceUri with
  | some other =>
    simp only [Except.ok.injEq, QualifiedId.mk.injEq, Option.some.injEq, reduceCtorEq, false_and,
      or_false]
    exact and_comm.trans (and_congr_left' eq_comm)
  | none =>
    cases t.uri? id.namespaceIndex with
    | none => simp
    | some other =>
      simp only [Except.ok.injEq, QualifiedId.mk.injEq, reduceCtorEq, Option.some.injEq, true_and,
        false_or]
      exact and_comm.trans (and_congr_left' eq_comm)

theorem qualify_ofNodeId {id : NodeId} (known : t.uri? id.namespaceIndex = some uri) :
    t.qualify (.ofNodeId id) = .ok ⟨uri, id.identifier⟩ :=
  qualify_eq_ok_iff.mpr ⟨rfl, .inr ⟨rfl, known⟩⟩

theorem nodeId_eq_ok_iff {identifier : Identifier} {id : NodeId} :
    t.nodeId uri identifier = .ok id ↔
      t.indexOf? uri = some id.namespaceIndex ∧ id.identifier = identifier := by
  obtain ⟨index, other⟩ := id
  unfold nodeId
  cases t.indexOf? uri with
  | none => simp
  | some first => simp [eq_comm]

theorem exists_nodeId_iff (bounded : t.size ≤ capacity) {identifier : Identifier} :
    (∃ id, t.nodeId uri identifier = .ok id) ↔ uri ∈ t.uris := by
  rw [← exists_indexOf?_iff bounded]
  constructor
  · rintro ⟨id, placed⟩
    exact ⟨_, (nodeId_eq_ok_iff.mp placed).1⟩
  · rintro ⟨index, found⟩
    exact ⟨⟨index, identifier⟩, nodeId_eq_ok_iff.mpr ⟨found, rfl⟩⟩

/-- A local id has the meaning of the id that it was localized from. -/
theorem qualify_of_localize {expanded : ExpandedNodeId} {id : NodeId}
    (localized : t.localize expanded = .ok id) :
    ∃ meaning, t.qualify expanded = .ok meaning ∧ t.qualify (.ofNodeId id) = .ok meaning := by
  unfold localize at localized
  split at localized
  · split at localized
    · rename_i uri named
      obtain ⟨found, same⟩ := nodeId_eq_ok_iff.mp localized
      refine ⟨⟨uri, id.identifier⟩, ?_, qualify_ofNodeId (uri?_of_indexOf? found)⟩
      exact qualify_eq_ok_iff.mpr ⟨same, .inl named⟩
    · rename_i unnamed
      split at localized
      · rename_i uri known
        cases localized
        refine ⟨⟨uri, expanded.identifier⟩, ?_, qualify_ofNodeId known⟩
        exact qualify_eq_ok_iff.mpr ⟨rfl, .inr ⟨unnamed, known⟩⟩
      · cases localized
  · cases localized

variable {L R : NamespaceTable} {uris : List String}

/-- Another table localizes what a table has expanded if it has the namespace, and keeps the
meaning. -/
theorem localize_of_expand (bounded : R.size ≤ capacity) {id : NodeId} {expanded : ExpandedNodeId}
    (expands : L.expand id = .ok expanded) :
    ∃ uri, L.uri? id.namespaceIndex = some uri ∧
      L.qualify (.ofNodeId id) = .ok ⟨uri, id.identifier⟩ ∧
      ((∃ other, R.localize expanded = .ok other) ↔ uri ∈ R.uris) ∧
      ∀ other, R.localize expanded = .ok other →
        R.qualify (.ofNodeId other) = .ok ⟨uri, id.identifier⟩ := by
  obtain ⟨uri, known, rfl⟩ := expand_eq_ok_iff.mp expands
  refine ⟨uri, known, qualify_ofNodeId known, ?_, fun other localized => ?_⟩
  · exact exists_nodeId_iff bounded
  · have placed : R.nodeId uri id.identifier = .ok other := localized
    obtain ⟨found, same⟩ := nodeId_eq_ok_iff.mp placed
    rw [qualify_ofNodeId (uri?_of_indexOf? found), same]

theorem same_meaning_iff {first second : ExpandedNodeId} (unnamed : first.namespaceUri = none)
    (unnamed' : second.namespaceUri = none) :
    (∃ meaning, L.qualify first = .ok meaning ∧ R.qualify second = .ok meaning) ↔
      first.identifier = second.identifier ∧ ∃ uri,
        L.uri? first.namespaceIndex = some uri ∧ R.uri? second.namespaceIndex = some uri := by
  simp only [qualify_eq_ok_iff, unnamed, unnamed', reduceCtorEq, false_or, true_and]
  constructor
  · rintro ⟨⟨uri, identifier⟩, ⟨rfl, known⟩, same, known'⟩
    exact ⟨same, uri, known, known'⟩
  · rintro ⟨same, uri, known, known'⟩
    exact ⟨⟨uri, first.identifier⟩, ⟨rfl, known⟩, same, known'⟩

end NamespaceTable

namespace ExtensionObject

variable {κ : Type} [StructureFamily κ]

/-- Decoding takes nothing but the meaning from the id of an envelope, and nothing else from a
table. -/
theorem decode_of_qualify (c : EncoderContext κ) (now : Instant) (body : ExtensionBody κ)
    {own : NamespaceTable} {sender other : Option NamespaceTable} {id id' : ExpandedNodeId}
    {meaning : QualifiedId} (qualifies : (sender.getD c.namespaces).qualify id = .ok meaning)
    (qualifies' : (other.getD own).qualify id' = .ok meaning) :
    decode c now sender ⟨id, body⟩ = decode { c with namespaces := own } now other ⟨id', body⟩ := by
  simp only [decode, qualifies, qualifies']

end ExtensionObject

namespace NamespaceTable

open ExtensionObject

variable {L R : NamespaceTable} {uris : List String}

/-- What one table expands is localized by another just when that has the namespace, and means what
it meant. Ids that are told by index alone mean the same under two tables just when the indices stand
for one URI there. An envelope that a sender tells by index is decoded as if it had been told by URI,
whichever table is used for that. -/
theorem meaning_of_translated {κ : Type} [StructureFamily κ] (c : EncoderContext κ) (now : Instant)
    (grown : Grown uris R) :
    (∀ id expanded, L.expand id = .ok expanded → ∃ uri,
      L.uri? id.namespaceIndex = some uri ∧
      ((∃ other, R.localize expanded = .ok other) ↔ uri ∈ R.uris) ∧
      ∀ other, R.localize expanded = .ok other →
        R.qualify (.ofNodeId other) = L.qualify (.ofNodeId id) ∧
        L.qualify (.ofNodeId id) = .ok ⟨uri, id.identifier⟩) ∧
    (∀ (t : NamespaceTable) expanded id, t.localize expanded = .ok id →
      ∃ meaning, t.qualify expanded = .ok meaning ∧ t.qualify (.ofNodeId id) = .ok meaning) ∧
    (∀ first second : ExpandedNodeId, first.namespaceUri = none → second.namespaceUri = none →
      ((∃ meaning, L.qualify first = .ok meaning ∧ R.qualify second = .ok meaning) ↔
        first.identifier = second.identifier ∧ ∃ uri,
          L.uri? first.namespaceIndex = some uri ∧ R.uri? second.namespaceIndex = some uri)) ∧
    ∀ (id named : ExpandedNodeId) (uri : String) (body : ExtensionBody κ) (own : NamespaceTable)
      (other : Option NamespaceTable), id.namespaceUri = none →
      L.uri? id.namespaceIndex = some uri → named.namespaceUri = some uri →
      named.identifier = id.identifier →
      decode c now (some L) ⟨id, body⟩ =
        decode { c with namespaces := own } now other ⟨named, body⟩ := by
  refine ⟨fun id expanded expands => ?_, fun t expanded id => qualify_of_localize,
    fun first second => same_meaning_iff, ?_⟩
  · obtain ⟨uri, known, means, localizes, keeps⟩ := localize_of_expand grown.size_le expands
    exact ⟨uri, known, localizes, fun other localized =>
      ⟨(keeps other localized).trans means.symm, means⟩⟩
  · intro id named uri body own other unnamed known named_uri same
    have told : L.qualify id = .ok ⟨uri, id.identifier⟩ :=
      qualify_eq_ok_iff.mpr ⟨rfl, .inr ⟨unnamed, known⟩⟩
    have told' : (other.getD own).qualify named = .ok ⟨uri, id.identifier⟩ :=
      qualify_eq_ok_iff.mpr ⟨same.symm, .inl named_uri⟩
    exact decode_of_qualify c now body told told'

/-- A valve that the sender tells by the second index of a plant, and the receiver knows at a place
of its own. -/
theorem meaning_of_valve :
    Grown ["urn:line", "urn:plant"] ⟨[baseUri, "urn:line", "urn:plant"]⟩ ∧
      ∃ expanded, expand ⟨[baseUri, "urn:plant", "urn:plant"]⟩ ⟨2, .text "Valve"⟩ = .ok expanded ∧
        (∃ other, localize ⟨[baseUri, "urn:line", "urn:plant"]⟩ expanded = .ok other) ∧
        decode (.standard id) .epoch (some ⟨[baseUri, "urn:plant", "urn:plant"]⟩)
            (⟨.ofNodeId ⟨2, .text "Valve"⟩, .encoded []⟩ : ExtensionObject StandardKind) =
          decode (.standard id) .epoch none
            ⟨.withUri "urn:plant" (.text "Valve"), .encoded []⟩ := by
  have grown : Grown ["urn:line", "urn:plant"] ⟨[baseUri, "urn:line", "urn:plant"]⟩ := .list rfl
  have expands : expand ⟨[baseUri, "urn:plant", "urn:plant"]⟩ ⟨2, .text "Valve"⟩ = .ok _ := rfl
  obtain ⟨localizes, -, -, decodes⟩ :=
    meaning_of_translated (EncoderContext.standard (fun k : StandardKind => k)) .epoch grown
  obtain ⟨uri, known, has, -⟩ := localizes _ _ expands
  cases known
  refine ⟨grown, _, expands, has.mpr (by decide), ?_⟩
  exact decodes _ _ "urn:plant" _ .base none rfl rfl rfl rfl

end NamespaceTable

end OpcUa
