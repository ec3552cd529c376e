import Mathlib.Data.List.Nodup
import OpcUa.Proofs.Structure.Ancestors

/-!
# Standard types

The types of the base namespace have ids of their own and no circles among them.
-/

namespace OpcUa

open StructureFamily

namespace StandardKind

theorem mem_all (k : StandardKind) : k ∈ all := by
  cases k <;> decide

theorem descriptor_injective :
    Function.Injective (StructureFamily.descriptor : StandardKind → TypeDescriptor) := by
  intro first second same
  have distinct : (all.map fun k => (StructureFamily.descriptor k).dataType).Nodup := by decide
  exact List.inj_on_of_nodup_map distinct (mem_all first) (mem_all second)
    (congrArg TypeDescriptor.dataType same)

end StandardKind

theorem TypeRegistry.acyclic_standard : (standard (fun k : StandardKind => k)).Acyclic :=
  acyclic_iff.mpr (by decide +kernel)

end OpcUa
