import Rukpak.Api

/-! Status conditions are upserted by type (meta.SetStatusCondition): setting a condition
replaces the first one of its type and keeps every other condition as it was. -/
namespace Rukpak

/-- meta.SetStatusCondition: the new condition takes the place of the first condition of
its type, or is appended when there is none. -/
def setStatusCondition : List Condition → Condition → List Condition
  | [], new => [new]
  | existing :: rest, new =>
    if existing.type = new.type then new :: rest else existing :: setStatusCondition rest new

/-- meta.SetStatusCondition(&bi.Status.Conditions, c). -/
def BundleInstance.setCondition (bi : BundleInstance) (c : Condition) : BundleInstance :=
  { bi with status := { bi.status with conditions := setStatusCondition bi.status.conditions c } }

@[simp] theorem BundleInstance.setCondition_conditions (bi : BundleInstance) (c : Condition) :
    (bi.setCondition c).status.conditions = setStatusCondition bi.status.conditions c := rfl

@[simp] theorem BundleInstance.setCondition_installedBundleName (bi : BundleInstance)
    (c : Condition) :
    (bi.setCondition c).status.installedBundleName = bi.status.installedBundleName := rfl

@[simp] theorem BundleInstance.setCondition_name (bi : BundleInstance) (c : Condition) :
    (bi.setCondition c).name = bi.name := rfl

@[simp] theorem BundleInstance.setCondition_namespace (bi : BundleInstance) (c : Condition) :
    (bi.setCondition c).«namespace» = bi.«namespace» := rfl

@[simp] theorem BundleInstance.setCondition_spec (bi : BundleInstance) (c : Condition) :
    (bi.setCondition c).spec = bi.spec := rfl

theorem mem_setStatusCondition_self (conditions : List Condition) (c : Condition) :
    c ∈ setStatusCondition conditions c := by
  induction conditions with
  | nil => simp [setStatusCondition]
  | cons existing rest ih =>
    simp only [setStatusCondition]
    split <;> simp [ih]

/-- Every condition of another type is kept, and no other one is added. -/
theorem mem_setStatusCondition_of_ne {d c : Condition} (conditions : List Condition)
    (other : d.type ≠ c.type) : d ∈ setStatusCondition conditions c ↔ d ∈ conditions := by
  have fresh : d ≠ c := fun same => other (congrArg Condition.type same)
  induction conditions with
  | nil => simp [setStatusCondition, fresh]
  | cons existing rest ih =>
    simp only [setStatusCondition]
    split
    · rename_i same
      have replaced : d ≠ existing := fun hit => other (hit ▸ same)
      simp [fresh, replaced]
    · simp [ih]

theorem map_type_setStatusCondition (conditions : List Condition) (c : Condition) :
    (setStatusCondition conditions c).map Condition.type =
      if c.type ∈ conditions.map Condition.type then conditions.map Condition.type
      else conditions.map Condition.type ++ [c.type] := by
  induction conditions with
  | nil => simp [setStatusCondition]
  | cons existing rest ih =>
    simp only [setStatusCondition]
    by_cases same : existing.type = c.type
    · simp [same]
    · simp only [if_neg same, List.map_cons, ih, List.mem_cons, Ne.symm same, false_or]
      split <;> rfl

theorem nodup_type_setStatusCondition {conditions : List Condition} (c : Condition)
    (distinct : (conditions.map Condition.type).Nodup) :
    ((setStatusCondition conditions c).map Condition.type).Nodup := by
  rw [map_type_setStatusCondition]
  split
  · exact distinct
  · exact distinct.append (List.nodup_singleton _) (List.disjoint_singleton.mpr ‹_›)

end Rukpak
