import Rukpak.Plain.Collaborators

/-! loadBundle reads the Bundle again, refuses it unless it is unpacked, loads its objects
from storage and stamps each with the owner labels. Reconcile then serialises each object
into a chart template named after the digest of its serialised form. -/
namespace Rukpak.Plain

/-- Modelled from the spec: util.MergeMaps is not under src/. The spec merges the owner
labels in without removing any pre-existing label; later maps win, as a right-biased union
of the maps in order. -/
def mergeMaps (maps : List StringMap) : StringMap :=
  maps.foldl (fun out m => m ∪ out) ∅

def ownerLabels (name : String) : StringMap :=
  ((∅ : StringMap).insert "core.rukpak.io/owner-name" name).insert
    "core.rukpak.io/owner-kind" "BundleInstance"

/-- obj.SetLabels(util.MergeMaps(obj.GetLabels(), owner labels)). -/
def labelObject (name : String) (obj : Unstructured) : Unstructured :=
  { obj with labels := mergeMaps [obj.labels, ownerLabels name] }

structure ErrBundleNotUnpacked where
  currentPhase : String
  deriving DecidableEq, Repr

/-- What loadBundle fails with: *errBundleNotUnpacked, or a collaborator's error wrapped
by fmt.Errorf. -/
inductive LoadError where
  | notUnpacked (err : ErrBundleNotUnpacked)
  | failed (err : Error)
  deriving DecidableEq, Repr

def loadBundle (env : Collaborators) (bi : BundleInstance) :
    Logged (Except LoadError (List Unstructured)) := do
  match ← record (.getBundle bi.spec.bundleName) (env.getBundleForLoad bi.spec.bundleName) with
  | .error err => return .error (.failed (.wrap ("get bundle " ++ quote bi.spec.bundleName) err))
  | .ok b =>
  if b.status.phase ≠ phaseUnpacked then
    return .error (.notUnpacked ⟨b.status.phase⟩)
  else
  match ← record (.load b) (env.load b) with
  | .error err => return .error (.failed (.wrap "load bundle objects" err))
  | .ok objects => return .ok (objects.map (labelObject bi.name))

/-- The %x verb on a byte slice: two lowercase hex digits a byte. -/
def hexBytes (bytes : List UInt8) : String :=
  String.mk (bytes.flatMap fun b => [Nat.digitChar (b.toNat / 16), Nat.digitChar (b.toNat % 16)])

def templateFile (codec : Codec) (jsonData : List UInt8) : File :=
  { name := "object-" ++ hexBytes ((codec.sum256 jsonData).take 8) ++ ".yaml", data := jsonData }

/-- The loop of Reconcile that serialises the desired objects into chart templates, in
order, up to the first object yaml.Marshal rejects. -/
def materializeTemplates (codec : Codec) : List Unstructured → Except Error (List File)
  | [] => .ok []
  | obj :: rest =>
    match codec.marshal obj with
    | .error err => .error err
    | .ok jsonData => (materializeTemplates codec rest).map (templateFile codec jsonData :: ·)

theorem loadBundle_cases (env : Collaborators) (bi : BundleInstance) :
    let run := loadBundle env bi
    let name := bi.spec.bundleName
    (∃ err, env.getBundleForLoad name = .error err ∧ run.log = [.getBundle name (.error err)] ∧
      run.value = .error (.failed (.wrap ("get bundle " ++ quote name) err))) ∨
    (∃ b, env.getBundleForLoad name = .ok b ∧ b.status.phase ≠ phaseUnpacked ∧
      run.log = [.getBundle name (.ok b)] ∧ run.value = .error (.notUnpacked ⟨b.status.phase⟩)) ∨
    (∃ b err, env.getBundleForLoad name = .ok b ∧ b.status.phase = phaseUnpacked ∧
      env.load b = .error err ∧ run.log = [.getBundle name (.ok b), .load b (.error err)] ∧
      run.value = .error (.failed (.wrap "load bundle objects" err))) ∨
    (∃ b objects, env.getBundleForLoad name = .ok b ∧ b.status.phase = phaseUnpacked ∧
      env.load b = .ok objects ∧ run.log = [.getBundle name (.ok b), .load b (.ok objects)] ∧
      run.value = .ok (objects.map (labelObject bi.name))) := by
  intro run name
  cases read : env.getBundleForLoad name with
  | error err => exact .inl ⟨err, rfl, by simp [run, name, loadBundle, read]⟩
  | ok b =>
    by_cases unpacked : b.status.phase = phaseUnpacked
    · cases loaded : env.load b with
      | error err =>
        exact .inr (.inr (.inl ⟨b, err, rfl, unpacked, loaded,
          by simp [run, name, loadBundle, read, unpacked, loaded]⟩))
      | ok objects =>
        exact .inr (.inr (.inr ⟨b, objects, rfl, unpacked, loaded,
          by simp [run, name, loadBundle, read, unpacked, loaded]⟩))
    · exact .inr (.inl ⟨b, rfl, unpacked, by simp [run, name, loadBundle, read, unpacked]⟩)

theorem loadBundle_log_all {p : Call → Prop} (env : Collaborators) (bi : BundleInstance)
    (read : ∀ result, p (.getBundle bi.spec.bundleName result))
    (loaded : ∀ b result, p (.load b result)) : ∀ c ∈ (loadBundle env bi).log, p c := by
  rcases loadBundle_cases env bi with
    ⟨_, _, log, _⟩ | ⟨_, _, _, log, _⟩ | ⟨_, _, _, _, _, log, _⟩ | ⟨_, _, _, _, _, log, _⟩ <;>
    simp [log, read, loaded]

end Rukpak.Plain
