import Rukpak.Conditions

/-! A reconciliation pass talks to its collaborators: the API server, bundle storage, the
Helm action client and the controller. A pass is a computation that logs each call it
makes together with the answer it got, so that properties of a pass are read off its log. -/
namespace Rukpak.Plain

/-- A call of a pass to a collaborator, with the answer it got. -/
inductive Call where
  | getBundleInstance (name : String) (result : Except Error BundleInstance)
  | getBundle (name : String) (result : Except Error Bundle)
  | load (bundle : Bundle) (result : Except Error (List Unstructured))
  | actionClientFor (bi : BundleInstance) (result : Except Error Unit)
  | get (name : String) (result : Except Error Release)
  | upgrade (name «namespace» : String) (chart : Chart) (dryRun : Bool)
      (result : Except Error Release)
  | install (name «namespace» : String) (chart : Chart) (createNamespace : Bool)
      (result : Except Error Release)
  | reconcile (release : Option Release) (result : Option Error)
  | watch (gvk : GroupVersionKind) (result : Option Error)
  | patchStatus (bi : BundleInstance) (result : Option Error)

namespace Call

/-- Calls that change the cluster through the release backend: Install, a real Upgrade
and Reconcile. -/
def changesRelease : Call → Bool
  | getBundleInstance .. | getBundle .. | load .. | actionClientFor .. | get .. => false
  | upgrade _ _ _ dryRun _ => !dryRun
  | install .. | reconcile .. => true
  | watch .. | patchStatus .. => false

def isRelease : Call → Bool
  | getBundleInstance .. | getBundle .. | load .. | actionClientFor .. => false
  | get .. | upgrade .. | install .. | reconcile .. => true
  | watch .. | patchStatus .. => false

theorem isRelease_of_changesRelease {c : Call} (changes : c.changesRelease = true) :
    c.isRelease = true := by
  cases c <;> simp_all [changesRelease, isRelease]

end Call

structure Logged (α : Type) where
  log : List Call
  value : α

instance : Monad Logged where
  pure value := ⟨[], value⟩
  bind x f := ⟨x.log ++ (f x.value).log, (f x.value).value⟩

def record (call : α → Call) (result : α) : Logged α := ⟨[call result], result⟩

namespace Logged

@[simp] theorem log_pure (a : α) : (pure a : Logged α).log = [] := rfl
@[simp] theorem value_pure (a : α) : (pure a : Logged α).value = a := rfl
@[simp] theorem log_bind (x : Logged α) (f : α → Logged β) :
    (x >>= f).log = x.log ++ (f x.value).log := rfl
@[simp] theorem value_bind (x : Logged α) (f : α → Logged β) :
    (x >>= f).value = (f x.value).value := rfl
@[simp] theorem log_record (call : α → Call) (result : α) :
    (record call result).log = [call result] := rfl
@[simp] theorem value_record (call : α → Call) (result : α) :
    (record call result).value = result := rfl

end Logged

/-- What each collaborator answers in one pass, as a function of the call's arguments. A
pass makes each of its calls at most once (Watch at most once for each kind), so these
answers cover every behaviour of the collaborators. The two reads of the Bundle are
separate fields: the unpacker may update the Bundle between them. -/
structure Collaborators where
  getBundleInstance : String → Except Error BundleInstance
  getBundle : String → Except Error Bundle
  getBundleForLoad : String → Except Error Bundle
  load : Bundle → Except Error (List Unstructured)
  actionClientFor : BundleInstance → Except Error Unit
  get : String → Except Error Release
  upgrade : String → String → Chart → Bool → Except Error Release
  install : String → String → Chart → Bool → Except Error Release
  reconcile : Option Release → Option Error
  watch : GroupVersionKind → Option Error
  patchStatus : BundleInstance → Option Error

/-- The library functions a pass applies to manifest objects: yaml.Marshal, sha256.Sum256
and runtime.DefaultUnstructuredConverter. Being functions, they give every pass the same
answer for the same object. -/
structure Codec where
  marshal : Unstructured → Except Error (List UInt8)
  sum256 : List UInt8 → List UInt8
  sum256_length : ∀ data, (sum256 data).length = 32
  toUnstructured : Unstructured → Except Error Unstructured

/-- The reconciler's state: the namespace releases go to, and dynamicWatchGVKs, the kinds a
watch has been established for. -/
structure BundleInstanceReconciler where
  releaseNamespace : String
  dynamicWatchGVKs : List GroupVersionKind
  deriving DecidableEq, Repr

end Rukpak.Plain
