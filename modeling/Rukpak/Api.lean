import Mathlib.Data.List.AList

/-! The objects the plain provisioner reads and writes: Bundles and their unpack phase,
BundleInstances with their status conditions, the manifest objects a bundle stores, Helm
charts and releases, and the errors the provisioner's collaborators return. Times,
generations and managed fields are not modelled: no decision of the controller reads them. -/
namespace Rukpak

def phasePending : String := "Pending"
def phaseUnpacking : String := "Unpacking"
def phaseUnpacked : String := "Unpacked"

structure BundleStatus where
  phase : String
  deriving DecidableEq, Repr

structure Bundle where
  name : String
  status : BundleStatus
  deriving DecidableEq, Repr

-- The condition types and reasons of rukpakv1alpha1, modelled from the spec: the api package
-- is not under src/.
def typeHasValidBundle : String := "HasValidBundle"
def typeInvalidBundleContent : String := "InvalidBundleContent"
def typeInstalled : String := "Installed"
def reasonBundleLookupFailed : String := "BundleLookupFailed"
def reasonBundleLoadFailed : String := "BundleLoadFailed"
def reasonReadingContentFailed : String := "ReadingContentFailed"
def reasonErrorGettingClient : String := "ErrorGettingClient"
def reasonErrorGettingReleaseState : String := "ErrorGettingReleaseState"
def reasonInstallFailed : String := "InstallFailed"
def reasonUpgradeFailed : String := "UpgradeFailed"
def reasonReconcileFailed : String := "ReconcileFailed"
def reasonCreateDynamicWatchFailed : String := "CreateDynamicWatchFailed"
def reasonInstallationSucceeded : String := "InstallationSucceeded"

inductive ConditionStatus where
  | true
  | false
  | unknown
  deriving DecidableEq, Repr

/-- A metav1.Condition without its transition time and observed generation. -/
structure Condition where
  type : String
  status : ConditionStatus
  reason : String
  message : String
  deriving DecidableEq, Repr

structure BundleInstanceSpec where
  bundleName : String
  deriving DecidableEq, Repr

structure BundleInstanceStatus where
  conditions : List Condition
  installedBundleName : String
  deriving DecidableEq, Repr

structure BundleInstance where
  name : String
  «namespace» : String
  spec : BundleInstanceSpec
  status : BundleInstanceStatus
  deriving DecidableEq, Repr

abbrev StringMap := AList (fun _ : String => String)

/-- A manifest object of a bundle (unstructured.Unstructured): its apiVersion, kind and
labels, and the rest of its content as the serialiser sees it. -/
structure Unstructured where
  apiVersion : String
  kind : String
  labels : StringMap
  content : String
  deriving DecidableEq

structure GroupVersionKind where
  group : String
  version : String
  kind : String
  deriving DecidableEq, Repr

/-- schema.ParseGroupVersion: no slash is a core version, one slash splits group from
version, more slashes are an error. -/
def parseGroupVersion (gv : String) : Option (String × String) :=
  match gv.toList.span (· ≠ '/') with
  | (version, []) => some ("", String.mk version)
  | (group, _ :: version) =>
    if '/' ∈ version then none else some (String.mk group, String.mk version)

/-- Unstructured.GroupVersionKind: an apiVersion that does not parse gives the empty
GroupVersionKind, kind included. -/
def Unstructured.groupVersionKind (u : Unstructured) : GroupVersionKind :=
  match parseGroupVersion u.apiVersion with
  | some (group, version) => ⟨group, version, u.kind⟩
  | none => ⟨"", "", ""⟩

structure File where
  name : String
  data : List UInt8
  deriving DecidableEq, Repr

structure Chart where
  templates : List File
  deriving DecidableEq, Repr

inductive ReleaseStatus where
  | unknown
  | deployed
  | uninstalled
  | superseded
  | failed
  | uninstalling
  | pendingInstall
  | pendingUpgrade
  | pendingRollback
  deriving DecidableEq, Repr

structure Info where
  status : ReleaseStatus
  deriving DecidableEq, Repr

structure Release where
  name : String
  version : Nat
  manifest : String
  info : Info
  deriving DecidableEq, Repr

/-- An error value as the collaborators return it: an API NotFound status error, Helm's
driver.ErrReleaseNotFound, any other error, or one wrapped by fmt.Errorf with %w. -/
inductive Error where
  | notFound (message : String)
  | releaseNotFound
  | other (message : String)
  | wrap (context : String) (cause : Error)
  deriving DecidableEq, Repr

namespace Error

def error : Error → String
  | notFound message | other message => message
  | releaseNotFound => "release: not found"
  | wrap context cause => context ++ ": " ++ cause.error

/-- apierrors.IsNotFound, which looks through wrapping. -/
def isNotFound : Error → Bool
  | notFound _ => true
  | wrap _ cause => cause.isNotFound
  | _ => false

/-- errors.Is(err, driver.ErrReleaseNotFound). -/
def isReleaseNotFound : Error → Bool
  | releaseNotFound => true
  | wrap _ cause => cause.isReleaseNotFound
  | _ => false

end Error

/-- client.IgnoreNotFound. -/
def ignoreNotFound (err : Error) : Option Error :=
  if err.isNotFound then none else some err

/-- The %q verb on a Kubernetes object name, which needs no escapes. -/
def quote (s : String) : String := "\"" ++ s ++ "\""

end Rukpak
