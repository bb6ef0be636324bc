import Rukpak.Plain.Collaborators

/-! getReleaseState decides between installing, upgrading and re-asserting a release: a
missing release needs an install; otherwise a dry-run upgrade renders the chart, and the
release needs an upgrade when the rendering differs from the recorded manifest or the
release failed or was superseded. -/
namespace Rukpak.Plain

inductive ReleaseState where
  | needsInstall
  | needsUpgrade
  | unchanged
  | error
  deriving DecidableEq, Repr

def ReleaseState.toString : ReleaseState → String
  | needsInstall => "NeedsInstall"
  | needsUpgrade => "NeedsUpgrade"
  | unchanged => "Unchanged"
  | error => "Error"

def getReleaseState (env : Collaborators) (releaseNamespace : String) (obj : BundleInstance)
    (chrt : Chart) : Logged (Option Release × ReleaseState × Option Error) := do
  match ← record (.get obj.name) (env.get obj.name) with
  | .error err =>
    if err.isReleaseNotFound then return (none, .needsInstall, none)
    else return (none, .error, some err)
  | .ok currentRelease =>
  match ← record (.upgrade obj.name releaseNamespace chrt true)
      (env.upgrade obj.name releaseNamespace chrt true) with
  | .error err => return (some currentRelease, .error, some err)
  | .ok desiredRelease =>
  if desiredRelease.manifest ≠ currentRelease.manifest ∨
      currentRelease.info.status = .failed ∨ currentRelease.info.status = .superseded then
    return (some currentRelease, .needsUpgrade, none)
  else
    return (some currentRelease, .unchanged, none)

theorem getReleaseState_cases (env : Collaborators) (releaseNamespace : String)
    (obj : BundleInstance) (chrt : Chart) :
    let run := getReleaseState env releaseNamespace obj chrt
    (∃ err, env.get obj.name = .error err ∧ err.isReleaseNotFound = true ∧
      run.log = [.get obj.name (.error err)] ∧ run.value = (none, .needsInstall, none)) ∨
    (∃ err, env.get obj.name = .error err ∧ err.isReleaseNotFound = false ∧
      run.log = [.get obj.name (.error err)] ∧ run.value = (none, .error, some err)) ∨
    (∃ current err, env.get obj.name = .ok current ∧
      env.upgrade obj.name releaseNamespace chrt true = .error err ∧
      run.log = [.get obj.name (.ok current),
        .upgrade obj.name releaseNamespace chrt true (.error err)] ∧
      run.value = (some current, .error, some err)) ∨
    (∃ current desired, env.get obj.name = .ok current ∧
      env.upgrade obj.name releaseNamespace chrt true = .ok desired ∧
      run.log = [.get obj.name (.ok current),
        .upgrade obj.name releaseNamespace chrt true (.ok desired)] ∧
      run.value = (some current,
        if desired.manifest ≠ current.manifest ∨ current.info.status = .failed ∨
          current.info.status = .superseded then .needsUpgrade else .unchanged, none)) := by
  intro run
  cases got : env.get obj.name with
  | error err =>
    cases found : err.isReleaseNotFound
    · exact .inr (.inl ⟨err, rfl, found, by simp [run, getReleaseState, got, found]⟩)
    · exact .inl ⟨err, rfl, found, by simp [run, getReleaseState, got, found]⟩
  | ok current =>
    cases rendered : env.upgrade obj.name releaseNamespace chrt true with
    | error err =>
      exact .inr (.inr (.inl ⟨current, err, rfl, rfl, by simp [run, getReleaseState, got, rendered]⟩))
    | ok desired =>
      refine .inr (.inr (.inr ⟨current, desired, rfl, rfl, ?_⟩))
      simp only [run, getReleaseState, got, rendered, Logged.log_bind, Logged.value_bind,
        Logged.log_record, Logged.value_record]
      split <;> simp [*]

end Rukpak.Plain
