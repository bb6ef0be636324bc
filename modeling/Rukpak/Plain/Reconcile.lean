import Rukpak.Plain.LoadBundle
import Rukpak.Plain.ReleaseState

/-! One pass of BundleInstanceReconciler.Reconcile, cut where the source's stages meet:
preparing the chart and the action client, applying the release, and watching the kinds of
the desired objects. A stage either ends the pass with an outcome or hands over to the
next; the deferred status patch writes whatever the pass left in the BundleInstance. -/
namespace Rukpak.Plain

/-- What a pass leaves: the BundleInstance its deferred status patch writes, the
reconciler's state, and the error Reconcile returns. -/
structure Outcome where
  bi : BundleInstance
  reconciler : BundleInstanceReconciler
  err : Option Error

/-- The dynamic watch loop of a pass that runs alone: a watch is established for the kind
of each desired object unless dynamicWatchGVKs already holds it. Running alone, the pass
takes and releases the mutex around each check with nothing in between. -/
def watchDesired (codec : Codec) (env : Collaborators) :
    List GroupVersionKind → List Unstructured → Logged (List GroupVersionKind × Option Error)
  | watched, [] => pure (watched, none)
  | watched, obj :: rest =>
    match codec.toUnstructured obj with
    | .error err => pure (watched, some err)
    | .ok u =>
      if u.groupVersionKind ∈ watched then watchDesired codec env watched rest
      else do
        match ← record (.watch u.groupVersionKind) (env.watch u.groupVersionKind) with
        | some err => return (watched, some err)
        | none => watchDesired codec env (watched.insert u.groupVersionKind) rest

/-- The reason of the condition a pass sets when loadBundle finds the Bundle not unpacked,
from the phase of the Bundle that Reconcile read. -/
def bundleUnpackReason (phase : String) : String :=
  if phase = phaseUnpacking then "BundleUnpackRunning" else "BundleUnpack" ++ phase

/-- Reconcile from the read of the Bundle to the action client. -/
def prepareRelease (codec : Codec) (r : BundleInstanceReconciler) (env : Collaborators)
    (bi : BundleInstance) :
    Logged (Except Outcome (BundleInstance × List Unstructured × Chart)) := do
  match ← record (.getBundle bi.spec.bundleName) (env.getBundle bi.spec.bundleName) with
  | .error err =>
    let bundleStatus := if err.isNotFound then ConditionStatus.false else .unknown
    return .error ⟨bi.setCondition ⟨typeHasValidBundle, bundleStatus, reasonBundleLookupFailed,
      err.error⟩, r, ignoreNotFound err⟩
  | .ok b =>
  match ← loadBundle env bi with
  | .error (.notUnpacked _) =>
    return .error ⟨bi.setCondition ⟨typeInstalled, .false, bundleUnpackReason b.status.phase, ""⟩,
      r, none⟩
  | .error (.failed err) =>
    return .error ⟨bi.setCondition ⟨typeHasValidBundle, .false, reasonBundleLoadFailed,
      err.error⟩, r, some err⟩
  | .ok desiredObjects =>
  match materializeTemplates codec desiredObjects with
  | .error err =>
    return .error ⟨bi.setCondition ⟨typeInvalidBundleContent, .true, reasonReadingContentFailed,
      err.error⟩, r, some err⟩
  | .ok templates =>
  let client ← record (.actionClientFor { bi with «namespace» := r.releaseNamespace })
    (env.actionClientFor { bi with «namespace» := r.releaseNamespace })
  let bi := { bi with «namespace» := "" }
  match client with
  | .error err =>
    return .error ⟨bi.setCondition ⟨typeInstalled, .false, reasonErrorGettingClient, err.error⟩,
      r, some err⟩
  | .ok () => return .ok (bi, desiredObjects, ⟨templates⟩)

/-- getReleaseState and the switch over the state it answers; `none` when the release call
succeeded and the pass goes on. -/
def applyRelease (r : BundleInstanceReconciler) (env : Collaborators) (bi : BundleInstance)
    (chrt : Chart) : Logged (Option Outcome) := do
  let (rel, state, err) ← getReleaseState env r.releaseNamespace bi chrt
  match err with
  | some err =>
    return some ⟨bi.setCondition ⟨typeInstalled, .false, reasonErrorGettingReleaseState,
      err.error⟩, r, some err⟩
  | none =>
  match state with
  | .needsInstall =>
    match ← record (.install bi.name r.releaseNamespace chrt false)
        (env.install bi.name r.releaseNamespace chrt false) with
    | .error err =>
      return some ⟨bi.setCondition ⟨typeInstalled, .false, reasonInstallFailed, err.error⟩,
        r, some err⟩
    | .ok _ => return none
  | .needsUpgrade =>
    match ← record (.upgrade bi.name r.releaseNamespace chrt false)
        (env.upgrade bi.name r.releaseNamespace chrt false) with
    | .error err =>
      return some ⟨bi.setCondition ⟨typeInstalled, .false, reasonUpgradeFailed, err.error⟩,
        r, some err⟩
    | .ok _ => return none
  | .unchanged =>
    match ← record (.reconcile rel) (env.reconcile rel) with
    | some err =>
      return some ⟨bi.setCondition ⟨typeInstalled, .false, reasonReconcileFailed, err.error⟩,
        r, some err⟩
    | none => return none
  | state =>
    return some ⟨bi, r, some (.other ("unexpected release state " ++ quote state.toString))⟩

def watchAndReport (codec : Codec) (r : BundleInstanceReconciler) (env : Collaborators)
    (bi : BundleInstance) (desiredObjects : List Unstructured) : Logged Outcome := do
  let (watched, err) ← watchDesired codec env r.dynamicWatchGVKs desiredObjects
  let r := { r with dynamicWatchGVKs := watched }
  match err with
  | some err =>
    return ⟨bi.setCondition ⟨typeInstalled, .false, reasonCreateDynamicWatchFailed, err.error⟩,
      r, some err⟩
  | none =>
    let bi := bi.setCondition ⟨typeInstalled, .true, reasonInstallationSucceeded, ""⟩
    return ⟨{ bi with status.installedBundleName := bi.spec.bundleName }, r, none⟩

def reconcileBundleInstance (codec : Codec) (r : BundleInstanceReconciler) (env : Collaborators)
    (bi : BundleInstance) : Logged Outcome := do
  match ← prepareRelease codec r env bi with
  | .error out => return out
  | .ok (bi, desiredObjects, chrt) =>
  match ← applyRelease r env bi chrt with
  | some out => return out
  | none => watchAndReport codec r env bi desiredObjects

/-- BundleInstanceReconciler.Reconcile: read the BundleInstance, run the pass, and write its
status back with the deferred, best-effort patch. -/
def reconcile (codec : Codec) (r : BundleInstanceReconciler) (env : Collaborators)
    (name : String) : Logged (BundleInstanceReconciler × Option Error) := do
  match ← record (.getBundleInstance name) (env.getBundleInstance name) with
  | .error err => return (r, ignoreNotFound err)
  | .ok bi =>
  let out ← reconcileBundleInstance codec r env bi
  let _ ← record (.patchStatus out.bi) (env.patchStatus out.bi)
  return (out.reconciler, out.err)

theorem reconcile_of_read_error {env : Collaborators} {name : String} {err : Error}
    (read : env.getBundleInstance name = .error err) (codec : Codec)
    (r : BundleInstanceReconciler) :
    reconcile codec r env name = ⟨[.getBundleInstance name (.error err)], (r, ignoreNotFound err)⟩ := by
  simp [reconcile, read, bind, pure, record]

theorem reconcile_of_read {env : Collaborators} {name : String} {bi : BundleInstance}
    (read : env.getBundleInstance name = .ok bi) (codec : Codec) (r : BundleInstanceReconciler) :
    let out := reconcileBundleInstance codec r env bi
    (reconcile codec r env name).log = .getBundleInstance name (.ok bi) ::
        (out.log ++ [.patchStatus out.value.bi (env.patchStatus out.value.bi)]) ∧
      (reconcile codec r env name).value = (out.value.reconciler, out.value.err) := by
  simp [reconcile, read]

theorem reconcileBundleInstance_cases (codec : Codec) (r : BundleInstanceReconciler)
    (env : Collaborators) (bi : BundleInstance) :
    let prepared := prepareRelease codec r env bi
    let run := reconcileBundleInstance codec r env bi
    (∃ out, prepared.value = .error out ∧ run.log = prepared.log ∧ run.value = out) ∨
    (∃ bi' objs chrt out, prepared.value = .ok (bi', objs, chrt) ∧
      (applyRelease r env bi' chrt).value = some out ∧
      run.log = prepared.log ++ (applyRelease r env bi' chrt).log ∧ run.value = out) ∨
    (∃ bi' objs chrt, prepared.value = .ok (bi', objs, chrt) ∧
      (applyRelease r env bi' chrt).value = none ∧
      run.log = prepared.log ++ (applyRelease r env bi' chrt).log ++
        (watchAndReport codec r env bi' objs).log ∧
      run.value = (watchAndReport codec r env bi' objs).value) := by
  dsimp only
  cases stage : (prepareRelease codec r env bi).value with
  | error out => exact .inl ⟨out, rfl, by simp [reconcileBundleInstance, stage]⟩
  | ok ready =>
    obtain ⟨bi', objs, chrt⟩ := ready
    cases applied : (applyRelease r env bi' chrt).value with
    | some out =>
      exact .inr (.inl ⟨bi', objs, chrt, out, rfl, applied,
        by simp [reconcileBundleInstance, stage, applied]⟩)
    | none =>
      exact .inr (.inr ⟨bi', objs, chrt, rfl, applied,
        by simp [reconcileBundleInstance, stage, applied]⟩)

section Loop

variable {codec : Codec} {env : Collaborators} {watched : List GroupVersionKind}
  {obj u : Unstructured} {rest : List Unstructured}

theorem watchDesired_unconverted {err : Error} (converted : codec.toUnstructured obj = .error err) :
    watchDesired codec env watched (obj :: rest) = ⟨[], (watched, some err)⟩ := by
  simp only [watchDesired, converted]; rfl

theorem watchDesired_present (converted : codec.toUnstructured obj = .ok u)
    (present : u.groupVersionKind ∈ watched) :
    watchDesired codec env watched (obj :: rest) = watchDesired codec env watched rest := by
  simp [watchDesired, converted, present]

theorem watchDesired_watch_failed {err : Error} (converted : codec.toUnstructured obj = .ok u)
    (absent : u.groupVersionKind ∉ watched) (failed : env.watch u.groupVersionKind = some err) :
    watchDesired codec env watched (obj :: rest) =
      ⟨[.watch u.groupVersionKind (some err)], (watched, some err)⟩ := by
  simp only [watchDesired, converted, absent, failed, if_false]; rfl

theorem watchDesired_watched (converted : codec.toUnstructured obj = .ok u)
    (absent : u.groupVersionKind ∉ watched) (succeeded : env.watch u.groupVersionKind = none) :
    watchDesired codec env watched (obj :: rest) =
      ⟨.watch u.groupVersionKind none ::
        (watchDesired codec env (watched.insert u.groupVersionKind) rest).log,
        (watchDesired codec env (watched.insert u.groupVersionKind) rest).value⟩ := by
  simp only [watchDesired, converted, absent, succeeded, if_false]; rfl

end Loop

theorem watchDesired_log (codec : Codec) (env : Collaborators) (watched : List GroupVersionKind)
    (objs : List Unstructured) :
    ∀ c ∈ (watchDesired codec env watched objs).log, ∃ gvk result, c = .watch gvk result := by
  induction watched, objs using watchDesired.induct codec env with
  | case1 => simp [watchDesired, pure]
  | case2 watched obj rest err converted => simp [watchDesired_unconverted converted]
  | case3 watched obj rest u converted present ih => rwa [watchDesired_present converted present]
  | case4 watched obj rest u converted absent ih =>
    cases answered : env.watch u.groupVersionKind with
    | some err => simp [watchDesired_watch_failed converted absent answered]
    | none =>
      simp only [watchDesired_watched converted absent answered, List.mem_cons, forall_eq_or_imp]
      exact ⟨⟨_, _, rfl⟩, ih⟩

theorem watchDesired_watched_mono (codec : Codec) (env : Collaborators)
    (watched : List GroupVersionKind) (objs : List Unstructured) :
    ∀ gvk ∈ watched, gvk ∈ (watchDesired codec env watched objs).value.1 := by
  induction watched, objs using watchDesired.induct codec env with
  | case1 => simp [watchDesired, pure]
  | case2 watched obj rest err converted => simp [watchDesired_unconverted converted]
  | case3 watched obj rest u converted present ih => rwa [watchDesired_present converted present]
  | case4 watched obj rest u converted absent ih =>
    cases answered : env.watch u.groupVersionKind with
    | some err => simp [watchDesired_watch_failed converted absent answered]
    | none =>
      rw [watchDesired_watched converted absent answered]
      exact fun gvk member => ih gvk (List.mem_insert_of_mem member)

/-- A loop run alone that ends without error has converted every desired object and leaves
the kind of each in dynamicWatchGVKs. -/
theorem watchDesired_complete (codec : Codec) (env : Collaborators)
    (watched : List GroupVersionKind) (objs : List Unstructured)
    (finished : (watchDesired codec env watched objs).value.2 = none) :
    ∀ obj ∈ objs, ∃ u, codec.toUnstructured obj = .ok u ∧
      u.groupVersionKind ∈ (watchDesired codec env watched objs).value.1 := by
  induction watched, objs using watchDesired.induct codec env with
  | case1 => simp
  | case2 watched obj rest err converted => simp [watchDesired_unconverted converted] at finished
  | case3 watched obj rest u converted present ih =>
    rw [watchDesired_present converted present] at finished ⊢
    simp only [List.mem_cons, forall_eq_or_imp]
    exact ⟨⟨u, converted, watchDesired_watched_mono codec env watched rest _ present⟩,
      ih finished⟩
  | case4 watched obj rest u converted absent ih =>
    cases answered : env.watch u.groupVersionKind with
    | some err => simp [watchDesired_watch_failed converted absent answered] at finished
    | none =>
      rw [watchDesired_watched converted absent answered] at finished ⊢
      simp only [List.mem_cons, forall_eq_or_imp]
      exact ⟨⟨u, converted, watchDesired_watched_mono codec env _ rest _
        (List.mem_insert_self _ _)⟩, ih finished⟩

theorem watchDesired_failed (codec : Codec) (env : Collaborators)
    (watched : List GroupVersionKind) (objs : List Unstructured) (err : Error)
    (failed : (watchDesired codec env watched objs).value.2 = some err) :
    (∃ obj ∈ objs, codec.toUnstructured obj = .error err) ∨
      ∃ gvk, Call.watch gvk (some err) ∈ (watchDesired codec env watched objs).log := by
  induction watched, objs using watchDesired.induct codec env with
  | case1 => simp [watchDesired, pure] at failed
  | case2 watched obj rest stop converted =>
    rw [watchDesired_unconverted converted] at failed
    cases failed
    exact .inl ⟨obj, List.mem_cons_self _ _, converted⟩
  | case3 watched obj rest u converted present ih =>
    rw [watchDesired_present converted present] at failed ⊢
    exact (ih failed).imp (fun ⟨o, member, bad⟩ => ⟨o, List.mem_cons_of_mem _ member, bad⟩) id
  | case4 watched obj rest u converted absent ih =>
    cases answered : env.watch u.groupVersionKind with
    | some stop =>
      rw [watchDesired_watch_failed converted absent answered] at failed ⊢
      cases failed
      exact .inr ⟨_, List.mem_singleton_self _⟩
    | none =>
      rw [watchDesired_watched converted absent answered] at failed ⊢
      exact (ih failed).imp (fun ⟨o, member, bad⟩ => ⟨o, List.mem_cons_of_mem _ member, bad⟩)
        (fun ⟨gvk, member⟩ => ⟨gvk, List.mem_cons_of_mem _ member⟩)

theorem watchDesired_no_failed_watch (codec : Codec) (env : Collaborators)
    (watched : List GroupVersionKind) (objs : List Unstructured)
    (finished : (watchDesired codec env watched objs).value.2 = none) :
    ∀ gvk err, Call.watch gvk (some err) ∉ (watchDesired codec env watched objs).log := by
  induction watched, objs using watchDesired.induct codec env with
  | case1 => simp [watchDesired, pure]
  | case2 watched obj rest err converted => simp [watchDesired_unconverted converted] at finished
  | case3 watched obj rest u converted present ih =>
    rw [watchDesired_present converted present] at finished ⊢
    exact ih finished
  | case4 watched obj rest u converted absent ih =>
    cases answered : env.watch u.groupVersionKind with
    | some err => simp [watchDesired_watch_failed converted absent answered] at finished
    | none =>
      rw [watchDesired_watched converted absent answered] at finished ⊢
      simpa using ih finished

theorem watchAndReport_value (codec : Codec) (r : BundleInstanceReconciler)
    (env : Collaborators) (bi : BundleInstance) (objs : List Unstructured) :
    let loop := watchDesired codec env r.dynamicWatchGVKs objs
    (watchAndReport codec r env bi objs).value = match loop.value.2 with
      | some err => ⟨bi.setCondition ⟨typeInstalled, .false, reasonCreateDynamicWatchFailed,
          err.error⟩, { r with dynamicWatchGVKs := loop.value.1 }, some err⟩
      | none => ⟨{ bi.setCondition ⟨typeInstalled, .true, reasonInstallationSucceeded, ""⟩ with
          status.installedBundleName := bi.spec.bundleName },
          { r with dynamicWatchGVKs := loop.value.1 }, none⟩ := by
  simp only [watchAndReport, Logged.value_bind]
  split <;> rfl

theorem prepareRelease_cases (codec : Codec) (r : BundleInstanceReconciler)
    (env : Collaborators) (bi : BundleInstance) :
    let run := prepareRelease codec r env bi
    let loaded := loadBundle env bi
    let name := bi.spec.bundleName
    let client := env.actionClientFor { bi with «namespace» := r.releaseNamespace }
    (∃ err, env.getBundle name = .error err ∧ run.log = [.getBundle name (.error err)] ∧
      run.value = .error ⟨bi.setCondition ⟨typeHasValidBundle,
        if err.isNotFound then .false else .unknown, reasonBundleLookupFailed, err.error⟩,
        r, ignoreNotFound err⟩) ∨
    (∃ b notUnpacked, env.getBundle name = .ok b ∧ loaded.value = .error (.notUnpacked notUnpacked) ∧
      run.log = .getBundle name (.ok b) :: loaded.log ∧
      run.value = .error ⟨bi.setCondition ⟨typeInstalled, .false,
        bundleUnpackReason b.status.phase, ""⟩, r, none⟩) ∨
    (∃ b err, env.getBundle name = .ok b ∧ loaded.value = .error (.failed err) ∧
      run.log = .getBundle name (.ok b) :: loaded.log ∧
      run.value = .error ⟨bi.setCondition ⟨typeHasValidBundle, .false, reasonBundleLoadFailed,
        err.error⟩, r, some err⟩) ∨
    (∃ b objs err, env.getBundle name = .ok b ∧ loaded.value = .ok objs ∧
      materializeTemplates codec objs = .error err ∧
      run.log = .getBundle name (.ok b) :: loaded.log ∧
      run.value = .error ⟨bi.setCondition ⟨typeInvalidBundleContent, .true,
        reasonReadingContentFailed, err.error⟩, r, some err⟩) ∨
    (∃ b objs templates err, env.getBundle name = .ok b ∧ loaded.value = .ok objs ∧
      materializeTemplates codec objs = .ok templates ∧ client = .error err ∧
      run.log = .getBundle name (.ok b) :: (loaded.log ++
        [.actionClientFor { bi with «namespace» := r.releaseNamespace } (.error err)]) ∧
      run.value = .error ⟨{ bi with «namespace» := "" }.setCondition ⟨typeInstalled, .false,
        reasonErrorGettingClient, err.error⟩, r, some err⟩) ∨
    (∃ b objs templates, env.getBundle name = .ok b ∧ loaded.value = .ok objs ∧
      materializeTemplates codec objs = .ok templates ∧ client = .ok () ∧
      run.log = .getBundle name (.ok b) :: (loaded.log ++
        [.actionClientFor { bi with «namespace» := r.releaseNamespace } (.ok ())]) ∧
      run.value = .ok ({ bi with «namespace» := "" }, objs, ⟨templates⟩)) := by
  dsimp only
  cases read : env.getBundle bi.spec.bundleName with
  | error err => exact .inl ⟨err, rfl, by simp [prepareRelease, read]⟩
  | ok b =>
    refine .inr ?_
    cases stage : (loadBundle env bi).value with
    | error failure =>
      cases failure with
      | notUnpacked e => exact .inl ⟨b, e, rfl, rfl, by simp [prepareRelease, read, stage]⟩
      | failed err => exact .inr (.inl ⟨b, err, rfl, rfl, by simp [prepareRelease, read, stage]⟩)
    | ok objs =>
      refine .inr (.inr ?_)
      cases built : materializeTemplates codec objs with
      | error err =>
        exact .inl ⟨b, objs, err, rfl, rfl, built, by simp [prepareRelease, read, stage, built]⟩
      | ok templates =>
        refine .inr ?_
        cases obtained : env.actionClientFor { bi with «namespace» := r.releaseNamespace } with
        | error err => exact .inl ⟨b, objs, templates, err, rfl, rfl, built, rfl,
            by simp [prepareRelease, read, stage, built, obtained]⟩
        | ok u => exact .inr ⟨b, objs, templates, rfl, rfl, built, rfl,
            by simp [prepareRelease, read, stage, built, obtained]⟩

theorem applyRelease_cases (r : BundleInstanceReconciler) (env : Collaborators)
    (bi : BundleInstance) (chrt : Chart) :
    let run := applyRelease r env bi chrt
    let ns := r.releaseNamespace
    (∃ err, env.get bi.name = .error err ∧ err.isReleaseNotFound = true ∧
      run.log = [.get bi.name (.error err),
        .install bi.name ns chrt false (env.install bi.name ns chrt false)] ∧
      run.value = match env.install bi.name ns chrt false with
        | .error e => some ⟨bi.setCondition ⟨typeInstalled, .false, reasonInstallFailed, e.error⟩,
            r, some e⟩
        | .ok _ => none) ∨
    (∃ err, env.get bi.name = .error err ∧ err.isReleaseNotFound = false ∧
      run.log = [.get bi.name (.error err)] ∧
      run.value = some ⟨bi.setCondition ⟨typeInstalled, .false, reasonErrorGettingReleaseState,
        err.error⟩, r, some err⟩) ∨
    (∃ current err, env.get bi.name = .ok current ∧ env.upgrade bi.name ns chrt true = .error err ∧
      run.log = [.get bi.name (.ok current), .upgrade bi.name ns chrt true (.error err)] ∧
      run.value = some ⟨bi.setCondition ⟨typeInstalled, .false, reasonErrorGettingReleaseState,
        err.error⟩, r, some err⟩) ∨
    (∃ current desired, env.get bi.name = .ok current ∧
      env.upgrade bi.name ns chrt true = .ok desired ∧
      (desired.manifest ≠ current.manifest ∨ current.info.status = .failed ∨
        current.info.status = .superseded) ∧
      run.log = [.get bi.name (.ok current), .upgrade bi.name ns chrt true (.ok desired),
        .upgrade bi.name ns chrt false (env.upgrade bi.name ns chrt false)] ∧
      run.value = match env.upgrade bi.name ns chrt false with
        | .error e => some ⟨bi.setCondition ⟨typeInstalled, .false, reasonUpgradeFailed, e.error⟩,
            r, some e⟩
        | .ok _ => none) ∨
    (∃ current desired, env.get bi.name = .ok current ∧
      env.upgrade bi.name ns chrt true = .ok desired ∧
      desired.manifest = current.manifest ∧ current.info.status ≠ .failed ∧
        current.info.status ≠ .superseded ∧
      run.log = [.get bi.name (.ok current), .upgrade bi.name ns chrt true (.ok desired),
        .reconcile (some current) (env.reconcile (some current))] ∧
      run.value = match env.reconcile (some current) with
        | some e => some ⟨bi.setCondition ⟨typeInstalled, .false, reasonReconcileFailed,
            e.error⟩, r, some e⟩
        | none => none) := by
  dsimp only
  rcases getReleaseState_cases env r.releaseNamespace bi chrt with
    ⟨err, got, found, log, value⟩ | ⟨err, got, found, log, value⟩ |
      ⟨current, err, got, rendered, log, value⟩ | ⟨current, desired, got, rendered, log, value⟩
  · refine .inl ⟨err, got, found, ?_⟩
    cases installed : env.install bi.name r.releaseNamespace chrt false <;>
      simp [applyRelease, log, value, installed]
  · exact .inr (.inl ⟨err, got, found, by simp [applyRelease, log, value]⟩)
  · exact .inr (.inr (.inl ⟨current, err, got, rendered, by simp [applyRelease, log, value]⟩))
  · refine .inr (.inr (.inr ?_))
    by_cases changed : desired.manifest ≠ current.manifest ∨ current.info.status = .failed ∨
        current.info.status = .superseded
    · refine .inl ⟨current, desired, got, rendered, changed, ?_⟩
      cases upgraded : env.upgrade bi.name r.releaseNamespace chrt false <;>
        simp [applyRelease, log, value, changed, upgraded]
    · simp only [not_or, not_not] at changed
      refine .inr ⟨current, desired, got, rendered, changed.1, changed.2.1, changed.2.2, ?_⟩
      cases healed : env.reconcile (some current) <;>
        simp [applyRelease, log, value, changed, healed]

theorem applyRelease_log_release (r : BundleInstanceReconciler) (env : Collaborators)
    (bi : BundleInstance) (chrt : Chart) :
    ∀ c ∈ (applyRelease r env bi chrt).log, c.isRelease = true := by
  rcases applyRelease_cases r env bi chrt with
    ⟨_, _, _, log, _⟩ | ⟨_, _, _, log, _⟩ | ⟨_, _, _, _, log, _⟩ | ⟨_, _, _, _, _, log, _⟩ |
      ⟨_, _, _, _, _, _, _, log, _⟩ <;>
    simp [log, Call.isRelease]

theorem prepareRelease_log_all {p : Call → Prop} (codec : Codec) (r : BundleInstanceReconciler)
    (env : Collaborators) (bi : BundleInstance)
    (read : ∀ result, p (.getBundle bi.spec.bundleName result))
    (loaded : ∀ c ∈ (loadBundle env bi).log, p c)
    (client : ∀ result, p (.actionClientFor { bi with «namespace» := r.releaseNamespace } result)) :
    ∀ c ∈ (prepareRelease codec r env bi).log, p c := by
  rcases prepareRelease_cases codec r env bi with
    ⟨_, _, log, _⟩ | ⟨_, _, _, _, log, _⟩ | ⟨_, _, _, _, log, _⟩ | ⟨_, _, _, _, _, _, log, _⟩ |
      ⟨_, _, _, _, _, _, _, _, log, _⟩ | ⟨_, _, _, _, _, _, _, log, _⟩ <;>
    simp only [log, List.forall_mem_cons, List.forall_mem_append, List.not_mem_nil,
      false_implies, implies_true, and_true]
  all_goals first
    | exact read _
    | exact ⟨read _, loaded⟩
    | exact ⟨read _, loaded, client _⟩

theorem prepareRelease_log_not_release (codec : Codec) (r : BundleInstanceReconciler)
    (env : Collaborators) (bi : BundleInstance) :
    ∀ c ∈ (prepareRelease codec r env bi).log, c.isRelease = false :=
  prepareRelease_log_all codec r env bi (fun _ => rfl)
    (loadBundle_log_all env bi (fun _ => rfl) fun _ _ => rfl) fun _ => rfl

theorem prepareRelease_eq_ok {codec : Codec} {r : BundleInstanceReconciler} {env : Collaborators}
    {bi bi' : BundleInstance} {objs : List Unstructured} {chrt : Chart}
    (prepared : (prepareRelease codec r env bi).value = .ok (bi', objs, chrt)) :
    ∃ b b' objects templates, env.getBundle bi.spec.bundleName = .ok b ∧
      env.getBundleForLoad bi.spec.bundleName = .ok b' ∧ b'.status.phase = phaseUnpacked ∧
      env.load b' = .ok objects ∧ objs = objects.map (labelObject bi.name) ∧
      materializeTemplates codec objs = .ok templates ∧ chrt = ⟨templates⟩ ∧
      env.actionClientFor { bi with «namespace» := r.releaseNamespace } = .ok () ∧
      bi' = { bi with «namespace» := "" } ∧
      (prepareRelease codec r env bi).log = [.getBundle bi.spec.bundleName (.ok b),
        .getBundle bi.spec.bundleName (.ok b'), .load b' (.ok objects),
        .actionClientFor { bi with «namespace» := r.releaseNamespace } (.ok ())] := by
  rcases prepareRelease_cases codec r env bi with
    ⟨_, _, _, value⟩ | ⟨_, _, _, _, _, value⟩ | ⟨_, _, _, _, _, value⟩ |
      ⟨_, _, _, _, _, _, _, value⟩ | ⟨_, _, _, _, _, _, _, _, _, value⟩ |
      ⟨b, found, templates, read, loaded, built, client, log, value⟩ <;>
    simp only [value, reduceCtorEq, Except.ok.injEq, Prod.mk.injEq] at prepared
  obtain ⟨rfl, rfl, rfl⟩ := prepared
  rcases loadBundle_cases env bi with
    ⟨_, _, _, stage⟩ | ⟨_, _, _, _, stage⟩ | ⟨_, _, _, _, _, _, stage⟩ |
      ⟨b', objects, reread, unpacked, stored, loadLog, stage⟩ <;>
    simp only [stage, reduceCtorEq, Except.ok.injEq] at loaded
  exact ⟨b, b', objects, templates, read, reread, unpacked, stored, loaded.symm, built, rfl,
    client, rfl, by simp [log, loadLog]⟩

theorem watchAndReport_log (codec : Codec) (r : BundleInstanceReconciler) (env : Collaborators)
    (bi : BundleInstance) (objs : List Unstructured) :
    (watchAndReport codec r env bi objs).log =
      (watchDesired codec env r.dynamicWatchGVKs objs).log := by
  simp only [watchAndReport, Logged.log_bind]
  split <;> simp

/-- A pass talks to the action client in one block of consecutive calls, made by
applyRelease for the chart of the labelled objects once every precondition has held, or not
at all. -/
theorem reconcile_release_block (codec : Codec) (r : BundleInstanceReconciler)
    (env : Collaborators) (name : String) :
    ∃ pre block post, (reconcile codec r env name).log = pre ++ block ++ post ∧
      (∀ c ∈ pre, c.isRelease = false) ∧ (∀ c ∈ post, c.isRelease = false) ∧
      (block = [] ∨ ∃ bi b b' objects templates,
        env.getBundleInstance name = .ok bi ∧ env.getBundle bi.spec.bundleName = .ok b ∧
        env.getBundleForLoad bi.spec.bundleName = .ok b' ∧ b'.status.phase = phaseUnpacked ∧
        env.load b' = .ok objects ∧
        materializeTemplates codec (objects.map (labelObject bi.name)) = .ok templates ∧
        env.actionClientFor { bi with «namespace» := r.releaseNamespace } = .ok () ∧
        Call.load b' (.ok objects) ∈ pre ∧
        block = (applyRelease r env { bi with «namespace» := "" } ⟨templates⟩).log) := by
  cases read : env.getBundleInstance name with
  | error err =>
    exact ⟨[.getBundleInstance name (.error err)], [], [],
      by simp [reconcile_of_read_error read], by simp [Call.isRelease], by simp, .inl rfl⟩
  | ok bi =>
    obtain ⟨log, -⟩ := reconcile_of_read read codec r
    generalize hpatch : Call.patchStatus _ _ = patchCall at log
    have patch : patchCall.isRelease = false := by rw [← hpatch]; rfl
    have head : ∀ c ∈ Call.getBundleInstance name (.ok bi) :: (prepareRelease codec r env bi).log,
        c.isRelease = false := by
      simpa [Call.isRelease] using prepareRelease_log_not_release codec r env bi
    rcases reconcileBundleInstance_cases codec r env bi with
      ⟨out, _, body, _⟩ | ⟨bi', objs, chrt, out, prepared, _, body, _⟩ |
        ⟨bi', objs, chrt, prepared, _, body, _⟩
    · exact ⟨Call.getBundleInstance name (.ok bi) :: (prepareRelease codec r env bi).log ++
        [patchCall], [], [], by simp [log, body],
        by simpa [patch, or_imp, forall_and] using head, by simp, .inl rfl⟩
    all_goals
      obtain ⟨b, b', objects, templates, found, reread, unpacked, stored, rfl, built, rfl,
        client, rfl, prepLog⟩ := prepareRelease_eq_ok prepared
    · exact ⟨Call.getBundleInstance name (.ok bi) :: (prepareRelease codec r env bi).log,
        (applyRelease r env { bi with «namespace» := "" } ⟨templates⟩).log, [patchCall],
        by simp [log, body], head, by simp [patch],
        .inr ⟨bi, b, b', objects, templates, rfl, found, reread, unpacked, stored, built, client,
          by simp [prepLog], rfl⟩⟩
    · refine ⟨Call.getBundleInstance name (.ok bi) :: (prepareRelease codec r env bi).log,
        (applyRelease r env { bi with «namespace» := "" } ⟨templates⟩).log,
        (watchAndReport codec r env { bi with «namespace» := "" }
          (objects.map (labelObject bi.name))).log ++ [patchCall],
        by simp [log, body], head, ?_,
        .inr ⟨bi, b, b', objects, templates, rfl, found, reread, unpacked, stored, built, client,
          by simp [prepLog], rfl⟩⟩
      simp only [List.mem_append, List.mem_singleton]
      rintro c (member | rfl)
      · obtain ⟨gvk, result, rfl⟩ :=
          watchDesired_log codec env _ _ c (by rwa [watchAndReport_log] at member)
        rfl
      · exact patch

end Rukpak.Plain
