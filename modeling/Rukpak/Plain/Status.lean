import Rukpak.Plain.ReleaseCalls

/-! The status a pass writes back. Every pass that read its BundleInstance upserts exactly
one condition: Installed=True with the installed bundle name after a successful release
call and watch loop, and otherwise the failure condition of the step that stopped it. -/
namespace Rukpak.Plain

def installationSucceeded : Condition :=
  ⟨typeInstalled, .true, reasonInstallationSucceeded, ""⟩

def installFailureReasons : List String :=
  [reasonErrorGettingClient, reasonErrorGettingReleaseState, reasonInstallFailed,
    reasonUpgradeFailed, reasonReconcileFailed, reasonCreateDynamicWatchFailed]

/-- A condition that reports a failed pass. -/
def FailureCondition (c : Condition) : Prop :=
  (c.type = typeHasValidBundle ∧ (c.status = .false ∨ c.status = .unknown)) ∨
  (c.type = typeInvalidBundleContent ∧ c.status = .true) ∨
  (c.type = typeInstalled ∧ c.status = .false ∧
    (c.reason ∈ installFailureReasons ∨ ∃ phase, c.reason = bundleUnpackReason phase))

def Call.applied : Call → Bool
  | install _ _ _ _ (.ok _) => true
  | upgrade _ _ _ false (.ok _) => true
  | reconcile _ none => true
  | _ => false

/-- The watch loop of a pass went through every desired object: each converted, and no
Watch call failed. -/
def WatchesCompleted (codec : Codec) (bi : BundleInstance) (log : List Call) : Prop :=
  (∀ b objects, Call.load b (.ok objects) ∈ log →
    ∀ obj ∈ objects, ∃ u, codec.toUnstructured (labelObject bi.name obj) = .ok u) ∧
  ∀ gvk err, Call.watch gvk (some err) ∉ log

/-- The step that stopped a pass on bi, with the condition it upserts and the error the pass
returns: one case for each step of Reconcile that can fail, holding when the collaborators'
answers make that step fail after every step before it succeeded. -/
inductive StoppedAt (codec : Codec) (r : BundleInstanceReconciler) (env : Collaborators)
    (bi : BundleInstance) : Condition → Option Error → Prop
  | bundleLookup {err : Error} (failed : env.getBundle bi.spec.bundleName = .error err) :
      StoppedAt codec r env bi ⟨typeHasValidBundle, if err.isNotFound then .false else .unknown,
        reasonBundleLookupFailed, err.error⟩ (ignoreNotFound err)
  | notUnpacked {b b' : Bundle} (found : env.getBundle bi.spec.bundleName = .ok b)
      (reread : env.getBundleForLoad bi.spec.bundleName = .ok b')
      (packed : b'.status.phase ≠ phaseUnpacked) :
      StoppedAt codec r env bi ⟨typeInstalled, .false, bundleUnpackReason b.status.phase, ""⟩ none
  | bundleLoad {b : Bundle} {err : Error} (found : env.getBundle bi.spec.bundleName = .ok b)
      (failed : (loadBundle env bi).value = .error (.failed err)) :
      StoppedAt codec r env bi ⟨typeHasValidBundle, .false, reasonBundleLoadFailed, err.error⟩
        (some err)
  | readingContent {b : Bundle} {objs : List Unstructured} {err : Error}
      (found : env.getBundle bi.spec.bundleName = .ok b)
      (loaded : (loadBundle env bi).value = .ok objs)
      (failed : materializeTemplates codec objs = .error err) :
      StoppedAt codec r env bi ⟨typeInvalidBundleContent, .true, reasonReadingContentFailed,
        err.error⟩ (some err)
  | gettingClient {b : Bundle} {objs : List Unstructured} {templates : List File} {err : Error}
      (found : env.getBundle bi.spec.bundleName = .ok b)
      (loaded : (loadBundle env bi).value = .ok objs)
      (built : materializeTemplates codec objs = .ok templates)
      (failed : env.actionClientFor { bi with «namespace» := r.releaseNamespace } = .error err) :
      StoppedAt codec r env bi ⟨typeInstalled, .false, reasonErrorGettingClient, err.error⟩
        (some err)
  | gettingReleaseState {objects : List Unstructured} {templates : List File} {err : Error}
      (ready : ReleaseReady codec r env bi objects templates)
      (failed : (env.get bi.name = .error err ∧ err.isReleaseNotFound = false) ∨
        ∃ current, env.get bi.name = .ok current ∧
          env.upgrade bi.name r.releaseNamespace ⟨templates⟩ true = .error err) :
      StoppedAt codec r env bi ⟨typeInstalled, .false, reasonErrorGettingReleaseState, err.error⟩
        (some err)
  | install {objects : List Unstructured} {templates : List File} {err : Error}
      (ready : ReleaseReady codec r env bi objects templates)
      (dictated : dictatedCall env r.releaseNamespace bi.name ⟨templates⟩ =
        some (.install bi.name r.releaseNamespace ⟨templates⟩ false (.error err))) :
      StoppedAt codec r env bi ⟨typeInstalled, .false, reasonInstallFailed, err.error⟩ (some err)
  | upgrade {objects : List Unstructured} {templates : List File} {err : Error}
      (ready : ReleaseReady codec r env bi objects templates)
      (dictated : dictatedCall env r.releaseNamespace bi.name ⟨templates⟩ =
        some (.upgrade bi.name r.releaseNamespace ⟨templates⟩ false (.error err))) :
      StoppedAt codec r env bi ⟨typeInstalled, .false, reasonUpgradeFailed, err.error⟩ (some err)
  | reconcile {objects : List Unstructured} {templates : List File} {current : Release}
      {err : Error} (ready : ReleaseReady codec r env bi objects templates)
      (dictated : dictatedCall env r.releaseNamespace bi.name ⟨templates⟩ =
        some (.reconcile (some current) (some err))) :
      StoppedAt codec r env bi ⟨typeInstalled, .false, reasonReconcileFailed, err.error⟩ (some err)
  | createDynamicWatch {objects : List Unstructured} {templates : List File} {call : Call}
      {err : Error} (ready : ReleaseReady codec r env bi objects templates)
      (dictated : dictatedCall env r.releaseNamespace bi.name ⟨templates⟩ = some call)
      (applied : call.applied = true)
      (failed : (watchDesired codec env r.dynamicWatchGVKs
        (objects.map (labelObject bi.name))).value.2 = some err) :
      StoppedAt codec r env bi ⟨typeInstalled, .false, reasonCreateDynamicWatchFailed, err.error⟩
        (some err)

namespace StoppedAt

variable {codec : Codec} {r : BundleInstanceReconciler} {env : Collaborators}
  {bi : BundleInstance} {c : Condition} {err : Option Error}

theorem failure (stopped : StoppedAt codec r env bi c err) : FailureCondition c := by
  cases stopped with
  | bundleLookup => exact .inl ⟨rfl, by split <;> simp⟩
  | notUnpacked => exact .inr (.inr ⟨rfl, rfl, .inr ⟨_, rfl⟩⟩)
  | bundleLoad => exact .inl ⟨rfl, .inl rfl⟩
  | readingContent => exact .inr (.inl ⟨rfl, rfl⟩)
  | _ => exact .inr (.inr ⟨rfl, rfl, .inl (by simp [installFailureReasons])⟩)

theorem quiet (stopped : StoppedAt codec r env bi c err) (nil : err = none) :
    (∃ err, env.getBundle bi.spec.bundleName = .error err ∧ err.isNotFound = true) ∨
    ∃ b b', env.getBundle bi.spec.bundleName = .ok b ∧
      env.getBundleForLoad bi.spec.bundleName = .ok b' ∧ b'.status.phase ≠ phaseUnpacked := by
  cases stopped with
  | bundleLookup failed => exact .inl ⟨_, failed, by simpa [ignoreNotFound] using nil⟩
  | notUnpacked found reread packed => exact .inr ⟨_, _, found, reread, packed⟩
  | _ => cases nil

end StoppedAt

/-- How a pass on bi that did not install ends: the step that stopped it upserted its failure
condition c into the conditions it read, the installed bundle name is kept, and the error is
nil only when the Bundle was not found or loadBundle found it not unpacked. -/
structure Failed (codec : Codec) (r : BundleInstanceReconciler) (env : Collaborators)
    (bi written : BundleInstance) (err : Option Error) (c : Condition) : Prop where
  stopped : StoppedAt codec r env bi c err
  upserted : written.status.conditions = setStatusCondition bi.status.conditions c
  kept : written.status.installedBundleName = bi.status.installedBundleName
  quiet : err = none →
    (∃ err, env.getBundle bi.spec.bundleName = .error err ∧ err.isNotFound = true) ∨
    ∃ b b', env.getBundle bi.spec.bundleName = .ok b ∧
      env.getBundleForLoad bi.spec.bundleName = .ok b' ∧ b'.status.phase ≠ phaseUnpacked

namespace Failed

variable {codec : Codec} {r : BundleInstanceReconciler} {env : Collaborators}
  {bi written : BundleInstance} {err : Option Error} {c : Condition}

theorem of_stopped (stopped : StoppedAt codec r env bi c err)
    (upserted : written.status.conditions = setStatusCondition bi.status.conditions c)
    (kept : written.status.installedBundleName = bi.status.installedBundleName) :
    Failed codec r env bi written err c :=
  ⟨stopped, upserted, kept, stopped.quiet⟩

theorem failure (failed : Failed codec r env bi written err c) : FailureCondition c :=
  failed.stopped.failure

end Failed

theorem Call.isRelease_of_applied {c : Call} (applied : c.applied = true) :
    c.isRelease = true := by
  rcases c with _ | _ | _ | _ | _ | ⟨_, _, _, _ | _, _ | _⟩ | ⟨_, _, _, _, _ | _⟩ | ⟨_, _ | _⟩ |
    _ | _ <;> simp_all [Call.applied, Call.isRelease]

theorem Call.changesRelease_of_applied {c : Call} (applied : c.applied = true) :
    c.changesRelease = true := by
  rcases c with _ | _ | _ | _ | _ | ⟨_, _, _, _ | _, _ | _⟩ | ⟨_, _, _, _, _ | _⟩ | ⟨_, _ | _⟩ |
    _ | _ <;> simp_all [Call.applied, Call.changesRelease]

theorem applyRelease_dictated {r : BundleInstanceReconciler} {env : Collaborators}
    {bi : BundleInstance} {chrt : Chart} {c : Call} (member : c ∈ (applyRelease r env bi chrt).log)
    (applied : c.applied = true) : dictatedCall env r.releaseNamespace bi.name chrt = some c := by
  have listed := List.mem_filter.mpr ⟨member, Call.changesRelease_of_applied applied⟩
  rw [applyRelease_changes] at listed
  simpa using listed

theorem prepareRelease_failed {codec : Codec} {r : BundleInstanceReconciler}
    {env : Collaborators} {bi : BundleInstance} {out : Outcome}
    (stopped : (prepareRelease codec r env bi).value = .error out) :
    ∃ c, Failed codec r env bi out.bi out.err c := by
  rcases prepareRelease_cases codec r env bi with
    ⟨err, read, _, value⟩ | ⟨b, e, read, loaded, _, value⟩ | ⟨b, err, read, loaded, _, value⟩ |
      ⟨b, objs, err, read, loaded, built, _, value⟩ |
      ⟨b, objs, templates, err, read, loaded, built, client, _, value⟩ |
      ⟨_, _, _, _, _, _, _, _, value⟩ <;>
    simp only [value, reduceCtorEq, Except.error.injEq] at stopped <;> subst stopped
  · exact ⟨_, .of_stopped (.bundleLookup read) rfl rfl⟩
  · rcases loadBundle_cases env bi with
      ⟨_, _, _, stage⟩ | ⟨b', reread, packed, _, stage⟩ | ⟨_, _, _, _, _, _, stage⟩ |
        ⟨_, _, _, _, _, _, stage⟩ <;>
      simp only [stage, reduceCtorEq, Except.error.injEq] at loaded
    exact ⟨_, .of_stopped (.notUnpacked read reread packed) rfl rfl⟩
  · exact ⟨_, .of_stopped (.bundleLoad read loaded) rfl rfl⟩
  · exact ⟨_, .of_stopped (.readingContent read loaded built) rfl rfl⟩
  · exact ⟨_, .of_stopped (.gettingClient read loaded built client) rfl rfl⟩

theorem applyRelease_failed {codec : Codec} {r : BundleInstanceReconciler} {env : Collaborators}
    {bi : BundleInstance} {objects : List Unstructured} {templates : List File} {out : Outcome}
    (ready : ReleaseReady codec r env bi objects templates)
    (stopped : (applyRelease r env { bi with «namespace» := "" } ⟨templates⟩).value = some out) :
    (∃ c, Failed codec r env bi out.bi out.err c) ∧ out.err ≠ none := by
  have failing : ∀ c err, StoppedAt codec r env bi c (some err) →
      some (⟨{ bi with «namespace» := "" }.setCondition c, r, some err⟩ : Outcome) = some out →
      (∃ c, Failed codec r env bi out.bi out.err c) ∧ out.err ≠ none := by
    rintro c err step ⟨⟩
    exact ⟨⟨c, .of_stopped step rfl rfl⟩, by simp⟩
  rcases applyRelease_cases r env { bi with «namespace» := "" } ⟨templates⟩ with
    ⟨_, got, missing, _, value⟩ | ⟨_, got, other, _, value⟩ | ⟨current, _, got, dry, _, value⟩ |
      ⟨current, desired, got, dry, changed, _, value⟩ |
      ⟨current, desired, got, dry, same, notFailed, notSuperseded, _, value⟩ <;>
    dsimp only at got value <;> rw [value] at stopped
  · cases installed : env.install bi.name r.releaseNamespace ⟨templates⟩ false with
    | error err =>
      rw [installed] at stopped
      exact failing _ _ (.install ready (by simp [dictatedCall, got, missing, installed])) stopped
    | ok _ => simp [installed] at stopped
  · exact failing _ _ (.gettingReleaseState ready (.inl ⟨got, other⟩)) stopped
  · exact failing _ _ (.gettingReleaseState ready (.inr ⟨current, got, dry⟩)) stopped
  · cases upgraded : env.upgrade bi.name r.releaseNamespace ⟨templates⟩ false with
    | error err =>
      rw [upgraded] at stopped
      refine failing _ _ (.upgrade ready ?_) stopped
      simp only [dictatedCall, got, dry]
      rw [if_pos changed, upgraded]
    | ok _ => simp [upgraded] at stopped
  · cases healed : env.reconcile (some current) with
    | some err =>
      rw [healed] at stopped
      have dictated : dictatedCall env r.releaseNamespace bi.name ⟨templates⟩ =
          some (.reconcile (some current) (some err)) := by
        simp only [dictatedCall, got, dry]
        rw [if_neg (by simp [same, notFailed, notSuperseded]), healed]
      exact failing _ _ (.reconcile ready dictated) stopped
    | none => simp [healed] at stopped

theorem applyRelease_value_eq_none_iff (r : BundleInstanceReconciler) (env : Collaborators)
    (bi : BundleInstance) (chrt : Chart) :
    (applyRelease r env bi chrt).value = none ↔
      ∃ c ∈ (applyRelease r env bi chrt).log, c.applied = true := by
  rcases applyRelease_cases r env bi chrt with
    ⟨_, _, _, log, value⟩ | ⟨_, _, _, log, value⟩ | ⟨_, _, _, _, log, value⟩ |
      ⟨_, _, _, _, _, log, value⟩ | ⟨_, _, _, _, _, _, _, log, value⟩ <;>
    simp only [log, value] <;> (try split) <;> simp_all [Call.applied]

/-- After reading its BundleInstance, a pass either installs, with a successful release call
and a complete watch loop, or fails. -/
theorem reconcileBundleInstance_status (codec : Codec) (r : BundleInstanceReconciler)
    (env : Collaborators) (bi : BundleInstance) :
    let run := reconcileBundleInstance codec r env bi
    (run.value.bi.status.conditions = setStatusCondition bi.status.conditions installationSucceeded ∧
      run.value.bi.status.installedBundleName = bi.spec.bundleName ∧ run.value.err = none ∧
      (∃ c ∈ run.log, c.applied = true) ∧ WatchesCompleted codec bi run.log) ∨
    ((∃ c, Failed codec r env bi run.value.bi run.value.err c) ∧
      ¬((∃ c ∈ run.log, c.applied = true) ∧ WatchesCompleted codec bi run.log)) := by
  have unapplied : ∀ c ∈ (prepareRelease codec r env bi).log, c.applied = false :=
    fun c member => Bool.eq_false_iff.mpr fun hit => by
      simpa [Call.isRelease_of_applied hit] using prepareRelease_log_not_release codec r env bi c member
  rcases reconcileBundleInstance_cases codec r env bi with
    ⟨out, stopped, log, value⟩ | ⟨bi', objs, chrt, out, prepared, stopped, log, value⟩ |
      ⟨bi', objs, chrt, prepared, handed, log, value⟩
  · refine .inr ⟨value ▸ prepareRelease_failed stopped, ?_⟩
    rintro ⟨⟨c, member, hit⟩, -⟩
    rw [log] at member
    simp [unapplied c member] at hit
  all_goals
    obtain ⟨b, b', objects, templates, found, reread, unpacked, stored, rfl, built, rfl,
      client, rfl, prepLog⟩ := prepareRelease_eq_ok prepared
    have ready : ReleaseReady codec r env bi objects templates :=
      ⟨⟨b, found⟩, ⟨b', reread, unpacked, stored⟩, built, client⟩
  · refine .inr ⟨value ▸ (applyRelease_failed ready stopped).1, ?_⟩
    rintro ⟨⟨c, member, hit⟩, -⟩
    rw [log, List.mem_append] at member
    rcases member with member | member
    · simp [unapplied c member] at hit
    · have none := (applyRelease_value_eq_none_iff r env _ _).mpr ⟨c, member, hit⟩
      simp [stopped] at none
  · have applied := (applyRelease_value_eq_none_iff r env _ _).mp handed
    have release := applyRelease_log_release r env { bi with «namespace» := "" } ⟨templates⟩
    have watches := watchDesired_log codec env r.dynamicWatchGVKs (objects.map (labelObject bi.name))
    have loaded : ∀ b objects', Call.load b (.ok objects') ∈ (reconcileBundleInstance codec r env bi).log →
        objects' = objects := by
      intro b objects' member
      rw [log, prepLog, watchAndReport_log, List.append_assoc, List.mem_append,
        List.mem_append] at member
      rcases member with member | member | member
      · simp only [List.mem_cons, List.mem_singleton, List.not_mem_nil, or_false, reduceCtorEq,
          Call.load.injEq, Except.ok.injEq, false_or] at member
        exact member.2
      · exact absurd (release _ member) (by simp [Call.isRelease])
      · obtain ⟨_, _, same⟩ := watches _ member
        cases same
    have appliedLog : ∃ c ∈ (reconcileBundleInstance codec r env bi).log, c.applied = true := by
      obtain ⟨c, member, hit⟩ := applied
      exact ⟨c, by simp [log, member], hit⟩
    cases finished : (watchDesired codec env r.dynamicWatchGVKs
        (objects.map (labelObject bi.name))).value.2 with
    | none =>
      refine .inl ⟨?_, ?_, ?_, appliedLog, ?_, ?_⟩
      · simp [value, watchAndReport_value, finished, installationSucceeded]
      · simp [value, watchAndReport_value, finished]
      · simp [value, watchAndReport_value, finished]
      · intro b objects' member obj listed
        obtain rfl := loaded b objects' member
        obtain ⟨u, converted, -⟩ :=
          watchDesired_complete codec env _ _ finished _ (List.mem_map_of_mem _ listed)
        exact ⟨u, converted⟩
      · intro gvk err member
        rw [log, prepLog, watchAndReport_log] at member
        simp only [List.mem_append, List.mem_cons, List.mem_singleton, List.not_mem_nil,
          or_false, reduceCtorEq, false_or] at member
        rcases member with member | member
        · exact absurd (release _ member) (by simp [Call.isRelease])
        · exact watchDesired_no_failed_watch codec env _ _ finished gvk err member
    | some err =>
      obtain ⟨call, member, hit⟩ := applied
      have dictated := applyRelease_dictated member hit
      have stopped : StoppedAt codec r env bi
          ⟨typeInstalled, .false, reasonCreateDynamicWatchFailed, err.error⟩ (some err) :=
        .createDynamicWatch ready dictated hit finished
      refine .inr ⟨⟨_, .of_stopped (by simpa [value, watchAndReport_value, finished] using stopped)
        (by simp [value, watchAndReport_value, finished])
        (by simp [value, watchAndReport_value, finished])⟩, ?_⟩
      rintro ⟨-, converted, noFailure⟩
      rcases watchDesired_failed codec env _ _ err finished with ⟨obj, listed, bad⟩ | ⟨gvk, member⟩
      · obtain ⟨o, original, rfl⟩ := List.mem_map.mp listed
        obtain ⟨u, good⟩ := converted b' objects (by simp [log, prepLog]) o original
        simp [good] at bad
      · exact noFailure gvk err (by simp [log, watchAndReport_log, member])

/-- Collaborators of a first install that Helm refuses. -/
def refusedEnv : Collaborators :=
  { installEnv with install := fun _ _ _ _ => .error (.other "quota exceeded") }

/-- Collaborators of a pass during which the unpacker moves the Bundle from Unpacked back to
Pending between Reconcile's read and loadBundle's read. -/
def racedEnv : Collaborators where
  getBundleInstance _ := .ok sampleInstance
  getBundle _ := .ok ⟨"pkg-a", ⟨phaseUnpacked⟩⟩
  getBundleForLoad _ := .ok ⟨"pkg-a", ⟨phasePending⟩⟩
  load _ := .ok []
  actionClientFor _ := .ok ()
  get _ := .error .releaseNotFound
  upgrade _ _ _ _ := .error (.other "unused")
  install _ _ _ _ := .error (.other "unused")
  reconcile _ := none
  watch _ := none
  patchStatus _ := none

/-- Reconcile's read finds the Bundle Unpacked and loadBundle's read finds it Pending: the pass
patches Installed=False with reason BundleUnpackUnpacked, not the phase that stopped it. -/
theorem reconcile_raced_unpack_reason :
    racedEnv.getBundle "pkg-a" = .ok ⟨"pkg-a", ⟨phaseUnpacked⟩⟩ ∧
    racedEnv.getBundleForLoad "pkg-a" = .ok ⟨"pkg-a", ⟨phasePending⟩⟩ ∧
    (reconcile sampleCodec ⟨"ns", []⟩ racedEnv "inst-a").log.getLast? =
      some (.patchStatus ⟨"inst-a", "", ⟨"pkg-a"⟩,
        ⟨[⟨typeInstalled, .false, "BundleUnpackUnpacked", ""⟩], ""⟩⟩ none) :=
  ⟨rfl, rfl, rfl⟩

end Rukpak.Plain
