import Rukpak.Plain.ReleaseStore

/-! Runs of passes over one BundleInstance held by the API server. Each pass reads the
BundleInstance the server holds, and its deferred status patch, when it succeeds, replaces the
held status. No pass ever writes HasValidBundle=True or InvalidBundleContent=False, so a
condition reporting the bundle invalid, once held, survives every later pass, successful ones
included. A pass upserts at most one condition, of a type the controller owns, so conditions of
other types and the distinctness of the held types survive every run; the installed bundle name
moves only to the spec's bundle name, through a pass that applied a release and saw its watches
through. -/
namespace Rukpak.Plain

/-- A condition reporting the bundle invalid: HasValidBundle False or Unknown, or
InvalidBundleContent True. -/
def ReportsInvalidBundle (c : Condition) : Prop :=
  (c.type = typeHasValidBundle ∧ (c.status = .false ∨ c.status = .unknown)) ∨
  (c.type = typeInvalidBundleContent ∧ c.status = .true)

theorem ReportsInvalidBundle.type_ne_installed {c : Condition} (invalid : ReportsInvalidBundle c) :
    c.type ≠ typeInstalled := by
  rcases invalid with ⟨kind, -⟩ | ⟨kind, -⟩ <;>
    simp [kind, typeHasValidBundle, typeInvalidBundleContent, typeInstalled]

theorem FailureCondition.reportsInvalid {c : Condition} (failure : FailureCondition c)
    (other : c.type ≠ typeInstalled) : ReportsInvalidBundle c := by
  rcases failure with found | content | ⟨installed, -⟩
  · exact .inl found
  · exact .inr content
  · exact absurd installed other

/-- The condition types the controller writes: every status it patches upserts one condition of
one of these types. -/
def ownedConditionTypes : List String := [typeHasValidBundle, typeInvalidBundleContent, typeInstalled]

theorem FailureCondition.type_mem_owned {c : Condition} (failure : FailureCondition c) :
    c.type ∈ ownedConditionTypes := by
  rcases failure with ⟨kind, -⟩ | ⟨kind, -⟩ | ⟨kind, -⟩ <;> simp [ownedConditionTypes, kind]

theorem exists_invalid_setStatusCondition {conditions : List Condition} {d : Condition}
    {type : String} (held : ∃ c ∈ conditions, c.type = type ∧ ReportsInvalidBundle c)
    (reports : d.type = type → ReportsInvalidBundle d) :
    ∃ c ∈ setStatusCondition conditions d, c.type = type ∧ ReportsInvalidBundle c := by
  obtain ⟨c, member, typed, invalid⟩ := held
  by_cases same : d.type = type
  · exact ⟨d, mem_setStatusCondition_self conditions d, same, reports same⟩
  · exact ⟨c, (mem_setStatusCondition_of_ne conditions (typed.trans_ne (Ne.symm same))).mpr member,
      typed, invalid⟩

/-- The API server's side of a run: the reconciler's state and the BundleInstance it holds. -/
structure Server where
  reconciler : BundleInstanceReconciler
  stored : BundleInstance

namespace Server

/-- The BundleInstance the server holds after one call of a pass: a status patch that succeeds
replaces the held status with the patched one. -/
def applyPatch (stored : BundleInstance) : Call → BundleInstance
  | .patchStatus written none => { stored with status := written.status }
  | _ => stored

/-- The collaborators of a pass against the server: the read of the BundleInstance answers the
one the server holds, and env answers every other call. -/
def reading (env : Collaborators) (stored : BundleInstance) : Collaborators :=
  { env with getBundleInstance := fun _ => .ok stored }

def pass (codec : Codec) (name : String) (sv : Server) (env : Collaborators) : Server :=
  let run := reconcile codec sv.reconciler (reading env sv.stored) name
  ⟨run.value.1, run.log.foldl applyPatch sv.stored⟩

def run (codec : Codec) (name : String) (envs : List Collaborators) (sv : Server) : Server :=
  envs.foldl (pass codec name) sv

theorem applyPatch_of_isRelease (stored : BundleInstance) {c : Call}
    (release : c.isRelease = true) : applyPatch stored c = stored := by
  cases c <;> first | rfl | simp [Call.isRelease] at release

theorem foldl_applyPatch {l : List Call} {stored : BundleInstance}
    (quiet : ∀ c ∈ l, applyPatch stored c = stored) : l.foldl applyPatch stored = stored := by
  induction l with
  | nil => rfl
  | cons c l ih =>
    simp only [List.mem_cons, forall_eq_or_imp] at quiet
    rw [List.foldl_cons, quiet.1, ih quiet.2]

theorem reconcileBundleInstance_applyPatch (codec : Codec) (r : BundleInstanceReconciler)
    (env : Collaborators) (bi stored : BundleInstance) :
    ∀ c ∈ (reconcileBundleInstance codec r env bi).log, applyPatch stored c = stored := by
  have prepared : ∀ c ∈ (prepareRelease codec r env bi).log, applyPatch stored c = stored :=
    prepareRelease_log_all codec r env bi (fun _ => rfl)
      (loadBundle_log_all env bi (fun _ => rfl) fun _ _ => rfl) fun _ => rfl
  have applied := fun bi' chrt c member =>
    applyPatch_of_isRelease stored (applyRelease_log_release r env bi' chrt c member)
  rcases reconcileBundleInstance_cases codec r env bi with
    ⟨_, _, log, _⟩ | ⟨bi', _, chrt, _, _, _, log, _⟩ | ⟨bi', objs, chrt, _, _, log, _⟩ <;>
    intro c member <;> rw [log] at member
  · exact prepared c member
  · exact (List.mem_append.mp member).elim (prepared c) (applied bi' chrt c)
  · rcases List.mem_append.mp member with member | member
    · exact (List.mem_append.mp member).elim (prepared c) (applied bi' chrt c)
    · obtain ⟨gvk, result, rfl⟩ :=
        watchDesired_log codec env r.dynamicWatchGVKs objs c (by rwa [watchAndReport_log] at member)
      rfl

theorem pass_stored (codec : Codec) (name : String) (sv : Server) (env : Collaborators) :
    let out := (reconcileBundleInstance codec sv.reconciler (reading env sv.stored) sv.stored).value
    (sv.pass codec name env).stored = applyPatch sv.stored (.patchStatus out.bi (env.patchStatus out.bi)) := by
  obtain ⟨log, -⟩ := reconcile_of_read (rfl : (reading env sv.stored).getBundleInstance name = _)
    codec sv.reconciler
  simp only [pass, log, List.foldl_cons, List.foldl_append, List.foldl_nil]
  rw [foldl_applyPatch (reconcileBundleInstance_applyPatch codec sv.reconciler _ _ _)]
  rfl

/-- One pass never clears a condition reporting the bundle invalid: the server holds one of
the same type afterwards. -/
theorem pass_keeps_invalid (codec : Codec) (name : String) (sv : Server) (env : Collaborators)
    {type : String} (held : ∃ c ∈ sv.stored.status.conditions, c.type = type ∧ ReportsInvalidBundle c) :
    ∃ c ∈ (sv.pass codec name env).stored.status.conditions, c.type = type ∧
      ReportsInvalidBundle c := by
  have notInstalled : type ≠ typeInstalled := by
    obtain ⟨_, _, rfl, invalid⟩ := held
    exact invalid.type_ne_installed
  rw [pass_stored]
  cases env.patchStatus _ with
  | some err => exact held
  | none =>
    rcases reconcileBundleInstance_status codec sv.reconciler (reading env sv.stored) sv.stored with
      ⟨upserted, -⟩ | ⟨⟨c, failed⟩, -⟩
    · rw [applyPatch, upserted]
      refine exists_invalid_setStatusCondition held fun same => absurd same ?_
      simpa [installationSucceeded] using fun hit => notInstalled hit.symm
    · rw [applyPatch, failed.upserted]
      exact exists_invalid_setStatusCondition held fun same =>
        failed.failure.reportsInvalid (same ▸ notInstalled)

theorem pass_conditions (codec : Codec) (name : String) (sv : Server) (env : Collaborators) :
    (sv.pass codec name env).stored.status.conditions = sv.stored.status.conditions ∨
    ∃ c, c.type ∈ ownedConditionTypes ∧
      (sv.pass codec name env).stored.status.conditions =
        setStatusCondition sv.stored.status.conditions c := by
  rw [pass_stored]
  cases env.patchStatus _ with
  | some err => exact .inl rfl
  | none =>
    rcases reconcileBundleInstance_status codec sv.reconciler (reading env sv.stored) sv.stored with
      ⟨upserted, -⟩ | ⟨⟨c, failed⟩, -⟩
    · exact .inr ⟨installationSucceeded, by simp [installationSucceeded, ownedConditionTypes], upserted⟩
    · exact .inr ⟨c, failed.failure.type_mem_owned, failed.upserted⟩

theorem pass_installedBundleName (codec : Codec) (name : String) (sv : Server)
    (env : Collaborators) :
    let log := (reconcileBundleInstance codec sv.reconciler (reading env sv.stored) sv.stored).log
    (sv.pass codec name env).stored.spec = sv.stored.spec ∧
    ((sv.pass codec name env).stored.status.installedBundleName =
        sv.stored.status.installedBundleName ∨
      (sv.pass codec name env).stored.status.installedBundleName = sv.stored.spec.bundleName ∧
        (∃ c ∈ log, c.applied = true) ∧ WatchesCompleted codec sv.stored log) := by
  rw [pass_stored]
  cases env.patchStatus _ with
  | some err => exact ⟨rfl, .inl rfl⟩
  | none =>
    rcases reconcileBundleInstance_status codec sv.reconciler (reading env sv.stored) sv.stored with
      ⟨-, named, -, done⟩ | ⟨⟨c, failed⟩, -⟩
    · exact ⟨rfl, .inr ⟨named, done⟩⟩
    · exact ⟨rfl, .inl failed.kept⟩

theorem pass_keeps_foreign (codec : Codec) (name : String) (sv : Server) (env : Collaborators)
    {d : Condition} (foreign : d.type ∉ ownedConditionTypes) :
    d ∈ (sv.pass codec name env).stored.status.conditions ↔ d ∈ sv.stored.status.conditions := by
  rcases pass_conditions codec name sv env with same | ⟨c, owned, upserted⟩
  · rw [same]
  · rw [upserted]
    exact mem_setStatusCondition_of_ne _ fun same => foreign (same ▸ owned)

theorem pass_types_nodup (codec : Codec) (name : String) (sv : Server) (env : Collaborators)
    (distinct : (sv.stored.status.conditions.map Condition.type).Nodup) :
    ((sv.pass codec name env).stored.status.conditions.map Condition.type).Nodup := by
  rcases pass_conditions codec name sv env with same | ⟨c, -, upserted⟩
  · rwa [same]
  · rw [upserted]
    exact nodup_type_setStatusCondition c distinct

/-- What every pass with collaborators of a kind Q keeps, every run of such passes keeps. -/
theorem run_preserves (P : Server → Prop) (Q : Collaborators → Prop) {codec : Codec}
    {name : String} (step : ∀ sv env, Q env → P sv → P (sv.pass codec name env))
    {envs : List Collaborators} (each : ∀ env ∈ envs, Q env) {sv : Server} (start : P sv) :
    P (run codec name envs sv) := by
  induction envs generalizing sv with
  | nil => exact start
  | cons env envs ih =>
    rw [List.forall_mem_cons] at each
    exact ih each.2 (step sv env each.1 start)

end Server

/-- Over every run, a condition reporting the bundle invalid is never cleared: once the server
holds one of a type, it holds one of that type after every later pass, passes that end with
Installed=True included. -/
theorem run_keeps_invalid_bundle (codec : Codec) (name : String) (envs : List Collaborators)
    (sv : Server) {type : String}
    (held : ∃ c ∈ sv.stored.status.conditions, c.type = type ∧ ReportsInvalidBundle c) :
    ∃ c ∈ (Server.run codec name envs sv).stored.status.conditions, c.type = type ∧
      ReportsInvalidBundle c :=
  Server.run_preserves (fun sv => ∃ c ∈ sv.stored.status.conditions, c.type = type ∧
    ReportsInvalidBundle c) (fun _ => True)
    (fun sv env _ => Server.pass_keeps_invalid codec name sv env) (fun _ _ => trivial) held

/-- A BundleInstance left by a pass that found no Bundle. -/
def staleInstance : BundleInstance :=
  sampleInstance.setCondition ⟨typeHasValidBundle, .false, reasonBundleLookupFailed, "not found"⟩

theorem run_keeps_invalid_bundle_install :
    (∃ c ∈ staleInstance.status.conditions, c.type = typeHasValidBundle ∧ ReportsInvalidBundle c) ∧
    ∃ c ∈ (Server.run sampleCodec "inst-a" [installEnv] ⟨⟨"ns", []⟩, staleInstance⟩).stored.status.conditions,
      c.type = typeHasValidBundle ∧ ReportsInvalidBundle c :=
  have held : ∃ c ∈ staleInstance.status.conditions, c.type = typeHasValidBundle ∧
      ReportsInvalidBundle c :=
    ⟨_, List.mem_singleton_self _, rfl, .inl ⟨rfl, .inl rfl⟩⟩
  ⟨held, run_keeps_invalid_bundle sampleCodec "inst-a" [installEnv] _ held⟩

def missingEnv : Collaborators :=
  { installEnv with getBundle := fun _ => .error (.notFound "not found") }

/-- A pass that finds no Bundle, then a pass that installs: the second writes Installed=True
next to the HasValidBundle=False the first left. -/
theorem run_installed_next_to_invalid :
    (Server.run sampleCodec "inst-a" [missingEnv, installEnv] ⟨⟨"ns", []⟩, sampleInstance⟩).stored.status =
      ⟨[⟨typeHasValidBundle, .false, reasonBundleLookupFailed, "not found"⟩, installationSucceeded],
        "pkg-a"⟩ := rfl

/-- Over every run, a condition of a type the controller does not own is held at the end
exactly when it was held at the start: no pass adds, drops or rewrites one. -/
theorem run_keeps_foreign_conditions (codec : Codec) (name : String) (envs : List Collaborators)
    (sv : Server) {d : Condition} (foreign : d.type ∉ ownedConditionTypes) :
    d ∈ (Server.run codec name envs sv).stored.status.conditions ↔
      d ∈ sv.stored.status.conditions :=
  Server.run_preserves (fun sv' => d ∈ sv'.stored.status.conditions ↔ d ∈ sv.stored.status.conditions)
    (fun _ => True) (fun sv' env _ held => (Server.pass_keeps_foreign codec name sv' env foreign).trans held)
    (fun _ _ => trivial) Iff.rfl

def readyCondition : Condition := ⟨"Ready", .true, "", ""⟩

theorem run_keeps_foreign_conditions_ready :
    readyCondition.type ∉ ownedConditionTypes ∧
    (readyCondition ∈ (Server.run sampleCodec "inst-a" [missingEnv, installEnv]
        ⟨⟨"ns", []⟩, sampleInstance.setCondition readyCondition⟩).stored.status.conditions ↔
      readyCondition ∈ (sampleInstance.setCondition readyCondition).status.conditions) :=
  have foreign : readyCondition.type ∉ ownedConditionTypes := by decide
  ⟨foreign, run_keeps_foreign_conditions sampleCodec "inst-a" _ _ foreign⟩

/-- Over every run, the server holds at most one condition of each type, when it started so. -/
theorem run_condition_types_distinct (codec : Codec) (name : String) (envs : List Collaborators)
    (sv : Server) (distinct : (sv.stored.status.conditions.map Condition.type).Nodup) :
    ((Server.run codec name envs sv).stored.status.conditions.map Condition.type).Nodup :=
  Server.run_preserves (fun sv => (sv.stored.status.conditions.map Condition.type).Nodup)
    (fun _ => True) (fun sv env _ => Server.pass_types_nodup codec name sv env)
    (fun _ _ => trivial) distinct

theorem run_condition_types_distinct_stale :
    (staleInstance.status.conditions.map Condition.type).Nodup ∧
    ((Server.run sampleCodec "inst-a" [missingEnv, installEnv] ⟨⟨"ns", []⟩, staleInstance⟩
      ).stored.status.conditions.map Condition.type).Nodup :=
  have distinct : (staleInstance.status.conditions.map Condition.type).Nodup := by decide
  ⟨distinct, run_condition_types_distinct sampleCodec "inst-a" _ _ distinct⟩

/-- Over every run, the spec the server holds never changes, and the installed bundle name it
holds at the end is the one it started with, or the spec's bundle name written by a pass that
applied a release and saw every watch of its objects through. -/
theorem run_installedBundleName (codec : Codec) (name : String) (envs : List Collaborators)
    (sv : Server) :
    let out := Server.run codec name envs sv
    out.stored.spec = sv.stored.spec ∧
    (out.stored.status.installedBundleName = sv.stored.status.installedBundleName ∨
      out.stored.status.installedBundleName = sv.stored.spec.bundleName ∧
      ∃ k env, envs[k]? = some env ∧
        let before := Server.run codec name (envs.take k) sv
        let log := (reconcileBundleInstance codec before.reconciler
          (Server.reading env before.stored) before.stored).log
        (∃ c ∈ log, c.applied = true) ∧ WatchesCompleted codec before.stored log) := by
  induction envs generalizing sv with
  | nil => exact ⟨rfl, .inl rfl⟩
  | cons env envs ih =>
    obtain ⟨spec, step⟩ := Server.pass_installedBundleName codec name sv env
    obtain ⟨spec', rest⟩ := ih (sv.pass codec name env)
    refine ⟨spec'.trans spec, ?_⟩
    rcases rest with kept | ⟨named, k, env', at_k, done⟩
    · rcases step with same | ⟨named, done⟩
      · exact .inl (kept.trans same)
      · exact .inr ⟨kept.trans named, 0, env, List.getElem?_cons_zero, done⟩
    · exact .inr ⟨named.trans (by rw [spec]), k + 1, env', List.getElem?_cons_succ.trans at_k, done⟩

end Rukpak.Plain
