import Rukpak.Plain.Status

/-! The release backend as a store of release revisions. Get answers the newest revision, a
dry-run Upgrade answers the rendering of its chart, a successful Install or real Upgrade
records that rendering as a new deployed revision, and a failed one may leave it behind as a
failed revision. Over such a store passes are idempotent: once a pass has changed a release, a
later pass over the same objects finds the release unchanged and only re-asserts it; a pass
whose rendering differs from the newest revision, or that finds it failed, upgrades it once. -/
namespace Rukpak.Plain

/-- Modelled from the spec: Helm's release storage is not under src/. Every revision of every
release, newest first. -/
structure ReleaseStore where
  revisions : List Release
  deriving DecidableEq, Repr

namespace ReleaseStore

def latest (s : ReleaseStore) (name : String) : Option Release :=
  s.revisions.find? fun rel => rel.name == name

/-- Get: the newest revision, or driver.ErrReleaseNotFound. -/
def get (s : ReleaseStore) (name : String) : Except Error Release :=
  match s.latest name with
  | some rel => .ok rel
  | none => .error .releaseNotFound

def nextRevision (s : ReleaseStore) (name manifest : String) : Release :=
  ⟨name, ((s.latest name).map (·.version)).getD 0 + 1, manifest, ⟨.deployed⟩⟩

def record (s : ReleaseStore) (name manifest : String) : ReleaseStore :=
  ⟨s.nextRevision name manifest :: s.revisions.map fun rel =>
    if s.latest name = some rel then { rel with info := ⟨.superseded⟩ } else rel⟩

def recordFailed (s : ReleaseStore) (name manifest : String) : ReleaseStore :=
  ⟨{ s.nextRevision name manifest with info := ⟨.failed⟩ } :: s.revisions⟩

/-- The store after one call of a pass. A successful Install or real Upgrade records the
rendering of its chart; a failed one leaves it as a failed revision when the backend had
already written the release, which `leavesFailed` tells from the error; no other call changes
a release record. -/
def apply (leavesFailed : Error → Bool) (render : Chart → String) (s : ReleaseStore) :
    Call → ReleaseStore
  | .install name _ chrt _ (.ok _) => s.record name (render chrt)
  | .upgrade name _ chrt false (.ok _) => s.record name (render chrt)
  | .install name _ chrt _ (.error err) =>
    if leavesFailed err then s.recordFailed name (render chrt) else s
  | .upgrade name _ chrt false (.error err) =>
    if leavesFailed err then s.recordFailed name (render chrt) else s
  | _ => s

def afterPass (leavesFailed : Error → Bool) (render : Chart → String) (s : ReleaseStore)
    (log : List Call) : ReleaseStore :=
  log.foldl (apply leavesFailed render) s

@[simp] theorem latest_record (s : ReleaseStore) (name manifest : String) :
    (s.record name manifest).latest name = some (s.nextRevision name manifest) := by
  simp [record, latest, nextRevision]

@[simp] theorem latest_recordFailed (s : ReleaseStore) (name manifest : String) :
    (s.recordFailed name manifest).latest name =
      some { s.nextRevision name manifest with info := ⟨.failed⟩ } := by
  simp [recordFailed, latest, nextRevision]

@[simp] theorem get_eq_ok {s : ReleaseStore} {name : String} {rel : Release} :
    s.get name = .ok rel ↔ s.latest name = some rel := by
  unfold get
  split <;> simp_all

section Calls

variable (leavesFailed : Error → Bool) (render : Chart → String)

theorem apply_of_not_changes (s : ReleaseStore) {c : Call} (quiet : c.changesRelease = false) :
    apply leavesFailed render s c = s := by
  rcases c with _ | _ | _ | _ | _ | ⟨_, _, _, _ | _, _⟩ | _ | _ | _ | _ <;>
    first | rfl | simp [Call.changesRelease] at quiet

theorem afterPass_filter_changes (s : ReleaseStore) (l : List Call) :
    afterPass leavesFailed render s l = afterPass leavesFailed render s (l.filter Call.changesRelease) := by
  induction l generalizing s with
  | nil => rfl
  | cons c l ih =>
    cases changes : c.changesRelease
    · simp only [afterPass, List.foldl_cons, List.filter_cons, changes,
        apply_of_not_changes leavesFailed render s changes]
      exact ih s
    · simp only [afterPass, List.foldl_cons, List.filter_cons, changes, if_true]
      exact ih _

end Calls

end ReleaseStore

/-- The collaborators of a pass whose action client is backed by the store s and renders
charts with `render`: Get answers from the store, a dry-run Upgrade answers the rendering, and
a successful Install or real Upgrade answers the revision it records. Whether Install, a real
Upgrade or Reconcile fails is left to env. -/
def Collaborators.withStore (env : Collaborators) (render : Chart → String) (s : ReleaseStore) :
    Collaborators :=
  { env with
    get := s.get
    upgrade := fun name ns chrt dryRun =>
      if dryRun then .ok (s.nextRevision name (render chrt))
      else (env.upgrade name ns chrt false).map fun _ => s.nextRevision name (render chrt)
    install := fun name ns chrt createNamespace =>
      (env.install name ns chrt createNamespace).map fun _ => s.nextRevision name (render chrt) }

namespace Collaborators

variable (env : Collaborators) (render : Chart → String) (s : ReleaseStore)

@[simp] theorem withStore_getBundleInstance :
    (env.withStore render s).getBundleInstance = env.getBundleInstance := rfl
@[simp] theorem withStore_load : (env.withStore render s).load = env.load := rfl
@[simp] theorem withStore_get : (env.withStore render s).get = s.get := rfl
@[simp] theorem withStore_dryRun (name ns : String) (chrt : Chart) :
    (env.withStore render s).upgrade name ns chrt true = .ok (s.nextRevision name (render chrt)) :=
  rfl

end Collaborators

theorem applyRelease_withStore_log (r : BundleInstanceReconciler) (env : Collaborators)
    (render : Chart → String) {s : ReleaseStore} (bi : BundleInstance) (chrt : Chart)
    {rel : Release} (newest : s.latest bi.name = some rel) :
    (applyRelease r (env.withStore render s) bi chrt).log =
      [.get bi.name (.ok rel),
        .upgrade bi.name r.releaseNamespace chrt true (.ok (s.nextRevision bi.name (render chrt))),
        if render chrt ≠ rel.manifest ∨ rel.info.status = .failed ∨ rel.info.status = .superseded
        then .upgrade bi.name r.releaseNamespace chrt false
          ((env.withStore render s).upgrade bi.name r.releaseNamespace chrt false)
        else .reconcile (some rel) (env.reconcile (some rel))] := by
  have got : s.get bi.name = .ok rel := ReleaseStore.get_eq_ok.mpr newest
  rcases applyRelease_cases r (env.withStore render s) bi chrt with
    ⟨_, missing, -⟩ | ⟨_, missing, -⟩ | ⟨_, _, _, failed, -⟩ |
      ⟨current, desired, found, dry, changed, log, -⟩ |
      ⟨current, desired, found, dry, same, notFailed, notSuperseded, log, -⟩
  · simp [got] at missing
  · simp [got] at missing
  · simp at failed
  all_goals
    simp only [Collaborators.withStore_get, got, Except.ok.injEq,
      Collaborators.withStore_dryRun] at found dry
    subst found dry
  · rw [log, if_pos (by simpa [ReleaseStore.nextRevision, eq_comm] using changed)]
  · rw [log, if_neg (by simpa [ReleaseStore.nextRevision, notFailed, notSuperseded] using same)]
    rfl

/-- Over a store Get and the dry run always answer, so the table always dictates a call: Install
when the release has no revision, and otherwise a real Upgrade or Reconcile of the newest one. -/
theorem dictatedCall_withStore (env : Collaborators) (render : Chart → String) (s : ReleaseStore)
    (ns name : String) (chrt : Chart) :
    dictatedCall (env.withStore render s) ns name chrt = some (match s.latest name with
      | none => .install name ns chrt false
          ((env.install name ns chrt false).map fun _ => s.nextRevision name (render chrt))
      | some rel =>
        if render chrt ≠ rel.manifest ∨ rel.info.status = .failed ∨ rel.info.status = .superseded
        then .upgrade name ns chrt false
          ((env.upgrade name ns chrt false).map fun _ => s.nextRevision name (render chrt))
        else .reconcile (some rel) (env.reconcile (some rel))) := by
  cases newest : s.latest name with
  | none => simp [dictatedCall, ReleaseStore.get, newest, Collaborators.withStore, Error.isReleaseNotFound]
  | some rel =>
    simp only [dictatedCall, Collaborators.withStore_get, ReleaseStore.get, newest,
      Collaborators.withStore_dryRun]
    by_cases changed : render chrt ≠ rel.manifest ∨ rel.info.status = .failed ∨
        rel.info.status = .superseded
    · rw [if_pos (by simpa [ReleaseStore.nextRevision] using changed), if_pos changed]
      rfl
    · rw [if_neg (by simpa [ReleaseStore.nextRevision] using changed), if_neg changed]
      rfl

/-- A state-changing call of a pass over the store is the dictated one for the chart of a
BundleInstance it read and found ready, and it is the only call that changes the store. -/
theorem reconcile_afterPass (leavesFailed : Error → Bool) {codec : Codec}
    {r : BundleInstanceReconciler} {env : Collaborators} {render : Chart → String}
    {s : ReleaseStore} {name : String} {c : Call} (changes : c.changesRelease = true)
    (member : c ∈ (reconcile codec r (env.withStore render s) name).log) :
    ∃ bi objects templates, env.getBundleInstance name = .ok bi ∧
      ReleaseReady codec r (env.withStore render s) bi objects templates ∧
      dictatedCall (env.withStore render s) r.releaseNamespace bi.name ⟨templates⟩ = some c ∧
      s.afterPass leavesFailed render (reconcile codec r (env.withStore render s) name).log =
        s.apply leavesFailed render c := by
  obtain ⟨bi, objs, chrt, read, prepared, filtered⟩ :=
    reconcile_reaches_release (Call.isRelease_of_changesRelease changes) member
  obtain ⟨objects, templates, ready, -, rfl, -⟩ := prepareRelease_ready prepared
  have dictated : dictatedCall (env.withStore render s) r.releaseNamespace bi.name ⟨templates⟩ =
      some c := by
    have listed := List.mem_filter.mpr ⟨member, changes⟩
    rw [filtered] at listed
    simpa using listed
  refine ⟨bi, objects, templates, read, ready, dictated, ?_⟩
  rw [ReleaseStore.afterPass_filter_changes, filtered, dictated]
  rfl

theorem latest_apply_applied {env : Collaborators} {leavesFailed : Error → Bool}
    {render : Chart → String} {s : ReleaseStore} {ns name : String} {chrt : Chart} {c : Call}
    (dictated : dictatedCall (env.withStore render s) ns name chrt = some c)
    (applied : c.applied = true) :
    ∃ rel, (s.apply leavesFailed render c).latest name = some rel ∧ rel.manifest = render chrt ∧
      rel.info.status ≠ .failed ∧ rel.info.status ≠ .superseded := by
  have deployed : ∃ rel, (s.record name (render chrt)).latest name = some rel ∧
      rel.manifest = render chrt ∧ rel.info.status ≠ .failed ∧ rel.info.status ≠ .superseded :=
    ⟨_, ReleaseStore.latest_record s _ _, rfl, by simp [ReleaseStore.nextRevision]⟩
  rw [dictatedCall_withStore, Option.some.injEq] at dictated
  subst dictated
  cases newest : s.latest name with
  | none =>
    simp only [newest] at applied ⊢
    cases installed : env.install name ns chrt false <;>
      simp_all [Except.map, Call.applied, ReleaseStore.apply]
  | some rel =>
    simp only [newest] at applied ⊢
    split
    · cases upgraded : env.upgrade name ns chrt false <;>
        simp_all [Except.map, Call.applied, ReleaseStore.apply]
    · rename_i same
      simp only [not_or, not_not] at same
      exact ⟨rel, newest, same.1.symm, same.2.1, same.2.2⟩

/-- Over a store whose newest revision of the release already holds the rendering of the
pass's chart and is neither failed nor superseded, getReleaseState answers stateUnchanged: Get
finds that revision, the dry run renders the same manifest, and the pass re-asserts the
revision with Reconcile, its only state-changing call. -/
theorem reconcile_of_rendered {codec : Codec} {r : BundleInstanceReconciler} {env : Collaborators}
    {render : Chart → String} {s : ReleaseStore} {name : String} {bi : BundleInstance}
    {objects : List Unstructured} {templates : List File} {rel : Release}
    (read : env.getBundleInstance name = .ok bi) (stored : ∀ b, env.load b = .ok objects)
    (built : materializeTemplates codec (objects.map (labelObject bi.name)) = .ok templates)
    (newest : s.latest bi.name = some rel) (rendered : rel.manifest = render ⟨templates⟩)
    (notFailed : rel.info.status ≠ .failed) (notSuperseded : rel.info.status ≠ .superseded) :
    let log := (reconcile codec r (env.withStore render s) name).log
    (∀ c ∈ log, c.changesRelease = true → ∃ result, c = .reconcile (some rel) result) ∧
    ((∃ n result, Call.get n result ∈ log) → ∃ ns chrt desired result,
      desired.manifest = rel.manifest ∧
      [.get bi.name (.ok rel), .upgrade bi.name ns chrt true (.ok desired),
        .reconcile (some rel) result] <:+: log) := by
  obtain ⟨pre, block, post, split, quietPre, quietPost, shape⟩ :=
    reconcile_release_block_of_chart codec r (env.withStore render s) read stored built
  dsimp only
  rw [split]
  have inside : ∀ c, c.isRelease = true → c ∈ pre ++ block ++ post → c ∈ block :=
    fun _ => mem_block_of_release quietPre quietPost
  rcases shape with rfl | rfl
  · exact ⟨fun c member changes =>
        absurd (inside c (Call.isRelease_of_changesRelease changes) member) (List.not_mem_nil _),
      fun ⟨n, result, member⟩ =>
        absurd (inside (.get n result) rfl member) (List.not_mem_nil _)⟩
  rw [applyRelease_withStore_log r env render { bi with «namespace» := "" } _ newest,
    if_neg (by simp [rendered, notFailed, notSuperseded])] at inside ⊢
  refine ⟨fun c member changes => ?_, fun _ => ⟨_, _, _, _, rendered.symm, pre, post, rfl⟩⟩
  have listed := inside c (Call.isRelease_of_changesRelease changes) member
  simp only [List.mem_cons, List.mem_singleton, List.not_mem_nil, or_false] at listed
  rcases listed with rfl | rfl | rfl
  · simp [Call.changesRelease] at changes
  · simp [Call.changesRelease] at changes
  · exact ⟨_, rfl⟩

/-- Once a pass has changed a release, a later pass with a BundleInstance of the same name, the
same stored objects and the store the first pass left evaluates stateUnchanged: Get finds the
newest revision, the dry run renders the same manifest, and the pass re-asserts the revision
with Reconcile and makes no Install and no real Upgrade, whatever status the BundleInstance
carries and however the first pass's watches ended. -/
theorem reconcile_applied_then_unchanged (codec : Codec) (leavesFailed : Error → Bool)
    (render : Chart → String) (s : ReleaseStore) {r₁ r₂ : BundleInstanceReconciler}
    {env₁ env₂ : Collaborators} {name₁ name₂ : String} {bi₁ bi₂ : BundleInstance}
    {objects : List Unstructured}
    (read₁ : env₁.getBundleInstance name₁ = .ok bi₁)
    (read₂ : env₂.getBundleInstance name₂ = .ok bi₂) (sameName : bi₂.name = bi₁.name)
    (stored₁ : ∀ b, env₁.load b = .ok objects) (stored₂ : ∀ b, env₂.load b = .ok objects)
    (applied : ∃ c ∈ (reconcile codec r₁ (env₁.withStore render s) name₁).log,
      c.applied = true) :
    let s₁ := s.afterPass leavesFailed render (reconcile codec r₁ (env₁.withStore render s) name₁).log
    let log₂ := (reconcile codec r₂ (env₂.withStore render s₁) name₂).log
    ∃ rel, s₁.latest bi₁.name = some rel ∧ rel.info.status ≠ .failed ∧
      rel.info.status ≠ .superseded ∧
      (∀ c ∈ log₂, c.changesRelease = true → ∃ result, c = .reconcile (some rel) result) ∧
      ((∃ n result, Call.get n result ∈ log₂) → ∃ ns chrt desired result,
        desired.manifest = rel.manifest ∧
        [.get bi₁.name (.ok rel), .upgrade bi₁.name ns chrt true (.ok desired),
          .reconcile (some rel) result] <:+: log₂) := by
  obtain ⟨c, member, hit⟩ := applied
  obtain ⟨bi, objects', templates, read, ⟨_, ⟨b', _, _, loaded⟩, built, _⟩, dictated, after⟩ :=
    reconcile_afterPass leavesFailed (Call.changesRelease_of_applied hit) member
  obtain rfl : bi = bi₁ := by simpa [read₁] using read.symm
  obtain rfl : objects' = objects := by simpa [stored₁] using loaded.symm
  obtain ⟨rel, newest, rendered, notFailed, notSuperseded⟩ := latest_apply_applied dictated hit
  rw [← after, ← sameName] at newest
  rw [← sameName] at built ⊢
  exact ⟨rel, newest, notFailed, notSuperseded,
    reconcile_of_rendered read₂ stored₂ built newest rendered notFailed notSuperseded⟩

def sampleRender (chrt : Chart) : String :=
  String.intercalate "," (chrt.templates.map File.name)

theorem reconcile_applied_then_unchanged_install :
    let log₁ := (reconcile sampleCodec ⟨"ns", []⟩ (installEnv.withStore sampleRender ⟨[]⟩) "inst-a").log
    let s₁ := ReleaseStore.afterPass (fun _ => true) sampleRender ⟨[]⟩ log₁
    let log₂ := (reconcile sampleCodec ⟨"ns", []⟩ (installEnv.withStore sampleRender s₁) "inst-a").log
    installEnv.getBundleInstance "inst-a" = .ok sampleInstance ∧
    (∀ b, installEnv.load b = .ok [sampleObject]) ∧ (∃ c ∈ log₁, c.applied = true) ∧
    (∃ n result, Call.get n result ∈ log₂) ∧
    ∃ rel, s₁.latest "inst-a" = some rel ∧ rel.info.status ≠ .failed ∧
      rel.info.status ≠ .superseded ∧
      (∀ c ∈ log₂, c.changesRelease = true → ∃ result, c = .reconcile (some rel) result) ∧
      ∃ ns chrt desired result, desired.manifest = rel.manifest ∧
        [.get "inst-a" (.ok rel), .upgrade "inst-a" ns chrt true (.ok desired),
          .reconcile (some rel) result] <:+: log₂ := by
  intro log₁ s₁ log₂
  have applied : ∃ c ∈ log₁, c.applied = true := by decide
  have reached : ∃ n result, Call.get n result ∈ log₂ := ⟨_, _, List.getElem?_mem (n := 5) rfl⟩
  obtain ⟨rel, newest, notFailed, notSuperseded, changes, block⟩ :=
    @reconcile_applied_then_unchanged sampleCodec (fun _ => true) sampleRender ⟨[]⟩ ⟨"ns", []⟩
      ⟨"ns", []⟩ installEnv installEnv "inst-a" "inst-a" sampleInstance sampleInstance
      [sampleObject] rfl rfl rfl (fun _ => rfl) (fun _ => rfl) applied
  exact ⟨rfl, fun _ => rfl, applied, reached, rel, newest, notFailed, notSuperseded, changes,
    block reached⟩

end Rukpak.Plain
