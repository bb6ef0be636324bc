import Rukpak.Plain.Reconcile

/-! The release calls of a pass: a pass changes the release at most once, only after the
Bundle was found unpacked, its objects loaded and serialised and the action client
obtained, and then with the call getReleaseState's answer dictates. Every call of a pass aims at
the release named after the BundleInstance it read, in the reconciler's release namespace. -/
namespace Rukpak.Plain

def Call.isDryRun : Call → Bool
  | upgrade _ _ _ dryRun _ => dryRun
  | _ => false

/-- What a pass on bi must have seen before it may change the release: both reads of the
Bundle succeeded, loadBundle's read found it unpacked and storage loaded `objects`, the labelled
objects serialised into `templates`, and the action client was obtained. -/
structure ReleaseReady (codec : Codec) (r : BundleInstanceReconciler) (env : Collaborators)
    (bi : BundleInstance) (objects : List Unstructured) (templates : List File) : Prop where
  found : ∃ b, env.getBundle bi.spec.bundleName = .ok b
  unpacked : ∃ b', env.getBundleForLoad bi.spec.bundleName = .ok b' ∧
    b'.status.phase = phaseUnpacked ∧ env.load b' = .ok objects
  built : materializeTemplates codec (objects.map (labelObject bi.name)) = .ok templates
  client : env.actionClientFor { bi with «namespace» := r.releaseNamespace } = .ok ()

/-- The state-changing call the release state table names for the action client's answers,
written from the table rather than from getReleaseState: Install when Get fails with
ErrReleaseNotFound; when Get returns R and the dry-run Upgrade returns D, a real Upgrade if
D's manifest differs from R's or R failed or was superseded, and Reconcile of R otherwise; no
call when Get or the dry run fails otherwise. Each call carries its collaborator's answer. -/
def dictatedCall (env : Collaborators) (ns name : String) (chrt : Chart) : Option Call :=
  match env.get name with
  | .error err =>
    if err.isReleaseNotFound then some (.install name ns chrt false (env.install name ns chrt false))
    else none
  | .ok current =>
    match env.upgrade name ns chrt true with
    | .error _ => none
    | .ok desired =>
      if desired.manifest ≠ current.manifest ∨ current.info.status = .failed ∨
          current.info.status = .superseded then
        some (.upgrade name ns chrt false (env.upgrade name ns chrt false))
      else some (.reconcile (some current) (env.reconcile (some current)))

theorem not_mem_of_quiet {l : List Call} (quiet : ∀ c ∈ l, c.isRelease = false) {c : Call}
    (release : c.isRelease = true) : c ∉ l := fun member => by
  simp [quiet c member] at release

theorem filter_eq_nil_of_quiet {l : List Call} (quiet : ∀ c ∈ l, c.isRelease = false)
    {p : Call → Bool} (release : ∀ c, p c = true → c.isRelease = true) : l.filter p = [] :=
  List.filter_eq_nil_iff.mpr fun c member hit => by simpa [quiet c member] using release c hit

theorem mem_block_of_release {pre block post : List Call}
    (quietPre : ∀ c ∈ pre, c.isRelease = false) (quietPost : ∀ c ∈ post, c.isRelease = false)
    {c : Call} (release : c.isRelease = true) (member : c ∈ pre ++ block ++ post) : c ∈ block := by
  simpa [not_mem_of_quiet quietPre release, not_mem_of_quiet quietPost release] using member

theorem reconcile_release_block_of_chart (codec : Codec) (r : BundleInstanceReconciler)
    (env : Collaborators) {name : String} {bi : BundleInstance} {objects : List Unstructured}
    {templates : List File} (read : env.getBundleInstance name = .ok bi)
    (stored : ∀ b, env.load b = .ok objects)
    (built : materializeTemplates codec (objects.map (labelObject bi.name)) = .ok templates) :
    ∃ pre block post, (reconcile codec r env name).log = pre ++ block ++ post ∧
      (∀ c ∈ pre, c.isRelease = false) ∧ (∀ c ∈ post, c.isRelease = false) ∧
      (block = [] ∨ block = (applyRelease r env { bi with «namespace» := "" } ⟨templates⟩).log) := by
  obtain ⟨pre, block, post, log, quietPre, quietPost, shape⟩ :=
    reconcile_release_block codec r env name
  refine ⟨pre, block, post, log, quietPre, quietPost, ?_⟩
  rcases shape with rfl |
    ⟨bi', b, b', objects', templates', read', -, -, -, loaded, built', -, -, rfl⟩
  · exact .inl rfl
  obtain rfl : bi = bi' := by simpa [read] using read'
  obtain rfl : objects = objects' := by simpa [stored] using loaded
  obtain rfl : templates = templates' := by simpa [built] using built'
  exact .inr rfl

theorem Call.isRelease_of_isDryRun {c : Call} (dry : c.isDryRun = true) : c.isRelease = true := by
  cases c <;> simp_all [Call.isDryRun, Call.isRelease]

theorem prepareRelease_of_ready {codec : Codec} {r : BundleInstanceReconciler}
    {env : Collaborators} {bi : BundleInstance} {objects : List Unstructured}
    {templates : List File} (ready : ReleaseReady codec r env bi objects templates) :
    (prepareRelease codec r env bi).value =
      .ok ({ bi with «namespace» := "" }, objects.map (labelObject bi.name), ⟨templates⟩) := by
  obtain ⟨⟨b, found⟩, ⟨b', reread, unpacked, stored⟩, built, client⟩ := ready
  simp [prepareRelease, loadBundle, found, reread, unpacked, stored, built, client]

theorem prepareRelease_ready {codec : Codec} {r : BundleInstanceReconciler}
    {env : Collaborators} {bi bi' : BundleInstance} {objs : List Unstructured} {chrt : Chart}
    (prepared : (prepareRelease codec r env bi).value = .ok (bi', objs, chrt)) :
    ∃ objects templates, ReleaseReady codec r env bi objects templates ∧
      objs = objects.map (labelObject bi.name) ∧ chrt = ⟨templates⟩ ∧
      bi' = { bi with «namespace» := "" } := by
  obtain ⟨b, b', objects, templates, found, reread, unpacked, stored, rfl, built, rfl, client,
    rfl, -⟩ := prepareRelease_eq_ok prepared
  exact ⟨objects, templates, ⟨⟨b, found⟩, ⟨b', reread, unpacked, stored⟩, built, client⟩,
    rfl, rfl, rfl⟩

/-- getReleaseState and the switch make the state-changing call the table dictates, and no
other. -/
theorem applyRelease_changes (r : BundleInstanceReconciler) (env : Collaborators)
    (bi : BundleInstance) (chrt : Chart) :
    (applyRelease r env bi chrt).log.filter Call.changesRelease =
      (dictatedCall env r.releaseNamespace bi.name chrt).toList := by
  rcases applyRelease_cases r env bi chrt with
    ⟨err, got, missing, log, -⟩ | ⟨err, got, other, log, -⟩ | ⟨current, err, got, dry, log, -⟩ |
      ⟨current, desired, got, dry, changed, log, -⟩ |
      ⟨current, desired, got, dry, same, notFailed, notSuperseded, log, -⟩ <;>
    simp only [log, dictatedCall, got]
  · simp [missing, Call.changesRelease]
  · simp [other, Call.changesRelease]
  · simp [dry, Call.changesRelease]
  · simp only [dry]
    rw [if_pos changed]
    simp [Call.changesRelease]
  · simp only [dry]
    rw [if_neg (by simp [same, notFailed, notSuperseded])]
    simp [Call.changesRelease]

theorem applyRelease_dryRuns (r : BundleInstanceReconciler) (env : Collaborators)
    (bi : BundleInstance) (chrt : Chart) :
    ((applyRelease r env bi chrt).log.filter Call.isDryRun).length ≤ 1 := by
  rcases applyRelease_cases r env bi chrt with
    ⟨_, _, _, log, _⟩ | ⟨_, _, _, log, _⟩ | ⟨_, _, _, _, log, _⟩ | ⟨_, _, _, _, _, log, _⟩ |
      ⟨_, _, _, _, _, _, _, log, _⟩ <;>
    simp [log, Call.isDryRun]

section Filter

variable {p : Call → Bool} (release : ∀ c, p c = true → c.isRelease = true)
include release

theorem reconcileBundleInstance_filter_release (codec : Codec) (r : BundleInstanceReconciler)
    (env : Collaborators) (bi : BundleInstance) :
    (reconcileBundleInstance codec r env bi).log.filter p =
      match (prepareRelease codec r env bi).value with
      | .error _ => []
      | .ok (bi', _, chrt) => (applyRelease r env bi' chrt).log.filter p := by
  have prepared := filter_eq_nil_of_quiet (prepareRelease_log_not_release codec r env bi) release
  rcases reconcileBundleInstance_cases codec r env bi with
    ⟨_, stage, log, -⟩ | ⟨bi', _, chrt, _, stage, -, log, -⟩ | ⟨bi', objs, chrt, stage, -, log, -⟩ <;>
    simp only [log, stage, List.filter_append, prepared, List.nil_append]
  have watches : ∀ c ∈ (watchAndReport codec r env bi' objs).log, c.isRelease = false :=
    fun c member => by
      obtain ⟨_, _, rfl⟩ := watchDesired_log codec env _ _ c (by rwa [watchAndReport_log] at member)
      rfl
  rw [filter_eq_nil_of_quiet watches release, List.append_nil]

theorem reconcile_filter_release (codec : Codec) (r : BundleInstanceReconciler)
    (env : Collaborators) (name : String) :
    (reconcile codec r env name).log.filter p =
      match env.getBundleInstance name with
      | .error _ => []
      | .ok bi => (reconcileBundleInstance codec r env bi).log.filter p := by
  cases read : env.getBundleInstance name with
  | error err =>
    rw [reconcile_of_read_error read]
    exact filter_eq_nil_of_quiet (by simp [Call.isRelease]) release
  | ok bi =>
    have outside : ∀ c, c.isRelease = false → p c = false := fun c quiet =>
      Bool.eq_false_iff.mpr fun hit => by simp [release c hit] at quiet
    simp [(reconcile_of_read read codec r).1, List.filter_append, outside, Call.isRelease]

/-- A pass makes at most one call of a kind its release step makes at most once. -/
theorem reconcile_filter_length_le {codec : Codec} {r : BundleInstanceReconciler}
    {env : Collaborators} (name : String)
    (once : ∀ bi chrt, ((applyRelease r env bi chrt).log.filter p).length ≤ 1) :
    ((reconcile codec r env name).log.filter p).length ≤ 1 := by
  rw [reconcile_filter_release release]
  split
  · simp
  rw [reconcileBundleInstance_filter_release release]
  split
  · simp
  exact once _ _

end Filter

/-- A pass that makes any call to the action client read its BundleInstance, prepared the
release, and made exactly the state-changing call the table dictates for its chart. -/
theorem reconcile_reaches_release {codec : Codec} {r : BundleInstanceReconciler}
    {env : Collaborators} {name : String} {c : Call} (release : c.isRelease = true)
    (member : c ∈ (reconcile codec r env name).log) :
    ∃ bi objs chrt, env.getBundleInstance name = .ok bi ∧
      (prepareRelease codec r env bi).value = .ok ({ bi with «namespace» := "" }, objs, chrt) ∧
      (reconcile codec r env name).log.filter Call.changesRelease =
        (dictatedCall env r.releaseNamespace bi.name chrt).toList := by
  have listed := List.mem_filter.mpr ⟨member, release⟩
  have changes := reconcile_filter_release (fun c => @Call.isRelease_of_changesRelease c) codec r env name
  rw [reconcile_filter_release (fun _ => id)] at listed
  cases read : env.getBundleInstance name with
  | error err => simp [read] at listed
  | ok bi =>
    simp only [read, reconcileBundleInstance_filter_release (fun _ => id)] at listed changes
    cases stage : (prepareRelease codec r env bi).value with
    | error out => simp [stage] at listed
    | ok handed =>
      obtain ⟨bi', objs, chrt⟩ := handed
      obtain ⟨_, _, _, _, _, rfl⟩ := prepareRelease_ready stage
      refine ⟨bi, objs, chrt, rfl, stage, ?_⟩
      rw [changes, reconcileBundleInstance_filter_release (fun c => @Call.isRelease_of_changesRelease c),
        stage]
      exact applyRelease_changes r env _ _

def sampleCodec : Codec where
  marshal _ := .ok [1, 2]
  sum256 _ := List.replicate 32 7
  sum256_length _ := List.length_replicate _ _
  toUnstructured obj := .ok obj

def sampleInstance : BundleInstance := ⟨"inst-a", "", ⟨"pkg-a"⟩, ⟨[], ""⟩⟩

def sampleObject : Unstructured := ⟨"v1", "ConfigMap", ∅, "data"⟩

/-- Collaborators of a first install: the Bundle is unpacked and holds one object, and no
release exists yet. -/
def installEnv : Collaborators where
  getBundleInstance _ := .ok sampleInstance
  getBundle _ := .ok ⟨"pkg-a", ⟨phaseUnpacked⟩⟩
  getBundleForLoad _ := .ok ⟨"pkg-a", ⟨phaseUnpacked⟩⟩
  load _ := .ok [sampleObject]
  actionClientFor _ := .ok ()
  get _ := .error .releaseNotFound
  upgrade _ _ _ _ := .error (.other "unused")
  install name _ _ _ := .ok ⟨name, 1, "", ⟨.deployed⟩⟩
  reconcile _ := none
  watch _ := none
  patchStatus _ := none

theorem reconcile_release_calls (codec : Codec) (r : BundleInstanceReconciler)
    (env : Collaborators) (name : String) :
    let log := (reconcile codec r env name).log
    (log.filter Call.changesRelease).length ≤ 1 ∧
    (log.filter Call.isDryRun).length ≤ 1 ∧
    (∀ c ∈ log, c.changesRelease = true → ∃ bi objects templates,
      env.getBundleInstance name = .ok bi ∧ ReleaseReady codec r env bi objects templates) ∧
    ∀ bi objects templates, env.getBundleInstance name = .ok bi →
      ReleaseReady codec r env bi objects templates →
      log.filter Call.changesRelease =
        (dictatedCall env r.releaseNamespace bi.name ⟨templates⟩).toList := by
  have changing := fun c => @Call.isRelease_of_changesRelease c
  refine ⟨reconcile_filter_length_le changing name fun bi chrt => ?_,
    reconcile_filter_length_le (fun c => @Call.isRelease_of_isDryRun c) name (applyRelease_dryRuns r env),
    fun c member hit => ?_, fun bi objects templates read ready => ?_⟩
  · rw [applyRelease_changes]
    cases dictatedCall .. <;> simp
  · obtain ⟨bi, _, _, read, prepared, -⟩ := reconcile_reaches_release (changing c hit) member
    obtain ⟨objects, templates, ready, -⟩ := prepareRelease_ready prepared
    exact ⟨bi, objects, templates, read, ready⟩
  · rw [reconcile_filter_release changing, read]
    dsimp only
    rw [reconcileBundleInstance_filter_release changing, prepareRelease_of_ready ready]
    exact applyRelease_changes r env _ _

theorem reconcile_release_calls_install :
    (reconcile sampleCodec ⟨"ns", []⟩ installEnv "inst-a").log.filter Call.changesRelease =
      [.install "inst-a" "ns" ⟨[templateFile sampleCodec [1, 2]]⟩ false
        (.ok ⟨"inst-a", 1, "", ⟨.deployed⟩⟩)] := by
  have ready : ReleaseReady sampleCodec ⟨"ns", []⟩ installEnv sampleInstance [sampleObject]
      [templateFile sampleCodec [1, 2]] :=
    ⟨⟨_, rfl⟩, ⟨_, rfl, rfl, rfl⟩, rfl, rfl⟩
  rw [(reconcile_release_calls sampleCodec ⟨"ns", []⟩ installEnv "inst-a").2.2.2 _ _ _ rfl ready]
  rfl

/-- A call aimed at the release `name` in the namespace `ns`: the action client is obtained for
that namespace, and Get, Upgrade and Install name the release and place it there, Install
without creating the namespace. Reconcile acts on the release Get answered; no other call aims
at a release. -/
def Call.Targets (name ns : String) : Call → Prop
  | actionClientFor bi _ => bi.name = name ∧ bi.«namespace» = ns
  | get n _ => n = name
  | upgrade n ns' _ _ _ => n = name ∧ ns' = ns
  | install n ns' _ createNamespace _ => n = name ∧ ns' = ns ∧ createNamespace = false
  | _ => True

theorem applyRelease_targets (r : BundleInstanceReconciler) (env : Collaborators)
    (bi : BundleInstance) (chrt : Chart) :
    ∀ c ∈ (applyRelease r env bi chrt).log, c.Targets bi.name r.releaseNamespace := by
  rcases applyRelease_cases r env bi chrt with
    ⟨_, _, _, log, _⟩ | ⟨_, _, _, log, _⟩ | ⟨_, _, _, _, log, _⟩ | ⟨_, _, _, _, _, log, _⟩ |
      ⟨_, _, _, _, _, _, _, log, _⟩ <;>
    simp [log, Call.Targets]

theorem reconcileBundleInstance_targets (codec : Codec) (r : BundleInstanceReconciler)
    (env : Collaborators) (bi : BundleInstance) :
    ∀ c ∈ (reconcileBundleInstance codec r env bi).log, c.Targets bi.name r.releaseNamespace := by
  have prepared : ∀ c ∈ (prepareRelease codec r env bi).log, c.Targets bi.name r.releaseNamespace :=
    prepareRelease_log_all codec r env bi (fun _ => trivial)
      (loadBundle_log_all env bi (fun _ => trivial) fun _ _ => trivial) fun _ => ⟨rfl, rfl⟩
  rcases reconcileBundleInstance_cases codec r env bi with
    ⟨_, _, log, _⟩ | ⟨_, _, chrt, _, ready, _, log, _⟩ | ⟨_, objs, chrt, ready, _, log, _⟩ <;>
    intro c member <;> rw [log] at member
  · exact prepared c member
  all_goals
    obtain ⟨-, -, -, -, -, -, -, -, -, -, -, -, rfl, -⟩ := prepareRelease_eq_ok ready
    have released := applyRelease_targets r env { bi with «namespace» := "" } chrt
  · exact (List.mem_append.mp member).elim (prepared c) (released c)
  · rcases List.mem_append.mp member with member | member
    · exact (List.mem_append.mp member).elim (prepared c) (released c)
    · obtain ⟨gvk, result, rfl⟩ :=
        watchDesired_log codec env r.dynamicWatchGVKs objs c (by rwa [watchAndReport_log] at member)
      trivial

/-- Every call of a pass that read bi aims at bi's own release in the reconciler's release
namespace: the action client is obtained for that namespace, Get, Upgrade and Install name
the release after bi and place it there, and Install never creates the namespace. -/
theorem reconcile_release_targets (codec : Codec) (r : BundleInstanceReconciler)
    (env : Collaborators) {name : String} {bi : BundleInstance}
    (read : env.getBundleInstance name = .ok bi) :
    ∀ c ∈ (reconcile codec r env name).log, c.Targets bi.name r.releaseNamespace := by
  obtain ⟨log, -⟩ := reconcile_of_read read codec r
  rw [log]
  simp only [List.forall_mem_cons, List.forall_mem_append]
  exact ⟨trivial, reconcileBundleInstance_targets codec r env bi, trivial, List.forall_mem_nil _⟩

theorem reconcile_release_targets_install :
    installEnv.getBundleInstance "inst-a" = .ok sampleInstance ∧
    ∀ c ∈ (reconcile sampleCodec ⟨"ns", []⟩ installEnv "inst-a").log, c.Targets "inst-a" "ns" :=
  ⟨rfl, reconcile_release_targets sampleCodec ⟨"ns", []⟩ installEnv rfl⟩

end Rukpak.Plain
