import Rukpak.Plain.DynamicWatch

/-! The controller's lifetime: passes one after another over any BundleInstances, sharing the
reconciler's dynamicWatchGVKs. Only the watch loop changes it, and only by adding the kind of a
Watch that succeeded; so from the empty map SetupWithManager leaves, a Watch succeeds at most
once for each kind, and the map holds exactly the kinds whose Watch succeeded. No pass changes
the release namespace, so every release call of the lifetime stays in the one it started with. -/
namespace Rukpak.Plain

/-- What a computation did to a set of watched kinds: after holds exactly the kinds of before
and those of its successful Watch calls, each of which was for a kind missing from before and
succeeded once. -/
structure Registered (before after : List GroupVersionKind) (log : List Call) : Prop where
  holds : ∀ gvk, gvk ∈ after ↔ gvk ∈ before ∨ Call.watch gvk none ∈ log
  fresh : ∀ gvk, Call.watch gvk none ∈ log → gvk ∉ before
  once : ∀ gvk, log.countP (Call.watchSucceeded gvk) ≤ 1

namespace Registered

variable {before middle after : List GroupVersionKind} {log log' : List Call}

theorem quiet (silent : ∀ c ∈ log, ∀ gvk, c.watchSucceeded gvk = false) :
    Registered before before log :=
  have zero : ∀ gvk, log.countP (Call.watchSucceeded gvk) = 0 := fun gvk =>
    List.countP_eq_zero.mpr fun c member hit => by simp [silent c member gvk] at hit
  have absent : ∀ gvk, Call.watch gvk none ∉ log := fun gvk member => by
    simpa [zero gvk] using mem_iff_countP_pos.mp member
  ⟨fun gvk => by simp [absent gvk], fun gvk member => absurd member (absent gvk),
    fun gvk => by simp [zero gvk]⟩

theorem append (first : Registered before middle log) (second : Registered middle after log') :
    Registered before after (log ++ log') where
  holds gvk := by rw [second.holds, first.holds, List.mem_append, or_assoc]
  fresh gvk member := by
    rcases List.mem_append.mp member with member | member
    · exact first.fresh gvk member
    · exact fun old => second.fresh gvk member ((first.holds gvk).mpr (.inl old))
  once gvk := by
    rw [List.countP_append]
    by_cases earlier : Call.watch gvk none ∈ log
    · have later : log'.countP (Call.watchSucceeded gvk) = 0 := by
        by_contra again
        exact second.fresh gvk (mem_iff_countP_pos.mpr (Nat.pos_of_ne_zero again))
          ((first.holds gvk).mpr (.inr earlier))
      have := first.once gvk
      omega
    · have := second.once gvk
      have zero : log.countP (Call.watchSucceeded gvk) = 0 :=
        Nat.eq_zero_of_not_pos fun pos => earlier (mem_iff_countP_pos.mpr pos)
      omega

theorem watched {before : List GroupVersionKind} {gvk : GroupVersionKind}
    (absent : gvk ∉ before) : Registered before (before.insert gvk) [.watch gvk none] where
  holds g := by simp [List.mem_insert_iff, or_comm]
  fresh g member := by
    obtain rfl : g = gvk := by simpa using member
    exact absent
  once g := by
    simp only [List.countP_cons, List.countP_nil]
    split <;> omega

end Registered

/-- The watch loop run alone adds to the kinds exactly those whose Watch succeeded. -/
theorem watchDesired_registered (codec : Codec) (env : Collaborators)
    (watched : List GroupVersionKind) (objs : List Unstructured) :
    Registered watched (watchDesired codec env watched objs).value.1
      (watchDesired codec env watched objs).log := by
  induction watched, objs using watchDesired.induct codec env with
  | case1 => exact .quiet (by simp [watchDesired, pure])
  | case2 watched obj rest err converted =>
    rw [watchDesired_unconverted converted]
    exact .quiet (by simp)
  | case3 watched obj rest u converted present ih => rwa [watchDesired_present converted present]
  | case4 watched obj rest u converted absent ih =>
    cases answered : env.watch u.groupVersionKind with
    | some err =>
      rw [watchDesired_watch_failed converted absent answered]
      exact .quiet (by simp [Call.watchSucceeded])
    | none =>
      rw [watchDesired_watched converted absent answered]
      exact (Registered.watched absent).append ih

theorem Call.watchSucceeded_of_isRelease {c : Call} (release : c.isRelease = true)
    (gvk : GroupVersionKind) : c.watchSucceeded gvk = false := by
  cases c <;> simp_all [Call.isRelease, Call.watchSucceeded]

theorem prepareRelease_reconciler {codec : Codec} {r : BundleInstanceReconciler}
    {env : Collaborators} {bi : BundleInstance} {out : Outcome}
    (stopped : (prepareRelease codec r env bi).value = .error out) : out.reconciler = r := by
  rcases prepareRelease_cases codec r env bi with
    ⟨_, _, _, value⟩ | ⟨_, _, _, _, _, value⟩ | ⟨_, _, _, _, _, value⟩ |
      ⟨_, _, _, _, _, _, _, value⟩ | ⟨_, _, _, _, _, _, _, _, _, value⟩ |
      ⟨_, _, _, _, _, _, _, _, value⟩ <;>
    simp only [value, reduceCtorEq, Except.error.injEq] at stopped <;> subst stopped <;> rfl

theorem applyRelease_reconciler {r : BundleInstanceReconciler} {env : Collaborators}
    {bi : BundleInstance} {chrt : Chart} {out : Outcome}
    (stopped : (applyRelease r env bi chrt).value = some out) : out.reconciler = r := by
  rcases applyRelease_cases r env bi chrt with
    ⟨_, _, _, _, value⟩ | ⟨_, _, _, _, value⟩ | ⟨_, _, _, _, _, value⟩ |
      ⟨_, _, _, _, _, _, value⟩ | ⟨_, _, _, _, _, _, _, _, value⟩ <;>
    rw [value] at stopped <;> (try split at stopped) <;>
    first
    | (cases stopped; rfl)
    | simp at stopped

/-- A pass changes dynamicWatchGVKs only in its watch loop, by the kinds whose Watch
succeeded. -/
theorem reconcile_registered (codec : Codec) (r : BundleInstanceReconciler)
    (env : Collaborators) (name : String) :
    let run := reconcile codec r env name
    Registered r.dynamicWatchGVKs run.value.1.dynamicWatchGVKs run.log ∧
      run.value.1.releaseNamespace = r.releaseNamespace := by
  cases read : env.getBundleInstance name with
  | error err =>
    rw [reconcile_of_read_error read]
    exact ⟨.quiet (by simp [Call.watchSucceeded]), rfl⟩
  | ok bi =>
    obtain ⟨log, value⟩ := reconcile_of_read read codec r
    dsimp only
    rw [log, value, ← List.singleton_append]
    have prepared : ∀ c ∈ (prepareRelease codec r env bi).log, ∀ gvk,
        c.watchSucceeded gvk = false :=
      prepareRelease_log_all codec r env bi (fun _ _ => rfl)
        (loadBundle_log_all env bi (fun _ _ => rfl) fun _ _ _ => rfl) fun _ _ => rfl
    have released : ∀ bi' chrt, ∀ c ∈ (prepareRelease codec r env bi).log ++
        (applyRelease r env bi' chrt).log, ∀ gvk, c.watchSucceeded gvk = false :=
      fun bi' chrt c member => (List.mem_append.mp member).elim (prepared c) fun member =>
        Call.watchSucceeded_of_isRelease (applyRelease_log_release r env bi' chrt c member)
    have around : ∀ {after} {body : List Call} {written : BundleInstance} {patched : Option Error},
        Registered r.dynamicWatchGVKs after body → Registered r.dynamicWatchGVKs after
          ([.getBundleInstance name (.ok bi)] ++ (body ++ [.patchStatus written patched])) :=
      fun inner =>
      (Registered.quiet (by simp [Call.watchSucceeded])).append
        (inner.append (.quiet (by simp [Call.watchSucceeded])))
    rcases reconcileBundleInstance_cases codec r env bi with
      ⟨out, stopped, body, result⟩ | ⟨bi', objs, chrt, out, -, stopped, body, result⟩ |
        ⟨bi', objs, chrt, -, -, body, result⟩ <;>
      rw [body, result]
    · rw [prepareRelease_reconciler stopped]
      exact ⟨around (.quiet prepared), rfl⟩
    · rw [applyRelease_reconciler stopped]
      exact ⟨around (.quiet (released bi' chrt)), rfl⟩
    · have loop := watchDesired_registered codec env r.dynamicWatchGVKs objs
      rw [watchAndReport_value, watchAndReport_log]
      refine ⟨around (.append (.quiet (released bi' chrt)) ?_), ?_⟩ <;>
        split <;> first | exact loop | rfl

/-- The controller's passes one after another, one for each trigger (the name of a
BundleInstance and what the collaborators answer in that pass), each starting from the
reconciler the previous pass left. -/
def lifetime (codec : Codec) (r : BundleInstanceReconciler) :
    List (String × Collaborators) → Logged BundleInstanceReconciler
  | [] => pure r
  | (name, env) :: triggers => do
    let (r', _) ← reconcile codec r env name
    lifetime codec r' triggers

theorem lifetime_registered (codec : Codec) (triggers : List (String × Collaborators)) :
    ∀ r : BundleInstanceReconciler,
      Registered r.dynamicWatchGVKs (lifetime codec r triggers).value.dynamicWatchGVKs
        (lifetime codec r triggers).log ∧
      (lifetime codec r triggers).value.releaseNamespace = r.releaseNamespace := by
  induction triggers with
  | nil => exact fun r => ⟨.quiet (by simp [lifetime, pure]), rfl⟩
  | cons trigger triggers ih =>
    obtain ⟨name, env⟩ := trigger
    intro r
    obtain ⟨pass, kept⟩ := reconcile_registered codec r env name
    obtain ⟨later, keptLater⟩ := ih (reconcile codec r env name).value.1
    simp only [lifetime, Logged.log_bind, Logged.value_bind]
    exact ⟨pass.append later, keptLater.trans kept⟩

/-- Over the controller's lifetime, from the empty dynamicWatchGVKs SetupWithManager leaves and
through passes over any BundleInstances, whatever each collaborator answers and wherever each
pass stops: a Watch succeeds at most once for each kind, dynamicWatchGVKs holds exactly the
kinds whose Watch succeeded, and the release namespace never changes. -/
theorem lifetime_watches_once (codec : Codec) (releaseNamespace : String)
    (triggers : List (String × Collaborators)) :
    let run := lifetime codec ⟨releaseNamespace, []⟩ triggers
    (∀ gvk, run.log.countP (Call.watchSucceeded gvk) ≤ 1) ∧
    (∀ gvk, gvk ∈ run.value.dynamicWatchGVKs ↔ Call.watch gvk none ∈ run.log) ∧
    run.value.releaseNamespace = releaseNamespace := by
  obtain ⟨registered, kept⟩ := lifetime_registered codec triggers ⟨releaseNamespace, []⟩
  exact ⟨registered.once, fun gvk => by simpa using registered.holds gvk, kept⟩

/-- Over the controller's lifetime, through passes over any BundleInstances and whatever each
collaborator answers, every call aims at some release in the release namespace the controller
started with: the action client is only ever obtained for that namespace, Get, Upgrade and
Install only ever place a release there, and Install never creates a namespace. -/
theorem lifetime_release_namespace (codec : Codec) (triggers : List (String × Collaborators)) :
    ∀ r : BundleInstanceReconciler, ∀ c ∈ (lifetime codec r triggers).log,
      ∃ name, c.Targets name r.releaseNamespace := by
  induction triggers with
  | nil => simp [lifetime, pure]
  | cons trigger triggers ih =>
    obtain ⟨name, env⟩ := trigger
    intro r
    simp only [lifetime, Logged.log_bind, List.forall_mem_append]
    refine ⟨fun c member => ?_, (reconcile_registered codec r env name).2 ▸ ih _⟩
    cases read : env.getBundleInstance name with
    | error err =>
      rw [reconcile_of_read_error read, List.mem_singleton] at member
      exact ⟨name, member ▸ trivial⟩
    | ok bi =>
      obtain ⟨log, -⟩ := reconcile_of_read read codec r
      rw [log, List.mem_cons, List.mem_append, List.mem_singleton] at member
      rcases member with rfl | member | rfl
      · exact ⟨bi.name, trivial⟩
      · exact ⟨bi.name, reconcileBundleInstance_targets codec r env bi c member⟩
      · exact ⟨bi.name, trivial⟩

def firstInstall : Call :=
  .install "inst-a" "ns" ⟨[templateFile sampleCodec [1, 2]]⟩ false (.ok ⟨"inst-a", 1, "", ⟨.deployed⟩⟩)

theorem lifetime_release_namespace_install :
    firstInstall ∈ (lifetime sampleCodec ⟨"ns", []⟩ [("inst-a", installEnv)]).log ∧
    ∃ name, firstInstall.Targets name "ns" :=
  have member : firstInstall ∈ (lifetime sampleCodec ⟨"ns", []⟩ [("inst-a", installEnv)]).log :=
    List.getElem?_mem (n := 6) rfl
  ⟨member, lifetime_release_namespace sampleCodec _ ⟨"ns", []⟩ firstInstall member⟩

end Rukpak.Plain
