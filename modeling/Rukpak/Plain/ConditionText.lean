import Rukpak.Plain.Run

/-! What the condition a pass upserts says. Its reason is one of the controller's fixed reasons
or the BundleUnpack reason of the phase Reconcile's read of the Bundle found, and whenever the
pass returns an error, its message is that error's text. So every reason the controller writes
passes metav1.Condition's validation of reasons as long as the Bundles report plain phases, and
over every run the server only ever holds conditions with valid reasons. -/
namespace Rukpak.Plain

def fixedReasons : List String :=
  [reasonBundleLookupFailed, reasonBundleLoadFailed, reasonReadingContentFailed,
    reasonInstallationSucceeded] ++ installFailureReasons

/-- What one stage decides about the condition c a pass upserts into the conditions of bi: its
reason is a fixed one, or the BundleUnpack reason of the phase Reconcile's read of the Bundle
found, and its message is the text of the error the pass returns, if any. -/
structure Upserts (env : Collaborators) (bi : BundleInstance) (out : Outcome) (c : Condition) :
    Prop where
  upserted : out.bi.status.conditions = setStatusCondition bi.status.conditions c
  reason : c.reason ∈ fixedReasons ∨
    ∃ b, env.getBundle bi.spec.bundleName = .ok b ∧ c.reason = bundleUnpackReason b.status.phase
  message : ∀ err, out.err = some err → c.message = err.error

theorem upserts_setCondition {env : Collaborators} (bi bi' : BundleInstance)
    (same : bi'.status = bi.status) (r : BundleInstanceReconciler) {c : Condition}
    {result : Option Error}
    (reason : c.reason ∈ fixedReasons ∨
      ∃ b, env.getBundle bi.spec.bundleName = .ok b ∧ c.reason = bundleUnpackReason b.status.phase)
    (message : ∀ err, result = some err → c.message = err.error) :
    Upserts env bi ⟨bi'.setCondition c, r, result⟩ c :=
  ⟨by rw [BundleInstance.setCondition_conditions, same], reason, message⟩

theorem prepareRelease_upserts {codec : Codec} {r : BundleInstanceReconciler}
    {env : Collaborators} {bi : BundleInstance} {out : Outcome}
    (stopped : (prepareRelease codec r env bi).value = .error out) : ∃ c, Upserts env bi out c := by
  rcases prepareRelease_cases codec r env bi with
    ⟨err, _, _, value⟩ | ⟨b, _, found, _, _, value⟩ | ⟨_, _, _, _, _, value⟩ |
      ⟨_, _, _, _, _, _, _, value⟩ | ⟨_, _, _, _, _, _, _, _, _, value⟩ |
      ⟨_, _, _, _, _, _, _, _, value⟩ <;>
    simp only [value, reduceCtorEq, Except.error.injEq] at stopped <;> subst stopped
  · -- the Bundle lookup failed: a NotFound error is swallowed, any other returned
    refine ⟨_, upserts_setCondition bi bi rfl r (.inl (by simp [fixedReasons])) fun e returned => ?_⟩
    rw [ignoreNotFound] at returned
    split at returned <;> cases returned
    rfl
  · exact ⟨_, upserts_setCondition bi bi rfl r (.inr ⟨b, found, rfl⟩) fun _ returned => by
      cases returned⟩
  all_goals first
    | exact ⟨_, upserts_setCondition bi bi rfl r (.inl (by simp [fixedReasons]))
        fun _ returned => by cases returned; rfl⟩
    | exact ⟨_, upserts_setCondition bi { bi with «namespace» := "" } rfl r
        (.inl (by simp [fixedReasons, installFailureReasons])) fun _ returned => by cases returned; rfl⟩

theorem applyRelease_upserts {r : BundleInstanceReconciler} {env : Collaborators}
    {bi : BundleInstance} {chrt : Chart} {out : Outcome}
    (stopped : (applyRelease r env bi chrt).value = some out) : ∃ c, Upserts env bi out c := by
  rcases applyRelease_cases r env bi chrt with
    ⟨_, _, _, _, value⟩ | ⟨_, _, _, _, value⟩ | ⟨_, _, _, _, _, value⟩ |
      ⟨_, _, _, _, _, _, value⟩ | ⟨_, _, _, _, _, _, _, _, value⟩ <;>
    rw [value] at stopped <;> (try split at stopped) <;> cases stopped <;>
    exact ⟨_, upserts_setCondition bi bi rfl r (.inl (by simp [fixedReasons, installFailureReasons]))
      fun _ returned => by cases returned; rfl⟩

theorem watchAndReport_upserts (codec : Codec) (r : BundleInstanceReconciler) (env : Collaborators)
    (bi : BundleInstance) (objs : List Unstructured) :
    ∃ c, Upserts env bi (watchAndReport codec r env bi objs).value c := by
  have fixed : ∀ reason ∈ [reasonCreateDynamicWatchFailed, reasonInstallationSucceeded],
      reason ∈ fixedReasons := by simp [fixedReasons, installFailureReasons]
  rw [watchAndReport_value]
  split
  · exact ⟨_, upserts_setCondition bi bi rfl _ (.inl (fixed _ (by simp))) fun _ returned => by
      cases returned; rfl⟩
  · exact ⟨_, rfl, .inl (fixed _ (by simp)), fun _ returned => by cases returned⟩

/-- A pass that read bi upserts one condition, with a fixed or a BundleUnpack reason, whose
message is the text of the error the pass returns. -/
theorem reconcileBundleInstance_upserts (codec : Codec) (r : BundleInstanceReconciler)
    (env : Collaborators) (bi : BundleInstance) :
    ∃ c, Upserts env bi (reconcileBundleInstance codec r env bi).value c := by
  rcases reconcileBundleInstance_cases codec r env bi with
    ⟨out, stopped, -, value⟩ | ⟨bi', objs, chrt, out, prepared, stopped, -, value⟩ |
      ⟨bi', objs, chrt, prepared, -, -, value⟩ <;> rw [value]
  · exact prepareRelease_upserts stopped
  all_goals obtain ⟨-, -, -, -, -, -, -, -, -, -, -, -, rfl, -⟩ := prepareRelease_eq_ok prepared
  · obtain ⟨c, upserts⟩ := applyRelease_upserts stopped
    exact ⟨c, upserts.upserted, upserts.reason, upserts.message⟩
  · obtain ⟨c, upserts⟩ := watchAndReport_upserts codec r env { bi with «namespace» := "" } objs
    exact ⟨c, upserts.upserted, upserts.reason, upserts.message⟩

/-- Whenever a pass that read its BundleInstance returns an error, the status it writes back
reports that error: the one condition it upserts carries the error's text as its message. -/
theorem reconcileBundleInstance_error_message (codec : Codec) (r : BundleInstanceReconciler)
    (env : Collaborators) (bi : BundleInstance) {err : Error}
    (failed : (reconcileBundleInstance codec r env bi).value.err = some err) :
    ∃ c, (reconcileBundleInstance codec r env bi).value.bi.status.conditions =
      setStatusCondition bi.status.conditions c ∧ c.message = err.error := by
  obtain ⟨c, upserts⟩ := reconcileBundleInstance_upserts codec r env bi
  exact ⟨c, upserts.upserted, upserts.message err failed⟩

theorem reconcileBundleInstance_error_message_refused :
    (reconcileBundleInstance sampleCodec ⟨"ns", []⟩ refusedEnv sampleInstance).value.err =
      some (.other "quota exceeded") ∧
    ∃ c, (reconcileBundleInstance sampleCodec ⟨"ns", []⟩ refusedEnv sampleInstance).value.bi.status.conditions =
      setStatusCondition sampleInstance.status.conditions c ∧ c.message = (Error.other "quota exceeded").error :=
  have failed : (reconcileBundleInstance sampleCodec ⟨"ns", []⟩ refusedEnv sampleInstance).value.err =
      some (.other "quota exceeded") := rfl
  ⟨failed, reconcileBundleInstance_error_message sampleCodec ⟨"ns", []⟩ refusedEnv sampleInstance failed⟩

def reasonChar (ch : Char) : Bool := ch.isAlphanum || ch == '_' || ch == ',' || ch == ':'

/-- metav1.Condition's validation of Reason, as the markers on the type state it: at most 1024
characters matching ^[A-Za-z]([A-Za-z0-9_,:]*[A-Za-z0-9_])?$. -/
def validReason (reason : String) : Bool :=
  match reason.toList with
  | [] => false
  | first :: rest => first.isAlpha && rest.all reasonChar &&
      (rest.getLast?.all fun last => last.isAlphanum || last == '_') && decide (reason.length ≤ 1024)

/-- A phase of letters, digits and underscores, short enough to follow BundleUnpack in a
reason. -/
def plainPhase (phase : String) : Bool :=
  (phase.toList.all fun ch => ch.isAlphanum || ch == '_') && decide (phase.length ≤ 1000)

theorem fixedReasons_valid : ∀ reason ∈ fixedReasons, validReason reason = true := by decide

theorem validReason_bundleUnpackReason {phase : String} (plain : plainPhase phase = true) :
    validReason (bundleUnpackReason phase) = true := by
  unfold bundleUnpackReason
  split
  · decide
  simp only [plainPhase, Bool.and_eq_true, List.all_eq_true, decide_eq_true_eq] at plain
  obtain ⟨chars, short⟩ := plain
  have split : ("BundleUnpack" ++ phase).toList = 'B' :: ("undleUnpack".toList ++ phase.toList) :=
    rfl
  have length : ("BundleUnpack" ++ phase).length = 12 + phase.length := String.length_append _ _
  have letters : ∀ ch ∈ phase.toList, reasonChar ch = true := fun ch member => by
    rw [reasonChar, chars ch member]
    rfl
  have last : Option.all (fun last => last.isAlphanum || last == '_')
      (phase.toList.getLast?.or "undleUnpack".toList.getLast?) = true := by
    cases ending : phase.toList.getLast? with
    | none => decide
    | some ch => exact chars ch (List.mem_of_getLast?_eq_some ending)
  have head : ('B'.isAlpha && "undleUnpack".toList.all reasonChar) = true := by decide
  simp only [validReason, split, length, List.all_append, List.getLast?_append,
    List.all_eq_true.mpr letters, last, decide_eq_true (by omega : 12 + phase.length ≤ 1024),
    Bool.and_true]
  exact head

theorem Upserts.validReason {env : Collaborators} {bi : BundleInstance} {out : Outcome}
    {c : Condition} (upserts : Upserts env bi out c)
    (plain : ∀ b, env.getBundle bi.spec.bundleName = .ok b → plainPhase b.status.phase = true) :
    validReason c.reason = true := by
  rcases upserts.reason with fixed | ⟨b, found, named⟩
  · exact fixedReasons_valid _ fixed
  · rw [named]
    exact validReason_bundleUnpackReason (plain b found)

end Rukpak.Plain
