import Rukpak.Plain.DynamicWatch

/-! Progress of the concurrent watch loops. Every step of a pass brings its loop closer to
returning, so every interleaving takes at most six steps per desired object and one per pass;
and no reachable state deadlocks: the holder of dynamicWatchMutex can always take its next
step, and while the mutex is free so can every pass whose loop has not returned. Together, under
a round-robin scheduler every loop has returned within one round more than that bound. -/
namespace Rukpak.Plain

/-- The most steps the loop of a pass standing at pc can still take. -/
def WatchPc.remaining : WatchPc → Nat
  | .next objs => 6 * objs.length + 1
  | .lock _ rest => 6 * rest.length + 6
  | .check _ rest => 6 * rest.length + 5
  | .watch _ rest => 6 * rest.length + 4
  | .insert _ rest => 6 * rest.length + 3
  | .unlock none rest => 6 * rest.length + 2
  | .unlock (some _) _ => 1
  | .done _ => 0

def remainingBelow (pcs : Nat → WatchPc) : Nat → Nat
  | 0 => 0
  | n + 1 => remainingBelow pcs n + (pcs n).remaining

/-- The steps a run takes: a scheduled pass that cannot step takes none. -/
def watchSteps (codec : Codec) (w : WatchState) : List (Nat × Option Error) → Nat
  | [] => 0
  | (i, answer) :: schedule =>
    match watchStep codec w i answer with
    | some w' => watchSteps codec w' schedule + 1
    | none => watchSteps codec w schedule

theorem remainingBelow_congr {pcs pcs' : Nat → WatchPc} :
    ∀ {n}, (∀ j, j < n → pcs' j = pcs j) → remainingBelow pcs' n = remainingBelow pcs n
  | 0, _ => rfl
  | n + 1, same => by
    simp only [remainingBelow, same n (Nat.lt_succ_self n),
      remainingBelow_congr fun j below => same j (Nat.lt_succ_of_lt below)]

theorem remainingBelow_update (pcs : Nat → WatchPc) (pc : WatchPc) :
    ∀ {i n}, i < n → remainingBelow (Function.update pcs i pc) n + (pcs i).remaining =
      remainingBelow pcs n + pc.remaining
  | _, 0, inside => absurd inside (Nat.not_lt_zero _)
  | i, n + 1, inside => by
    simp only [remainingBelow]
    rcases Nat.lt_succ_iff_lt_or_eq.mp inside with below | rfl
    · have earlier := remainingBelow_update pcs pc below
      rw [Function.update_noteq (Nat.ne_of_gt below)]
      omega
    · rw [Function.update_same, remainingBelow_congr fun j below =>
        Function.update_noteq (Nat.ne_of_lt below) _ _]
      omega

/-- Six steps per desired object and one per pass. -/
def stepBound : List (List Unstructured) → Nat
  | [] => 0
  | objs :: loops => 6 * objs.length + 1 + stepBound loops

theorem stepBound_append (loops loops' : List (List Unstructured)) :
    stepBound (loops ++ loops') = stepBound loops + stepBound loops' := by
  induction loops with
  | nil => simp [stepBound]
  | cons objs loops ih => simp [stepBound, ih, Nat.add_assoc]

theorem remainingBelow_init (loops : List (List Unstructured)) (n : Nat) :
    remainingBelow (WatchState.init loops).pcs n = stepBound (loops.take n) := by
  induction n with
  | zero => simp [remainingBelow, stepBound]
  | succ n ih =>
    rw [remainingBelow, ih, List.take_succ, stepBound_append]
    simp only [WatchState.init]
    cases loops[n]? <;> simp [WatchPc.remaining, stepBound]

theorem init_idle (loops : List (List Unstructured)) :
    ∀ j, loops.length ≤ j → ((WatchState.init loops).pcs j).remaining = 0 := fun j outside => by
  simp [WatchState.init, List.getElem?_eq_none outside, WatchPc.remaining]

theorem watchStep_remaining {codec : Codec} {w w' : WatchState} {i : Nat}
    {answer : Option Error} (stepped : watchStep codec w i answer = some w') :
    ∃ pc, w'.pcs = Function.update w.pcs i pc ∧ pc.remaining < (w.pcs i).remaining := by
  rcases watchStep_cases stepped with
    ⟨at_pc, rfl⟩ | ⟨_, _, _, at_pc, -, rfl⟩ | ⟨_, _, _, at_pc, -, rfl⟩ | ⟨_, _, at_pc, -, rfl⟩ |
      ⟨_, _, at_pc, -, rfl⟩ | ⟨_, _, at_pc, -, rfl⟩ | ⟨_, _, _, at_pc, -, rfl⟩ |
      ⟨_, _, at_pc, -, rfl⟩ | ⟨_, _, at_pc, rfl⟩ | ⟨_, _, at_pc, rfl⟩ | ⟨_, at_pc, rfl⟩ <;>
    exact ⟨_, rfl, by simp only [at_pc, WatchPc.remaining, List.length_cons]; omega⟩

theorem watchStep_idle {codec : Codec} {w w' : WatchState} {i n : Nat} {answer : Option Error}
    (stepped : watchStep codec w i answer = some w')
    (idle : ∀ j, n ≤ j → (w.pcs j).remaining = 0) :
    i < n ∧ ∀ j, n ≤ j → (w'.pcs j).remaining = 0 := by
  obtain ⟨pc, moved, fewer⟩ := watchStep_remaining stepped
  have inside : i < n := Nat.lt_of_not_le fun outside => by
    rw [idle i outside] at fewer
    exact Nat.not_lt_zero _ fewer
  refine ⟨inside, fun j outside => ?_⟩
  rw [moved, Function.update_noteq (by omega)]
  exact idle j outside

theorem watchRun_idle (codec : Codec) {n : Nat} (schedule : List (Nat × Option Error)) :
    ∀ w : WatchState, (∀ j, n ≤ j → (w.pcs j).remaining = 0) →
      ∀ j, n ≤ j → ((watchRun codec w schedule).pcs j).remaining = 0 := fun _ idle =>
  watchRun_preserves (fun w => ∀ j, n ≤ j → (w.pcs j).remaining = 0)
    (fun _ _ _ _ idle stepped => (watchStep_idle stepped idle).2) schedule idle

theorem watchSteps_add_remaining (codec : Codec) {n : Nat} (schedule : List (Nat × Option Error)) :
    ∀ w : WatchState, (∀ j, n ≤ j → (w.pcs j).remaining = 0) →
      watchSteps codec w schedule + remainingBelow (watchRun codec w schedule).pcs n ≤
        remainingBelow w.pcs n := by
  induction schedule with
  | nil => intro w _; simp [watchSteps, watchRun]
  | cons entry schedule ih =>
    obtain ⟨i, answer⟩ := entry
    intro w idle
    cases stepped : watchStep codec w i answer with
    | none => simpa [watchSteps, watchRun, stepped] using ih w idle
    | some w' =>
      obtain ⟨pc, moved, fewer⟩ := watchStep_remaining stepped
      obtain ⟨inside, idle'⟩ := watchStep_idle stepped idle
      have later := ih w' idle'
      have shift := remainingBelow_update w.pcs pc inside
      rw [← moved] at shift
      simp only [watchSteps, watchRun, stepped, Option.getD_some]
      omega

/-- Every interleaving of the watch loops of the passes over `loops` takes at most six steps
per desired object and one per pass, whatever the scheduler picks and whatever Watch answers:
the loops always return. -/
theorem watchSteps_le (codec : Codec) (loops : List (List Unstructured))
    (schedule : List (Nat × Option Error)) :
    watchSteps codec (WatchState.init loops) schedule ≤ stepBound loops := by
  have bound := watchSteps_add_remaining codec schedule _ (init_idle loops)
  rw [remainingBelow_init, List.take_length] at bound
  omega

/-- A pass between Lock and Unlock can always step, and so can a pass at the head of its loop
or waiting for a free mutex. -/
theorem watchStep_isSome {codec : Codec} {w : WatchState} {i : Nat} (answer : Option Error)
    (ready : (w.pcs i).critical = true ∨
      w.dynamicWatchMutex = none ∧ ∀ result, w.pcs i ≠ .done result) :
    (watchStep codec w i answer).isSome := by
  unfold watchStep
  cases at_pc : w.pcs i with
  | next objs =>
    cases objs with
    | nil => rfl
    | cons obj rest => simp only; split <;> rfl
  | lock gvk rest =>
    obtain ⟨free, -⟩ := ready.resolve_left (by simp [at_pc, WatchPc.critical])
    simp [free]
  | done result => simp [at_pc, WatchPc.critical] at ready
  | _ => rfl

/-- In every state a run of the watch loops reaches, the pass holding dynamicWatchMutex can take
its next step, and while the mutex is free every pass whose loop has not returned can, whatever
Watch answers: no interleaving deadlocks. -/
theorem watchRun_deadlock_free (codec : Codec) (loops : List (List Unstructured))
    (schedule : List (Nat × Option Error)) :
    let w := watchRun codec (WatchState.init loops) schedule
    (∀ i, w.dynamicWatchMutex = some i → ∀ answer, (watchStep codec w i answer).isSome) ∧
    (w.dynamicWatchMutex = none → ∀ i, (∀ result, w.pcs i ≠ .done result) →
      ∀ answer, (watchStep codec w i answer).isSome) := by
  have inv := (WatchState.init_inv codec loops).run schedule
  dsimp only
  generalize watchRun codec (WatchState.init loops) schedule = w at inv ⊢
  exact ⟨fun i held answer => watchStep_isSome answer (.inl ((inv.exclusive i).mpr held)),
    fun free i running answer => watchStep_isSome answer (.inr ⟨free, running⟩)⟩

/-- One round of a round-robin scheduler: passes 0 to n - 1 each offered one step, in order,
with what Watch answers each. -/
def round (n : Nat) (answer : Nat → Option Error) : List (Nat × Option Error) :=
  (List.range n).map fun i => (i, answer i)

/-- k rounds one after another; answer k i is what Watch answers pass i in round k. -/
def roundRobin (n : Nat) (answer : Nat → Nat → Option Error) : Nat → List (Nat × Option Error)
  | 0 => []
  | k + 1 => roundRobin n answer k ++ round n (answer k)

theorem watchRun_append (codec : Codec) (schedule later : List (Nat × Option Error)) :
    ∀ w, watchRun codec w (schedule ++ later) = watchRun codec (watchRun codec w schedule) later := by
  induction schedule with
  | nil => exact fun _ => rfl
  | cons entry schedule ih => exact fun w => ih _

theorem watchSteps_eq_zero {codec : Codec} {w : WatchState} {schedule : List (Nat × Option Error)}
    (zero : watchSteps codec w schedule = 0) : ∀ e ∈ schedule, watchStep codec w e.1 e.2 = none := by
  induction schedule with
  | nil => simp
  | cons entry schedule ih =>
    obtain ⟨i, answer⟩ := entry
    cases stepped : watchStep codec w i answer with
    | some w' => simp [watchSteps, stepped] at zero
    | none =>
      simp only [watchSteps, stepped] at zero
      simpa [stepped] using ih zero

theorem WatchPc.remaining_eq_zero {pc : WatchPc} : pc.remaining = 0 ↔ ∃ result, pc = .done result := by
  rcases pc with _ | _ | _ | _ | _ | ⟨_ | _, _⟩ | _ <;> simp [WatchPc.remaining]

theorem WatchPc.remaining_pos_of_critical {pc : WatchPc} (critical : pc.critical = true) :
    0 < pc.remaining := by
  rcases pc with _ | _ | _ | _ | _ | ⟨_ | _, _⟩ | _ <;>
    simp_all [WatchPc.critical, WatchPc.remaining]

theorem remainingBelow_eq_zero_iff {pcs : Nat → WatchPc} :
    ∀ {n}, remainingBelow pcs n = 0 ↔ ∀ j, j < n → (pcs j).remaining = 0
  | 0 => by simp [remainingBelow]
  | n + 1 => by
    rw [remainingBelow, Nat.add_eq_zero, remainingBelow_eq_zero_iff]
    constructor
    · rintro ⟨below, last⟩ j lt
      rcases Nat.lt_succ_iff_lt_or_eq.mp lt with lt | rfl
      · exact below j lt
      · exact last
    · exact fun all => ⟨fun j lt => all j (Nat.lt_succ_of_lt lt), all n (Nat.lt_succ_self n)⟩

theorem round_steps_pos {codec : Codec} {loops : List (List Unstructured)} {w : WatchState}
    (inv : w.Inv codec loops) {n : Nat} (idle : ∀ j, n ≤ j → (w.pcs j).remaining = 0)
    (busy : remainingBelow w.pcs n ≠ 0) (answer : Nat → Option Error) :
    0 < watchSteps codec w (round n answer) := by
  refine Nat.pos_of_ne_zero fun zero => ?_
  have blocked : ∀ i, i < n → watchStep codec w i (answer i) = none := fun i below =>
    watchSteps_eq_zero zero (i, answer i) (List.mem_map.mpr ⟨i, List.mem_range.mpr below, rfl⟩)
  cases held : w.dynamicWatchMutex with
  | some h =>
    have critical := (inv.exclusive h).mpr held
    have inside : h < n := Nat.lt_of_not_le fun outside =>
      absurd (idle h outside) (Nat.pos_iff_ne_zero.mp (WatchPc.remaining_pos_of_critical critical))
    have steps : (watchStep codec w h (answer h)).isSome := watchStep_isSome (answer h) (.inl critical)
    simp [blocked h inside] at steps
  | none =>
    obtain ⟨i, below, running⟩ : ∃ i, i < n ∧ (w.pcs i).remaining ≠ 0 := by
      by_contra stopped
      push_neg at stopped
      exact busy (remainingBelow_eq_zero_iff.mpr stopped)
    have notDone : ∀ result, w.pcs i ≠ .done result := fun result at_done =>
      running (WatchPc.remaining_eq_zero.mpr ⟨result, at_done⟩)
    have steps : (watchStep codec w i (answer i)).isSome :=
      watchStep_isSome (answer i) (.inr ⟨held, notDone⟩)
    simp [blocked i below] at steps

theorem roundRobin_remaining (codec : Codec) (loops : List (List Unstructured))
    (answer : Nat → Nat → Option Error) (k : Nat) :
    let w := watchRun codec (WatchState.init loops) (roundRobin loops.length answer k)
    remainingBelow w.pcs loops.length = 0 ∨ remainingBelow w.pcs loops.length + k ≤ stepBound loops := by
  induction k with
  | zero =>
    refine .inr ?_
    simp only [roundRobin, watchRun, remainingBelow_init, List.take_length, Nat.add_zero, le_refl]
  | succ k ih =>
    dsimp only at ih ⊢
    rw [roundRobin, watchRun_append]
    have inv := (WatchState.init_inv codec loops).run (roundRobin loops.length answer k)
    have idle := watchRun_idle codec (roundRobin loops.length answer k) _ (init_idle loops)
    generalize watchRun codec (WatchState.init loops) (roundRobin loops.length answer k) = w
      at ih inv idle ⊢
    have bound := watchSteps_add_remaining codec (round loops.length (answer k)) w idle
    by_cases busy : remainingBelow w.pcs loops.length = 0
    · exact .inl (by omega)
    · have moved := round_steps_pos inv idle busy (answer k)
      exact .inr (by omega)

/-- Under a round-robin scheduler that offers every pass a step in turn, the watch loops of all
passes have returned after one round more than the step bound, whatever Watch answers in each
round: fair interleavings of the concurrent watch loops always finish. -/
theorem roundRobin_all_done (codec : Codec) (loops : List (List Unstructured))
    (answer : Nat → Nat → Option Error) :
    ∀ i, ∃ result, (watchRun codec (WatchState.init loops)
      (roundRobin loops.length answer (stepBound loops + 1))).pcs i = .done result := by
  have finished : remainingBelow (watchRun codec (WatchState.init loops)
      (roundRobin loops.length answer (stepBound loops + 1))).pcs loops.length = 0 := by
    have := roundRobin_remaining codec loops answer (stepBound loops + 1)
    omega
  intro i
  apply WatchPc.remaining_eq_zero.mp
  by_cases below : i < loops.length
  · exact remainingBelow_eq_zero_iff.mp finished i below
  · exact watchRun_idle codec _ _ (init_idle loops) i (Nat.le_of_not_lt below)

end Rukpak.Plain
