import Rukpak.Plain.ReleaseCalls

/-! The dynamic watch loops of concurrent passes. Every pass walks its own desired objects;
for each it converts the object, takes dynamicWatchMutex, looks the object's kind up in
dynamicWatchGVKs, calls Controller.Watch when the kind is missing, records the kind when the
Watch succeeded, and releases the mutex. Each of these is one step, and any pass may take the
next step at any time, so a run is any interleaving of the passes' steps. Over every run the
mutex excludes, Watch is only called for a kind that is not yet recorded and never again after
a Watch for it succeeded, at most one Watch per kind succeeds, and outside the lock the recorded
kinds are exactly the successfully watched ones. -/
namespace Rukpak.Plain

/-- Where the watch loop of one pass stands: at the head of the loop with the objects left,
at one of the steps for the kind of the current object with the objects after it, or
returned. -/
inductive WatchPc where
  | next (objs : List Unstructured)
  | lock (gvk : GroupVersionKind) (rest : List Unstructured)
  | check (gvk : GroupVersionKind) (rest : List Unstructured)
  | watch (gvk : GroupVersionKind) (rest : List Unstructured)
  | insert (gvk : GroupVersionKind) (rest : List Unstructured)
  | unlock (result : Option Error) (rest : List Unstructured)
  | done (result : Option Error)

def WatchPc.critical : WatchPc → Bool
  | check .. | watch .. | insert .. | unlock .. => true
  | next .. | lock .. | done .. => false

/-- The passes' watch loops and the reconciler's shared state: the pass holding
dynamicWatchMutex, dynamicWatchGVKs, and every Watch call made so far with its answer. -/
@[ext] structure WatchState where
  pcs : Nat → WatchPc
  dynamicWatchMutex : Option Nat
  dynamicWatchGVKs : List GroupVersionKind
  watchCalls : List Call

namespace WatchState

/-- The passes start their loops over `loops` with an empty dynamicWatchGVKs, as
SetupWithManager leaves it. -/
def init (loops : List (List Unstructured)) : WatchState where
  pcs i := match loops[i]? with
    | some objs => .next objs
    | none => .done none
  dynamicWatchMutex := none
  dynamicWatchGVKs := []
  watchCalls := []

def move (w : WatchState) (i : Nat) (pc : WatchPc) : WatchState :=
  { w with pcs := Function.update w.pcs i pc }

@[simp] theorem move_pcs (w : WatchState) (i : Nat) (pc : WatchPc) :
    (w.move i pc).pcs = Function.update w.pcs i pc := rfl
@[simp] theorem move_dynamicWatchMutex (w : WatchState) (i : Nat) (pc : WatchPc) :
    (w.move i pc).dynamicWatchMutex = w.dynamicWatchMutex := rfl
@[simp] theorem move_dynamicWatchGVKs (w : WatchState) (i : Nat) (pc : WatchPc) :
    (w.move i pc).dynamicWatchGVKs = w.dynamicWatchGVKs := rfl
@[simp] theorem move_watchCalls (w : WatchState) (i : Nat) (pc : WatchPc) :
    (w.move i pc).watchCalls = w.watchCalls := rfl

end WatchState

/-- One step of pass i; `answer` is what Controller.Watch answers when the step is a Watch
call. A pass waiting for the mutex, or returned, cannot step. -/
def watchStep (codec : Codec) (w : WatchState) (i : Nat) (answer : Option Error) :
    Option WatchState :=
  match w.pcs i with
  | .next [] => some (w.move i (.done none))
  | .next (obj :: rest) =>
    match codec.toUnstructured obj with
    | .error err => some (w.move i (.done (some err)))
    | .ok u => some (w.move i (.lock u.groupVersionKind rest))
  | .lock gvk rest =>
    if w.dynamicWatchMutex = none then
      some { w.move i (.check gvk rest) with dynamicWatchMutex := some i }
    else none
  | .check gvk rest =>
    some (w.move i (if gvk ∈ w.dynamicWatchGVKs then .unlock none rest else .watch gvk rest))
  | .watch gvk rest =>
    some { w.move i (match answer with
        | some err => .unlock (some err) rest
        | none => .insert gvk rest) with
      watchCalls := w.watchCalls ++ [.watch gvk answer] }
  | .insert gvk rest =>
    some { w.move i (.unlock none rest) with
      dynamicWatchGVKs := w.dynamicWatchGVKs.insert gvk }
  | .unlock result rest =>
    some { w.move i (match result with
        | some err => .done (some err)
        | none => .next rest) with
      dynamicWatchMutex := none }
  | .done _ => none

/-- A run: the scheduled pass takes its step with the scheduled Watch answer, and a pass
that cannot step leaves the state as it is. -/
def watchRun (codec : Codec) (w : WatchState) : List (Nat × Option Error) → WatchState
  | [] => w
  | (i, answer) :: schedule => watchRun codec ((watchStep codec w i answer).getD w) schedule

/-- What every step keeps, every run keeps. -/
theorem watchRun_preserves (P : WatchState → Prop) {codec : Codec}
    (step : ∀ w w' i answer, P w → watchStep codec w i answer = some w' → P w')
    (schedule : List (Nat × Option Error)) {w : WatchState} (start : P w) :
    P (watchRun codec w schedule) := by
  induction schedule generalizing w with
  | nil => exact start
  | cons entry schedule ih =>
    obtain ⟨i, answer⟩ := entry
    cases stepped : watchStep codec w i answer with
    | none => simpa [watchRun, stepped] using ih start
    | some w' => simpa [watchRun, stepped] using ih (step w w' i answer start stepped)

theorem watchStep_cases {codec : Codec} {w w' : WatchState} {i : Nat} {answer : Option Error}
    (stepped : watchStep codec w i answer = some w') :
    (w.pcs i = .next [] ∧ w' = w.move i (.done none)) ∨
    (∃ obj rest err, w.pcs i = .next (obj :: rest) ∧ codec.toUnstructured obj = .error err ∧
      w' = w.move i (.done (some err))) ∨
    (∃ obj rest u, w.pcs i = .next (obj :: rest) ∧ codec.toUnstructured obj = .ok u ∧
      w' = w.move i (.lock u.groupVersionKind rest)) ∨
    (∃ gvk rest, w.pcs i = .lock gvk rest ∧ w.dynamicWatchMutex = none ∧
      w' = { w.move i (.check gvk rest) with dynamicWatchMutex := some i }) ∨
    (∃ gvk rest, w.pcs i = .check gvk rest ∧ gvk ∈ w.dynamicWatchGVKs ∧
      w' = w.move i (.unlock none rest)) ∨
    (∃ gvk rest, w.pcs i = .check gvk rest ∧ gvk ∉ w.dynamicWatchGVKs ∧
      w' = w.move i (.watch gvk rest)) ∨
    (∃ gvk rest err, w.pcs i = .watch gvk rest ∧ answer = some err ∧
      w' = { w.move i (.unlock (some err) rest) with
        watchCalls := w.watchCalls ++ [.watch gvk (some err)] }) ∨
    (∃ gvk rest, w.pcs i = .watch gvk rest ∧ answer = none ∧
      w' = { w.move i (.insert gvk rest) with watchCalls := w.watchCalls ++ [.watch gvk none] }) ∨
    (∃ gvk rest, w.pcs i = .insert gvk rest ∧
      w' = { w.move i (.unlock none rest) with
        dynamicWatchGVKs := w.dynamicWatchGVKs.insert gvk }) ∨
    (∃ err rest, w.pcs i = .unlock (some err) rest ∧
      w' = { w.move i (.done (some err)) with dynamicWatchMutex := none }) ∨
    (∃ rest, w.pcs i = .unlock none rest ∧
      w' = { w.move i (.next rest) with dynamicWatchMutex := none }) := by
  unfold watchStep at stepped
  split at stepped
  · rename_i at_next
    exact .inl ⟨at_next, (Option.some.inj stepped).symm⟩
  · rename_i obj rest at_next
    split at stepped
    · rename_i err converted
      exact .inr (.inl ⟨obj, rest, err, at_next, converted, (Option.some.inj stepped).symm⟩)
    · rename_i u converted
      exact .inr (.inr (.inl ⟨obj, rest, u, at_next, converted, (Option.some.inj stepped).symm⟩))
  · rename_i gvk rest at_lock
    split at stepped
    · rename_i free
      exact .inr (.inr (.inr (.inl ⟨gvk, rest, at_lock, free, (Option.some.inj stepped).symm⟩)))
    · cases stepped
  · rename_i gvk rest at_check
    refine .inr (.inr (.inr (.inr ?_)))
    by_cases present : gvk ∈ w.dynamicWatchGVKs
    · exact .inl ⟨gvk, rest, at_check, present, by simpa [present] using stepped.symm⟩
    · exact .inr (.inl ⟨gvk, rest, at_check, present, by simpa [present] using stepped.symm⟩)
  · rename_i gvk rest at_watch
    refine .inr (.inr (.inr (.inr (.inr (.inr ?_)))))
    cases answer with
    | some err => exact .inl ⟨gvk, rest, err, at_watch, rfl, (Option.some.inj stepped).symm⟩
    | none => exact .inr (.inl ⟨gvk, rest, at_watch, rfl, (Option.some.inj stepped).symm⟩)
  · rename_i gvk rest at_insert
    exact .inr (.inr (.inr (.inr (.inr (.inr (.inr (.inr (.inl
      ⟨gvk, rest, at_insert, (Option.some.inj stepped).symm⟩))))))))
  · rename_i result rest at_unlock
    refine .inr (.inr (.inr (.inr (.inr (.inr (.inr (.inr (.inr ?_))))))))
    cases result with
    | some err => exact .inl ⟨err, rest, at_unlock, (Option.some.inj stepped).symm⟩
    | none => exact .inr ⟨rest, at_unlock, (Option.some.inj stepped).symm⟩
  · cases stepped

def Call.watchSucceeded (gvk : GroupVersionKind) : Call → Bool
  | .watch g none => decide (g = gvk)
  | _ => false

@[simp] theorem Call.watchSucceeded_eq_true {gvk : GroupVersionKind} {c : Call} :
    c.watchSucceeded gvk = true ↔ c = .watch gvk none := by
  rcases c with _ | _ | _ | _ | _ | _ | _ | _ | ⟨g, _ | _⟩ | _ <;> simp [Call.watchSucceeded]

def Watched (codec : Codec) (watched : List GroupVersionKind) (objs : List Unstructured) :
    Prop :=
  ∀ obj ∈ objs, ∃ u, codec.toUnstructured obj = .ok u ∧ u.groupVersionKind ∈ watched

/-- What the loop of a pass over objs has achieved when it stands at pc: the objects it has
been through have their kinds in watched, and the current object converted to the kind the
step is about. -/
def Progress (codec : Codec) (objs : List Unstructured) (watched : List GroupVersionKind) :
    WatchPc → Prop
  | .next rest | .unlock none rest => ∃ pre, objs = pre ++ rest ∧ Watched codec watched pre
  | .lock gvk rest | .check gvk rest | .watch gvk rest | .insert gvk rest =>
    ∃ pre obj u, objs = pre ++ obj :: rest ∧ Watched codec watched pre ∧
      codec.toUnstructured obj = .ok u ∧ u.groupVersionKind = gvk
  | .done none => Watched codec watched objs
  | .unlock (some _) _ | .done (some _) => True

theorem Watched.mono {codec : Codec} {watched watched' : List GroupVersionKind}
    {objs : List Unstructured} (seen : Watched codec watched objs)
    (grown : ∀ gvk ∈ watched, gvk ∈ watched') : Watched codec watched' objs := fun obj member =>
  let ⟨u, converted, present⟩ := seen obj member
  ⟨u, converted, grown _ present⟩

theorem Progress.mono {codec : Codec} {objs : List Unstructured}
    {watched watched' : List GroupVersionKind} {pc : WatchPc}
    (progress : Progress codec objs watched pc) (grown : ∀ gvk ∈ watched, gvk ∈ watched') :
    Progress codec objs watched' pc := by
  rcases pc with _ | _ | _ | _ | _ | ⟨_ | _, _⟩ | _ | _ <;> simp only [Progress] at progress ⊢
  all_goals first
    | trivial
    | exact progress.mono grown
    | (obtain ⟨pre, split, seen⟩ := progress; exact ⟨pre, split, seen.mono grown⟩)
    | (obtain ⟨pre, obj, u, split, seen, rest⟩ := progress
       exact ⟨pre, obj, u, split, seen.mono grown, rest⟩)

/-- The invariant of every run of the watch loops over `loops`. -/
structure WatchState.Inv (codec : Codec) (loops : List (List Unstructured)) (w : WatchState) :
    Prop where
  exclusive : ∀ i, (w.pcs i).critical = true ↔ w.dynamicWatchMutex = some i
  unwatched : ∀ i gvk rest, w.pcs i = .watch gvk rest ∨ w.pcs i = .insert gvk rest →
    gvk ∉ w.dynamicWatchGVKs
  once : ∀ gvk, w.watchCalls.countP (Call.watchSucceeded gvk) ≤ 1
  succeeded : ∀ gvk, Call.watch gvk none ∈ w.watchCalls ↔
    gvk ∈ w.dynamicWatchGVKs ∨ ∃ i rest, w.pcs i = .insert gvk rest
  progress : ∀ i objs, loops[i]? = some objs →
    Progress codec objs w.dynamicWatchGVKs (w.pcs i)

theorem WatchState.init_inv (codec : Codec) (loops : List (List Unstructured)) :
    (WatchState.init loops).Inv codec loops := by
  refine ⟨fun i => ?_, fun i gvk rest => ?_, fun _ => by simp [WatchState.init], fun gvk => ?_,
    fun i objs listed => ?_⟩ <;> simp only [WatchState.init]
  · split <;> simp [WatchPc.critical]
  · split <;> simp
  · simp only [List.not_mem_nil, false_or, false_iff, not_exists]
    intro i rest
    split <;> simp
  · simp [listed, Progress, Watched]

section Step

variable {codec : Codec} {loops : List (List Unstructured)} {w : WatchState} {i : Nat}

theorem exclusive_update {pcs : Nat → WatchPc} {m m' : Option Nat} {pc : WatchPc}
    (excl : ∀ j, (pcs j).critical = true ↔ m = some j)
    (self : pc.critical = true ↔ m' = some i) (others : ∀ j, j ≠ i → (m = some j ↔ m' = some j)) :
    ∀ j, (Function.update pcs i pc j).critical = true ↔ m' = some j := by
  intro j
  by_cases same : j = i
  · subst same
    simpa using self
  · rw [Function.update_noteq same, excl j]
    exact others j same

theorem pending_update_iff {pcs : Nat → WatchPc} {pc : WatchPc} {gvk : GroupVersionKind} :
    (∃ j rest, Function.update pcs i pc j = .insert gvk rest) ↔
      (∃ rest, pc = .insert gvk rest) ∨ ∃ j rest, j ≠ i ∧ pcs j = .insert gvk rest := by
  constructor
  · rintro ⟨j, rest, at_insert⟩
    by_cases same : j = i
    · subst same
      exact .inl ⟨rest, by simpa using at_insert⟩
    · exact .inr ⟨j, rest, same, by simpa [Function.update_noteq same] using at_insert⟩
  · rintro (⟨rest, rfl⟩ | ⟨j, rest, other, at_insert⟩)
    · exact ⟨i, rest, by simp⟩
    · exact ⟨j, rest, by simp [Function.update_noteq other, at_insert]⟩

theorem pending_iff_split (w : WatchState) (i : Nat) (gvk : GroupVersionKind) :
    (∃ j rest, w.pcs j = .insert gvk rest) ↔
      (∃ rest, w.pcs i = .insert gvk rest) ∨ ∃ j rest, j ≠ i ∧ w.pcs j = .insert gvk rest := by
  rw [← pending_update_iff, Function.update_eq_self]

theorem mem_iff_countP_pos {calls : List Call} {gvk : GroupVersionKind} :
    Call.watch gvk none ∈ calls ↔ 0 < calls.countP (Call.watchSucceeded gvk) := by
  simp [List.countP_pos_iff]

namespace WatchState.Inv

theorem holder (inv : w.Inv codec loops) {j : Nat} (critical : (w.pcs i).critical = true)
    (other : (w.pcs j).critical = true) : j = i := by
  have held := (inv.exclusive i).mp critical
  rw [inv.exclusive j, held] at other
  exact (Option.some.inj other).symm

theorem no_other_pending (inv : w.Inv codec loops) (critical : (w.pcs i).critical = true)
    (gvk : GroupVersionKind) : ¬∃ j rest, j ≠ i ∧ w.pcs j = .insert gvk rest := by
  rintro ⟨j, rest, other, at_insert⟩
  exact other (inv.holder critical (by simp [at_insert, WatchPc.critical]))

theorem update (inv : w.Inv codec loops) {pc : WatchPc} {mutex : Option Nat} {calls : List Call}
    (self : pc.critical = true ↔ mutex = some i)
    (others : ∀ j, j ≠ i → (w.dynamicWatchMutex = some j ↔ mutex = some j))
    (sameCalls : ∀ gvk, calls.countP (Call.watchSucceeded gvk) =
      w.watchCalls.countP (Call.watchSucceeded gvk))
    (fresh : ∀ gvk rest, pc ≠ .insert gvk rest) (stale : ∀ gvk rest, w.pcs i ≠ .insert gvk rest)
    (unwatched : ∀ gvk rest, pc = .watch gvk rest → gvk ∉ w.dynamicWatchGVKs)
    (progress : ∀ objs, loops[i]? = some objs → Progress codec objs w.dynamicWatchGVKs pc) :
    { w.move i pc with dynamicWatchMutex := mutex, watchCalls := calls }.Inv codec loops := by
  refine ⟨exclusive_update inv.exclusive self others, fun j gvk rest at_pc => ?_,
    fun gvk => sameCalls gvk ▸ inv.once gvk, fun gvk => ?_, fun j objs listed => ?_⟩
  · by_cases same : j = i
    · subst same
      simp only [move_pcs, Function.update_same] at at_pc
      rcases at_pc with at_pc | at_pc
      · exact unwatched gvk rest at_pc
      · exact absurd at_pc (fresh gvk rest)
    · simp only [move_pcs, Function.update_noteq same] at at_pc
      exact inv.unwatched j gvk rest at_pc
  · have member : Call.watch gvk none ∈ calls ↔ Call.watch gvk none ∈ w.watchCalls := by
      rw [mem_iff_countP_pos, mem_iff_countP_pos, sameCalls gvk]
    rw [member, inv.succeeded gvk]
    simp only [move_pcs, move_dynamicWatchGVKs, pending_update_iff, pending_iff_split w i gvk]
    simp [fresh, stale]
  · by_cases same : j = i
    · subst same
      simpa using progress objs listed
    · simpa [Function.update_noteq same] using inv.progress j objs listed

theorem moved (inv : w.Inv codec loops) {pc : WatchPc} (side : pc.critical = (w.pcs i).critical)
    (fresh : ∀ gvk rest, pc ≠ .insert gvk rest) (stale : ∀ gvk rest, w.pcs i ≠ .insert gvk rest)
    (unwatched : ∀ gvk rest, pc = .watch gvk rest → gvk ∉ w.dynamicWatchGVKs)
    (progress : ∀ objs, loops[i]? = some objs → Progress codec objs w.dynamicWatchGVKs pc) :
    (w.move i pc).Inv codec loops :=
  inv.update (side ▸ inv.exclusive i) (fun _ _ => Iff.rfl) (fun _ => rfl) fresh stale unwatched
    progress

theorem pending_iff_self (inv : w.Inv codec loops) (critical : (w.pcs i).critical = true)
    (gvk : GroupVersionKind) :
    (∃ j rest, w.pcs j = .insert gvk rest) ↔ ∃ rest, w.pcs i = .insert gvk rest := by
  rw [pending_iff_split w i gvk]
  exact or_iff_left (inv.no_other_pending critical gvk)

theorem pending_update_of_critical (inv : w.Inv codec loops) (critical : (w.pcs i).critical = true)
    (pc : WatchPc) (gvk : GroupVersionKind) :
    (∃ j rest, Function.update w.pcs i pc j = .insert gvk rest) ↔ ∃ rest, pc = .insert gvk rest := by
  rw [pending_update_iff]
  exact or_iff_left (inv.no_other_pending critical gvk)

theorem watched (inv : w.Inv codec loops) {gvk : GroupVersionKind} {rest : List Unstructured}
    (at_watch : w.pcs i = .watch gvk rest) :
    { w.move i (.insert gvk rest) with
      watchCalls := w.watchCalls ++ [Call.watch gvk none] }.Inv codec loops := by
  have critical : (w.pcs i).critical = true := by simp [at_watch, WatchPc.critical]
  have absent := inv.unwatched i gvk rest (.inl at_watch)
  have old : ∀ g, Call.watch g none ∈ w.watchCalls ↔ g ∈ w.dynamicWatchGVKs := fun g => by
    rw [inv.succeeded g, inv.pending_iff_self critical g, at_watch]
    simp
  have self : (WatchPc.insert gvk rest).critical = true ↔ w.dynamicWatchMutex = some i := by
    simpa [at_watch, WatchPc.critical] using inv.exclusive i
  refine ⟨exclusive_update inv.exclusive self (fun _ _ => Iff.rfl),
    fun j g later at_pc => ?_, fun g => ?_, fun g => ?_, fun j objs listed => ?_⟩
  · by_cases same : j = i
    · subst same
      simp only [move_pcs, Function.update_same, reduceCtorEq, WatchPc.insert.injEq,
        false_or] at at_pc
      exact at_pc.1 ▸ absent
    · simp only [move_pcs, Function.update_noteq same] at at_pc
      exact inv.unwatched j g later at_pc
  · by_cases same : g = gvk
    · subst same
      have none : w.watchCalls.countP (Call.watchSucceeded g) = 0 :=
        List.countP_eq_zero.mpr fun c member hit => by
          rw [Call.watchSucceeded_eq_true.mp hit, old] at member
          exact absent member
      simp [List.countP_append, none, Call.watchSucceeded]
    · simpa [List.countP_append, Call.watchSucceeded, Ne.symm same] using inv.once g
  · simp only [move_pcs, move_dynamicWatchGVKs, List.mem_append, List.mem_singleton,
      Call.watch.injEq, and_true, old g, inv.pending_update_of_critical critical, WatchPc.insert.injEq,
      exists_and_left, exists_eq', and_true]
    exact or_congr_right eq_comm
  · by_cases same : j = i
    · subst same
      simpa [Progress, at_watch] using inv.progress j objs listed
    · simpa [Function.update_noteq same] using inv.progress j objs listed

theorem recorded (inv : w.Inv codec loops) {gvk : GroupVersionKind} {rest : List Unstructured}
    (at_insert : w.pcs i = .insert gvk rest) :
    { w.move i (.unlock none rest) with
      dynamicWatchGVKs := w.dynamicWatchGVKs.insert gvk }.Inv codec loops := by
  have critical : (w.pcs i).critical = true := by simp [at_insert, WatchPc.critical]
  have grown : ∀ g ∈ w.dynamicWatchGVKs, g ∈ w.dynamicWatchGVKs.insert gvk :=
    fun _ member => List.mem_insert_of_mem member
  have old : ∀ g, Call.watch g none ∈ w.watchCalls ↔ g ∈ w.dynamicWatchGVKs ∨ g = gvk :=
    fun g => by
      rw [inv.succeeded g, inv.pending_iff_self critical g, at_insert]
      simp [eq_comm]
  have self : (WatchPc.unlock none rest).critical = true ↔ w.dynamicWatchMutex = some i := by
    simpa [at_insert, WatchPc.critical] using inv.exclusive i
  refine ⟨exclusive_update inv.exclusive self (fun _ _ => Iff.rfl),
    fun j g later at_pc => ?_, inv.once, fun g => ?_, fun j objs listed => ?_⟩
  · by_cases same : j = i
    · subst same
      simp at at_pc
    · simp only [move_pcs, Function.update_noteq same] at at_pc
      exact absurd (inv.holder critical (by rcases at_pc with at_pc | at_pc <;>
        simp [at_pc, WatchPc.critical])) same
  · simp only [move_pcs, move_watchCalls, old g, inv.pending_update_of_critical critical,
      List.mem_insert_iff, reduceCtorEq, exists_false, or_false]
    exact or_comm
  · by_cases same : j = i
    · subst same
      have progress := inv.progress j objs listed
      rw [at_insert] at progress
      obtain ⟨pre, obj, u, split, seen, converted, named⟩ := progress
      simp only [move_pcs, Function.update_same, Progress]
      refine ⟨pre ++ [obj], by simp [split], fun o member => ?_⟩
      rcases List.mem_append.mp member with member | member
      · exact (seen.mono grown) o member
      · rw [List.mem_singleton.mp member]
        exact ⟨u, converted, named ▸ List.mem_insert_self _ _⟩
    · simpa [Function.update_noteq same] using (inv.progress j objs listed).mono grown

theorem step (inv : w.Inv codec loops) {answer : Option Error} {w' : WatchState}
    (stepped : watchStep codec w i answer = some w') : w'.Inv codec loops := by
  have progress := inv.progress i
  have self := inv.exclusive i
  rcases watchStep_cases stepped with
    ⟨at_pc, rfl⟩ | ⟨obj, rest, err, at_pc, -, rfl⟩ | ⟨obj, rest, u, at_pc, converted, rfl⟩ |
      ⟨gvk, rest, at_pc, free, rfl⟩ | ⟨gvk, rest, at_pc, present, rfl⟩ |
      ⟨gvk, rest, at_pc, absent, rfl⟩ | ⟨gvk, rest, err, at_pc, -, rfl⟩ |
      ⟨gvk, rest, at_pc, -, rfl⟩ | ⟨gvk, rest, at_pc, rfl⟩ | ⟨err, rest, at_pc, rfl⟩ |
      ⟨rest, at_pc, rfl⟩ <;>
    simp only [at_pc] at progress self
  · -- the loop ends
    refine inv.moved (by rw [at_pc]; rfl) (by simp) (by simp [at_pc]) (by simp)
      fun objs listed => ?_
    obtain ⟨pre, split, seen⟩ := progress objs listed
    simpa [Progress, split] using seen
  · -- the object does not convert
    exact inv.moved (by rw [at_pc]; rfl) (by simp) (by simp [at_pc]) (by simp) fun _ _ => trivial
  · -- the object converts
    refine inv.moved (by rw [at_pc]; rfl) (by simp) (by simp [at_pc]) (by simp)
      fun objs listed => ?_
    obtain ⟨pre, split, seen⟩ := progress objs listed
    exact ⟨pre, obj, u, split, seen, converted, rfl⟩
  · -- Lock
    exact inv.update (by simp [WatchPc.critical])
      (fun j other => by simp [free, Ne.symm other]) (fun _ => rfl) (by simp) (by simp [at_pc])
      (by simp) progress
  · -- the kind is watched already
    refine inv.moved (by rw [at_pc]; rfl) (by simp) (by simp [at_pc]) (by simp)
      fun objs listed => ?_
    obtain ⟨pre, obj, u, split, seen, converted, rfl⟩ := progress objs listed
    refine ⟨pre ++ [obj], by simp [split], fun o member => ?_⟩
    rcases List.mem_append.mp member with member | member
    · exact seen o member
    · exact ⟨u, List.mem_singleton.mp member ▸ converted, present⟩
  · -- the kind is missing: Watch is next
    exact inv.moved (by rw [at_pc]; rfl) (by simp) (by simp [at_pc]) (by simp [absent]) progress
  · -- Watch fails
    exact inv.update (by simpa [WatchPc.critical] using self) (fun _ _ => Iff.rfl)
      (fun _ => by simp [List.countP_append, Call.watchSucceeded]) (by simp) (by simp [at_pc])
      (by simp) fun _ _ => trivial
  · exact inv.watched at_pc
  · exact inv.recorded at_pc
  · -- Unlock after a failed Watch
    have held := self.mp rfl
    exact inv.update (by simp [WatchPc.critical])
      (fun j other => by simp [held, Ne.symm other]) (fun _ => rfl) (by simp) (by simp [at_pc])
      (by simp) fun _ _ => trivial
  · -- Unlock, and on to the next object
    have held := self.mp rfl
    exact inv.update (by simp [WatchPc.critical])
      (fun j other => by simp [held, Ne.symm other]) (fun _ => rfl) (by simp) (by simp [at_pc])
      (by simp) progress

end WatchState.Inv

end Step

theorem WatchState.Inv.run {codec : Codec} {loops : List (List Unstructured)} {w : WatchState}
    (inv : w.Inv codec loops) (schedule : List (Nat × Option Error)) :
    (watchRun codec w schedule).Inv codec loops :=
  watchRun_preserves (·.Inv codec loops) (fun _ _ _ _ inv stepped => inv.step stepped) schedule inv

theorem watchStep_mono {codec : Codec} {w w' : WatchState} {i : Nat} {answer : Option Error}
    (stepped : watchStep codec w i answer = some w') :
    ∀ gvk ∈ w.dynamicWatchGVKs, gvk ∈ w'.dynamicWatchGVKs := by
  intro gvk member
  rcases watchStep_cases stepped with
    ⟨-, rfl⟩ | ⟨-, -, -, -, -, rfl⟩ | ⟨-, -, -, -, -, rfl⟩ | ⟨-, -, -, -, rfl⟩ |
      ⟨-, -, -, -, rfl⟩ | ⟨-, -, -, -, rfl⟩ | ⟨-, -, -, -, -, rfl⟩ | ⟨-, -, -, -, rfl⟩ |
      ⟨-, -, -, rfl⟩ | ⟨-, -, -, rfl⟩ | ⟨-, -, rfl⟩
  all_goals first
    | exact member
    | exact List.mem_insert_of_mem member

theorem watchRun_mono (codec : Codec) (w : WatchState) (schedule : List (Nat × Option Error)) :
    ∀ gvk ∈ w.dynamicWatchGVKs, gvk ∈ (watchRun codec w schedule).dynamicWatchGVKs :=
  watchRun_preserves (fun w' => ∀ gvk ∈ w.dynamicWatchGVKs, gvk ∈ w'.dynamicWatchGVKs)
    (fun _ _ _ _ held stepped gvk member => watchStep_mono stepped gvk (held gvk member)) schedule
    fun _ member => member

/-- Over every interleaving of the watch loops of any number of passes, started on the empty
dynamicWatchGVKs that SetupWithManager leaves: at most one pass is between Lock and Unlock; a
pass about to call Watch for a kind finds it missing from dynamicWatchGVKs, and at most one
Watch call per kind succeeds; whenever no pass holds the mutex, dynamicWatchGVKs holds exactly
the kinds whose Watch succeeded, and no later step removes a kind; and a pass whose loop
returned nil has left the kind of each of its desired objects in dynamicWatchGVKs. -/
theorem watchRun_exactly_once (codec : Codec) (loops : List (List Unstructured))
    (schedule : List (Nat × Option Error)) :
    let w := watchRun codec (WatchState.init loops) schedule
    (∀ i j, (w.pcs i).critical = true → (w.pcs j).critical = true → i = j) ∧
    (∀ i gvk rest, w.pcs i = .watch gvk rest → gvk ∉ w.dynamicWatchGVKs) ∧
    (∀ gvk, w.watchCalls.countP (Call.watchSucceeded gvk) ≤ 1) ∧
    (w.dynamicWatchMutex = none →
      ∀ gvk, gvk ∈ w.dynamicWatchGVKs ↔ Call.watch gvk none ∈ w.watchCalls) ∧
    (∀ later, ∀ gvk ∈ w.dynamicWatchGVKs, gvk ∈ (watchRun codec w later).dynamicWatchGVKs) ∧
    (∀ i objs, loops[i]? = some objs → w.pcs i = .done none →
      ∀ obj ∈ objs, ∃ u, codec.toUnstructured obj = .ok u ∧
        u.groupVersionKind ∈ w.dynamicWatchGVKs) := by
  have inv := (WatchState.init_inv codec loops).run schedule
  dsimp only
  generalize watchRun codec (WatchState.init loops) schedule = w at inv ⊢
  refine ⟨fun i j critical other => (inv.holder critical other).symm,
    fun i gvk rest at_watch => inv.unwatched i gvk rest (.inl at_watch), inv.once,
    fun free gvk => ?_, fun later => watchRun_mono codec w later,
    fun i objs listed finished => ?_⟩
  · rw [inv.succeeded gvk, or_iff_left]
    rintro ⟨j, rest, at_insert⟩
    have held := (inv.exclusive j).mp (by simp [at_insert, WatchPc.critical])
    simp [free] at held
  · simpa [finished, Progress] using inv.progress i objs listed

/-- Every Watch call of `calls` comes before any successful Watch call for its kind. -/
def WatchesFresh (calls : List Call) : Prop :=
  ∀ pre gvk answer post, calls = pre ++ Call.watch gvk answer :: post → Call.watch gvk none ∉ pre

theorem WatchesFresh.append_watch {calls : List Call} (fresh : WatchesFresh calls)
    {gvk : GroupVersionKind} (answer : Option Error) (unwatched : Call.watch gvk none ∉ calls) :
    WatchesFresh (calls ++ [.watch gvk answer]) := by
  intro pre g a post split
  rcases List.eq_nil_or_concat post with rfl | ⟨post, last, rfl⟩
  · obtain ⟨rfl, same⟩ := List.append_inj' split rfl
    simp only [List.cons.injEq, Call.watch.injEq, and_true] at same
    rwa [← same.1]
  · rw [List.concat_eq_append, ← List.cons_append, ← List.append_assoc] at split
    exact fresh pre g a post (List.append_inj' split rfl).1

section Fresh

variable {codec : Codec} {loops : List (List Unstructured)} {w : WatchState}

theorem WatchState.Inv.not_watched_of_watch (inv : w.Inv codec loops) {i : Nat}
    {gvk : GroupVersionKind} {rest : List Unstructured} (at_watch : w.pcs i = .watch gvk rest) :
    Call.watch gvk none ∉ w.watchCalls := by
  have critical : (w.pcs i).critical = true := by simp [at_watch, WatchPc.critical]
  rw [inv.succeeded gvk, inv.pending_iff_self critical gvk, at_watch]
  simpa using inv.unwatched i gvk rest (.inl at_watch)

theorem WatchState.Inv.fresh_step (inv : w.Inv codec loops) (fresh : WatchesFresh w.watchCalls)
    {i : Nat} {answer : Option Error} {w' : WatchState}
    (stepped : watchStep codec w i answer = some w') : WatchesFresh w'.watchCalls := by
  rcases watchStep_cases stepped with
    ⟨-, rfl⟩ | ⟨-, -, -, -, -, rfl⟩ | ⟨-, -, -, -, -, rfl⟩ | ⟨-, -, -, -, rfl⟩ |
      ⟨-, -, -, -, rfl⟩ | ⟨-, -, -, -, rfl⟩ | ⟨gvk, rest, err, at_watch, -, rfl⟩ |
      ⟨gvk, rest, at_watch, -, rfl⟩ | ⟨-, -, -, rfl⟩ | ⟨-, -, -, rfl⟩ | ⟨-, -, rfl⟩
  all_goals first
    | exact fresh
    | exact fresh.append_watch _ (inv.not_watched_of_watch at_watch)

theorem WatchState.Inv.fresh_run (inv : w.Inv codec loops) (fresh : WatchesFresh w.watchCalls)
    (schedule : List (Nat × Option Error)) : WatchesFresh (watchRun codec w schedule).watchCalls :=
  (watchRun_preserves (fun w => w.Inv codec loops ∧ WatchesFresh w.watchCalls)
    (fun _ _ _ _ ⟨inv, fresh⟩ stepped => ⟨inv.step stepped, inv.fresh_step fresh stepped⟩)
    schedule ⟨inv, fresh⟩).2

end Fresh

/-- Over every interleaving of the watch loops of any number of passes, started on the empty
dynamicWatchGVKs that SetupWithManager leaves, no pass calls Controller.Watch for a kind after a
Watch call for that kind succeeded: a failed Watch may be made again by a later object or pass,
a successful one never is. -/
theorem watchRun_no_watch_after_success (codec : Codec) (loops : List (List Unstructured))
    (schedule : List (Nat × Option Error)) :
    ∀ pre gvk answer post, (watchRun codec (WatchState.init loops) schedule).watchCalls =
      pre ++ Call.watch gvk answer :: post → Call.watch gvk none ∉ pre :=
  (WatchState.init_inv codec loops).fresh_run (fun _ _ _ _ split => by simp [WatchState.init] at split) schedule

/-- A schedule in which pass 0's Watch fails and pass 1 then establishes the same kind. -/
def retrySchedule : List (Nat × Option Error) :=
  [(0, none), (0, none), (0, none), (0, some (.other "timeout")), (0, none)] ++
    List.replicate 7 (1, none)

theorem watchRun_no_watch_after_success_retry :
    (watchRun sampleCodec (WatchState.init [[sampleObject], [sampleObject]]) retrySchedule).watchCalls =
      [.watch sampleObject.groupVersionKind (some (.other "timeout"))] ++
        Call.watch sampleObject.groupVersionKind none :: [] ∧
    Call.watch sampleObject.groupVersionKind none ∉
      [Call.watch sampleObject.groupVersionKind (some (.other "timeout"))] :=
  have split : (watchRun sampleCodec (WatchState.init [[sampleObject], [sampleObject]])
      retrySchedule).watchCalls = [.watch sampleObject.groupVersionKind (some (.other "timeout"))] ++
        Call.watch sampleObject.groupVersionKind none :: [] := rfl
  ⟨split, watchRun_no_watch_after_success sampleCodec _ retrySchedule _ _ _ _ split⟩

def watchAnswer (env : Collaborators) : WatchPc → Option Error
  | .watch gvk _ => env.watch gvk
  | _ => none

/-- Pass i takes up to `fuel` steps with no other pass in between, Controller.Watch answering
as env does. -/
def runAlone (codec : Codec) (env : Collaborators) (i : Nat) : Nat → WatchState → WatchState
  | 0, w => w
  | fuel + 1, w =>
    match watchStep codec w i (watchAnswer env (w.pcs i)) with
    | some w' => runAlone codec env i fuel w'
    | none => w

section Alone

variable {codec : Codec} {env : Collaborators} {i fuel : Nat} {w : WatchState}

theorem runAlone_done (result : Option Error) (at_done : w.pcs i = .done result) :
    runAlone codec env i fuel w = w := by
  cases fuel <;> simp [runAlone, watchStep, at_done]

theorem runAlone_empty (at_next : w.pcs i = .next []) :
    runAlone codec env i (fuel + 1) w = w.move i (.done none) := by
  simp only [runAlone, watchAnswer, watchStep, at_next]
  exact runAlone_done none (by simp)

theorem runAlone_unconverted {obj : Unstructured} {rest : List Unstructured} {err : Error}
    (at_next : w.pcs i = .next (obj :: rest)) (converted : codec.toUnstructured obj = .error err) :
    runAlone codec env i (fuel + 1) w = w.move i (.done (some err)) := by
  simp only [runAlone, watchAnswer, watchStep, at_next, converted]
  exact runAlone_done (some err) (by simp)

theorem runAlone_present {obj u : Unstructured} {rest : List Unstructured}
    (at_next : w.pcs i = .next (obj :: rest)) (free : w.dynamicWatchMutex = none)
    (converted : codec.toUnstructured obj = .ok u)
    (present : u.groupVersionKind ∈ w.dynamicWatchGVKs) :
    runAlone codec env i (fuel + 4) w =
      runAlone codec env i fuel { w.move i (.next rest) with dynamicWatchMutex := none } := by
  simp only [runAlone, watchAnswer, watchStep, at_next, converted, free, present,
    WatchState.move_pcs, Function.update_same, WatchState.move_dynamicWatchMutex,
    WatchState.move_dynamicWatchGVKs, if_true]
  congr 1
  ext <;> simp

theorem runAlone_watch_failed {obj u : Unstructured} {rest : List Unstructured} {err : Error}
    (at_next : w.pcs i = .next (obj :: rest)) (free : w.dynamicWatchMutex = none)
    (converted : codec.toUnstructured obj = .ok u)
    (absent : u.groupVersionKind ∉ w.dynamicWatchGVKs)
    (failed : env.watch u.groupVersionKind = some err) :
    runAlone codec env i (fuel + 5) w =
      { w.move i (.done (some err)) with
        dynamicWatchMutex := none
        watchCalls := w.watchCalls ++ [.watch u.groupVersionKind (some err)] } := by
  simp only [runAlone, watchAnswer, watchStep, at_next, converted, free, absent, failed,
    WatchState.move_pcs, Function.update_same, WatchState.move_dynamicWatchMutex,
    WatchState.move_dynamicWatchGVKs, WatchState.move_watchCalls, if_true, if_false]
  rw [runAlone_done (some err) (by simp)]
  ext <;> simp

theorem runAlone_watched {obj u : Unstructured} {rest : List Unstructured}
    (at_next : w.pcs i = .next (obj :: rest)) (free : w.dynamicWatchMutex = none)
    (converted : codec.toUnstructured obj = .ok u)
    (absent : u.groupVersionKind ∉ w.dynamicWatchGVKs)
    (watched : env.watch u.groupVersionKind = none) :
    runAlone codec env i (fuel + 6) w =
      runAlone codec env i fuel { w.move i (.next rest) with
        dynamicWatchMutex := none
        dynamicWatchGVKs := w.dynamicWatchGVKs.insert u.groupVersionKind
        watchCalls := w.watchCalls ++ [.watch u.groupVersionKind none] } := by
  simp only [runAlone, watchAnswer, watchStep, at_next, converted, free, absent, watched,
    WatchState.move_pcs, Function.update_same, WatchState.move_dynamicWatchMutex,
    WatchState.move_dynamicWatchGVKs, WatchState.move_watchCalls, if_true, if_false]
  congr 1
  ext <;> simp

end Alone

/-- A pass whose loop runs with no other pass between its steps computes what the sequential
watchDesired computes: the same result, the same dynamicWatchGVKs and the same Watch calls,
and it releases the mutex and leaves the other passes where they were. -/
theorem runAlone_eq_watchDesired (codec : Codec) (env : Collaborators) (i : Nat) :
    ∀ (objs : List Unstructured) (w : WatchState) (fuel : Nat), w.pcs i = .next objs →
      w.dynamicWatchMutex = none → 6 * objs.length + 1 ≤ fuel →
      let run := watchDesired codec env w.dynamicWatchGVKs objs
      let alone := runAlone codec env i fuel w
      alone.pcs i = .done run.value.2 ∧ alone.dynamicWatchGVKs = run.value.1 ∧
        alone.watchCalls = w.watchCalls ++ run.log ∧ alone.dynamicWatchMutex = none ∧
        ∀ j, j ≠ i → alone.pcs j = w.pcs j := by
  intro objs
  induction objs with
  | nil =>
    intro w fuel at_next free enough
    obtain ⟨fuel, rfl⟩ : ∃ f, fuel = f + 1 := ⟨fuel - 1, by omega⟩
    rw [runAlone_empty at_next]
    exact ⟨by simp [watchDesired], by simp [watchDesired], by simp [watchDesired], free,
      fun j other => Function.update_noteq other _ _⟩
  | cons obj rest ih =>
    intro w fuel at_next free enough
    simp only [List.length_cons] at enough
    cases converted : codec.toUnstructured obj with
    | error err =>
      obtain ⟨fuel, rfl⟩ : ∃ f, fuel = f + 1 := ⟨fuel - 1, by omega⟩
      rw [runAlone_unconverted at_next converted]
      dsimp only
      rw [watchDesired_unconverted converted]
      exact ⟨by simp, rfl, by simp, free, fun j other => Function.update_noteq other _ _⟩
    | ok u =>
      by_cases present : u.groupVersionKind ∈ w.dynamicWatchGVKs
      · obtain ⟨fuel, rfl⟩ : ∃ f, fuel = f + 4 := ⟨fuel - 4, by omega⟩
        obtain ⟨finished, gvks, calls, released, others⟩ :=
          ih { w.move i (.next rest) with dynamicWatchMutex := none } fuel (by simp) rfl
            (by omega)
        rw [runAlone_present at_next free converted present]
        dsimp only
        rw [watchDesired_present converted present]
        exact ⟨finished, gvks, calls, released, fun j other =>
          (others j other).trans (Function.update_noteq other _ _)⟩
      · cases answered : env.watch u.groupVersionKind with
        | some err =>
          obtain ⟨fuel, rfl⟩ : ∃ f, fuel = f + 5 := ⟨fuel - 5, by omega⟩
          rw [runAlone_watch_failed at_next free converted present answered]
          dsimp only
          rw [watchDesired_watch_failed converted present answered]
          exact ⟨by simp, rfl, rfl, rfl, fun j other => Function.update_noteq other _ _⟩
        | none =>
          obtain ⟨fuel, rfl⟩ : ∃ f, fuel = f + 6 := ⟨fuel - 6, by omega⟩
          obtain ⟨finished, gvks, calls, released, others⟩ :=
            ih { w.move i (.next rest) with
                dynamicWatchMutex := none
                dynamicWatchGVKs := w.dynamicWatchGVKs.insert u.groupVersionKind
                watchCalls := w.watchCalls ++ [.watch u.groupVersionKind none] }
              fuel (by simp) rfl (by omega)
          rw [runAlone_watched at_next free converted present answered]
          dsimp only
          rw [watchDesired_watched converted present answered]
          exact ⟨finished, gvks, by simpa using calls, released, fun j other =>
            (others j other).trans (Function.update_noteq other _ _)⟩

theorem runAlone_eq_watchDesired_sample :
    let w := WatchState.init [[sampleObject]]
    w.pcs 0 = .next [sampleObject] ∧ w.dynamicWatchMutex = none ∧
    6 * [sampleObject].length + 1 ≤ 7 ∧
    let run := watchDesired sampleCodec installEnv w.dynamicWatchGVKs [sampleObject]
    let alone := runAlone sampleCodec installEnv 0 7 w
    alone.pcs 0 = .done run.value.2 ∧ alone.dynamicWatchGVKs = run.value.1 ∧
      alone.watchCalls = w.watchCalls ++ run.log ∧ alone.dynamicWatchMutex = none ∧
      ∀ j, j ≠ 0 → alone.pcs j = w.pcs j :=
  ⟨rfl, rfl, by decide,
    runAlone_eq_watchDesired sampleCodec installEnv 0 [sampleObject] _ 7 rfl rfl (by decide)⟩

end Rukpak.Plain
