import Runbook.Proofs.Run.Unrolled
/-!
# Faults a step raises on its own

Two faults belong to dispatching a step rather than to any rule: nesting beyond the limit
and a kind with no rule. The rules of the steps never raise either: their faults are bad
parameters, unknown operators, provider failures and file errors. This is what lets a
run's error say which check refused the failing step.

`Work.Raises P w` says that every fault `w` can end with satisfies `P`. It is closed under
`pure`, binds and state updates, and holds of provider calls, parameter reads and the
condition evaluator for the own faults; `leafStep_own` puts these together for every rule.
-/

namespace Runbook

open Json Params

/-- Whether a fault is raised by dispatching a step, before any rule of the step runs. -/
def Fault.isDispatch : Fault → Bool
  | .unhandled _ | .tooDeep .. => true
  | _ => false

/-- The faults a step's own rule may raise: all but those of dispatching. -/
def Fault.IsOwn (f : Fault) : Prop := f.isDispatch = false

namespace Condition

theorem parse_not_dispatch {o : Option Value} {f : Fault} (h : Operator.parse o = .error f) :
    f.isDispatch = false := by
  unfold Operator.parse at h
  split at h
  · cases h
  · cases h
  · simp only at h
    split at h
    · cases h
    · split at h
      · cases h
      · cases h
        rfl
  · cases h
    rfl

theorem map_error {α β : Type} {g : α → β} {x : Except Fault α} {f : Fault}
    (h : g <$> x = .error f) : x = .error f := by
  cases x <;> simp_all [Functor.map, Except.map]

/-- Evaluating a condition fails only with its own faults. -/
theorem evaluate_not_dispatch (fields : List (String × Value)) :
    ∀ f, evaluate fields = .error f → f.isDispatch = false := by
  -- the induction follows `evaluate`, `truth` and `truthAll` together
  refine evaluate.induct (fun fields => ∀ f, evaluate fields = .error f → f.isDispatch = false)
    (fun v i => ∀ f, truth v i = .error f → f.isDispatch = false)
    (fun vs i => ∀ f, truthAll vs i = .error f → f.isDispatch = false)
    ?_ ?_ ?_ ?_ ?_ ?_ ?_ ?_ ?_ ?_ ?_ fields
  · intro fields hitems hconds hcond f h
    rw [evaluate] at h
    simp only [bind, Except.bind] at h
    split at h
    · cases h
      exact parse_not_dispatch ‹_›
    · split at h
      · split at h
        · cases h
          exact hitems _ ‹_› _ ‹_›
        · cases h
      · split at h
        · cases h
          exact hconds _ ‹_› _ (map_error ‹_›)
        · cases h
      · split at h
        · split at h
          · cases h
            exact hcond _ ‹_› _ (map_error ‹_›)
          · cases h
        · cases h
          rfl
  · intro b i f h
    rw [truth] at h
    cases h
  · intro n i f h
    rw [truth] at h
    cases h
  · intro s i word hw f h
    simp only [word] at hw
    simp only [truth, hw, if_true] at h
    cases h
  · intro s i word hw hf f h
    simp only [word] at hw hf
    simp only [truth, hf, if_true] at h
    cases h
  · intro s i word hw hf f h
    simp only [word] at hw hf
    simp only [truth, hw, hf, if_false] at h
    cases h
    rfl
  · intro nested i hkey ih f h
    rw [truth, if_pos hkey] at h
    exact ih f h
  · intro nested i hkey f h
    rw [truth, if_neg hkey] at h
    cases h
    rfl
  · intro other i hb hn hs ho f h
    cases other with
    | bool b => exact absurd rfl (hb b)
    | number n => exact absurd rfl (hn n)
    | string s => exact absurd rfl (hs s)
    | object fs => exact absurd rfl (ho fs)
    | null =>
      simp only [truth] at h
      cases h
      rfl
    | array items =>
      simp only [truth] at h
      cases h
      rfl
  · intro i f h
    rw [truthAll] at h
    cases h
  · intro v rest i ihv ihrest f h
    rw [truthAll] at h
    simp only [bind, Except.bind] at h
    split at h
    · cases h
      exact ihv _ ‹_›
    · split at h
      · cases h
        exact ihrest _ ‹_›
      · cases h

end Condition

/-- Every fault a piece of work can end with, from any trail, satisfies `P`. -/
def Work.Raises {α : Type} (P : Fault → Prop) (w : Work α) : Prop :=
  ∀ t f t', w.onTrail t = (.error f, t') → P f

section Raises

variable {P : Fault → Prop}

theorem Work.raises_pure {α : Type} (a : α) : Work.Raises P (pure a) := by
  intro t f t' h
  cases h

theorem Work.raises_throw {α : Type} {f : Fault} (h : P f) : Work.Raises P (throw f : Work α) := by
  intro t f' t' h'
  cases h'
  exact h

theorem Work.raises_bind {α β : Type} {w : Work α} {k : α → Work β} (hw : Work.Raises P w)
    (hk : ∀ a, Work.Raises P (k a)) : Work.Raises P (w >>= k) := by
  intro t f t' h
  rw [Work.onTrail_bind] at h
  rcases hw' : w.onTrail t with ⟨_ | a, t₁⟩
  · rw [hw'] at h
    cases h
    exact hw t _ _ hw'
  · rw [hw'] at h
    exact hk a t₁ f t' h

theorem Work.raises_get : Work.Raises P (get : Work Desk) := by
  intro t f t' h
  cases h

theorem Work.raises_set (d : Desk) : Work.Raises P (set d : Work PUnit) := by
  intro t f t' h
  cases h

theorem Work.raises_modify (g : Desk → Desk) : Work.Raises P (modify g : Work PUnit) := by
  intro t f t' h
  cases h

/-- A provider call fails only as unavailable or failed. -/
theorem Bench.raises_work (bench : Bench) (e : Event) (hu : ∀ c r, P (.unavailable c r))
    (hf : ∀ c m, P (.failed c m)) : Work.Raises P (bench.work e) := by
  intro t f t' h
  simp only [Bench.work, Work.onTrail, ExceptT.run, ExceptT.mk, StateT.run, Bench.call] at h
  split at h
  · cases h
    exact hu _ _
  · split at h
    · cases h
      exact hf _ _
    · cases h

/-- A parameter read fails only as an invalid `payload`. -/
theorem raises_readParam {α : Type} (kind : StepKind) (params : Params) (key : String)
    (reader : Value → Except String (Option α)) (h : ∀ m, P (.invalidParameter kind "payload" m)) :
    Work.Raises P (readParam kind params key reader) := by
  unfold readParam
  split
  · exact Work.raises_pure _
  · exact Work.raises_throw (h _)

end Raises

section Own

variable (bench : Bench) (params : Params)

theorem Bench.work_own (e : Event) : Work.Raises Fault.IsOwn (bench.work e) :=
  bench.raises_work e (fun _ _ => rfl) (fun _ _ => rfl)

theorem Bench.ask_own {α : Type} (e : Event) (answer : Desk → α) :
    Work.Raises Fault.IsOwn (bench.ask e answer) :=
  Work.raises_bind Work.raises_get fun _ =>
    Work.raises_bind (bench.work_own e) fun _ => Work.raises_pure _

theorem readParam_own {α : Type} (kind : StepKind) (key : String)
    (reader : Value → Except String (Option α)) :
    Work.Raises Fault.IsOwn (readParam kind params key reader) :=
  raises_readParam kind params key reader fun _ => rfl

theorem required_own (kind : StepKind) (name : String) (s : Option String) :
    Work.Raises Fault.IsOwn (required kind name s) := by
  unfold required
  split
  · split
    · exact Work.raises_throw rfl
    · exact Work.raises_pure _
  · exact Work.raises_throw rfl

theorem coordinate_own (name : String) (v : Int) : Work.Raises Fault.IsOwn (coordinate name v) := by
  unfold coordinate
  split
  · exact Work.raises_pure _
  · exact Work.raises_throw rfl

end Own

/-- A step's own work never raises the faults of dispatching a step. -/
theorem leafStep_own (bench : Bench) (settings : Settings) (kind : StepKind) (params : Params) :
    Work.Raises Fault.IsOwn (leafStep bench settings kind params) := by
  cases kind <;> simp only [leafStep, clickStep, inputStep, screenshotStep, fileCopyStep,
    excelWriteStep, conditionStep, waitStep, notifyStep, loopCount]
  -- each rule is built by binds, matches and join points from parameter reads, provider
  -- calls, state updates and faults it names itself; matching stays reducible so that no
  -- rule's data is unfolded
  all_goals repeat' first
    | with_reducible exact Work.raises_pure _
    | with_reducible exact bench.work_own _
    | with_reducible exact bench.ask_own _ _
    | with_reducible exact readParam_own _ _ _ _
    | with_reducible exact required_own _ _ _
    | with_reducible exact coordinate_own _ _
    | with_reducible exact Work.raises_get
    | with_reducible exact Work.raises_set _
    | with_reducible exact Work.raises_modify _
    | with_reducible refine Work.raises_bind ?_ fun _ => ?_
    | with_reducible refine Work.raises_throw ?_
    | rfl
    | exact Condition.evaluate_not_dispatch _ _ ‹_›
    | split

end Runbook
