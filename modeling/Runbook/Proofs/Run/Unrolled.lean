import Runbook.Run.Executor
/-!
# Running is making the unrolled visits in order

Unrolled, a run is a flat list of visits in pre-order: each step at its path, followed,
for a loop whose count reads as `c`, by the visits of its body in iterations `0` to
`c - 1`. `Runner.visit` is what one visit does on its own (its trace entry, the depth
check, the rule lookup and the step's own work), and `Runner.visitAll` makes visits in
order, stopping at the first that fails.

Main statements: `Runner.enter_unrolled` and `Runner.runRoots_unrolled`: entering a step
and running root steps do what making their unrolled visits does.
-/

namespace Runbook

open Json Params

/-- One visit of a run: a step, the path it is entered at and its loop iteration. -/
structure Visit where
  /-- The step entered. -/
  step : Step
  /-- Where it is entered. -/
  path : StepPath
  /-- The iteration of the enclosing loop, none at the top. -/
  iteration : Option Nat

/-- The trace entry of a visit. -/
def Visit.entry (v : Visit) : TraceEntry := TraceEntry.ofStep v.step v.path v.iteration

/-- The number of iterations a loop's parameters ask for; none when the count cannot be
read. -/
def loopIterations (params : Params) : Nat :=
  match lenientInt ((params.lookup "count").getD .null) with
  | .ok c => nonNegative c
  | .error _ => 0

mutual

/-- The visits of entering a step at a path, in the order they are made. -/
def Step.visits : Step → StepPath → Option Nat → List Visit
  | s@(.mk kind params body), p, it =>
    ⟨s, p, it⟩ :: if kind.isComposite then
      (List.range (loopIterations params)).flatMap fun n => Step.bodyVisits body p n 0
    else []

/-- The visits of a loop body from position `j`, in iteration `n` of the loop at `p`. -/
def Step.bodyVisits : List Step → StepPath → Nat → Nat → List Visit
  | [], _, _, _ => []
  | c :: rest, p, n, j =>
    c.visits (p.iterationChild n j) (some n) ++ Step.bodyVisits rest p n (j + 1)

end

/-- The visits of `k` iterations of a loop body, the first being iteration `n`. -/
def Step.iterationVisits (body : List Step) (p : StepPath) (k n : Nat) : List Visit :=
  (List.range' n k).flatMap fun m => Step.bodyVisits body p m 0

/-- The visits of root steps from index `i`. -/
def Step.rootVisits : List Step → Nat → List Visit
  | [], _ => []
  | s :: rest, i => s.visits (StepPath.rootStep i) none ++ Step.rootVisits rest (i + 1)

/-- The visits of running a workflow, in order. -/
def Workflow.visits (w : Workflow) : List Visit := Step.rootVisits w.steps 0

/-- What a visit does apart from its trace entry: it is refused beyond the depth limit,
refused when its kind has no rule, and otherwise does its step's own work. -/
def Runner.ownWork (r : Runner) (v : Visit) : Work Unit :=
  if v.path.depth > r.settings.maxDepth then Work.fail (.tooDeep v.path.depth r.settings.maxDepth)
  else if !r.registry.contains v.step.kind then Work.fail (.unhandled v.step.kind)
  else do
    let _ ← leafStep r.bench r.settings v.step.kind v.step.params

/-- One visit on a trail: its trace entry once past the depth check, then its own work; a
fault is placed at the visit. -/
def Runner.visit (r : Runner) (v : Visit) (t : Trail) : Except RunError Unit × Trail :=
  let t := if v.path.depth > r.settings.maxDepth then t else { t with trace := t.trace.push v.entry }
  match (r.ownWork v).onTrail t with
  | (.ok (), t) => (.ok (), t)
  | (.error f, t) => (.error (.atStep v.path v.step.kind f), t)

/-- Makes visits in order, stopping at the first that fails. -/
def Runner.visitAll (r : Runner) : List Visit → Trail → Except RunError Unit × Trail
  | [], t => (.ok (), t)
  | v :: vs, t =>
    match r.visit v t with
    | (.ok (), t') => r.visitAll vs t'
    | (.error e, t') => (.error e, t')

/-! ## Work on a trail -/

@[simp] theorem Work.onTrail_pure {α : Type} (a : α) (t : Trail) :
    (pure a : Work α).onTrail t = (.ok a, t) := rfl

@[simp] theorem Work.onTrail_fail {α : Type} (f : Fault) (t : Trail) :
    (Work.fail f : Work α).onTrail t = (.error f, t) := rfl

/-- Work followed by more work: the second part runs on the trail the first left, unless
the first failed. -/
theorem Work.onTrail_bind {α β : Type} (w : Work α) (k : α → Work β) (t : Trail) :
    (w >>= k).onTrail t =
      match w.onTrail t with
      | (.ok a, t') => (k a).onTrail t'
      | (.error f, t') => (.error f, t') := by
  unfold Work.onTrail
  rcases hw : w.run.run t.desk with ⟨f | a, d⟩
  · simp only [bind, ExceptT.bind, ExceptT.run, ExceptT.mk, StateT.bind, StateT.run,
      ExceptT.bindCont] at hw ⊢
    simp [hw]
    rfl
  · simp only [bind, ExceptT.bind, ExceptT.run, ExceptT.mk, StateT.bind, StateT.run,
      ExceptT.bindCont] at hw ⊢
    simp [hw]

/-- Reading a loop's count leaves the trail as it is. -/
theorem loopCount_onTrail (params : Params) (t : Trail) :
    (loopCount params).onTrail t =
      (match lenientInt ((params.lookup "count").getD .null) with
        | .ok c => .ok (nonNegative c)
        | .error m => .error (.invalidParameter .loop "payload" m), t) := by
  unfold loopCount readParam Work.onTrail
  cases lenientInt ((params.lookup "count").getD .null) <;> rfl

/-! ## The flat run -/

theorem Runner.visitAll_append (r : Runner) (xs ys : List Visit) (t : Trail) :
    r.visitAll (xs ++ ys) t =
      match r.visitAll xs t with
      | (.ok (), t') => r.visitAll ys t'
      | (.error e, t') => (.error e, t') := by
  induction xs generalizing t with
  | nil => rfl
  | cons v xs ih =>
    simp only [List.cons_append, visitAll]
    rcases r.visit v t with ⟨_ | ⟨⟩, t'⟩
    · rfl
    · exact ih t'

theorem Runner.visitAll_singleton (r : Runner) (v : Visit) (t : Trail) :
    r.visitAll [v] t = r.visit v t := by
  simp only [visitAll]
  rcases r.visit v t with ⟨_ | ⟨⟩, _⟩ <;> rfl

/-- The errors of visits are placed already, so placing them again changes nothing. -/
theorem Runner.visitAll_locate (r : Runner) (p : StepPath) (k : StepKind) (vs : List Visit)
    (t : Trail) :
    Prod.map (Except.mapError (RunError.locate p k)) id (r.visitAll vs t) = r.visitAll vs t := by
  induction vs generalizing t with
  | nil => rfl
  | cons v vs ih =>
    simp only [visitAll, visit]
    rcases (r.ownWork v).onTrail _ with ⟨_ | _, t'⟩
    · rfl
    · exact ih t'

/-! ## Entering one step -/

theorem Runner.iterate_nil (r : Runner) (p : StepPath) (k n : Nat) (t : Trail) :
    r.iterate [] p k n t = (.ok (), t) := by
  induction k generalizing n with
  | zero => rw [Runner.iterate]
  | succ k ih =>
    rw [Runner.iterate, Runner.runBody]
    exact ih (n + 1)

/-- Entering a step that is not a loop is one visit. -/
theorem Runner.enter_leaf (r : Runner) {kind : StepKind} (hk : kind ≠ .loop) (params : Params)
    (body : List Step) (p : StepPath) (it : Option Nat) (t : Trail) :
    Prod.map (Except.map fun _ => ()) id (r.enter (.mk kind params body) p it t) =
      r.visit ⟨.mk kind params body, p, it⟩ t := by
  rw [Runner.enter]
  simp only [Runner.visit, Runner.ownWork, Step.kind, Step.params, Visit.entry]
  by_cases hd : p.depth > r.settings.maxDepth
  · simp only [if_pos hd, Work.onTrail_fail]
    rfl
  · simp only [if_neg hd]
    by_cases hr : r.registry.contains kind
    · simp only [hr, Bool.not_true, Bool.false_eq_true, if_false, Work.onTrail_bind,
        Work.onTrail_pure]
      -- the rule of every kind but `loop` is its handler's work
      cases kind <;> simp only [ne_eq, not_true_eq_false] at hk <;>
        rcases (leafStep _ _ _ params).onTrail _ with ⟨_ | _, _⟩ <;> rfl
    · simp only [hr, Bool.not_false, if_true, Work.onTrail_fail]
      rfl

/-- Entering a loop is its own visit, then its iterations; a fault from the iterations is
placed already and passes through the loop. -/
theorem Runner.enter_loop (r : Runner) (params : Params) (body : List Step) (p : StepPath)
    (it : Option Nat) (t : Trail) :
    Prod.map (Except.map fun _ => ()) id (r.enter (.mk .loop params body) p it t) =
      match r.visit ⟨.mk .loop params body, p, it⟩ t with
      | (.ok (), t') =>
        Prod.map (Except.mapError (RunError.locate p .loop)) id
          (r.iterate body p (loopIterations params) 0 t')
      | (.error e, t') => (.error e, t') := by
  rw [Runner.enter]
  simp only [Runner.visit, Runner.ownWork, Step.kind, Step.params, Visit.entry]
  by_cases hd : p.depth > r.settings.maxDepth
  · simp only [if_pos hd, Work.onTrail_fail]
    rfl
  · simp only [if_neg hd]
    by_cases hr : r.registry.contains .loop
    · simp only [hr, Bool.not_true, Bool.false_eq_true, if_false, Work.onTrail_bind,
        Work.onTrail_pure, leafStep, loopCount_onTrail, loopIterations]
      cases lenientInt ((params.lookup "count").getD .null) with
      | error m => rfl
      | ok c =>
        simp only
        by_cases hb : body.isEmpty
        · -- an empty body is skipped, which is what iterating it does
          obtain rfl := List.isEmpty_iff.mp hb
          simp only [List.isEmpty_nil, if_true, Runner.iterate_nil]
          rfl
        · simp only [hb, Bool.false_eq_true, if_false]
          rcases r.iterate body p (nonNegative c) 0 _ with ⟨_ | _, _⟩ <;> rfl
    · simp only [hr, Bool.not_false, if_true, Work.onTrail_fail]
      rfl

mutual

/-- Entering a step makes its unrolled visits in order. -/
theorem Runner.enter_unrolled (r : Runner) (s : Step) (p : StepPath) (it : Option Nat)
    (t : Trail) :
    Prod.map (Except.map fun _ => ()) id (r.enter s p it t) = r.visitAll (s.visits p it) t := by
  obtain ⟨kind, params, body⟩ := s
  by_cases hk : kind = .loop
  · subst hk
    rw [r.enter_loop, Step.visits]
    simp only [StepKind.isComposite, if_true, visitAll]
    rcases r.visit _ t with ⟨_ | ⟨⟩, t'⟩
    · rfl
    · simp only
      rw [r.iterate_unrolled, visitAll_locate, Step.iterationVisits, List.range_eq_range']
  · have hc : kind.isComposite = false := by
      cases kind <;> simp_all [StepKind.isComposite]
    rw [r.enter_leaf hk, Step.visits]
    simp only [hc, Bool.false_eq_true, if_false, visitAll_singleton]
termination_by (sizeOf s, 0)
decreasing_by simp_wf; omega

/-- Iterating a loop body makes the visits of its iterations in order. -/
theorem Runner.iterate_unrolled (r : Runner) (body : List Step) (p : StepPath) (k n : Nat)
    (t : Trail) :
    r.iterate body p k n t = r.visitAll (Step.iterationVisits body p k n) t := by
  cases k with
  | zero =>
    rw [Runner.iterate]
    rfl
  | succ k =>
    rw [Runner.iterate, Step.iterationVisits, List.range'_succ, List.flatMap_cons,
      visitAll_append, ← r.runBody_unrolled]
    rcases r.runBody body p n 0 t with ⟨_ | ⟨⟩, t'⟩
    · rfl
    · exact r.iterate_unrolled body p k (n + 1) t'
termination_by (sizeOf body, k + 1)

/-- Running a loop body once makes the visits of its steps in order. -/
theorem Runner.runBody_unrolled (r : Runner) (steps : List Step) (p : StepPath) (n j : Nat)
    (t : Trail) :
    r.runBody steps p n j t = r.visitAll (Step.bodyVisits steps p n j) t := by
  cases steps with
  | nil =>
    rw [Runner.runBody]
    rfl
  | cons c rest =>
    rw [Runner.runBody, Step.bodyVisits, visitAll_append, ← r.enter_unrolled c]
    rcases r.enter c (p.iterationChild n j) (some n) t with ⟨_ | _, t'⟩
    · rfl
    · exact r.runBody_unrolled rest p n (j + 1) t'
termination_by (sizeOf steps, 0)

end

/-- Running root steps makes their unrolled visits in order. -/
theorem Runner.runRoots_unrolled (r : Runner) (steps : List Step) (i : Nat)
    (acc : List StepRecord) (t : Trail) :
    Prod.map (Except.map fun _ => ()) id (r.runRoots steps i acc t) =
      r.visitAll (Step.rootVisits steps i) t := by
  induction steps generalizing i acc t with
  | nil => rfl
  | cons s rest ih =>
    rw [Runner.runRoots, Step.rootVisits, visitAll_append, ← r.enter_unrolled]
    rcases r.enter s (StepPath.rootStep i) none t with ⟨_ | o, t'⟩
    · rfl
    · exact ih (i + 1) _ t'

end Runbook
