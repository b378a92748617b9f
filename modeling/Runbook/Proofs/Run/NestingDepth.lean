import Runbook.Proofs.Run.FailFast
import Runbook.Cli.Command
/-!
# The depth a run reaches is the depth the workflow has

A workflow's depth is counted on its tree, a run's on paths: a root step at `steps[i]`,
each step of a loop body at `iter[n].steps[j]` below its loop, one segment more however
often the body repeats. Forgetting the iterations of a run's path gives the position of
the visited step in the tree, so the two counts agree.

Main statement: `Workflow.run_depth_within_static_depth`: every visit lies at its step's
level, no trace entry is deeper than the workflow, nothing is refused for nesting under a
limit at least the workflow's depth, and a dry run warns about every workflow a run would
refuse.
-/

namespace Runbook

open Json Params

/-- A path with its loop iterations forgotten: the position of the step in the tree. -/
def StepPath.static (p : StepPath) : StepPath := ⟨p.segments.map fun s => ⟨s.index, none⟩⟩

@[simp] theorem StepPath.depth_static (p : StepPath) : p.static.depth = p.depth := by
  simp [StepPath.static, StepPath.depth]

@[simp] theorem StepPath.static_iterationChild (p : StepPath) (n j : Nat) :
    (p.iterationChild n j).static = p.static.child j := by
  simp [StepPath.static, StepPath.iterationChild, StepPath.child]

theorem StepPath.static_rootStep (i : Nat) : (StepPath.rootStep i).static = StepPath.root.child i :=
  rfl

mutual

/-- The steps of a tree at their positions, in document order: the step itself at `p`,
then the steps of its body as the children of `p`. -/
def Step.placements : Step → StepPath → List (Step × StepPath)
  | s@(.mk _ _ body), p => (s, p) :: Step.listPlacements body p 0

/-- The steps of trees standing as the children `j`, `j + 1`, ... of `p`, at their
positions. -/
def Step.listPlacements : List Step → StepPath → Nat → List (Step × StepPath)
  | [], _, _ => []
  | c :: rest, p, j => c.placements (p.child j) ++ Step.listPlacements rest p (j + 1)

end

/-- The steps of a workflow at their positions: root step `i` at `steps[i]`. -/
def Workflow.placements (w : Workflow) : List (Step × StepPath) :=
  Step.listPlacements w.steps StepPath.root 0

/-! ## Positions lie within the depth of the tree -/

mutual

theorem Step.depth_lt_of_mem_placements : ∀ (s : Step) (p : StepPath),
    ∀ x ∈ s.placements p, x.2.depth < p.depth + s.depth
  | .mk kind params body, p => by
    intro x hx
    rw [Step.placements] at hx
    have hdepth : (Step.mk kind params body).depth = Step.listDepth body + 1 := by
      rw [Step.depth]
    rcases List.mem_cons.mp hx with rfl | hx
    · dsimp only
      omega
    · have h := Step.depth_le_of_mem_listPlacements body p 0 x hx
      omega

theorem Step.depth_le_of_mem_listPlacements : ∀ (steps : List Step) (p : StepPath) (j : Nat),
    ∀ x ∈ Step.listPlacements steps p j, x.2.depth ≤ p.depth + Step.listDepth steps
  | [], p, j => by
    intro x hx
    simp [Step.listPlacements] at hx
  | c :: rest, p, j => by
    intro x hx
    rw [Step.listPlacements] at hx
    have hdepth : Step.listDepth (c :: rest) = max c.depth (Step.listDepth rest) := by
      rw [Step.listDepth]
    rcases List.mem_append.mp hx with hx | hx
    · -- a child lies one level below `p`, inside the child's own tree
      have h := Step.depth_lt_of_mem_placements c (p.child j) x hx
      rw [StepPath.depth_child] at h
      omega
    · have h := Step.depth_le_of_mem_listPlacements rest p (j + 1) x hx
      omega

end

/-- Every position of a workflow lies at most its depth deep. -/
theorem Workflow.depth_le_maxDepth_of_placed {w : Workflow} {x : Step × StepPath}
    (hx : x ∈ w.placements) : x.2.depth ≤ w.maxDepth := by
  have h := Step.depth_le_of_mem_listPlacements w.steps StepPath.root 0 x hx
  simpa [StepPath.root, StepPath.depth, Workflow.maxDepth] using h

/-! ## A visit lies at the position of its step -/

mutual

/-- Each visit of entering a step lies, iterations forgotten, at a position of that step's
tree below where it was entered. -/
theorem Step.visits_placed : ∀ (s : Step) (p : StepPath) (it : Option Nat),
    ∀ v ∈ s.visits p it, (v.step, v.path.static) ∈ s.placements p.static
  | .mk kind params body, p, it => by
    intro v hv
    rw [Step.visits] at hv
    rw [Step.placements]
    rcases List.mem_cons.mp hv with rfl | hv
    · exact List.mem_cons_self
    · -- a visit after the loop's own lies in some iteration of its body
      refine List.mem_cons_of_mem _ ?_
      split at hv
      · obtain ⟨n, -, hn⟩ := List.mem_flatMap.mp hv
        exact Step.bodyVisits_placed body p n 0 v hn
      · simp at hv

/-- Each visit of a loop body in iteration `n` lies at a position of the body's trees, as
children of the loop's position. -/
theorem Step.bodyVisits_placed : ∀ (body : List Step) (p : StepPath) (n j : Nat),
    ∀ v ∈ Step.bodyVisits body p n j, (v.step, v.path.static) ∈ Step.listPlacements body p.static j
  | [], p, n, j => by
    intro v hv
    simp [Step.bodyVisits] at hv
  | c :: rest, p, n, j => by
    intro v hv
    rw [Step.bodyVisits] at hv
    rw [Step.listPlacements]
    rcases List.mem_append.mp hv with hv | hv
    · have h := Step.visits_placed c (p.iterationChild n j) (some n) v hv
      rw [StepPath.static_iterationChild] at h
      exact List.mem_append_left _ h
    · exact List.mem_append_right _ (Step.bodyVisits_placed rest p n (j + 1) v hv)

end

theorem Step.rootVisits_placed (steps : List Step) (i : Nat) :
    ∀ v ∈ Step.rootVisits steps i, (v.step, v.path.static) ∈ Step.listPlacements steps StepPath.root i := by
  induction steps generalizing i with
  | nil => simp [Step.rootVisits]
  | cons s rest ih =>
    intro v hv
    rw [Step.rootVisits] at hv
    rw [Step.listPlacements]
    rcases List.mem_append.mp hv with hv | hv
    · have h := Step.visits_placed s (StepPath.rootStep i) none v hv
      rw [StepPath.static_rootStep] at h
      exact List.mem_append_left _ h
    · exact List.mem_append_right _ (ih (i + 1) v hv)

theorem Workflow.visit_placed {w : Workflow} {v : Visit} (hv : v ∈ w.visits) :
    (v.step, v.path.static) ∈ w.placements :=
  Step.rootVisits_placed w.steps 0 v hv

/-- No visit of a run lies deeper than the workflow. -/
theorem Workflow.depth_le_maxDepth_of_visit {w : Workflow} {v : Visit} (hv : v ∈ w.visits) :
    v.path.depth ≤ w.maxDepth := by
  have h := Workflow.depth_le_maxDepth_of_placed (Workflow.visit_placed hv)
  rwa [StepPath.depth_static] at h

/-! ## What a run records and raises -/

section Run

variable (r : Runner)

/-- The trace entries of a run of visits are entries of those visits. -/
theorem Runner.mem_entries_unroll {vs : List Visit} {d : Desk} {e : TraceEntry}
    (he : e ∈ r.entries vs (r.unroll vs d).1) : ∃ v ∈ vs, v.entry = e := by
  cases hs : (r.unroll vs d).1 with
  | none =>
    rw [hs, Runner.entries] at he
    exact List.mem_map.mp he
  | some stop =>
    rw [hs, Runner.entries] at he
    rcases List.mem_append.mp he with he | he
    · obtain ⟨v, hv, rfl⟩ := List.mem_map.mp he
      exact ⟨v, List.mem_of_mem_take hv, rfl⟩
    · -- the stopping visit is one of the visits
      obtain ⟨pre, post, -, hvs, -⟩ := r.unroll_stop hs
      have hmem : stop.visit ∈ vs := by simp [hvs]
      split at he
      · exact ⟨stop.visit, hmem, (List.mem_singleton.mp he).symm⟩
      · simp at he

/-- Own work at a depth the limit allows is never refused for nesting. -/
theorem Runner.ownWork_ne_tooDeep {v : Visit} (hv : v.path.depth ≤ r.settings.maxDepth)
    {d : Desk} {f : Fault} (hf : ((r.ownWork v).run.run d).1 = .error f) (n l : Nat) :
    f ≠ .tooDeep n l := by
  rcases r.ownWork_fault hf with ⟨hd, -⟩ | ⟨-, -, rfl⟩ | ⟨-, -, hown⟩
  · omega
  · exact fun h => nomatch h
  · intro h
    rw [Fault.IsOwn, h] at hown
    cases hown

/-- Running root steps leaves the trail of their visits made in order. -/
theorem Runner.runRoots_spec (w : Workflow) (t : Trail) :
    Prod.map (Except.map fun _ => ()) id (r.runRoots w.steps 0 [] t) = r.visitAll w.visits t :=
  r.runRoots_unrolled w.steps 0 [] t

/-- A run's trace is the trail's, followed by entries of its visits. -/
theorem Runner.runRoots_trace (w : Workflow) (t : Trail) :
    (r.runRoots w.steps 0 [] t).2.trace.toList =
      t.trace.toList ++ r.entries w.visits (r.unroll w.visits t.desk).1 := by
  have h := (r.visitAll_spec w.visits t).2.2
  rwa [← r.runRoots_spec, Prod.map_snd, id] at h

/-- A run that fails raises the fault of the visit it stopped at, placed at that visit. -/
theorem Runner.runRoots_error (w : Workflow) (t : Trail) {e : RunError}
    (he : (r.runRoots w.steps 0 [] t).1 = .error e) :
    ∃ stop, (r.unroll w.visits t.desk).1 = some stop ∧ e = stop.error := by
  have h := (r.visitAll_spec w.visits t).1
  rw [← r.runRoots_spec, Prod.map_fst, he] at h
  cases hs : (r.unroll w.visits t.desk).1 with
  | none =>
    rw [hs] at h
    cases h
  | some stop =>
    rw [hs] at h
    cases h
    exact ⟨stop, rfl, rfl⟩

/-- Under a limit at least the workflow's depth, no run of it is refused for nesting. -/
theorem Runner.runRoots_ne_tooDeep {w : Workflow} (hw : w.maxDepth ≤ r.settings.maxDepth)
    (t : Trail) {e : RunError} (he : (r.runRoots w.steps 0 [] t).1 = .error e) (n l : Nat) :
    e.root ≠ .tooDeep n l := by
  obtain ⟨stop, hs, rfl⟩ := r.runRoots_error w t he
  obtain ⟨pre, post, d', hvs, -, -, hf⟩ := r.unroll_stop hs
  -- the stopping visit is a visit of the workflow, so within its depth
  have hmem : stop.visit ∈ w.visits := by simp [hvs]
  have hdepth := Workflow.depth_le_maxDepth_of_visit hmem
  exact r.ownWork_ne_tooDeep (by omega) hf n l

end Run

/-- Under a limit below the workflow's depth, a dry run reports what it reports under the
workflow's own depth, followed by the warning. -/
theorem Cli.validation_of_lt {w : Workflow} {limit : Nat} (h : limit < w.maxDepth) :
    Cli.validation w limit = Cli.validation w w.maxDepth ++
      "  Warning: nesting exceeds the configured limit of " ++ toString limit ++ "\n" := by
  unfold Cli.validation
  rw [if_pos h, if_neg (Nat.lt_irrefl _)]
  simp only [String.append_assoc, String.append_empty]

/-- Depth is counted the same way by the workflow and by a run. Every visit of a run lies,
with its loop iterations forgotten, at the position of its step in the tree, so its depth
is the step's level and at most the workflow's depth. A run, from any trail and with any
providers and rules, appends trace entries no deeper than the workflow; under a limit at
least the workflow's depth it is never refused for nesting; so a dry run under a
configuration warns about every workflow that a run with the configured limit refuses for
nesting. -/
theorem Workflow.run_depth_within_static_depth (w : Workflow) :
    (∀ v ∈ w.visits, (v.step, v.path.static) ∈ w.placements ∧
      v.path.static.depth = v.path.depth ∧ v.path.depth ≤ w.maxDepth) ∧
    (∀ (r : Runner) (t : Trail), ∃ added,
      (r.runRoots w.steps 0 [] t).2.trace.toList = t.trace.toList ++ added ∧
      ∀ e ∈ added, e.depth ≤ w.maxDepth) ∧
    (∀ (r : Runner) (t : Trail) (e : RunError), w.maxDepth ≤ r.settings.maxDepth →
      (r.runRoots w.steps 0 [] t).1 = .error e → ∀ n l, e.root ≠ .tooDeep n l) ∧
    (∀ (host : Cli.Host) (inv : Cli.Invocation) (config : Config) (files : FileStore) (r : Runner)
      (t : Trail) (e : RunError) (n l : Nat),
      inv.dryRun = true → r.settings.maxDepth = config.engine.maxDepth →
      (r.runRoots w.steps 0 [] t).1 = .error e → e.root = .tooDeep n l →
      ∃ head, (Cli.execute host inv config w files).stdout =
        head ++ "  Warning: nesting exceeds the configured limit of " ++
          toString config.engine.maxDepth ++ "\n") := by
  refine ⟨fun v hv => ⟨Workflow.visit_placed hv, StepPath.depth_static _,
    Workflow.depth_le_maxDepth_of_visit hv⟩, ?_, ?_, ?_⟩
  · intro r t
    refine ⟨_, r.runRoots_trace w t, ?_⟩
    intro e he
    obtain ⟨v, hv, rfl⟩ := r.mem_entries_unroll he
    exact Workflow.depth_le_maxDepth_of_visit hv
  · intro r t e hw he n l
    exact r.runRoots_ne_tooDeep hw t he n l
  · intro host inv config files r t e n l hdry hlimit he hroot
    -- a refused run means the limit lies below the workflow's depth
    have hlt : config.engine.maxDepth < w.maxDepth := by
      refine Nat.lt_of_not_le fun hle => ?_
      exact r.runRoots_ne_tooDeep (hlimit ▸ hle) t he n l hroot
    rw [Cli.execute, if_pos hdry]
    exact ⟨_, Cli.validation_of_lt hlt⟩

/-- A workflow whose one root step is `waitOnce`: it nests two levels deep. -/
def nestedWait : Workflow := { steps := [waitOnce] }

/-- A runner that allows two levels of nesting and has no rules. -/
def rulelessRunner : Runner := { registry := [], settings := { maxDepth := 2 } }

/-- Under a limit of two, a runner without rules refuses `nestedWait` for the missing rule of
its loop, not for nesting; under a configured limit of one, the refused wait makes the dry
run warn. -/
theorem Workflow.run_depth_within_static_depth_nestedWait :
    (nestedWait.maxDepth ≤ rulelessRunner.settings.maxDepth ∧
      (rulelessRunner.runRoots nestedWait.steps 0 [] ⟨{}, #[]⟩).1 =
        .error (.atStep (StepPath.rootStep 0) .loop (.unhandled .loop)) ∧
      ∀ n l, (RunError.atStep (StepPath.rootStep 0) .loop (.unhandled .loop)).root ≠
        .tooDeep n l) ∧
    ((({ dryRun := true } : Cli.Invocation).dryRun = true ∧
      shallowRunner.settings.maxDepth = ({ engine := { maxDepth := 1 } } : Config).engine.maxDepth ∧
      (shallowRunner.runRoots nestedWait.steps 0 [] ⟨{}, #[]⟩).1 =
        .error (.atStep ((StepPath.rootStep 0).iterationChild 0 0) .wait (.tooDeep 2 1)) ∧
      (RunError.atStep ((StepPath.rootStep 0).iterationChild 0 0) .wait (.tooDeep 2 1)).root =
        .tooDeep 2 1) ∧
      ∃ head, (Cli.execute {} { dryRun := true } { engine := { maxDepth := 1 } } nestedWait
        FileStore.empty).stdout =
        head ++ "  Warning: nesting exceeds the configured limit of " ++ toString 1 ++ "\n") := by
  have hcount : lenientInt ((([("count", Value.number (.unsigned 1))] : Params).lookup
      "count").getD .null) = .ok (some 1) := rfl
  have hruleless : (rulelessRunner.runRoots nestedWait.steps 0 [] ⟨{}, #[]⟩).1 =
      .error (.atStep (StepPath.rootStep 0) .loop (.unhandled .loop)) := by
    rw [nestedWait, Runner.runRoots, Runner.enter]
    rfl
  have hshallow : (shallowRunner.runRoots nestedWait.steps 0 [] ⟨{}, #[]⟩).1 =
      .error (.atStep ((StepPath.rootStep 0).iterationChild 0 0) .wait (.tooDeep 2 1)) := by
    rw [nestedWait, Runner.runRoots, waitOnce, Runner.enter]
    simp only [loopCount_onTrail, hcount]
    unfold Runner.iterate Runner.runBody Runner.enter
    rfl
  have hall := Workflow.run_depth_within_static_depth nestedWait
  exact ⟨⟨by decide, hruleless, hall.2.2.1 rulelessRunner _ _ (by decide) hruleless⟩,
    ⟨rfl, rfl, hshallow, rfl⟩, hall.2.2.2 {} _ _ _ shallowRunner _ _ 2 1 rfl rfl hshallow rfl⟩

end Runbook
