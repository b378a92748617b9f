import Runbook.Proofs.Run.OwnFaults
/-!
# Runs fail fast, at the first visit that fails on its own

Unrolled, a run is a list of visits made in order, each doing its own work: the depth
check, the rule lookup and the step's rule. `Runner.unroll` makes that work visit after
visit and stops at the first visit whose own work fails.

Main statements: `Runner.runRoots_traces_visits_until_failure` (one trace entry per visit
up to the stop, and the stopping visit's unless the depth check refused it) and
`Runner.run_error_at_first_own_failure` (the error is that visit's fault, placed at its
own path and kind, never at an enclosing loop).
-/

namespace Runbook

open Json Params

/-- Where a run of visits stopped: the position of the first visit whose own work failed,
that visit, and its fault. -/
structure Stop where
  /-- The position of the visit among the visits made. -/
  index : Nat
  /-- The visit whose own work failed. -/
  visit : Visit
  /-- The fault it raised. -/
  fault : Fault

/-- The error a stop is reported as: its fault placed at its visit. -/
def Stop.error (s : Stop) : RunError := .atStep s.visit.path s.visit.step.kind s.fault

/-- The same stop behind one more visit. -/
def Stop.later (s : Stop) : Stop := { s with index := s.index + 1 }

/-- What a run of visits answers when it stops as `stop` says. -/
def Stop.outcome : Option Stop → Except RunError Unit
  | none => .ok ()
  | some s => .error s.error

/-- Makes visits in order from a desk, apart from their trace entries, up to the first
whose own work fails: where the run stopped, if it did, and the desk it left. -/
def Runner.unroll (r : Runner) : List Visit → Desk → Option Stop × Desk
  | [], d => (none, d)
  | v :: vs, d =>
    match (r.ownWork v).run.run d with
    | (.error f, d') => (some ⟨0, v, f⟩, d')
    | (.ok (), d') => Prod.map (Option.map Stop.later) id (r.unroll vs d')

/-- The trace entries of making visits in order until the run stops as `stop` says: one
for each visit before the stop, and one for the stopping visit unless the depth check
refused it. -/
def Runner.entries (r : Runner) (vs : List Visit) : Option Stop → List TraceEntry
  | none => vs.map Visit.entry
  | some s => (vs.take s.index).map Visit.entry ++
      if s.visit.path.depth ≤ r.settings.maxDepth then [s.visit.entry] else []

/-! ## Visits come after the loops that hold them -/

/-- Every visit of a list lies at depth at most `b`, or one level below an earlier visit:
the loop that holds it is visited before it. -/
def NestedVisits (b : Nat) (vs : List Visit) : Prop :=
  ∀ pre v post, vs = pre ++ v :: post →
    v.path.depth ≤ b ∨ ∃ u ∈ pre, u.path.depth + 1 = v.path.depth

namespace NestedVisits

theorem nil (b : Nat) : NestedVisits b [] := by
  intro pre v post h
  cases pre <;> cases h

theorem append {b : Nat} {xs ys : List Visit} (hx : NestedVisits b xs) (hy : NestedVisits b ys) :
    NestedVisits b (xs ++ ys) := by
  intro pre v post h
  rcases List.append_eq_append_iff.mp h with ⟨a, rfl, hys⟩ | ⟨c, hxs, hpost⟩
  · -- the visit lies in `ys`; an earlier visit of `ys` is an earlier visit of the whole
    rcases hy a v post hys with hd | ⟨u, hu, hd⟩
    · exact .inl hd
    · exact .inr ⟨u, List.mem_append_right _ hu, hd⟩
  · cases c with
    | nil =>
      simp only [List.nil_append] at hpost
      rw [List.append_nil] at hxs
      subst hxs
      rcases hy [] v post hpost.symm with hd | ⟨u, hu, _⟩
      · exact .inl hd
      · simp at hu
    | cons c cs =>
      simp only [List.cons_append, List.cons.injEq] at hpost
      obtain ⟨rfl, -⟩ := hpost
      exact hx pre v cs hxs

/-- A visit at depth `b` followed by visits one level deeper. -/
theorem cons {b : Nat} {v : Visit} {vs : List Visit} (hv : v.path.depth = b)
    (hvs : NestedVisits (b + 1) vs) : NestedVisits b (v :: vs) := by
  intro pre w post h
  cases pre with
  | nil =>
    simp only [List.nil_append, List.cons.injEq] at h
    obtain ⟨rfl, -⟩ := h
    exact .inl (Nat.le_of_eq hv)
  | cons u pre =>
    simp only [List.cons_append, List.cons.injEq] at h
    obtain ⟨rfl, hrest⟩ := h
    rcases hvs pre w post hrest with hd | ⟨u', hu', hd⟩
    · -- one level deeper is one below the head, which comes first
      by_cases hb : w.path.depth ≤ b
      · exact .inl hb
      · exact .inr ⟨v, List.mem_cons_self, by omega⟩
    · exact .inr ⟨u', List.mem_cons_of_mem _ hu', hd⟩

theorem flatMap {b : Nat} {α : Type} {f : α → List Visit} (l : List α)
    (h : ∀ a ∈ l, NestedVisits b (f a)) : NestedVisits b (l.flatMap f) := by
  induction l with
  | nil => exact nil b
  | cons a l ih =>
    rw [List.flatMap_cons]
    exact append (h a List.mem_cons_self) (ih fun a' ha' => h a' (List.mem_cons_of_mem _ ha'))

end NestedVisits

mutual

/-- The visits of entering a step are nested below its path. -/
theorem Step.visits_nested : ∀ (s : Step) (p : StepPath) (it : Option Nat),
    NestedVisits p.depth (s.visits p it)
  | .mk kind params body, p, it => by
    rw [Step.visits]
    refine NestedVisits.cons rfl ?_
    split
    · exact NestedVisits.flatMap _ fun n _ => Step.bodyVisits_nested body p n 0
    · exact NestedVisits.nil _

/-- The visits of a loop body are nested one level below the loop. -/
theorem Step.bodyVisits_nested : ∀ (body : List Step) (p : StepPath) (n j : Nat),
    NestedVisits (p.depth + 1) (Step.bodyVisits body p n j)
  | [], p, n, j => by
    rw [Step.bodyVisits]
    exact NestedVisits.nil _
  | c :: rest, p, n, j => by
    rw [Step.bodyVisits]
    refine NestedVisits.append ?_ (Step.bodyVisits_nested rest p n (j + 1))
    have h := Step.visits_nested c (p.iterationChild n j) (some n)
    rwa [StepPath.depth_iterationChild] at h

end

theorem Step.rootVisits_nested (steps : List Step) (i : Nat) :
    NestedVisits 1 (Step.rootVisits steps i) := by
  induction steps generalizing i with
  | nil => exact NestedVisits.nil _
  | cons s rest ih =>
    rw [Step.rootVisits]
    exact NestedVisits.append (Step.visits_nested s (StepPath.rootStep i) none) (ih (i + 1))

section Run

variable (r : Runner)

theorem Runner.entries_later (v : Visit) (vs : List Visit) (stop : Option Stop) :
    r.entries (v :: vs) (stop.map Stop.later) = v.entry :: r.entries vs stop := by
  cases stop with
  | none => rfl
  | some s => simp [entries, Stop.later]

/-- Work on a trail is work on its desk. -/
theorem Work.onTrail_eq {α : Type} (w : Work α) (t : Trail) :
    w.onTrail t = ((w.run.run t.desk).1, { t with desk := (w.run.run t.desk).2 }) := rfl

/-- A visit records its entry unless the depth check refuses it, then does its own work. -/
theorem Runner.visit_eq (v : Visit) (t : Trail) :
    r.visit v t =
      (match ((r.ownWork v).run.run t.desk).1 with
        | .ok () => .ok ()
        | .error f => .error (.atStep v.path v.step.kind f),
       { desk := ((r.ownWork v).run.run t.desk).2,
         trace := if v.path.depth > r.settings.maxDepth then t.trace else t.trace.push v.entry }) := by
  by_cases hd : v.path.depth > r.settings.maxDepth
  · simp only [visit, Work.onTrail_eq, if_pos hd]
    rcases (r.ownWork v).run.run t.desk with ⟨_ | ⟨⟩, d⟩ <;> rfl
  · simp only [visit, Work.onTrail_eq, if_neg hd]
    rcases (r.ownWork v).run.run t.desk with ⟨_ | ⟨⟩, d⟩ <;> rfl

theorem Runner.ownWork_of_tooDeep {v : Visit} (h : v.path.depth > r.settings.maxDepth)
    (d : Desk) :
    (r.ownWork v).run.run d = (.error (.tooDeep v.path.depth r.settings.maxDepth), d) := by
  simp only [ownWork, if_pos h]
  rfl

theorem Runner.depth_le_of_ownWork {v : Visit} {d d' : Desk}
    (h : (r.ownWork v).run.run d = (.ok (), d')) : v.path.depth ≤ r.settings.maxDepth := by
  refine Nat.le_of_not_lt fun hd => ?_
  rw [r.ownWork_of_tooDeep hd] at h
  cases h

theorem Work.Raises.of_run {α : Type} {P : Fault → Prop} {w : Work α} (hw : Work.Raises P w)
    {d : Desk} {f : Fault} (h : (w.run.run d).1 = .error f) : P f :=
  hw ⟨d, #[]⟩ f _ (by rw [Work.onTrail_eq, h])

/-- The fault of a visit's own work says which check refused it: the depth check, the
rule lookup, or the step's own rule. -/
theorem Runner.ownWork_fault {v : Visit} {d : Desk} {f : Fault}
    (h : ((r.ownWork v).run.run d).1 = .error f) :
    (v.path.depth > r.settings.maxDepth ∧ f = .tooDeep v.path.depth r.settings.maxDepth) ∨
    (v.path.depth ≤ r.settings.maxDepth ∧ r.registry.contains v.step.kind = false ∧
      f = .unhandled v.step.kind) ∨
    (v.path.depth ≤ r.settings.maxDepth ∧ r.registry.contains v.step.kind = true ∧ f.IsOwn) := by
  by_cases hd : v.path.depth > r.settings.maxDepth
  · rw [r.ownWork_of_tooDeep hd] at h
    cases h
    exact .inl ⟨hd, rfl⟩
  · have hd' : v.path.depth ≤ r.settings.maxDepth := Nat.le_of_not_lt hd
    by_cases hr : r.registry.contains v.step.kind
    · refine .inr (.inr ⟨hd', hr, ?_⟩)
      simp only [ownWork, if_neg hd, hr, Bool.not_true, Bool.false_eq_true, if_false] at h
      exact (Work.raises_bind (leafStep_own r.bench r.settings v.step.kind v.step.params)
        fun _ => Work.raises_pure ()).of_run h
    · simp only [Bool.not_eq_true] at hr
      simp only [ownWork, if_neg hd, hr, Bool.not_false, if_true] at h
      cases h
      exact .inr (.inl ⟨hd', hr, rfl⟩)

/-- Making visits in order on a trail is making their own work on the desk, with the
trace entries `entries` names. -/
theorem Runner.visitAll_spec (vs : List Visit) (t : Trail) :
    (r.visitAll vs t).1 = Stop.outcome (r.unroll vs t.desk).1 ∧
    (r.visitAll vs t).2.desk = (r.unroll vs t.desk).2 ∧
    (r.visitAll vs t).2.trace.toList = t.trace.toList ++ r.entries vs (r.unroll vs t.desk).1 := by
  induction vs generalizing t with
  | nil => simp [visitAll, unroll, entries, Stop.outcome]
  | cons v vs ih =>
    simp only [visitAll, unroll, r.visit_eq]
    rcases hw : (r.ownWork v).run.run t.desk with ⟨f | ⟨⟩, d⟩
    · -- the visit stops the run; its entry is there unless it was refused for depth
      refine ⟨rfl, rfl, ?_⟩
      by_cases hd : v.path.depth > r.settings.maxDepth
      · simp [entries, hd]
      · simp [entries, hd, Nat.le_of_not_lt hd]
    · -- the visit passed, so it was past the depth check and left its entry
      have hd := r.depth_le_of_ownWork hw
      obtain ⟨h1, h2, h3⟩ := ih ⟨d, t.trace.push v.entry⟩
      simp only [Nat.not_lt.mpr hd, if_false]
      refine ⟨?_, h2, ?_⟩
      · rw [h1, Prod.map_fst]
        cases (r.unroll vs d).1 <;> rfl
      · rw [h3, Prod.map_fst, r.entries_later]
        simp

/-- Running a workflow on a trail, as with a caller's own context, fails fast at the first
visit of its unrolled visits that fails on its own. It appends one trace entry for each
visit before that one, and one for that visit unless the depth check refused it; it
fails exactly when there is such a visit; and it leaves the desk those visits left. -/
theorem Runner.runRoots_traces_visits_until_failure (w : Workflow) (t : Trail) :
    ((r.runRoots w.steps 0 [] t).1.isOk ↔ (r.unroll w.visits t.desk).1 = none) ∧
    (r.runRoots w.steps 0 [] t).2.desk = (r.unroll w.visits t.desk).2 ∧
    (r.runRoots w.steps 0 [] t).2.trace.toList =
      t.trace.toList ++ r.entries w.visits (r.unroll w.visits t.desk).1 := by
  obtain ⟨h1, h2, h3⟩ := r.visitAll_spec w.visits t
  have hrun : Prod.map (Except.map fun _ => ()) id (r.runRoots w.steps 0 [] t) =
      r.visitAll w.visits t := r.runRoots_unrolled w.steps 0 [] t
  rw [← hrun, Prod.map_snd, id] at h2 h3
  rw [← hrun, Prod.map_fst] at h1
  refine ⟨?_, h2, h3⟩
  -- the flat run forgets the records of a run that succeeds, not its success
  have hok : (r.runRoots w.steps 0 [] t).1.isOk =
      (Stop.outcome (r.unroll w.visits t.desk).1).isOk := by
    rw [← h1]
    cases (r.runRoots w.steps 0 [] t).1 <;> rfl
  rw [hok]
  cases (r.unroll w.visits t.desk).1 <;> simp [Stop.outcome, Except.isOk, Except.toBool]

/-- A run of visits stops at a visit whose predecessors all passed the depth check, and
whose own work failed with the stop's fault. -/
theorem Runner.unroll_stop {vs : List Visit} {d : Desk} {stop : Stop}
    (h : (r.unroll vs d).1 = some stop) :
    ∃ pre post d', vs = pre ++ stop.visit :: post ∧ pre.length = stop.index ∧
      (∀ u ∈ pre, u.path.depth ≤ r.settings.maxDepth) ∧
      ((r.ownWork stop.visit).run.run d').1 = .error stop.fault := by
  induction vs generalizing d stop with
  | nil => simp [unroll] at h
  | cons v vs ih =>
    simp only [unroll] at h
    rcases hw : (r.ownWork v).run.run d with ⟨f | ⟨⟩, d₁⟩
    · rw [hw] at h
      cases h
      exact ⟨[], vs, d, rfl, rfl, by simp, by rw [hw]⟩
    · rw [hw, Prod.map_fst, Option.map_eq_some_iff] at h
      obtain ⟨s, hs, rfl⟩ := h
      obtain ⟨pre, post, d', hvs, hlen, hpre, hf⟩ := ih hs
      refine ⟨v :: pre, post, d', by rw [hvs]; rfl, by simp [hlen, Stop.later], ?_, hf⟩
      intro u hu
      rcases List.mem_cons.mp hu with rfl | hu
      · exact r.depth_le_of_ownWork hw
      · exact hpre u hu

/-- What an error says of the visit a run stopped at: the stop's fault placed at the
visit's own path and kind. Nesting too deep is reported exactly when the depth check
refused the visit, which then lies at depth `L + 1` against the limit `L`; a missing rule
exactly when the visit passed the depth check and its kind has no rule, and it names that
kind. -/
def Runner.Reports (r : Runner) (stop : Stop) (e : RunError) : Prop :=
  e = .atStep stop.visit.path stop.visit.step.kind stop.fault ∧
  ((∃ d l, stop.fault = .tooDeep d l) ↔ stop.visit.path.depth > r.settings.maxDepth) ∧
  (stop.visit.path.depth > r.settings.maxDepth →
    stop.visit.path.depth = r.settings.maxDepth + 1 ∧
    stop.fault = .tooDeep (r.settings.maxDepth + 1) r.settings.maxDepth) ∧
  ((∃ k, stop.fault = .unhandled k) ↔
    stop.visit.path.depth ≤ r.settings.maxDepth ∧ r.registry.contains stop.visit.step.kind = false) ∧
  (∀ k, stop.fault = .unhandled k → k = stop.visit.step.kind)

/-- The stop of nested visits, whose outermost level the depth check allows one past the
limit, is reported as its own fault. -/
theorem Runner.reports_of_nested {b : Nat} {vs : List Visit} {d : Desk} {stop : Stop}
    (hn : NestedVisits b vs) (hb : b ≤ r.settings.maxDepth + 1)
    (h : (r.unroll vs d).1 = some stop) : r.Reports stop stop.error := by
  obtain ⟨pre, post, d', hvs, -, hpre, hf⟩ := r.unroll_stop h
  -- a refused visit lies at the outermost level or one below a visit that passed
  have hdepth : stop.visit.path.depth ≤ r.settings.maxDepth + 1 := by
    rcases hn pre stop.visit post hvs with hd | ⟨u, hu, hd⟩
    · omega
    · have := hpre u hu
      omega
  rcases r.ownWork_fault hf with ⟨hd, hfault⟩ | ⟨hd, hr, hfault⟩ | ⟨hd, hr, hown⟩
  · have hl : stop.visit.path.depth = r.settings.maxDepth + 1 := by omega
    refine ⟨rfl, ⟨fun _ => hd, fun _ => ⟨_, _, hfault⟩⟩, fun _ => ⟨hl, by rw [hfault, hl]⟩, ?_, ?_⟩
    · simp only [hfault, reduceCtorEq, exists_false, false_iff, not_and]
      omega
    · simp [hfault]
  · refine ⟨rfl, ?_, fun h => absurd h (Nat.not_lt.mpr hd), ⟨fun _ => ⟨hd, hr⟩, fun _ => ⟨_, hfault⟩⟩, ?_⟩
    · simp only [hfault, reduceCtorEq, exists_false, false_iff]
      omega
    · intro k hk
      rw [hfault] at hk
      cases hk
      rfl
  · -- the step's own rule never raises the faults of dispatching
    have hnot : ∀ d l, stop.fault ≠ .tooDeep d l := by
      intro d l he
      rw [Fault.IsOwn, he] at hown
      cases hown
    have hnot' : ∀ k, stop.fault ≠ .unhandled k := by
      intro k he
      rw [Fault.IsOwn, he] at hown
      cases hown
    refine ⟨rfl, ?_, fun h => absurd h (Nat.not_lt.mpr hd), ?_, fun k hk => absurd hk (hnot' k)⟩
    · simp only [hnot, exists_false, false_iff]
      omega
    · simp only [hnot', exists_false, false_iff, not_and]
      intro _ hr'
      rw [hr] at hr'
      cases hr'

/-- Nested visits, made in order, fail exactly at their stop, with the error that reports
it, and with the trace entries of the visits up to it. -/
theorem Runner.visitAll_error_iff {b : Nat} {vs : List Visit} (hn : NestedVisits b vs)
    (hb : b ≤ r.settings.maxDepth + 1) (t : Trail) (e : RunError) :
    (r.visitAll vs t).1 = .error e ↔
      ∃ stop, (r.unroll vs t.desk).1 = some stop ∧ r.Reports stop e ∧
        (r.visitAll vs t).2.trace.toList = t.trace.toList ++ r.entries vs (some stop) := by
  obtain ⟨h1, -, h3⟩ := r.visitAll_spec vs t
  rw [h1, h3]
  constructor
  · intro he
    cases hs : (r.unroll vs t.desk).1 with
    | none =>
      rw [hs] at he
      cases he
    | some stop =>
      rw [hs] at he
      cases he
      exact ⟨stop, rfl, r.reports_of_nested hn hb hs, rfl⟩
  · rintro ⟨stop, hs, ⟨rfl, -⟩, -⟩
    rw [hs]
    rfl

theorem Except.map_eq_error_iff {ε α β : Type} (f : α → β) (x : Except ε α) (e : ε) :
    x.map f = .error e ↔ x = .error e := by
  cases x <;> simp [Except.map]

/-- Every error of running a workflow, and of entering a step at a path no deeper than one
past the limit (as every caller enters steps), is the fault of the first visit of its
unrolled visits that fails on its own, placed at that visit's path and kind and never at a
loop around it; `Reports` says which check raised it. The trace then ends with the entries
of the visits before it, and its own entry unless the depth check refused it. -/
theorem Runner.run_error_at_first_own_failure :
    (∀ (w : Workflow) (t : Trail) (e : RunError),
      (r.runRoots w.steps 0 [] t).1 = .error e ↔
        ∃ stop, (r.unroll w.visits t.desk).1 = some stop ∧ r.Reports stop e ∧
          (r.runRoots w.steps 0 [] t).2.trace.toList =
            t.trace.toList ++ r.entries w.visits (some stop)) ∧
    (∀ (s : Step) (p : StepPath) (it : Option Nat) (t : Trail) (e : RunError),
      p.depth ≤ r.settings.maxDepth + 1 →
      ((r.enter s p it t).1 = .error e ↔
        ∃ stop, (r.unroll (s.visits p it) t.desk).1 = some stop ∧ r.Reports stop e ∧
          (r.enter s p it t).2.trace.toList =
            t.trace.toList ++ r.entries (s.visits p it) (some stop))) := by
  constructor
  · intro w t e
    have hrun : Prod.map (Except.map fun _ => ()) id (r.runRoots w.steps 0 [] t) =
        r.visitAll w.visits t := r.runRoots_unrolled w.steps 0 [] t
    have hn : NestedVisits 1 w.visits := Step.rootVisits_nested w.steps 0
    have h := r.visitAll_error_iff hn (by omega) t e
    rw [← hrun, Prod.map_fst, Prod.map_snd, id, Except.map_eq_error_iff] at h
    exact h
  · intro s p it t e hp
    have h := r.visitAll_error_iff (Step.visits_nested s p it) hp t e
    rw [← r.enter_unrolled, Prod.map_fst, Prod.map_snd, id, Except.map_eq_error_iff] at h
    exact h

end Run

/-- A runner that allows one level of nesting. -/
def shallowRunner : Runner := { settings := { maxDepth := 1 } }

/-- A loop that waits once. -/
def waitOnce : Step := .mk .loop [("count", .number (.unsigned 1))] [.mk .wait [] []]

/-- Under a limit of one the wait inside `waitOnce` is refused, and the error places nesting
depth two against limit one at the wait, not at the loop. -/
theorem Runner.run_error_at_first_own_failure_inner_wait :
    (StepPath.rootStep 0).depth ≤ shallowRunner.settings.maxDepth + 1 ∧
    ((shallowRunner.enter waitOnce (StepPath.rootStep 0) none ⟨{}, #[]⟩).1 =
        .error (.atStep ((StepPath.rootStep 0).iterationChild 0 0) .wait (.tooDeep 2 1)) ↔
      ∃ stop, (shallowRunner.unroll (waitOnce.visits (StepPath.rootStep 0) none) {}).1 = some stop ∧
        shallowRunner.Reports stop
          (.atStep ((StepPath.rootStep 0).iterationChild 0 0) .wait (.tooDeep 2 1)) ∧
        (shallowRunner.enter waitOnce (StepPath.rootStep 0) none ⟨{}, #[]⟩).2.trace.toList =
          ([] : List TraceEntry) ++
            shallowRunner.entries (waitOnce.visits (StepPath.rootStep 0) none) (some stop)) :=
  ⟨by decide, (Runner.run_error_at_first_own_failure _).2 _ _ _ _ _ (by decide)⟩

end Runbook