import Mathlib
import Runbook.Proofs.Run.NestingDepth
import Runbook.Proofs.Workflow.PathText
/-!
# Every visit of a run has a path of its own

A run enters root step `i` at `steps[i]` and, in iteration `n` of a loop at `p`, child `j`
of its body at `p` followed by `iter[n].steps[j]`. Every visit below a step lies below that
step's path, so two visits made under different children, or in different iterations, differ
in the segment that tells those apart; and a step's own visit is shorter than those below it.
So no two visits of a run share a path, and since a path is read back from its text
(`StepPath.render_injective`), no two share a path text.

Main statement: `StepPath.render_names_one_visit`. A path's text names one path, and in a
run each trace entry's path text, and the path of the error a failing run raises, names
exactly one visit of the run.
-/

namespace Runbook

open Json Params

/-- Two prefixes of one path that agree up to their last segment agree there too. -/
theorem segment_eq_of_prefix {q : List Segment} {a b : Segment} {x : List Segment}
    (ha : q ++ [a] <+: x) (hb : q ++ [b] <+: x) : a = b := by
  have hab : q ++ [a] <+: q ++ [b] := List.prefix_of_prefix_length_le ha hb (by simp)
  simpa using hab.eq_of_length (by simp)

/-- A path below a child of `q` tagged `it`, at position `j` or later. -/
def UnderChildren (q : List Segment) (it : Option Nat) (j : Nat) (x : StepPath) : Prop :=
  ∃ j', j ≤ j' ∧ q ++ [⟨j', it⟩] <+: x.segments

/-- Paths below child `j` of `q` differ from the paths below a later child. -/
theorem nodup_append_children (q : List Segment) (it : Option Nat) (j : Nat)
    {A B : List StepPath} (hA : ∀ x ∈ A, q ++ [⟨j, it⟩] <+: x.segments)
    (hB : ∀ x ∈ B, UnderChildren q it (j + 1) x) (hnA : A.Nodup) (hnB : B.Nodup) :
    (A ++ B).Nodup := by
  refine List.nodup_append.2 ⟨hnA, hnB, ?_⟩
  rintro x hx _ hx' rfl
  obtain ⟨k, hk, hxk⟩ := hB x hx'
  have hs := segment_eq_of_prefix (hA x hx) hxk
  simp only [Segment.mk.injEq] at hs
  omega

/-! ## Where visits lie -/

mutual

/-- Every visit of entering a step lies below the path it is entered at. -/
theorem Step.prefix_of_mem_visits : ∀ (s : Step) (p : StepPath) (it : Option Nat),
    ∀ v ∈ s.visits p it, p.segments <+: v.path.segments
  | .mk kind params body, p, it => by
    intro v hv
    rw [Step.visits] at hv
    rcases List.mem_cons.mp hv with rfl | hv
    · exact List.prefix_refl _
    · split at hv
      · obtain ⟨n, -, hn⟩ := List.mem_flatMap.mp hv
        obtain ⟨j, -, hj⟩ := Step.under_of_mem_bodyVisits body p n 0 v hn
        exact (List.prefix_append _ _).trans hj
      · simp at hv

/-- Every visit of a loop body from position `j`, in iteration `n`, lies below a child at `j`
or later, entered in iteration `n`. -/
theorem Step.under_of_mem_bodyVisits : ∀ (body : List Step) (p : StepPath) (n j : Nat),
    ∀ v ∈ Step.bodyVisits body p n j, UnderChildren p.segments (some n) j v.path
  | [], p, n, j => by
    intro v hv
    simp [Step.bodyVisits] at hv
  | c :: rest, p, n, j => by
    intro v hv
    rw [Step.bodyVisits] at hv
    rcases List.mem_append.mp hv with hv | hv
    · exact ⟨j, le_rfl, Step.prefix_of_mem_visits c (p.iterationChild n j) (some n) v hv⟩
    · obtain ⟨j', hj, h⟩ := Step.under_of_mem_bodyVisits rest p n (j + 1) v hv
      exact ⟨j', by omega, h⟩

end

theorem Step.under_of_mem_rootVisits (steps : List Step) (i : Nat) :
    ∀ v ∈ Step.rootVisits steps i, UnderChildren [] none i v.path := by
  induction steps generalizing i with
  | nil => simp [Step.rootVisits]
  | cons s rest ih =>
    intro v hv
    rw [Step.rootVisits] at hv
    rcases List.mem_append.mp hv with hv | hv
    · exact ⟨i, le_rfl, Step.prefix_of_mem_visits s (StepPath.rootStep i) none v hv⟩
    · obtain ⟨i', hi, h⟩ := ih (i + 1) v hv
      exact ⟨i', by omega, h⟩

/-! ## No two visits share a path -/

mutual

theorem Step.nodup_visits : ∀ (s : Step) (p : StepPath) (it : Option Nat),
    ((s.visits p it).map Visit.path).Nodup
  | .mk kind params body, p, it => by
    rw [Step.visits, List.map_cons, List.nodup_cons]
    constructor
    · -- every later visit lies strictly below `p`
      intro hp
      obtain ⟨v, hv, hvp⟩ := List.mem_map.mp hp
      split at hv
      · obtain ⟨n, -, hn⟩ := List.mem_flatMap.mp hv
        obtain ⟨j, -, hj⟩ := Step.under_of_mem_bodyVisits body p n 0 v hn
        have hlen := hj.length_le
        rw [hvp] at hlen
        simp at hlen
      · simp at hv
    · split
      · rw [List.map_flatMap, List.nodup_flatMap]
        refine ⟨fun n _ => Step.nodup_bodyVisits body p n 0, List.nodup_range.imp ?_⟩
        -- visits of two iterations differ in the iteration tag below `p`
        intro n n' hnn x hx hx'
        obtain ⟨v, hv, rfl⟩ := List.mem_map.mp hx
        obtain ⟨v', hv', hvv⟩ := List.mem_map.mp hx'
        obtain ⟨j, -, hj⟩ := Step.under_of_mem_bodyVisits body p n 0 v hv
        obtain ⟨j', -, hj'⟩ := Step.under_of_mem_bodyVisits body p n' 0 v' hv'
        rw [hvv] at hj'
        have hs := segment_eq_of_prefix hj hj'
        simp only [Segment.mk.injEq, Option.some.injEq] at hs
        exact hnn hs.2
      · exact List.nodup_nil

theorem Step.nodup_bodyVisits : ∀ (body : List Step) (p : StepPath) (n j : Nat),
    ((Step.bodyVisits body p n j).map Visit.path).Nodup
  | [], p, n, j => by simp [Step.bodyVisits]
  | c :: rest, p, n, j => by
    rw [Step.bodyVisits, List.map_append]
    refine nodup_append_children p.segments (some n) j ?_ ?_
      (Step.nodup_visits c _ _) (Step.nodup_bodyVisits rest p n (j + 1))
    · intro x hx
      obtain ⟨v, hv, rfl⟩ := List.mem_map.mp hx
      exact Step.prefix_of_mem_visits c (p.iterationChild n j) (some n) v hv
    · intro x hx
      obtain ⟨v, hv, rfl⟩ := List.mem_map.mp hx
      exact Step.under_of_mem_bodyVisits rest p n (j + 1) v hv

end

theorem Step.nodup_rootVisits (steps : List Step) (i : Nat) :
    ((Step.rootVisits steps i).map Visit.path).Nodup := by
  induction steps generalizing i with
  | nil => simp [Step.rootVisits]
  | cons s rest ih =>
    rw [Step.rootVisits, List.map_append]
    refine nodup_append_children [] none i ?_ ?_
      (Step.nodup_visits s _ _) (ih (i + 1))
    · intro x hx
      obtain ⟨v, hv, rfl⟩ := List.mem_map.mp hx
      exact Step.prefix_of_mem_visits s (StepPath.rootStep i) none v hv
    · intro x hx
      obtain ⟨v, hv, rfl⟩ := List.mem_map.mp hx
      exact Step.under_of_mem_rootVisits rest (i + 1) v hv

/-- No two visits of a run are made at the same path. -/
theorem Workflow.nodup_visit_paths (w : Workflow) : (w.visits.map Visit.path).Nodup :=
  Step.nodup_rootVisits w.steps 0

@[simp] theorem Visit.path_entry (v : Visit) : v.entry.path = v.path := rfl

/-- Two visits of a run whose paths read the same are the same visit. -/
theorem Workflow.eq_of_render_eq {w : Workflow} {v v' : Visit} (hv : v ∈ w.visits)
    (hv' : v' ∈ w.visits) (h : v'.path.render = v.path.render) : v' = v :=
  List.inj_on_of_nodup_map w.nodup_visit_paths hv' hv (StepPath.render_injective h)

/-! ## Path texts in a run -/

section Run

variable (r : Runner)

/-- The trace entries of a run of visits are the entries of its first visits. -/
theorem Runner.entries_eq_take (vs : List Visit) (d : Desk) :
    ∃ k, r.entries vs (r.unroll vs d).1 = (vs.take k).map Visit.entry := by
  cases hs : (r.unroll vs d).1 with
  | none => exact ⟨vs.length, by rw [Runner.entries, List.take_length]⟩
  | some stop =>
    obtain ⟨pre, post, -, hvs, hlen, -, -⟩ := r.unroll_stop hs
    rw [Runner.entries]
    split
    · -- the stopping visit's entry is there: it follows the entries before it
      refine ⟨stop.index + 1, ?_⟩
      subst hvs
      simp [← hlen, List.take_append]
    · exact ⟨stop.index, by simp⟩

/-- A step path's text names one path. In a run of a workflow, on a trail with any trace, the
entries the run appends have pairwise different path texts, and each names exactly one visit
of the run: the visit it records. An error the run raises is placed at the path and kind of
a visit of the run, and the text of that path names no other visit. -/
theorem StepPath.render_names_one_visit :
    Function.Injective StepPath.render ∧
    ∀ (r : Runner) (w : Workflow) (t : Trail),
      (∃ E, (r.runRoots w.steps 0 [] t).2.trace.toList = t.trace.toList ++ E ∧
        (E.map fun e => e.path.render).Nodup ∧
        ∀ e ∈ E, ∃ v ∈ w.visits, v.entry = e ∧
          ∀ v' ∈ w.visits, v'.path.render = e.path.render → v' = v) ∧
      ∀ err, (r.runRoots w.steps 0 [] t).1 = .error err →
        ∃ p k f, err = .atStep p k f ∧ ∃ v ∈ w.visits, v.path = p ∧ v.step.kind = k ∧
          ∀ v' ∈ w.visits, v'.path.render = p.render → v' = v := by
  refine ⟨StepPath.render_injective, fun r w t => ⟨?_, ?_⟩⟩
  · obtain ⟨k, hk⟩ := r.entries_eq_take w.visits t.desk
    refine ⟨_, (r.runRoots_trace w t).trans (by rw [hk]), ?_, ?_⟩
    · have hn := (w.nodup_visit_paths.map StepPath.render_injective).sublist
        (List.take_sublist k _)
      simpa [List.map_take, Function.comp_def] using hn
    · intro e he
      obtain ⟨v, hv, rfl⟩ := List.mem_map.mp he
      have hv := List.mem_of_mem_take hv
      exact ⟨v, hv, rfl, fun v' hv' h => Workflow.eq_of_render_eq hv hv' h⟩
  · intro err herr
    obtain ⟨stop, hs, rfl⟩ := r.runRoots_error w t herr
    obtain ⟨pre, post, -, hvs, -, -, -⟩ := r.unroll_stop hs
    have hmem : stop.visit ∈ w.visits := by simp [hvs]
    exact ⟨_, _, _, rfl, stop.visit, hmem, rfl, rfl,
      fun v' hv' h => Workflow.eq_of_render_eq hmem hv' h⟩

end Run

end Runbook
