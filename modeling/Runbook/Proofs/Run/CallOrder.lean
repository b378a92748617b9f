import Runbook.Proofs.Run.OwnFaults
import Runbook.Proofs.Run.Click
/-!
# Checks before calls, and calls in a fixed order

Each rule of a step that holds no other steps plans its provider calls from its parameters
and the desk it starts on (`plannedCalls`). `Work.CallsAlong` says that work keeps to a plan,
whatever the bench answers: the calls it logs are a prefix of the plan, every call but the
last went through on the desk it was made on, and work that succeeds made the whole plan. `Work.ChecksAfter` says what work has logged when it refuses its parameters.
Both are assembled from rules for a provider call, a parameter read, a required text and a
fault.

Main statement: `leafStep_calls_follow_plan`: every rule keeps to its plan, and a rule
refused by its own checks has made no call, or only the query for the pointer's place.
-/

namespace Runbook

open Json Params Sheet

/-! ## Calls that go through -/

/-- Whether a call made on a desk goes through: its provider is present, the bench does not
refuse it there, and a read finds its file. -/
def Bench.GoesThrough (bench : Bench) (desk : Desk) (e : Event) : Prop :=
  e.provider?.bind bench.absent = none ∧ bench.refusal e desk = none ∧
    ∀ path, e = .read path → ∃ c, desk.files.read path = .ok c

/-- Whether calls made one after another from a desk each go through on the desk they are
made on, the first desk with the calls before them logged. -/
def Bench.PassFrom (bench : Bench) : Desk → List Event → Prop
  | _, [] => True
  | desk, e :: es => bench.GoesThrough desk e ∧ bench.PassFrom (desk.log e) es

@[simp] theorem Desk.log_files (desk : Desk) (e : Event) : (desk.log e).files = desk.files := rfl

@[simp] theorem Desk.log_events (desk : Desk) (e : Event) :
    (desk.log e).events = desk.events.push e := rfl

/-- Whether a fault comes from a rule's own checks of its parameters. -/
def Fault.isCheck : Fault → Bool
  | .missingParameter .. | .invalidParameter .. | .invalidOperator _ => true
  | _ => false

theorem Bench.work_onTrail (bench : Bench) (e : Event) (t : Trail) :
    (bench.work e).onTrail t =
      ((bench.call e t.desk).1, { t with desk := (bench.call e t.desk).2 }) :=
  rfl

theorem Bench.call_of_absent {bench : Bench} {e : Event} {reason : String}
    (h : e.provider?.bind bench.absent = some reason) (desk : Desk) :
    bench.call e desk = (.error (.unavailable e.capability reason), desk) := by
  simp only [Bench.call, h]

theorem Bench.call_of_refused {bench : Bench} {e : Event} {desk : Desk} {message : String}
    (h : e.provider?.bind bench.absent = none) (hf : bench.refusal e desk = some message) :
    bench.call e desk = (.error (.failed e.capability message), desk.log e) := by
  simp only [Bench.call, h, hf]

theorem Bench.call_of_passes {bench : Bench} {e : Event} {desk : Desk}
    (h : e.provider?.bind bench.absent = none) (hf : bench.refusal e desk = none) :
    bench.call e desk = (.ok (), desk.log e) := by
  simp only [Bench.call, h, hf]

@[simp] theorem Work.onTrail_throw {α : Type} (f : Fault) (t : Trail) :
    (throw f : Work α).onTrail t = (.error f, t) := rfl

theorem Work.onTrail_get_bind {α : Type} (k : Desk → Work α) (t : Trail) :
    (get >>= k).onTrail t = (k t.desk).onTrail t := rfl

theorem Work.onTrail_set_bind {α : Type} (d : Desk) (k : PUnit → Work α) (t : Trail) :
    (set d >>= k).onTrail t = (k ()).onTrail { t with desk := d } := rfl

theorem readParam_of_error {α : Type} {kind : StepKind} {params : Params} {key : String}
    {reader : Value → Except String (Option α)} {m : String}
    (h : reader ((params.lookup key).getD .null) = .error m) :
    readParam kind params key reader = throw (.invalidParameter kind "payload" m) := by
  unfold readParam
  rw [h]

/-! ## Keeping to a plan -/

/-- Work keeps to a plan of calls from a desk: the calls it logs are a prefix of the plan,
each call but the last went through on the desk it was made on, and when the work succeeds
it made the whole plan, every call going through. -/
def Work.CallsAlong {α : Type} (bench : Bench) (desk : Desk) (plan : List Event)
    (w : Work α) : Prop :=
  ∀ t : Trail, t.desk = desk →
    ∃ log : List Event,
      (w.onTrail t).2.desk.events.toList = desk.events.toList ++ log ∧ log <+: plan ∧
      bench.PassFrom desk log.dropLast ∧
      (∀ a, (w.onTrail t).1 = .ok a → log = plan ∧ bench.PassFrom desk plan)

section CallsAlong

variable {bench : Bench} {desk : Desk}

/-- Work that logs nothing keeps to the empty plan. -/
theorem Work.CallsAlong.of_silent {α : Type} {w : Work α}
    (h : ∀ t, (w.onTrail t).2.desk.events = t.desk.events) :
    Work.CallsAlong bench desk [] w := by
  intro t ht
  exact ⟨[], by rw [h, ht, List.append_nil], List.nil_prefix, trivial, fun _ _ => ⟨rfl, trivial⟩⟩

/-- A fault keeps to every plan: it logs nothing and does not succeed. -/
theorem Work.CallsAlong.throw {α : Type} (f : Fault) (plan : List Event) :
    Work.CallsAlong bench desk plan (throw f : Work α) := by
  intro t ht
  refine ⟨[], by simp [ht], List.nil_prefix, trivial, fun a h => ?_⟩
  cases h

/-- A call, followed by work keeping to a plan from the desk with the call logged when the
call went through, keeps to the plan with the call in front. `found` says what a call that
went through tells the rest; `missing` says the rest fails at once, logging nothing, when a
read finds no file. -/
theorem Work.CallsAlong.call_bind {β : Type} {e : Event} {plan : List Event} {k : Unit → Work β}
    (found : bench.GoesThrough desk e → Work.CallsAlong bench (desk.log e) plan (k ()))
    (missing : ∀ path err, e = .read path → desk.files.read path = .error err →
      ∀ t, t.desk = desk.log e → ∃ f, (k ()).onTrail t = (.error f, t)) :
    Work.CallsAlong bench desk (e :: plan) (bench.work e >>= k) := by
  intro t ht
  rw [Work.onTrail_bind, Bench.work_onTrail, ht]
  cases ha : e.provider?.bind bench.absent with
  | some reason =>
    -- an absent provider refuses the call without logging it
    rw [Bench.call_of_absent ha]
    refine ⟨[], by simp, List.nil_prefix, trivial, fun a h => ?_⟩
    cases h
  | none =>
    cases hf : bench.refusal e desk with
    | some m =>
      -- the call is logged, then fails
      rw [Bench.call_of_refused ha hf]
      refine ⟨[e], by simp, List.cons_prefix_cons.mpr ⟨rfl, List.nil_prefix⟩, trivial,
        fun a h => ?_⟩
      cases h
    | none =>
      rw [Bench.call_of_passes ha hf]
      -- the rest runs on the trail with the call logged
      have ht' : ({ t with desk := desk.log e } : Trail).desk = desk.log e := rfl
      by_cases hgo : bench.GoesThrough desk e
      · obtain ⟨log, hlog, hpre, hlast, hok⟩ := found hgo _ ht'
        refine ⟨e :: log, ?_, List.cons_prefix_cons.mpr ⟨rfl, hpre⟩, ?_, ?_⟩
        · rw [hlog]
          simp
        · cases log with
          | nil => trivial
          | cons l ls =>
            rw [List.dropLast_cons_cons]
            exact ⟨hgo, hlast⟩
        · intro a h
          obtain ⟨rfl, hall⟩ := hok a h
          exact ⟨rfl, hgo, hall⟩
      · -- only a read whose file is missing fails past the bench, and the rest then stops
        have hread : ∃ path err, e = .read path ∧ desk.files.read path = .error err := by
          by_contra hno
          refine hgo ⟨ha, hf, fun path hp => ?_⟩
          cases hr : desk.files.read path with
          | ok c => exact ⟨c, rfl⟩
          | error err => exact absurd ⟨path, err, hp, hr⟩ hno
        obtain ⟨path, err, hp, hr⟩ := hread
        obtain ⟨f, hk⟩ := missing path err hp hr _ ht'
        simp only [hk]
        refine ⟨[e], by simp, List.cons_prefix_cons.mpr ⟨rfl, List.nil_prefix⟩, trivial,
          fun a h => ?_⟩
        cases h

/-- A call that is not a read, followed by work keeping to a plan, keeps to the plan with
the call in front. -/
theorem Work.CallsAlong.work_bind {β : Type} {e : Event} {plan : List Event} {k : Unit → Work β}
    (hread : ∀ path, e ≠ .read path) (hk : Work.CallsAlong bench (desk.log e) plan (k ())) :
    Work.CallsAlong bench desk (e :: plan) (bench.work e >>= k) :=
  call_bind (fun _ => hk) fun path _ hp => absurd hp (hread path)

/-- Calls that are not reads, made in order, followed by work keeping to a plan from every
desk. -/
theorem Work.CallsAlong.calls_bind {β : Type} {es plan : List Event} {k : Unit → Work β}
    (hread : ∀ e ∈ es, ∀ path, e ≠ .read path)
    (hk : ∀ desk : Desk, Work.CallsAlong bench desk plan (k ())) :
    Work.CallsAlong bench desk (es ++ plan) (bench.calls es >>= k) := by
  induction es generalizing desk with
  | nil => simpa using hk desk
  | cons e es ih =>
    rw [Bench.calls_cons, bind_assoc, List.cons_append]
    exact work_bind (hread e List.mem_cons_self)
      (ih fun e' he' => hread e' (List.mem_cons_of_mem e he'))

/-- Reading the desk, then work that keeps to a plan for the desk it read. -/
theorem Work.CallsAlong.get_bind {β : Type} {plan : List Event} {k : Desk → Work β}
    (hk : Work.CallsAlong bench desk plan (k desk)) :
    Work.CallsAlong bench desk plan (get >>= k) := by
  intro t ht
  rw [Work.onTrail_get_bind, ht]
  exact hk t ht

/-- A parameter read, then work keeping to a plan for every value the read accepts. -/
theorem Work.CallsAlong.readParam_bind {α β : Type} {kind : StepKind} {params : Params}
    {key : String} {reader : Value → Except String (Option α)} {plan : List Event}
    {k : Option α → Work β}
    (hk : ∀ v, reader ((params.lookup key).getD .null) = .ok v → Work.CallsAlong bench desk plan (k v)) :
    Work.CallsAlong bench desk plan (readParam kind params key reader >>= k) := by
  cases h : reader ((params.lookup key).getD .null) with
  | error m =>
    rw [readParam_of_error h, ExceptT.bind_throw]
    exact .throw _ _
  | ok v =>
    rw [readParam_of_ok h, pure_bind]
    exact hk v h

/-- A required text, then work keeping to a plan for every text that is not blank. -/
theorem Work.CallsAlong.required_bind {β : Type} {kind : StepKind} {name : String}
    {s : Option String} {plan : List Event} {k : String → Work β}
    (hk : ∀ v, s = some v → Work.CallsAlong bench desk plan (k v)) :
    Work.CallsAlong bench desk plan (required kind name s >>= k) := by
  unfold required
  split
  · split
    · rw [ExceptT.bind_throw]
      exact .throw _ _
    · rw [pure_bind]
      exact hk _ rfl
  · rw [ExceptT.bind_throw]
    exact .throw _ _

end CallsAlong

/-! ## Checks before calls -/

/-- When work refuses with a fault of its own checks, it has logged exactly `before`. -/
def Work.ChecksAfter {α : Type} (before : List Event) (w : Work α) : Prop :=
  ∀ t f, (w.onTrail t).1 = .error f → f.isCheck = true →
    (w.onTrail t).2.desk.events.toList = t.desk.events.toList ++ before

section ChecksAfter

variable {bench : Bench}

/-- Work that logs nothing has logged nothing when it refuses. -/
theorem Work.ChecksAfter.of_silent {α : Type} {w : Work α}
    (h : ∀ t, (w.onTrail t).2.desk.events = t.desk.events) : Work.ChecksAfter [] w := by
  intro t f _ _
  rw [h, List.append_nil]

/-- Work that never raises a fault of a check satisfies every `ChecksAfter`. -/
theorem Work.ChecksAfter.of_raises {α : Type} {before : List Event} {w : Work α}
    (h : Work.Raises (fun f => f.isCheck = false) w) : Work.ChecksAfter before w := by
  intro t f hf hc
  have := h t f _ (Prod.ext hf rfl)
  rw [this] at hc
  cases hc

/-- A call, then work that has logged `before` when it refuses: refusing, it has logged the
call and `before`. -/
theorem Work.ChecksAfter.work_bind {β : Type} {e : Event} {before : List Event}
    {k : Unit → Work β} (hk : Work.ChecksAfter before (k ())) :
    Work.ChecksAfter (e :: before) (bench.work e >>= k) := by
  intro t f hf hc
  rw [Work.onTrail_bind, Bench.work_onTrail] at hf ⊢
  cases ha : e.provider?.bind bench.absent with
  | some reason =>
    rw [Bench.call_of_absent ha] at hf
    cases hf
    cases hc
  | none =>
    cases hfl : bench.refusal e t.desk with
    | some m =>
      rw [Bench.call_of_refused ha hfl] at hf
      cases hf
      cases hc
    | none =>
      rw [Bench.call_of_passes ha hfl] at hf ⊢
      rw [hk _ f hf hc]
      simp

/-- Reading the desk, then work that has logged `before` when it refuses, whatever it read. -/
theorem Work.ChecksAfter.get_bind {β : Type} {before : List Event} {k : Desk → Work β}
    (hk : ∀ desk, Work.ChecksAfter before (k desk)) : Work.ChecksAfter before (get >>= k) := by
  intro t f hf hc
  rw [Work.onTrail_get_bind] at hf ⊢
  exact hk t.desk t f hf hc

/-- A parameter read, then work that logs nothing before its refusals. -/
theorem Work.ChecksAfter.readParam_bind {α β : Type} {kind : StepKind} {params : Params}
    {key : String} {reader : Value → Except String (Option α)} {k : Option α → Work β}
    (hk : ∀ v, Work.ChecksAfter [] (k v)) :
    Work.ChecksAfter [] (readParam kind params key reader >>= k) := by
  unfold readParam
  split
  · rw [pure_bind]
    exact hk _
  · rw [ExceptT.bind_throw]
    exact .of_silent fun _ => rfl

/-- A required text, then work that logs nothing before its refusals. -/
theorem Work.ChecksAfter.required_bind {β : Type} {kind : StepKind} {name : String}
    {s : Option String} {k : String → Work β} (hk : ∀ v, Work.ChecksAfter [] (k v)) :
    Work.ChecksAfter [] (required kind name s >>= k) := by
  unfold required
  split
  · split
    · rw [ExceptT.bind_throw]
      exact .of_silent fun _ => rfl
    · rw [pure_bind]
      exact hk _
  · rw [ExceptT.bind_throw]
    exact .of_silent fun _ => rfl

end ChecksAfter

/-! ## Rules that only check or only call -/

section Shapes

variable {bench : Bench} {desk : Desk}

/-- A rule that comes down to a fault keeps to every plan and logs nothing. -/
theorem Work.keeps_plan_of_eq_throw {α : Type} {w : Work α} {f : Fault} (bench : Bench)
    (desk : Desk) (plan : List Event) (h : w = throw f) :
    Work.CallsAlong bench desk plan w ∧ Work.ChecksAfter [] w := by
  subst h
  exact ⟨.throw f plan, .of_silent fun _ => rfl⟩

/-- A provider call raises no fault of a check. -/
theorem Bench.work_noCheck (bench : Bench) (e : Event) :
    Work.Raises (fun f => f.isCheck = false) (bench.work e) :=
  bench.raises_work e (fun _ _ => rfl) (fun _ _ => rfl)

/-- Calls made in order raise no fault of a check. -/
theorem Bench.calls_noCheck (bench : Bench) (es : List Event) :
    Work.Raises (fun f => f.isCheck = false) (bench.calls es) := by
  induction es with
  | nil => exact Work.raises_pure _
  | cons e es ih => exact Work.raises_bind (bench.work_noCheck e) fun _ => ih

/-- Calls that are not reads, made in order and then done, keep to the plan of those calls. -/
theorem Work.CallsAlong.calls_pure {β : Type} {es : List Event} {b : β}
    (hread : ∀ e ∈ es, ∀ path, e ≠ .read path) :
    Work.CallsAlong bench desk es (bench.calls es >>= fun _ => pure b) := by
  have h : Work.CallsAlong bench desk (es ++ []) (bench.calls es >>= fun _ => pure b) :=
    .calls_bind hread fun _ => .of_silent fun _ => rfl
  rwa [List.append_nil] at h

/-- Calls made in order and then done raise no fault of a check. -/
theorem Bench.calls_pure_noCheck {β : Type} (bench : Bench) (es : List Event) (b : β) :
    Work.Raises (fun f => f.isCheck = false) (bench.calls es >>= fun _ => pure b) :=
  Work.raises_bind (bench.calls_noCheck es) fun _ => Work.raises_pure _

end Shapes

/-! ## The plans -/

/-- The value a lenient reader gives a parameter; none when it is missing or refused. -/
def paramValue {α : Type} (params : Params) (key : String)
    (reader : Value → Except String (Option α)) : Option α :=
  match reader ((params.lookup key).getD .null) with
  | .ok v => v
  | .error _ => none

theorem paramValue_of_ok {α : Type} {params : Params} {key : String}
    {reader : Value → Except String (Option α)} {v : Option α}
    (h : reader ((params.lookup key).getD .null) = .ok v) : paramValue params key reader = v := by
  unfold paramValue
  rw [h]

/-- The size of the file at a path, zero when there is none. -/
def sizeAt (files : FileStore) (path : String) : Nat :=
  match files.read path with
  | .ok c => c.size
  | .error _ => 0

/-- The calls a rule plans, in order, for its parameters, a bench, its settings and the
desk it starts on. -/
def plannedCalls (bench : Bench) (settings : Settings) (desk : Desk) :
    StepKind → Params → List Event
  | .click, p =>
    match paramValue p "element" textMap, paramValue p "x" lenientInt,
      paramValue p "y" lenientInt with
    | some q, _, _ => [.locate q, .click (some (bench.bounds q desk).center)]
    | none, none, none => [.click none]
    | none, some x, some y => [.click (some (x, y))]
    | none, x, y =>
      [.cursor, .click (some (x.getD (bench.cursor desk).1, y.getD (bench.cursor desk).2))]
  | .input, p => [.type ((paramValue p "text" lenientString).getD "")]
  | .screenshot, _ => [.capture]
  | .fileCopy, p =>
    let src := (paramValue p "src" lenientString).getD ""
    [.read src, .write ((paramValue p "dst" lenientString).getD "") (sizeAt desk.files src)]
  | .excelWrite, p =>
    [.openWorkbook ((paramValue p "path" lenientString).getD ""),
      .setCell (nonBlank (paramValue p "sheet" lenientString))
        ((paramValue p "cell" lenientString).getD "")
        (CellValue.ofValue ((p.lookup "value").getD .null)),
      .saveWorkbook]
  | .notify, p =>
    match notifyMail settings (paramValue p "email" lenientString)
        (paramValue p "from_addr" lenientString) (paramValue p "message" lenientString)
        (paramValue p "smtp_server" lenientString) (paramValue p "subject" lenientString) with
    | some m => [.mail m]
    | none => []
  | .wait, _ | .condition, _ | .loop, _ => []

/-! ## Each rule keeps to its plan -/

section Rules

variable (bench : Bench) (settings : Settings) (desk : Desk) (params : Params)

theorem clickStep_keeps_plan :
    Work.CallsAlong bench desk (plannedCalls bench settings desk .click params)
        (clickStep bench params) ∧
      (Work.ChecksAfter [] (clickStep bench params) ∨
        Work.ChecksAfter [.cursor] (clickStep bench params)) := by
  -- a payload that does not read is refused before any call
  cases he : textMap ((params.lookup "element").getD .null) with
  | error m =>
    have hw : clickStep bench params = throw (.invalidParameter .click "payload" m) := by
      simp only [clickStep, readParam_of_error he, ExceptT.bind_throw]
    have h := Work.keeps_plan_of_eq_throw bench desk
      (plannedCalls bench settings desk .click params) hw
    exact ⟨h.1, .inl h.2⟩
  | ok element =>
  cases hx : lenientInt ((params.lookup "x").getD .null) with
  | error m =>
    have hw : clickStep bench params = throw (.invalidParameter .click "payload" m) := by
      simp only [clickStep, readParam_of_ok he, readParam_of_error hx, pure_bind,
        ExceptT.bind_throw]
    have h := Work.keeps_plan_of_eq_throw bench desk
      (plannedCalls bench settings desk .click params) hw
    exact ⟨h.1, .inl h.2⟩
  | ok x =>
  cases hy : lenientInt ((params.lookup "y").getD .null) with
  | error m =>
    have hw : clickStep bench params = throw (.invalidParameter .click "payload" m) := by
      simp only [clickStep, readParam_of_ok he, readParam_of_ok hx, readParam_of_error hy,
        pure_bind, ExceptT.bind_throw]
    have h := Work.keeps_plan_of_eq_throw bench desk
      (plannedCalls bench settings desk .click params) hw
    exact ⟨h.1, .inl h.2⟩
  | ok y =>
  simp only [plannedCalls, paramValue_of_ok he, paramValue_of_ok hx, paramValue_of_ok hy]
  cases element with
  | some q =>
    rw [clickStep_of_element he hx hy]
    exact ⟨.get_bind (.calls_pure (by simp)),
      .inl (.of_raises (Work.raises_bind Work.raises_get fun _ => bench.calls_pure_noCheck _ _))⟩
  | none =>
  cases x with
  | none =>
    cases y with
    | none =>
      rw [clickStep_of_no_position he hx hy]
      exact ⟨.calls_pure (by simp), .inl (.of_raises (bench.calls_pure_noCheck _ _))⟩
    | some vy =>
      rw [clickStep_of_y_only he hx hy]
      -- the pointer's place is asked before the coordinate is checked
      by_cases hfy : Fits32 vy
      · simp only [if_pos hfy]
        exact ⟨.get_bind (.work_bind (by simp) (.calls_pure (by simp))),
          .inr (.get_bind fun _ => .work_bind (.of_raises (bench.calls_pure_noCheck _ _)))⟩
      · simp only [if_neg hfy]
        exact ⟨.get_bind (.work_bind (by simp) (.throw _ _)),
          .inr (.get_bind fun _ => .work_bind (.of_silent fun _ => rfl))⟩
  | some vx =>
    cases y with
    | none =>
      rw [clickStep_of_x_only he hx hy]
      by_cases hfx : Fits32 vx
      · simp only [if_pos hfx]
        exact ⟨.get_bind (.work_bind (by simp) (.calls_pure (by simp))),
          .inr (.get_bind fun _ => .work_bind (.of_raises (bench.calls_pure_noCheck _ _)))⟩
      · simp only [if_neg hfx]
        exact ⟨.get_bind (.work_bind (by simp) (.throw _ _)),
          .inr (.get_bind fun _ => .work_bind (.of_silent fun _ => rfl))⟩
    | some vy =>
      rw [clickStep_of_both he hx hy]
      by_cases hfx : Fits32 vx
      · by_cases hfy : Fits32 vy
        · simp only [if_pos hfx, if_pos hfy]
          exact ⟨.calls_pure (by simp), .inl (.of_raises (bench.calls_pure_noCheck _ _))⟩
        · simp only [if_pos hfx, if_neg hfy]
          exact ⟨.throw _ _, .inl (.of_silent fun _ => rfl)⟩
      · simp only [if_neg hfx]
        exact ⟨.throw _ _, .inl (.of_silent fun _ => rfl)⟩

theorem inputStep_keeps_plan :
    Work.CallsAlong bench desk (plannedCalls bench settings desk .input params)
        (inputStep bench params) ∧
      Work.ChecksAfter [] (inputStep bench params) := by
  unfold inputStep
  refine ⟨.readParam_bind fun v hv => ?_, .readParam_bind fun _ => ?_⟩
  · simp only [plannedCalls, paramValue_of_ok hv]
    exact .work_bind (by simp) (.of_silent fun _ => rfl)
  · exact .of_raises (Work.raises_bind (bench.work_noCheck _) fun _ => Work.raises_pure _)

theorem screenshotStep_keeps_plan :
    Work.CallsAlong bench desk (plannedCalls bench settings desk .screenshot params)
        (screenshotStep bench params) ∧
      Work.ChecksAfter [] (screenshotStep bench params) := by
  unfold screenshotStep Bench.ask
  simp only [bind_assoc, pure_bind]
  refine ⟨.readParam_bind fun _ _ => ?_, .readParam_bind fun _ => ?_⟩
  · -- saving the picture changes the files and logs nothing
    refine .get_bind (.work_bind (by simp) (.of_silent fun t => ?_))
    rw [Work.onTrail_get_bind, Work.onTrail_set_bind]
    split <;> rfl
  · refine .of_raises (Work.raises_bind Work.raises_get fun _ =>
      Work.raises_bind (bench.work_noCheck _) fun _ => ?_)
    refine Work.raises_bind Work.raises_get fun _ => ?_
    refine Work.raises_bind (Work.raises_set _) fun _ => ?_
    split
    · exact Work.raises_pure _
    · exact Work.raises_throw rfl

theorem fileCopyStep_keeps_plan :
    Work.CallsAlong bench desk (plannedCalls bench settings desk .fileCopy params)
        (fileCopyStep bench params) ∧
      Work.ChecksAfter [] (fileCopyStep bench params) := by
  unfold fileCopyStep
  refine ⟨.readParam_bind fun dst hdst => .readParam_bind fun src hsrc =>
      .required_bind fun s hs => .required_bind fun d hd => ?_,
    .readParam_bind fun _ => .readParam_bind fun _ => .required_bind fun _ =>
      .required_bind fun _ => .of_raises ?_⟩
  · simp only [plannedCalls, paramValue_of_ok hdst, paramValue_of_ok hsrc, hs, hd, Option.getD_some]
    refine .call_bind (fun hgo => ?_) (fun path err hp hr t ht => ?_)
    · -- the file is there: its content is written, and writing logs nothing more
      obtain ⟨c, hc⟩ := hgo.2.2 s rfl
      refine .get_bind ?_
      simp only [Desk.log_files, hc, pure_bind, sizeAt]
      refine .work_bind (by simp) (.of_silent fun t => ?_)
      rw [Work.onTrail_get_bind]
      split
      · rw [Work.onTrail_set_bind]
        rfl
      · rfl
    · -- the file is missing: the copy stops with the file error
      cases hp
      refine ⟨.io err, ?_⟩
      rw [Work.onTrail_get_bind]
      simp only [ht, Desk.log_files, hr, ExceptT.bind_throw]
      rfl
  · refine Work.raises_bind (bench.work_noCheck _) fun _ => ?_
    refine Work.raises_bind Work.raises_get fun _ => ?_
    -- a missing source ends the copy with a file error; a found one goes on to the write
    dsimp only
    split
    swap
    · simp only [ExceptT.bind_throw]
      exact Work.raises_throw rfl
    rw [pure_bind]
    refine Work.raises_bind (bench.work_noCheck _) fun _ => ?_
    refine Work.raises_bind Work.raises_get fun _ => ?_
    split
    · exact Work.raises_bind (Work.raises_set _) fun _ => Work.raises_pure _
    · exact Work.raises_bind (Work.raises_throw rfl) fun _ => Work.raises_pure _

theorem excelWriteStep_keeps_plan :
    Work.CallsAlong bench desk (plannedCalls bench settings desk .excelWrite params)
        (excelWriteStep bench params) ∧
      Work.ChecksAfter [] (excelWriteStep bench params) := by
  unfold excelWriteStep
  refine ⟨.readParam_bind fun cell hcell => .readParam_bind fun path hpath =>
      .readParam_bind fun sheet hsheet => .required_bind fun p hp => .required_bind fun c hc => ?_,
    .readParam_bind fun _ => .readParam_bind fun _ => .readParam_bind fun _ =>
      .required_bind fun _ => .required_bind fun _ => ?_⟩
  · simp only [plannedCalls, paramValue_of_ok hcell, paramValue_of_ok hpath,
      paramValue_of_ok hsheet, hp, hc, Option.getD_some, ExceptT.bind_throw]
    split
    · exact .throw _ _
    · exact .work_bind (by simp) (.work_bind (by simp) (.work_bind (by simp)
        (.of_silent fun _ => rfl)))
  · -- a cell that is no reference is refused before the workbook is opened
    split
    · exact .of_silent fun _ => rfl
    · exact .of_raises (Work.raises_bind (bench.work_noCheck _) fun _ =>
        Work.raises_bind (bench.work_noCheck _) fun _ =>
        Work.raises_bind (bench.work_noCheck _) fun _ => Work.raises_pure _)

theorem notifyStep_keeps_plan :
    Work.CallsAlong bench desk (plannedCalls bench settings desk .notify params)
        (notifyStep bench settings params) ∧
      Work.ChecksAfter [] (notifyStep bench settings params) := by
  unfold notifyStep
  refine ⟨.readParam_bind fun email he => .readParam_bind fun fromAddr hf =>
      .readParam_bind fun message hm => .readParam_bind fun smtp hs =>
      .readParam_bind fun subject hsub => ?_,
    .readParam_bind fun _ => .readParam_bind fun _ => .readParam_bind fun _ =>
      .readParam_bind fun _ => .readParam_bind fun _ => .of_raises ?_⟩
  · simp only [plannedCalls, paramValue_of_ok he, paramValue_of_ok hf, paramValue_of_ok hm,
      paramValue_of_ok hs, paramValue_of_ok hsub]
    -- the plan and the step look at the same mail
    cases notifyMail settings email fromAddr message smtp subject with
    | none => exact .of_silent fun _ => rfl
    | some m => exact .work_bind (by simp) (.of_silent fun _ => rfl)
  · split
    · exact Work.raises_bind (bench.work_noCheck _) fun _ => Work.raises_pure _
    · exact Work.raises_pure _

theorem waitStep_keeps_plan :
    Work.CallsAlong bench desk (plannedCalls bench settings desk .wait params)
        (waitStep params) ∧
      Work.ChecksAfter [] (waitStep params) :=
  ⟨.readParam_bind fun _ _ => .of_silent fun _ => rfl,
    .readParam_bind fun _ => .of_silent fun _ => rfl⟩

theorem conditionStep_keeps_plan :
    Work.CallsAlong bench desk (plannedCalls bench settings desk .condition params)
        (conditionStep params) ∧
      Work.ChecksAfter [] (conditionStep params) := by
  have silent : ∀ t, ((conditionStep params).onTrail t).2.desk.events = t.desk.events := by
    intro t
    unfold conditionStep
    split <;> rfl
  exact ⟨.of_silent silent, .of_silent silent⟩

theorem loopStep_keeps_plan :
    Work.CallsAlong bench desk (plannedCalls bench settings desk .loop params)
        (leafStep bench settings .loop params) ∧
      Work.ChecksAfter [] (leafStep bench settings .loop params) := by
  rw [leafStep, loopCount, bind_assoc]
  exact ⟨.readParam_bind fun _ _ => .of_silent fun _ => rfl,
    .readParam_bind fun _ => .of_silent fun _ => rfl⟩

end Rules

/-- Every step that holds no other steps calls its providers in the order of its plan, on
every bench and from every desk: what it has logged is a prefix of the plan, every call but
the last went through, a step that completes has made every call of the plan, and a step
refused by a check of its parameters has logged nothing, or only the cursor query of a
click. -/
theorem leafStep_calls_follow_plan (bench : Bench) (settings : Settings) (desk : Desk)
    (kind : StepKind) (params : Params) :
    Work.CallsAlong bench desk (plannedCalls bench settings desk kind params)
        (leafStep bench settings kind params) ∧
      (Work.ChecksAfter [] (leafStep bench settings kind params) ∨
        Work.ChecksAfter [.cursor] (leafStep bench settings kind params)) := by
  -- only a click may have logged its cursor query when a check refuses it
  cases kind with
  | click => exact clickStep_keeps_plan bench settings desk params
  | input => exact (inputStep_keeps_plan bench settings desk params).imp_right .inl
  | screenshot => exact (screenshotStep_keeps_plan bench settings desk params).imp_right .inl
  | fileCopy => exact (fileCopyStep_keeps_plan bench settings desk params).imp_right .inl
  | excelWrite => exact (excelWriteStep_keeps_plan bench settings desk params).imp_right .inl
  | condition => exact (conditionStep_keeps_plan bench settings desk params).imp_right .inl
  | wait => exact (waitStep_keeps_plan bench settings desk params).imp_right .inl
  | notify => exact (notifyStep_keeps_plan bench settings desk params).imp_right .inl
  | loop => exact (loopStep_keeps_plan bench settings desk params).imp_right .inl

end Runbook
