import Runbook.Capture.Listener
import Mathlib
/-!
# The capture buffer only grows, by the elements of open connections

A listener's buffer is read against the history of events that led to it. A history leaves
the listener running, and connections open, as it starts, stops, connects and ends them;
a frame delivers its element when it arrives on a connection left open before it.
`Listener.Tracks` ties the listener to its history; every event keeps it, so every run
does, and the buffer grows at each event by what that event delivers.

Main statement: `Listener.buffer_grows_by_delivered_elements`: every snapshot is a prefix
of every later one, and the buffer is the delivered elements, each once, in the order of
their frames.
-/

namespace Runbook.Capture

open Json

/-! ## Frames that carry elements -/

/-- A frame carries an element exactly when it is text that holds one JSON value. -/
theorem Frame.element?_eq_some_iff {f : Frame} {v : Value} :
    f.element? = some v ↔ ∃ s, f = .text s ∧ Json.parse s = .ok v := by
  cases f
  case text s => cases h : Json.parse s <;> simp [Frame.element?, h]
  all_goals simp [Frame.element?]

/-- A frame that ends its connection carries no element. -/
theorem Frame.element?_eq_none_of_ends {f : Frame} (h : f.ends = true) : f.element? = none := by
  cases f <;> simp_all [Frame.ends, Frame.element?]

/-! ## What a history leaves open -/

/-- A history leaves the listener running: it starts it, and does not stop it after that
start. -/
def RunsAfter (hist : List Event) : Prop :=
  ∃ pre post, hist = pre ++ .start :: post ∧ .stop ∉ post

/-- A history leaves connection `c` open: it connects `c` while the listener runs, and
after that neither stops the listener nor ends `c` by a close frame or a failure. -/
def OpenAfter (hist : List Event) (c : Nat) : Prop :=
  ∃ pre post, hist = pre ++ .connect c :: post ∧ RunsAfter pre ∧ .stop ∉ post ∧
    ∀ f, .frame c f ∈ post → f.ends = false

/-- A split of a history one event longer lies at the new event or inside the old
history. -/
theorem snoc_eq_append_cons_iff {hist pre post : List Event} {e x : Event} :
    hist ++ [e] = pre ++ x :: post ↔
      (pre = hist ∧ x = e ∧ post = []) ∨ ∃ rest, hist = pre ++ x :: rest ∧ post = rest ++ [e] := by
  constructor
  · intro h
    rcases List.eq_nil_or_concat post with rfl | ⟨rest, y, rfl⟩
    · obtain ⟨rfl, hx⟩ := List.append_inj' h rfl
      exact .inl ⟨rfl, (List.singleton_inj.mp hx).symm, rfl⟩
    · have h' : hist ++ [e] = (pre ++ x :: rest) ++ [y] := by simpa using h
      obtain ⟨rfl, hy⟩ := List.append_inj' h' rfl
      rw [List.singleton_inj.mp hy]
      exact .inr ⟨rest, rfl, List.concat_eq_append⟩
  · rintro (⟨rfl, rfl, rfl⟩ | ⟨rest, rfl, rfl⟩) <;> simp

theorem not_runsAfter_nil : ¬RunsAfter [] := by
  rintro ⟨pre, post, h, -⟩
  simp at h

/-- The listener runs after one more event when that event starts it, or when it ran
before and the event does not stop it. -/
theorem runsAfter_snoc {hist : List Event} {e : Event} :
    RunsAfter (hist ++ [e]) ↔ e = .start ∨ (RunsAfter hist ∧ e ≠ .stop) := by
  constructor
  · rintro ⟨pre, post, hsplit, hstop⟩
    rcases snoc_eq_append_cons_iff.mp hsplit with ⟨rfl, rfl, rfl⟩ | ⟨rest, rfl, rfl⟩
    · exact .inl rfl
    · simp only [List.mem_append, List.mem_singleton, not_or] at hstop
      exact .inr ⟨⟨pre, rest, rfl, hstop.1⟩, Ne.symm hstop.2⟩
  · rintro (rfl | ⟨⟨pre, post, rfl, hstop⟩, hne⟩)
    · exact ⟨hist, [], by simp, List.not_mem_nil⟩
    · refine ⟨pre, post ++ [e], by simp, ?_⟩
      simp [hstop, Ne.symm hne]

theorem not_openAfter_nil (c : Nat) : ¬OpenAfter [] c := by
  rintro ⟨pre, post, h, -⟩
  simp at h

/-- A connection is open after one more event when that event connects it while the
listener runs, or when it was open before and the event neither stops the listener nor
ends the connection. -/
theorem openAfter_snoc {hist : List Event} {e : Event} {c : Nat} :
    OpenAfter (hist ++ [e]) c ↔
      (e = .connect c ∧ RunsAfter hist) ∨
        (OpenAfter hist c ∧ e ≠ .stop ∧ ∀ f, e = .frame c f → f.ends = false) := by
  constructor
  · rintro ⟨pre, post, hsplit, hrun, hstop, hends⟩
    rcases snoc_eq_append_cons_iff.mp hsplit with ⟨rfl, rfl, rfl⟩ | ⟨rest, rfl, rfl⟩
    · exact .inl ⟨rfl, hrun⟩
    · simp only [List.mem_append, List.mem_singleton, not_or] at hstop
      refine .inr ⟨⟨pre, rest, rfl, hrun, hstop.1, ?_⟩, Ne.symm hstop.2, ?_⟩
      · exact fun f hf => hends f (List.mem_append_left _ hf)
      · rintro f rfl
        exact hends f (List.mem_append_right _ (List.mem_singleton_self _))
  · rintro (⟨rfl, hrun⟩ | ⟨⟨pre, post, rfl, hrun, hstop, hends⟩, hne, hend⟩)
    · exact ⟨hist, [], by simp, hrun, List.not_mem_nil, by simp⟩
    · refine ⟨pre, post ++ [e], by simp, hrun, by simp [hstop, Ne.symm hne], ?_⟩
      intro f hf
      rcases List.mem_append.mp hf with hf | hf
      · exact hends f hf
      · exact hend f (List.mem_singleton.mp hf).symm

/-- A connection is only open while the listener runs. -/
theorem OpenAfter.runsAfter {hist : List Event} {c : Nat} (h : OpenAfter hist c) :
    RunsAfter hist := by
  obtain ⟨pre, post, rfl, ⟨pre', post', rfl, hstop'⟩, hstop, -⟩ := h
  exact ⟨pre', post' ++ .connect c :: post, by simp, by simp [hstop', hstop]⟩

/-! ## What a history delivers -/

open Classical in
/-- The elements an event delivers after history `hist`: a frame delivers the element it
carries when it arrives on a connection that the history leaves open. -/
noncomputable def deliveredBy (hist : List Event) : Event → List Value
  | .frame c f => if OpenAfter hist c then f.element?.toList else []
  | _ => []

/-- The elements the events `es` deliver after history `hist`, in the order they
arrive. -/
noncomputable def deliveredAfter (hist : List Event) : List Event → List Value
  | [] => []
  | e :: es => deliveredBy hist e ++ deliveredAfter (hist ++ [e]) es

theorem deliveredAfter_cons (hist : List Event) (e : Event) (es : List Event) :
    deliveredAfter hist (e :: es) = deliveredBy hist e ++ deliveredAfter (hist ++ [e]) es := rfl

theorem deliveredAfter_append (hist es more : List Event) :
    deliveredAfter hist (es ++ more) = deliveredAfter hist es ++ deliveredAfter (hist ++ es) more := by
  induction es generalizing hist with
  | nil => simp [deliveredAfter]
  | cons e es ih => simp [deliveredAfter, ih]

/-- A frame on an open connection delivers its element. -/
theorem deliveredBy_frame_of_openAfter {hist : List Event} {c : Nat} {f : Frame} {v : Value}
    (hopen : OpenAfter hist c) (hv : f.element? = some v) :
    deliveredBy hist (.frame c f) = [v] := by
  simp [deliveredBy, hopen, hv]

/-! ## One event -/

namespace Listener

variable (l : Listener)

@[simp] theorem run_nil : l.run [] = l := rfl

theorem run_cons (e : Event) (es : List Event) : l.run (e :: es) = (l.step e).run es := rfl

theorem run_append (es more : List Event) : l.run (es ++ more) = (l.run es).run more :=
  List.foldl_append

@[simp] theorem isRunning_start : l.start.isRunning = true := by
  unfold start
  split <;> simp_all [isRunning]

@[simp] theorem live_start : l.start.live = l.live := by
  unfold start
  split <;> rfl

@[simp] theorem elements_start : l.start.elements = l.elements := by
  unfold start
  split <;> rfl

/-- Starting a running listener keeps it as it is, its address included. -/
theorem start_of_isRunning {l : Listener} (h : l.isRunning = true) : l.start = l := by
  unfold start
  split
  · rfl
  · simp_all [isRunning]

@[simp] theorem isRunning_stop : l.stop.isRunning = false := rfl

@[simp] theorem live_stop : l.stop.live = [] := rfl

@[simp] theorem elements_stop : l.stop.elements = l.elements := rfl

@[simp] theorem isRunning_connect (c : Nat) : (l.connect c).isRunning = l.isRunning := by
  unfold connect
  split <;> rfl

theorem live_connect (c : Nat) :
    (l.connect c).live = if l.isRunning && !l.live.contains c then l.live ++ [c] else l.live := by
  unfold connect
  split <;> rfl

@[simp] theorem elements_connect (c : Nat) : (l.connect c).elements = l.elements := by
  unfold connect
  split <;> rfl

/-- Receiving a frame, said once: on an open connection of a running listener the frame
ends the connection or appends the element it carries, if any; elsewhere it is lost. -/
theorem receive_eq (c : Nat) (f : Frame) :
    l.receive c f =
      if (l.isRunning && l.live.contains c) = true then
        { l with live := if f.ends then l.live.erase c else l.live,
                 elements := l.elements ++ f.element?.toList }
      else l := by
  unfold receive
  split
  · split
    · rename_i hf
      simp [Frame.element?_eq_none_of_ends hf]
    · -- a frame that does not end the connection carries an element or nothing
      split
      next v hv => simp [hv]
      next hv => simp [hv]
  · rfl

@[simp] theorem isRunning_receive (c : Nat) (f : Frame) :
    (l.receive c f).isRunning = l.isRunning := by
  rw [receive_eq]
  split <;> rfl

theorem live_receive (c : Nat) (f : Frame) :
    (l.receive c f).live =
      if (l.isRunning && l.live.contains c) = true then
        (if f.ends then l.live.erase c else l.live)
      else l.live := by
  rw [receive_eq]
  split <;> rfl

theorem elements_receive (c : Nat) (f : Frame) :
    (l.receive c f).elements =
      l.elements ++ if (l.isRunning && l.live.contains c) = true then f.element?.toList else [] := by
  rw [receive_eq]
  split <;> simp

/-- What an event appends to a listener's buffer: the element of a frame that arrives on
an open connection of a running listener. -/
def appended : Event → List Value
  | .frame c f => if l.isRunning && l.live.contains c then f.element?.toList else []
  | _ => []

/-- Every event appends to the buffer, and nothing else. -/
theorem elements_step (e : Event) : (l.step e).elements = l.elements ++ l.appended e := by
  cases e with
  | start => simp [step, appended]
  | stop => simp [step, appended]
  | connect c => simp [step, appended]
  | frame c f => exact elements_receive l c f

/-- Every snapshot is a prefix of every later one. -/
theorem snapshot_prefix_run (es : List Event) : l.snapshot <+: (l.run es).snapshot := by
  induction es generalizing l with
  | nil => exact List.prefix_refl _
  | cons e es ih =>
    have hstep : l.snapshot <+: (l.step e).snapshot := by
      rw [snapshot, snapshot, elements_step]
      exact List.prefix_append _ _
    exact hstep.trans (ih (l.step e))

/-! ## A stopped listener -/

/-- Stopping a listener that is stopped and has no connections does nothing. -/
theorem stop_of_idle {l : Listener} (hrun : l.isRunning = false) (hlive : l.live = []) :
    l.stop = l := by
  cases l
  simp_all [stop, isRunning]

/-- A stopped listener with no connections is left as it is by every event but a start. -/
theorem step_of_idle {l : Listener} (hrun : l.isRunning = false) (hlive : l.live = [])
    {e : Event} (he : e ≠ .start) : l.step e = l := by
  cases e with
  | start => exact absurd rfl he
  | stop => exact stop_of_idle hrun hlive
  | connect c => simp [step, connect, hrun]
  | frame c f => simp [step, receive, hrun]

theorem run_of_idle {l : Listener} (hrun : l.isRunning = false) (hlive : l.live = [])
    {es : List Event} (hes : .start ∉ es) : l.run es = l := by
  induction es with
  | nil => rfl
  | cons e es ih =>
    rw [List.mem_cons, not_or] at hes
    rw [run_cons, step_of_idle hrun hlive (Ne.symm hes.1), ih hes.2]

/-! ## Listeners that track their history -/

/-- A listener tracks a history when its state says what the history did: it runs
exactly when the history leaves it running, and its connections, each listed once, are
those the history leaves open. -/
structure Tracks (l : Listener) (hist : List Event) : Prop where
  running : l.isRunning = true ↔ RunsAfter hist
  live : ∀ c, c ∈ l.live ↔ OpenAfter hist c
  nodup : l.live.Nodup

variable {l} {hist : List Event}

theorem tracks_create (host : String) (port assigned : Nat) :
    (Listener.create host port assigned).Tracks [] where
  running := by simp [Listener.create, isRunning, not_runsAfter_nil]
  live c := by simp [Listener.create, not_openAfter_nil]
  nodup := List.nodup_nil

/-- A frame reaches the buffer of a tracking listener exactly on an open connection. -/
theorem Tracks.connected_iff (ht : l.Tracks hist) (c : Nat) :
    (l.isRunning && l.live.contains c) = true ↔ OpenAfter hist c := by
  rw [Bool.and_eq_true, List.contains_iff_mem]
  constructor
  · rintro ⟨-, hc⟩
    exact (ht.live c).1 hc
  · intro h
    exact ⟨ht.running.2 h.runsAfter, (ht.live c).2 h⟩

/-- A stopped listener that tracks its history has no connections. -/
theorem Tracks.live_eq_nil (ht : l.Tracks hist) (hrun : l.isRunning = false) : l.live = [] := by
  rw [List.eq_nil_iff_forall_not_mem]
  intro c hc
  have := ht.running.2 ((ht.live c).1 hc).runsAfter
  simp_all

theorem Tracks.start (ht : l.Tracks hist) : l.start.Tracks (hist ++ [.start]) where
  running := by simp [runsAfter_snoc]
  live c := by simp [openAfter_snoc, ht.live c]
  nodup := by simpa using ht.nodup

theorem Tracks.stop (l : Listener) (hist : List Event) : l.stop.Tracks (hist ++ [.stop]) where
  running := by simp [runsAfter_snoc]
  live c := by simp [openAfter_snoc]
  nodup := List.nodup_nil

theorem Tracks.connect (ht : l.Tracks hist) (c' : Nat) :
    (l.connect c').Tracks (hist ++ [.connect c']) where
  running := by simpa [runsAfter_snoc] using ht.running
  live c := by
    rw [live_connect, openAfter_snoc, ← ht.running, ← ht.live]
    by_cases hcc : c' = c
    · subst hcc
      by_cases hrun : l.isRunning = true <;> by_cases hc : c' ∈ l.live <;> simp [hrun, hc]
    · by_cases hrun : l.isRunning = true <;> by_cases hc : c' ∈ l.live <;>
        simp [hrun, hc, hcc, Ne.symm hcc]
  nodup := by
    rw [live_connect]
    split
    · rename_i h
      simp at h
      exact ht.nodup.append (List.nodup_singleton c') (by simpa using h.2)
    · exact ht.nodup

theorem Tracks.receive (ht : l.Tracks hist) (c' : Nat) (f : Frame) :
    (l.receive c' f).Tracks (hist ++ [.frame c' f]) where
  running := by simpa [runsAfter_snoc] using ht.running
  live c := by
    rw [live_receive, openAfter_snoc]
    by_cases hopen : OpenAfter hist c'
    · rw [if_pos ((ht.connected_iff c').2 hopen)]
      by_cases hf : f.ends = true
      · rw [if_pos hf, ht.nodup.mem_erase_iff, ht.live c]
        by_cases hcc : c' = c
        · subst hcc
          simp [hf]
        · simp [hcc, Ne.symm hcc]
      · simp [hf, ht.live c]
    · rw [if_neg (mt (ht.connected_iff c').1 hopen), ht.live c]
      -- a frame on a connection that is not open changes nothing, and ends nothing open
      by_cases hcc : c' = c
      · subst hcc
        simp [hopen]
      · simp [hcc]
  nodup := by
    rw [live_receive]
    split
    · split
      · exact ht.nodup.erase c'
      · exact ht.nodup
    · exact ht.nodup

/-- Every event keeps a listener tracking its history. -/
theorem Tracks.step (ht : l.Tracks hist) (e : Event) : (l.step e).Tracks (hist ++ [e]) := by
  cases e with
  | start => exact ht.start
  | stop => exact Tracks.stop l hist
  | connect c => exact ht.connect c
  | frame c f => exact ht.receive c f

/-- Every run keeps a listener tracking its history. -/
theorem Tracks.run (ht : l.Tracks hist) (es : List Event) : (l.run es).Tracks (hist ++ es) := by
  induction es generalizing l hist with
  | nil => simpa using ht
  | cons e es ih =>
    rw [run_cons, List.append_cons]
    exact ih (ht.step e)

/-- A tracking listener appends exactly what an event delivers. -/
theorem Tracks.appended_eq (ht : l.Tracks hist) (e : Event) : l.appended e = deliveredBy hist e := by
  cases e with
  | frame c f =>
    simp only [appended, deliveredBy]
    by_cases h : OpenAfter hist c
    · rw [if_pos ((ht.connected_iff c).2 h), if_pos h]
    · rw [if_neg (mt (ht.connected_iff c).1 h), if_neg h]
  | start => rfl
  | stop => rfl
  | connect c => rfl

/-- The buffer of a tracking listener grows by what the events deliver. -/
theorem Tracks.snapshot_run (ht : l.Tracks hist) (es : List Event) :
    (l.run es).snapshot = l.snapshot ++ deliveredAfter hist es := by
  induction es generalizing l hist with
  | nil => simp [deliveredAfter]
  | cons e es ih =>
    rw [run_cons, ih (ht.step e), deliveredAfter, snapshot, snapshot, elements_step,
      ht.appended_eq, List.append_assoc]

/-! ## Created listeners -/

section Created

variable (host : String) (port assigned : Nat)

/-- The buffer of a created listener is, in arrival order, what its history delivers. -/
theorem snapshot_create_run (hist : List Event) :
    ((Listener.create host port assigned).run hist).snapshot = deliveredAfter [] hist := by
  have h := (tracks_create host port assigned).snapshot_run hist
  simpa [Listener.create, snapshot] using h

/-- A created listener runs exactly when its history leaves it running. -/
theorem isRunning_create_run (hist : List Event) :
    ((Listener.create host port assigned).run hist).isRunning = true ↔ RunsAfter hist := by
  simpa using ((tracks_create host port assigned).run hist).running

/-- Stopping a created listener that is stopped does nothing: it has no connections. -/
theorem stop_create_run {hist : List Event}
    (h : ((Listener.create host port assigned).run hist).isRunning = false) :
    ((Listener.create host port assigned).run hist).stop =
      (Listener.create host port assigned).run hist :=
  stop_of_idle h (((tracks_create host port assigned).run hist).live_eq_nil h)

/-- Two delivered elements keep the order in which their frames arrived. -/
theorem sublist_snapshot_of_delivered {before between after : List Event} {c c' : Nat}
    {f g : Frame} {v w : Value} (hc : OpenAfter before c) (hv : f.element? = some v)
    (hc' : OpenAfter (before ++ .frame c f :: between) c') (hw : g.element? = some w) :
    [v, w].Sublist ((Listener.create host port assigned).run
      (before ++ .frame c f :: between ++ .frame c' g :: after)).snapshot := by
  have hfirst := deliveredBy_frame_of_openAfter hc hv
  have hsecond := deliveredBy_frame_of_openAfter hc' hw
  rw [snapshot_create_run, deliveredAfter_append, List.nil_append, deliveredAfter_cons, hsecond,
    deliveredAfter_append, List.nil_append, deliveredAfter_cons, hfirst]
  -- the buffer reads `(_ ++ ([v] ++ _)) ++ ([w] ++ _)`
  exact List.Sublist.append (List.singleton_sublist.2 (by simp))
    (List.singleton_sublist.2 (by simp))

end Created

/-- The buffer of a listener only grows, and grows by the elements of open connections.
Every snapshot is a prefix of every later one, whatever the events between. The buffer of a
created listener is what its history delivers, in arrival order and each element once, so
two delivered elements stand in the order of their frames; an element is the value of a
text frame that holds one JSON value, nothing else. After a stop nothing changes until a
start. Starting a running listener keeps it, address included; a created listener runs
exactly when its history leaves it running, and stopping it when it is stopped does
nothing; a listener runs exactly when it has an address. -/
theorem buffer_grows_by_delivered_elements (host : String) (port assigned : Nat) :
    (∀ (l : Listener) (es more : List Event),
      (l.run es).snapshot <+: (l.run (es ++ more)).snapshot) ∧
    (∀ hist : List Event,
      ((Listener.create host port assigned).run hist).snapshot = deliveredAfter [] hist) ∧
    (∀ (before between after : List Event) (c c' : Nat) (f g : Frame) (v w : Value),
      OpenAfter before c → f.element? = some v →
      OpenAfter (before ++ .frame c f :: between) c' → g.element? = some w →
      [v, w].Sublist ((Listener.create host port assigned).run
        (before ++ .frame c f :: between ++ .frame c' g :: after)).snapshot) ∧
    (∀ (f : Frame) (v : Value), f.element? = some v ↔ ∃ s, f = .text s ∧ Json.parse s = .ok v) ∧
    (∀ (l : Listener) (es : List Event), .start ∉ es → l.stop.run es = l.stop) ∧
    (∀ l : Listener, l.isRunning = true → l.start = l) ∧
    (∀ hist : List Event,
      ((Listener.create host port assigned).run hist).isRunning = true ↔ RunsAfter hist) ∧
    (∀ hist : List Event, ((Listener.create host port assigned).run hist).isRunning = false →
      ((Listener.create host port assigned).run hist).stop =
        (Listener.create host port assigned).run hist) ∧
    (∀ l : Listener, l.isRunning = true ↔ l.address.isSome) := by
  refine ⟨fun l es more => ?_, snapshot_create_run host port assigned,
    fun _ _ _ _ _ _ _ _ _ hc hv hc' hw => sublist_snapshot_of_delivered host port assigned hc hv hc' hw,
    fun _ _ => Frame.element?_eq_some_iff, fun _ _ hes => run_of_idle rfl rfl hes,
    fun _ h => start_of_isRunning h, isRunning_create_run host port assigned,
    fun _ h => stop_create_run host port assigned h, fun _ => Iff.rfl⟩
  rw [run_append]
  exact snapshot_prefix_run _ _

theorem buffer_grows_by_delivered_elements_twoTexts :
    [Value.bool true, Value.bool false].Sublist
      ((Listener.create "127.0.0.1" 0 4000).run
        [.start, .connect 0, .frame 0 (.text "true"), .frame 0 (.text "false")]).snapshot ∧
    (Listener.create "127.0.0.1" 0 4000).stop.run [.connect 1, .frame 1 (.text "1")] =
      (Listener.create "127.0.0.1" 0 4000).stop ∧
    (Listener.create "127.0.0.1" 0 4000).start.start = (Listener.create "127.0.0.1" 0 4000).start ∧
    ((Listener.create "127.0.0.1" 0 4000).run [.start, .stop]).stop =
      (Listener.create "127.0.0.1" 0 4000).run [.start, .stop] := by
  have hall := buffer_grows_by_delivered_elements "127.0.0.1" 0 4000
  have hopen : OpenAfter [.start, .connect 0] 0 :=
    ⟨[.start], [], rfl, ⟨[], [], rfl, List.not_mem_nil⟩, List.not_mem_nil, by simp⟩
  have hopen' : OpenAfter ([.start, .connect 0] ++ [.frame 0 (.text "true")]) 0 :=
    openAfter_snoc.2 (.inr ⟨hopen, by simp, by simp [Frame.ends]⟩)
  refine ⟨hall.2.2.1 [.start, .connect 0] [] [] 0 0 _ _ _ _ hopen (by cbv) hopen' (by cbv),
    hall.2.2.2.2.1 _ _ (by simp), hall.2.2.2.2.2.1 _ rfl, hall.2.2.2.2.2.2.2.1 _ rfl⟩

end Listener

end Runbook.Capture
