import Mathlib
import Runbook.Yaml.Document
/-!
# The moves of the reader of events

`Parse.Step` lists what one event can do to the reader's phase and its stack of phases to
come: read the one node of a document, read a node inside a collection after pushing the
phase that follows it, read a node left out as the empty scalar, close a collection, open
or close the one-pair mapping of an entry of a flow sequence, or start a document. Each
handler has a triple whose postcondition is one of these moves, and `next_step` reads from
them that every event the reader emits is one. The grammar of the loaded events is then
proved over `Step` alone, without opening a handler again.
-/

open Std.Do

set_option mvcgen.warning false

namespace Runbook.Yaml

/-- What a phase inside a collection expects next. -/
inductive Expect where
  | item
  | key
  | value
  | pairKey
  | pairValue
  | pairEnd
  deriving DecidableEq

/-- What is expected once a node has been read where `e` was expected; nothing follows the
value of a pair but its end. -/
def Expect.after : Expect → Option Expect
  | .item => some .item
  | .key => some .value
  | .value => some .key
  | .pairKey => some .pairValue
  | .pairValue => some .pairEnd
  | .pairEnd => none

/-- What a phase inside a collection expects next. -/
def Phase.expects : Phase → Option Expect
  | .blockSequenceFirstEntry | .blockSequenceEntry | .indentlessSequenceEntry
  | .flowSequenceFirstEntry | .flowSequenceEntry => some .item
  | .blockMappingFirstKey | .blockMappingKey | .flowMappingFirstKey | .flowMappingKey => some .key
  | .blockMappingValue | .flowMappingValue | .flowMappingEmptyValue => some .value
  | .flowSequenceEntryMappingKey => some .pairKey
  | .flowSequenceEntryMappingValue => some .pairValue
  | .flowSequenceEntryMappingEnd => some .pairEnd
  | _ => none

/-- Whether a phase reads the one node of a document. -/
def Phase.readsNode : Phase → Bool
  | .blockNode | .flowNode | .documentContent => true
  | _ => false

/-- Whether a phase starts a document or ends the stream. -/
def Phase.startsDocument : Phase → Bool
  | .implicitDocumentStart | .documentStart => true
  | _ => false

namespace Parse

/-- The moves of reading a node over a stack of phases: a scalar or an alias pops the stack,
and a collection start enters a phase that expects the collection's first entry. -/
inductive NodeStep : List Phase → Event → Phase → List Phase → Prop
  | alias (cs : List Phase) (name : String) :
      NodeStep cs (.alias name) (cs.head?.getD .finished) cs.tail
  | scalar (cs : List Phase) (anchor tag : Option String) (text : String) (style : Style) :
      NodeStep cs (.scalar anchor tag text style) (cs.head?.getD .finished) cs.tail
  | sequence (cs : List Phase) (anchor tag : Option String) {ph : Phase} :
      ph.expects = some .item → NodeStep cs (.sequenceStart anchor tag) ph cs
  | mapping (cs : List Phase) (anchor tag : Option String) {ph : Phase} :
      ph.expects = some .key → NodeStep cs (.mappingStart anchor tag) ph cs

/-- The moves of the reader of events: what one event does to the phase and the stack. -/
inductive Step : Phase → List Phase → Event → Phase → List Phase → Prop
  /-- The one node of a document. -/
  | node {ph : Phase} {cs : List Phase} {ev : Event} {ph' : Phase} {cs' : List Phase} :
      ph.readsNode → NodeStep cs ev ph' cs' → Step ph cs ev ph' cs'
  /-- A node inside a collection, read after pushing the phase that follows it. -/
  | child {ph c : Phase} {cs : List Phase} {ev : Event} {ph' : Phase} {cs' : List Phase}
      {e e' : Expect} : ph.expects = some e → e.after = some e' → c.expects = some e' →
      NodeStep (c :: cs) ev ph' cs' → Step ph cs ev ph' cs'
  /-- A node left out, read as the empty scalar. -/
  | empty {ph c : Phase} {cs : List Phase} {e e' : Expect} : ph.expects = some e →
      e.after = some e' → c.expects = some e' → Step ph cs Event.empty c cs
  | closeSequence {ph : Phase} {cs : List Phase} : ph.expects = some .item →
      Step ph cs .sequenceEnd (cs.head?.getD .finished) cs.tail
  | closeMapping {ph : Phase} {cs : List Phase} : ph.expects = some .key →
      Step ph cs .mappingEnd (cs.head?.getD .finished) cs.tail
  /-- A `?` entry of a flow sequence opens a mapping of one pair. -/
  | openPair {ph : Phase} {cs : List Phase} : ph.expects = some .item →
      Step ph cs (.mappingStart none none) .flowSequenceEntryMappingKey cs
  | closePair {cs : List Phase} :
      Step .flowSequenceEntryMappingEnd cs .mappingEnd .flowSequenceEntry cs
  | streamStart {cs : List Phase} : Step .streamStart cs .streamStart .implicitDocumentStart cs
  | documentStart {ph ph' : Phase} {cs : List Phase} : ph.startsDocument → ph'.readsNode →
      Step ph cs .documentStart ph' (.documentEnd :: cs)
  | streamEnd {ph : Phase} {cs : List Phase} : ph.startsDocument →
      Step ph cs .streamEnd .finished cs
  | documentEnd {cs : List Phase} : Step .documentEnd cs .documentEnd .documentStart cs

/-- A fact a triple gives about every run that succeeds. -/
theorem run_of_triple {α : Type} {x : Parse α} {P : Parsing → Prop} {Q : α → Parsing → Prop}
    (h : ⦃fun s => ⌜P s⌝⦄ x ⦃⇓? a s' => ⌜Q a s'⌝⦄) {p p' : Parsing} {a : α}
    (hp : P p) (hrun : x.run p = .ok (a, p')) : Q a p' := by
  have hwp := h p hp
  have key : wp⟦x⟧ (⇓? a s' => ⌜Q a s'⌝) p = wp⟦x.run p⟧ (⇓? r => ⌜Q r.1 r.2⌝) := by
    rw [WP.StateT_run]
    rfl
  rw [key, hrun, show (Except.ok (a, p') : Except ReadError (α × Parsing)) = pure (a, p') from rfl,
    WP.pure] at hwp
  exact hwp

@[spec] theorem failAt_spec {α : Type} (problem : String) (m : Mark)
    (context : Option (String × Mark)) :
    ⦃⌜True⌝⦄ (failAt problem m context : Parse α) ⦃⇓? _ => ⌜False⌝⦄ := by
  rw [show (failAt problem m context : Parse α) =
    StateT.lift (.error (.malformed problem m context)) from rfl]
  mvcgen

@[spec] theorem parseNode_spec (block indentless : Bool) (cs : List Phase) :
    ⦃fun p => ⌜p.phases = cs⌝⦄ parseNode block indentless
      ⦃⇓? r p' => ⌜NodeStep cs r.1 p'.phase p'.phases⌝⦄ := by
  mvcgen [parseNode, peek, skip, onTokens, setPhase, popPhase]
  all_goals simp_all +zetaDelta
  all_goals constructor <;> rfl

theorem skipDocumentEnds_spec (n : Nat) (cs : List Phase) :
    ⦃fun p => ⌜p.phases = cs⌝⦄ skipDocumentEnds n ⦃⇓? _ p' => ⌜p'.phases = cs⌝⦄ := by
  induction n with
  | zero => mvcgen [skipDocumentEnds, peek, onTokens]
  | succ n ih =>
    mvcgen [skipDocumentEnds, peek, skip, onTokens, ih]

theorem directives_spec (seen : Bool) (n : Nat) (cs : List Phase) :
    ⦃fun p => ⌜p.phases = cs⌝⦄ directives seen n ⦃⇓? _ p' => ⌜p'.phases = cs⌝⦄ := by
  induction n generalizing seen with
  | zero => mvcgen [directives]
  | succ n ih =>
    mvcgen [directives, peek, skip, onTokens, ih]

theorem processDirectives_spec (cs : List Phase) :
    ⦃fun p => ⌜p.phases = cs⌝⦄ processDirectives ⦃⇓? _ p' => ⌜p'.phases = cs⌝⦄ := by
  mvcgen [processDirectives, fuel, directives_spec]
  simp_all +zetaDelta

theorem streamStart_spec (cs : List Phase) :
    ⦃fun p => ⌜p.phases = cs⌝⦄ streamStart
      ⦃⇓? r p' => ⌜Step .streamStart cs r.1 p'.phase p'.phases⌝⦄ := by
  mvcgen [streamStart, peek, skip, onTokens, setPhase]
  all_goals simp_all +zetaDelta
  exact .streamStart

theorem documentStart_spec (implicit : Bool) (cs : List Phase) :
    ⦃fun p => ⌜p.phases = cs⌝⦄ documentStart implicit
      ⦃⇓? r p' => ⌜Step (if implicit then .implicitDocumentStart else .documentStart) cs r.1
        p'.phase p'.phases⌝⦄ := by
  mvcgen [documentStart, peek, skip, onTokens, setPhase, pushPhase, fuel, skipDocumentEnds_spec,
    processDirectives_spec]
  all_goals simp_all +zetaDelta
  all_goals first | exact .documentStart rfl rfl | exact .streamEnd rfl

theorem documentContent_spec (cs : List Phase) :
    ⦃fun p => ⌜p.phases = cs⌝⦄ documentContent
      ⦃⇓? r p' => ⌜Step .documentContent cs r.1 p'.phase p'.phases⌝⦄ := by
  mvcgen [documentContent, peek, onTokens, popPhase]
  all_goals simp_all +zetaDelta
  -- an empty document holds the empty scalar; otherwise its node is read
  all_goals first | exact .node rfl (.scalar _ _ _ _ _) | exact .node rfl

theorem documentEnd_spec (cs : List Phase) :
    ⦃fun p => ⌜p.phases = cs⌝⦄ documentEnd
      ⦃⇓? r p' => ⌜Step .documentEnd cs r.1 p'.phase p'.phases⌝⦄ := by
  mvcgen [documentEnd, peek, skip, onTokens, setPhase]
  all_goals simp_all +zetaDelta
  all_goals exact .documentEnd

theorem blockSequenceEntry_spec (first : Bool) (cs : List Phase) :
    ⦃fun p => ⌜p.phases = cs⌝⦄ blockSequenceEntry first
      ⦃⇓? r p' => ⌜Step (if first then .blockSequenceFirstEntry else .blockSequenceEntry) cs r.1
        p'.phase p'.phases⌝⦄ := by
  mvcgen [blockSequenceEntry, peek, skip, onTokens, setPhase, pushPhase, popPhase, pushMark,
    popMark]
  all_goals simp_all +zetaDelta
  -- each branch reads an entry, reads an entry left out, or ends the sequence
  all_goals first | exact .child rfl rfl rfl | exact .empty rfl rfl rfl | exact .closeSequence rfl

theorem indentlessSequenceEntry_spec (cs : List Phase) :
    ⦃fun p => ⌜p.phases = cs⌝⦄ indentlessSequenceEntry
      ⦃⇓? r p' => ⌜Step .indentlessSequenceEntry cs r.1 p'.phase p'.phases⌝⦄ := by
  mvcgen [indentlessSequenceEntry, peek, skip, onTokens, setPhase, pushPhase, popPhase]
  all_goals simp_all +zetaDelta
  all_goals first | exact .child rfl rfl rfl | exact .empty rfl rfl rfl | exact .closeSequence rfl

theorem blockMappingKey_spec (first : Bool) (cs : List Phase) :
    ⦃fun p => ⌜p.phases = cs⌝⦄ blockMappingKey first
      ⦃⇓? r p' => ⌜Step (if first then .blockMappingFirstKey else .blockMappingKey) cs r.1
        p'.phase p'.phases⌝⦄ := by
  mvcgen [blockMappingKey, peek, skip, onTokens, setPhase, pushPhase, popPhase, pushMark,
    popMark]
  all_goals simp_all +zetaDelta
  all_goals first | exact .child rfl rfl rfl | exact .empty rfl rfl rfl | exact .closeMapping rfl

theorem blockMappingValue_spec (cs : List Phase) :
    ⦃fun p => ⌜p.phases = cs⌝⦄ blockMappingValue
      ⦃⇓? r p' => ⌜Step .blockMappingValue cs r.1 p'.phase p'.phases⌝⦄ := by
  mvcgen [blockMappingValue, peek, skip, onTokens, setPhase, pushPhase]
  all_goals simp_all +zetaDelta
  all_goals first | exact .child rfl rfl rfl | exact .empty rfl rfl rfl

theorem flowSequenceEntry_spec (first : Bool) (cs : List Phase) :
    ⦃fun p => ⌜p.phases = cs⌝⦄ flowSequenceEntry first
      ⦃⇓? r p' => ⌜Step (if first then .flowSequenceFirstEntry else .flowSequenceEntry) cs r.1
        p'.phase p'.phases⌝⦄ := by
  mvcgen [flowSequenceEntry, peek, skip, onTokens, setPhase, pushPhase, popPhase, pushMark,
    popMark]
  all_goals simp_all +zetaDelta
  all_goals first | exact .child rfl rfl rfl | exact .openPair rfl | exact .closeSequence rfl

theorem flowSequenceEntryMappingKey_spec (cs : List Phase) :
    ⦃fun p => ⌜p.phases = cs⌝⦄ flowSequenceEntryMappingKey
      ⦃⇓? r p' => ⌜Step .flowSequenceEntryMappingKey cs r.1 p'.phase p'.phases⌝⦄ := by
  mvcgen [flowSequenceEntryMappingKey, peek, skip, onTokens, setPhase, pushPhase]
  all_goals simp_all +zetaDelta
  all_goals first | exact .child rfl rfl rfl | exact .empty rfl rfl rfl

theorem flowSequenceEntryMappingValue_spec (cs : List Phase) :
    ⦃fun p => ⌜p.phases = cs⌝⦄ flowSequenceEntryMappingValue
      ⦃⇓? r p' => ⌜Step .flowSequenceEntryMappingValue cs r.1 p'.phase p'.phases⌝⦄ := by
  mvcgen [flowSequenceEntryMappingValue, peek, skip, onTokens, setPhase, pushPhase]
  all_goals simp_all +zetaDelta
  all_goals first | exact .child rfl rfl rfl | exact .empty rfl rfl rfl

theorem flowSequenceEntryMappingEnd_spec (cs : List Phase) :
    ⦃fun p => ⌜p.phases = cs⌝⦄ flowSequenceEntryMappingEnd
      ⦃⇓? r p' => ⌜Step .flowSequenceEntryMappingEnd cs r.1 p'.phase p'.phases⌝⦄ := by
  mvcgen [flowSequenceEntryMappingEnd, peek, onTokens, setPhase]
  all_goals simp_all +zetaDelta
  exact .closePair

theorem flowMappingKey_spec (first : Bool) (cs : List Phase) :
    ⦃fun p => ⌜p.phases = cs⌝⦄ flowMappingKey first
      ⦃⇓? r p' => ⌜Step (if first then .flowMappingFirstKey else .flowMappingKey) cs r.1
        p'.phase p'.phases⌝⦄ := by
  mvcgen [flowMappingKey, peek, skip, onTokens, setPhase, pushPhase, popPhase, pushMark,
    popMark]
  all_goals simp_all +zetaDelta
  all_goals first | exact .child rfl rfl rfl | exact .empty rfl rfl rfl | exact .closeMapping rfl

theorem flowMappingValue_spec (empty : Bool) (cs : List Phase) :
    ⦃fun p => ⌜p.phases = cs⌝⦄ flowMappingValue empty
      ⦃⇓? r p' => ⌜Step (if empty then .flowMappingEmptyValue else .flowMappingValue) cs r.1
        p'.phase p'.phases⌝⦄ := by
  mvcgen [flowMappingValue, peek, skip, onTokens, setPhase, pushPhase]
  all_goals simp_all +zetaDelta
  all_goals first | exact .child rfl rfl rfl | exact .empty rfl rfl rfl

/-- A failure of the reader, as the verification conditions see it. -/
theorem throw_eq_lift {α : Type} (e : ReadError) : (throw e : Parse α) = StateT.lift (.error e) :=
  rfl

theorem next_spec (ph : Phase) (cs : List Phase) :
    ⦃fun p => ⌜p.phase = ph ∧ p.phases = cs⌝⦄ next
      ⦃⇓? r p' => ⌜Step ph cs r.1 p'.phase p'.phases⌝⦄ := by
  rw [next]
  simp only [throw_eq_lift]
  mvcgen [streamStart_spec, documentStart_spec, documentContent_spec, documentEnd_spec,
    blockSequenceEntry_spec, indentlessSequenceEntry_spec, blockMappingKey_spec,
    blockMappingValue_spec, flowSequenceEntry_spec, flowSequenceEntryMappingKey_spec,
    flowSequenceEntryMappingValue_spec, flowSequenceEntryMappingEnd_spec, flowMappingKey_spec,
    flowMappingValue_spec]
  all_goals simp_all +zetaDelta
  -- the root node of a document, in a block or a flow context
  all_goals (obtain ⟨rfl, -⟩ := ‹_ = ph ∧ _›; exact .node rfl)

/-- Every event the reader emits is one of its moves. -/
theorem next_step {p p' : Parsing} {ev : Event} {m : Mark} (h : next.run p = .ok ((ev, m), p')) :
    Step p.phase p.phases ev p'.phase p'.phases :=
  run_of_triple (next_spec p.phase p.phases) ⟨rfl, rfl⟩ h

end Parse

end Runbook.Yaml
