import Runbook.Proofs.Yaml.EventSteps
import Runbook.Proofs.Config.Sections
/-!
# Loaded documents follow the grammar of events

While a document loads, its pieces so far are a node still open: each phase on the reader's
stack stands for one collection begun and not yet ended, and the reader's phase says what
its innermost collection has read up to the last piece. `Document.At` states this over the
pieces, and every move of `Parse.Step` keeps it when the piece of its event is added. When
the document ends, its pieces are one whole node, so every event that begins a node begins
a complete one: a document read to its end is well formed (`Loaded.ofString_wellFormed`).

Main statement: `Loaded.ofString_wellFormed`.
-/

namespace Runbook.Yaml

/-- What was expected where a node was read, when `e` is expected after it; a pair's key
opens its mapping and follows no node. -/
def Expect.before : Expect → Option Expect
  | .item => some .item
  | .key => some .value
  | .value => some .key
  | .pairKey => none
  | .pairValue => some .pairKey
  | .pairEnd => some .pairValue

theorem Expect.before_of_after {e e' : Expect} (h : e.after = some e') : e'.before = some e := by
  cases e <;> cases e' <;> simp_all [Expect.after, Expect.before]

theorem Expect.after_of_before {e e' : Expect} (h : e'.before = some e) : e.after = some e' := by
  cases e <;> cases e' <;> simp_all [Expect.after, Expect.before]

theorem Phase.expects_of_readsNode {ph : Phase} (h : ph.readsNode) : ph.expects = none := by
  cases ph <;> simp_all [Phase.readsNode, Phase.expects]

/-- The piece loading keeps for an event: the same kind of event, an alias by any number. -/
inductive Keeps : Event → Piece → Prop
  | alias (name : String) (id : Nat) : Keeps (.alias name) (.alias id)
  | scalar (anchor tag : Option String) (text : String) (style : Style) :
      Keeps (.scalar anchor tag text style) (.scalar tag text style)
  | sequenceStart (anchor tag : Option String) : Keeps (.sequenceStart anchor tag) .sequenceStart
  | sequenceEnd : Keeps .sequenceEnd .sequenceEnd
  | mappingStart (anchor tag : Option String) : Keeps (.mappingStart anchor tag) .mappingStart
  | mappingEnd : Keeps .mappingEnd .mappingEnd

/-! ## Stretches over growing documents -/

/-- Every piece of `d` stands at the same place in `d'`. -/
def Document.Extends (d d' : Document) : Prop :=
  ∀ p x, d.pieceKind p = some x → d'.pieceKind p = some x

section Stretches

variable {d d' : Document}

theorem Document.Extent.mono (hd : d.Extends d') {s : Stretch} {p q : Nat} (h : d.Extent s p q) :
    d'.Extent s p q := by
  induction h with
  | scalar hp => exact .scalar (hd _ _ hp)
  | aliasNode hp => exact .aliasNode (hd _ _ hp)
  | sequence hp _ hq ih => exact .sequence (hd _ _ hp) ih (hd _ _ hq)
  | mapping hp _ hq ih => exact .mapping (hd _ _ hp) ih (hd _ _ hq)
  | noItems p => exact .noItems p
  | item _ _ ih₁ ih₂ => exact .item ih₁ ih₂
  | noEntries p => exact .noEntries p
  | entry _ _ _ ih₁ ih₂ ih₃ => exact .entry ih₁ ih₂ ih₃

/-- One more node closes the items of a sequence read so far. -/
theorem Document.Extent.items_snoc {s : Stretch} {p q r : Nat} (h : d.Extent s p q)
    (hs : s = .items) (hn : d.Extent .node q r) : d.Extent .items p r := by
  induction h with
  | noItems p => exact .item hn (.noItems r)
  | item h₁ _ _ ih => exact .item h₁ (ih hs hn)
  | _ => cases hs

/-- A key and its value close the entries of a mapping read so far. -/
theorem Document.Extent.entries_snoc {s : Stretch} {p q r t : Nat} (h : d.Extent s p q)
    (hs : s = .entries) (hk : d.Extent .node q r) (hv : d.Extent .node r t) :
    d.Extent .entries p t := by
  induction h with
  | noEntries p => exact .entry hk hv (.noEntries t)
  | entry h₁ h₂ _ _ _ ih => exact .entry h₁ h₂ (ih hs hk)
  | _ => cases hs

/-- Within a collection from its start at `p` to its end at `q`, an event that begins a node
is the collection itself or lies among its contents, the end beginning none. -/
theorem Document.complete_of_begins_collection {p q r : Nat} (hnode : d.Extent .node p (q + 1))
    {y : Piece} (hq : d.pieceKind q = some y) (hy : ¬y.BeginsNode)
    (ih : p + 1 ≤ r → r < q → ∃ t, d.Extent .node r t) (hpr : p ≤ r) (hrq : r < q + 1)
    {x : Piece} (hx : d.pieceKind r = some x) (hb : x.BeginsNode) : ∃ t, d.Extent .node r t := by
  rcases Nat.lt_or_ge p r with hlt | hge
  · rcases Nat.lt_or_ge r q with hlt' | hge'
    · exact ih (by omega) hlt'
    · obtain rfl : r = q := by omega
      rw [hq] at hx
      cases hx
      exact absurd hb hy
  · obtain rfl : r = p := by omega
    exact ⟨_, hnode⟩

/-- Every event that begins a node inside a stretch begins a complete one. -/
theorem Document.Extent.complete_of_begins {s : Stretch} {p q : Nat} (h : d.Extent s p q) {r : Nat}
    (hpr : p ≤ r) (hrq : r < q) {x : Piece} (hx : d.pieceKind r = some x) (hb : x.BeginsNode) :
    ∃ t, d.Extent .node r t := by
  induction h with
  | @scalar p _ _ _ hp =>
    obtain rfl : r = p := by omega
    exact ⟨_, .scalar hp⟩
  | @aliasNode p _ hp =>
    obtain rfl : r = p := by omega
    exact ⟨_, .aliasNode hp⟩
  | sequence hp hi hq ih =>
    exact Document.complete_of_begins_collection (.sequence hp hi hq) hq id ih hpr hrq hx hb
  | mapping hp he hq ih =>
    exact Document.complete_of_begins_collection (.mapping hp he hq) hq id ih hpr hrq hx hb
  | noItems p => omega
  | @item p m q _ _ ih₁ ih₂ =>
    rcases Nat.lt_or_ge r m with hlt | hge
    · exact ih₁ hpr hlt
    · exact ih₂ hge hrq
  | noEntries p => omega
  | @entry p m n q _ _ _ ih₁ ih₂ ih₃ =>
    rcases Nat.lt_or_ge r m with hlt | hge
    · exact ih₁ hpr hlt
    · rcases Nat.lt_or_ge r n with hlt' | hge'
      · exact ih₂ hge hlt'
      · exact ih₃ hge' hrq

/-- A document whose pieces are one node follows the grammar of events. -/
theorem Document.wellFormed_of_extent (h : d.Extent .node 0 d.pieces.size) : d.WellFormed :=
  fun _ _ hx hb => h.complete_of_begins (Nat.zero_le _) (Document.lt_size_of_pieceKind hx) hx hb

end Stretches

/-! ## The invariant of loading -/

/-- `d.Inside start k W q`: a collection begins with `start` at some `s` where `W` holds, and
the pieces after it up to `q` are a stretch of kind `k`. -/
def Document.Inside (d : Document) (start : Piece) (k : Stretch) (W : Nat → Prop) (q : Nat) :
    Prop :=
  ∃ s, d.pieceKind s = some start ∧ d.Extent k (s + 1) q ∧ W s

/-- The pieces up to `q` inside an open collection that expects `e` next, `W` holding where
the collection began; the mapping of one pair sits inside its flow sequence. -/
def Document.Open (d : Document) (W : Nat → Prop) : Expect → Nat → Prop
  | .item, q => d.Inside .sequenceStart .items W q
  | .key, q => d.Inside .mappingStart .entries W q
  | .value, q => ∃ r, d.Inside .mappingStart .entries W r ∧ d.Extent .node r q
  | .pairKey, q => d.Inside .mappingStart .entries (d.Inside .sequenceStart .items W) q
  | .pairValue, q =>
    ∃ r, d.Inside .mappingStart .entries (d.Inside .sequenceStart .items W) r ∧ d.Extent .node r q
  | .pairEnd, q => d.Inside .mappingStart .entries (d.Inside .sequenceStart .items W) q

/-- `d.Awaits cs p`: the pieces before `p` wait for a node beginning at `p`, after which the
reader goes on with the stack `cs`. Under the document's end nothing precedes the node. -/
def Document.Awaits (d : Document) : List Phase → Nat → Prop
  | [], _ => False
  | c :: cs, p =>
    match c.expects.bind Expect.before with
    | some e => d.Open (d.Awaits cs) e p
    | none => c = .documentEnd ∧ p = 0

/-- `d.At ph cs q`: the pieces up to `q` are what the reader has read in phase `ph` with the
stack `cs`. Before a document nothing is read, and at its end its pieces are one node. -/
def Document.At (d : Document) (ph : Phase) (cs : List Phase) (q : Nat) : Prop :=
  match ph.expects with
  | some e => d.Open (d.Awaits cs) e q
  | none =>
    if ph.readsNode then d.Awaits cs q
    else if ph = .documentEnd then d.Extent .node 0 q
    else q = 0 ∧ cs = []

section Invariant

variable {d d' : Document} {W W' : Nat → Prop}

theorem Document.at_of_expects {ph : Phase} {e : Expect} (h : ph.expects = some e)
    (cs : List Phase) (q : Nat) : d.At ph cs q ↔ d.Open (d.Awaits cs) e q := by
  simp only [Document.At, h]

theorem Document.at_of_readsNode {ph : Phase} (h : ph.readsNode) (cs : List Phase) (q : Nat) :
    d.At ph cs q ↔ d.Awaits cs q := by
  simp only [Document.At, Phase.expects_of_readsNode h, h, if_true]

theorem Document.at_of_startsDocument {ph : Phase} (h : ph.startsDocument) (cs : List Phase)
    (q : Nat) : d.At ph cs q ↔ q = 0 ∧ cs = [] := by
  cases ph <;> simp_all [Phase.startsDocument, Document.At, Phase.expects, Phase.readsNode]

theorem Document.at_streamStart (cs : List Phase) (q : Nat) :
    d.At .streamStart cs q ↔ q = 0 ∧ cs = [] := by
  simp [Document.At, Phase.expects, Phase.readsNode]

theorem Document.at_documentEnd (cs : List Phase) (q : Nat) :
    d.At .documentEnd cs q ↔ d.Extent .node 0 q := by
  simp [Document.At, Phase.expects, Phase.readsNode]

theorem Document.not_awaits_nil (p : Nat) : ¬d.Awaits [] p := id

theorem Document.awaits_cons {c : Phase} {e e' : Expect} (hc : c.expects = some e')
    (hb : e'.before = some e) (cs : List Phase) (p : Nat) :
    d.Awaits (c :: cs) p ↔ d.Open (d.Awaits cs) e p := by
  simp only [Document.Awaits, hc, Option.bind_some, hb]

theorem Document.Inside.mono (hd : d.Extends d') (hW : ∀ s, W s → W' s) {start : Piece}
    {k : Stretch} {q : Nat} (h : d.Inside start k W q) : d'.Inside start k W' q := by
  obtain ⟨s, hs, he, hw⟩ := h
  exact ⟨s, hd _ _ hs, he.mono hd, hW s hw⟩

theorem Document.Open.mono (hd : d.Extends d') (hW : ∀ s, W s → W' s) {e : Expect} {q : Nat}
    (h : d.Open W e q) : d'.Open W' e q := by
  -- the pair's mapping sits inside its sequence, which is where `W` is looked at
  have hseq : ∀ s, d.Inside .sequenceStart .items W s → d'.Inside .sequenceStart .items W' s :=
    fun _ => Document.Inside.mono hd hW
  cases e
  case item | key => exact Document.Inside.mono hd hW h
  case value =>
    obtain ⟨r, hr, hn⟩ := h
    exact ⟨r, hr.mono hd hW, hn.mono hd⟩
  case pairKey | pairEnd => exact Document.Inside.mono hd hseq h
  case pairValue =>
    obtain ⟨r, hr, hn⟩ := h
    exact ⟨r, hr.mono hd hseq, hn.mono hd⟩

theorem Document.Awaits.mono (hd : d.Extends d') {cs : List Phase} {p : Nat}
    (h : d.Awaits cs p) : d'.Awaits cs p := by
  induction cs generalizing p with
  | nil => exact h
  | cons c cs ih =>
    unfold Document.Awaits at h ⊢
    split
    · rename_i e he
      rw [he] at h
      exact h.mono hd fun _ => ih
    · rename_i he
      rw [he] at h
      exact h

theorem Document.At.mono (hd : d.Extends d') {ph : Phase} {cs : List Phase} {q : Nat}
    (h : d.At ph cs q) : d'.At ph cs q := by
  unfold Document.At at h ⊢
  split
  · rename_i e he
    rw [he] at h
    exact h.mono hd fun _ => Document.Awaits.mono hd
  · rename_i he
    rw [he] at h
    split_ifs at h ⊢
    · exact h.mono hd
    · exact h.mono hd
    · exact h

/-- Where one node more was read, the collection expects what comes after it. -/
theorem Document.Open.advance {e e' : Expect} (he : e.after = some e') {p q : Nat}
    (h : d.Open W e p) (hn : d.Extent .node p q) : d.Open W e' q := by
  cases e <;> simp only [Expect.after, Option.some.injEq, reduceCtorEq] at he <;> subst he
  case item =>
    obtain ⟨s, hs, hi, hw⟩ := h
    exact ⟨s, hs, hi.items_snoc rfl hn, hw⟩
  -- a key read: its value is expected next
  case key | pairKey => exact ⟨p, h, hn⟩
  -- a value read: the entries now end with it
  case value | pairValue =>
    obtain ⟨r, ⟨s, hs, hes, hw⟩, hk⟩ := h
    exact ⟨s, hs, hes.entries_snoc rfl hk hn, hw⟩

/-- A node read where the stack waits for one leaves the reader at the phase on top of it. -/
theorem Document.Awaits.advance {c : Phase} {cs : List Phase} {p q : Nat}
    (h : d.Awaits (c :: cs) p) (hn : d.Extent .node p q) : d.At c cs q := by
  cases hc : c.expects with
  | none =>
    -- only the document's end waits for a node and expects nothing after it
    simp only [Document.Awaits, hc, Option.bind_none] at h
    obtain ⟨rfl, rfl⟩ := h
    exact (Document.at_documentEnd cs q).2 hn
  | some e' =>
    cases hb : e'.before with
    | none =>
      simp only [Document.Awaits, hc, Option.bind_some, hb] at h
      rw [h.1] at hc
      cases hc
    | some e =>
      rw [Document.awaits_cons hc hb] at h
      rw [Document.at_of_expects hc]
      exact h.advance (Expect.after_of_before hb) hn

/-- A node read where the stack waits for one pops the stack. -/
theorem Document.Awaits.pop {cs : List Phase} {p q : Nat} (h : d.Awaits cs p)
    (hn : d.Extent .node p q) : d.At (cs.head?.getD .finished) cs.tail q := by
  cases cs with
  | nil => exact absurd h (Document.not_awaits_nil p)
  | cons c cs => exact h.advance hn

theorem Document.Inside.closeSequence {q : Nat} (h : d.Inside .sequenceStart .items W q)
    (hq : d.pieceKind q = some .sequenceEnd) : ∃ s, d.Extent .node s (q + 1) ∧ W s := by
  obtain ⟨s, hs, hi, hw⟩ := h
  exact ⟨s, .sequence hs hi hq, hw⟩

theorem Document.Inside.closeMapping {q : Nat} (h : d.Inside .mappingStart .entries W q)
    (hq : d.pieceKind q = some .mappingEnd) : ∃ s, d.Extent .node s (q + 1) ∧ W s := by
  obtain ⟨s, hs, he, hw⟩ := h
  exact ⟨s, .mapping hs he hq, hw⟩

end Invariant

/-! ## Every move keeps the invariant -/

namespace Parse

section Moves

variable {d d' : Document} {ph ph' : Phase} {cs cs' : List Phase} {ev : Event} {x : Piece}
  {q : Nat}

/-- Reading a node where the stack waits for one, with its first piece added at `q`. -/
theorem NodeStep.keeps (hs : NodeStep cs ev ph' cs') (hk : Keeps ev x) (hd : d.Extends d')
    (hx : d'.pieceKind q = some x) (h : d.Awaits cs q) : d'.At ph' cs' (q + 1) := by
  have h' := h.mono hd
  cases hs with
  | «alias» name =>
    cases hk
    exact h'.pop (.aliasNode hx)
  | scalar anchor tag text style =>
    cases hk
    exact h'.pop (.scalar hx)
  | sequence anchor tag he =>
    cases hk
    exact (Document.at_of_expects he cs _).2 ⟨q, hx, .noItems _, h'⟩
  | mapping anchor tag he =>
    cases hk
    exact (Document.at_of_expects he cs _).2 ⟨q, hx, .noEntries _, h'⟩

/-- A move whose event adds a piece keeps the invariant over the document with that piece. -/
theorem Step.keeps (hs : Step ph cs ev ph' cs') (hk : Keeps ev x) (hd : d.Extends d')
    (hx : d'.pieceKind q = some x) (h : d.At ph cs q) : d'.At ph' cs' (q + 1) := by
  -- what was read stays in place in the document with the piece added
  have h' := h.mono hd
  cases hs with
  | node hr hn => exact hn.keeps hk hd hx ((Document.at_of_readsNode hr cs q).1 h)
  | child he ha hc hn =>
    rw [Document.at_of_expects he] at h
    exact hn.keeps hk hd hx ((Document.awaits_cons hc (Expect.before_of_after ha) cs q).2 h)
  | empty he ha hc =>
    -- a node left out is the one scalar piece
    cases hk
    rw [Document.at_of_expects he] at h'
    exact ((Document.awaits_cons hc (Expect.before_of_after ha) cs q).2 h').advance (.scalar hx)
  | closeSequence he =>
    cases hk
    rw [Document.at_of_expects he] at h'
    obtain ⟨s, hn, hw⟩ := h'.closeSequence hx
    exact hw.pop hn
  | closeMapping he =>
    cases hk
    rw [Document.at_of_expects he] at h'
    obtain ⟨s, hn, hw⟩ := h'.closeMapping hx
    exact hw.pop hn
  | openPair he =>
    cases hk
    rw [Document.at_of_expects he] at h'
    exact (Document.at_of_expects (e := .pairKey) rfl cs _).2 ⟨q, hx, .noEntries _, h'⟩
  | closePair =>
    -- the pair's mapping ends, and its sequence has one item more
    cases hk
    rw [Document.at_of_expects (e := .pairEnd) rfl] at h'
    obtain ⟨s, hn, t, ht, hi, hw⟩ := h'.closeMapping hx
    exact (Document.at_of_expects (e := .item) rfl cs _).2 ⟨t, ht, hi.items_snoc rfl hn, hw⟩
  | streamStart => cases hk
  | documentStart => cases hk
  | streamEnd => cases hk
  | documentEnd => cases hk

/-- The start of the stream and of a document add no piece and keep the invariant. -/
theorem Step.keeps_start (hs : Step ph cs ev ph' cs')
    (hev : ev = .streamStart ∨ ev = .documentStart) (h : d.At ph cs q) : d.At ph' cs' q := by
  cases hs with
  | node _ hn => cases hn <;> simp at hev
  | child _ _ _ hn => cases hn <;> simp at hev
  | empty => simp [Event.empty] at hev
  | streamStart =>
    rw [Document.at_of_startsDocument rfl]
    exact (Document.at_streamStart cs q).1 h
  | documentStart hph hph' =>
    obtain ⟨rfl, rfl⟩ := (Document.at_of_startsDocument hph cs q).1 h
    exact (Document.at_of_readsNode hph' _ 0).2 ⟨rfl, rfl⟩
  | _ => simp at hev

/-- The document ends only where its pieces are one node. -/
theorem Step.extent_of_documentEnd (hs : Step ph cs .documentEnd ph' cs') (h : d.At ph cs q) :
    d.Extent .node 0 q := by
  cases hs with
  | node _ hn => cases hn
  | child _ _ _ hn => cases hn
  | documentEnd => exact (Document.at_documentEnd cs q).1 h

/-- The stream ends only before a document, where nothing is read. -/
theorem Step.eq_zero_of_streamEnd (hs : Step ph cs .streamEnd ph' cs') (h : d.At ph cs q) :
    q = 0 := by
  cases hs with
  | node _ hn => cases hn
  | child _ _ _ hn => cases hn
  | streamEnd hph => exact ((Document.at_of_startsDocument hph cs q).1 h).1

end Moves

end Parse

/-! ## Loading -/

@[simp] theorem Loading.pieces_setAnchor (l : Loading) (anchor : Option String) :
    (l.setAnchor anchor).pieces = l.pieces := by
  cases anchor <;> rfl

/-- Adding a piece to a loading, its anchors set or not, extends the document and puts the
piece at the end. -/
theorem Loading.extends_add {l l' : Loading} (hl : l'.pieces = l.pieces) (x : Piece) (m : Mark) :
    (l.finish none).Extends ((l'.add x m).finish none) ∧
      ((l'.add x m).finish none).pieceKind l.pieces.size = some x := by
  refine ⟨fun p y hy => ?_, ?_⟩
  · have hp := Document.lt_size_of_pieceKind hy
    simp only [Document.pieceKind, Loading.finish, Loading.add, hl] at hy hp ⊢
    rw [Array.getElem?_push_lt hp, ← Array.getElem?_eq_getElem hp]
    exact hy
  · simp [Document.pieceKind, Loading.finish, Loading.add, hl]

/-- The stand-in for a text with no document follows the grammar: it begins no node. -/
theorem Loading.wellFormed_void {l : Loading} (h : l.pieces.size = 0) (m : Mark) :
    ((l.add .void m).finish none).WellFormed := by
  intro r x hx hb
  have hr := Document.lt_size_of_pieceKind hx
  simp only [Loading.finish, Loading.add, Array.size_push, h] at hr
  obtain rfl : r = 0 := by omega
  rw [← h, (Loading.extends_add rfl .void m).2] at hx
  cases hx
  exact hb.elim

/-- Loading from a state the invariant holds of gives, when it reads to the end of the
document, a well-formed document. Induction on the events left to read: every event is a
move of the reader, and every move keeps the invariant. -/
theorem loadEvents_wellFormed {n : Nat} {l : Loading} {p p' : Parsing} {D : Document}
    (h : (l.finish none).At p.phase p.phases l.pieces.size)
    (hl : loadEvents true l n p = (some D, p')) (hD : D.failure = none) : D.WellFormed := by
  -- a document whose loading stopped at an error was not read to its end
  have stopped : ∀ (l : Loading) (e : ReadError), l.finish (some e) ≠ D := by
    rintro l e rfl
    cases hD
  induction n generalizing l p with
  | zero =>
    simp only [loadEvents, Prod.mk.injEq, Option.some.injEq] at hl
    exact absurd hl.1 (stopped _ _)
  | succ n ih =>
    unfold loadEvents at hl
    cases hr : Parse.next.run p with
    | error e =>
      simp only [hr, Prod.mk.injEq, Option.some.injEq] at hl
      exact absurd hl.1 (stopped _ _)
    | ok r =>
      obtain ⟨⟨ev, m⟩, q⟩ := r
      have hs := Parse.next_step hr
      simp only [hr] at hl
      -- an event that adds a piece keeps the invariant, anchors set or not
      have hadd : ∀ l' : Loading, l'.pieces = l.pieces → ∀ x, Keeps ev x →
          ((l'.add x m).finish none).At q.phase q.phases (l'.add x m).pieces.size := by
        intro l' hl' x hk
        have hsize : (l'.add x m).pieces.size = l.pieces.size + 1 := by
          simp [Loading.add, hl']
        rw [hsize]
        exact hs.keeps hk (Loading.extends_add hl' x m).1 (Loading.extends_add hl' x m).2 h
      cases ev with
      | streamStart => exact ih (hs.keeps_start (.inl rfl) h) hl
      | documentStart => exact ih (hs.keeps_start (.inr rfl) h) hl
      | streamEnd =>
        -- the stream ends before any document: the stand-in event alone is loaded
        have h0 := hs.eq_zero_of_streamEnd h
        simp only [Array.isEmpty_iff_size_eq_zero, h0, if_true, Prod.mk.injEq,
          Option.some.injEq] at hl
        rw [← hl.1]
        exact Loading.wellFormed_void h0 m
      | documentEnd =>
        simp only [Prod.mk.injEq, Option.some.injEq] at hl
        rw [← hl.1]
        exact Document.wellFormed_of_extent (hs.extent_of_documentEnd h)
      | «alias» name =>
        cases hn : l.names.lookup name with
        | none =>
          simp only [hn, Prod.mk.injEq, Option.some.injEq] at hl
          exact absurd hl.1 (stopped _ _)
        | some id =>
          simp only [hn] at hl
          exact ih (hadd l rfl _ (.alias name id)) hl
      | scalar anchor tag text style =>
        exact ih (hadd _ (Loading.pieces_setAnchor l anchor) _ (.scalar anchor tag text style)) hl
      | sequenceStart anchor tag =>
        exact ih (hadd _ (Loading.pieces_setAnchor l anchor) _ (.sequenceStart anchor tag)) hl
      | sequenceEnd => exact ih (hadd l rfl _ .sequenceEnd) hl
      | mappingStart anchor tag =>
        exact ih (hadd _ (Loading.pieces_setAnchor l anchor) _ (.mappingStart anchor tag)) hl
      | mappingEnd => exact ih (hadd l rfl _ .mappingEnd) hl

/-- The first document of a text, read to its end, follows the grammar of events: every
event that begins a node begins a complete one. -/
theorem Loaded.ofString_wellFormed (text : String)
    (h : (Loaded.ofString text).document.failure = none) :
    (Loaded.ofString text).document.WellFormed := by
  unfold Loaded.ofString at h ⊢
  cases hf : forbiddenOffset text with
  | some offset => simp [hf] at h
  | none =>
    rcases hl : loadEvents true {} (8 * (text.length + 4)) (Parsing.ofString text) with
      ⟨_ | D, p⟩
    · simp [hf, hl] at h
    · simp only [hf, hl, Option.getD_some] at h ⊢
      -- at the start of the stream nothing is read
      exact loadEvents_wellFormed ((Document.at_streamStart [] 0).2 ⟨rfl, rfl⟩) hl h

end Runbook.Yaml
