import Runbook.Config.Load
import Runbook.Proofs.Workflow.Grammar
import Mathlib
/-!
# The sections of a configuration file

`Document.Extent` states the grammar of YAML events over the positions of a loaded
document: a node is a scalar, an alias, or a collection start, its contents and the
matching end, a mapping's contents being keys and values in turn. `Document.WellFormed`
says that every event beginning a node begins a complete one. On such a document the
entries of a mapping are its keys, each with the position where its value begins, and a
configuration read from it is the defaults with the file's settings in place.

Main statement: `Config.ofYaml_keeps_defaults`.
-/

namespace Runbook.Yaml

/-! ## The grammar of events -/

/-- The kind of the event at a position. -/
def Document.pieceKind (d : Document) (p : Nat) : Option Piece := (d.pieces[p]?).map Prod.fst

/-- Whether an event begins a node: a scalar, an alias, or a collection start. -/
def Piece.BeginsNode : Piece → Prop
  | .scalar .. | .alias _ | .sequenceStart | .mappingStart => True
  | _ => False

/-- What a stretch of events is read as: one node, the items of a sequence, or the entries
of a mapping. -/
inductive Stretch where
  | node
  | items
  | entries

/-- `d.Extent s p q`: the events from position `p` up to `q` are one stretch of kind `s`. -/
inductive Document.Extent (d : Document) : Stretch → Nat → Nat → Prop
  | scalar {p : Nat} {tag : Option String} {text : String} {style : Style} :
      d.pieceKind p = some (.scalar tag text style) → d.Extent .node p (p + 1)
  | aliasNode {p id : Nat} : d.pieceKind p = some (.alias id) → d.Extent .node p (p + 1)
  | sequence {p q : Nat} : d.pieceKind p = some .sequenceStart → d.Extent .items (p + 1) q →
      d.pieceKind q = some .sequenceEnd → d.Extent .node p (q + 1)
  | mapping {p q : Nat} : d.pieceKind p = some .mappingStart → d.Extent .entries (p + 1) q →
      d.pieceKind q = some .mappingEnd → d.Extent .node p (q + 1)
  | noItems (p : Nat) : d.Extent .items p p
  | item {p r q : Nat} : d.Extent .node p r → d.Extent .items r q → d.Extent .items p q
  | noEntries (p : Nat) : d.Extent .entries p p
  | entry {p r s q : Nat} : d.Extent .node p r → d.Extent .node r s → d.Extent .entries s q →
      d.Extent .entries p q

/-- A document follows the grammar of events when every event that begins a node begins a
complete one. -/
def Document.WellFormed (d : Document) : Prop :=
  ∀ p piece, d.pieceKind p = some piece → piece.BeginsNode → ∃ q, d.Extent .node p q

/-! ## Skipping a node -/

section Skip

variable {d : Document}

theorem Document.pieceAt_of_pieceKind {p : Nat} {piece : Piece} (h : d.pieceKind p = some piece) :
    ∃ m, d.pieceAt p = .ok (piece, m) := by
  unfold pieceKind at h
  unfold Document.pieceAt
  cases hp : d.pieces[p]? with
  | none => rw [hp] at h; cases h
  | some pm =>
    rw [hp] at h
    cases h
    exact ⟨pm.2, rfl⟩

theorem Document.skipFrom_of_start {p depth n : Nat} {piece : Piece} (h : d.pieceKind p = some piece)
    (hs : piece = .sequenceStart ∨ piece = .mappingStart) :
    d.skipFrom p depth (n + 1) = d.skipFrom (p + 1) (depth + 1) n := by
  obtain ⟨m, hm⟩ := Document.pieceAt_of_pieceKind h
  rcases hs with rfl | rfl <;> simp [Document.skipFrom, hm, bind, Except.bind]

theorem Document.skipFrom_of_end {p depth n : Nat} {piece : Piece} (h : d.pieceKind p = some piece)
    (hs : piece = .sequenceEnd ∨ piece = .mappingEnd) :
    d.skipFrom p depth (n + 1) =
      if depth ≤ 1 then .ok (p + 1) else d.skipFrom (p + 1) (depth - 1) n := by
  obtain ⟨m, hm⟩ := Document.pieceAt_of_pieceKind h
  rcases hs with rfl | rfl <;> simp [Document.skipFrom, hm, bind, Except.bind] <;> rfl

theorem Document.skipFrom_of_single {p depth n : Nat} {piece : Piece} (h : d.pieceKind p = some piece)
    (hs : piece ≠ .sequenceStart ∧ piece ≠ .mappingStart ∧ piece ≠ .sequenceEnd ∧
      piece ≠ .mappingEnd) :
    d.skipFrom p depth (n + 1) = if depth = 0 then .ok (p + 1) else d.skipFrom (p + 1) depth n := by
  obtain ⟨m, hm⟩ := Document.pieceAt_of_pieceKind h
  obtain ⟨h1, h2, h3, h4⟩ := hs
  cases piece <;> simp_all [Document.skipFrom, bind, Except.bind] <;> rfl

/-- Skipping from the start of a stretch of events goes past it: a node is skipped whole at
depth zero, and inside open collections every stretch is passed over, so the walk goes on
from its end at the same depth. -/
theorem Document.Extent.skip {s : Stretch} {p q : Nat} (h : d.Extent s p q) :
    p ≤ q ∧ ∀ depth n, (s = .node ∨ 0 < depth) →
      d.skipFrom p depth (n + (q - p)) = if depth = 0 then .ok q else d.skipFrom q depth n := by
  induction h with
  | scalar hp =>
    refine ⟨by omega, fun depth n _ => ?_⟩
    rw [show n + (_ + 1 - _) = n + 1 by omega]
    exact Document.skipFrom_of_single hp (by simp)
  | aliasNode hp =>
    refine ⟨by omega, fun depth n _ => ?_⟩
    rw [show n + (_ + 1 - _) = n + 1 by omega]
    exact Document.skipFrom_of_single hp (by simp)
  | @sequence p q hp _ hq ih =>
    obtain ⟨hle, hskip⟩ := ih
    refine ⟨by omega, fun depth n _ => ?_⟩
    -- the start opens a level, the items are passed over, and the end closes it again
    rw [show n + (q + 1 - p) = (n + 1 + (q - (p + 1))) + 1 by omega,
      Document.skipFrom_of_start hp (.inl rfl), hskip (depth + 1) (n + 1) (.inr (by omega)),
      if_neg (by omega), Document.skipFrom_of_end hq (.inl rfl)]
    by_cases h0 : depth = 0
    · simp [h0]
    · rw [if_neg (by omega), if_neg h0]
      rfl
  | @mapping p q hp _ hq ih =>
    obtain ⟨hle, hskip⟩ := ih
    refine ⟨by omega, fun depth n _ => ?_⟩
    rw [show n + (q + 1 - p) = (n + 1 + (q - (p + 1))) + 1 by omega,
      Document.skipFrom_of_start hp (.inr rfl), hskip (depth + 1) (n + 1) (.inr (by omega)),
      if_neg (by omega), Document.skipFrom_of_end hq (.inr rfl)]
    by_cases h0 : depth = 0
    · simp [h0]
    · rw [if_neg (by omega), if_neg h0]
      rfl
  | noItems p =>
    refine ⟨le_rfl, fun depth n hd => ?_⟩
    rcases hd with hd | hd
    · cases hd
    · rw [if_neg (by omega), Nat.sub_self, Nat.add_zero]
  | @item p r q _ _ ihn ihi =>
    obtain ⟨hpr, hnode⟩ := ihn
    obtain ⟨hrq, hitems⟩ := ihi
    refine ⟨by omega, fun depth n hd => ?_⟩
    rcases hd with hd | hd
    · cases hd
    rw [show n + (q - p) = (n + (q - r)) + (r - p) by omega, hnode depth _ (.inl rfl),
      if_neg (by omega), hitems depth n (.inr hd)]
  | noEntries p =>
    refine ⟨le_rfl, fun depth n hd => ?_⟩
    rcases hd with hd | hd
    · cases hd
    · rw [if_neg (by omega), Nat.sub_self, Nat.add_zero]
  | @entry p r s q _ _ _ ihk ihv ihe =>
    obtain ⟨hpr, hkey⟩ := ihk
    obtain ⟨hrs, hvalue⟩ := ihv
    obtain ⟨hsq, hentries⟩ := ihe
    refine ⟨by omega, fun depth n hd => ?_⟩
    rcases hd with hd | hd
    · cases hd
    rw [show n + (q - p) = ((n + (q - s)) + (s - r)) + (r - p) by omega,
      hkey depth _ (.inl rfl), if_neg (by omega), hvalue depth _ (.inl rfl), if_neg (by omega),
      hentries depth n (.inr hd)]

theorem Document.lt_size_of_pieceKind {p : Nat} {piece : Piece} (h : d.pieceKind p = some piece) :
    p < d.pieces.size := by
  by_contra hp
  unfold pieceKind at h
  rw [Array.getElem?_eq_none (by omega)] at h
  cases h

/-- A node begins with an event that begins a node. -/
theorem Document.Extent.begins {p q : Nat} (h : d.Extent .node p q) :
    ∃ piece, d.pieceKind p = some piece ∧ piece.BeginsNode := by
  cases h with
  | scalar hp => exact ⟨_, hp, trivial⟩
  | aliasNode hp => exact ⟨_, hp, trivial⟩
  | sequence hp _ _ => exact ⟨_, hp, trivial⟩
  | mapping hp _ _ => exact ⟨_, hp, trivial⟩

theorem Document.Extent.ne_mappingEnd {p q : Nat} (h : d.Extent .node p q) :
    d.pieceKind p ≠ some .mappingEnd := by
  obtain ⟨piece, hp, hb⟩ := h.begins
  rw [hp]
  rintro ⟨⟩
  exact hb

theorem Document.Extent.le_size {p q : Nat} (h : d.Extent .node p q) : q ≤ d.pieces.size := by
  cases h with
  | scalar hp => exact Document.lt_size_of_pieceKind hp
  | aliasNode hp => exact Document.lt_size_of_pieceKind hp
  | sequence _ _ hq => exact Document.lt_size_of_pieceKind hq
  | mapping _ _ hq => exact Document.lt_size_of_pieceKind hq

/-- The decoder's skipping of a node ends where the grammar says the node ends. -/
theorem Document.skipNode_of_extent {p q : Nat} (h : d.Extent .node p q) : d.skipNode p = .ok q := by
  have hle := h.le_size
  obtain ⟨hpq, hskip⟩ := h.skip
  unfold Document.skipNode
  rw [show d.pieces.size + 1 = (d.pieces.size + 1 - (q - p)) + (q - p) by omega,
    hskip 0 _ (.inl rfl), if_pos rfl]

/-- A node has one end: the grammar of events is unambiguous. -/
theorem Document.Extent.node_unique {p q q' : Nat} (h : d.Extent .node p q)
    (h' : d.Extent .node p q') : q = q' := by
  have hq := h.skip.2 0 (q' - p) (.inl rfl)
  have hq' := h'.skip.2 0 (q - p) (.inl rfl)
  rw [if_pos rfl, Nat.add_comm] at hq
  rw [if_pos rfl, hq] at hq'
  cases hq'
  rfl

/-- A node that does not open a collection is one event. -/
theorem Document.Extent.eq_succ {p q : Nat} (h : d.Extent .node p q)
    (hseq : d.pieceKind p ≠ some .sequenceStart) (hmap : d.pieceKind p ≠ some .mappingStart) :
    q = p + 1 := by
  cases h with
  | scalar _ => rfl
  | aliasNode _ => rfl
  | sequence hp _ _ => exact absurd hp hseq
  | mapping hp _ _ => exact absurd hp hmap

/-- A mapping node is its entries and the end of the mapping. -/
theorem Document.Extent.mapping_inv {p q : Nat} (h : d.Extent .node p q)
    (hp : d.pieceKind p = some .mappingStart) :
    ∃ r, d.Extent .entries (p + 1) r ∧ d.pieceKind r = some .mappingEnd ∧ q = r + 1 := by
  cases h with
  | scalar hs => rw [hp] at hs; cases hs
  | aliasNode hs => rw [hp] at hs; cases hs
  | sequence hs _ _ => rw [hp] at hs; cases hs
  | mapping _ he hr => exact ⟨_, he, hr, rfl⟩

end Skip

/-! ## The entries of a mapping -/

/-- `d.Entries p es q`: the events from `p` up to `q` are the entries `es` of a mapping, each
the position of its key with the position where its value begins. -/
inductive Document.Entries (d : Document) : Nat → List (Nat × Nat) → Nat → Prop
  | nil (p : Nat) : d.Entries p [] p
  | cons {p r s q : Nat} {es : List (Nat × Nat)} : d.Extent .node p r → d.Extent .node r s →
      d.Entries s es q → d.Entries p ((p, r) :: es) q

section Entries

variable {d : Document}

theorem Document.Extent.entries {s : Stretch} {p q : Nat} (h : d.Extent s p q)
    (hs : s = .entries) : ∃ es, d.Entries p es q := by
  induction h with
  | noEntries p => exact ⟨[], .nil p⟩
  | entry hk hv _ _ _ ih =>
    obtain ⟨es, he⟩ := ih rfl
    exact ⟨_, .cons hk hv he⟩
  | _ => cases hs

/-- A mapping's entries up to its end are determined by where they begin. -/
theorem Document.Entries.unique {p q q' : Nat} {es es' : List (Nat × Nat)} (h : d.Entries p es q)
    (hq : d.pieceKind q = some .mappingEnd) (h' : d.Entries p es' q')
    (hq' : d.pieceKind q' = some .mappingEnd) : es = es' ∧ q = q' := by
  induction h generalizing es' with
  | nil p =>
    cases h' with
    | nil => exact ⟨rfl, rfl⟩
    | cons hk _ _ => exact absurd hq hk.ne_mappingEnd
  | cons hk hv _ ih =>
    cases h' with
    | nil => exact absurd hq' hk.ne_mappingEnd
    | cons hk' hv' he' =>
      obtain rfl := hk.node_unique hk'
      obtain rfl := hv.node_unique hv'
      obtain ⟨rfl, rfl⟩ := ih hq he'
      exact ⟨rfl, rfl⟩

end Entries

/-! ## Reading a value -/

/-- The text of the scalar at a position, read through an alias. -/
def Document.scalarText (d : Document) (p : Nat) : Option String :=
  match d.pieceKind (d.resolve p) with
  | some (.scalar _ text _) => some text
  | _ => none

section Leaves

variable {d : Document}

/-- Only an alias is read elsewhere. -/
theorem Document.resolve_of_pieceKind {p : Nat} {piece : Piece} (hp : d.pieceKind p = some piece)
    (h : ∀ id, piece ≠ .alias id) : d.resolve p = p := by
  unfold Document.resolve
  unfold pieceKind at hp
  split
  · rename_i id m hid
    rw [hid] at hp
    cases hp
    exact absurd rfl (h id)
  · rfl

/-- A node that, read through an alias, opens no collection is one event. -/
theorem Document.Extent.eq_succ_of_resolve {p q : Nat} (h : d.Extent .node p q)
    (hseq : d.pieceKind (d.resolve p) ≠ some .sequenceStart)
    (hmap : d.pieceKind (d.resolve p) ≠ some .mappingStart) : q = p + 1 := by
  refine h.eq_succ (fun hp => hseq ?_) (fun hp => hmap ?_)
  · rw [Document.resolve_of_pieceKind hp (fun _ => by simp), hp]
  · rw [Document.resolve_of_pieceKind hp (fun _ => by simp), hp]

theorem Document.pieceAt_eq_ok {p : Nat} {piece : Piece} {m : Mark} :
    d.pieceAt p = .ok (piece, m) ↔ d.pieces[p]? = some (piece, m) := by
  unfold Document.pieceAt
  cases d.pieces[p]? <;> simp

theorem decodeText_eq_ok {path : List String} {expected : String} {p : Nat} {t : String}
    {after : Nat} :
    decodeText d path expected p = .ok (t, after) ↔ d.scalarText p = some t ∧ after = p + 1 := by
  unfold decodeText Document.scalarText Document.pieceKind Document.pieceAt
  cases d.pieces[d.resolve p]? with
  | none => simp [bind, Except.bind]
  | some pm =>
    obtain ⟨piece, m⟩ := pm
    cases piece <;> simp [bind, Except.bind, pure, Except.pure, throw, throwThe, MonadExceptOf.throw,
      eq_comm]

/-- A text is read from one event. -/
theorem decodeText_takes_node {path : List String} {expected : String} {p q after : Nat}
    {t : String} (h : decodeText d path expected p = .ok (t, after)) (hp : d.Extent .node p q) :
    after = q := by
  obtain ⟨ht, rfl⟩ := decodeText_eq_ok.mp h
  unfold Document.scalarText at ht
  refine (hp.eq_succ_of_resolve ?_ ?_).symm <;> intro hs <;> rw [hs] at ht <;> cases ht

theorem Document.pieceKind_of_pieceAt {p : Nat} {piece : Piece} {m : Mark}
    (h : d.pieceAt p = .ok (piece, m)) : d.pieceKind p = some piece := by
  rw [Document.pieceAt_eq_ok] at h
  simp [Document.pieceKind, h]

/-- An optional text is read from one event. -/
theorem decodeOptionalText_takes_node {path : List String} {p q after : Nat} {o : Option String}
    (h : decodeOptionalText d path p = .ok (o, after)) (hp : d.Extent .node p q) : after = q := by
  unfold decodeOptionalText at h
  rcases hr : d.pieceAt (d.resolve p) with e | ⟨piece, m⟩
  · simp [hr, bind, Except.bind] at h
  rw [hr] at h
  rcases ho : optionPresent piece with e | _ | _
  · simp [ho, bind, Except.bind] at h
  · -- an absent value is a plain scalar or the stand-in event
    simp only [ho, bind, Except.bind, pure, Except.pure, Bool.false_eq_true, if_false] at h
    cases h
    have hk := Document.pieceKind_of_pieceAt hr
    refine (hp.eq_succ_of_resolve ?_ ?_).symm <;> rw [hk] <;> rintro ⟨⟩ <;> cases ho
  · simp only [ho, bind, Except.bind, if_true] at h
    rcases ht : decodeText d path "a string" p with e | ⟨t, after'⟩
    · simp [ht] at h
    · simp only [ht, pure, Except.pure, Except.ok.injEq, Prod.mk.injEq] at h
      rw [← h.2]
      exact decodeText_takes_node ht hp

/-- A number is read from one event. -/
theorem decodeUnsigned_takes_node {path : List String} {typeName : String} {hi p q after n : Nat}
    (h : decodeUnsigned d path typeName hi p = .ok (n, after)) (hp : d.Extent .node p q) :
    after = q := by
  unfold decodeUnsigned at h
  rcases hr : d.pieceAt (d.resolve p) with e | ⟨piece, m⟩
  · simp [hr, bind, Except.bind] at h
  rw [hr] at h
  have hk := Document.pieceKind_of_pieceAt hr
  -- only a scalar reads as a number, and a number is taken with the position after it
  cases piece with
  | scalar tag text style =>
    have hafter : after = p + 1 := by
      simp only [bind, Except.bind] at h
      split at h
      · split at h
        · simp only [pure, Except.pure, Except.ok.injEq, Prod.mk.injEq] at h
          exact h.2.symm
        · cases h
      · cases h
    rw [hafter]
    refine (hp.eq_succ_of_resolve ?_ ?_).symm <;> rw [hk] <;> rintro ⟨⟩
  | _ => simp [bind, Except.bind, throw, throwThe, MonadExceptOf.throw] at h

end Leaves

/-! ## Decoding the entries of a mapping -/

section Decode

variable {d : Document} {α : Type} {path fields : List String}
  {setField : String → α → List String → Nat → Except DecodeError (α × Nat)}

/-- One entry read without an error: its key is a text; a key of a field, not seen before, is
handed its value, and any other key has its value skipped. -/
theorem decodeEntries_of_key {acc res : α} {seen : List String} {p r n after : Nat}
    (hk : d.Extent .node p r)
    (h : decodeEntries d path fields setField acc seen p (n + 1) = .ok (res, after)) :
    ∃ key, d.scalarText p = some key ∧ r = p + 1 ∧
      if key ∈ fields then key ∉ seen ∧ ∃ vpath acc' after',
        setField key acc vpath r = .ok (acc', after') ∧
        decodeEntries d path fields setField acc' (key :: seen) after' n = .ok (res, after)
      else ∃ after', d.skipNode r = .ok after' ∧
        decodeEntries d path fields setField acc seen after' n = .ok (res, after) := by
  obtain ⟨piece, hp, hb⟩ := hk.begins
  obtain ⟨m, hm⟩ := Document.pieceAt_of_pieceKind hp
  have hread : ∀ key vp, decodeText d path "field identifier" p = .ok (key, vp) →
      d.scalarText p = some key ∧ r = p + 1 ∧ vp = r := by
    intro key vp hd
    obtain ⟨hkt, rfl⟩ := decodeText_eq_ok.mp hd
    exact ⟨hkt, (decodeText_takes_node hd hk).symm, decodeText_takes_node hd hk⟩
  rw [decodeEntries] at h
  cases piece
  all_goals first
    | exact absurd hb id
    | simp only [hm, bind, Except.bind] at h
      rcases hd : decodeText d path "field identifier" p with e | ⟨key, vp⟩
      · simp [hd] at h
      obtain ⟨hkt, rfl, rfl⟩ := hread key _ hd
      refine ⟨key, hkt, rfl, ?_⟩
      simp only [hd] at h
      by_cases hf : key ∈ fields
      · by_cases hs : key ∈ seen
        · simp [hf, hs, throw, throwThe, MonadExceptOf.throw] at h
        · simp only [hf, hs, List.contains_iff_mem, if_true, if_false] at h
          split at h
          · cases h
          · rename_i _ out hv
            obtain ⟨acc', after'⟩ := out
            exact if_pos hf ▸ ⟨hs, _, acc', after', hv, h⟩
      · simp only [hf, List.contains_iff_mem, if_false] at h
        split at h
        · cases h
        · rename_i _ after' hv
          exact if_neg hf ▸ ⟨after', hv, h⟩

/-- Each field's reader takes exactly the node its value is. -/
def TakesNodes (d : Document) (fields : List String)
    (setField : String → α → List String → Nat → Except DecodeError (α × Nat)) : Prop :=
  ∀ key acc vpath v s a after, key ∈ fields → d.Extent .node v s →
    setField key acc vpath v = .ok (a, after) → after = s

/-- `Applied d fields setField acc seen es res`: reading the entries `es` in order from `acc`,
with the keys `seen` already read, gives `res`. A key of a field is read once and sets its
field from the value; any other key is passed over. -/
inductive Applied (d : Document) (fields : List String)
    (setField : String → α → List String → Nat → Except DecodeError (α × Nat)) :
    α → List String → List (Nat × Nat) → α → Prop
  | nil {acc : α} {seen : List String} : Applied d fields setField acc seen [] acc
  | field {acc acc' res : α} {seen : List String} {k v after : Nat} {key : String}
      {vpath : List String} {es : List (Nat × Nat)} :
      d.scalarText k = some key → key ∈ fields → key ∉ seen →
      setField key acc vpath v = .ok (acc', after) →
      Applied d fields setField acc' (key :: seen) es res →
      Applied d fields setField acc seen ((k, v) :: es) res
  | other {acc res : α} {seen : List String} {k v : Nat} {key : String} {es : List (Nat × Nat)} :
      d.scalarText k = some key → key ∉ fields → Applied d fields setField acc seen es res →
      Applied d fields setField acc seen ((k, v) :: es) res

theorem decodeEntries_at_end {acc res : α} {seen : List String} {q n after : Nat}
    (hq : d.pieceKind q = some .mappingEnd)
    (h : decodeEntries d path fields setField acc seen q n = .ok (res, after)) :
    res = acc ∧ after = q + 1 := by
  obtain ⟨m, hm⟩ := Document.pieceAt_of_pieceKind hq
  cases n with
  | zero => simp [decodeEntries, throw, throwThe, MonadExceptOf.throw] at h
  | succ n =>
    simp only [decodeEntries, hm, bind, Except.bind, pure, Except.pure, Except.ok.injEq,
      Prod.mk.injEq] at h
    exact ⟨h.1.symm, h.2.symm⟩

/-- On the entries of a mapping, the decoder's walk is the fold `Applied`, and it ends past the
end of the mapping. -/
theorem Document.Entries.decodeEntries_ok {p q n after : Nat} {es : List (Nat × Nat)}
    {acc res : α} {seen : List String} (hc : TakesNodes d fields setField)
    (he : d.Entries p es q) (hq : d.pieceKind q = some .mappingEnd)
    (h : decodeEntries d path fields setField acc seen p n = .ok (res, after)) :
    after = q + 1 ∧ Applied d fields setField acc seen es res := by
  induction he generalizing acc seen n with
  | nil p =>
    obtain ⟨rfl, rfl⟩ := decodeEntries_at_end hq h
    exact ⟨rfl, .nil⟩
  | cons hk hv _ ih =>
    cases n with
    | zero => simp [decodeEntries, throw, throwThe, MonadExceptOf.throw] at h
    | succ n =>
      obtain ⟨key, hkey, rfl, hstep⟩ := decodeEntries_of_key hk h
      by_cases hf : key ∈ fields
      · rw [if_pos hf] at hstep
        obtain ⟨hs, vpath, acc', after', hset, hrest⟩ := hstep
        obtain rfl := hc key acc vpath _ _ acc' after' hf hv hset
        obtain ⟨hafter, happ⟩ := ih hq hrest
        exact ⟨hafter, .field hkey hf hs hset happ⟩
      · rw [if_neg hf] at hstep
        obtain ⟨after', hskip, hrest⟩ := hstep
        rw [Document.skipNode_of_extent hv] at hskip
        cases hskip
        obtain ⟨hafter, happ⟩ := ih hq hrest
        exact ⟨hafter, .other hkey hf happ⟩

/-! ### What the fold does to one field -/

section Field

variable {β : Type} {acc res : α} {seen : List String} {es : List (Nat × Nat)} {f : String}
  {get : α → β}

/-- A key of a field is read at most once. -/
theorem Applied.not_seen (h : Applied d fields setField acc seen es res) {k v : Nat} {key : String}
    (hkv : (k, v) ∈ es) (hk : d.scalarText k = some key) (hf : key ∈ fields) : key ∉ seen := by
  induction h with
  | nil => cases hkv
  | field hk' _ hs _ _ ih =>
    rcases List.mem_cons.mp hkv with heq | htail
    · cases heq
      rw [hk] at hk'
      cases hk'
      exact hs
    · exact fun hin => ih htail (List.mem_cons_of_mem _ hin)
  | other hk' hf' _ ih =>
    rcases List.mem_cons.mp hkv with heq | htail
    · cases heq
      rw [hk] at hk'
      cases hk'
      exact absurd hf hf'
    · exact ih htail

/-- A field whose key no entry has keeps its value, when every other field's reader leaves it
alone. -/
theorem Applied.keeps (h : Applied d fields setField acc seen es res)
    (hframe : ∀ key ∈ fields, key ≠ f → ∀ acc vpath v a after,
      setField key acc vpath v = .ok (a, after) → get a = get acc)
    (hnone : ∀ k v, (k, v) ∈ es → d.scalarText k ≠ some f) : get res = get acc := by
  induction h with
  | nil => rfl
  | field hk hf _ hset _ ih =>
    have hne : _ ≠ f := fun heq => hnone _ _ List.mem_cons_self (heq ▸ hk)
    rw [ih (fun k v hkv => hnone k v (List.mem_cons_of_mem _ hkv)), hframe _ hf hne _ _ _ _ _ hset]
  | other _ _ _ ih => exact ih (fun k v hkv => hnone k v (List.mem_cons_of_mem _ hkv))

/-- A field whose key an entry has holds what its reader made of that entry's value. -/
theorem Applied.sets {P : Nat → β → Prop} (h : Applied d fields setField acc seen es res)
    (hf : f ∈ fields)
    (hframe : ∀ key ∈ fields, key ≠ f → ∀ acc vpath v a after,
      setField key acc vpath v = .ok (a, after) → get a = get acc)
    (hset : ∀ acc vpath v a after, setField f acc vpath v = .ok (a, after) → P v (get a))
    {k v : Nat} (hkv : (k, v) ∈ es) (hk : d.scalarText k = some f) : P v (get res) := by
  induction h with
  | nil => cases hkv
  | field hk' _ _ hset' happ ih =>
    rcases List.mem_cons.mp hkv with heq | htail
    · cases heq
      rw [hk] at hk'
      cases hk'
      -- the key is not read again, so the rest of the entries leave the field as set
      have hkeep := happ.keeps hframe fun k' v' hkv' hk'' =>
        happ.not_seen hkv' hk'' hf List.mem_cons_self
      exact hkeep ▸ hset _ _ _ _ _ hset'
    · exact ih htail
  | other hk' hf' _ ih =>
    rcases List.mem_cons.mp hkv with heq | htail
    · cases heq
      rw [hk] at hk'
      cases hk'
      exact absurd hf hf'
    · exact ih htail

end Field

end Decode

/-! ## Sections -/

/-- `d.Keyed m key v`: the mapping at `m`, read through an alias, has an entry with the key
`key` whose value begins at `v`. -/
def Document.Keyed (d : Document) (m : Nat) (key : String) (v : Nat) : Prop :=
  d.pieceKind (d.resolve m) = some .mappingStart ∧ ∃ es q, d.Entries (d.resolve m + 1) es q ∧
    d.pieceKind q = some .mappingEnd ∧ ∃ k, (k, v) ∈ es ∧ d.scalarText k = some key

/-- `d.Gives m key read default b`: the field `key` of the mapping at `m` is `b`, which is what
`read` makes of the key's value when the mapping has the key, and the default when it has not
(or when there is no mapping at `m`). -/
def Document.Gives {β : Type} (d : Document) (m : Nat) (key : String) (read : Nat → β → Prop)
    (default b : β) : Prop :=
  (∀ v, d.Keyed m key v → read v b) ∧ ((∀ v, ¬d.Keyed m key v) → b = default)

section Sections

variable {d : Document} {α : Type} {path fields : List String}
  {setField : String → α → List String → Nat → Except DecodeError (α × Nat)}

theorem Document.alias_of_resolve_ne {p : Nat} (h : d.resolve p ≠ p) :
    ∃ id, d.pieceKind p = some (.alias id) := by
  unfold Document.resolve at h
  split at h
  · rename_i id m hid
    exact ⟨id, by simp [Document.pieceKind, hid]⟩
  · exact absurd rfl h

/-- On a document that follows the grammar, a mapping start begins entries up to its end. -/
theorem Document.WellFormed.entries (hwf : d.WellFormed) {t : Nat}
    (hm : d.pieceKind t = some .mappingStart) :
    ∃ es q, d.Entries (t + 1) es q ∧ d.pieceKind q = some .mappingEnd ∧
      d.Extent .node t (q + 1) := by
  obtain ⟨e, he⟩ := hwf t _ hm trivial
  obtain ⟨r, hr, hend, rfl⟩ := he.mapping_inv hm
  obtain ⟨es, hes⟩ := hr.entries rfl
  exact ⟨es, r, hes, hend, he⟩

/-- A section read without an error: a mapping, read through an alias, is its entries folded
into the defaults; anything else it may be (the stand-in event or an empty plain scalar) leaves
the defaults. -/
theorem decodeSection_ok {name : String} {init res : α} {pos after : Nat} (hwf : d.WellFormed)
    (hc : TakesNodes d fields setField)
    (h : decodeSection d path name fields init setField pos = .ok (res, after)) :
    (d.pieceKind (d.resolve pos) = some .mappingStart → ∃ es q,
      d.Entries (d.resolve pos + 1) es q ∧ d.pieceKind q = some .mappingEnd ∧
      Applied d fields setField init [] es res ∧
      after = if d.resolve pos = pos then q + 1 else pos + 1) ∧
    (d.pieceKind (d.resolve pos) ≠ some .mappingStart → res = init ∧ after = pos + 1 ∧
      d.pieceKind (d.resolve pos) ≠ some .sequenceStart) := by
  unfold decodeSection at h
  rcases hr : d.pieceAt (d.resolve pos) with e | ⟨piece, mark⟩
  · simp [hr, bind, Except.bind] at h
  have hk := Document.pieceKind_of_pieceAt hr
  simp only [hr, bind, Except.bind] at h
  split at h
  next =>
    refine ⟨fun _ => ?_, fun hne => absurd hk hne⟩
    obtain ⟨es, q, hes, hq, -⟩ := hwf.entries hk
    split at h
    · rename_i _ a after' hde
      simp only [pure, Except.pure, Except.ok.injEq, Prod.mk.injEq] at h
      obtain ⟨rfl, rfl⟩ := h
      obtain ⟨hafter, happ⟩ := hes.decodeEntries_ok hc hq hde
      refine ⟨es, q, hes, hq, happ, ?_⟩
      by_cases ht : d.resolve pos = pos <;> simp [ht, hafter]
    · simp [throw, throwThe, MonadExceptOf.throw] at h
  -- the stand-in event and an empty plain scalar leave the defaults
  next =>
    simp only [pure, Except.pure, Except.ok.injEq, Prod.mk.injEq] at h
    obtain ⟨rfl, rfl⟩ := h
    exact ⟨fun hm => (by rw [hk] at hm; cases hm), fun _ => ⟨rfl, rfl, by rw [hk]; simp⟩⟩
  next =>
    simp only [pure, Except.pure, Except.ok.injEq, Prod.mk.injEq] at h
    obtain ⟨rfl, rfl⟩ := h
    exact ⟨fun hm => (by rw [hk] at hm; cases hm), fun _ => ⟨rfl, rfl, by rw [hk]; simp⟩⟩
  next => simp [throw, throwThe, MonadExceptOf.throw] at h

/-- A section is read from exactly its node. -/
theorem decodeSection_takes_node {name : String} {init res : α} {pos after e : Nat}
    (hwf : d.WellFormed) (hc : TakesNodes d fields setField)
    (h : decodeSection d path name fields init setField pos = .ok (res, after))
    (hp : d.Extent .node pos e) : after = e := by
  obtain ⟨hmap, hother⟩ := decodeSection_ok hwf hc h
  by_cases hm : d.pieceKind (d.resolve pos) = some .mappingStart
  · obtain ⟨es, q, hes, hq, -, rfl⟩ := hmap hm
    by_cases ht : d.resolve pos = pos
    · -- read in place: the mapping ends where its node does
      rw [if_pos ht]
      rw [ht] at hm hes
      obtain ⟨r, hr, hend, rfl⟩ := hp.mapping_inv hm
      obtain ⟨es', hes'⟩ := hr.entries rfl
      rw [(hes.unique hq hes' hend).2]
    · -- read through an alias, which is one event
      rw [if_neg ht]
      obtain ⟨id, hid⟩ := Document.alias_of_resolve_ne ht
      exact (hp.eq_succ (by rw [hid]; simp) (by rw [hid]; simp)).symm
  · obtain ⟨-, rfl, hseq⟩ := hother hm
    exact (hp.eq_succ_of_resolve hseq hm).symm

/-- What a section gives a field: its key's value read by the field's reader, or the field's
default when the section has no such key. -/
theorem decodeSection_gives {β : Type} {P : Nat → β → Prop} {get : α → β} {f name : String}
    {init res : α} {pos after : Nat} (hwf : d.WellFormed) (hc : TakesNodes d fields setField)
    (hf : f ∈ fields)
    (hframe : ∀ key ∈ fields, key ≠ f → ∀ acc vpath v a after,
      setField key acc vpath v = .ok (a, after) → get a = get acc)
    (hset : ∀ acc vpath v a after, setField f acc vpath v = .ok (a, after) → P v (get a))
    (h : decodeSection d path name fields init setField pos = .ok (res, after)) :
    d.Gives pos f P (get init) (get res) := by
  obtain ⟨hmap, hother⟩ := decodeSection_ok hwf hc h
  by_cases hm : d.pieceKind (d.resolve pos) = some .mappingStart
  · obtain ⟨es, q, hes, hq, happ, -⟩ := hmap hm
    refine ⟨fun v ⟨_, es', q', hes', hq', k, hkv, hk⟩ => ?_, fun hnone => ?_⟩
    · obtain ⟨rfl, rfl⟩ := hes.unique hq hes' hq'
      exact happ.sets hf hframe hset hkv hk
    · exact happ.keeps hframe fun k v hkv hk => hnone v ⟨hm, es, q, hes, hq, k, hkv, hk⟩
  · obtain ⟨rfl, -, -⟩ := hother hm
    exact ⟨fun v hv => absurd hv.1 hm, fun _ => rfl⟩

end Sections

/-! ## The configuration -/

/-- What a decoder reads at `v` is `b`, whatever the keys leading to it. -/
def Reads {β : Type} (dec : List String → Nat → Except DecodeError (β × Nat)) (v : Nat) (b : β) :
    Prop :=
  ∃ path after, dec path v = .ok (b, after)

theorem Reads.of_eq_ok {β : Type} {dec : List String → Nat → Except DecodeError (β × Nat)}
    {path : List String} {v after : Nat} {b : β} (h : dec path v = .ok (b, after)) :
    Reads dec v b :=
  ⟨path, after, h⟩

/-- The logging section at `m` gives `l`. -/
def Document.GivesLogging (d : Document) (m : Nat) (l : LoggingConfig) : Prop :=
  d.Gives m "level" (Reads (decodeText d · "a string")) ({} : LoggingConfig).level l.level ∧
  d.Gives m "format" (Reads (decodeText d · "a string")) ({} : LoggingConfig).format l.format

/-- The mail section at `m` gives `c`. -/
def Document.GivesSmtp (d : Document) (m : Nat) (c : SmtpConfig) : Prop :=
  d.Gives m "server" (Reads (decodeOptionalText d)) ({} : SmtpConfig).server c.server ∧
  d.Gives m "port" (Reads (decodePort d)) ({} : SmtpConfig).port c.port ∧
  d.Gives m "from_addr" (Reads (decodeOptionalText d)) ({} : SmtpConfig).fromAddr c.fromAddr

/-- The engine section at `m` gives `c`. -/
def Document.GivesEngine (d : Document) (m : Nat) (c : EngineConfig) : Prop :=
  d.Gives m "max_depth" (Reads (decodeUnsigned d · "usize" (Nat.pow 2 64 - 1)))
    ({} : EngineConfig).maxDepth c.maxDepth

/-- The element capture section at `m` gives `c`. -/
def Document.GivesCapture (d : Document) (m : Nat) (c : CaptureConfig) : Prop :=
  d.Gives m "host" (Reads (decodeText d · "a string")) ({} : CaptureConfig).host c.host ∧
  d.Gives m "port" (Reads (decodePort d)) ({} : CaptureConfig).port c.port

/-- The configuration the document at its first node describes: every section is what the
document's section of that key gives, or the section's defaults when the key is missing, and
within a section every field is read from its key or keeps its default. -/
structure Document.Configures (d : Document) (c : Config) : Prop where
  logging : d.Gives 0 "logging" d.GivesLogging ({} : Config).logging c.logging
  smtp : d.Gives 0 "smtp" d.GivesSmtp ({} : Config).smtp c.smtp
  engine : d.Gives 0 "engine" d.GivesEngine ({} : Config).engine c.engine
  capture : d.Gives 0 "capture" d.GivesCapture ({} : Config).capture c.capture

section Config

variable {d : Document} {path : List String} {m after : Nat}

theorem Except.map_eq_ok_iff {ε γ δ : Type} {g : γ → δ} {x : Except ε γ} {b : δ} :
    x.map g = .ok b ↔ ∃ a, x = .ok a ∧ g a = b := by
  cases x <;> simp [Except.map]

/-! Each section's reader sets one field for each of its keys, from the value read by that
field's decoder, so a key leaves the other fields alone and the value is taken whole. -/

theorem decodeLogging_ok {l : LoggingConfig} (hwf : d.WellFormed)
    (h : decodeLogging d path m = .ok (l, after)) :
    d.GivesLogging m l ∧ ∀ e, d.Extent .node m e → after = e := by
  unfold decodeLogging at h
  refine ⟨⟨decodeSection_gives hwf ?hc (by simp) ?_ ?_ h,
    decodeSection_gives hwf ?hc (by simp) ?_ ?_ h⟩, fun e hp => decodeSection_takes_node hwf ?hc h hp⟩
  case hc =>
    intro key acc vpath v s a after hkey hv hset
    simp only [List.mem_cons, List.not_mem_nil, or_false] at hkey
    rcases hkey with rfl | rfl
    all_goals
      obtain ⟨⟨t, n⟩, ht, heq⟩ := Except.map_eq_ok_iff.mp hset
      cases heq
      exact decodeText_takes_node ht hv
  all_goals first
    | intro acc vpath v a after hset
      obtain ⟨⟨t, n⟩, ht, heq⟩ := Except.map_eq_ok_iff.mp hset
      cases heq
      exact Reads.of_eq_ok ht
    | intro key hkey hne acc vpath v a after hset
      simp only [List.mem_cons, List.not_mem_nil, or_false] at hkey
      rcases hkey with rfl | rfl
      all_goals first
        | exact absurd rfl hne
        | obtain ⟨⟨t, n⟩, -, heq⟩ := Except.map_eq_ok_iff.mp hset
          cases heq
          rfl

theorem decodeSmtp_ok {c : SmtpConfig} (hwf : d.WellFormed)
    (h : decodeSmtp d path m = .ok (c, after)) :
    d.GivesSmtp m c ∧ ∀ e, d.Extent .node m e → after = e := by
  unfold decodeSmtp at h
  refine ⟨⟨decodeSection_gives hwf ?hc (by simp) ?_ ?_ h,
    decodeSection_gives hwf ?hc (by simp) ?_ ?_ h, decodeSection_gives hwf ?hc (by simp) ?_ ?_ h⟩,
    fun e hp => decodeSection_takes_node hwf ?hc h hp⟩
  case hc =>
    intro key acc vpath v s a after hkey hv hset
    simp only [List.mem_cons, List.not_mem_nil, or_false] at hkey
    rcases hkey with rfl | rfl | rfl
    all_goals
      obtain ⟨⟨t, n⟩, ht, heq⟩ := Except.map_eq_ok_iff.mp hset
      cases heq
      first
        | exact decodeOptionalText_takes_node ht hv
        | exact decodeUnsigned_takes_node ht hv
  all_goals first
    | intro acc vpath v a after hset
      obtain ⟨⟨t, n⟩, ht, heq⟩ := Except.map_eq_ok_iff.mp hset
      cases heq
      exact Reads.of_eq_ok ht
    | intro key hkey hne acc vpath v a after hset
      simp only [List.mem_cons, List.not_mem_nil, or_false] at hkey
      rcases hkey with rfl | rfl | rfl
      all_goals first
        | exact absurd rfl hne
        | obtain ⟨⟨t, n⟩, -, heq⟩ := Except.map_eq_ok_iff.mp hset
          cases heq
          rfl

theorem decodeEngine_ok {c : EngineConfig} (hwf : d.WellFormed)
    (h : decodeEngine d path m = .ok (c, after)) :
    d.GivesEngine m c ∧ ∀ e, d.Extent .node m e → after = e := by
  unfold decodeEngine at h
  refine ⟨decodeSection_gives hwf ?hc (by simp) ?_ ?_ h,
    fun e hp => decodeSection_takes_node hwf ?hc h hp⟩
  case hc =>
    intro key acc vpath v s a after _ hv hset
    obtain ⟨⟨t, n⟩, ht, heq⟩ := Except.map_eq_ok_iff.mp hset
    cases heq
    exact decodeUnsigned_takes_node ht hv
  · intro key hkey hne
    simp only [List.mem_cons, List.not_mem_nil, or_false] at hkey
    exact absurd hkey hne
  · intro acc vpath v a after hset
    obtain ⟨⟨t, n⟩, ht, heq⟩ := Except.map_eq_ok_iff.mp hset
    cases heq
    exact Reads.of_eq_ok ht

theorem decodeCapture_ok {c : CaptureConfig} (hwf : d.WellFormed)
    (h : decodeCapture d path m = .ok (c, after)) :
    d.GivesCapture m c ∧ ∀ e, d.Extent .node m e → after = e := by
  unfold decodeCapture at h
  refine ⟨⟨decodeSection_gives hwf ?hc (by simp) ?_ ?_ h,
    decodeSection_gives hwf ?hc (by simp) ?_ ?_ h⟩, fun e hp => decodeSection_takes_node hwf ?hc h hp⟩
  case hc =>
    intro key acc vpath v s a after hkey hv hset
    simp only [List.mem_cons, List.not_mem_nil, or_false] at hkey
    rcases hkey with rfl | rfl
    all_goals
      obtain ⟨⟨t, n⟩, ht, heq⟩ := Except.map_eq_ok_iff.mp hset
      cases heq
      first
        | exact decodeText_takes_node ht hv
        | exact decodeUnsigned_takes_node ht hv
  all_goals first
    | intro acc vpath v a after hset
      obtain ⟨⟨t, n⟩, ht, heq⟩ := Except.map_eq_ok_iff.mp hset
      cases heq
      exact Reads.of_eq_ok ht
    | intro key hkey hne acc vpath v a after hset
      simp only [List.mem_cons, List.not_mem_nil, or_false] at hkey
      rcases hkey with rfl | rfl
      all_goals first
        | exact absurd rfl hne
        | obtain ⟨⟨t, n⟩, -, heq⟩ := Except.map_eq_ok_iff.mp hset
          cases heq
          rfl

/-- On a document that follows the grammar of events, a configuration decoded from it is the
one the document describes: the defaults with the file's sections and keys in place. -/
theorem decodeConfig_configures {c : Config} (hwf : d.WellFormed)
    (h : decodeConfig d = .ok (c, after)) : d.Configures c := by
  unfold decodeConfig at h
  refine ⟨decodeSection_gives hwf ?hc (by simp) ?_ ?_ h, decodeSection_gives hwf ?hc (by simp) ?_ ?_ h,
    decodeSection_gives hwf ?hc (by simp) ?_ ?_ h, decodeSection_gives hwf ?hc (by simp) ?_ ?_ h⟩
  case hc =>
    intro key acc vpath v s a after hkey hv hset
    simp only [List.mem_cons, List.not_mem_nil, or_false] at hkey
    rcases hkey with rfl | rfl | rfl | rfl
    all_goals
      obtain ⟨⟨t, n⟩, ht, heq⟩ := Except.map_eq_ok_iff.mp hset
      cases heq
      first
        | exact (decodeLogging_ok hwf ht).2 s hv
        | exact (decodeSmtp_ok hwf ht).2 s hv
        | exact (decodeEngine_ok hwf ht).2 s hv
        | exact (decodeCapture_ok hwf ht).2 s hv
  all_goals first
    | intro acc vpath v a after hset
      obtain ⟨⟨t, n⟩, ht, heq⟩ := Except.map_eq_ok_iff.mp hset
      cases heq
      first
        | exact (decodeLogging_ok hwf ht).1
        | exact (decodeSmtp_ok hwf ht).1
        | exact (decodeEngine_ok hwf ht).1
        | exact (decodeCapture_ok hwf ht).1
    | intro key hkey hne acc vpath v a after hset
      simp only [List.mem_cons, List.not_mem_nil, or_false] at hkey
      rcases hkey with rfl | rfl | rfl | rfl
      all_goals first
        | exact absurd rfl hne
        | obtain ⟨⟨t, n⟩, -, heq⟩ := Except.map_eq_ok_iff.mp hset
          cases heq
          rfl

end Config

end Runbook.Yaml

namespace Runbook

open Yaml

/-- A text that decodes was read to the end of its first document. -/
theorem Config.ofYaml_failure_eq_none {text : String} {c : Config} (h : Config.ofYaml text = .ok c) :
    (Loaded.ofString text).document.failure = none := by
  unfold Config.ofYaml at h
  simp only at h
  split at h
  · cases h
  · split at h
    · cases h
    · assumption

/-- A configuration read from a text whose document follows the grammar of events is the
defaults with the file's sections and keys in place: a key that is there sets its field from
its value, and a missing section or key keeps its default. -/
theorem Config.ofYaml_keeps_defaults {text : String} {c : Config} (h : Config.ofYaml text = .ok c)
    (hwf : (Loaded.ofString text).document.WellFormed) :
    (Loaded.ofString text).document.Configures c := by
  unfold Config.ofYaml at h
  simp only at h
  split at h
  · cases h
  · rename_i c' after hd
    -- the errors of the reading and of a second document come after the decoding
    have hc : c' = c := by
      split at h
      · cases h
      · split at h
        · cases h
        · cases h
          rfl
    exact hc ▸ decodeConfig_configures hwf hd

end Runbook
