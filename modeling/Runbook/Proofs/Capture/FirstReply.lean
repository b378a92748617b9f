import Runbook.Capture.Fetch
import Runbook.Proofs.Json.ReadPretty
/-!
# A fetch writes one request and answers with the first text reply

Once connected, a fetch writes one text frame, whose text reads back as
`{"selector": …}` for every selector, and nothing more but the close after a reply. It
then reads its peer's frames until one settles it: a text frame, a close or a transport
failure. What it answers depends on the send and on that one frame alone.

Main statement: `fetch_first_text`.
-/

namespace Runbook.Capture

open Json

/-! ## The request -/

/-- Whether a frame is a text frame. -/
def Frame.isText : Frame → Bool
  | .text _ => true
  | _ => false

/-- The compact text of an object of one text field, read from its opening brace. -/
theorem readValue_textField (k s : String) {fuel : Nat}
    (hfuel : (quotedBytes k).length + (quotedBytes s).length + 3 < fuel) {d : Nat}
    (hd : d < maxOpen) (rest : List UInt8) (o : Nat) :
    readValue fuel d
        ⟨123 :: 34 :: (quotedBytes k ++ 34 :: 58 :: 34 :: (quotedBytes s ++ 34 :: 125 :: rest)), o⟩ =
      .ok (.object [(k, .string s)],
        ⟨rest, o + (quotedBytes k).length + (quotedBytes s).length + 7⟩) := by
  obtain ⟨g, rfl⟩ : ∃ g, fuel = g + 3 := ⟨fuel - 3, by omega⟩
  rw [readValue_brace, if_neg (by omega)]
  -- the key and the colon, then the text value, then the closing brace
  have hfield := readFields_field true (g + 1) (d + 1) [] (N := []) (by simp) k (by omega)
    (34 :: (quotedBytes s ++ 34 :: 125 :: rest)) (o + 1)
  simp only [if_true, List.nil_append] at hfield
  rw [hfield, readValue_quote g (d + 1) s (by omega)]
  have hclose := readFields_close g (d + 1) false [(k, .string s)] (N := []) (by simp) rest
    (o + 1 + 0 + 0 + (quotedBytes k).length + 3 + 1 + (quotedBytes s).length + 1)
  simp only [List.nil_append] at hclose
  simp only [bind, Except.bind, List.length_nil]
  rw [show insertField k (.string s) [] = [(k, .string s)] from rfl, hclose]
  simp only [List.length_nil]
  congr 3
  omega

/-- The compact text of an object of one text field reads back as the object, whatever
the key and the text. -/
theorem parse_render_textField (k s : String) :
    Json.parse (Value.object [(k, .string s)]).render = .ok (.object [(k, .string s)]) := by
  have hbytes : textBytes (Value.object [(k, .string s)]).render =
      123 :: 34 :: (quotedBytes k ++ 34 :: 58 :: 34 :: (quotedBytes s ++ 34 :: 125 :: [])) := by
    have h123 : textBytes "\x7b" = [123] := by decide
    have h58 : textBytes ":" = [58] := by decide
    have h125 : textBytes "\x7d" = [125] := by decide
    simp [Value.render, renderFields, textBytes_quote, h123, h58, h125]
  rw [parse_eq_parseBytes, hbytes]
  refine parseBytes_of_ok (readValue_textField k s ?_ (by decide) [] 0) rfl
  simp only [List.length_cons, List.length_append]
  omega

/-- Once connected, a fetch writes exactly one text frame, its request. -/
theorem fetchElement_sent_text (net : Network) (selector url : String) (peer : Peer) :
    (fetchElement net selector url peer).sent.filter Frame.isText =
      if (connectError? net url).isSome then [] else [.text (fetchRequest selector).render] := by
  unfold fetchElement
  cases connectError? net url with
  | some e => rfl
  | none =>
    cases peer.sendError? with
    | some e => rfl
    | none => cases fetchReply peer.replies <;> rfl

/-! ## The answer -/

/-- Whether a frame settles a fetch: a text frame, a close or a transport failure. -/
def Frame.settles : Frame → Bool
  | .text _ | .close | .failure _ => true
  | _ => false

/-- The answer a fetch gives for the frame that settles it, `none` when the frames end
before one does. -/
def settledReply : Option Frame → Except Fault Value
  | some (.text s) =>
    match Json.parse s with
    | .ok v => .ok v
    | .error e => .error (.failed webLookup ("invalid reply: " ++ e.message))
  | some (.failure reason) => .error (.failed webLookup reason)
  | _ => .error (.failed webLookup "connection closed before a reply arrived")

/-- Reading the reply skips to the first settling frame and answers for it. -/
theorem fetchReply_eq_settledReply (replies : List Frame) :
    fetchReply replies = settledReply (replies.find? Frame.settles) := by
  induction replies with
  | nil => rfl
  | cons f rest ih =>
    cases f with
    | text s =>
      cases h : Json.parse s <;> simp [fetchReply, settledReply, Frame.settles, List.find?_cons, h]
    | binary b => simpa [fetchReply, Frame.settles] using ih
    | ping b => simpa [fetchReply, Frame.settles] using ih
    | pong b => simpa [fetchReply, Frame.settles] using ih
    | close => simp [fetchReply, settledReply, Frame.settles, List.find?_cons]
    | failure reason => simp [fetchReply, settledReply, Frame.settles, List.find?_cons]

/-- The answer a connected fetch gets from its peer: the refusal of its request, or else
the answer for the first settling reply. -/
def Peer.answer (peer : Peer) : Except Fault Value :=
  match peer.sendError? with
  | some e => .error (.failed webLookup e)
  | none => settledReply (peer.replies.find? Frame.settles)

/-- A fetch over a connection that cannot be made is unavailable, with the reason. -/
theorem fetchElement_of_connectError (net : Network) (selector url : String) (peer : Peer)
    (e : String) (h : connectError? net url = some e) :
    (fetchElement net selector url peer).answer =
      .error (.unavailable webLookup ("cannot connect to " ++ url ++ ": " ++ e)) := by
  simp [fetchElement, h]

/-- A fetch over a connection that is made answers as its peer does. -/
theorem fetchElement_of_connected (net : Network) (selector url : String) (peer : Peer)
    (h : connectError? net url = none) :
    (fetchElement net selector url peer).answer = peer.answer := by
  unfold fetchElement Peer.answer
  rw [h]
  cases peer.sendError? with
  | some e => rfl
  | none =>
    -- the answer is the reply's, whether or not a close follows it
    simp only [← fetchReply_eq_settledReply]
    cases fetchReply peer.replies <;> rfl

/-- The answer for a settling frame is a value or a failure, never unavailability. -/
theorem settledReply_ne_unavailable (f : Option Frame) (e : String) :
    settledReply f ≠ .error (.unavailable webLookup e) := by
  unfold settledReply
  split
  · split <;> simp
  · simp
  · simp

/-- The answer for a settling frame is a value exactly when the frame is text that reads
as that value. -/
theorem settledReply_eq_ok_iff (f : Option Frame) (v : Value) :
    settledReply f = .ok v ↔ ∃ s, f = some (.text s) ∧ Json.parse s = .ok v := by
  unfold settledReply
  split
  · rename_i s
    split <;> rename_i r hr <;> simp [hr]
  · simp
  · rename_i g hg hf
    constructor
    · simp
    · rintro ⟨s, rfl, -⟩
      exact absurd rfl (hg s)

theorem Peer.answer_ne_unavailable (peer : Peer) (e : String) :
    peer.answer ≠ .error (.unavailable webLookup e) := by
  unfold Peer.answer
  cases peer.sendError? with
  | some r => simp
  | none => exact settledReply_ne_unavailable _ e

theorem Peer.answer_eq_ok_iff (peer : Peer) (v : Value) :
    peer.answer = .ok v ↔ peer.sendError? = none ∧
      ∃ s, peer.replies.find? Frame.settles = some (.text s) ∧ Json.parse s = .ok v := by
  unfold Peer.answer
  cases peer.sendError? with
  | some r => simp
  | none => simp [settledReply_eq_ok_iff]

theorem Peer.answer_eq_failed_iff (peer : Peer) (reason : String) :
    peer.answer = .error (.failed webLookup reason) ↔ peer.sendError? = some reason ∨
      peer.sendError? = none ∧
        settledReply (peer.replies.find? Frame.settles) = .error (.failed webLookup reason) := by
  unfold Peer.answer
  cases peer.sendError? with
  | some r => simp [eq_comm]
  | none => simp

/-- A fetch writes exactly one text frame once connected, whose text reads back as
`{"selector": …}`, and none otherwise. It succeeds with `v` exactly when the connection is
made, takes the request, and the first frame that is text, a close or a failure is text
reading as `v`; it fails with a reason exactly when the connection is made and either
refuses the request with that reason or that frame gives it; it is unavailable exactly
when the connection cannot be made. -/
theorem fetch_first_text (net : Network) (selector url : String) (peer : Peer) (v : Value)
    (reason : String) :
    (∃ text, Json.parse text = .ok (.object [("selector", .string selector)]) ∧
      (fetchElement net selector url peer).sent.filter Frame.isText =
        if (connectError? net url).isSome then [] else [.text text]) ∧
    ((fetchElement net selector url peer).answer = .ok v ↔
      connectError? net url = none ∧ peer.sendError? = none ∧
        ∃ s, peer.replies.find? Frame.settles = some (.text s) ∧ Json.parse s = .ok v) ∧
    ((fetchElement net selector url peer).answer = .error (.failed webLookup reason) ↔
      connectError? net url = none ∧ (peer.sendError? = some reason ∨ peer.sendError? = none ∧
        settledReply (peer.replies.find? Frame.settles) = .error (.failed webLookup reason))) ∧
    ((∃ e, (fetchElement net selector url peer).answer = .error (.unavailable webLookup e)) ↔
      (connectError? net url).isSome) := by
  refine ⟨⟨_, parse_render_textField "selector" selector,
    fetchElement_sent_text net selector url peer⟩, ?_, ?_, ?_⟩
  · cases h : connectError? net url with
    | some e => simp [fetchElement_of_connectError net selector url peer e h]
    | none => simp [fetchElement_of_connected net selector url peer h, Peer.answer_eq_ok_iff]
  · cases h : connectError? net url with
    | some e => simp [fetchElement_of_connectError net selector url peer e h]
    | none => simp [fetchElement_of_connected net selector url peer h, Peer.answer_eq_failed_iff]
  · cases h : connectError? net url with
    | some e => simp [fetchElement_of_connectError net selector url peer e h]
    | none =>
      simp only [fetchElement_of_connected net selector url peer h, Option.isSome_none,
        Bool.false_eq_true, iff_false, not_exists]
      exact peer.answer_ne_unavailable

end Runbook.Capture
