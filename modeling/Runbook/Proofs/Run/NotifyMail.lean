import Runbook.Proofs.Run.CallOrder
import Mathlib
/-!
# The mail a notification sends

A notification reads `email`, `from_addr`, `message`, `smtp_server` and `subject` as
lenient text; a list or an object in any of them refuses the payload before anything is
sent. A notification whose address is missing or blank sends nothing; otherwise it sends
one mail to the address as given, with the message as body, and the payload's server,
sender and subject where they are not blank, the run's server and sender and
`Notification` otherwise.

Main statement: `notifyStep_sends_mail`.
-/

namespace Runbook

open Json Params

/-! ## Lenient text -/

/-- The text a scalar value stands for: a string as it is, a number in its JSON text, a
boolean as `true` or `false`; nothing for `null`, a list or an object. -/
def Json.Value.scalarText : Value → Option String
  | .string s => some s
  | .number n => some n.render
  | .bool b => some (if b then "true" else "false")
  | _ => none

/-- Whether a value is a list or an object. -/
def Json.Value.IsCompound : Value → Prop
  | .array _ | .object _ => True
  | _ => False

theorem lenientString_of_not_compound {v : Value} (h : ¬v.IsCompound) :
    lenientString v = .ok v.scalarText := by
  cases v <;> simp_all [Value.IsCompound, lenientString, Value.scalarText]

theorem lenientString_of_compound {v : Value} (h : v.IsCompound) :
    lenientString v = .error ("expected a scalar value, found " ++ v.render) := by
  cases v <;> simp_all [Value.IsCompound, lenientString]

/-! ## Blank texts -/

/-- Every character is kept from the first that `p` refuses on, so when all that is kept
passes `p`, nothing is kept and every character passes. -/
theorem all_of_all_dropWhile {p : Char → Bool} {cs : List Char}
    (h : ∀ c ∈ cs.dropWhile p, p c = true) : ∀ c ∈ cs, p c = true := by
  induction cs with
  | nil => simp
  | cons d ds ih =>
    by_cases hd : p d = true
    · rw [List.dropWhile_cons_of_pos hd] at h
      simpa [hd] using ih h
    · rw [List.dropWhile_cons_of_neg hd] at h
      exact absurd (h d List.mem_cons_self) hd

/-- A text is blank exactly when trimming leaves nothing of it. -/
theorem Text.trim_eq_empty_iff (s : String) : Text.trim s = "" ↔ Text.isBlankText s = true := by
  simp only [Text.trim, Text.trimList, String.ofList_eq_empty_iff, List.reverse_eq_nil_iff,
    List.dropWhile_eq_nil_iff, List.mem_reverse, Text.isBlankText, List.all_eq_true]
  exact ⟨all_of_all_dropWhile, fun h c hc => h c ((List.dropWhile_sublist _).subset hc)⟩

/-- A text of the payload when it is given and not blank once trimmed, else a fallback. -/
def givenOr (given : Option String) (fallback : String) : String :=
  match given with
  | some s => if Text.trim s = "" then fallback else s
  | none => fallback

theorem nonBlank_getD (given : Option String) (fallback : String) :
    (nonBlank given).getD fallback = givenOr given fallback := by
  cases given with
  | none => rfl
  | some s =>
    by_cases h : Text.isBlankText s = true
    · simp [nonBlank, givenOr, h, (Text.trim_eq_empty_iff s).mpr h]
    · simp [nonBlank, givenOr, h, mt (Text.trim_eq_empty_iff s).mp h]

theorem nonBlank_eq_none_iff (given : Option String) :
    nonBlank given = none ↔ ∀ s, given = some s → Text.trim s = "" := by
  cases given with
  | none => simp [nonBlank]
  | some s => simp [nonBlank, Text.trim_eq_empty_iff]

/-! ## The mail -/

section Mail

variable (settings : Settings) (email fromAddr message smtpServer subject : Option String)

theorem notifyMail_eq_none_iff :
    notifyMail settings email fromAddr message smtpServer subject = none ↔
      ∀ r, email = some r → Text.trim r = "" := by
  rw [notifyMail, Option.map_eq_none_iff, nonBlank_eq_none_iff]

theorem notifyMail_of_recipient {r : String} (he : email = some r) (hr : Text.trim r ≠ "") :
    notifyMail settings email fromAddr message smtpServer subject =
      some { smtpServer := givenOr smtpServer settings.smtpServer
             fromAddr := givenOr fromAddr settings.fromAddr
             toAddr := r
             subject := givenOr subject "Notification"
             body := message.getD "" } := by
  have hkept : nonBlank (some r) = some r := if_neg fun hb => hr ((Text.trim_eq_empty_iff r).mpr hb)
  rw [notifyMail, he, hkept, Option.map_some]
  simp only [nonBlank_getD]

end Mail

/-! ## The notification -/

/-- The keys a notification reads, in the order it reads them. -/
def notifyKeys : List String := ["email", "from_addr", "message", "smtp_server", "subject"]

/-- The value of a parameter, `null` when the key is missing. -/
def rawParam (params : Params) (key : String) : Value := (params.lookup key).getD .null

/-- The text of a parameter. -/
def paramText (params : Params) (key : String) : Option String := (rawParam params key).scalarText

/-- Why a payload is refused whose parameter holds a list or an object. -/
def compoundReason (v : Value) : String := "expected a scalar value, found " ++ v.render

section Notify

variable {bench : Bench} {settings : Settings} {params : Params}

theorem readParam_text_bind_of_compound {α : Type} {key : String} {k : Option String → Work α}
    (h : (rawParam params key).IsCompound) :
    (readParam .notify params key lenientString >>= k) =
      throw (.invalidParameter .notify "payload" (compoundReason (rawParam params key))) := by
  rw [readParam_of_error (lenientString_of_compound h), ExceptT.bind_throw]
  rfl

theorem readParam_text_bind_of_scalar {α : Type} {key : String} {k : Option String → Work α}
    (h : ¬(rawParam params key).IsCompound) :
    (readParam .notify params key lenientString >>= k) = k (paramText params key) := by
  rw [readParam_of_ok (lenientString_of_not_compound h), pure_bind]
  rfl

/-- A payload whose five fields are scalars is read without a fault, to the mail they
compose. -/
theorem notifyStep_of_scalars (h : ∀ key ∈ notifyKeys, ¬(rawParam params key).IsCompound) :
    notifyStep bench settings params =
      (Option.elim (notifyMail settings (paramText params "email") (paramText params "from_addr")
          (paramText params "message") (paramText params "smtp_server")
          (paramText params "subject")) (pure ()) (fun m => bench.work (.mail m)) >>=
        fun _ => pure .completed) := by
  simp only [notifyKeys, List.mem_cons, List.not_mem_nil, or_false, forall_eq_or_imp,
    forall_eq] at h
  obtain ⟨he, hf, hm, hs, hsub⟩ := h
  rw [notifyStep]
  simp only [readParam_text_bind_of_scalar he, readParam_text_bind_of_scalar hf,
    readParam_text_bind_of_scalar hm, readParam_text_bind_of_scalar hs,
    readParam_text_bind_of_scalar hsub]
  cases notifyMail settings (paramText params "email") (paramText params "from_addr")
    (paramText params "message") (paramText params "smtp_server") (paramText params "subject") <;>
    rfl

/-- A payload with a list or an object among its five fields is refused before any call,
the first such field in key order giving the reason. -/
theorem notifyStep_of_compound (h : ∃ key ∈ notifyKeys, (rawParam params key).IsCompound) :
    ∃ before key after, notifyKeys = before ++ key :: after ∧
      (∀ k ∈ before, ¬(rawParam params k).IsCompound) ∧ (rawParam params key).IsCompound ∧
      notifyStep bench settings params =
        throw (.invalidParameter .notify "payload" (compoundReason (rawParam params key))) := by
  rw [notifyStep]
  -- the fields are read in key order, and the first compound one ends the reading
  by_cases he : (rawParam params "email").IsCompound
  · exact ⟨[], "email", _, rfl, by simp, he, readParam_text_bind_of_compound he⟩
  rw [readParam_text_bind_of_scalar he]
  by_cases hf : (rawParam params "from_addr").IsCompound
  · exact ⟨["email"], "from_addr", _, rfl, by simpa using he, hf,
      readParam_text_bind_of_compound hf⟩
  rw [readParam_text_bind_of_scalar hf]
  by_cases hm : (rawParam params "message").IsCompound
  · exact ⟨["email", "from_addr"], "message", _, rfl, by simp [he, hf], hm,
      readParam_text_bind_of_compound hm⟩
  rw [readParam_text_bind_of_scalar hm]
  by_cases hs : (rawParam params "smtp_server").IsCompound
  · exact ⟨["email", "from_addr", "message"], "smtp_server", _, rfl, by simp [he, hf, hm], hs,
      readParam_text_bind_of_compound hs⟩
  rw [readParam_text_bind_of_scalar hs]
  by_cases hsub : (rawParam params "subject").IsCompound
  · exact ⟨["email", "from_addr", "message", "smtp_server"], "subject", [], rfl,
      by simp [he, hf, hm, hs], hsub, readParam_text_bind_of_compound hsub⟩
  -- no field is compound, against the hypothesis
  obtain ⟨key, hk, hc⟩ := h
  simp only [notifyKeys, List.mem_cons, List.not_mem_nil, or_false] at hk
  rcases hk with rfl | rfl | rfl | rfl | rfl <;> contradiction

end Notify

/-- What a notification does with its payload. A list or an object among `email`,
`from_addr`, `message`, `smtp_server` and `subject` refuses the payload before anything is
sent, the first such field in key order giving the reason. Otherwise, with no address or a
blank one, nothing is sent; with an address that is not blank, exactly one mail is sent, to
the address as it was given, its body the message or empty, its server, sender and subject
the payload's when given and not blank, else the run's server, the run's sender and
`Notification`. Scalars are read as `Value.scalarText` says: strings as they are, numbers
in their JSON text, booleans as `true` or `false`. -/
theorem notifyStep_sends_mail (bench : Bench) (settings : Settings) (params : Params) :
    ((∃ key ∈ notifyKeys, (rawParam params key).IsCompound) →
      ∃ before key after, notifyKeys = before ++ key :: after ∧
        (∀ k ∈ before, ¬(rawParam params k).IsCompound) ∧ (rawParam params key).IsCompound ∧
        notifyStep bench settings params =
          throw (.invalidParameter .notify "payload" (compoundReason (rawParam params key)))) ∧
    ((∀ key ∈ notifyKeys, ¬(rawParam params key).IsCompound) →
      (∀ r, paramText params "email" = some r → Text.trim r = "") →
      notifyStep bench settings params = pure .completed) ∧
    (∀ r, (∀ key ∈ notifyKeys, ¬(rawParam params key).IsCompound) →
      paramText params "email" = some r → Text.trim r ≠ "" →
      notifyStep bench settings params =
        (do
          bench.calls [.mail
            { smtpServer := givenOr (paramText params "smtp_server") settings.smtpServer
              fromAddr := givenOr (paramText params "from_addr") settings.fromAddr
              toAddr := r
              subject := givenOr (paramText params "subject") "Notification"
              body := (paramText params "message").getD "" }]
          pure .completed)) := by
  refine ⟨notifyStep_of_compound, fun hs hblank => ?_, fun r hs he hr => ?_⟩
  · rw [notifyStep_of_scalars hs, (notifyMail_eq_none_iff _ _ _ _ _ _).mpr hblank]
    simp only [Option.elim, pure_bind]
  · rw [notifyStep_of_scalars hs, notifyMail_of_recipient _ _ _ _ _ _ he hr]
    simp only [Option.elim, Bench.calls_cons, Bench.calls_nil, bind_assoc, pure_bind]

/-- A payload giving the address with a blank in front, the subject as the number `5` and
the message as `true` sends, on the default settings, one mail to the address as given,
with subject `5`, body `true`, and the default server and sender. -/
theorem notifyStep_sends_mail_numericSubject :
    let params : Params := [("email", .string " ops@example.com"), ("message", .bool true),
      ("subject", .number (.unsigned 5))]
    (∀ key ∈ notifyKeys, ¬(rawParam params key).IsCompound) ∧
      paramText params "email" = some " ops@example.com" ∧ Text.trim " ops@example.com" ≠ "" ∧
      notifyStep {} {} params =
        (do
          Bench.calls {} [.mail
            { smtpServer := "localhost", fromAddr := "stepflow@localhost",
              toAddr := " ops@example.com", subject := "5", body := "true" }]
          pure .completed) := by
  intro params
  have hs : ∀ key ∈ notifyKeys, ¬(rawParam params key).IsCompound := by
    intro key hk
    simp only [notifyKeys, List.mem_cons, List.not_mem_nil, or_false] at hk
    rcases hk with rfl | rfl | rfl | rfl | rfl <;> exact id
  have he : paramText params "email" = some " ops@example.com" := rfl
  have hr : Text.trim " ops@example.com" ≠ "" := by decide
  have hsub : givenOr (paramText params "subject") "Notification" = "5" := by decide
  have hsrv : givenOr (paramText params "smtp_server") "localhost" = "localhost" := rfl
  have hfrom : givenOr (paramText params "from_addr") "stepflow@localhost" = "stepflow@localhost" := rfl
  have hbody : (paramText params "message").getD "" = "true" := rfl
  refine ⟨hs, he, hr, ?_⟩
  rw [(notifyStep_sends_mail {} {} params).2.2 _ hs he hr]
  simp only [hsub, hbody]
  rfl

end Runbook
