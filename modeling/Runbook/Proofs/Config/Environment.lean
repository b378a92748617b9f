import Runbook.Config.Load
import Runbook.Proofs.Params.IntegerNumeral
import Runbook.Proofs.Workflow.Grammar
import Mathlib
/-!
# Environment overrides of the configuration

Eight variables override single fields of the configuration. A text variable replaces its
field as it is; a numeric one must read as an unsigned numeral of its field's type. When
every numeric variable that is set reads so, each set variable replaces exactly its own
field; otherwise the first that does not, in the order depth, mail port, capture port, is
the error.

Main statements: `Numeral.readInteger_unsigned_eq_ok_iff`, `withEnvironment_eq_ok_iff` and
`withEnvironment_error_iff`.
-/

namespace Runbook

open Numeral

/-! ## Unsigned numerals -/

/-- A text is an unsigned numeral of value `n`, at most `hi`: an optional `+` followed by
one or more ASCII digits, leading zeros allowed. -/
def ReadsUnsigned (hi : Nat) (s : String) (n : Nat) : Prop :=
  ∃ ds : List Char, (s.toList = ds ∨ s.toList = '+' :: ds) ∧ ds ≠ [] ∧
    (∀ c ∈ ds, c.isDigit = true) ∧ Nat.ofDigitChars 10 ds 0 = n ∧ n ≤ hi

namespace Numeral

/-- Digits read without a fault were all digits. -/
theorem isDigit_of_readDigits_ok {negative : Bool} {lo hi acc n : Int} {ds : List Char}
    (h : readDigits negative lo hi acc ds = .ok n) : ∀ c ∈ ds, c.isDigit = true := by
  induction ds generalizing acc with
  | nil => simp
  | cons c rest ih =>
    rw [readDigits] at h
    cases hc : digitValue c with
    | none => simp [hc] at h
    | some d =>
      have hdigit : c.isDigit = true := by
        by_contra hn
        simp [digitValue, hn] at hc
      simp only [hc] at h
      generalize (if negative = true then acc * 10 - (d : Int) else acc * 10 + d) = next at h
      -- past either bound the reading stops with a fault; within them it goes on
      by_cases hhi : next > hi
      · rw [if_pos hhi] at h
        cases h
      · by_cases hlo : next < lo
        · rw [if_neg hhi, if_pos hlo] at h
          cases h
        · rw [if_neg hhi, if_neg hlo] at h
          intro x hx
          rcases List.mem_cons.mp hx with rfl | hx
          · exact hdigit
          · exact ih h x hx

/-- Unsigned digits read from zero: the value of the digits when they are all digits and
the value fits. -/
theorem readDigits_unsigned_eq_ok_iff {hi : Nat} {ds : List Char} {n : Int} :
    readDigits false 0 hi 0 ds = .ok n ↔
      (∀ c ∈ ds, c.isDigit = true) ∧ n = Nat.ofDigitChars 10 ds 0 ∧
        Nat.ofDigitChars 10 ds 0 ≤ hi := by
  constructor
  · intro h
    have hds := isDigit_of_readDigits_ok h
    have hup := readDigits_up (show (0 : Int) ≤ 0 from le_rfl) hds 0
      (show ((0 : Nat) : Int) ≤ (hi : Int) by positivity)
    rw [Nat.cast_zero, h] at hup
    split at hup
    · cases hup
      exact ⟨hds, rfl, by omega⟩
    · cases hup
  · rintro ⟨hds, rfl, hle⟩
    have hup := readDigits_up (show (0 : Int) ≤ 0 from le_rfl) hds 0
      (show ((0 : Nat) : Int) ≤ (hi : Int) by positivity)
    rw [Nat.cast_zero] at hup
    rw [hup, if_pos (by exact_mod_cast hle)]

/-- The numerals of an unsigned type: an optional `+` and one or more digits whose value
fits, as the standard library reads them. -/
theorem readInteger_unsigned_eq_ok_iff (hi : Nat) (s : String) (n : Int) :
    readInteger 0 hi s = .ok n ↔ ∃ m : Nat, n = m ∧ ReadsUnsigned hi s m := by
  have hplus : ('+' : Char).isDigit = false := rfl
  constructor
  · intro h
    unfold readInteger at h
    split at h
    · cases h
    · cases h
    · cases h
    · -- a sign of plus, then the digits
      rename_i rest hne hs
      obtain ⟨hds, rfl, hle⟩ := readDigits_unsigned_eq_ok_iff.mp h
      exact ⟨_, rfl, rest, .inr hs, hne, hds, rfl, hle⟩
    · -- a sign of minus is no sign of an unsigned type
      rw [if_neg (lt_irrefl 0)] at h
      cases h
    · -- no sign: the whole text is the digits
      rename_i hempty _ _ _ _
      obtain ⟨hds, rfl, hle⟩ := readDigits_unsigned_eq_ok_iff.mp h
      exact ⟨_, rfl, s.toList, .inl rfl, hempty, hds, rfl, hle⟩
  · rintro ⟨m, rfl, ds, hform, hne, hds, rfl, hle⟩
    obtain ⟨d, rest, rfl⟩ := List.exists_cons_of_ne_nil hne
    have hd : d.isDigit = true := hds d List.mem_cons_self
    have hread := readDigits_unsigned_eq_ok_iff.mpr ⟨hds, rfl, hle⟩
    have hs : s = String.ofList s.toList := String.ofList_toList.symm
    rcases hform with hform | hform
    · rw [hs, hform, readInteger_of_digit hd]
      exact hread
    · rw [hs, hform, readInteger_plus (List.cons_ne_nil d rest)]
      exact hread

/-- A numeral refused by the reader of an unsigned type reads as no numeral of that type. -/
theorem readInteger_unsigned_eq_error {hi : Nat} {s : String} {e : IntError}
    (h : readInteger 0 hi s = .error e) (n : Nat) : ¬ReadsUnsigned hi s n := by
  intro hn
  rw [(readInteger_unsigned_eq_ok_iff hi s n).mpr ⟨n, rfl, hn⟩] at h
  cases h

end Numeral

/-! ## Numeric variables -/

theorem readVariable_eq_ok_iff (name value : String) (hi n : Nat) :
    readVariable name value hi = .ok n ↔ ReadsUnsigned hi value n := by
  unfold readVariable
  cases h : readInteger 0 hi value with
  | error e =>
    simp only [reduceCtorEq, false_iff]
    exact readInteger_unsigned_eq_error h n
  | ok m =>
    obtain ⟨k, rfl, hk⟩ := (readInteger_unsigned_eq_ok_iff hi value m).mp h
    simp only [Except.ok.injEq, Int.toNat_natCast]
    constructor
    · rintro rfl
      exact hk
    · intro hn
      -- a numeral has one value
      have hn' := (readInteger_unsigned_eq_ok_iff hi value n).mpr ⟨n, rfl, hn⟩
      rw [h] at hn'
      exact_mod_cast Except.ok.inj hn'

theorem readVariable_eq_error {name value : String} {hi : Nat} {e : ConfigError}
    (h : readVariable name value hi = .error e) :
    (∀ n, ¬ReadsUnsigned hi value n) ∧ ∃ err, e = .badVariable name value err := by
  refine ⟨fun n hn => ?_, ?_⟩
  · rw [(readVariable_eq_ok_iff name value hi n).mpr hn] at h
    cases h
  · unfold readVariable at h
    split at h
    · cases h
    · cases h
      exact ⟨_, rfl⟩

theorem readVariable_of_not_reads {name value : String} {hi : Nat}
    (h : ∀ n, ¬ReadsUnsigned hi value n) :
    ∃ err, readVariable name value hi = .error (.badVariable name value err) := by
  unfold readVariable
  cases hr : readInteger 0 hi value with
  | error err => exact ⟨err, rfl⟩
  | ok m =>
    obtain ⟨k, rfl, hk⟩ := (readInteger_unsigned_eq_ok_iff hi value m).mp hr
    exact absurd hk (h k)

/-! ## One step per variable -/

/-- The text variables of logging in place of their fields. -/
def Config.withLogVariables (c : Config) (env : Environment) : Config :=
  { c with logging := { level := (env.lookup "STEPFLOW_LOG_LEVEL").getD c.logging.level
                        format := (env.lookup "STEPFLOW_LOG_FORMAT").getD c.logging.format } }

/-- The mail server variable in place of its field. -/
def Config.withServerVariable (c : Config) (env : Environment) : Config :=
  { c with smtp := { c.smtp with server := (env.lookup "SMTP_SERVER").or c.smtp.server } }

/-- The mail sender and capture host variables in place of their fields. -/
def Config.withSenderHostVariables (c : Config) (env : Environment) : Config :=
  { c with smtp := { c.smtp with fromAddr := (env.lookup "SMTP_FROM").or c.smtp.fromAddr }
           capture := { c.capture with host := (env.lookup "STEPFLOW_CAPTURE_HOST").getD c.capture.host } }

/-- The step of a numeric variable, then the rest of the overrides: when the variable is
set, it must read as a number up to `hi`, which goes into the field. -/
def numericStep (put : Config → Nat → Config) (name : String) (hi : Nat)
    (value : Option String) (c : Config) (rest : Config → Except ConfigError Config) :
    Except ConfigError Config :=
  match value with
  | some v => readVariable name v hi >>= fun n => rest (put c n)
  | none => rest c

/-- The overrides are the variables' steps, in their order: the text variables of
logging, then the depth; the mail server, then the mail port; the sender and the capture
host, then the capture port. -/
theorem withEnvironment_eq (c : Config) (env : Environment) :
    c.withEnvironment env =
      numericStep (fun c d => { c with engine := { maxDepth := d } }) "STEPFLOW_MAX_DEPTH"
        (Nat.pow 2 64 - 1) (env.lookup "STEPFLOW_MAX_DEPTH") (c.withLogVariables env) fun c =>
      numericStep (fun c p => { c with smtp := { c.smtp with port := p } }) "SMTP_PORT" 65535
        (env.lookup "SMTP_PORT") (c.withServerVariable env) fun c =>
      numericStep (fun c p => { c with capture := { c.capture with port := p } })
        "STEPFLOW_CAPTURE_PORT" 65535 (env.lookup "STEPFLOW_CAPTURE_PORT")
        (c.withSenderHostVariables env) pure := by
  -- each text variable's step is a match on its lookup; the steps of a group commute
  unfold Config.withEnvironment Config.withLogVariables Config.withServerVariable
    Config.withSenderHostVariables
  dsimp only
  cases env.lookup "STEPFLOW_LOG_LEVEL" <;> cases env.lookup "STEPFLOW_LOG_FORMAT" <;>
    cases env.lookup "SMTP_SERVER" <;> cases env.lookup "SMTP_FROM" <;>
    cases env.lookup "STEPFLOW_CAPTURE_HOST" <;> rfl

theorem numericStep_eq_ok_iff {put : Config → Nat → Config} {name : String} {hi : Nat}
    {value : Option String} {c c' : Config} {rest : Config → Except ConfigError Config} :
    numericStep put name hi value c rest = .ok c' ↔
      (value = none ∧ rest c = .ok c') ∨
        ∃ v n, value = some v ∧ ReadsUnsigned hi v n ∧ rest (put c n) = .ok c' := by
  cases value with
  | none => simp [numericStep]
  | some v =>
    simp only [numericStep, Except.bind_eq_ok_iff, readVariable_eq_ok_iff, reduceCtorEq,
      false_and, Option.some.injEq, exists_and_left, exists_eq_left', false_or]

theorem numericStep_eq_error_iff {put : Config → Nat → Config} {name : String} {hi : Nat}
    {value : Option String} {c : Config} {rest : Config → Except ConfigError Config}
    {e : ConfigError} :
    numericStep put name hi value c rest = .error e ↔
      (value = none ∧ rest c = .error e) ∨
        ∃ v, value = some v ∧ (readVariable name v hi = .error e ∨
          ∃ n, ReadsUnsigned hi v n ∧ rest (put c n) = .error e) := by
  cases value with
  | none => simp [numericStep]
  | some v =>
    simp only [numericStep, Except.bind_eq_error_iff, readVariable_eq_ok_iff, reduceCtorEq,
      false_and, Option.some.injEq, exists_eq_left', false_or]

/-! ## The overrides as a whole -/

/-- What a numeric variable does to its field: unset, it keeps the field; set, it gives
the value it reads as, a number up to `hi`. -/
def NumericOverride (value : Option String) (hi : Nat) (old new : Nat) : Prop :=
  match value with
  | none => new = old
  | some v => ReadsUnsigned hi v new

theorem NumericOverride.reads {value : Option String} {hi old new : Nat} {v : String}
    (h : NumericOverride value hi old new) (hv : value = some v) : ReadsUnsigned hi v new := by
  subst hv
  exact h

/-- A configuration with each variable of the environment that is set in place of its own
field, every numeric one read as a number of its field's type. -/
structure Config.Overridden (env : Environment) (c c' : Config) : Prop where
  level : c'.logging.level = (env.lookup "STEPFLOW_LOG_LEVEL").getD c.logging.level
  format : c'.logging.format = (env.lookup "STEPFLOW_LOG_FORMAT").getD c.logging.format
  maxDepth : NumericOverride (env.lookup "STEPFLOW_MAX_DEPTH") (Nat.pow 2 64 - 1)
    c.engine.maxDepth c'.engine.maxDepth
  server : c'.smtp.server = (env.lookup "SMTP_SERVER").or c.smtp.server
  port : NumericOverride (env.lookup "SMTP_PORT") 65535 c.smtp.port c'.smtp.port
  fromAddr : c'.smtp.fromAddr = (env.lookup "SMTP_FROM").or c.smtp.fromAddr
  host : c'.capture.host = (env.lookup "STEPFLOW_CAPTURE_HOST").getD c.capture.host
  capturePort : NumericOverride (env.lookup "STEPFLOW_CAPTURE_PORT") 65535
    c.capture.port c'.capture.port

theorem Config.eq_of_fields {c c' : Config} (hl : c'.logging.level = c.logging.level)
    (hf : c'.logging.format = c.logging.format) (hd : c'.engine.maxDepth = c.engine.maxDepth)
    (hs : c'.smtp.server = c.smtp.server) (hp : c'.smtp.port = c.smtp.port)
    (ha : c'.smtp.fromAddr = c.smtp.fromAddr) (hh : c'.capture.host = c.capture.host)
    (hc : c'.capture.port = c.capture.port) : c' = c := by
  obtain ⟨⟨_, _⟩, ⟨_, _, _⟩, ⟨_⟩, ⟨_, _⟩⟩ := c
  obtain ⟨⟨_, _⟩, ⟨_, _, _⟩, ⟨_⟩, ⟨_, _⟩⟩ := c'
  simp_all

/-- A numeric step, for a field read by `get` and written by `put`, succeeds as the rest
does with the field at the value the variable gives it. -/
theorem numericStep_eq_ok_iff_override {put : Config → Nat → Config} (get : Config → Nat)
    (hput : ∀ c, put c (get c) = c) {name : String}
    {hi : Nat} {value : Option String} {c c' : Config} {rest : Config → Except ConfigError Config} :
    numericStep put name hi value c rest = .ok c' ↔
      ∃ n, NumericOverride value hi (get c) n ∧ rest (put c n) = .ok c' := by
  rw [numericStep_eq_ok_iff]
  cases value with
  | none =>
    simp only [true_and, reduceCtorEq, false_and, exists_false, or_false, NumericOverride,
      exists_eq_left, hput]
  | some v =>
    simp only [reduceCtorEq, false_and, Option.some.injEq, exists_and_left, exists_eq_left',
      false_or, NumericOverride]

/-- The overrides succeed exactly when every numeric variable that is set reads as a number
of its field's type, and then each variable that is set replaces its own field. -/
theorem withEnvironment_eq_ok_iff (c c' : Config) (env : Environment) :
    c.withEnvironment env = .ok c' ↔ Config.Overridden env c c' := by
  rw [withEnvironment_eq]
  have depth := @numericStep_eq_ok_iff_override (fun c d => { c with engine := { maxDepth := d } })
    (fun c => c.engine.maxDepth) (fun _ => rfl)
  have port := @numericStep_eq_ok_iff_override (fun c p => { c with smtp := { c.smtp with port := p } })
    (fun c => c.smtp.port) (fun _ => rfl)
  have capturePort := @numericStep_eq_ok_iff_override
    (fun c p => { c with capture := { c.capture with port := p } }) (fun c => c.capture.port)
    (fun _ => rfl)
  constructor
  · intro h
    obtain ⟨nd, hnd, h⟩ := depth.mp h
    obtain ⟨np, hnp, h⟩ := port.mp h
    obtain ⟨nq, hnq, h⟩ := capturePort.mp h
    obtain rfl := Except.ok.inj h
    exact ⟨rfl, rfl, hnd, rfl, hnp, rfl, rfl, hnq⟩
  · intro hov
    refine depth.mpr ⟨c'.engine.maxDepth, hov.maxDepth, port.mpr ⟨c'.smtp.port, hov.port,
      capturePort.mpr ⟨c'.capture.port, hov.capturePort, ?_⟩⟩⟩
    -- the configuration assembled is the one the overrides describe
    congr 1
    exact Config.eq_of_fields hov.level.symm hov.format.symm rfl hov.server.symm rfl
      hov.fromAddr.symm hov.host.symm rfl

/-- The numeric variables in the order they are read, each with the largest value of its
field's type: `usize` for the depth, `u16` for the ports. -/
def numericVariables : List (String × Nat) :=
  [("STEPFLOW_MAX_DEPTH", Nat.pow 2 64 - 1), ("SMTP_PORT", 65535), ("STEPFLOW_CAPTURE_PORT", 65535)]

/-- Every numeric variable that is set reads as a number of its field's type. -/
def NumericVariablesRead (env : Environment) : Prop :=
  ∀ p ∈ numericVariables, ∀ v, env.lookup p.1 = some v → ∃ n, ReadsUnsigned p.2 v n

/-- A numeric step fails on its own variable, which then reads as no number, or else its
variable reads and the rest fails. -/
theorem numericStep_error_cases {put : Config → Nat → Config} {name : String} {hi : Nat}
    {value : Option String} {c : Config} {rest : Config → Except ConfigError Config}
    {e : ConfigError} (h : numericStep put name hi value c rest = .error e) :
    (∃ v, value = some v ∧ (∀ n, ¬ReadsUnsigned hi v n) ∧ ∃ err, e = .badVariable name v err) ∨
      ((∀ v, value = some v → ∃ n, ReadsUnsigned hi v n) ∧ ∃ c₁, rest c₁ = .error e) := by
  rcases numericStep_eq_error_iff.mp h with ⟨rfl, h⟩ | ⟨v, rfl, hbad | ⟨n, hn, h⟩⟩
  · exact .inr ⟨by simp, _, h⟩
  · exact .inl ⟨v, rfl, readVariable_eq_error hbad⟩
  · exact .inr ⟨fun v' hv' => ⟨n, Option.some.inj hv' ▸ hn⟩, _, h⟩

/-- When the overrides fail, the error names the first numeric variable, in the order they
are read, that is set and reads as no number of its field's type. -/
theorem withEnvironment_eq_error {c : Config} {env : Environment} {e : ConfigError}
    (h : c.withEnvironment env = .error e) :
    ∃ before name hi after v err, numericVariables = before ++ (name, hi) :: after ∧
      (∀ p ∈ before, ∀ v', env.lookup p.1 = some v' → ∃ n, ReadsUnsigned p.2 v' n) ∧
      env.lookup name = some v ∧ (∀ n, ¬ReadsUnsigned hi v n) ∧
      e = .badVariable name v err := by
  rw [withEnvironment_eq] at h
  -- the steps run in order, and the first whose variable does not read ends the overrides
  rcases numericStep_error_cases h with ⟨v, hv, hno, err, rfl⟩ | ⟨hdepth, _, h⟩
  · exact ⟨[], _, _, _, v, err, rfl, by simp, hv, hno, rfl⟩
  rcases numericStep_error_cases h with ⟨v, hv, hno, err, rfl⟩ | ⟨hport, _, h⟩
  · exact ⟨[("STEPFLOW_MAX_DEPTH", Nat.pow 2 64 - 1)], _, _, _, v, err, rfl, by simpa using hdepth,
      hv, hno, rfl⟩
  rcases numericStep_error_cases h with ⟨v, hv, hno, err, rfl⟩ | ⟨_, _, h⟩
  · refine ⟨[("STEPFLOW_MAX_DEPTH", Nat.pow 2 64 - 1), ("SMTP_PORT", 65535)], _, _, _, v, err,
      rfl, ?_, hv, hno, rfl⟩
    simp only [List.mem_cons, List.not_mem_nil, or_false, forall_eq_or_imp, forall_eq]
    exact ⟨hdepth, hport⟩
  · cases h

/-- The overrides fail exactly when some numeric variable is set and reads as no number of
its field's type. -/
theorem withEnvironment_error_iff (c : Config) (env : Environment) :
    (∃ e, c.withEnvironment env = .error e) ↔ ¬NumericVariablesRead env := by
  constructor
  · rintro ⟨e, h⟩ hread
    obtain ⟨before, name, hi, after, v, err, hsplit, -, hv, hno, -⟩ := withEnvironment_eq_error h
    obtain ⟨n, hn⟩ := hread (name, hi) (by rw [hsplit]; simp) v hv
    exact hno n hn
  · intro hno
    cases h : c.withEnvironment env with
    | error e => exact ⟨e, rfl⟩
    | ok c' =>
      -- a configuration that was given read every numeric variable that is set
      have hov := (withEnvironment_eq_ok_iff c c' env).mp h
      refine absurd (fun p hp v hv => ?_) hno
      simp only [numericVariables, List.mem_cons, List.not_mem_nil, or_false] at hp
      rcases hp with rfl | rfl | rfl
      · exact ⟨_, hov.maxDepth.reads hv⟩
      · exact ⟨_, hov.port.reads hv⟩
      · exact ⟨_, hov.capturePort.reads hv⟩

end Runbook
