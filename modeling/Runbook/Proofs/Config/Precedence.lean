import Runbook.Proofs.Config.Environment
import Runbook.Proofs.Config.Sections
import Runbook.Proofs.Yaml.EventGrammar
/-!
# Where the configuration comes from

The configuration is built in three layers: the defaults, the file, and the environment.
The file is the path given, or else the first candidate that is present; a path with
nothing there gives the defaults. The file's sections and keys replace the defaults they
name, and the environment's variables then replace single fields. Loading fails exactly
when the file is there but cannot be read or decoded, or when a numeric variable that is
set does not read as a number of its field's type; it then gives no configuration at all.

Main statement: `Config.load_layers`.
-/

namespace Runbook

open Yaml

/-- What the configuration file gives: the defaults when no file is chosen or nothing is at
its path, and otherwise the configuration its text decodes to. -/
inductive Config.FromFile (fs : FileStore) : Option String → Config → Prop
  | none : Config.FromFile fs none {}
  | absent {p : String} : fs.present p = false → Config.FromFile fs (some p) {}
  | decoded {p text : String} {content : Content} {c : Config} : fs.present p = true →
      fs.read p = .ok content → content.text? = some text → Config.ofYaml text = .ok c →
      Config.FromFile fs (some p) c

/-- The file at a path is there, but it cannot be read, is not UTF-8 text, or its text does
not decode to a configuration. -/
def Config.FileFails (fs : FileStore) (p : String) : Prop :=
  fs.present p = true ∧ ∀ content, fs.read p = .ok content → ∀ text, content.text? = some text →
    ∀ c, Config.ofYaml text ≠ .ok c

theorem Except.exists_error_iff {ε α : Type} {x : Except ε α} :
    (∃ e, x = .error e) ↔ ¬∃ a, x = .ok a := by
  cases x <;> simp

/-! ## The file -/

/-- The first candidate that is present is the file chosen when no path is given. -/
theorem configPath_none_eq_some_iff (fs : FileStore) (home : Option String) (p : String) :
    configPath fs home none = some p ↔
      fs.present p = true ∧ ∃ before after, configCandidates home = before ++ p :: after ∧
        ∀ q ∈ before, fs.present q = false := by
  unfold configPath
  rw [List.find?_eq_some_iff_append]
  simp only [Bool.not_eq_true']

theorem Config.ofFile_eq_ok_iff (fs : FileStore) (p : String) (c : Config) :
    Config.ofFile fs p = .ok c ↔ Config.FromFile fs (some p) c := by
  unfold Config.ofFile
  constructor
  · intro h
    cases hp : fs.present p with
    | false =>
      simp only [hp, Bool.not_false, if_true, Except.ok.injEq] at h
      exact h ▸ .absent hp
    | true =>
      simp only [hp, Bool.not_true, Bool.false_eq_true, if_false] at h
      split at h
      · cases h
      · rename_i content hr
        split at h
        · cases h
        · rename_i text ht
          split at h
          · rename_i c' hy
            cases h
            exact .decoded hp hr ht hy
          · cases h
  · rintro (_ | ⟨hp⟩ | ⟨hp, hr, ht, hy⟩)
    · simp [hp]
    · simp [hp, hr, ht, hy]

/-- Reading the file fails exactly when it is there but cannot be read or decoded. -/
theorem Config.ofFile_error_iff (fs : FileStore) (p : String) :
    (∃ e, Config.ofFile fs p = .error e) ↔ Config.FileFails fs p := by
  rw [Except.exists_error_iff]
  simp only [Config.ofFile_eq_ok_iff]
  constructor
  · intro h
    cases hp : fs.present p with
    | false => exact absurd ⟨_, .absent hp⟩ h
    | true => exact ⟨hp, fun content hr text ht c hy => h ⟨c, .decoded hp hr ht hy⟩⟩
  · rintro ⟨hp, hfail⟩ ⟨c, hc⟩
    cases hc with
    | absent hp' => rw [hp] at hp'; cases hp'
    | decoded _ hr ht hy => exact hfail _ hr _ ht c hy

/-! ## Loading -/

theorem Config.fromFile_none_iff (fs : FileStore) (c : Config) :
    Config.FromFile fs none c ↔ c = {} := by
  constructor
  · rintro ⟨⟩
    rfl
  · rintro rfl
    exact .none

theorem Except.exists_bind_error_iff {ε α β : Type} {x : Except ε α} {f : α → Except ε β} :
    (∃ e, x >>= f = .error e) ↔ (∃ e, x = .error e) ∨ ∃ a, x = .ok a ∧ ∃ e, f a = .error e := by
  cases x <;> simp [bind, Except.bind]

/-- Loading gives a configuration exactly when the file gives one and the environment's
overrides succeed on it. -/
theorem Config.load_eq_ok_iff (fs : FileStore) (env : Environment) (account : Option String)
    (path : Option String) (c' : Config) :
    Config.load fs env account path = .ok c' ↔
      ∃ c, Config.FromFile fs (configPath fs (homeDir env account) path) c ∧
        Config.Overridden env c c' := by
  unfold Config.load
  simp only
  cases configPath fs (homeDir env account) path with
  | none => simp [Config.fromFile_none_iff, withEnvironment_eq_ok_iff, pure, Except.pure, bind,
      Except.bind]
  | some p =>
    rw [Except.bind_eq_ok_iff]
    simp only [Config.ofFile_eq_ok_iff, withEnvironment_eq_ok_iff]

/-- Loading fails exactly when the chosen file is there but cannot be read or decoded, or a
numeric variable that is set does not read as a number of its type. -/
theorem Config.load_error_iff (fs : FileStore) (env : Environment) (account : Option String)
    (path : Option String) :
    (∃ e, Config.load fs env account path = .error e) ↔
      (¬∃ c, Config.FromFile fs (configPath fs (homeDir env account) path) c) ∨
        ¬NumericVariablesRead env := by
  unfold Config.load
  simp only
  -- whether the overrides fail does not depend on the configuration they start from
  have henv : ∀ c : Config, (∃ e, c.withEnvironment env = .error e) ↔ ¬NumericVariablesRead env :=
    fun c => withEnvironment_error_iff c env
  cases configPath fs (homeDir env account) path with
  | none => simpa [Config.fromFile_none_iff, pure, Except.pure, bind, Except.bind] using henv {}
  | some p =>
    rw [Except.exists_bind_error_iff]
    simp only [henv, Except.exists_error_iff, Config.ofFile_eq_ok_iff]
    tauto

/-- Nothing is given by the file exactly when the file chosen is there but fails. -/
theorem Config.fromFile_fails_iff (fs : FileStore) (file : Option String) :
    (¬∃ c, Config.FromFile fs file c) ↔ ∃ p, file = some p ∧ Config.FileFails fs p := by
  cases file with
  | none => simp [Config.fromFile_none_iff]
  | some p =>
    simp only [Option.some.injEq, exists_eq_left', ← Config.ofFile_error_iff,
      Except.exists_error_iff, Config.ofFile_eq_ok_iff]

/-- The layers of the configuration. The file is the path given, or else the first candidate
present, the last candidate lying in the home directory found; it gives the defaults when it
is not there, and otherwise its sections and keys in place of the defaults. The environment
then replaces each field whose variable is set. Loading fails, giving no configuration,
exactly when the file chosen is there but cannot be read or decoded, or a numeric variable
that is set does not read as a number of its type. The run settings take the loaded depth,
and the mail server and sender of the environment or else the file, falling back to
`localhost` and `stepflow@localhost`. -/
theorem Config.load_layers (fs : FileStore) (env : Environment) (account : Option String)
    (path : Option String) :
    (∀ p, path = some p → configPath fs (homeDir env account) path = some p) ∧
    (path = none → ∀ p, configPath fs (homeDir env account) path = some p ↔
      fs.present p = true ∧ ∃ before after,
        configCandidates (homeDir env account) = before ++ p :: after ∧
        ∀ q ∈ before, fs.present q = false) ∧
    (∀ c', Config.load fs env account path = .ok c' ↔
      ∃ c, Config.FromFile fs (configPath fs (homeDir env account) path) c ∧
        Config.Overridden env c c') ∧
    ((∃ e, Config.load fs env account path = .error e) ↔
      (∃ p, configPath fs (homeDir env account) path = some p ∧ Config.FileFails fs p) ∨
        ¬NumericVariablesRead env) ∧
    (∀ text c, Config.ofYaml text = .ok c → (Loaded.ofString text).document.Configures c) ∧
    (∀ c', Config.load fs env account path = .ok c' →
      ∃ c, Config.FromFile fs (configPath fs (homeDir env account) path) c ∧
        NumericOverride (env.lookup "STEPFLOW_MAX_DEPTH") (Nat.pow 2 64 - 1)
          c.engine.maxDepth c'.settings.maxDepth ∧
        c'.settings.smtpServer = ((env.lookup "SMTP_SERVER").or c.smtp.server).getD "localhost" ∧
        c'.settings.fromAddr =
          ((env.lookup "SMTP_FROM").or c.smtp.fromAddr).getD "stepflow@localhost") := by
  refine ⟨fun p hp => by rw [hp]; rfl, fun hp p => ?_,
    Config.load_eq_ok_iff fs env account path, ?_, fun text _ h => ?_, fun c' h => ?_⟩
  · rw [hp]
    exact configPath_none_eq_some_iff fs _ p
  · rw [Config.load_error_iff, Config.fromFile_fails_iff]
  · -- a text that decodes is read to the end of its document, so its events are well formed
    exact Config.ofYaml_keeps_defaults h
      (Loaded.ofString_wellFormed text (Config.ofYaml_failure_eq_none h))
  · obtain ⟨c, hc, ho⟩ := (Config.load_eq_ok_iff fs env account path c').mp h
    refine ⟨c, hc, ho.maxDepth, ?_, ?_⟩
    · simp only [Config.settings, ho.server]
    · simp only [Config.settings, ho.fromAddr]

set_option maxRecDepth 20000 in
/-- A file setting only the engine's depth follows the grammar of events, decodes, and
describes the defaults with that depth. -/
theorem Config.load_layers_depthFile :
    Config.ofYaml "engine:\n  max_depth: 8\n" = .ok { engine := { maxDepth := 8 } } ∧
      (Loaded.ofString "engine:\n  max_depth: 8\n").document.WellFormed ∧
      (Loaded.ofString "engine:\n  max_depth: 8\n").document.Configures
        { engine := { maxDepth := 8 } } := by
  have hdoc : (Loaded.ofString "engine:\n  max_depth: 8\n").document =
      ⟨#[(.mappingStart, ⟨0, 0, 0⟩), (.scalar none "engine" .plain, ⟨0, 0, 0⟩),
        (.mappingStart, ⟨10, 1, 2⟩), (.scalar none "max_depth" .plain, ⟨10, 1, 2⟩),
        (.scalar none "8" .plain, ⟨21, 1, 13⟩), (.mappingEnd, ⟨23, 2, 0⟩),
        (.mappingEnd, ⟨23, 2, 0⟩)], [], none⟩ := by
    cbv
  have hmore : (Loaded.ofString "engine:\n  max_depth: 8\n").more = false := by cbv
  have hy : Config.ofYaml "engine:\n  max_depth: 8\n" = .ok { engine := { maxDepth := 8 } } := by
    unfold Config.ofYaml
    simp only [hdoc, hmore]
    rfl
  have hwf : (Loaded.ofString "engine:\n  max_depth: 8\n").document.WellFormed :=
    Loaded.ofString_wellFormed _ (by rw [hdoc])
  exact ⟨hy, hwf, (Config.load_layers FileStore.empty [] none none).2.2.2.2.1 _ _ hy⟩

end Runbook
