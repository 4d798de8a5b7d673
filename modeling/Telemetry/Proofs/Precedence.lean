import Telemetry.Proofs.Failing
import Telemetry.Settings.Read

/-!
# Variables of the environment and the settings file

The environment is to win over the settings file: what a file says about a setting that the
environment gives is not to matter. But a file is checked as it was read, before the environment is
let in, and checked again after that.

* **`Setting`** — the settings one by one, with their values, their variables and their ranges.
* **`Settings.value_override`** — each setting has the value of its variable, or else its own.
* **`Settings.load_eq`**, **`Settings.loadOrDefault_eq`** — loading a file is refused for the first
  setting out of range in the file, or else for the first one under the environment.
* **`Settings.load_agree_iff`** — so two files that differ only in what the environment gives are
  loaded alike exactly if they are spoilt alike: where the first setting out of range in one of them is
  replaced, loading the other one is refused for it too.
* **`Settings.load_loudLevel`** — two files that are not.
-/

namespace Telemetry

open Failing

/-! ## One setting at a time -/

/-- The value of a setting. -/
inductive SettingValue where
  | text (s : String)
  | flag (b : Bool)
  deriving DecidableEq, Repr

/-- What can be set. -/
inductive Setting where
  | logLevel
  | logFormat
  | backendLogLevel
  | selfLogs
  | logsDir
  | stateDir
  | outputDir
  | version
  | buildDistro
  | shortName
  | shortVersion
  deriving DecidableEq, Repr

/-- The value of a setting. -/
def Settings.value (s : Settings) : Setting → SettingValue
  | .logLevel => .text s.general.logLevel
  | .logFormat => .text s.general.logFormat
  | .backendLogLevel => .text s.general.backendLogLevel
  | .selfLogs => .flag s.general.selfLogs
  | .logsDir => .text s.paths.logsDir
  | .stateDir => .text s.paths.stateDir
  | .outputDir => .text s.paths.outputDir
  | .version => .text s.agent.version
  | .buildDistro => .text s.agent.buildDistro
  | .shortName => .text s.agent.shortName
  | .shortVersion => .text s.agent.shortVersion

/-- Settings are what they are one by one. -/
theorem Settings.eq_of_value {s s' : Settings} (h : ∀ f, s.value f = s'.value f) : s = s' := by
  have htext : ∀ {a b : String}, SettingValue.text a = .text b → a = b := SettingValue.text.inj
  have hgeneral : s.general = s'.general := by
    rw [GeneralSettings.mk.injEq]
    exact ⟨htext (h .logLevel), htext (h .logFormat), htext (h .backendLogLevel),
      SettingValue.flag.inj (h .selfLogs)⟩
  have hpaths : s.paths = s'.paths := by
    rw [PathSettings.mk.injEq]
    exact ⟨htext (h .logsDir), htext (h .stateDir), htext (h .outputDir)⟩
  have hagent : s.agent = s'.agent := by
    rw [AgentSettings.mk.injEq]
    exact ⟨htext (h .version), htext (h .buildDistro), htext (h .shortName),
      htext (h .shortVersion)⟩
  rw [Settings.mk.injEq]
  exact ⟨hgeneral, hpaths, hagent⟩

namespace Setting

/-- The group of a setting. -/
def group : Setting → String
  | .logLevel | .logFormat | .backendLogLevel | .selfLogs => "general"
  | .logsDir | .stateDir | .outputDir => "paths"
  | .version | .buildDistro | .shortName | .shortVersion => "agent"

/-- The name of a setting in its group. -/
def key : Setting → String
  | .logLevel => "log_level"
  | .logFormat => "log_format"
  | .backendLogLevel => "backend_log_level"
  | .selfLogs => "self_logs"
  | .logsDir => "logs_dir"
  | .stateDir => "state_dir"
  | .outputDir => "output_dir"
  | .version => "version"
  | .buildDistro => "build_distro"
  | .shortName => "short_name"
  | .shortVersion => "short_version"

/-- The variable of the environment for a setting: its group and its name, in capitals. -/
def envName (f : Setting) : String :=
  "OPSFORGE_" ++ Text.mapChars Char.toUpper f.group ++ "_" ++ Text.mapChars Char.toUpper f.key

/-- The truth value that a text spells. -/
def flagOf? : String → Option Bool
  | "true" => some true
  | "false" => some false
  | _ => none

/-- What a text in the environment says about a setting. -/
def ofText? : Setting → String → Option SettingValue
  | .selfLogs, t => (flagOf? t).map .flag
  | _, t => some (.text t)

/-- The value that the environment gives to a setting. -/
def given? (env : Environment) (f : Setting) : Option SettingValue :=
  (env f.envName).bind f.ofText?

/-- The settings that are checked, in this order. -/
def checked : List Setting :=
  [.logLevel, .logFormat, .backendLogLevel, .logsDir, .stateDir, .outputDir, .version]

/-- Whether a value is in the range of a setting. -/
def admits : Setting → SettingValue → Bool
  | .logLevel, .text t => Settings.logLevels.contains t
  | .logFormat, .text t => Settings.logFormats.contains t
  | .backendLogLevel, .text t => Settings.backendLogLevels.contains t
  | .logsDir, .text t | .stateDir, .text t | .outputDir, .text t => !Text.isBlankText t
  | .version, .text t => !t.isEmpty
  | _, _ => true

/-- What is demanded of a setting. -/
def demand : Setting → String
  | .logLevel => "must be one of: " ++ Text.join ", " Settings.logLevels
  | .logFormat => "must be one of: " ++ Text.join ", " Settings.logFormats
  | .backendLogLevel => "must be one of: " ++ Text.join ", " Settings.backendLogLevels
  | _ => "must not be empty"

/-- The error for a setting out of range. -/
def failure (f : Setting) : SettingsError :=
  .invalidValue (f.group ++ "." ++ f.key) f.demand

/-- An error names its setting. -/
theorem failure_injective : Function.Injective failure := by
  intro f f' h
  have hpath : f.group ++ "." ++ f.key = f'.group ++ "." ++ f'.key :=
    (SettingsError.invalidValue.inj h).1
  revert hpath
  cases f <;> cases f' <;> decide

end Setting

namespace Settings

variable {env : Environment} {s s' : Settings} {path path' text text' : String}

/-! ## What the environment replaces -/

/-- A text of the environment replaces what was there. -/
theorem text_override (env : Environment) (name current : String) :
    SettingValue.text (overrideText env name current)
      = ((env name).bind fun t => some (.text t)).getD (.text current) := by
  rw [overrideText]
  cases env name <;> rfl

/-- A text of the environment replaces what was there if it spells a truth value. -/
theorem flag_override (env : Environment) (name : String) (current : Bool) :
    SettingValue.flag (overrideFlag env name current)
      = ((env name).bind fun t => (Setting.flagOf? t).map .flag).getD (.flag current) := by
  rw [overrideFlag]
  cases env name with
  | none => rfl
  | some t =>
      by_cases htrue : t = "true"
      · rw [htrue]
        rfl
      · by_cases hfalse : t = "false"
        · rw [hfalse]
          rfl
        · simp [Setting.flagOf?, htrue, hfalse]

/-- **The environment replaces the settings that it gives** and leaves the others as they are. -/
theorem value_override (s : Settings) (env : Environment) (f : Setting) :
    (s.override env).value f = (f.given? env).getD (s.value f) := by
  cases f with
  | selfLogs => exact flag_override _ _ _
  | _ => exact text_override _ _ _

/-- Two settings that differ only where the environment gives a value. -/
def AgreeApartFrom (env : Environment) (s s' : Settings) : Prop :=
  ∀ f : Setting, f.given? env = none → s.value f = s'.value f

theorem AgreeApartFrom.symm (h : AgreeApartFrom env s s') : AgreeApartFrom env s' s :=
  fun f hf => (h f hf).symm

/-- Under the environment they are the same. -/
theorem AgreeApartFrom.override_eq (h : AgreeApartFrom env s s') :
    s.override env = s'.override env := by
  refine eq_of_value ?_
  intro f
  rw [value_override, value_override]
  cases hf : f.given? env with
  | none => exact h f hf
  | some v => rfl

/-! ## What a check refuses -/

/-- The first setting out of its range, in the order of the check. -/
def firstRefused (s : Settings) : Option Setting :=
  Setting.checked.find? fun f => !f.admits (s.value f)

/-- A setting is demanded to be in its range. -/
theorem single_demands {x : Except SettingsError Unit} (f : Setting)
    (h : x = if f.admits (s.value f) then .ok () else .error f.failure) :
    Demands Setting.failure (fun f => f.admits (s.value f) = true) [f] x :=
  .single (fun hin => ⟨(), h.trans (if_pos hin)⟩) (fun hout => h.trans (if_neg hout))

/-- The check goes through the checked settings in their order. -/
theorem check_demands (s : Settings) :
    Demands Setting.failure (fun f => f.admits (s.value f) = true) Setting.checked s.check := by
  have hpresent : ∀ (field : String) (isMissing : Bool), checkPresent field isMissing
      = if !isMissing then .ok () else .error (.invalidValue field "must not be empty") := by
    intro field isMissing
    cases isMissing <;> rfl
  refine (single_demands .logLevel rfl).bind fun _ _ => ?_
  refine (single_demands .logFormat rfl).bind fun _ _ => ?_
  refine (single_demands .backendLogLevel rfl).bind fun _ _ => ?_
  refine (single_demands .logsDir (hpresent _ _)).bind fun _ _ => ?_
  refine (single_demands .stateDir (hpresent _ _)).bind fun _ _ => ?_
  refine (single_demands .outputDir (hpresent _ _)).bind fun _ _ => ?_
  exact single_demands .version (hpresent _ _)

/-- **A check fails at the first setting out of its range.** -/
theorem check_eq (s : Settings) :
    s.check = match s.firstRefused with
      | none => .ok ()
      | some f => .error f.failure := by
  cases h : s.firstRefused with
  | none =>
      have hall := List.find?_eq_none.mp h
      obtain ⟨_, hok⟩ := (check_demands s).exists_ok_iff.mpr fun f hf => by simpa using hall f hf
      exact hok
  | some f =>
      obtain ⟨hf, before, after, hchecked, hbefore⟩ := List.find?_eq_some_iff_append.mp h
      refine (check_demands s).eq_error_iff.mpr ⟨before, f, after, hchecked, ?_, ?_, rfl⟩
      · intro f' hf'
        simpa using hbefore f' hf'
      · simpa using hf

/-! ## Loading -/

/-- The setting for which loading a file under an environment is refused: the first one out of range
in the file, or else the first one under the environment. -/
def refused (env : Environment) (s : Settings) : Option Setting :=
  s.firstRefused.or (s.override env).firstRefused

/-- Checked settings are refused for the first one out of its range. -/
theorem checked_eq (s : Settings) :
    s.checked = match s.firstRefused with
      | none => .ok s
      | some f => .error (.invalid f.failure) := by
  rw [checked, check_eq]
  cases s.firstRefused <;> rfl

/-- A file that says what settings there are is checked. -/
theorem ofFile_eq (hs : parse text = .ok s) : ofFile path (.ok text) = s.checked := by
  rw [ofFile, hs]
  rfl

/-- **Loading a file** gives its settings under the environment, unless one is refused. -/
theorem load_eq (hs : parse text = .ok s) :
    load env path (.ok text) = match s.refused env with
      | none => .ok (s.override env)
      | some f => .error (.invalid f.failure) := by
  rw [load, ofFile_eq hs, checked_eq, refused]
  cases s.firstRefused with
  | none => exact checked_eq _
  | some f => rfl

/-- Where the file is there, it makes no difference that there are defaults. -/
theorem loadOrDefault_eq (hs : parse text = .ok s) :
    loadOrDefault env path (.ok text) = load env path (.ok text) := by
  rw [loadOrDefault, load, ofFile_eq hs, checked_eq]
  cases s.firstRefused <;> rfl

/-- Two files are loaded alike if loading them is refused for the same setting, or not at all. -/
theorem load_eq_load_iff (hs : parse text = .ok s) (hs' : parse text' = .ok s')
    (h : AgreeApartFrom env s s') :
    load env path (.ok text) = load env path' (.ok text') ↔ s.refused env = s'.refused env := by
  rw [load_eq hs, load_eq hs', h.override_eq]
  constructor
  · intro heq
    cases hf : s.refused env with
    | none =>
        cases hf' : s'.refused env with
        | none => rfl
        | some f' =>
            rw [hf, hf'] at heq
            exact nomatch heq
    | some f =>
        cases hf' : s'.refused env with
        | none =>
            rw [hf, hf'] at heq
            exact nomatch heq
        | some f' =>
            rw [hf, hf'] at heq
            have hfailure := SettingsFault.invalid.inj (Except.error.inj heq)
            rw [Setting.failure_injective hfailure]
  · intro heq
    rw [heq]

/-! ## Two files under one environment -/

/-- The first setting out of range in a file is one that the environment replaces. -/
def Spoilt (env : Environment) (s : Settings) (f : Setting) : Prop :=
  s.firstRefused = some f ∧ f.given? env ≠ none

/-- **Two files are spoilt alike** if, where one of them is, loading the other one is refused for the
same setting. -/
def SpoiltAlike (env : Environment) (s s' : Settings) : Prop :=
  ∀ f, (s.Spoilt env f → s'.refused env = some f) ∧ (s'.Spoilt env f → s.refused env = some f)

theorem SpoiltAlike.symm (h : SpoiltAlike env s s') : SpoiltAlike env s' s :=
  fun f => (h f).symm

/-- What a check is refused for is out of its range. -/
theorem admits_of_firstRefused {f : Setting} (hf : s.firstRefused = some f) :
    f.admits (s.value f) = false := by
  rw [firstRefused] at hf
  simpa using List.find?_some hf

/-- What is out of range in a file is what loading it is refused for. -/
theorem refused_of_firstRefused {f : Setting} (hf : s.firstRefused = some f) :
    s.refused env = some f := by
  rw [refused, hf, Option.some_or]

/-- Of two searches in one list, each of which would stop where the other does, both stop at the same
place. -/
theorem find?_unique {α : Type} {p q : α → Bool} {as : List α} {a b : α}
    (ha : as.find? p = some a) (hb : as.find? q = some b) (hqa : q a = true) (hpb : p b = true) :
    a = b := by
  induction as with
  | nil => exact nomatch ha
  | cons x as ih =>
      by_cases hp : p x = true
      · rw [List.find?_cons_of_pos hp] at ha
        obtain rfl := Option.some.inj ha
        rw [List.find?_cons_of_pos hqa] at hb
        exact Option.some.inj hb
      · rw [List.find?_cons_of_neg hp] at ha
        by_cases hq : q x = true
        · rw [List.find?_cons_of_pos hq] at hb
          obtain rfl := Option.some.inj hb
          exact absurd hpb hp
        · rw [List.find?_cons_of_neg hq] at hb
          exact ih ha hb

/-- A setting out of range that is not replaced is out of range in the other file as well, and the
first there unless one that is replaced comes before it. -/
theorem AgreeApartFrom.firstRefused (h : AgreeApartFrom env s s') {f : Setting}
    (hf : s.firstRefused = some f) (hkept : f.given? env = none) :
    ∃ f', s'.firstRefused = some f' ∧ (f' = f ∨ f'.given? env ≠ none) := by
  have hout : f.admits (s'.value f) = false := h f hkept ▸ admits_of_firstRefused hf
  obtain ⟨f', hf'⟩ : ∃ f', s'.firstRefused = some f' := Option.isSome_iff_exists.mp
    (List.find?_isSome.mpr ⟨f, List.mem_of_find?_eq_some hf, congrArg not hout⟩)
  refine ⟨f', hf', ?_⟩
  cases hkept' : f'.given? env with
  | some v => exact .inr (Option.some_ne_none v)
  | none =>
      have hout' : f'.admits (s.value f') = false := h f' hkept' ▸ admits_of_firstRefused hf'
      exact .inl (find?_unique hf' hf (congrArg not hout') (congrArg not hout))

/-- Files that are spoilt alike are refused alike, if one has a setting out of range. -/
theorem AgreeApartFrom.refused_eq (h : AgreeApartFrom env s s') (halike : SpoiltAlike env s s')
    {f : Setting} (hf : s.firstRefused = some f) : s.refused env = s'.refused env := by
  cases hkept : f.given? env with
  | some v =>
      have hspoilt : s.Spoilt env f := ⟨hf, hkept ▸ Option.some_ne_none v⟩
      rw [refused_of_firstRefused hf, (halike f).1 hspoilt]
  | none =>
      obtain ⟨f', hf', rfl | hgiven⟩ := h.firstRefused hf hkept
      · rw [refused_of_firstRefused hf, refused_of_firstRefused hf']
      · rw [refused_of_firstRefused hf', (halike f').2 ⟨hf', hgiven⟩]

/-- Files that differ only where the environment gives a value are refused alike exactly if they are
spoilt alike. -/
theorem AgreeApartFrom.refused_eq_iff (h : AgreeApartFrom env s s') :
    s.refused env = s'.refused env ↔ SpoiltAlike env s s' := by
  constructor
  · intro heq f
    exact ⟨fun hf => heq ▸ refused_of_firstRefused hf.1, fun hf => heq ▸ refused_of_firstRefused hf.1⟩
  · intro halike
    cases hf : s.firstRefused with
    | some f => exact h.refused_eq halike hf
    | none =>
        cases hf' : s'.firstRefused with
        | some f' => exact (h.symm.refused_eq halike.symm hf').symm
        | none => rw [refused, refused, hf, hf', h.override_eq]

/-- A file in which every setting that is replaced is in its range is not spoilt. -/
theorem not_spoilt {f : Setting}
    (h : ∀ f : Setting, f.given? env ≠ none → f.admits (s.value f) = true) : ¬ s.Spoilt env f := by
  rintro ⟨hf, hgiven⟩
  have hout := admits_of_firstRefused hf
  rw [h f hgiven] at hout
  exact nomatch hout

/-- **When the environment wins over the settings file.** For every environment, and any two files
that can be read and differ in settings only that the environment gives:

* Both ways of loading have the same end for both files, the same settings or the same error, if and
  only if the files are spoilt alike.
* They do if in both files each setting that the environment gives is in its range. -/
theorem load_agree_iff (hs : parse text = .ok s) (hs' : parse text' = .ok s')
    (h : AgreeApartFrom env s s') (path path' : String) :
    (load env path (.ok text) = load env path' (.ok text') ↔ SpoiltAlike env s s') ∧
    (loadOrDefault env path (.ok text) = loadOrDefault env path' (.ok text')
      ↔ SpoiltAlike env s s') ∧
    ((∀ f : Setting, f.given? env ≠ none →
      f.admits (s.value f) = true ∧ f.admits (s'.value f) = true) → SpoiltAlike env s s') := by
  have hload : ∀ path path', load env path (.ok text) = load env path' (.ok text')
      ↔ SpoiltAlike env s s' :=
    fun path path' => (load_eq_load_iff hs hs' h).trans h.refused_eq_iff
  refine ⟨hload path path', ?_, ?_⟩
  · rw [loadOrDefault_eq hs, loadOrDefault_eq hs']
    exact hload path path'
  · intro hin f
    exact ⟨fun hf => absurd hf (not_spoilt fun f hf => (hin f hf).1),
      fun hf => absurd hf (not_spoilt fun f hf => (hin f hf).2)⟩

/-- An environment that gives the level of the compiler's own log lines, and nothing else. -/
def debugEnvironment : Environment :=
  fun name => if name = "OPSFORGE_GENERAL_LOG_LEVEL" then some "debug" else none

/-- Settings with a level of the compiler's own log lines, and the defaults otherwise. -/
def ofLogLevel (level : String) : Settings where
  general := { logLevel := level }

/-- Under that environment, such settings differ only in what it gives. -/
theorem agreeApartFrom_debugEnvironment (level level' : String) :
    AgreeApartFrom debugEnvironment (ofLogLevel level) (ofLogLevel level') := by
  intro f hkept
  cases f with
  | logLevel => exact absurd hkept (by decide)
  | _ => rfl

/-- A file that says nothing, and one with another level in range. -/
theorem load_agree_iff_warnLevel :
    (parse "[general]\nlog_level = \"warn\"\n" = .ok (ofLogLevel "warn") ∧
      parse "" = .ok (ofLogLevel "info") ∧
      AgreeApartFrom debugEnvironment (ofLogLevel "warn") (ofLogLevel "info")) ∧
    load debugEnvironment "a.toml" (.ok "[general]\nlog_level = \"warn\"\n")
      = load debugEnvironment "b.toml" (.ok "") ∧
    loadOrDefault debugEnvironment "a.toml" (.ok "[general]\nlog_level = \"warn\"\n")
      = loadOrDefault debugEnvironment "b.toml" (.ok "") := by
  have hwarn : parse "[general]\nlog_level = \"warn\"\n" = .ok (ofLogLevel "warn") :=
    eq_ok_of_toOption rfl
  have hempty : parse "" = .ok (ofLogLevel "info") := eq_ok_of_toOption rfl
  have hagree := agreeApartFrom_debugEnvironment "warn" "info"
  obtain ⟨hload, hdefault, hinRange⟩ := load_agree_iff hwarn hempty hagree "a.toml" "b.toml"
  have hin : ∀ f : Setting, f.admits ((ofLogLevel "warn").value f) = true ∧
      f.admits ((ofLogLevel "info").value f) = true := by
    intro f
    cases f <;> decide
  have halike := hinRange fun f _ => hin f
  exact ⟨⟨hwarn, hempty, hagree⟩, hload.mpr halike, hdefault.mpr halike⟩

/-- **A level out of range spoils a file,** though the environment gives another one: loading the file
is refused for it, while a file that says nothing is loaded with the level of the environment. -/
theorem load_loudLevel :
    (parse "[general]\nlog_level = \"loud\"\n" = .ok (ofLogLevel "loud") ∧
      parse "" = .ok (ofLogLevel "info") ∧
      AgreeApartFrom debugEnvironment (ofLogLevel "loud") (ofLogLevel "info")) ∧
    load debugEnvironment "a.toml" (.ok "[general]\nlog_level = \"loud\"\n")
      = .error (.invalid (.invalidValue "general.log_level"
          "must be one of: trace, debug, info, warn, error")) ∧
    load debugEnvironment "a.toml" (.ok "") = .ok (ofLogLevel "debug") ∧
    loadOrDefault debugEnvironment "a.toml" (.ok "[general]\nlog_level = \"loud\"\n")
      = .error (.invalid (.invalidValue "general.log_level"
          "must be one of: trace, debug, info, warn, error")) ∧
    loadOrDefault debugEnvironment "a.toml" (.ok "") = .ok (ofLogLevel "debug") := by
  have hloud : parse "[general]\nlog_level = \"loud\"\n" = .ok (ofLogLevel "loud") :=
    eq_ok_of_toOption rfl
  have hempty : parse "" = .ok (ofLogLevel "info") := eq_ok_of_toOption rfl
  have hrefused : load debugEnvironment "a.toml" (.ok "[general]\nlog_level = \"loud\"\n")
      = .error (.invalid Setting.logLevel.failure) := by
    rw [load_eq hloud, show (ofLogLevel "loud").refused debugEnvironment = some .logLevel by decide]
  have hloaded : load debugEnvironment "a.toml" (.ok "") = .ok (ofLogLevel "debug") := by
    rw [load_eq hempty, show (ofLogLevel "info").refused debugEnvironment = none by decide]
    rfl
  rw [loadOrDefault_eq hloud, loadOrDefault_eq hempty]
  exact ⟨⟨hloud, hempty, agreeApartFrom_debugEnvironment "loud" "info"⟩, hrefused, hloaded, hrefused,
    hloaded⟩

end Settings

end Telemetry
