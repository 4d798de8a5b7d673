import Telemetry.Proofs.Accepted
import Telemetry.Proofs.IntervalText

/-!
# Intervals without a length

A text may be that of an interval and still have no length, because the sum of its parts is 2⁶⁴
seconds or more. Reading such a text is neither a success nor a refusal, and so is reading a
configuration that is refused by no rule before it comes to such an interval.

* **`Interval.parse_overflow_iff`** — which texts these are.
* **`LogReceiverConfig.check_overflow_iff`**, **`MetricsReceiver.check_overflow_iff`** — which
  receivers come to such a text.
* **`Config.check_overflow_iff`** — which configurations do.
* **`Config.read_overflow_iff`** — the only texts on which reading an interval, or a configuration,
  ends without an answer.
-/

namespace Telemetry

open Failing

/-! ## Texts -/

namespace Interval

/-- A sum of 2⁶⁴ seconds or more, a second being two to the scale of magnitudes. -/
def BeyondRange : Magnitude → Prop
  | .infinite => True
  | .finite units => Nat.pow 2 (64 + Magnitude.scale) ≤ units

/-- A text is that of an interval whose parts add up to 2⁶⁴ seconds or more. -/
def TooLong (s : String) : Prop :=
  ∃ parts, parts ≠ [] ∧ Consists parts (Text.trimChars s.toList) ∧
    BeyondRange (addSeconds (.finite 0) parts)

/-- Seconds have a length if they are fewer than 2⁶⁴. -/
theorem ofMagnitude_overflow_iff {m : Magnitude} :
    ofMagnitude m = .error .overflow ↔ BeyondRange m := by
  cases m with
  | infinite => exact iff_of_true rfl trivial
  | finite units =>
      rw [ofMagnitude, BeyondRange]
      split
      · rename_i hlt
        exact iff_of_false (by simp) (Nat.not_le.mpr hlt)
      · rename_i hge
        exact iff_of_true rfl (Nat.not_lt.mp hge)

/-- **Reading an interval has no answer** exactly if it is too long. -/
theorem parse_overflow_iff {s : String} : parse s = .error .overflow ↔ TooLong s := by
  constructor
  · intro h
    by_cases hparts : IsInterval (Text.trimChars s.toList)
    · obtain ⟨parts, hne, hparts⟩ := hparts
      rw [parse_of_consists hne hparts] at h
      exact ⟨parts, hne, hparts, ofMagnitude_overflow_iff.mp h⟩
    · rw [parse_of_not_isInterval hparts] at h
      exact nomatch h
  · rintro ⟨parts, hne, hparts, hlong⟩
    rw [parse_of_consists hne hparts]
    exact ofMagnitude_overflow_iff.mpr hlong

-- the greatest magnitude below 2⁶⁴ has a length, and a number nearer to 2⁶⁴ than to it has none
example : (parse "18446744073709549568s").isOk = true ∧
    parse "18446744073709551615s" = .error .overflow := by
  decide +kernel

end Interval

/-! ## Receivers -/

/-- The interval that a receiver of the logging domain brings, if one is written. -/
def LogReceiverConfig.interval? : LogReceiverConfig → Option String
  | files s => s.refreshInterval
  | app _ s => s.refreshInterval
  | _ => none

/-- The paths of a receiver are fit for use, which is looked at before its interval. -/
def LogReceiverConfig.HasPaths : LogReceiverConfig → Prop
  | files s => s.includePaths ≠ [] ∧ ∀ path ∈ s.includePaths, Text.isBlankText path = false
  | app _ s => ∀ path ∈ s.includePaths, Text.isBlankText path = false
  | _ => True

/-- A receiver of the logging domain is refused by no rule before its interval, which is too long. -/
def LogReceiverConfig.ComesToTooLong (r : LogReceiverConfig) : Prop :=
  r.HasPaths ∧ ∃ text, r.interval? = some text ∧ Interval.TooLong text

/-- The interval that a receiver of the metrics domain brings, if one is written. -/
def MetricsReceiver.interval? : MetricsReceiver → Option String
  | hostmetrics interval => interval
  | nginx interval _ => interval
  | otlp _ => none

/-- The interval of a receiver of the metrics domain is too long. -/
def MetricsReceiver.ComesToTooLong (r : MetricsReceiver) : Prop :=
  ∃ text, r.interval? = some text ∧ Interval.TooLong text

theorem FileSource.checkInterval_overflow_iff {id : String} {interval : Option String} :
    FileSource.checkInterval id interval = .error .overflow ↔
      ∃ text, interval = some text ∧ Interval.TooLong text := by
  cases interval with
  | none => simp [checkInterval]
  | some text =>
      rw [checkInterval]
      simp only [Option.some.injEq, exists_eq_left', ← Interval.parse_overflow_iff]
      cases h : Interval.parse text with
      | ok i =>
          dsimp only
          split <;> simp [invalidLogging]
      | error fault => cases fault <;> simp [invalidLogging]

theorem FileSource.check_overflow_iff {s : FileSource} {id : String} {pathsRequired : Bool} :
    s.check id pathsRequired = .error .overflow ↔
      ((pathsRequired = true → s.includePaths ≠ []) ∧
        ∀ path ∈ s.includePaths, Text.isBlankText path = false) ∧
      ∃ text, s.refreshInterval = some text ∧ Interval.TooLong text := by
  rw [check]
  split
  · rename_i h
    simp_all [invalidLogging]
  · rename_i hpaths
    split
    · rename_i h
      simp_all [invalidLogging]
    · rename_i hblank
      rw [checkInterval_overflow_iff, iff_and_self]
      intro _
      simp_all

/-- **A receiver of the logging domain comes to an interval that is too long** if its paths are fit
for use. -/
theorem LogReceiverConfig.check_overflow_iff (id : String) (r : LogReceiverConfig) :
    r.check id = .error .overflow ↔ r.ComesToTooLong := by
  rw [ComesToTooLong]
  cases r with
  | files s => simp [check, FileSource.check_overflow_iff, HasPaths, interval?]
  | app a s => simp [check, FileSource.check_overflow_iff, HasPaths, interval?]
  | syslog transport host port =>
      refine iff_of_false ?_ (by simp [interval?])
      rw [check]
      split
      · simp [invalid, invalidLogging]
      · split <;> simp [invalid, invalidLogging]
  | tcp host port format =>
      refine iff_of_false ?_ (by simp [interval?])
      rw [check]
      split <;> simp [invalid, invalidLogging]
  | forward host port => exact iff_of_false (by simp [check]) (by simp [interval?])
  | eventLog channels =>
      refine iff_of_false ?_ (by simp [interval?])
      rw [check]
      split <;> simp [invalid, invalidLogging]

theorem collectionInterval_overflow_iff (id : String) {interval : Option String} :
    collectionInterval id interval = .error .overflow ↔
      ∃ text, interval = some text ∧ Interval.TooLong text := by
  cases interval with
  | none => simp [collectionInterval]
  | some text =>
      rw [collectionInterval]
      simp only [Option.some.injEq, exists_eq_left', ← Interval.parse_overflow_iff]
      cases h : Interval.parse text with
      | ok i =>
          dsimp only
          split <;> simp [invalidMetrics]
      | error fault => cases fault <;> simp [invalidMetrics]

/-- **A receiver of the metrics domain comes to an interval that is too long** if it has one. -/
theorem MetricsReceiver.check_overflow_iff (id : String) (r : MetricsReceiver) :
    r.check id = .error .overflow ↔ r.ComesToTooLong := by
  rw [ComesToTooLong]
  cases r with
  | hostmetrics interval =>
      rw [interval?, ← collectionInterval_overflow_iff id, check]
      cases collectionInterval id interval <;> simp [Except.map]
  | nginx interval url =>
      rw [interval?, ← collectionInterval_overflow_iff id, check, bind_eq_error]
      refine or_iff_left ?_
      rintro ⟨_, -, h⟩
      rw [checkUrl.eq_def] at h
      split at h
      · cases h
      · split at h
        · cases h
        · simp [invalidMetrics] at h
  | otlp endpoint =>
      refine iff_of_false ?_ (by simp [interval?])
      rw [check, checkEndpoint.eq_def]
      split
      · simp
      · split <;> simp [invalidMetrics]

/-! ## Configurations -/

/-- The first receiver of a list that is refused comes to an interval that is too long. -/
def FirstTooLong {α : Type} (check : String → α → Except Refusal Unit) (comes : α → Prop)
    (receivers : List (String × α)) : Prop :=
  ∃ before id r after, receivers = before ++ (id, r) :: after ∧
    (∀ e ∈ before, check e.1 e.2 = .ok ()) ∧ comes r

/-- The rules before those for receivers are kept in the logging domain, and the first receiver that
is refused comes to an interval that is too long. -/
def Logging.ComesToTooLong (l : Logging) : Prop :=
  l.checkIds = .ok () ∧ checkLogLevel .logging Logging.logLevels l.logLevel = .ok () ∧
    FirstTooLong LogReceiverConfig.check LogReceiverConfig.ComesToTooLong l.receivers.entries

/-- The same in the metrics domain. -/
def Metrics.ComesToTooLong (m : Metrics) : Prop :=
  m.checkIds = .ok () ∧ checkLogLevel .metrics Metrics.logLevels m.logLevel = .ok () ∧
    m.checkHostmetrics = .ok () ∧
    FirstTooLong MetricsReceiver.check MetricsReceiver.ComesToTooLong m.receivers.entries

/-- The logging domain comes to such an interval, or else the metrics domain behind a logging domain
that is accepted or missing. -/
def Config.ComesToTooLong (c : Config) : Prop :=
  (∃ l, c.logging = some l ∧ l.ComesToTooLong) ∨
    (∀ l, c.logging = some l → l.check = .ok ()) ∧ ∃ m, c.metrics = some m ∧ m.ComesToTooLong

/-- Where only the receivers can come to such an interval, the first that is refused decides. -/
theorem forM_overflow_iff {α : Type} {check : String → α → Except Refusal Unit} {comes : α → Prop}
    (h : ∀ id r, check id r = .error .overflow ↔ comes r) (receivers : List (String × α)) :
    (receivers.forM fun e => check e.1 e.2) = .error .overflow ↔
      FirstTooLong check comes receivers := by
  rw [forM_eq_error]
  constructor
  · rintro ⟨before, ⟨id, r⟩, after, hes, hbefore, hr⟩
    exact ⟨before, id, r, after, hes, hbefore, (h id r).mp hr⟩
  · rintro ⟨before, id, r, after, hes, hbefore, hr⟩
    exact ⟨before, (id, r), after, hes, hbefore, (h id r).mpr hr⟩

/-- A check cannot come to such an interval. -/
abbrev NeverTooLong {α : Type} (x : Except Refusal α) : Prop :=
  FailsOnly (· ≠ .overflow) x

theorem neverTooLong_rule {α : Type} (x : Except CompileError α) :
    NeverTooLong (x.mapError Refusal.invalid) := by
  rintro _ h rfl
  obtain ⟨_, -, he⟩ := mapError_eq_error.mp h
  exact nomatch he

/-- A rule that knows no intervals has to be kept. -/
theorem rule_bind_overflow_iff {x : Except CompileError Unit} {f : Unit → Except Refusal Unit} :
    (x.mapError Refusal.invalid >>= f) = .error .overflow ↔
      x = .ok () ∧ f () = .error .overflow := by
  rw [check_bind_eq_error, or_iff_right fun h => neverTooLong_rule x _ h rfl, mapError_eq_ok]

/-- What comes behind does not count if it knows no intervals. -/
theorem bind_overflow_iff {α : Type} {x : Except Refusal Unit} {f : Unit → Except Refusal α}
    (hf : NeverTooLong (f ())) : (x >>= f) = .error .overflow ↔ x = .error .overflow := by
  rw [check_bind_eq_error]
  exact or_iff_left fun h => hf _ h.2 rfl

/-- **The logging domain** comes to such an interval at the first receiver that is refused. -/
theorem Logging.check_overflow_iff {l : Logging} :
    l.check = .error .overflow ↔ l.ComesToTooLong := by
  rw [Logging.check, rule_bind_overflow_iff, rule_bind_overflow_iff, bind_overflow_iff,
    Logging.ComesToTooLong]
  · exact and_congr_right' (and_congr_right'
      (forM_overflow_iff LogReceiverConfig.check_overflow_iff _))
  · exact .bind (.forM fun _ _ => neverTooLong_rule _) fun _ _ => neverTooLong_rule _

theorem MetricsProcessor.neverTooLong_check (id : String) (p : MetricsProcessor) :
    NeverTooLong (p.check id) := by
  rw [check.eq_def]
  split
  · exact .error (by simp [invalidMetrics])
  · refine .forM fun pattern _ => ?_
    rw [checkPattern]
    split
    · exact .ok _
    · exact .error (by simp [invalidMetrics])

/-- **The metrics domain** does so too. -/
theorem Metrics.check_overflow_iff {m : Metrics} :
    m.check = .error .overflow ↔ m.ComesToTooLong := by
  rw [Metrics.check, rule_bind_overflow_iff, rule_bind_overflow_iff, rule_bind_overflow_iff,
    bind_overflow_iff, Metrics.ComesToTooLong]
  · exact and_congr_right' (and_congr_right' (and_congr_right'
      (forM_overflow_iff MetricsReceiver.check_overflow_iff _)))
  · exact .forM fun _ _ => MetricsProcessor.neverTooLong_check _ _

/-- The domain that is there is checked. -/
theorem forM_toList {α : Type} (check : α → Except Refusal Unit) (d : Option α) :
    d.toList.forM check = d.elim (.ok ()) check := by
  cases d with
  | none => rfl
  | some a =>
      show (check a >>= fun _ => pure ()) = check a
      exact bind_pure _

/-- **A configuration** comes to such an interval in the first of its domains that is refused. -/
theorem Config.check_overflow_iff {c : Config} :
    c.check = .error .overflow ↔ c.ComesToTooLong := by
  rw [Config.check, check_bind_eq_error, forM_toList, forM_toList, Config.ComesToTooLong]
  refine or_congr ?_ ?_
  · cases c.logging <;> simp [Logging.check_overflow_iff]
  · have hmetrics : (c.metrics.elim (.ok ()) (·.check) : Except Refusal Unit) = .error .overflow ↔
        ∃ m, c.metrics = some m ∧ m.ComesToTooLong := by
      cases c.metrics <;> simp [Metrics.check_overflow_iff]
    rw [← hmetrics]
    cases c.logging <;> simp

/-- **Reading has no answer** exactly for what is too long: an interval whose parts add up to 2⁶⁴
seconds or more, and a configuration that is refused by no rule before it comes to such an
interval. -/
theorem Config.read_overflow_iff (s text : String) :
    (Interval.parse s = .error .overflow ↔ Interval.TooLong s) ∧
    (Config.read text = .error .overflow ↔
      ∃ c, Config.parse? text = some c ∧ c.ComesToTooLong) := by
  refine ⟨Interval.parse_overflow_iff, ?_⟩
  rw [Config.read]
  cases Config.parse? text with
  | none => simp [Config.accept]
  | some c =>
      have haccept : Config.accept (some c) = .error .overflow ↔ c.check = .error .overflow := by
        rw [Config.accept]
        exact bind_overflow_iff (.ok c)
      simp [haccept, Config.check_overflow_iff]

/-- Log files that are looked for after more than 10²⁰ seconds. -/
def endlessRefresh : String :=
  "logging:\n  receivers:\n    r:\n      type: files\n      include_paths: [/a.log]\n"
    ++ "      wildcard_refresh_interval: 99999999999999999999s\n"

/-- **Such an interval leaves no answer,** neither for itself nor for the configuration. -/
theorem Config.read_endlessRefresh :
    Interval.parse "99999999999999999999s" = .error .overflow ∧
      Config.read endlessRefresh = .error .overflow :=
  ⟨by decide +kernel, eq_error_of_failure? (by decide +kernel)⟩

end Telemetry
