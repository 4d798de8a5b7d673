import Telemetry.Proofs.Accepted
import Telemetry.Proofs.Document
import Telemetry.Proofs.Run
import Telemetry.Settings.Basic

/-!
# The level of the collector's own log

How much the collector tells about itself is looked for in three places, each of which has a list of
levels of its own: the metrics domain, the logging domain, and the settings. Of these lists only the
first has no levels but those of the collector. What comes from the other places is not looked at
again.

* **`Config.levels_of_check`**, **`Settings.backendLogLevel_of_check`** — the levels that are let
  through.
* **`Graph.at?_level`** — the level that stands in the document of a graph.
* **`CollectorGraph.compile_level_iff`** — the collector gets a level that it has, or none, unless
  the metrics domain says nothing and one of the other two says what the collector does not know.
-/

namespace Telemetry

open Failing

/-! ## Levels that are let through -/

theorem mem_of_checkLogLevel {domain : Domain} {allowed : List String} {level : String}
    (h : checkLogLevel domain allowed (some level) = .ok ()) : level ∈ allowed := by
  rw [checkLogLevel] at h
  split at h
  · rename_i hlevel
    exact List.contains_iff_mem.mp hlevel
  · exact nomatch h

/-- The levels of an accepted configuration are among those of their domains. -/
theorem Config.levels_of_check {c : Config} (hc : c.check = .ok ()) :
    (∀ level, c.logging.bind (·.logLevel) = some level → level ∈ Logging.logLevels) ∧
      ∀ level, c.metrics.bind (·.logLevel) = some level → level ∈ Metrics.logLevels := by
  constructor
  · intro level hlevel
    obtain ⟨l, hl, hlevel⟩ := Option.bind_eq_some_iff.mp hlevel
    obtain ⟨_, -, hcheck⟩ := bind_eq_ok.mp (Config.logging_check hc hl)
    obtain ⟨_, hallowed, -⟩ := bind_eq_ok.mp hcheck
    rw [hlevel] at hallowed
    exact mem_of_checkLogLevel (mapError_eq_ok.mp hallowed)
  · intro level hlevel
    obtain ⟨m, hm, hlevel⟩ := Option.bind_eq_some_iff.mp hlevel
    obtain ⟨_, -, hcheck⟩ := bind_eq_ok.mp (Config.metrics_check hc hm)
    obtain ⟨_, hallowed, -⟩ := bind_eq_ok.mp hcheck
    rw [hlevel] at hallowed
    exact mem_of_checkLogLevel (mapError_eq_ok.mp hallowed)

/-- The level that accepted settings give to engines is among those for engines. -/
theorem Settings.backendLogLevel_of_check {s : Settings} (hs : s.check = .ok ()) :
    s.general.backendLogLevel ∈ Settings.backendLogLevels := by
  rw [Settings.check] at hs
  obtain ⟨_, -, hs⟩ := bind_eq_ok.mp hs
  obtain ⟨_, -, hs⟩ := bind_eq_ok.mp hs
  obtain ⟨_, hlevel, -⟩ := bind_eq_ok.mp hs
  rw [Settings.checkChoice] at hlevel
  split at hlevel
  · rename_i h
    exact List.contains_iff_mem.mp h
  · exact nomatch hlevel

/-! ## The level in a document -/

/-- The path to the level of the collector's own log. -/
def Graph.levelPath : List String := ["service", "telemetry", "logs", "level"]

/-- What the collector tells about itself has its level, but for the usual and the empty one. -/
theorem Graph.at?_telemetry (g : Graph) : g.telemetry.at? ["logs", "level"] =
    if g.logLevel = "" ∨ g.logLevel = "info" then none else some (.text g.logLevel) := by
  -- without a level, the entry for logs is missing or has the encoding alone
  have hlogs : ∀ (metrics : Tree) (logs : List (String × Tree)),
      (Tree.table (("metrics", metrics) :: if logs.isEmpty then [] else [("logs", .table logs)])).at?
        ["logs", "level"] = (Tree.table logs).child? "level" := by
    intro metrics logs
    cases logs with
    | nil => rfl
    | cons e es =>
        rw [Tree.at?, Tree.child?_of_mem (t := .table (e :: es)) (by simp) (by simp),
          Option.bind_some, Tree.at?_single]
  rw [Graph.telemetry, hlogs]
  by_cases hlevel : g.logLevel = "" ∨ g.logLevel = "info"
  · rw [if_pos (by simpa using hlevel), if_pos hlevel]
    cases g.jsonLogs <;> rfl
  · rw [if_neg (by simpa using hlevel), if_neg hlevel]
    refine Tree.child?_of_mem ?_ List.mem_cons_self
    cases g.jsonLogs <;> simp

/-- **The level in the document of a graph** is that of the graph; the usual one and the empty one
are not written. -/
theorem Graph.at?_level {g : Graph} {doc : Tree} (h : g.document = .ok doc) :
    doc.at? Graph.levelPath =
      if g.logLevel = "" ∨ g.logLevel = "info" then none else some (.text g.logLevel) := by
  obtain ⟨ns, -, h⟩ := bind_eq_ok.mp h
  obtain rfl := Except.ok.inj h
  have hservice : ∀ (rs ps es ss : Tree), (Tree.table [("receivers", rs), ("processors", ps),
      ("exporters", es), ("service", ss)]).child? "service" = some ss := by
    intro rs ps es ss
    exact Tree.child?_of_mem (by simp) (by simp)
  have htelemetry : ∀ ps ts : Tree,
      (Tree.table [("pipelines", ps), ("telemetry", ts)]).child? "telemetry" = some ts := by
    intro ps ts
    exact Tree.child?_of_mem (by simp) (by simp)
  rw [← g.at?_telemetry, Graph.levelPath, Tree.at?, hservice, Option.bind_some, Tree.at?,
    htelemetry, Option.bind_some]

/-- A document has no level of the collector's own log, or one that the collector has. -/
def Graph.LevelKnown (doc : Tree) : Prop :=
  doc.at? Graph.levelPath = none ∨
    ∃ level ∈ Metrics.logLevels, doc.at? Graph.levelPath = some (.text level)

/-! ## Where the level comes from -/

/-- The level comes from a place where the collector's levels are not the rule, and is none of
them: the metrics domain says nothing, and the logging domain or, behind it, the settings say
something else. -/
def Config.StrayLevel (c : Config) (fallback : String) : Prop :=
  c.metrics.bind (·.logLevel) = none ∧
    (c.logging.bind (·.logLevel) = some "trace" ∨
      c.logging.bind (·.logLevel) = none ∧ (fallback = "off" ∨ fallback = "trace"))

/-- **The collector has the level that is found** exactly if it does not come from the wrong
place. -/
theorem Config.collectorLogLevel_mem_iff {c : Config} (hc : c.check = .ok ()) {fallback : String}
    (hf : fallback ∈ Settings.backendLogLevels) :
    c.collectorLogLevel fallback ∈ Metrics.logLevels ↔ ¬ c.StrayLevel fallback := by
  obtain ⟨hlogging, hmetrics⟩ := Config.levels_of_check hc
  rw [Config.StrayLevel, Config.collectorLogLevel]
  cases hm : c.metrics.bind (·.logLevel) with
  | some level => simpa using hmetrics level hm
  | none =>
      rw [Option.getD_none, Config.engineLogLevel]
      cases hl : c.logging.bind (·.logLevel) with
      | some level =>
          -- of the levels of the log engine, the collector lacks one
          have hmem := hlogging level hl
          simp only [Logging.logLevels, List.mem_cons, List.not_mem_nil, or_false] at hmem
          rcases hmem with rfl | rfl | rfl | rfl | rfl <;> simp [Metrics.logLevels]
      | none =>
          -- of the levels of the settings, the collector lacks two
          simp only [Settings.backendLogLevels, List.mem_cons, List.not_mem_nil, or_false] at hf
          rcases hf with rfl | rfl | rfl | rfl | rfl | rfl <;> simp [Metrics.logLevels]

/-- No level that is found is empty. -/
theorem Config.collectorLogLevel_ne_empty {c : Config} (hc : c.check = .ok ()) {fallback : String}
    (hf : fallback ∈ Settings.backendLogLevels) : c.collectorLogLevel fallback ≠ "" := by
  obtain ⟨hlogging, hmetrics⟩ := Config.levels_of_check hc
  rw [Config.collectorLogLevel, Config.engineLogLevel]
  cases hm : c.metrics.bind (·.logLevel) with
  | some level => exact ne_of_mem_of_not_mem (hmetrics level hm) (by decide)
  | none =>
      cases hl : c.logging.bind (·.logLevel) with
      | some level => exact ne_of_mem_of_not_mem (hlogging level hl) (by decide)
      | none => exact ne_of_mem_of_not_mem hf (by decide)

namespace CollectorGraph

variable {c : Config} {p : Platform} {o : CompileOptions}

/-- The level that is found is written, unless it is the usual one or empty. -/
theorem level_of_compile {files : Files} (h : compile c p o = .ok files)
    (hne : c.collectorLogLevel o.defaultLogLevel ≠ "") :
    ∃ doc, files = .ofList [(Graph.fileName, Yaml.write doc)] ∧
      doc.at? Graph.levelPath = if c.collectorLogLevel o.defaultLogLevel = "info" then none
        else some (.text (c.collectorLogLevel o.defaultLogLevel)) := by
  obtain ⟨g, hg, hwrite⟩ := bind_eq_ok.mp h
  obtain ⟨ms, ls, rss, parts, -, -, rfl⟩ := build_eq_ok hg
  obtain ⟨text, htext, hfiles⟩ := bind_eq_ok.mp hwrite
  obtain ⟨doc, hdoc, hwritten⟩ := bind_eq_ok.mp (mapError_eq_ok.mp htext)
  obtain rfl := Except.ok.inj hwritten
  refine ⟨doc, (Except.ok.inj hfiles).symm, ?_⟩
  rw [Graph.at?_level hdoc]
  exact if_congr (or_iff_right hne) rfl rfl

/-- **The level of the collector's own log.** It is the one that is found, unless that is the usual
one. And the collector has it exactly if it does not come from a place where other levels are let
through. -/
theorem compile_level_iff (hc : c.check = .ok ()) {s : Settings} (hs : s.check = .ok ())
    (ho : o.defaultLogLevel = s.general.backendLogLevel) {files : Files}
    (h : compile c p o = .ok files) :
    ∃ doc, files = .ofList [(Graph.fileName, Yaml.write doc)] ∧
      doc.at? Graph.levelPath = (if c.collectorLogLevel o.defaultLogLevel = "info" then none
        else some (.text (c.collectorLogLevel o.defaultLogLevel))) ∧
      (Graph.LevelKnown doc ↔ ¬ c.StrayLevel o.defaultLogLevel) := by
  have hf : o.defaultLogLevel ∈ Settings.backendLogLevels :=
    ho ▸ Settings.backendLogLevel_of_check hs
  obtain ⟨doc, hfiles, hlevel⟩ :=
    level_of_compile h (Config.collectorLogLevel_ne_empty hc hf)
  refine ⟨doc, hfiles, hlevel, ?_⟩
  rw [← Config.collectorLogLevel_mem_iff hc hf, Graph.LevelKnown, hlevel]
  split
  · rename_i hinfo
    rw [hinfo]
    exact iff_of_true (.inl rfl) (by decide)
  · constructor
    · rintro (hnone | ⟨level, hmem, hsome⟩)
      · exact nomatch hnone
      · rw [Tree.text.inj (Option.some.inj hsome)]
        exact hmem
    · intro hmem
      exact .inr ⟨_, hmem, rfl⟩

/-- Metrics of the host, and a level in the metrics domain. -/
def loudCollector : Config where
  logging := some { logLevel := some "trace" }
  metrics := some {
    receivers := .ofList [("h", .hostmetrics none)]
    logLevel := some "debug"
    pipelines := .ofList [("m", { receivers := ["h"] })] }

/-- The level of the metrics domain stands in the document for `loudCollector`, although the logging
domain says something that the collector does not know. -/
theorem compile_level_iff_loudCollector :
    ∃ files, compile loudCollector samplePlatform {} = .ok files ∧
      ∃ doc : Tree, files = .ofList [(Graph.fileName, Yaml.write doc)] ∧
        doc.at? Graph.levelPath = some (.text "debug") ∧ Graph.LevelKnown doc := by
  obtain ⟨files, h⟩ : ∃ files, compile loudCollector samplePlatform {} = .ok files :=
    exists_of_isOk rfl
  have hc : loudCollector.check = .ok () := rfl
  have hs : ({} : Settings).check = .ok () := rfl
  obtain ⟨doc, hfiles, hlevel, hknown⟩ := compile_level_iff hc hs rfl h
  refine ⟨files, h, doc, hfiles, hlevel, hknown.mpr ?_⟩
  rintro ⟨hmetrics, -⟩
  exact nomatch hmetrics

/-- Metrics of the host, and a level that only the log engine has. -/
def tracedLogs : Config where
  logging := some { logLevel := some "trace" }
  metrics := some {
    receivers := .ofList [("h", .hostmetrics none)]
    pipelines := .ofList [("m", { receivers := ["h"] })] }

/-- **The level of the log engine is handed on to the collector,** which does not have it. -/
theorem compile_unknownLevel : tracedLogs.check = .ok () ∧
    ({} : Settings).check = .ok () ∧
    ∃ files, compile tracedLogs samplePlatform {} = .ok files ∧
      ∃ doc : Tree, files = .ofList [(Graph.fileName, Yaml.write doc)] ∧
        doc.at? Graph.levelPath = some (.text "trace") ∧ "trace" ∉ Metrics.logLevels ∧
          ¬ Graph.LevelKnown doc := by
  obtain ⟨files, h⟩ : ∃ files, compile tracedLogs samplePlatform {} = .ok files :=
    exists_of_isOk rfl
  obtain ⟨doc, hfiles, hlevel⟩ := level_of_compile h (by decide)
  refine ⟨rfl, rfl, files, h, doc, hfiles, hlevel, by decide, ?_⟩
  rintro (hnone | ⟨level, hmem, hsome⟩)
  · rw [hlevel] at hnone
    exact nomatch hnone
  · rw [hlevel] at hsome
    rw [← Tree.text.inj (Option.some.inj hsome)] at hmem
    exact absurd hmem (by decide)

end CollectorGraph

end Telemetry
