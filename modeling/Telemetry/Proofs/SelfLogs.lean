import Telemetry.Compile.Basic
import Telemetry.Proofs.Accepted
import Telemetry.Proofs.SectionOrder

/-!
# What decides about a compilation

Whether there are files for a configuration is decided by the configuration, the backend and the
platform. The agent's own logs are no part of it: their sections bring no parser along, stand for no
file and are of known kinds, so that nothing can stop at them. And where there are no files for a
configuration that was accepted, an error of the compilation says why, since every interval was read
before.

* **`LogEngine.exists_compile`** — the log engine gets files with any options, or with none.
* **`exists_compile_selfLogs`** — collecting the agent's own logs makes no difference.
* **`compile_refused`** — what an accepted configuration is refused for.
-/

namespace Telemetry

open Failing

namespace LogEngine

variable {c : Config} {p : Platform} {o o' : CompileOptions} {is : List LogInstance}
  {own : List (List Section)} {ss ss' : List Section}

/-- The sections of a run are those that are put together. -/
theorem Parts.sections_eq (h : Parts c p o is own ss) (his : c.logInstances .fluentBit = .ok is) :
    sections c p o = .ok ss := by
  have hown : (is.map (·.simplify)).mapM (·.sections p) = .ok own := by
    refine mapM_eq_ok.mpr ?_
    rw [List.forall₂_map_left_iff]
    exact h.each.imp fun _ _ h => h.1
  rw [h.all]
  exact bind_eq_ok.mpr ⟨is, his, bind_eq_ok.mpr ⟨own, hown, rfl⟩⟩

/-- The files that sections stand for come from the instances, whatever the options are. -/
theorem Parts.filter_file_collected (h : Parts c p o is own ss) :
    (collected ss).filter (·.kind = .file) = ofKind .file own := by
  rw [h.filter_kind_collected (by decide), filter_selfLogSections]
  cases o.selfLogs <;> simp

end LogEngine

/-- Only sections for files count for the files. -/
theorem Section.foldlM_addFile_filter (ss : List Section) (files : Files) :
    (ss.filter (·.kind = .file)).foldlM addFile files = ss.foldlM addFile files := by
  induction ss generalizing files with
  | nil => rfl
  | cons s ss ih =>
      by_cases hk : s.kind = .file
      · rw [List.filter_cons_of_pos (by simpa using hk), List.foldlM_cons, List.foldlM_cons]
        exact bind_congr fun files' => ih files'
      · rw [List.filter_cons_of_neg (by simpa using hk), List.foldlM_cons, addFile_of_ne hk, ih]
        rfl

namespace LogEngine

variable {c : Config} {p : Platform} {o o' : CompileOptions} {is : List LogInstance}
  {own : List (List Section)} {ss ss' : List Section}

/-- **Whether the log engine gets files does not depend on the options.** -/
theorem exists_compile {files : Files} (h : compile c p o = .ok files) (o' : CompileOptions) :
    ∃ files', compile c p o' = .ok files' := by
  obtain ⟨is, own, ss, his, hparts, -, hlayout, hproper, hnodup⟩ := parts_of_compile h
  obtain ⟨ss', hparts'⟩ : ∃ ss', Parts c p o' is own ss' := ⟨_, hparts.each, rfl⟩
  have hcollect : collectParsers ss' = .ok (collected ss') := by
    refine (collectParsers_eq_ok fun s hs hk => (hparts'.inRun s hs).values_name hk).mpr
      ⟨?_, ?_, rfl⟩
    · rwa [hparts'.parsers_eq, ← hparts.parsers_eq]
    · rwa [hparts'.parsers_eq, ← hparts.parsers_eq]
  obtain ⟨others, hothers, -⟩ := layout_eq_ok hlayout
  have hfiles : (collected ss').foldlM Section.addFile .empty = .ok others := by
    rw [← Section.foldlM_addFile_filter, hparts'.filter_file_collected,
      ← hparts.filter_file_collected, Section.foldlM_addFile_filter, hothers]
  obtain ⟨files', hlayout'⟩ := exists_layout (mainVariables p.buffersDir p.logsDir) hfiles
    fun s hs => (hparts'.inRun_collected s hs).unknownKind?
  refine ⟨files', ?_⟩
  rw [compile_eq, emittedSections, hparts'.sections_eq his]
  exact bind_eq_ok.mpr ⟨_, mapError_eq_ok.mpr hcollect, mapError_eq_ok.mpr hlayout'⟩

end LogEngine

/-- **Collecting the agent's own logs makes no difference** to whether there are files. The other
backends do not have these logs at all. -/
theorem exists_compile_selfLogs {c : Config} {b : Backend} {p : Platform} {level : String}
    (selfLogs selfLogs' : Bool) :
    (∃ files, compile c b p ⟨selfLogs, level⟩ = .ok files) ↔
      ∃ files, compile c b p ⟨selfLogs', level⟩ = .ok files := by
  cases b with
  | fluentBit =>
      simp only [compile, mapError_eq_ok]
      exact ⟨fun ⟨_, h⟩ => LogEngine.exists_compile h _, fun ⟨_, h⟩ => LogEngine.exists_compile h _⟩
  | collector => exact Iff.rfl
  | collectd => exact Iff.rfl

/-! ## What an accepted configuration is refused for -/

/-- A refusal that is an error of the compilation. -/
def Refusal.IsInvalid (r : Refusal) : Prop :=
  ∃ e, r = .invalid e

theorem failsOnly_invalid {α : Type} (x : Except CompileError α) :
    FailsOnly Refusal.IsInvalid (x.mapError .invalid) :=
  .mapError fun e _ => ⟨e, rfl⟩

namespace Collectd

/-- The interval of a receiver for host metrics was read when the receiver was checked. -/
theorem settings_refused {m : Metrics} (hm : m.check = .ok ()) :
    FailsOnly Refusal.IsInvalid (settings m) := by
  obtain ⟨_, -, hcheck⟩ := bind_eq_ok.mp hm
  obtain ⟨_, -, hcheck⟩ := bind_eq_ok.mp hcheck
  obtain ⟨_, -, hcheck⟩ := bind_eq_ok.mp hcheck
  obtain ⟨_, hreceivers, -⟩ := bind_eq_ok.mp hcheck
  rw [settings]
  split
  · exact .ok _
  refine .bind ?receivers fun _ _ => .bind (failsOnly_invalid _) fun _ _ =>
    .bind (failsOnly_invalid _) fun _ _ => .bind (failsOnly_invalid _) fun _ _ => .ok _
  case receivers =>
    rw [receiverSettings]
    split
    · refine .bind (failsOnly_invalid _) ?_
      intro _ h
      cases h
    · refine .bind (failsOnly_invalid _) fun _ _ => ?_
      split
      · exact .ok _
      · rename_i id interval rest hentries
        have hreceiver := forM_eq_ok.mp hreceivers (id, .hostmetrics interval)
          (hentries ▸ List.mem_cons_self)
        simp only [MetricsReceiver.check] at hreceiver
        cases hinterval : collectionInterval id interval with
        | ok i => exact .bind (.ok i) fun _ _ => .ok _
        | error e =>
            rw [hinterval] at hreceiver
            exact nomatch hreceiver
      · exact failsOnly_invalid _

end Collectd

/-- **An accepted configuration is only refused by an error of the compilation.** -/
theorem compile_refused {c : Config} (hc : c.check = .ok ()) (b : Backend) (p : Platform)
    (o : CompileOptions) : FailsOnly Refusal.IsInvalid (compile c b p o) := by
  cases b with
  | fluentBit => exact failsOnly_invalid _
  | collector => exact failsOnly_invalid _
  | collectd =>
      rw [compile, Collectd.compile]
      split
      · rename_i m hm
        exact .bind (Collectd.settings_refused (Config.metrics_check hc hm)) fun _ _ => .ok _
      · exact .bind (.ok _) fun _ _ => .ok _

end Telemetry
