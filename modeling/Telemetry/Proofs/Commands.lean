import Telemetry.Cli.Run
import Telemetry.Proofs.SelfLogs
import Telemetry.Proofs.Volume

/-!
# Running commands on files in memory

A command is a sequence of steps, of which the first that fails ends it. Only the last steps of
`generate` write, and what could fail by the configuration stands in front of them. So there are
three cases, which are the same for `generate` and `validate`: there are files, the settings or the
text cannot be used, or an error of the compilation is found.

* **`perform_bind`** — one step after another; the steps that read leave the files as they are.
* **`perform_writeFiles`** — all files are written where each of them can be.
* **`generates_or`** — the three cases.
* **`run_generate_validate`** — the code of `generate` tells the cases apart, files are written in
  the first of them alone, and `validate` is content exactly then.
-/

namespace Telemetry.Cli

open Failing

variable {α β : Type} {v v' : Volume} {env : Environment} {path input : String}

/-! ## One step after the other -/

/-- What steps on files in memory come to, and the files after them. -/
def perform (x : ExceptT Failure (StateM Volume) α) (v : Volume) : Except Failure α × Volume :=
  x.run v

/-- A step that fails is the last one. -/
theorem perform_bind (x : ExceptT Failure (StateM Volume) α)
    (f : α → ExceptT Failure (StateM Volume) β) (v : Volume) :
    perform (x >>= f) v = match perform x v with
      | (.ok a, v') => perform (f a) v'
      | (.error e, v') => (.error e, v') := by
  show (do let a ← x.run; ExceptT.bindCont f a : StateM Volume _) v = _
  simp only [bind, StateT.bind, perform]
  cases x.run v with
  | mk result v' => cases result <;> rfl

/-- Reading and computing leave the files as they are. -/
theorem perform_settle (r : Except Failure α) (v : Volume) : perform (settle r) v = (r, v) := rfl

theorem perform_readText (path : String) (v : Volume) :
    perform (readText path) v = (.ok (v.readText path), v) := rfl

theorem perform_loadSettings (env : Environment) (path : String) (v : Volume) :
    perform (loadSettings env path) v
      = ((Settings.loadOrDefault env path (v.readText path)).mapError .ofSettings, v) := by
  rw [loadSettings, perform_bind, perform_readText]
  exact perform_settle _ v

theorem perform_loadConfig {text : String} (h : v.readText path = .ok text) :
    perform (loadConfig path) v = ((Config.read text).mapError .ofRefusal, v) := by
  rw [loadConfig, perform_bind, perform_readText, h]
  exact perform_settle _ v

/-- The name of the host as a command finds it out. -/
def hostnameOn (env : Environment) (v : Volume) : String :=
  match environmentHostname? env with
  | some name => name
  | none =>
    match v.readText "/etc/hostname" with
    | .ok text => (hostnameOf? text).getD "localhost"
    | .error _ => "localhost"

theorem perform_hostname (env : Environment) (v : Volume) :
    perform (hostname env) v = (.ok (hostnameOn env v), v) := by
  rw [hostname, hostnameOn]
  cases environmentHostname? env with
  | some name => rfl
  | none =>
      simp only [perform_bind, perform_readText]
      cases v.readText "/etc/hostname" <;> rfl

/-! ## Writing -/

/-- An operation that succeeds is no more than what it does to the volume. -/
theorem perform_attempt {f : Volume → Except StorageError Volume} (h : f v = .ok v') :
    perform (demand (Volume.attempt f)) v = (.ok (), v') := by
  have hattempt : Volume.attempt f v = (.ok (), v') := by
    rw [Volume.attempt, h]
  have hlift : perform (ExceptT.lift (Volume.attempt f)) v = (.ok (.ok ()), v') := by
    show (Except.ok (Volume.attempt f v).1, (Volume.attempt f v).2) = _
    rw [hattempt]
  rw [demand, perform_bind, hlift]
  rfl

/-- Files are written one by one into a folder that is there, where no folder has the name of a file.
The induction is on the files; what was written before leaves the folder where it is, and makes no
folder of the name of a file. -/
theorem perform_writeTexts {dir : String} {l : Location} (hl : v.resolve dir = .ok l)
    (hfolder : v.isFolder l) {files : List (String × String)}
    (hnames : ∀ f ∈ files, ¬ v.isFolder (l ++ [f.1])) :
    perform (files.forM fun f => demand (Storage.writeText dir f.1 f.2)) v
      = (.ok (), v.putAll l files) := by
  induction files generalizing v with
  | nil => rfl
  | cons f files ih =>
      obtain ⟨hname, hnames⟩ := List.forall_mem_cons.mp hnames
      have hwrite : v.writeText dir f.1 f.2 = .ok (v.put (l ++ [f.1]) f.2) :=
        Volume.writeText_eq_ok.mpr ⟨l, hl, hfolder, hname, rfl⟩
      have hkeeps : ∀ l', v.isFolder l' → (v.put (l ++ [f.1]) f.2).isFolder l' :=
        fun l' h => (Volume.isFolder_put _ _ _ _).mpr (.inl h)
      rw [show ((f :: files).forM fun f => demand (Storage.writeText dir f.1 f.2)) =
        (demand (Storage.writeText dir f.1 f.2) >>= fun _ =>
          files.forM fun f => demand (Storage.writeText dir f.1 f.2) :
          ExceptT Failure (StateM Volume) Unit) from rfl, perform_bind]
      have hstep : perform (demand (Storage.writeText dir f.1 f.2)) v
          = (.ok (), v.put (l ++ [f.1]) f.2) := perform_attempt hwrite
      rw [hstep]
      refine ih (Volume.resolve_of_resolve hkeeps hl) (hkeeps l hfolder) ?_
      intro f' hf' h
      rcases (Volume.isFolder_put _ _ _ _).mp h with h | ⟨-, h⟩
      · exact hnames f' hf' h
      · simp at h

/-- A folder can be made on a volume, and then each of some files can be written there. -/
def Takes (v : Volume) (dir : String) (files : Files) : Prop :=
  ∃ v₁, v.makeFolder dir = .ok v₁ ∧
    ∀ f ∈ files.entries, ∃ v₂, v₁.writeText dir f.1 f.2 = .ok v₂

/-- The folder at a path has a file with a text. -/
def Holds (v : Volume) (dir name text : String) : Prop :=
  ∃ l, v.resolve dir = .ok l ∧ v.text? (l ++ [name]) = some text

/-- **All files are written** where each of them can be. -/
theorem perform_writeFiles {dir : String} {files : Files} (h : Takes v dir files) :
    ∃ v', perform (writeFiles dir files) v = (.ok (), v') ∧
      ∀ name text, files.get? name = some text → Holds v' dir name text := by
  obtain ⟨v₁, hmake, hwrite⟩ := h
  have hmade : perform (demand (Storage.makeFolder dir)) v = (.ok (), v₁) := perform_attempt hmake
  rw [writeFiles, perform_bind, hmade]
  by_cases hnone : files.entries = []
  · refine ⟨v₁, by rw [hnone]; rfl, ?_⟩
    intro name text ht
    rw [← Keyed.mem_entries_iff, hnone] at ht
    exact nomatch ht
  · obtain ⟨f₀, hf₀⟩ := List.exists_mem_of_ne_nil _ hnone
    obtain ⟨_, hw₀⟩ := hwrite f₀ hf₀
    obtain ⟨l, hl, hfolder, -, -⟩ := Volume.writeText_eq_ok.mp hw₀
    have hnames : ∀ f ∈ files.entries, ¬ v₁.isFolder (l ++ [f.1]) := by
      intro f hf
      obtain ⟨_, hw⟩ := hwrite f hf
      obtain ⟨l', hl', -, hname, -⟩ := Volume.writeText_eq_ok.mp hw
      rw [hl] at hl'
      obtain rfl := Except.ok.inj hl'
      exact hname
    refine ⟨_, perform_writeTexts hl hfolder hnames, ?_⟩
    intro name text ht
    have hkeeps : ∀ l', v₁.isFolder l' → (v₁.putAll l files.entries).isFolder l' :=
      fun l' h => Volume.isFolder_putAll h l files.entries
    exact ⟨l, Volume.resolve_of_resolve hkeeps hl,
      Volume.text?_putAll files.keys_nodup (Keyed.mem_entries_iff.mpr ht) v₁⟩

/-! ## Commands -/

/-- The code with which a command ends. -/
def codeOf : Except Failure Report → Nat
  | .ok report => report.failure?.elim 0 Failure.code
  | .error e => e.code

/-- The code of the program is that of the command, which goes on from the settings. -/
theorem run_code {args : List String} {g : Globals} {command : Command}
    (hargs : Request.read args = .ok ⟨g, command⟩) {result : Except Failure Report}
    (h : perform (loadSettings env g.settingsPath >>= fun s => execute env s command) v
      = (result, v')) :
    ∃ outcome, (run env args : StateM Volume Outcome) v = (outcome, v') ∧
      outcome.code = codeOf result := by
  rw [perform_bind] at h
  simp only [run, hargs, Request.run, bind, StateT.bind]
  rw [← perform]
  rcases hload : perform (loadSettings env g.settingsPath) v with ⟨loaded, v₁⟩
  rw [hload] at h
  cases loaded with
  | error e =>
      obtain ⟨rfl, rfl⟩ := Prod.mk.inj h
      exact ⟨_, rfl, rfl⟩
  | ok s =>
      simp only [StateT.bind]
      rw [← perform, show perform (execute env s command) v₁ = _ from h]
      cases result with
      | error e => exact ⟨_, rfl, rfl⟩
      | ok report =>
          cases hreport : report.failure? with
          | none =>
              exact ⟨_, by simp only [bind, hreport]; rfl, by simp only [codeOf, hreport]; rfl⟩
          | some e =>
              exact ⟨_, by simp only [bind, hreport]; rfl, by simp only [codeOf, hreport]; rfl⟩

/-- The command ends with a code and leaves the files as they are. -/
def Ends (x : ExceptT Failure (StateM Volume) Report) (v : Volume) (code : Nat) : Prop :=
  ∃ result, perform x v = (result, v) ∧ codeOf result = code

theorem Ends.code {x : ExceptT Failure (StateM Volume) Report} {n : Nat} (h : Ends x v n)
    {result : Except Failure Report} (hresult : perform x v = (result, v')) :
    codeOf result = n ∧ v' = v := by
  obtain ⟨result₁, h₁, hcode⟩ := h
  obtain ⟨rfl, rfl⟩ := Prod.mk.inj (hresult.symm.trans h₁)
  exact ⟨hcode, rfl⟩

variable {text : String} {b : Backend} {selfLogs : Bool} {s : Settings} {files : Files}

/-- The settings load, the configuration is accepted, and compiling it gives files. -/
def Generates (env : Environment) (v : Volume) (path text : String) (b : Backend) (selfLogs : Bool)
    (s : Settings) (files : Files) : Prop :=
  Settings.loadOrDefault env path (v.readText path) = .ok s ∧
    ∃ c, Config.read text = .ok c ∧
      compile c b (s.platform (hostnameOn env v)) (compileOptions s selfLogs) = .ok files

/-- The settings do not load, or the configuration cannot be read. -/
def Unusable (env : Environment) (v : Volume) (path text : String) : Prop :=
  (∃ e, Settings.loadOrDefault env path (v.readText path) = .error (.invalid e)) ∨
    (∃ s, Settings.loadOrDefault env path (v.readText path) = .ok s) ∧
      Config.read text = .error .malformed

/-- The settings load, and there is an error of the compilation, which checking or compiling the
configuration finds. -/
def Refused (env : Environment) (v : Volume) (path text : String) (b : Backend) (selfLogs : Bool) :
    Prop :=
  ∃ s, Settings.loadOrDefault env path (v.readText path) = .ok s ∧
    ((∃ e, Config.read text = .error (.invalid e)) ∨ ∃ c e, Config.read text = .ok c ∧
      compile c b (s.platform (hostnameOn env v)) (compileOptions s selfLogs) = .error (.invalid e))

/-- Settings from a file that can be read, or is not there, only fail to load by what they say. -/
theorem loadOrDefault_refused {file : Except StorageError String}
    (hfile : file = .error .notFound ∨ ∃ t, file = .ok t) (env : Environment) (path : String) :
    FailsOnly (fun e => ∃ e', e = .invalid e') (Settings.loadOrDefault env path file) := by
  have hchecked : ∀ s : Settings, FailsOnly (fun e => ∃ e', e = .invalid e') s.checked := by
    intro s
    rw [Settings.checked]
    split
    · exact .ok _
    · exact .error ⟨_, rfl⟩
  have hread : FailsOnly (fun e => ∃ e', e = .invalid e') (Settings.ofFile path file) := by
    rcases hfile with rfl | ⟨t, rfl⟩
    · exact .error ⟨_, rfl⟩
    · exact .bind (.mapError fun e _ => ⟨e, rfl⟩) fun _ _ => hchecked _
  rw [Settings.loadOrDefault]
  split
  · exact .bind (.ok _) fun _ _ => hchecked _
  · exact .bind hread fun _ _ => hchecked _

/-- One of the three is the case if no interval is too long. -/
theorem generates_or (hfile : v.readText path = .error .notFound ∨ ∃ t, v.readText path = .ok t)
    (hinterval : Config.read text ≠ .error .overflow) (env : Environment) (b : Backend)
    (selfLogs : Bool) :
    (∃ s files, Generates env v path text b selfLogs s files) ∨ Unusable env v path text ∨
      Refused env v path text b selfLogs := by
  cases hs : Settings.loadOrDefault env path (v.readText path) with
  | error e =>
      obtain ⟨e', rfl⟩ := loadOrDefault_refused hfile env path e hs
      exact .inr (.inl (.inl ⟨e', hs⟩))
  | ok s =>
      cases hc : Config.read text with
      | error r =>
          cases r with
          | malformed => exact .inr (.inl (.inr ⟨⟨s, hs⟩, hc⟩))
          | invalid e => exact .inr (.inr ⟨s, hs, .inl ⟨e, hc⟩⟩)
          | overflow => exact absurd hc hinterval
      | ok c =>
          cases hcompile : compile c b (s.platform (hostnameOn env v))
            (compileOptions s selfLogs) with
          | ok files => exact .inl ⟨s, files, hs, c, hc, hcompile⟩
          | error r =>
              obtain ⟨e, rfl⟩ := compile_refused (Config.check_of_read hc) _ _ _ r hcompile
              exact .inr (.inr ⟨s, hs, .inr ⟨c, e, hc, hcompile⟩⟩)

/-! ## What generating and validating come to -/

/-- The settings are loaded first. -/
theorem perform_loaded (hs : Settings.loadOrDefault env path (v.readText path) = .ok s)
    (f : Settings → ExceptT Failure (StateM Volume) α) :
    perform (loadSettings env path >>= f) v = perform (f s) v := by
  rw [perform_bind, perform_loadSettings, hs]
  rfl

theorem perform_unloaded {e : SettingsError}
    (hs : Settings.loadOrDefault env path (v.readText path) = .error (.invalid e))
    (f : Settings → ExceptT Failure (StateM Volume) α) :
    perform (loadSettings env path >>= f) v = (.error (.settings e), v) := by
  rw [perform_bind, perform_loadSettings, hs]
  rfl

/-- Then the configuration is read. -/
theorem perform_configured (hinput : v.readText input = .ok text) {c : Config}
    (hc : Config.read text = .ok c) (f : Config → ExceptT Failure (StateM Volume) α) :
    perform (loadConfig input >>= f) v = perform (f c) v := by
  rw [perform_bind, perform_loadConfig hinput, hc]
  rfl

theorem perform_unconfigured (hinput : v.readText input = .ok text) {r : Refusal}
    (hc : Config.read text = .error r) (f : Config → ExceptT Failure (StateM Volume) α) :
    perform (loadConfig input >>= f) v = (.error (.ofRefusal r), v) := by
  rw [perform_bind, perform_loadConfig hinput, hc]
  rfl

/-- **Where there are files, they are written.** -/
theorem perform_generate (hinput : v.readText input = .ok text) {out? : Option String}
    (h : Generates env v path text b selfLogs s files)
    (hwrite : Takes v (out?.getD s.paths.outputDir) files) :
    ∃ v', perform (loadSettings env path >>= fun s =>
        execute env s (.generate input b out? selfLogs)) v
          = (.ok (.generated b (out?.getD s.paths.outputDir) files), v') ∧
      ∀ name contents, files.get? name = some contents →
        Holds v' (out?.getD s.paths.outputDir) name contents := by
  obtain ⟨hs, c, hc, hcompile⟩ := h
  obtain ⟨v', hv', hholds⟩ := perform_writeFiles hwrite
  refine ⟨v', ?_, hholds⟩
  rw [perform_loaded hs, execute, perform_configured hinput hc, perform_bind, perform_hostname]
  simp only
  rw [perform_bind, perform_settle, hcompile]
  simp only [Except.mapError]
  rw [perform_bind, hv']
  rfl

/-- Settings or a configuration that cannot be used end any command that needs them. -/
theorem perform_unusable (hinput : v.readText input = .ok text) (h : Unusable env v path text)
    (f : Settings → Config → ExceptT Failure (StateM Volume) Report) :
    Ends (loadSettings env path >>= fun s => loadConfig input >>= f s) v 2 := by
  rcases h with ⟨e, hs⟩ | ⟨⟨s, hs⟩, hc⟩
  · exact ⟨.error (.settings e), perform_unloaded hs _, rfl⟩
  · refine ⟨.error (.ofRefusal .malformed), ?_, rfl⟩
    rw [perform_loaded hs, perform_unconfigured hinput hc]

/-- An error of the compilation ends `generate`. -/
theorem perform_generate_refused (hinput : v.readText input = .ok text)
    (h : Refused env v path text b selfLogs) (out? : Option String) :
    Ends (loadSettings env path >>= fun s =>
      execute env s (.generate input b out? selfLogs)) v 1 := by
  obtain ⟨s, hs, ⟨e, hc⟩ | ⟨c, e, hc, hcompile⟩⟩ := h
  · refine ⟨.error (.ofRefusal (.invalid e)), ?_, rfl⟩
    rw [perform_loaded hs, execute, perform_unconfigured hinput hc]
  · refine ⟨.error (.ofRefusal (.invalid e)), ?_, rfl⟩
    rw [perform_loaded hs, execute, perform_configured hinput hc, perform_bind, perform_hostname]
    simp only
    rw [perform_bind, perform_settle, hcompile]
    rfl

/-- What `validate` says of one backend, where the configuration is accepted. -/
theorem perform_validate (hinput : v.readText input = .ok text)
    (hs : Settings.loadOrDefault env path (v.readText path) = .ok s) {c : Config}
    (hc : Config.read text = .ok c) {status : BackendStatus}
    (hstatus : checkBackend c (s.platform (hostnameOn env v)) (compileOptions s false) b
      = .ok status) :
    perform (loadSettings env path >>= fun s => execute env s (.validate input [b])) v
      = (.ok (.validated input [status]), v) := by
  have hchecked : [b].mapM (checkBackend c (s.platform (hostnameOn env v)) (compileOptions s false))
      = .ok [status] := mapM_eq_ok.mpr (.cons hstatus .nil)
  rw [perform_loaded hs, execute, perform_configured hinput hc, perform_bind, perform_hostname]
  simp only [List.isEmpty_cons, Bool.false_eq_true, if_false]
  rw [perform_bind, perform_settle, hchecked]
  rfl

/-- **Where there are files, `validate` is content.** -/
theorem perform_validate_ok (hinput : v.readText input = .ok text)
    (h : Generates env v path text b false s files) :
    Ends (loadSettings env path >>= fun s => execute env s (.validate input [b])) v 0 := by
  obtain ⟨hs, c, hc, hcompile⟩ := h
  have hstatus : checkBackend c (s.platform (hostnameOn env v)) (compileOptions s false) b
      = .ok ⟨b, .ok files.keys⟩ := by
    rw [checkBackend, hcompile]
  exact ⟨_, perform_validate hinput hs hc hstatus, rfl⟩

/-- An error of the compilation makes `validate` fail. -/
theorem perform_validate_refused (hinput : v.readText input = .ok text)
    (h : Refused env v path text b false) :
    Ends (loadSettings env path >>= fun s => execute env s (.validate input [b])) v 1 := by
  obtain ⟨s, hs, ⟨e, hc⟩ | ⟨c, e, hc, hcompile⟩⟩ := h
  · refine ⟨.error (.ofRefusal (.invalid e)), ?_, rfl⟩
    rw [perform_loaded hs, execute, perform_unconfigured hinput hc]
  · have hstatus : checkBackend c (s.platform (hostnameOn env v)) (compileOptions s false) b
        = .ok ⟨b, .error e.message⟩ := by
      rw [checkBackend, hcompile]
    exact ⟨_, perform_validate hinput hs hc hstatus, rfl⟩

/-- `generate` writes all files or none, and its code says which, and why. -/
structure AllOrNothing (env : Environment) (v : Volume) (path text : String) (b : Backend)
    (selfLogs : Bool) (out? : Option String) (code : Nat) (after : Volume) : Prop where
  done : code = 0 ↔ ∃ s files, Generates env v path text b selfLogs s files
  /-- Settings or a configuration that cannot be used. -/
  unusable : code = 2 ↔ Unusable env v path text
  /-- An error of the compilation. -/
  refused : code = 1 ↔ Refused env v path text b selfLogs
  /-- There are no other codes. -/
  code_le : code ≤ 2
  written : ∀ s files, Generates env v path text b selfLogs s files →
    ∀ name contents, files.get? name = some contents →
      Holds after (out?.getD s.paths.outputDir) name contents
  untouched : code ≠ 0 → after = v

/-- Three cases with codes of their own can be told by the code. -/
theorem code_iff {done unusable refused : Prop} {code : Nat} (hcases : done ∨ unusable ∨ refused)
    (hdone : done → code = 0) (hunusable : unusable → code = 2) (hrefused : refused → code = 1) :
    (code = 0 ↔ done) ∧ (code = 2 ↔ unusable) ∧ (code = 1 ↔ refused) ∧ code ≤ 2 := by
  rcases hcases with h | h | h
  · have := hdone h
    grind
  · have := hunusable h
    grind
  · have := hrefused h
    grind

/-- What `generate` does, by the three cases that there are. -/
theorem generate_allOrNothing {out? : Option String} {result : Except Failure Report}
    (hfile : v.readText path = .error .notFound ∨ ∃ t, v.readText path = .ok t)
    (hinput : v.readText input = .ok text) (hinterval : Config.read text ≠ .error .overflow)
    (hwrite : ∀ s files, Generates env v path text b selfLogs s files →
      Takes v (out?.getD s.paths.outputDir) files)
    (hresult : perform (loadSettings env path >>= fun s =>
      execute env s (.generate input b out? selfLogs)) v = (result, v')) :
    AllOrNothing env v path text b selfLogs out? (codeOf result) v' := by
  have hdone : ∀ s files, Generates env v path text b selfLogs s files → codeOf result = 0 ∧
      ∀ name contents, files.get? name = some contents →
        Holds v' (out?.getD s.paths.outputDir) name contents := by
    intro s files h
    obtain ⟨v₁, h₁, hholds⟩ := perform_generate hinput h (hwrite s files h)
    obtain ⟨rfl, rfl⟩ := Prod.mk.inj (hresult.symm.trans h₁)
    exact ⟨rfl, hholds⟩
  have hunusable : Unusable env v path text → codeOf result = 2 ∧ v' = v :=
    fun h => (perform_unusable hinput h _).code hresult
  have hrefused : Refused env v path text b selfLogs → codeOf result = 1 ∧ v' = v :=
    fun h => (perform_generate_refused hinput h out?).code hresult
  have hcases := generates_or hfile hinterval env b selfLogs
  obtain ⟨hzero, htwo, hone, hle⟩ := code_iff hcases (fun ⟨s, files, h⟩ => (hdone s files h).1)
    (fun h => (hunusable h).1) fun h => (hrefused h).1
  refine ⟨hzero, htwo, hone, hle, fun s files h => (hdone s files h).2, ?_⟩
  intro hcode
  rcases hcases with h | h | h
  · exact absurd (hzero.mpr h) hcode
  · exact (hunusable h).2
  · exact (hrefused h).2

/-- What `validate` says of a backend, by the same three cases. -/
theorem validate_code {result : Except Failure Report}
    (hfile : v.readText path = .error .notFound ∨ ∃ t, v.readText path = .ok t)
    (hinput : v.readText input = .ok text) (hinterval : Config.read text ≠ .error .overflow)
    (hresult : perform (loadSettings env path >>= fun s =>
      execute env s (.validate input [b])) v = (result, v')) :
    (codeOf result = 0 ↔ ∃ s files, Generates env v path text b false s files) ∧ v' = v := by
  have hdone : (∃ s files, Generates env v path text b false s files) →
      codeOf result = 0 ∧ v' = v :=
    fun ⟨_, _, h⟩ => (perform_validate_ok hinput h).code hresult
  have hunusable : Unusable env v path text → codeOf result = 2 ∧ v' = v :=
    fun h => (perform_unusable hinput h _).code hresult
  have hrefused : Refused env v path text b false → codeOf result = 1 ∧ v' = v :=
    fun h => (perform_validate_refused hinput h).code hresult
  have hcases := generates_or hfile hinterval env b false
  refine ⟨(code_iff hcases (fun h => (hdone h).1) (fun h => (hunusable h).1)
    fun h => (hrefused h).1).1, ?_⟩
  rcases hcases with h | h | h
  · exact (hdone h).2
  · exact (hunusable h).2
  · exact (hrefused h).2

/-- The agent's own logs do not decide whether there are files. -/
theorem exists_generates_selfLogs (selfLogs selfLogs' : Bool) :
    (∃ s files, Generates env v path text b selfLogs s files) ↔
      ∃ s files, Generates env v path text b selfLogs' s files := by
  refine exists_congr fun s => ?_
  constructor
  · rintro ⟨files, hs, c, hc, hcompile⟩
    obtain ⟨files', hcompile'⟩ := (exists_compile_selfLogs _ _).mp ⟨files, hcompile⟩
    exact ⟨files', hs, c, hc, hcompile'⟩
  · rintro ⟨files, hs, c, hc, hcompile⟩
    obtain ⟨files', hcompile'⟩ := (exists_compile_selfLogs _ _).mp ⟨files, hcompile⟩
    exact ⟨files', hs, c, hc, hcompile'⟩

/-- **Generating writes all or nothing, and validating predicts it.** This holds for any two lines
of arguments that ask for the two commands on one backend, whatever they say about the agent's own
logs, where the files that are there can be read and the new ones can be written. -/
theorem run_generate_validate {args args' : List String} {g g' : Globals} {out? : Option String}
    (hgenerate : Request.read args = .ok ⟨g, .generate input b out? selfLogs⟩)
    (hvalidate : Request.read args' = .ok ⟨g', .validate input [b]⟩)
    (hsettings : g'.settingsPath = g.settingsPath)
    (hfile : v.readText g.settingsPath = .error .notFound ∨
      ∃ t, v.readText g.settingsPath = .ok t)
    (hinput : v.readText input = .ok text)
    (hinterval : Config.read text ≠ .error .overflow)
    (hwrite : ∀ s files, Generates env v g.settingsPath text b selfLogs s files →
      Takes v (out?.getD s.paths.outputDir) files) :
    ∃ outcome after outcome',
      (run env args : StateM Volume Outcome) v = (outcome, after) ∧
      (run env args' : StateM Volume Outcome) v = (outcome', v) ∧
      AllOrNothing env v g.settingsPath text b selfLogs out? outcome.code after ∧
      (outcome'.code = 0 ↔ outcome.code = 0) := by
  rcases hresult : perform (loadSettings env g.settingsPath >>= fun s =>
    execute env s (.generate input b out? selfLogs)) v with ⟨result, after⟩
  rcases hresult' : perform (loadSettings env g'.settingsPath >>= fun s =>
    execute env s (.validate input [b])) v with ⟨result', after'⟩
  obtain ⟨outcome, hrun, hcode⟩ := run_code hgenerate hresult
  obtain ⟨outcome', hrun', hcode'⟩ := run_code hvalidate hresult'
  have hall := generate_allOrNothing hfile hinput hinterval hwrite hresult
  rw [hsettings] at hresult'
  obtain ⟨hvalid, rfl⟩ := validate_code hfile hinput hinterval hresult'
  rw [← hcode] at hall
  refine ⟨outcome, after, outcome', hrun, hrun', hall, ?_⟩
  rw [hcode', hvalid, hall.done]
  exact exists_generates_selfLogs _ _

/-- A configuration with one file of logs. -/
def fileLogs : String :=
  "logging:\n  receivers:\n    f:\n      type: files\n      include_paths: [/a.log]\n" ++
    "  service:\n    pipelines:\n      p:\n        receivers: [f]\n"

/-- A volume with nothing but `fileLogs`. -/
def oneFile : Volume where
  files := [(["agent.yaml"], fileLogs)]

theorem takes_oneFile (files : Files) : Takes oneFile "out" files := by
  refine ⟨{ oneFile with folders := [["out"]] }, rfl, ?_⟩
  intro f _
  refine ⟨_, Volume.writeText_eq_ok.mpr ⟨["out"], rfl, rfl, ?_, rfl⟩⟩
  simp [Volume.isFolder, oneFile]

/-- `fileLogs` is written for the log engine with the usual settings, and with the agent's own
logs. -/
theorem run_generate_validate_fileLogs :
    let env : Environment := fun _ => none
    let args := ["generate", "-i", "agent.yaml", "-b", "fluentbit", "-o", "out", "--self-logs"]
    ∃ outcome after outcome',
      (run env args : StateM Volume Outcome) oneFile = (outcome, after) ∧
      (run env ["validate", "-i", "agent.yaml", "-b", "fluentbit"] : StateM Volume Outcome) oneFile
        = (outcome', oneFile) ∧
      outcome.code = 0 ∧ outcome'.code = 0 ∧
      ∃ text, Holds after "out" "fluent_bit_main.conf" text := by
  intro env args
  have hargs : Request.read args
      = .ok ⟨{}, .generate "agent.yaml" .fluentBit (some "out") true⟩ := rfl
  have hargs' : Request.read ["validate", "-i", "agent.yaml", "-b", "fluentbit"]
      = .ok ⟨{}, .validate "agent.yaml" [.fluentBit]⟩ := rfl
  have hmissing : oneFile.readText "opsforge.toml" = .error .notFound := rfl
  have hs : Settings.loadOrDefault env "opsforge.toml" (oneFile.readText "opsforge.toml")
      = .ok {} := by decide
  obtain ⟨files, hfiles⟩ : ∃ files, (Config.read fileLogs >>= fun c => compile c .fluentBit
      (({} : Settings).platform (hostnameOn env oneFile)) (compileOptions {} true)) = .ok files :=
    exists_of_isOk (by decide +kernel)
  obtain ⟨c, hc, hcompile⟩ := bind_eq_ok.mp hfiles
  obtain ⟨is, own, ss, his, hparts, -, hlayout, -⟩ :=
    LogEngine.parts_of_compile (mapError_eq_ok.mp hcompile)
  obtain ⟨text, htext⟩ : ∃ text, files.get? Section.mainFile = some text :=
    ⟨_, (LogEngine.get?_layout hlayout (by
      simp [hparts.grouped_mainKinds, LogEngine.mainSections])).1⟩
  have hgenerates : Generates env oneFile "opsforge.toml" fileLogs .fluentBit true {} files :=
    ⟨hs, c, hc, hcompile⟩
  have hinput : oneFile.readText "agent.yaml" = .ok fileLogs := rfl
  have hinterval : Config.read fileLogs ≠ .error .overflow := by
    intro h
    rw [hc] at h
    cases h
  obtain ⟨outcome, after, outcome', hrun, hrun', hall, hvalid⟩ := run_generate_validate hargs hargs'
    rfl (.inl hmissing) hinput hinterval fun _ files _ => takes_oneFile files
  have hcode := hall.done.mpr ⟨_, _, hgenerates⟩
  exact ⟨outcome, after, outcome', hrun, hrun', hcode, hvalid.mpr hcode, text,
    hall.written _ _ hgenerates _ _ htext⟩

end Telemetry.Cli
