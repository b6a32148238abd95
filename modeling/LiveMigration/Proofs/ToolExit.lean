import LiveMigration.Tool.Run
import LiveMigration.Proofs.HostShape
import LiveMigration.Proofs.Told
import LiveMigration.Proofs.ArgumentParse

/-! How a run of the tool ends. A run meets its stages in a fixed order: the command line, the
    level, the log file, the metrics file, the page size, the role and its configuration, and last
    the line the counters are appended to the metrics file with. Its exit status is set by the first
    stage that fails, and each stage is judged on the files as the run found them (`firstFault`,
    `exit_status_by_stage`): what the run logs or prints meanwhile changes what files hold, never
    whether a path leads to a file that opens. A device with no space opens as a metrics file and
    only refuses the line, after the description and the ports line were printed, so such a run ends
    with status 1.

    A run is followed step by step (`run_setUpLogger`, `run_openMetricsIfNamed`, `run_describe`,
    `run_report`); every step after the logger's setup keeps the shape of the host and only adds to
    its standard output (`World.Extends`). -/

namespace LiveMigration
namespace Tool

open CommandLine Log Config

/-! ### The stages of a run -/

/-- The fault a stage answers, if any. --/
def faultOf {α : Type} : Except ToolError α → Option ToolError
  | .ok _ => none
  | .error e => some e

@[simp]
theorem faultOf_ok {α : Type} (a : α) : faultOf (.ok a : Except ToolError α) = none := rfl

@[simp]
theorem faultOf_error {α : Type} (e : ToolError) : faultOf (.error e : Except ToolError α) = some e := rfl

theorem faultOf_eq_some {α : Type} {r : Except ToolError α} {e : ToolError} : faultOf r = some e ↔ r = .error e := by
  cases r <;> simp

theorem faultOf_eq_none {r : Except ToolError Unit} : faultOf r = none ↔ r = .ok () := by
  cases r <;> simp

/-- The fault of opening the file a path names, when a path is given. --/
def openFault {α : Type} (path? : Option String) (openFile : String → Except OsError α)
    (fault : OsError → ToolError) : Option ToolError :=
  match path? with
  | none => none
  | some path => faultOf ((openFile path).mapError fault)

@[simp]
theorem openFault_none {α : Type} (openFile : String → Except OsError α) (fault : OsError → ToolError) :
    openFault none openFile fault = none := rfl

@[simp]
theorem openFault_some {α : Type} (path : String) (openFile : String → Except OsError α) (fault : OsError → ToolError) :
    openFault (some path) openFile fault = faultOf ((openFile path).mapError fault) := rfl

/-- The description of the configuration the command line asks for: the page size is read, then
    one of the two roles must be given, and its option string must build a configuration with that
    page size. --/
def description (as : Args) : Except ToolError String := do
  let pageSize ← pageSizeOf as
  match as.text? "master", as.text? "client" with
  | some o, _ => (describeMaster pageSize o).run.2.mapError .config
  | none, some o => (describeClient pageSize o).run.2.mapError .config
  | none, none => throw .missingRole

/-- Whether a path leads to a device with no space. --/
def leadsToFull (h : Host) (path : String) : Bool :=
  match h.walk path with
  | .ok (.found _ .full) => true
  | _ => false

theorem leadsToFull_iff (h : Host) (path : String) :
    leadsToFull h path = true ↔ ∃ q, h.walk path = .ok (.found q .full) := by
  unfold leadsToFull
  split
  · rename_i q heq
    exact ⟨fun _ => ⟨q, heq⟩, fun _ => rfl⟩
  · rename_i hne
    simp only [Bool.false_eq_true, false_iff]
    rintro ⟨q, hq⟩
    exact hne q hq

/-- The fault of appending the metrics line to the file a path names, when a path is given. --/
def writeFault (h : Host) (path? : Option String) : Option ToolError :=
  match path? with
  | none => none
  | some path => if leadsToFull h path then some (.metrics (.write .noSpace)) else none

/-- The stages of a run after its command line is read, in the order the run meets them, each with
    the fault it may end the run with, on the files as the run found them: the level, the log file,
    the metrics file, the description of the configuration, and last the metrics line. --/
def stages (host : Host) (as : Args) : List (Option ToolError) :=
  [faultOf (levelOf as),
   openFault (as.text? "log-path") host.openExisting .loggerUpdate,
   openFault (as.text? "metrics-path") host.openAppend .metricsFile,
   faultOf (description as),
   writeFault host (as.text? "metrics-path")]

/-- The fault a run on these words ends with, if any. Words asking for help or the version end it
    without fault, whatever else they hold; otherwise a command line that cannot be read ends it,
    and then the first stage with a fault. --/
def firstFault (host : Host) (words : List String) : Option ToolError :=
  if "--help" ∈ words ∨ "--version" ∈ words then none
  else
    match arguments.parse (name :: words) with
    | (.error e, _) => some (.parseArguments e)
    | (.ok (), as) => (stages host as).findSome? id

/-! ### What the steps of a run leave -/

namespace World

/-- A later world: a later host, and the same metrics file. --/
structure Extends (w w' : World) : Prop where
  host : w.host.Extends w'.host
  metricsFile : w'.metricsFile = w.metricsFile

theorem Extends.refl (w : World) : w.Extends w := ⟨.refl w.host, rfl⟩

theorem Extends.trans {w w' w'' : World} (he : w.Extends w') (he' : w'.Extends w'') : w.Extends w'' :=
  ⟨he.host.trans he'.host, he'.metricsFile.trans he.metricsFile⟩

theorem extends_log (w : World) (r : Record) : w.Extends (w.log r) := by
  unfold log
  dsimp only
  split
  · exact .refl w
  split
  · exact ⟨Host.extends_emit w.host .stdout _, rfl⟩
  · split
    · rename_i hw
      exact ⟨Host.extends_writeAt hw, rfl⟩
    · exact ⟨.refl w.host, rfl⟩

theorem extends_logAll (w : World) (rs : List Record) : w.Extends (w.logAll rs) := by
  induction rs generalizing w with
  | nil => exact .refl w
  | cons r rs ih => exact (extends_log w r).trans (ih (w.log r))

theorem extends_print (w : World) (text : String) : w.Extends (w.print text) :=
  ⟨Host.extends_emit w.host .stdout text, rfl⟩

@[simp]
theorem print_stdout (w : World) (text : String) : (w.print text).host.stdout = w.host.stdout ++ text := rfl

end World

/-! ### The steps of a run -/

section Steps
variable {α β : Type} (w : World)

theorem run_bind_ok {x : Step α} {f : α → Step β} {a : α} {w' : World} (h : x.run.run w = (.ok a, w')) :
    (x >>= f).run.run w = (f a).run.run w' := by
  simp only [ExceptT.run_bind, StateT.run_bind, h]
  rfl

theorem run_bind_error {x : Step α} {f : α → Step β} {e : ToolError} {w' : World}
    (h : x.run.run w = (.error e, w')) : (x >>= f).run.run w = (.error e, w') := by
  simp only [ExceptT.run_bind, StateT.run_bind, h]
  rfl

@[simp]
theorem run_modify (f : World → World) : (modify f : Step Unit).run.run w = (.ok (), f w) := rfl

@[simp]
theorem run_get : (get : Step World).run.run w = (.ok w, w) := rfl

@[simp]
theorem run_set (w' : World) : (set w' : Step PUnit).run.run w = (.ok ⟨⟩, w') := rfl

@[simp]
theorem run_throw (e : ToolError) : (throw e : Step α).run.run w = (.error e, w) := rfl

@[simp]
theorem run_pure (a : α) : (pure a : Step α).run.run w = (.ok a, w) := rfl

theorem run_say (r : Record) : (say r).run.run w = (.ok (), w.log r) := rfl

theorem run_print (text : String) : (print text).run.run w = (.ok (), w.print text) := rfl

theorem run_narrate (x : Narrated α) : (narrate x).run.run w = (.ok x.run'.2, w.logAll x.run'.1) := rfl

theorem run_configure (x : Told ConfigError α) :
    (configure x).run.run w = (x.run.2.mapError .config, w.logAll x.run.1) := by
  unfold configure
  generalize x.run = out
  obtain ⟨records, result⟩ := out
  cases result <;> rfl

theorem run_liftExcept (x : Except ToolError α) : (liftExcept x).run.run w = (x, w) := by
  cases x <;> rfl

section Logger
variable (as : Args) (level : Option LevelFilter) (w : World)

/-- The logger's setup fails exactly when the log file named cannot be opened, and it changes
    neither the host nor the metrics file. --/
theorem run_setUpLogger :
    faultOf ((setUpLogger as level).run.run w).1 = openFault (as.text? "log-path") w.host.openExisting .loggerUpdate ∧
    ((setUpLogger as level).run.run w).2.host = w.host ∧
    ((setUpLogger as level).run.run w).2.metricsFile = w.metricsFile := by
  unfold setUpLogger
  rw [run_bind_ok w (run_modify w _)]
  dsimp only
  cases hp : as.text? "log-path" with
  | none =>
    dsimp only
    rw [run_bind_ok _ (run_modify _ _)]
    cases as.text? "module" <;> exact ⟨rfl, rfl, rfl⟩
  | some path =>
    dsimp only
    rw [run_bind_ok _ (run_get _)]
    dsimp only
    cases ho : w.host.openExisting path with
    | error e =>
      dsimp only
      rw [run_bind_error _ (run_throw _ _)]
      exact ⟨by rw [openFault_some, ho]; rfl, rfl, rfl⟩
    | ok q =>
      dsimp only
      rw [run_bind_ok _ (run_set _ _), run_bind_ok _ (run_modify _ _)]
      cases as.text? "module" <;> exact ⟨by rw [openFault_some, ho]; rfl, rfl, rfl⟩

end Logger

section Metrics
variable (w : World) {path : String}

theorem run_openMetrics_error {e : OsError} (h : w.host.openAppend path = .error e) :
    (openMetrics path).run.run w = (.error (.metricsFile e), w) := by
  unfold openMetrics
  rw [run_bind_ok _ (run_get _)]
  rw [h]
  rfl

theorem run_openMetrics_ok {p : Place} {h₂ : Host} (h : w.host.openAppend path = .ok (p, h₂)) :
    (openMetrics path).run.run w = (.ok (), { w with host := h₂, metricsFile := some p }) := by
  unfold openMetrics
  rw [run_bind_ok _ (run_get _)]
  rw [h]
  rfl

theorem run_writeMetrics_none (h : w.metricsFile = none) : writeMetrics.run.run w = (.ok (), w) := by
  unfold writeMetrics
  rw [run_bind_ok _ (run_get _)]
  dsimp only
  rw [h]
  rfl

/-- The metrics line is refused by a device with no space. --/
theorem run_writeMetrics_full {p : Place} (hm : w.metricsFile = some p) (he : w.host.entry? p = some .full) :
    (writeMetrics.run.run w).1 = .error (.metrics (.write .noSpace)) := by
  unfold writeMetrics
  rw [run_bind_ok _ (run_get _)]
  dsimp only
  rw [hm]
  dsimp only
  rw [Host.append_of_full he]
  rfl

/-- Any other file that was opened takes the metrics line, and the host only grows. --/
theorem run_writeMetrics_opened {p : Place} {e : Entry} (hm : w.metricsFile = some p)
    (he : w.host.entry? p = some e) (ho : e.opened = .ok ()) (hf : e ≠ .full) :
    (writeMetrics.run.run w).1 = .ok () ∧ w.Extends (writeMetrics.run.run w).2 := by
  unfold writeMetrics
  rw [run_bind_ok _ (run_get _)]
  dsimp only
  rw [hm]
  dsimp only
  obtain ⟨h', happ⟩ := Host.append_of_opened he ho hf ((w.metrics.report w.host.clockMs).1 ++ "\n")
  rw [happ]
  exact ⟨rfl, Host.extends_append happ, hm.symm⟩

end Metrics

/-! ### The metrics file -/

/-- The metrics file, once open, is an entry that takes writes, and appending the metrics line to
    it fails with `fault`: for lack of space on a device with none, and not at all otherwise. With
    no metrics file nothing is appended and nothing fails. --/
def MetricsFileIs (w : World) (fault : Option ToolError) : Prop :=
  match w.metricsFile with
  | none => fault = none
  | some p => ∃ e, w.host.entry? p = some e ∧ e.opened = .ok () ∧
      fault = if e = .full then some (.metrics (.write .noSpace)) else none

theorem MetricsFileIs.of_extends {w w' : World} {fault : Option ToolError} (hf : MetricsFileIs w fault)
    (he : w.Extends w') : MetricsFileIs w' fault := by
  unfold MetricsFileIs at hf ⊢
  rw [he.metricsFile]
  cases hm : w.metricsFile with
  | none => rw [hm] at hf; exact hf
  | some p =>
    rw [hm] at hf
    obtain ⟨e, hentry, ho, hfault⟩ := hf
    obtain ⟨e', hentry', hee⟩ := he.host.shape.entry_some hentry
    refine ⟨e', hentry', by rw [← Entry.opened_shape, ← hee, Entry.opened_shape, ho], ?_⟩
    rw [hfault]
    by_cases hfull : e = .full
    · rw [if_pos hfull, if_pos ((Entry.eq_full_iff_of_shape_eq hee).mp hfull)]
    · rw [if_neg hfull, if_neg (mt (Entry.eq_full_iff_of_shape_eq hee).mpr hfull)]

theorem run_writeMetrics (w : World) {fault : Option ToolError} (hf : MetricsFileIs w fault) :
    faultOf (writeMetrics.run.run w).1 = fault ∧ (fault = none → w.Extends (writeMetrics.run.run w).2) := by
  unfold MetricsFileIs at hf
  cases hm : w.metricsFile with
  | none =>
    rw [hm] at hf
    rw [run_writeMetrics_none w hm, hf]
    exact ⟨rfl, fun _ => .refl w⟩
  | some p =>
    rw [hm] at hf
    obtain ⟨e, he, ho, rfl⟩ := hf
    by_cases hfull : e = .full
    · subst hfull
      rw [run_writeMetrics_full w hm he]
      simp
    · obtain ⟨hok, hext⟩ := run_writeMetrics_opened w hm he ho hfull
      rw [hok, if_neg hfull]
      exact ⟨rfl, fun _ => hext⟩

/-- Opening the metrics file fails as it would have on a host of the same shape, and once it is
    open, the metrics line will fail exactly when the path leads there to a device with no space. --/
theorem run_openMetricsIfNamed (as : Args) (w : World) {h₀ : Host} (hs : h₀.SameShape w.host)
    (hm : w.metricsFile = none) :
    faultOf ((openMetricsIfNamed as).run.run w).1 = openFault (as.text? "metrics-path") h₀.openAppend .metricsFile ∧
    (((openMetricsIfNamed as).run.run w).1 = .ok () →
      MetricsFileIs ((openMetricsIfNamed as).run.run w).2 (writeFault h₀ (as.text? "metrics-path")) ∧
      ((openMetricsIfNamed as).run.run w).2.host.stdout = w.host.stdout) := by
  unfold openMetricsIfNamed
  cases hp : as.text? "metrics-path" with
  | none =>
    refine ⟨rfl, fun _ => ⟨?_, rfl⟩⟩
    show MetricsFileIs w none
    unfold MetricsFileIs
    rw [hm]
  | some path =>
    dsimp only
    cases ho : w.host.openAppend path with
    | error e =>
      have h0 : h₀.openAppend path = .error e := (hs.openAppend_error_iff path e).mpr ho
      rw [run_openMetrics_error w ho]
      exact ⟨by simp [h0], fun hok => by cases hok⟩
    | ok r =>
      obtain ⟨p, h₂⟩ := r
      rw [run_openMetrics_ok w ho]
      obtain ⟨e, he, heo, hfull⟩ := Host.openAppend_entry ho
      refine ⟨?_, fun _ => ⟨⟨e, he, heo, ?_⟩, Host.openAppend_stdout ho⟩⟩
      · cases h0 : h₀.openAppend path with
        | error err => rw [(hs.openAppend_error_iff path err).mp h0] at ho; cases ho
        | ok _ => simp [h0]
      · have hlead : leadsToFull h₀ path = true ↔ e = .full := by rw [leadsToFull_iff, hs.walk_full_iff, hfull]
        by_cases hf : e = .full
        · simp [writeFault, hf, hlead.mpr hf]
        · simp [writeFault, hf, mt hlead.mp hf]

/-! ### Describing and reporting -/

/-- The description step answers the description, and only logs. --/
theorem run_describe (as : Args) (w : World) :
    ((describe as).run.run w).1 = description as ∧ w.Extends ((describe as).run.run w).2 := by
  unfold describe description
  cases pageSizeOf as with
  | error e =>
    rw [run_bind_error _ (run_liftExcept _ _)]
    exact ⟨rfl, .refl w⟩
  | ok pageSize =>
    rw [run_bind_ok _ (run_liftExcept _ _)]
    cases as.text? "master" with
    | some o =>
      rw [run_configure]
      exact ⟨rfl, World.extends_logAll _ _⟩
    | none =>
      cases as.text? "client" with
      | some o =>
        rw [run_configure]
        exact ⟨rfl, World.extends_logAll _ _⟩
      | none => exact ⟨rfl, .refl w⟩

/-- The report prints the description, then the ports line, and ends as the metrics line does. --/
theorem run_report (as : Args) (tables : String) (w : World) {fault : Option ToolError} (hf : MetricsFileIs w fault) :
    faultOf ((report as tables).run.run w).1 = fault ∧
    (fault = none → ∃ ports mid post, ((report as tables).run.run w).2.host.stdout =
      w.host.stdout ++ tables ++ mid ++ portsLine ports ++ post) := by
  unfold report
  rw [run_bind_ok _ (run_print _ _), run_bind_ok _ (run_get _), run_bind_ok _ (run_narrate _ _),
    run_bind_ok _ (run_print _ _)]
  -- everything before the metrics line only logs and prints
  generalize (portsOf as (w.print tables).host).run' = found
  have hext := ((World.extends_print w tables).trans (World.extends_logAll _ found.1)).trans
    (World.extends_print _ (portsLine found.2))
  obtain ⟨hfault, hafter⟩ := run_writeMetrics _ (hf.of_extends hext)
  refine ⟨hfault, fun hnone => ?_⟩
  obtain ⟨mid, hmid⟩ := (World.extends_logAll (w.print tables) found.1).host.stdout
  obtain ⟨post, hpost⟩ := (hafter hnone).host.stdout
  refine ⟨found.2, mid, post, ?_⟩
  rw [hpost, World.print_stdout, hmid, World.print_stdout]

end Steps

/-! ### A run after its command line is read -/

/-- After its command line is read, a run ends with the fault of the first stage that has one, on
    the files as the run found them; a run with none prints the description of the configuration and
    then the ports line. --/
theorem run_work (as : Args) (w : World) (hm : w.metricsFile = none) :
    faultOf ((work as).run.run w).1 = (stages w.host as).findSome? id ∧
    (((work as).run.run w).1 = .ok () → ∃ tables ports pre mid post, description as = .ok tables ∧
      ((work as).run.run w).2.host.stdout = w.host.stdout ++ pre ++ tables ++ mid ++ portsLine ports ++ post) := by
  unfold work
  rcases hl : levelOf as with e | level
  · rw [run_bind_error _ (run_liftExcept _ _)]
    exact ⟨by simp [stages, hl], fun h => by cases h⟩
  rw [run_bind_ok _ (run_liftExcept _ _)]
  -- the logger's setup: the log file opens, and the host is as the run found it
  obtain ⟨hlog, hhost, hmf⟩ := run_setUpLogger as level w
  rcases hr : (setUpLogger as level).run.run w with ⟨e | u, w₁⟩ <;> rw [hr] at hlog hhost hmf
  · rw [run_bind_error _ hr]
    exact ⟨by simp [stages, hl, ← hlog], fun h => by cases h⟩
  have hlog' : openFault (as.text? "log-path") w.host.openExisting .loggerUpdate = none := by rw [← hlog]; rfl
  rw [run_bind_ok _ hr, run_bind_ok _ (run_say _ _)]
  -- the metrics file: the first log line keeps the shape of the host the run started with
  have hext₂ := World.extends_log w₁ (record .info ("Running " ++ banner))
  have hs₂ : w.host.SameShape (w₁.log (record .info ("Running " ++ banner))).host := hhost ▸ hext₂.host.shape
  obtain ⟨hopen, hready⟩ := run_openMetricsIfNamed as _ hs₂ (hext₂.metricsFile.trans (hmf.trans hm))
  rcases ho : (openMetricsIfNamed as).run.run (w₁.log (record .info ("Running " ++ banner))) with ⟨e | u, w₃⟩ <;>
    rw [ho] at hopen hready
  · rw [run_bind_error _ ho]
    exact ⟨by simp [stages, hl, hlog', ← hopen], fun h => by cases h⟩
  obtain ⟨hmet, hstdout₃⟩ := hready rfl
  have hopen' : openFault (as.text? "metrics-path") w.host.openAppend .metricsFile = none := by rw [← hopen]; rfl
  rw [run_bind_ok _ ho]
  -- the description only logs
  obtain ⟨hdesc, hext₄⟩ := run_describe as w₃
  rcases hd : (describe as).run.run w₃ with ⟨e | tables, w₄⟩ <;> rw [hd] at hdesc hext₄
  · rw [run_bind_error _ hd]
    exact ⟨by simp [stages, hl, hlog', hopen', ← hdesc], fun h => by cases h⟩
  rw [run_bind_ok _ hd]
  -- the report ends as the metrics line does
  obtain ⟨hrep, hout⟩ := run_report as tables w₄ (hmet.of_extends hext₄)
  refine ⟨by simp [stages, hl, hlog', hopen', ← hdesc, hrep], fun hok => ?_⟩
  rw [hok] at hrep
  obtain ⟨ports, mid, post, hstdout⟩ := hout hrep.symm
  obtain ⟨s₁, hs₁⟩ := hext₂.host.stdout
  obtain ⟨s₄, hs₄⟩ := hext₄.host.stdout
  refine ⟨tables, ports, s₁ ++ s₄, mid, post, hdesc.symm, ?_⟩
  rw [hstdout, hs₄, hstdout₃, hs₁, hhost]
  simp only [String.append_assoc]

/-! ### The command line -/

/-- The tool declares neither `help` nor `version`, and nothing is given before a parse. --/
theorem arguments_declared (a : Arg) (ha : a ∈ arguments.args) :
    a.name ≠ "help" ∧ a.name ≠ "version" ∧ a.given = none := by
  unfold arguments at ha
  have hmem := Args.mem_ofList ha
  simp only [valued, flagged, List.mem_cons, List.not_mem_nil, or_false] at hmem
  rcases hmem with rfl | rfl | rfl | rfl | rfl | rfl | rfl | rfl | rfl | rfl <;> simp

theorem find?_arguments_of_flag {n : String} (hn : n = "help" ∨ n = "version") : arguments.find? n = none := by
  cases h : arguments.find? n with
  | none => rfl
  | some a =>
    have hname := Args.name_of_find? h
    have hdecl := arguments_declared a (Args.mem_of_find? h)
    rcases hn with rfl | rfl
    · exact absurd hname hdecl.1
    · exact absurd hname hdecl.2.1

/-- A command line read whole, without `--help` or `--version`, gives neither flag. --/
theorem flags_of_scan {words : List String} {as : Args} (hh : "--help" ∉ words) (hv : "--version" ∉ words)
    (hp : arguments.parse (name :: words) = (.ok (), as)) : as.flag "help" = false ∧ as.flag "version" = false := by
  have hs : Args.Sorted arguments.args := Args.sorted_ofList _
  have hfresh : ∀ a ∈ arguments.args, a.given = none := fun a ha => (arguments_declared a ha).2.2
  cases (Args.parse_eq_iff name words hs hfresh _ _).mp hp with
  | help h => exact absurd h hh
  | version _ h => exact absurd h hv
  | accepted _ _ _ _ =>
    constructor <;>
      exact Args.flag_of_find?_none (by rw [Args.find?_withGiven, find?_arguments_of_flag (by simp)]; rfl)

/-! ### A whole run -/

/-- Words asking for help print the banner and the help, and nothing else happens. --/
theorem program_of_help (host : Host) (words : List String) (hh : "--help" ∈ words) :
    (program words).run.run { host } =
      (.ok (), ({ host } : World).print (banner ++ "\n\n" ++ (arguments.parse (name :: words)).2.help ++ "\n")) := by
  have hs : Args.Sorted arguments.args := Args.sorted_ofList _
  unfold program
  rw [Args.parse_of_help name words hh]
  dsimp only
  rw [Args.flag_declare_self hs "help", if_pos rfl, run_print]

/-- Words asking for the version and not for help print the banner, and nothing else happens. --/
theorem program_of_version (host : Host) (words : List String) (hh : "--help" ∉ words) (hv : "--version" ∈ words) :
    (program words).run.run { host } = (.ok (), ({ host } : World).print (banner ++ "\n")) := by
  have hs : Args.Sorted arguments.args := Args.sorted_ofList _
  unfold program
  rw [Args.parse_of_version name words hh hv]
  dsimp only
  rw [Args.flag_declare_of_ne hs (by simp), Args.flag_of_find?_none (find?_arguments_of_flag (.inl rfl)),
    Args.flag_declare_self hs "version", if_neg Bool.false_ne_true, if_pos rfl, run_print]

/-- A run on these words ends with the first fault, and one with none, not asked for help or the
    version, prints the description and then the ports line. --/
theorem run_program (host : Host) (words : List String) :
    faultOf ((program words).run.run { host }).1 = firstFault host words ∧
    (firstFault host words = none → "--help" ∉ words → "--version" ∉ words →
      ∃ tables ports pre mid post, description (arguments.parse (name :: words)).2 = .ok tables ∧
        ((program words).run.run { host }).2.host.stdout = host.stdout ++ pre ++ tables ++ mid ++ portsLine ports ++ post) := by
  by_cases hh : "--help" ∈ words
  · refine ⟨?_, fun _ h => absurd hh h⟩
    rw [program_of_help host words hh, faultOf_ok]
    simp [firstFault, hh]
  by_cases hv : "--version" ∈ words
  · refine ⟨?_, fun _ _ h => absurd hv h⟩
    rw [program_of_version host words hh hv, faultOf_ok]
    simp [firstFault, hv]
  unfold program
  rcases hp : arguments.parse (name :: words) with ⟨r, as⟩
  cases r with
  | error e =>
    have hfirst : firstFault host words = some (.parseArguments e) := by simp [firstFault, hh, hv, hp]
    exact ⟨by rw [hfirst]; rfl, fun h => by rw [hfirst] at h; cases h⟩
  | ok u =>
    obtain ⟨hhelp, hversion⟩ := flags_of_scan hh hv hp
    dsimp only
    rw [hhelp, hversion]
    obtain ⟨hwork, hout⟩ := run_work as { host } rfl
    have hfirst : firstFault host words = (stages host as).findSome? id := by simp [firstFault, hh, hv, hp]
    refine ⟨hwork.trans hfirst.symm, fun hnone _ _ => hout (faultOf_eq_none.mp (hwork.trans (hfirst.symm.trans hnone)))⟩

theorem exec_exitCode (host : Host) (words : List String) :
    (exec host words).exitCode = (faultOf ((program words).run.run { host }).1).elim 0 ToolError.exitCode := by
  unfold exec
  generalize (program words).run.run { host } = out
  obtain ⟨r, w⟩ := out
  cases r <;> rfl

theorem exec_stderr (host : Host) (words : List String) {e : ToolError}
    (h : ((program words).run.run { host }).1 = .error e) :
    ∃ before, (exec host words).world.host.stderr = before ++ ("Error: " ++ e.message ++ "\n") := by
  unfold exec
  generalize (program words).run.run { host } = out at h
  obtain ⟨r, w⟩ := out
  cases h
  exact ⟨(w.log (record .error e.message)).host.stderr, rfl⟩

theorem exec_world (host : Host) (words : List String) (h : ((program words).run.run { host }).1 = .ok ()) :
    (exec host words).world = ((program words).run.run { host }).2 := by
  unfold exec
  generalize (program words).run.run { host } = out at h
  obtain ⟨r, w⟩ := out
  cases h
  rfl

theorem exec_of_help (host : Host) (words : List String) (hh : "--help" ∈ words) :
    (exec host words).world.host =
      host.emit .stdout (banner ++ "\n\n" ++ (arguments.parse (name :: words)).2.help ++ "\n") := by
  rw [exec_world host words (by rw [program_of_help host words hh]), program_of_help host words hh]
  rfl

theorem exec_of_version (host : Host) (words : List String) (hh : "--help" ∉ words) (hv : "--version" ∈ words) :
    (exec host words).world.host = host.emit .stdout (banner ++ "\n") := by
  rw [exec_world host words (by rw [program_of_version host words hh hv]), program_of_version host words hh hv]
  rfl

/-- The exit status of a run is set by the first stage with a fault: asking for help or the version
    ends the run well whatever else the words hold, after printing the banner and the help, or the
    banner, and nothing else; otherwise a command line that cannot be read,
    then the level, the log file, the metrics file, the page size, the role, the configuration, and
    last the metrics line, which a device with no space refuses after the description and the ports
    line were printed. Every fault is written to standard error after `Error: `, and a run with none
    prints the description of its configuration and then the ports line. --/
theorem exit_status_by_stage (host : Host) (words : List String) :
    (exec host words).exitCode = (firstFault host words).elim 0 ToolError.exitCode ∧
    ("--help" ∈ words → (exec host words).world.host =
      host.emit .stdout (banner ++ "\n\n" ++ (arguments.parse (name :: words)).2.help ++ "\n")) ∧
    ("--help" ∉ words → "--version" ∈ words → (exec host words).world.host = host.emit .stdout (banner ++ "\n")) ∧
    (∀ e, firstFault host words = some e →
      ∃ before, (exec host words).world.host.stderr = before ++ ("Error: " ++ e.message ++ "\n")) ∧
    (firstFault host words = none → "--help" ∉ words → "--version" ∉ words →
      ∃ tables ports pre mid post, description (arguments.parse (name :: words)).2 = .ok tables ∧
        (exec host words).world.host.stdout = host.stdout ++ pre ++ tables ++ mid ++ portsLine ports ++ post) := by
  obtain ⟨hfault, hout⟩ := run_program host words
  refine ⟨by rw [exec_exitCode, hfault], exec_of_help host words, exec_of_version host words,
    fun e he => exec_stderr host words (faultOf_eq_some.mp (hfault.trans he)), ?_⟩
  intro hnone hh hv
  obtain ⟨tables, ports, pre, mid, post, hdesc, hstdout⟩ := hout hnone hh hv
  refine ⟨tables, ports, pre, mid, post, hdesc, ?_⟩
  rw [exec_world host words (faultOf_eq_none.mp (hfault.trans hnone)), hstdout]

/-- A host whose `/dev/full` refuses every write. --/
def fullDeviceHost : Host :=
  { home := none, entries := [(["dev"], .directory), (["dev", "full"], .full)], time := "T", origin := id, clockMs := 0 }

/-- A master's command line with a valid configuration whose counters go to `/dev/full`. --/
def fullMetricsWords : List String :=
  ["--master", "dsmid=1,vminfo=1:10.0.0.1:4444:4445#2:10.0.0.2:4444:4445,mr=1:8192:2", "--metrics-path", "/dev/full",
    "--level", "info"]

/-- Such a run passes every stage up to its description, and still ends with status 1. --/
theorem full_metrics_device_fails_run :
    faultOf (description (arguments.parse (name :: fullMetricsWords)).2) = none ∧
    (exec fullDeviceHost fullMetricsWords).exitCode = 1 := by
  have hwalk : fullDeviceHost.walk "/dev/full" = .ok (.found ["dev", "full"] .full) := by
    have hnames : Host.pathNames "/dev/full" = ["", "dev", "full"] := by decide +kernel
    have hsize : "/dev/full".utf8ByteSize = 9 := by decide +kernel
    have hdev : "dev".utf8ByteSize = 3 := by decide +kernel
    have hfull : "full".utf8ByteSize = 4 := by decide +kernel
    simp [Host.walk, hnames, hsize, hdev, hfull, Host.walkFrom, fullDeviceHost, Host.entry?, Host.pathMax,
      Host.nameMax, Entry.isDirectory]
  -- the words read whole into a valid level, no log file, the metrics file and a valid description
  have hok : (arguments.parse (name :: fullMetricsWords)).1 = .ok () := by decide +kernel
  have hlevel : faultOf (levelOf (arguments.parse (name :: fullMetricsWords)).2) = none := by decide +kernel
  have hlog : (arguments.parse (name :: fullMetricsWords)).2.text? "log-path" = none := by decide +kernel
  have hmetrics : (arguments.parse (name :: fullMetricsWords)).2.text? "metrics-path" = some "/dev/full" := by
    decide +kernel
  have hdesc : faultOf (description (arguments.parse (name :: fullMetricsWords)).2) = none := by decide +kernel
  have hfirst : firstFault fullDeviceHost fullMetricsWords = some (.metrics (.write .noSpace)) := by
    have hh : ¬("--help" ∈ fullMetricsWords ∨ "--version" ∈ fullMetricsWords) := by simp [fullMetricsWords]
    unfold firstFault
    rw [if_neg hh]
    rcases hp : arguments.parse (name :: fullMetricsWords) with ⟨r, as⟩
    rw [hp] at hok hlevel hlog hmetrics hdesc
    subst hok
    simp [stages, hlevel, hlog, hmetrics, hdesc, Host.openAppend, hwalk, writeFault, leadsToFull, Entry.opened]
  refine ⟨hdesc, ?_⟩
  rw [exec_exitCode, (run_program fullDeviceHost fullMetricsWords).1, hfirst]
  rfl

end Tool
end LiveMigration
