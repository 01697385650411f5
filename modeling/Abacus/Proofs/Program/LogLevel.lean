import Abacus.Program.Run

/-!
# The level of the log

The filter of a level is the one that its directive reads as (`Log.Filter.read?_ofLevel`), and it
shows the events of that severity or more (`Log.Filter.shows_ofLevel`). A command is executed
without a look at the level (`execution_atLevel`), so two runs that are configured with different
levels differ in the lines of their logs alone, and the log of the higher level is part of the log
of the lower one: `run_level`. Every command can be run at every level (`configures_written`).
-/

namespace Abacus

/-! ## Filters of levels -/

namespace Log.Filter

/-- The text of a directive for the program's own events. -/
theorem read?_ofLevel (level : Level) :
    read? ("calcledger=".toList ++ level.text) = some (ofLevel level) := by
  cases level <;> decide +kernel

/-- All events come from the program itself, so their severity decides. -/
theorem shows_ofLevel (level : Level) (event : Event) :
    (ofLevel level).shows event = decide (level.severity ≤ event.level.severity) := by
  cases event <;> rfl

theorem shows_ofLevel_trace (event : Event) : (ofLevel .trace).shows event = true := by
  rw [shows_ofLevel]
  exact decide_eq_true (Nat.zero_le _)

/-- What a level shows is part of what a lower level shows. -/
theorem filter_ofLevel {lower level : Level} (h : lower.severity ≤ level.severity)
    (events : List Event) :
    events.filter (ofLevel level).shows = (events.filter (ofLevel lower).shows).filter
      fun event => level.severity ≤ event.level.severity := by
  rw [List.filter_filter]
  refine List.filter_congr fun event _ => ?_
  rw [shows_ofLevel, shows_ofLevel, eq_comm, Bool.and_eq_left_iff_imp]
  exact fun hlevel => decide_eq_true (Nat.le_trans h (of_decide_eq_true hlevel))

end Log.Filter

/-! ## Runs -/

namespace Program

/-- The same settings with another level. -/
def Settings.atLevel (settings : Settings) (level : Log.Level) : Settings :=
  ⟨settings.command, ⟨settings.config.basePath, level⟩⟩

/-- What the command of an invocation is given. -/
def Invocation.request (invocation : Invocation) : Request :=
  ⟨invocation.input, invocation.ending, invocation.room, invocation.tree, invocation.now⟩

/-- An invocation asks for settings, and its environment names no filter. -/
structure Invocation.Configures (invocation : Invocation) (settings : Settings) : Prop where
  settings : readArguments invocation.arguments invocation.environment = .ok settings
  logFilter : invocation.environment.logFilter = none

/-! ## Every setting can be asked for -/

/-- An invocation that writes all settings out, with nothing in its environment. -/
def Invocation.written (settings : Settings) (request : Request) : Invocation :=
  ⟨["--base-path=".toList ++ settings.config.basePath,
      "--log-level=".toList ++ settings.config.level.text, "--".toList, settings.command],
    ⟨none, none, none⟩, request.input, request.ending, request.room, request.tree, request.now⟩

theorem take_basePath {base : Text} (h : base ≠ []) :
    Reading.start.take ("--base-path=".toList ++ base) =
      .ok ⟨⟨some base, none, none⟩, .nothing, false, false⟩ := by
  have hoption : Reading.start.take ("--base-path=".toList ++ base) =
      Reading.start.takeOption .basePath (some base) := rfl
  rw [hoption]
  simp [Reading.takeOption, Reading.settle, Reading.start, Reading.hold, Choices.set, Choices.has,
    Choices.blank, Choices.assign, h]

theorem take_logLevel (base : Option Text) (level : Log.Level) :
    (⟨⟨base, none, none⟩, .nothing, false, false⟩ : Reading).take
        ("--log-level=".toList ++ level.text) =
      .ok ⟨⟨base, some level, none⟩, .nothing, false, false⟩ := by
  cases level <;> rfl

/-- Any command can be asked for, under any base path that is not empty, at any level. -/
theorem configures_written {settings : Settings} (h : settings.config.basePath ≠ [])
    (request : Request) : (Invocation.written settings request).Configures settings := by
  refine ⟨?_, rfl⟩
  rw [Invocation.written, readArguments, Reading.takeAll, take_basePath h]
  simp only
  rw [Reading.takeAll, take_logLevel]
  rfl

/-! ## Runs at two levels -/

/-- The events that the log of an invocation shows, in their order. -/
def shownEvents (invocation : Invocation) : List Log.Event :=
  match readArguments invocation.arguments invocation.environment with
  | .ok settings =>
    (execution settings invocation).events.filter (filterOf settings invocation.environment).shows
  | .error _ => []

/-- Events as the lines of a log. -/
def logLines (events : List Log.Event) : Text :=
  events.flatMap fun event => event.line ++ ['\n']

/-- What stands behind the log of an execution. -/
def failureReport : Except CommandError Unit → Text
  | .ok () => []
  | .error error => errorReport error

/-- The exit code of an execution. -/
def exitCode : Except CommandError Unit → Nat
  | .ok () => 0
  | .error _ => 1

/-- Nothing that is executed depends on the level. -/
theorem execution_atLevel (settings : Settings) (level : Log.Level) (invocation : Invocation) :
    execution (settings.atLevel level) invocation = execution settings invocation :=
  rfl

theorem execution_congr (settings : Settings) {first second : Invocation}
    (h : first.request = second.request) : execution settings first = execution settings second :=
  congrArg ((Registry.builtIn settings.config).execute settings.command) h

variable {invocation first second : Invocation} {settings : Settings} {level lower : Log.Level}

theorem shownEvents_eq (h : invocation.Configures (settings.atLevel level)) :
    shownEvents invocation =
      (execution settings invocation).events.filter (Log.Filter.ofLevel level).shows := by
  rw [shownEvents, h.settings]
  simp only [execution_atLevel, filterOf, h.logFilter]
  rfl

/-- A run is the execution that its settings ask for, with the log in front of the report. -/
theorem run_eq (h : invocation.Configures (settings.atLevel level)) :
    let done := execution settings invocation
    run invocation = ⟨exitCode done.result, done.output,
      logLines (shownEvents invocation) ++ failureReport done.result, done.tree⟩ := by
  intro done
  have hlog : logText (filterOf (settings.atLevel level) invocation.environment) done.events =
      logLines (shownEvents invocation) := by
    rw [shownEvents_eq h, filterOf, h.logFilter]
    rfl
  rw [run, h.settings]
  simp only [runWith, execution_atLevel]
  rw [hlog]
  cases hresult : done.result with
  | ok value =>
    rw [failureReport, List.append_nil]
    rfl
  | error error => rfl

/-- The level that is configured filters the log and does nothing else. Two invocations of the same
settings but for the level, with the same input, output, tree and moment, and without a filter in
their environments, have runs such as these.
1. They put out the same, leave the same tree and have the same exit code.
2. Their error streams are the lines of the events that they show, and behind them the same report.
3. The events that the higher level shows are those of its severity or more among the events that
   the lower one shows, in the same order.
4. If the lower level is the lowest of all, all events are shown. -/
theorem run_level (hrequest : first.request = second.request)
    (hfirst : first.Configures (settings.atLevel level))
    (hsecond : second.Configures (settings.atLevel lower)) :
    ((run first).output = (run second).output ∧ (run first).tree = (run second).tree ∧
        (run first).exit = (run second).exit) ∧
      (∃ report, (run first).errorText = logLines (shownEvents first) ++ report ∧
        (run second).errorText = logLines (shownEvents second) ++ report) ∧
      (lower.severity ≤ level.severity → shownEvents first =
        (shownEvents second).filter fun event => level.severity ≤ event.level.severity) ∧
      (lower = .trace → shownEvents second = (execution settings second).events) := by
  -- Both runs are made of one execution, whose events they filter.
  have hexecution := execution_congr settings hrequest
  rw [run_eq hfirst, run_eq hsecond, hexecution]
  refine ⟨⟨rfl, rfl, rfl⟩, ⟨_, rfl, rfl⟩, fun hlevels => ?_, ?_⟩
  · rw [shownEvents_eq hfirst, shownEvents_eq hsecond, hexecution]
    exact Log.Filter.filter_ofLevel hlevels _
  · rintro rfl
    rw [shownEvents_eq hsecond, List.filter_eq_self]
    exact fun event _ => Log.Filter.shows_ofLevel_trace event

/-- A level in the arguments and another one in the environment. -/
theorem run_level_environment :
    let request : Request :=
      ⟨Utf8.encode "1 / 0\n2 * 3\n".toList, .finished, .unlimited, .new ["home".toList],
        ⟨⟨2024, 2, 29, 23, 59, 8, 0⟩, by decide⟩⟩
    let settings : Settings := ⟨"calculator".toList, ⟨"out".toList, .error⟩⟩
    let first := Invocation.written settings request
    let second : Invocation := { first with
      arguments := ["calculator".toList]
      environment := ⟨some "out".toList, some "TRACE".toList, none⟩ }
    (run first).output = (run second).output ∧ (run first).exit = (run second).exit ∧
      (shownEvents first).map Log.Event.level = [.error, .error] ∧
      (shownEvents second).map Log.Event.level =
        [.info, .error, .error, .debug, .debug, .info] := by
  intro request settings first second
  have hfirst : first.Configures (settings.atLevel .error) := configures_written (by decide) request
  have hsecond : second.Configures (settings.atLevel .trace) := ⟨rfl, rfl⟩
  have hrequest : first.request = second.request := rfl
  obtain ⟨⟨houtput, -, hexit⟩, -, hshown, -⟩ := run_level hrequest hfirst hsecond
  have hlevels : (shownEvents second).map Log.Event.level =
      [.info, .error, .error, .debug, .debug, .info] := by
    decide +kernel
  refine ⟨houtput, hexit, ?_, hlevels⟩
  have hfirstLevels : (shownEvents first).map Log.Event.level =
      ((shownEvents second).map Log.Event.level).filter fun level =>
        Log.Level.severity .error ≤ level.severity := by
    rw [hshown (by decide), List.filter_map]
    rfl
  rw [hfirstLevels, hlevels]
  decide

end Program

end Abacus
