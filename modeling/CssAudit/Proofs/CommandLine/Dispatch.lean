import CssAudit.CommandLine.Program

/-!
# What a run comes to

A run stops early, for reasons that do not depend on what there is to read, or it runs the
command that its arguments invoke.  A run that stops early is broken off, or it does not end
with the exit code of a source that fails.
-/

namespace CssAudit

namespace CommandLine

/-- Whether a run does not end with the exit code of a source that fails.  A run that is
broken off has no outcome and is left out here: the program ends it with that exit code
too. -/
def Unfailing (ending : Run Outcome) : Prop :=
  ∀ outcome, outcomeOf ending = .ok outcome → outcome.exitCode ≠ 1

theorem unfailing_usage (cause : UsageError) : Unfailing (.error (.usage cause)) := by
  intro outcome ended
  obtain rfl := Except.ok.inj ended
  exact Nat.succ_ne_self 1

theorem unfailing_overview (lines : List Text) : Unfailing (.error (.overview lines)) := by
  intro outcome ended
  obtain rfl := Except.ok.inj ended
  exact Nat.succ_ne_self 1

theorem unfailing_breakdown (cause : Breakdown) : Unfailing (.error (.breakdown cause)) := by
  intro outcome ended
  exact absurd ended (by simp [outcomeOf])

theorem unfailing_lines (lines : List Text) : Unfailing (.ok (.ofLines true lines)) := by
  intro outcome ended
  obtain rfl := Except.ok.inj ended
  exact Nat.zero_ne_one

theorem unfailing_of_checkLogLevel {settings : Settings} {option : Option Text} {stop : Stop}
    (stopped : checkLogLevel settings option = .error stop) : Unfailing (.error stop) := by
  rw [checkLogLevel] at stopped
  split at stopped
  · exact absurd stopped (by simp)
  · obtain rfl := Except.error.inj stopped
    apply unfailing_breakdown

/-- What a program may do in the worlds with an environment: it stops early, in the same way
in all of them and without failing, or it runs a command. -/
inductive Dispatches (environment : Environment) (chosen : Command → Settings → Arguments → Prop)
    (program : World → Run Outcome) : Prop where
  | stops (ending : Run Outcome) (unfailing : Unfailing ending)
      (same : ∀ world, world.environment = environment → program world = ending)
  | runs (command : Command) (settings : Settings) (own : Arguments)
      (choice : chosen command settings own)
      (same : ∀ world, world.environment = environment →
        program world = command.run world settings own)

section Dispatching

variable {environment : Environment} {chosen : Command → Settings → Arguments → Prop}
  {program other : World → Run Outcome}

theorem Dispatches.congr (dispatches : Dispatches environment chosen other)
    (agree : ∀ world, world.environment = environment → program world = other world) :
    Dispatches environment chosen program := by
  cases dispatches with
  | stops ending unfailing same =>
      exact .stops ending unfailing fun world here => (agree world here).trans (same world here)
  | runs command settings own choice same =>
      exact .runs command settings own choice
        fun world here => (agree world here).trans (same world here)

theorem dispatches_usage (cause : UsageError) :
    Dispatches environment chosen fun _ => .error (.usage cause) :=
  .stops _ (unfailing_usage cause) fun _ _ => rfl

/-- Usage errors stop a program early, so it is enough to look at what follows them. -/
theorem dispatches_bind {α : Type} {result : Except UsageError α}
    {next : World → α → Run Outcome}
    (follows : ∀ value, result = .ok value →
      Dispatches environment chosen fun world => next world value) :
    Dispatches environment chosen fun world => Run.ofUsage result >>= next world := by
  cases result with
  | error cause => exact dispatches_usage cause
  | ok value => exact follows value rfl

end Dispatching

theorem dispatches_startCommand {environment : Environment} (logLevel : Option Text)
    {command : Command} {rest : List Text} {chosen : Command → Settings → Arguments → Prop}
    (choice : ∀ settings own, Settings.ofEnvironment environment = .ok settings →
      Arguments.parse command.flags true rest = .ok own → own.has "--help" = false →
      chosen command settings own) :
    Dispatches environment chosen fun world => startCommand world logLevel command rest := by
  cases settings_eq : Settings.ofEnvironment environment with
  | error cause =>
      apply (dispatches_usage (.settings cause)).congr
      intro world here
      rw [startCommand, here, settings_eq]
      rfl
  | ok settings =>
      have configured : Dispatches environment chosen fun world => (do
          checkLogLevel settings logLevel
          let own ← Run.ofUsage (Arguments.parse command.flags true rest)
          if own.has "--help" then .ok (.ofLines true command.helpLines)
          else command.run world settings own) := by
        cases level : checkLogLevel settings logLevel with
        | error stop => exact .stops _ (unfailing_of_checkLogLevel level) fun _ _ => rfl
        | ok =>
            apply dispatches_bind
            intro own own_eq
            cases help : own.has "--help" with
            | true => exact .stops _ (unfailing_lines command.helpLines) fun _ _ => rfl
            | false =>
                exact .runs command settings own (choice settings own settings_eq own_eq help)
                  fun _ _ => rfl
      apply configured.congr
      intro world here
      rw [startCommand, here, settings_eq]
      rfl

/-- Whether arguments invoke a command with arguments of its own, and not only ask for
information or help. -/
def Invokes (arguments : List Text) (command : Command) (own : Arguments) : Prop :=
  ∃ parsed, Arguments.parse programFlags false arguments = .ok parsed ∧
    information? parsed = none ∧ parsed.positional.head?.bind command? = some command ∧
    Arguments.parse command.flags true parsed.positional.tail = .ok own ∧
    own.has "--help" = false

theorem Invokes.source?_eq {arguments : List Text} {command : Command} {own : Arguments}
    (invokes : Invokes arguments command own) (reads : command.readsSource = true) :
    source? arguments = some own.source := by
  obtain ⟨parsed, parsed_eq, uninformed, named, own_eq, unhelped⟩ := invokes
  simp [source?, parsed_eq, uninformed, named, own_eq, unhelped, reads, Except.toOption]

/-- A run runs the command that its arguments invoke, unless it stops before. -/
theorem dispatches_start (environment : Environment) (arguments : List Text) :
    Dispatches environment
      (fun command settings own => Invokes arguments command own ∧
        Settings.ofEnvironment environment = .ok settings)
      fun world => start world arguments := by
  by_cases empty : arguments.isEmpty
  · simp only [start, if_pos empty]
    exact .stops _ (unfailing_overview overview) fun _ _ => rfl
  simp only [start, if_neg empty]
  apply dispatches_bind
  intro parsed parsed_eq
  cases informed : information? parsed with
  | some lines => exact .stops _ (unfailing_lines lines) fun _ _ => rfl
  | none =>
      apply dispatches_bind
      intro logLevel _
      cases positional : parsed.positional with
      | nil => apply dispatches_usage
      | cons name rest =>
          cases named : command? name with
          | none =>
              simp only [named]
              apply dispatches_usage
          | some command =>
              simp only [named]
              apply dispatches_startCommand
              intro settings own settings_eq own_eq unhelped
              refine ⟨⟨parsed, parsed_eq, informed, ?_, ?_, unhelped⟩, settings_eq⟩
              · rw [positional]
                exact named
              · rwa [positional]

end CommandLine

end CssAudit
