import CssAudit.Proofs.CommandLine.Dispatch
import CssAudit.Proofs.Stylesheet.Blocks
import CssAudit.Proofs.Stylesheet.Comments

/-!
# Comments in what is checked

The command that checks a source tells declaration blocks and style sheets apart by the
opening braces in the source, those in comments included.  A comment without such a brace
changes nothing.  One with such a brace makes a style sheet without rules of the
declarations around it, and whatever they are, no run fails them.
-/

namespace CssAudit

namespace CommandLine

open Stylesheet (OpensComment IsClosed Unbraced commentOf parseDeclarations)

section Compliance

theorem holdsDeclarations_of_not_mem {source : Text} (absent : '{' ∉ source) :
    holdsDeclarations source = true := by
  have trimmed : '{' ∉ Text.trim source := fun member =>
    absent ((Text.trim_sublist source).subset member)
  simp [holdsDeclarations, trimmed]

theorem loadDeclarations_of_not_mem {source : Text} (absent : '{' ∉ source) :
    loadDeclarations (Text.trim source) =
      .ok (.ofTexts (parseDeclarations (Text.trim source))) := by
  have unopened : (Text.trim source).head? ≠ some '{' := fun first =>
    absent ((Text.trim_sublist source).subset (List.mem_of_mem_head? first))
  rw [loadDeclarations, Text.trim_trim, if_neg unopened]

/-- Without an opening brace only the declarations of a source count. -/
theorem complianceOf_congr {first second : Text} (first_absent : '{' ∉ first)
    (second_absent : '{' ∉ second)
    (same : parseDeclarations (Text.trim first) = parseDeclarations (Text.trim second))
    (context : Context) : complianceOf first context = complianceOf second context := by
  rw [complianceOf, complianceOf, holdsDeclarations_of_not_mem first_absent,
    holdsDeclarations_of_not_mem second_absent, loadDeclarations_of_not_mem first_absent,
    loadDeclarations_of_not_mem second_absent, same]
  rfl

theorem complianceOf_of_no_rules {source : Text} (sheet : holdsDeclarations source = false)
    (empty : (Stylesheet.parse source).rules = []) (context : Context) :
    complianceOf source context = .ok (.ok ⟨[]⟩) := by
  have clean : Check.stylesheet source context = .ok ⟨[]⟩ := by
    have shape : Stylesheet.parse source = ⟨[]⟩ := by
      rw [← empty]
    rw [Check.stylesheet, shape]
    rfl
  rw [complianceOf, sheet, clean]
  rfl

variable {before after content : Text}

theorem parseDeclarations_around (unopened : ¬ OpensComment (before ++ after))
    (unclosed : ¬ IsClosed content) :
    parseDeclarations (Text.trim (before ++ (commentOf content ++ after))) =
      parseDeclarations (Text.trim (before ++ after)) := by
  have pads := Text.pads_between before [] after
  rw [List.nil_append, List.nil_append] at pads
  have inner_unopened : ¬ OpensComment (Text.trimStart before ++ Text.trimEnd after) :=
    fun opened => unopened (opened.trans pads.isInfix)
  have trimmed_unopened : ¬ OpensComment (Text.trim (before ++ after)) :=
    fun opened => unopened (opened.trans (Text.pads_trim _).isInfix)
  rw [parseDeclarations, parseDeclarations, Stylesheet.trim_around,
    Stylesheet.stripComments_around inner_unopened unclosed, ← pads.trim_eq,
    Stylesheet.stripComments_eq_self trimmed_unopened, Text.trim_trim]

theorem mem_around {c : Char} (unmarked : c ∉ ['/', '*']) :
    c ∈ before ++ (commentOf content ++ after) ↔ c ∈ before ++ after ∨ c ∈ content := by
  simp only [List.mem_cons, List.not_mem_nil, or_false, not_or] at unmarked
  simp only [commentOf, List.mem_append, List.mem_cons, List.not_mem_nil, unmarked.1,
    unmarked.2, or_false, false_or]
  tauto

theorem holdsDeclarations_around (unbraced : Unbraced (before ++ after))
    (braced : '{' ∈ content) :
    holdsDeclarations (before ++ (commentOf content ++ after)) = false := by
  have member : '{' ∈ Text.trim (before ++ (commentOf content ++ after)) :=
    (Text.mem_trim (by decide)).mpr ((mem_around (by decide)).mpr (.inr braced))
  have start : (Text.trim (before ++ (commentOf content ++ after))).head? ≠ some '{' := by
    rw [Stylesheet.trim_around]
    cases started : Text.trimStart before with
    | nil => simp [commentOf]
    | cons c rest =>
        intro first
        obtain rfl : c = '{' := by simpa using first
        have front : '{' ∈ before :=
          (Text.trimStart_sublist before).subset (by simp [started])
        exact unbraced.1 (List.mem_append_left after front)
  simp [holdsDeclarations, start, member]

/-- A comment leaves the compliance of declarations as it is, or leaves no issue of it. -/
theorem complianceOf_around (unbraced : Unbraced (before ++ after))
    (unopened : ¬ OpensComment (before ++ after)) (unclosed : ¬ IsClosed content)
    (context : Context) :
    complianceOf (before ++ (commentOf content ++ after)) context =
      if '{' ∈ content then .ok (.ok ⟨[]⟩) else complianceOf (before ++ after) context := by
  split
  · rename_i braced
    -- The brace is still there when the source is told apart, but not when rules are read.
    apply complianceOf_of_no_rules (holdsDeclarations_around unbraced braced)
    rw [Stylesheet.parse, Stylesheet.stripComments_around unopened unclosed,
      Stylesheet.chunks_of_unbraced unbraced]
    rfl
  · rename_i unbraced_content
    apply complianceOf_congr _ unbraced.1 (parseDeclarations_around unopened unclosed)
    rw [mem_around (by decide), not_or]
    exact ⟨unbraced.1, unbraced_content⟩

theorem complianceOf_comment (unclosed : ¬ IsClosed content) (braced : '{' ∈ content)
    (context : Context) : complianceOf (commentOf content) context = .ok (.ok ⟨[]⟩) := by
  have unbraced : Unbraced ([] ++ []) := by decide
  have unopened : ¬ OpensComment ([] ++ []) := by decide
  have around := complianceOf_around unbraced unopened unclosed context
  simpa [braced] using around

end Compliance

section Checks

/-- The outcome of a check with its compliance, or with the result of declarations that do
not pass the gate. -/
def checkOutcome (own : Arguments) : Except Gate.Result Compliance → Outcome
  | .error result =>
      .ofLines false
        (if own.has "--json" then jsonLines (("success", .bool false) :: result.summary)
          else result.rejections.map rejectionLine)
  | .ok report =>
      .ofLines report.passes
        (if own.has "--json" then
          jsonLines [("success", .bool true), ("result", report.toDatum)]
        else
          complianceLines report)

theorem check_of_readSource {world : World} {settings : Settings} {own : Arguments} {text : Text}
    (read : readSource world settings own = .ok text) :
    check world settings own = (complianceOf text (contextOf own)).map (checkOutcome own) := by
  rw [check, read]
  change complianceOf text (contextOf own) >>= _ = _
  cases complianceOf text (contextOf own) with
  | error stop => rfl
  | ok found => cases found <;> rfl

theorem check_of_stopped {world : World} {settings : Settings} {own : Arguments} {stop : Stop}
    (stopped : readSource world settings own = .error stop) :
    check world settings own = .error stop := by
  rw [check, stopped]
  rfl

/-- A comment in declarations changes what a check comes to exactly if it has an opening brace
in it and the declarations are not checked as the comment alone is, whatever the settings and
the options of the check.  With such a brace no declarations fail. -/
theorem check_comment_iff {settings : Settings} {own : Arguments} {plain commented bare : World}
    {before content after : Text}
    (plain_read : readSource plain settings own = .ok (before ++ after))
    (commented_read : readSource commented settings own =
      .ok (before ++ (commentOf content ++ after)))
    (bare_read : readSource bare settings own = .ok (commentOf content))
    (unbraced : Unbraced (before ++ after)) (unopened : ¬ OpensComment (before ++ after))
    (unclosed : ¬ IsClosed content) :
    (outcomeOf (check commented settings own) = outcomeOf (check plain settings own) ↔
        ('{' ∈ content →
          outcomeOf (check plain settings own) = outcomeOf (check bare settings own))) ∧
      ('{' ∈ content → Unfailing (check commented settings own)) := by
  rw [check_of_readSource plain_read, check_of_readSource commented_read,
    check_of_readSource bare_read, complianceOf_around unbraced unopened unclosed]
  by_cases braced : '{' ∈ content
  · rw [if_pos braced, complianceOf_comment unclosed braced]
    constructor
    · rw [eq_comm]
      exact ⟨fun same _ => same, fun same => same braced⟩
    · intro _
      apply unfailing_lines
  · rw [if_neg braced]
    simp [braced]

end Checks

section Runs

variable {arguments : List Text}

/-- A world that supplies a text has it at the source that arguments name, and its settings
allow a text of that size. -/
structure World.Supplies (world : World) (arguments : List Text) (text : Text) : Prop where
  read : ∀ source, source? arguments = some source → world.read source = .ok text
  fits : ∀ settings, Settings.ofEnvironment world.environment = .ok settings →
    Text.byteCount text ≤ settings.maxCssBytes

theorem World.Supplies.readSource_eq {world : World} {text : Text}
    (supplies : world.Supplies arguments text) {settings : Settings}
    (settings_eq : Settings.ofEnvironment world.environment = .ok settings) {own : Arguments}
    (named : source? arguments = some own.source) :
    readSource world settings own = (Run.ofUsage (own.atMost 1)).map fun _ => text := by
  have within : withinLimit settings text = .ok text := by
    rw [withinLimit, if_neg (Int.not_lt.mpr (supplies.fits settings settings_eq))]
  rw [readSource, supplies.read own.source named]
  cases own.atMost 1 with
  | error cause => rfl
  | ok => exact within

/-- Whether arguments ask for the command that checks a source. -/
def AsksForCheck (arguments : List Text) : Prop :=
  ∃ parsed, Arguments.parse programFlags false arguments = .ok parsed ∧
    parsed.positional.head? = some "check".toList

theorem AsksForCheck.command_eq (asks : AsksForCheck arguments) {command : Command}
    {own : Arguments} (invokes : Invokes arguments command own) :
    command.readsSource = true ∧ command.run = check := by
  obtain ⟨parsed, parsed_eq, first⟩ := asks
  obtain ⟨other, other_eq, -, named, -, -⟩ := invokes
  obtain rfl : parsed = other := Except.ok.inj (parsed_eq.symm.trans other_eq)
  have found : commands.head? = some command := by
    rw [first] at named
    exact named
  obtain rfl := Option.some.inj found
  exact ⟨rfl, rfl⟩

/-- A comment in declarations changes what a run of the check does exactly if it has an
opening brace in it and the declarations are not checked as the comment alone is.  With such a
brace no run fails the declarations; a run that is broken off is left out of this. -/
theorem run_comment_iff (asks : AsksForCheck arguments) {plain commented bare : World}
    (commented_environment : commented.environment = plain.environment)
    (bare_environment : bare.environment = plain.environment)
    {before content after : Text} (plain_supplies : plain.Supplies arguments (before ++ after))
    (commented_supplies : commented.Supplies arguments
      (before ++ (commentOf content ++ after)))
    (bare_supplies : bare.Supplies arguments (commentOf content))
    (unbraced : Unbraced (before ++ after)) (unopened : ¬ OpensComment (before ++ after))
    (unclosed : ¬ IsClosed content) :
    (run commented arguments = run plain arguments ↔
        ('{' ∈ content → run plain arguments = run bare arguments)) ∧
      ('{' ∈ content → Unfailing (start commented arguments)) := by
  cases dispatches_start plain.environment arguments with
  | stops ending unfailing ends =>
      rw [run, run, run, ends plain rfl, ends commented commented_environment,
        ends bare bare_environment]
      exact ⟨by simp, fun _ => unfailing⟩
  | runs command settings own choice runs =>
      obtain ⟨invokes, settings_eq⟩ := choice
      obtain ⟨reads, checks⟩ := asks.command_eq invokes
      have named := invokes.source?_eq reads
      have plain_read := plain_supplies.readSource_eq settings_eq named
      have commented_read :=
        commented_supplies.readSource_eq (commented_environment ▸ settings_eq) named
      have bare_read := bare_supplies.readSource_eq (bare_environment ▸ settings_eq) named
      rw [run, run, run, runs plain rfl, runs commented commented_environment,
        runs bare bare_environment, checks]
      cases few : own.atMost 1 with
      | ok =>
          rw [few] at plain_read commented_read bare_read
          exact check_comment_iff plain_read commented_read bare_read unbraced unopened unclosed
      | error cause =>
          rw [few] at plain_read commented_read bare_read
          rw [check_of_stopped plain_read, check_of_stopped commented_read,
            check_of_stopped bare_read]
          exact ⟨by simp, fun _ => unfailing_usage cause⟩

/-- A misspelled property fails a check, but not with an opening brace in a comment. -/
theorem run_comment_iff_on_misspelled_property :
    let arguments := ["check".toList]
    let before := "widht: ".toList
    let after := "1px".toList
    let plain : World := { standardInput := before ++ after }
    let commented : World := { standardInput := before ++ (commentOf " \x7b ".toList ++ after) }
    run plain arguments = .ok
        { exitCode := 1
          output := "ERROR [property_not_allowed]: Property not allowed: widht\n".toList } ∧
      run commented arguments ≠ run plain arguments := by
  intro arguments before after plain commented
  let bare : World := { standardInput := commentOf " \x7b ".toList }
  have settings_eq : Settings.ofEnvironment [] = .ok {} := rfl
  have named : source? arguments = some .standardInput := rfl
  have supplies (text : Text) (unified : unifyLineEnds text = text)
      (fits : Text.byteCount text ≤ 100000) :
      World.Supplies { standardInput := text } arguments text := by
    constructor
    · intro source found
      obtain rfl := Option.some.inj (named.symm.trans found)
      rw [World.read, unified]
    · intro settings found
      obtain rfl := Except.ok.inj (settings_eq.symm.trans found)
      change (Text.byteCount text : Int) ≤ 100000
      omega
  have evaluated : (run plain arguments).toOption = some
      { exitCode := 1
        output := "ERROR [property_not_allowed]: Property not allowed: widht\n".toList } := by
    decide +kernel
  have failing : run plain arguments = .ok
      { exitCode := 1
        output := "ERROR [property_not_allowed]: Property not allowed: widht\n".toList } := by
    cases ended : run plain arguments with
    | error cause =>
        rw [ended] at evaluated
        exact absurd evaluated (by simp [Except.toOption])
    | ok outcome =>
        rw [ended] at evaluated
        rw [Option.some.inj evaluated]
  have asks : AsksForCheck arguments := ⟨_, rfl, rfl⟩
  have plain_supplies : plain.Supplies arguments (before ++ after) :=
    supplies _ rfl (by decide)
  have commented_supplies : commented.Supplies arguments
      (before ++ (commentOf " \x7b ".toList ++ after)) := supplies _ rfl (by decide)
  have bare_supplies : bare.Supplies arguments (commentOf " \x7b ".toList) :=
    supplies _ rfl (by decide)
  have commented_environment : commented.environment = plain.environment := rfl
  have bare_environment : bare.environment = plain.environment := rfl
  have unfailing : Unfailing (start commented arguments) :=
    (run_comment_iff asks commented_environment bare_environment plain_supplies
      commented_supplies bare_supplies (by decide) (by decide) (by decide)).2 (by decide)
  constructor
  · exact failing
  · intro same
    rw [failing, run] at same
    exact unfailing _ same rfl

end Runs

end CommandLine

end CssAudit
