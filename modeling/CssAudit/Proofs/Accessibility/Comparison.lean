import CssAudit.Accessibility.PairCheck
import CssAudit.Proofs.Accessibility.Advice
import CssAudit.Proofs.Accessibility.Gated
import CssAudit.Proofs.Color.Alphabet
import CssAudit.Proofs.Numeral.Ordered

/-!
# Two ways to check contrast

A pair of colors is checked on its own, or as the colors of a block of declarations.
Both checks find the same: too little contrast for the middle level is the error of the
block, too little for the highest level alone is its note, and the advice and the
required ratio are those of the failed check of the pair.
-/

namespace CssAudit

namespace Check

section Named

variable {declarations : List (Text × Datum)} {selector : Option Text} {rule : StyleRule}

/-- Names of declarations that stay distinct without blanks around them and in lower
case. -/
def DistinctNames (declarations : List (Text × Datum)) : Prop :=
  (declarations.map fun declaration => Text.lower (Text.trim declaration.1)).Nodup

instance (declarations : List (Text × Datum)) : Decidable (DistinctNames declarations) :=
  inferInstanceAs (Decidable (List.Nodup _))

theorem usable_sublist {usable : List (Option (Text × Text))}
    (ran : (Batch.ofNamed declarations).mapM declaration? = .ok usable) :
    ((usable.filterMap id).map (·.1)).Sublist
      (declarations.map fun declaration => Text.lower (Text.trim declaration.1)) := by
  rw [Batch.mapM_eq_ok_iff, Batch.ofNamed, List.forall₂_map_left_iff] at ran
  induction ran with
  | nil => exact List.Sublist.slnil
  | cons read _ ih =>
      obtain ⟨text?, _, read⟩ := Batch.bind_eq_ok_iff.mp read
      cases text? with
      | none =>
          obtain rfl := Except.ok.inj read
          exact ih.cons _
      | some text =>
          obtain rfl := Except.ok.inj read
          exact ih.cons_cons _

/-- A declared text reaches the rule block without its importance flag. -/
theorem get?_of_ruleOf (distinct : DistinctNames declarations)
    (ran : ruleOf (Batch.ofNamed declarations) selector = .ok rule) {name value : Text}
    (member : (name, .text value) ∈ declarations) :
    OrderedMap.get? rule.declarations (Text.lower (Text.trim name)) =
      some (Stylesheet.splitImportant value).1 := by
  obtain ⟨usable, usable_eq, shape⟩ := Batch.bind_eq_ok_iff.mp ran
  obtain rfl := Except.ok.inj shape
  have usable_distinct : OrderedMap.Distinct (usable.filterMap id) :=
    distinct.sublist (usable_sublist usable_eq)
  obtain ⟨result, result_mem, result_eq⟩ := Batch.exists_result_of_mapM usable_eq
    (List.mem_map_of_mem member)
  obtain rfl : some (Text.lower (Text.trim name), value) = result := Except.ok.inj result_eq
  have present : (Text.lower (Text.trim name), value) ∈ usable.filterMap id :=
    List.mem_filterMap.mpr ⟨_, result_mem, rfl⟩
  have unflagged_distinct : OrderedMap.Distinct ((usable.filterMap id).map fun entry =>
      (entry.1, (Stylesheet.splitImportant entry.2).1)) := by
    simpa [OrderedMap.Distinct, List.map_map, Function.comp_def] using usable_distinct
  rw [StyleRule.declarations_ofDeclarations usable_distinct,
    OrderedMap.get?_eq_some_iff unflagged_distinct]
  exact List.mem_map_of_mem present

end Named

end Check

namespace Color

theorem parse?_trim (literal : Text) : parse? (Text.trim literal) = parse? literal := by
  rw [parse?, Text.trim_trim, parse?]

theorem splitImportant_of_parse? {literal : Text} {color : Color}
    (read : parse? literal = some color) :
    Stylesheet.splitImportant literal = (Text.trim literal, false) :=
  Stylesheet.splitImportant_of_not_mem
    (not_mem_of_parse? read (by decide) (by decide) (by decide))

theorem isUnresolvable_of_parse? {literal : Text} {color : Color}
    (read : parse? literal = some color) : Rules.isUnresolvable literal = false := by
  have words : ∀ word ∈ "currentcolor" :: Value.wideKeywords,
      Text.lower (Text.trim word.toList) = word.toList ∧ (parse? word.toList).isNone = true := by
    decide +kernel
  rw [← Bool.not_eq_true]
  intro unresolvable
  obtain ⟨word, member, same⟩ : ∃ word ∈ "currentcolor" :: Value.wideKeywords,
      word.toList = Text.lower (Text.trim literal) := by
    rcases (Bool.or_eq_true _ _).mp unresolvable with wide | current
    · obtain ⟨word, member, same⟩ := List.any_eq_true.mp wide
      exact ⟨word, List.mem_cons_of_mem _ member, eq_of_beq same⟩
    · exact ⟨_, List.mem_cons_self, (of_decide_eq_true current).symm⟩
  obtain ⟨lowered, unread⟩ := words word member
  rw [parse?, ← same, ← lowered, ← parse?] at read
  simp [read] at unread

end Color

namespace Rules

/-- Two understood colors are compared as soon as the size of the text is known. -/
theorem contrast_of_colorPair? {rule : StyleRule} {context : Context} {pair : ColorPair}
    {foreground background : Color} (compared : colorPair? rule context = some pair)
    (foreground_eq : Color.parse? pair.foreground = some foreground)
    (background_eq : Color.parse? pair.background = some background) :
    contrast rule context = Typography.isLarge rule.declarations >>= fun large =>
      .ok (contrastIssue? rule pair foreground background large).toList := by
  rw [contrast, compared]
  simp only [Color.isUnresolvable_of_parse? foreground_eq,
    Color.isUnresolvable_of_parse? background_eq, Bool.or_self, Bool.false_eq_true, if_false,
    foreground_eq, background_eq]

/-- Declared colors are compared in every context, unless the background is
transparent. -/
theorem colorPair?_of_declared {rule : StyleRule} {foreground background : Text}
    (foreground_eq : rule.get? "color" = some foreground)
    (background_eq : rule.get? "background-color" = some background)
    (solid : isTransparent background = false) (context : Context) :
    colorPair? rule context = some ⟨foreground, background, true⟩ := by
  have kept : (some background).filter (fun raw => !isTransparent raw) = some background := by
    rw [Option.filter_some, solid]
    rfl
  simp [colorPair?, declaredBackground?, foreground_eq, background_eq, kept]

section Issue

variable {rule : StyleRule} {pair : ColorPair} {foreground background : Color} {large : Bool}
  {issue : Issue}

theorem contrastIssue?_eq_some_iff :
    contrastIssue? rule pair foreground background large = some issue ↔
      (foreground.contrast background < Level.requiredContrast .aa large ∧
          issue = insufficientContrast rule pair foreground background large
            (foreground.contrast background)) ∨
        (¬ foreground.contrast background < Level.requiredContrast .aa large ∧
          foreground.contrast background < Level.requiredContrast .aaa large ∧
          issue = contrastBelowEnhanced rule pair foreground background large
            (foreground.contrast background)) := by
  unfold contrastIssue?
  dsimp only
  split
  · rename_i low
    simp [low, eq_comm]
  · rename_i high
    split
    · rename_i low
      simp [high, low, eq_comm]
    · rename_i higher
      simp [high, higher]

theorem concernsContrast_of_contrastIssue?
    (found : contrastIssue? rule pair foreground background large = some issue) :
    issue.concernsContrast = true := by
  rcases contrastIssue?_eq_some_iff.mp found with ⟨_, rfl⟩ | ⟨_, _, rfl⟩ <;> rfl

end Issue

end Rules

namespace Check

theorem filter_concernsContrast_of_plain {rule : StyleRule} {issues : List Issue}
    (plain : ∀ issue ∈ issues, IsPlainFinding rule issue) :
    issues.filter (·.concernsContrast) = [] := by
  rw [List.filter_eq_nil_iff]
  intro issue member
  cases plain issue member <;> exact Bool.false_ne_true

theorem filter_concernsContrast_sheetIssues (sheet : Stylesheet) :
    (sheetIssues sheet).filter (·.concernsContrast) = [] := by
  rw [List.filter_eq_nil_iff]
  intro issue member
  cases isSheetFinding_of_mem issue member <;> exact Bool.false_ne_true

theorem filter_concernsContrast_blockIssues {rule : StyleRule} {context : Context}
    {found issues : List Issue} (compared : Rules.contrast rule context = .ok found)
    (ran : blockIssues rule context = .ok issues) :
    issues.filter (·.concernsContrast) = found.filter (·.concernsContrast) := by
  obtain ⟨_, again, shape⟩ := Batch.bind_eq_ok_iff.mp ran
  obtain rfl := Except.ok.inj (compared.symm.trans again)
  obtain rfl := Except.ok.inj shape
  simp only [List.filter_append, filter_concernsContrast_of_plain isPlainFinding_of_mem_fontSize,
    filter_concernsContrast_of_plain isPlainFinding_of_mem_focusOutline,
    filter_concernsContrast_of_plain isPlainFinding_of_mem_keyboard,
    filter_concernsContrast_of_plain isPlainFinding_of_mem_lineHeight,
    filter_concernsContrast_of_plain isPlainFinding_of_mem_linkUnderline,
    filter_concernsContrast_of_plain isPlainFinding_of_mem_opacity, List.append_nil]

end Check

/-- The ratio that an issue asks for, if it is one of contrast. -/
def Issue.requiredContrast? (issue : Issue) : Option Float :=
  match issue.details with
  | some (.contrast facts) => some facts.required
  | _ => none

namespace PairCheck

theorem run_of_parse? {first second : Text} {foreground background : Color}
    (foreground_eq : Color.parse? first = some foreground)
    (background_eq : Color.parse? second = some background) (level : Level) (large : Bool) :
    run (.text first) (.text second) level large =
      ofColors foreground background level large := by
  have first_eq : colorOf? (.text first) = some foreground := foreground_eq
  have second_eq : colorOf? (.text second) = some background := background_eq
  rw [run, first_eq, second_eq]

theorem passes_ofColors_eq_false_iff {foreground background : Color}
    (defined : (foreground.contrast background).isNaN = false) (level : Level) (large : Bool) :
    (ofColors foreground background level large).passes = false ↔
      foreground.contrast background < level.requiredContrast large := by
  have required_defined : (level.requiredContrast large).isNaN = false := by
    cases level <;> cases large <;> decide
  rw [Numeral.lt_iff_not_le defined required_defined]
  exact decide_eq_false_iff_not

theorem suggestion_of_fails {foreground background : Color} {level : Level} {large : Bool}
    (fails : (ofColors foreground background level large).passes = false) :
    (ofColors foreground background level large).suggestion =
      some (foreground.repair background (level.requiredContrast large)).message := by
  change (if (ofColors foreground background level large).passes = true then _ else _) = _
  rw [fails]
  rfl

end PairCheck

namespace Compliance

/-- Whether a report holds an issue of a rule. -/
def Finds (report : Compliance) (ruleId : String) : Prop :=
  ∃ issue ∈ report.issues, issue.ruleId = ruleId.toList

/-- Whether the issues of a rule give the advice and the required ratio of a check of a
pair of colors. -/
def Repeats (report : Compliance) (ruleId : String) (check : PairCheck) : Prop :=
  ∀ issue ∈ report.issues, issue.ruleId = ruleId.toList →
    issue.suggestion = check.suggestion ∧ issue.requiredContrast? = some check.required

/-- Whether a report says of contrast what the checks of a pair of colors against the
middle and the highest level say. -/
structure AgreesWith (report : Compliance) (middle enhanced : PairCheck) : Prop where
  insufficient : report.Finds "insufficient_contrast" ↔ middle.passes = false
  belowEnhanced : report.Finds "contrast_below_aaa" ↔
    middle.passes = true ∧ enhanced.passes = false
  exclusive : ¬ (report.Finds "insufficient_contrast" ∧ report.Finds "contrast_below_aaa")
  insufficient_repeats : report.Repeats "insufficient_contrast" middle
  belowEnhanced_repeats : report.Repeats "contrast_below_aaa" enhanced

section Pair

variable {report : Compliance} {rule : StyleRule} {pair : Rules.ColorPair}
  {foreground background : Color} {large : Bool}
  (found : report.issues.filter (·.concernsContrast) =
    (Rules.contrastIssue? rule pair foreground background large).toList)
include found

theorem mem_issues_iff {issue : Issue} (concerns : issue.concernsContrast = true) :
    issue ∈ report.issues ↔
      Rules.contrastIssue? rule pair foreground background large = some issue := by
  rw [← Option.mem_toList, ← found, List.mem_filter, and_iff_left concerns]

theorem insufficient_iff {issue : Issue} :
    issue ∈ report.issues ∧ issue.ruleId = "insufficient_contrast".toList ↔
      foreground.contrast background < Level.requiredContrast .aa large ∧
        issue = Rules.insufficientContrast rule pair foreground background large
          (foreground.contrast background) := by
  have different : "insufficient_contrast".toList ≠ "contrast_below_aaa".toList := by decide
  constructor
  · rintro ⟨member, named⟩
    have concerns : issue.concernsContrast = true := by simp [Issue.concernsContrast, named]
    rcases Rules.contrastIssue?_eq_some_iff.mp ((mem_issues_iff found concerns).mp member) with
      insufficient | ⟨_, _, rfl⟩
    · exact insufficient
    · exact absurd named different.symm
  · rintro ⟨low, rfl⟩
    exact ⟨(mem_issues_iff found rfl).mpr
      (Rules.contrastIssue?_eq_some_iff.mpr (.inl ⟨low, rfl⟩)), rfl⟩

theorem belowEnhanced_iff {issue : Issue} :
    issue ∈ report.issues ∧ issue.ruleId = "contrast_below_aaa".toList ↔
      ¬ foreground.contrast background < Level.requiredContrast .aa large ∧
        foreground.contrast background < Level.requiredContrast .aaa large ∧
        issue = Rules.contrastBelowEnhanced rule pair foreground background large
          (foreground.contrast background) := by
  have different : "insufficient_contrast".toList ≠ "contrast_below_aaa".toList := by decide
  constructor
  · rintro ⟨member, named⟩
    have concerns : issue.concernsContrast = true := by simp [Issue.concernsContrast, named]
    rcases Rules.contrastIssue?_eq_some_iff.mp ((mem_issues_iff found concerns).mp member) with
      ⟨_, rfl⟩ | below
    · exact absurd named different
    · exact below
  · rintro ⟨high, low, rfl⟩
    exact ⟨(mem_issues_iff found rfl).mpr
      (Rules.contrastIssue?_eq_some_iff.mpr (.inr ⟨high, low, rfl⟩)), rfl⟩

theorem agreesWith_of_filter (defined : (foreground.contrast background).isNaN = false) :
    report.AgreesWith (.ofColors foreground background .aa large)
      (.ofColors foreground background .aaa large) := by
  have fails := PairCheck.passes_ofColors_eq_false_iff defined
  have insufficient : report.Finds "insufficient_contrast" ↔
      foreground.contrast background < Level.requiredContrast .aa large := by
    simp only [Finds, insufficient_iff found, exists_and_left, exists_eq, and_true]
  have belowEnhanced : report.Finds "contrast_below_aaa" ↔
      ¬ foreground.contrast background < Level.requiredContrast .aa large ∧
        foreground.contrast background < Level.requiredContrast .aaa large := by
    simp only [Finds, belowEnhanced_iff found, exists_and_left, exists_eq, and_true]
  constructor
  · rw [insufficient, fails]
  · rw [belowEnhanced, fails, ← Bool.not_eq_false, fails]
  · rintro ⟨low, high⟩
    exact (belowEnhanced.mp high).1 (insufficient.mp low)
  · intro issue member named
    obtain ⟨low, rfl⟩ := (insufficient_iff found).mp ⟨member, named⟩
    exact ⟨(PairCheck.suggestion_of_fails ((fails _ _).mpr low)).symm, rfl⟩
  · intro issue member named
    obtain ⟨_, low, rfl⟩ := (belowEnhanced_iff found).mp ⟨member, named⟩
    exact ⟨(PairCheck.suggestion_of_fails ((fails _ _).mpr low)).symm, rfl⟩

end Pair

end Compliance

namespace Check

/-- A block that declares two understood colors, the background not fully transparent, is
told the same of its contrast as the two colors on their own, at the size of its text. -/
theorem declarations_agreesWith_pair {declarations : List (Text × Datum)} {context : Context}
    {report : Compliance} (distinct : DistinctNames declarations) {first second : Text}
    (first_mem : ("color".toList, .text first) ∈ declarations)
    (second_mem : ("background-color".toList, .text second) ∈ declarations)
    {foreground background : Color} (foreground_eq : Color.parse? first = some foreground)
    (background_eq : Color.parse? second = some background)
    (solid : background.isTransparent = false)
    (ran : Check.declarations (Batch.ofNamed declarations) context = .ok report)
    (defined : (foreground.contrast background).isNaN = false) :
    ∃ rule large, ruleOf (Batch.ofNamed declarations) context.selector = .ok rule ∧
      Typography.isLarge rule.declarations = .ok large ∧
      report.AgreesWith (.run (.text first) (.text second) .aa large)
        (.run (.text first) (.text second) .aaa large) := by
  obtain ⟨rule, rule_eq, ran⟩ := Batch.bind_eq_ok_iff.mp ran
  obtain ⟨issues, block_ran, shape⟩ := Batch.bind_eq_ok_iff.mp ran
  obtain rfl := Except.ok.inj shape
  have declared_foreground : rule.get? "color" = some (Text.trim first) := by
    have got := get?_of_ruleOf distinct rule_eq first_mem
    rwa [Color.splitImportant_of_parse? foreground_eq] at got
  have declared_background : rule.get? "background-color" = some (Text.trim second) := by
    have got := get?_of_ruleOf distinct rule_eq second_mem
    rwa [Color.splitImportant_of_parse? background_eq] at got
  simp only [PairCheck.run_of_parse? foreground_eq background_eq]
  rw [← Color.parse?_trim] at foreground_eq background_eq
  have compared := Rules.colorPair?_of_declared declared_foreground declared_background
    (by simp [Rules.isTransparent, background_eq, solid]) context
  obtain ⟨found, contrast_ran, _⟩ := Batch.bind_eq_ok_iff.mp block_ran
  have contrast_eq := contrast_ran
  rw [Rules.contrast_of_colorPair? compared foreground_eq background_eq] at contrast_eq
  obtain ⟨large, large_eq, shape⟩ := Batch.bind_eq_ok_iff.mp contrast_eq
  obtain rfl := Except.ok.inj shape
  have concerned : (issues ++ sheetIssues ⟨[rule]⟩).filter (·.concernsContrast) =
      (Rules.contrastIssue? rule ⟨Text.trim first, Text.trim second, true⟩ foreground background
        large).toList := by
    rw [List.filter_append, filter_concernsContrast_blockIssues contrast_ran block_ran,
      filter_concernsContrast_sheetIssues, List.append_nil, List.filter_eq_self]
    exact fun issue member =>
      Rules.concernsContrast_of_contrastIssue? (Option.mem_toList.mp member)
  exact ⟨rule, large, rule_eq, large_eq, Compliance.agreesWith_of_filter concerned defined⟩

/-- Dark text on black is too low in contrast at any size, with a flag at the size and a
width of no use beside it. -/
theorem declarations_agreesWith_pair_on_dark_text :
    ∃ report, Check.declarations (Batch.ofNamed [("color".toList, .text " #0A0A0A".toList),
        (" Font-Size ".toList, .text "30px !important".toList), ("width".toList, .bool true),
        ("background-color".toList, .text "black".toList)]) {} = .ok report ∧
      report.Finds "insufficient_contrast" ∧ ¬ report.Finds "contrast_below_aaa" := by
  have block : ruleOf (Batch.ofNamed [("color".toList, .text " #0A0A0A".toList),
        (" Font-Size ".toList, .text "30px !important".toList), ("width".toList, .bool true),
        ("background-color".toList, .text "black".toList)]) none =
      .ok (.ofDeclarations [] [("color".toList, " #0A0A0A".toList),
        ("font-size".toList, "30px !important".toList),
        ("background-color".toList, "black".toList)]) := rfl
  obtain ⟨report, ran⟩ : Batch.Returns (Check.declarations (Batch.ofNamed
      [("color".toList, .text " #0A0A0A".toList),
        (" Font-Size ".toList, .text "30px !important".toList), ("width".toList, .bool true),
        ("background-color".toList, .text "black".toList)]) {}) := by
    rw [Check.declarations, block, Batch.returns_bind_iff]
    refine ⟨_, rfl, ?_⟩
    rw [Batch.returns_bind_ok_iff, blockIssues_returns_iff]
    intro stumbles
    obtain ⟨raw, declared, _⟩ := stumbles.depends.weight
    cases declared
  have foreground_eq : Color.parse? " #0A0A0A".toList = some ⟨10, 10, 10, none⟩ := rfl
  have background_eq : Color.parse? "black".toList = some ⟨0, 0, 0, none⟩ := rfl
  have fails : ∀ large, (PairCheck.run (.text " #0A0A0A".toList) (.text "black".toList) .aa
      large).passes = false := by
    decide +kernel
  obtain ⟨_, large, _, _, agrees⟩ := declarations_agreesWith_pair (by decide)
    List.mem_cons_self (by simp) foreground_eq background_eq rfl ran (by decide +kernel)
  have found := agrees.insufficient.mpr (fails large)
  exact ⟨report, ran, found, fun below => agrees.exclusive ⟨found, below⟩⟩

end Check

end CssAudit
