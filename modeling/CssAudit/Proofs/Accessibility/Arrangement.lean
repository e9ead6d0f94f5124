import CssAudit.Accessibility.Check
import CssAudit.Proofs.Accessibility.Flags
import CssAudit.Proofs.Stylesheet.Flattening

/-!
# The order of declarations

The rules look up the properties of a block and count its importance flags, and nothing
else tells them in which order a block declares.  A batch is therefore checked alike in any
order of its declarations, with values of no use among them or without.
-/

namespace CssAudit

namespace OrderedMap

variable {κ α : Type} [BEq κ] [LawfulBEq κ]

theorem get?_eq_of_perm {first second : OrderedMap κ α} (distinct : Distinct first)
    (permuted : first.Perm second) (key : κ) : get? first key = get? second key := by
  have second_distinct : Distinct second := (permuted.map Prod.fst).nodup distinct
  apply Option.ext
  intro value
  rw [get?_eq_some_iff distinct, get?_eq_some_iff second_distinct, permuted.mem_iff]

end OrderedMap

namespace StyleRule

/-- Whether two rules give the same answers to all that is asked of them. -/
structure Resembles (first second : StyleRule) : Prop where
  selector : first.selector = second.selector
  values : ∀ name, OrderedMap.get? first.declarations name =
    OrderedMap.get? second.declarations name
  flags : first.important.length = second.important.length

theorem resembles_ofDeclarations {written permuted : OrderedMap Text Text}
    (distinct : OrderedMap.Distinct written) (perm : written.Perm permuted)
    (selector : Text) :
    (ofDeclarations selector written).Resembles (ofDeclarations selector permuted) where
  selector := rfl
  values name := by
    have permuted_distinct : OrderedMap.Distinct permuted := (perm.map Prod.fst).nodup distinct
    have kept_distinct : OrderedMap.Distinct (ofDeclarations selector written).declarations :=
      OrderedMap.distinct_ofList _
    apply OrderedMap.get?_eq_of_perm kept_distinct
    rw [declarations_ofDeclarations distinct, declarations_ofDeclarations permuted_distinct]
    exact perm.map _
  flags := by
    have flagged := (((perm.map fun entry =>
      (entry.1, Stylesheet.splitImportant entry.2)).filter (·.2.2)).map (·.1))
    have flagged_distinct : (((written.map fun entry =>
        (entry.1, Stylesheet.splitImportant entry.2)).filter (·.2.2)).map (·.1)).Nodup := by
      refine List.Nodup.sublist (List.filter_sublist.map _) ?_
      simpa [OrderedMap.Distinct, Function.comp_def] using distinct
    simp only [ofDeclarations, Stylesheet.eraseDups_of_nodup flagged_distinct,
      Stylesheet.eraseDups_of_nodup (flagged.nodup flagged_distinct), flagged.length_eq]

namespace Resembles

variable {first second : StyleRule} (same : first.Resembles second)
include same

theorem get? (property : String) : first.get? property = second.get? property :=
  same.values property.toList

theorem lowered (property : String) : first.lowered property = second.lowered property := by
  rw [StyleRule.lowered, same.get?, StyleRule.lowered]

theorem selector? : first.selector? = second.selector? := by
  rw [StyleRule.selector?, same.selector, StyleRule.selector?]

end Resembles

end StyleRule

namespace Rules

variable {first second : StyleRule} (same : first.Resembles second) (context : Context)
include same

theorem isLarge_congr :
    Typography.isLarge first.declarations = Typography.isLarge second.declarations := by
  simp only [Typography.isLarge, same.values]

theorem colorPair?_congr : colorPair? first context = colorPair? second context := by
  have declared : declaredBackground? first = declaredBackground? second := by
    simp only [declaredBackground?, same.get?]
  unfold colorPair?
  rw [declared, same.get?]

theorem contrast_congr : contrast first context = contrast second context := by
  simp only [contrast, colorPair?_congr same, isLarge_congr same, unverifiableContrast,
    contrastIssue?, insufficientContrast, contrastBelowEnhanced, same.selector?]

theorem fontSize_congr : fontSize first = fontSize second := by
  simp only [fontSize, same.get?, unverifiableSize, sizeTooSmall, sizeSmall, same.selector?]

theorem focusOutline_congr : focusOutline first context = focusOutline second context := by
  have removes : removesOutline first = removesOutline second := by
    rw [removesOutline, same.lowered, removesOutline]
  have applies : appliesOnFocus first context = appliesOnFocus second context := by
    rw [appliesOnFocus, same.selector, appliesOnFocus]
  simp only [focusOutline, removes, applies, same.get?, outlineReplaced, outlineRemoved,
    same.selector?]

theorem keyboard_congr : keyboard first context = keyboard second context := by
  simp only [keyboard, same.lowered, notDisplayed, notVisible, noPointerEvents,
    same.selector?]

theorem lineHeight_congr : lineHeight first = lineHeight second := by
  simp only [lineHeight, same.get?, tightLines, same.selector?]

theorem linkUnderline_congr : linkUnderline first context = linkUnderline second context := by
  have applies : appliesToLinks first context = appliesToLinks second context := by
    rw [appliesToLinks, same.selector, appliesToLinks]
  have decorated : decoration first = decoration second := by
    unfold decoration
    rw [same.lowered, same.lowered]
  simp only [linkUnderline, applies, decorated, underlineRemoved, same.selector?]

theorem opacity_congr : opacity first = opacity second := by
  simp only [opacity, same.get?, lowOpacity, same.selector?]

theorem importantUse_congr : importantUse ⟨[first]⟩ = importantUse ⟨[second]⟩ := by
  have count : Stylesheet.importantCount ⟨[first]⟩ = Stylesheet.importantCount ⟨[second]⟩ := by
    simpa [Stylesheet.importantCount] using same.flags
  rw [importantUse, count, importantUse]

theorem textSelection_congr : textSelection ⟨[first]⟩ = textSelection ⟨[second]⟩ := by
  have disables : disablesSelection first = disablesSelection second := by
    rw [disablesSelection, same.selector, same.lowered, same.lowered, disablesSelection]
  have found : selectionDisabled first = selectionDisabled second := by
    rw [selectionDisabled, same.selector?, selectionDisabled]
  simp only [textSelection, List.find?_cons, disables, List.find?_nil]
  split <;> simp [found]

theorem pointerEvents_congr : pointerEvents ⟨[first]⟩ = pointerEvents ⟨[second]⟩ := by
  have found : pointerEventsDisabled first = pointerEventsDisabled second := by
    rw [pointerEventsDisabled, same.selector?, pointerEventsDisabled]
  simp only [pointerEvents, List.find?_cons, same.lowered, List.find?_nil]
  split <;> simp [found]

end Rules

namespace Check

section Resembling

variable {first second : StyleRule} (same : first.Resembles second)
include same

theorem blockIssues_congr (context : Context) :
    blockIssues first context = blockIssues second context := by
  rw [blockIssues, Rules.contrast_congr same, Rules.fontSize_congr same,
    Rules.focusOutline_congr same, Rules.keyboard_congr same, Rules.lineHeight_congr same,
    Rules.linkUnderline_congr same, Rules.opacity_congr same, blockIssues]

theorem sheetIssues_congr : sheetIssues ⟨[first]⟩ = sheetIssues ⟨[second]⟩ := by
  rw [sheetIssues, Rules.importantUse_congr same, Rules.textSelection_congr same,
    Rules.pointerEvents_congr same, sheetIssues]

end Resembling

/-- The report on a single rule. -/
def ruleReport (rule : StyleRule) (context : Context) :
    Except Numeral.IntegerError Compliance := do
  let issues ← blockIssues rule context
  .ok ⟨issues ++ sheetIssues ⟨[rule]⟩⟩

theorem ruleReport_congr {first second : StyleRule} (same : first.Resembles second)
    (context : Context) : ruleReport first context = ruleReport second context := by
  rw [ruleReport, blockIssues_congr same, sheetIssues_congr same, ruleReport]

/-- Whether a value is a text or a number; all others are passed over. -/
def isUsable : Datum → Bool
  | .text _ => true
  | .scalar (.number _) => true
  | _ => false

/-- The name that a key declares. -/
def nameOf (key : Scalar) : Except Numeral.IntegerError Text :=
  key.toText.map fun text => Text.lower (Text.trim text)

/-- The names that the entries of a batch with a value of use declare. -/
def names (batch : Batch) : List (Except Numeral.IntegerError Text) :=
  (batch.filter fun entry => isUsable entry.2).map fun entry => nameOf entry.1

theorem isSome_of_valueText? {value : Datum} {read : Option Text}
    (ran : Batch.valueText? value = .ok read) : read.isSome = isUsable value := by
  unfold Batch.valueText? at ran
  split at ran
  · obtain rfl := Except.ok.inj ran
    rfl
  · rename_i number
    cases written : number.toText with
    | error cause =>
        rw [written] at ran
        cases ran
    | ok text =>
        rw [written] at ran
        obtain rfl := Except.ok.inj ran
        rfl
  · rename_i no_text no_number
    obtain rfl := Except.ok.inj ran
    unfold isUsable
    split
    · exact absurd rfl (no_text _)
    · exact absurd rfl (no_number _)
    · rfl

theorem valueText?_of_unusable {value : Datum} (unusable : isUsable value = false) :
    Batch.valueText? value = .ok none := by
  unfold Batch.valueText?
  split
  · cases unusable
  · cases unusable
  · rfl

theorem declaration?_of_unusable {entry : Scalar × Datum}
    (unusable : isUsable entry.2 = false) : declaration? entry = .ok none := by
  rw [declaration?, valueText?_of_unusable unusable]
  rfl

theorem names_of_declaration? {entry : Scalar × Datum} {read : Option (Text × Text)}
    (ran : declaration? entry = .ok read) :
    names [entry] = read.toList.map fun declaration => .ok declaration.1 := by
  obtain ⟨value?, value_eq, ran⟩ := Batch.bind_eq_ok_iff.mp ran
  have usable := isSome_of_valueText? value_eq
  cases value? with
  | none =>
      obtain rfl := Except.ok.inj ran
      simp [names, ← usable]
  | some value =>
      obtain ⟨name, name_eq, shape⟩ := Batch.bind_eq_ok_iff.mp ran
      obtain rfl := Except.ok.inj shape
      simp [names, ← usable, nameOf, name_eq, Except.map]

/-- What a batch declares, if all of it can be written. -/
def Declares (batch : Batch) (declared : List (Text × Text)) : Prop :=
  ∃ read, batch.mapM declaration? = .ok read ∧ declared = read.filterMap id

namespace Declares

variable {batch : Batch} {declared : List (Text × Text)}

theorem names_eq (declares : Declares batch declared) :
    names batch = declared.map fun declaration => .ok declaration.1 := by
  obtain ⟨read, ran, rfl⟩ := declares
  rw [Batch.mapM_eq_ok_iff] at ran
  induction ran with
  | nil => rfl
  | @cons entry first batch rest entry_read _ ih =>
      have head := names_of_declaration? entry_read
      have split : names (entry :: batch) = names [entry] ++ names batch := by
        simp [names, ← List.map_append, ← List.filter_append]
      rw [split, head, ih]
      cases first <;> simp

theorem distinct (declares : Declares batch declared) (distinct : (names batch).Nodup) :
    OrderedMap.Distinct declared := by
  rw [declares.names_eq] at distinct
  have written : (declared.map (·.1)).map (Except.ok (ε := Numeral.IntegerError)) =
      declared.map fun declaration => .ok declaration.1 := by
    rw [List.map_map]
    rfl
  exact .of_map Except.ok (written ▸ distinct)

theorem append_iff {added : Batch} (unusable : ∀ entry ∈ added, isUsable entry.2 = false) :
    Declares (batch ++ added) declared ↔ Declares batch declared := by
  have passed : added.mapM declaration? = .ok (added.map fun _ => none) := by
    rw [Batch.mapM_eq_ok_iff, List.forall₂_map_right_iff, List.forall₂_same]
    exact fun entry member => declaration?_of_unusable (unusable entry member)
  have nothing : (added.map fun _ => (none : Option (Text × Text))).filterMap id = [] := by
    simp
  constructor
  · rintro ⟨read, ran, rfl⟩
    obtain ⟨front, back, front_ran, back_ran, rfl⟩ := Batch.mapM_append_eq_ok_iff.mp ran
    obtain rfl := Except.ok.inj (passed.symm.trans back_ran)
    exact ⟨front, front_ran, by rw [List.filterMap_append, nothing, List.append_nil]⟩
  · rintro ⟨read, ran, rfl⟩
    exact ⟨_, Batch.mapM_append_eq_ok_iff.mpr ⟨read, _, ran, passed, rfl⟩,
      by rw [List.filterMap_append, nothing, List.append_nil]⟩

theorem exists_perm (declares : Declares batch declared) {other : Batch}
    (permuted : other.Perm batch) :
    ∃ arranged, Declares other arranged ∧ arranged.Perm declared := by
  obtain ⟨read, ran, rfl⟩ := declares
  obtain ⟨arranged, other_ran, perm⟩ :=
    List.perm_comp_forall₂ permuted (Batch.mapM_eq_ok_iff.mp ran)
  exact ⟨_, ⟨arranged, Batch.mapM_eq_ok_iff.mpr other_ran, rfl⟩, perm.filterMap id⟩

end Declares

section Report

variable {batch other added : Batch} {context : Context} {report : Compliance}

theorem declarations_eq_ok_iff :
    Check.declarations batch context = .ok report ↔ ∃ declared, Declares batch declared ∧
      ruleReport (.ofDeclarations (Text.trim (context.selector.getD [])) declared) context =
        .ok report := by
  rw [Check.declarations, Batch.bind_eq_ok_iff]
  constructor
  · rintro ⟨rule, rule_eq, ran⟩
    obtain ⟨read, read_eq, rfl⟩ := ruleOf_eq_ok_iff.mp rule_eq
    exact ⟨_, ⟨read, read_eq, rfl⟩, ran⟩
  · rintro ⟨_, ⟨read, read_eq, rfl⟩, ran⟩
    exact ⟨_, ruleOf_eq_ok_iff.mpr ⟨read, read_eq, rfl⟩, ran⟩

theorem declarations_of_perm (distinct : (names batch).Nodup) (permuted : other.Perm batch)
    (ran : Check.declarations batch context = .ok report) :
    Check.declarations other context = .ok report := by
  obtain ⟨declared, declares, reported⟩ := declarations_eq_ok_iff.mp ran
  obtain ⟨arranged, arranges, perm⟩ := declares.exists_perm permuted
  have same := StyleRule.resembles_ofDeclarations (declares.distinct distinct) perm.symm
    (Text.trim (context.selector.getD []))
  rw [ruleReport_congr same] at reported
  exact declarations_eq_ok_iff.mpr ⟨arranged, arranges, reported⟩

theorem declarations_append_iff (unusable : ∀ entry ∈ added, isUsable entry.2 = false) :
    Check.declarations (batch ++ added) context = .ok report ↔
      Check.declarations batch context = .ok report := by
  simp only [declarations_eq_ok_iff, Declares.append_iff unusable]

theorem names_append (unusable : ∀ entry ∈ added, isUsable entry.2 = false) :
    names (batch ++ added) = names batch := by
  have none_kept : added.filter (fun entry => isUsable entry.2) = [] := by
    simpa using unusable
  rw [names, List.filter_append, none_kept, List.append_nil, names]

end Report

/-- Batches whose entries of use declare distinct names are checked alike in any order, with
or without entries of no use anywhere among them: one comes to a report exactly if the other
does, and the report is the same. -/
theorem declarations_arranged_iff {batch added arranged : Batch}
    (distinct : (names batch).Nodup) (unusable : ∀ entry ∈ added, isUsable entry.2 = false)
    (perm : arranged.Perm (batch ++ added)) (context : Context) (report : Compliance) :
    Check.declarations arranged context = .ok report ↔
      Check.declarations batch context = .ok report := by
  have whole_distinct : (names (batch ++ added)).Nodup := by
    rwa [names_append unusable]
  have arranged_distinct : (names arranged).Nodup :=
    ((perm.filter _).map _).symm.nodup whole_distinct
  calc
    Check.declarations arranged context = .ok report ↔
        Check.declarations (batch ++ added) context = .ok report :=
      ⟨declarations_of_perm arranged_distinct perm.symm,
        declarations_of_perm whole_distinct perm⟩
    _ ↔ Check.declarations batch context = .ok report := declarations_append_iff unusable

/-- A name in capitals and a flag, and in front of them in turn a list and a truth value
that count for nothing. -/
theorem declarations_arranged_iff_on_flag :
    ∃ report,
      Check.declarations
        [(.text " OUTLINE ".toList, .text "0".toList),
          (.text "display".toList, .text "none !important".toList)]
        { isInteractive := true } = .ok report ∧
      Check.declarations
        [(.text "border".toList, .list []), (.null, .bool true),
          (.text "display".toList, .text "none !important".toList),
          (.text " OUTLINE ".toList, .text "0".toList)]
        { isInteractive := true } = .ok report ∧
      report.errorCount = 2 ∧ report.level? = none := by
  let batch : Batch := [(.text " OUTLINE ".toList, .text "0".toList),
    (.text "display".toList, .text "none !important".toList)]
  let added : Batch := [(.null, .bool true), (.text "border".toList, .list [])]
  obtain ⟨report, ran⟩ : Batch.Returns (Check.declarations batch { isInteractive := true }) :=
    ⟨_, rfl⟩
  have arranged := (declarations_arranged_iff (by decide) (by decide)
    (List.reverse_perm (batch ++ added)) _ report).mpr ran
  obtain rfl := Except.ok.inj ran
  exact ⟨_, ran, arranged, rfl, rfl⟩

end Check

end CssAudit
