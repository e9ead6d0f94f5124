import CssAudit.Gate.Validation
import CssAudit.Proofs.Batch
import CssAudit.Proofs.OrderedMap
import CssAudit.Proofs.Value.Small

/-!
# No evasion by letter case

Declarations whose texts differ in the case of ASCII letters have one fate.  Validating
them in small letters gives the same causes for the same properties, as many warnings,
and the same declarations, their values in small letters.
-/

namespace CssAudit

namespace Gate

open Text

theorem sanitizeName_small (name : Text) : sanitizeName name.small = sanitizeName name := by
  rw [sanitizeName, trim_small, lower_small, sanitizeName]

theorem sanitizeValue_small (value : Text) :
    sanitizeValue value.small = (sanitizeValue value).small := by
  have kept (c : Char) : decide (c.toLower ≠ nul) = decide (c ≠ nul) := by
    rw [decide_eq_decide, ne_eq, toLower_eq_iff (by decide)]
  rw [sanitizeValue, filter_small kept, collapse_small, sanitizeValue]

theorem holdsPattern_small (text : Text) (pattern : String) :
    holdsPattern text.small pattern = holdsPattern text pattern := by
  rw [holdsPattern, sanitizeValue_small, lower_small, lower_small, holdsPattern]

theorem valueDangers_small (property text : Text) :
    valueDangers property text.small = valueDangers property text := by
  have nul_mem : text.small.elem nul = text.elem nul := by
    rw [Bool.eq_iff_iff, List.elem_iff, List.elem_iff, mem_small_iff (by decide)]
  have patterns : holdsPattern text.small = holdsPattern text :=
    funext (holdsPattern_small text)
  rw [valueDangers, nul_mem, patterns, valueDangers]

/-- What a rejection says apart from the wording of the value: its code and its kind, and
the property that it blames. -/
def Rejection.outline (cause : Rejection) : Text × RejectionKind × Option Text :=
  (cause.code, cause.kind, cause.property?)

/-- What a verdict says apart from the wording of the value. -/
def Verdict.outline (verdict : Verdict) : Option (Text × RejectionKind × Option Text) × Nat :=
  (verdict.rejection.map Rejection.outline, verdict.warnings.length)

theorem Verdict.outline_andThen (first next : Verdict) :
    (first.andThen next).outline =
      if first.outline.1.isSome then first.outline
      else (next.outline.1, first.outline.2 + next.outline.2) := by
  obtain ⟨cause, warnings⟩ := first
  cases cause with
  | none => simp [outline, andThen]
  | some cause => rfl

theorem outline_getD {first second : Option Verdict} {next later : Verdict}
    (starts : first.map Verdict.outline = second.map Verdict.outline)
    (ends : next.outline = later.outline) :
    (first.getD next).outline = (second.getD later).outline :=
  calc (first.getD next).outline
      = (first.map Verdict.outline).getD next.outline := (Option.getD_map ..).symm
    _ = (second.map Verdict.outline).getD later.outline := by rw [starts, ends]
    _ = (second.getD later).outline := Option.getD_map ..

section Judge

variable (property text : Text)

theorem judgeText?_small (isColor : Bool) :
    (judgeText? property text.small isColor).map Verdict.outline =
      (judgeText? property text isColor).map Verdict.outline := by
  simp only [judgeText?, isEmpty_small, Value.mentionsUrl_small, lower_small]
  split
  · rfl
  · split
    · rfl
    · split
      · split <;> rfl
      · rfl

theorem judgeKeyword?_small :
    (judgeKeyword? property text.small).map Verdict.outline =
      (judgeKeyword? property text).map Verdict.outline := by
  rw [judgeKeyword?, judgeKeyword?, lower_small]
  cases keywordsOf? property with
  | none => rfl
  | some keywords =>
      simp only [Option.map_some]
      split <;> rfl

theorem judgeLength_small (number : Float) (unit : Text) :
    (judgeLength property text.small number unit).outline =
      (judgeLength property text number unit).outline := by
  unfold judgeLength
  split
  · rfl
  · split <;> rfl

theorem judgeFunction_small (name : Text) (balanced : Bool) :
    (judgeFunction property text.small name.small balanced).outline =
      (judgeFunction property text name balanced).outline := by
  rw [judgeFunction, judgeFunction, lower_small]
  split
  · rfl
  · split <;> rfl

end Judge

section Component

variable (property : Text) (component : Value.Component)

theorem judgeKind_small :
    (judgeKind property component.small).outline = (judgeKind property component).outline := by
  cases component with
  | length text number unit => exact judgeLength_small property text number unit
  | unparsed text =>
      simp only [Value.Component.small, judgeKind, Value.looksNumeric_small]
      split
      · rfl
      · exact outline_getD (judgeKeyword?_small property text) rfl
  | function text name arguments balanced =>
      exact outline_getD (judgeKeyword?_small property text)
        (judgeFunction_small property text name balanced)
  | keyword text =>
      simp only [Value.Component.small, judgeKind, lower_small]
      refine outline_getD (judgeKeyword?_small property text) ?_
      split <;> rfl
  | color text value => exact outline_getD (judgeKeyword?_small property text) rfl

theorem judgeComponent_small :
    (judgeComponent property component.small).outline =
      (judgeComponent property component).outline := by
  have same : isColor component.small = isColor component := by cases component <;> rfl
  rw [judgeComponent, judgeComponent, Value.Component.text_small, same]
  exact outline_getD (judgeText?_small property component.text (isColor component))
    (judgeKind_small property component)

end Component

theorem judgeParts_small (property : Text) (parts : List Value.Component) :
    (judgeParts property (parts.map (·.small))).outline = (judgeParts property parts).outline := by
  induction parts with
  | nil => rfl
  | cons part parts ih =>
      rw [List.map_cons, judgeParts, judgeParts, Verdict.outline_andThen, Verdict.outline_andThen,
        judgeComponent_small, ih]

theorem judge_small (property : Text) (value : Value) :
    (judge property value.small).outline = (judge property value).outline := by
  cases value with
  | single component => exact judgeComponent_small property component
  | composite text parts =>
      exact outline_getD (judgeText?_small property text false)
        (outline_getD (judgeKeyword?_small property text) (judgeParts_small property parts))

/-- The dangers of a declaration of texts. -/
def textDangers (entry : Text × Text) : List Rejection :=
  (if sanitizeName entry.1 = dangerousProperty then [.dangerousName (sanitizeName entry.1)]
    else []) ++ valueDangers (sanitizeName entry.1) entry.2

/-- What becomes of a declaration of texts in a batch without dangers. -/
def textOutcome (entry : Text × Text) : EntryOutcome :=
  let name := sanitizeName entry.1
  if !listed allowedProperties name then
    ⟨name, [], .reject (.propertyNotAllowed name entry.1)⟩
  else
    ⟨name, sanitizeValue entry.2, judge name (Value.parse name (sanitizeValue entry.2))⟩

/-- The result of validating declarations of texts. -/
def Result.ofTexts (entries : List (Text × Text)) (strict : Bool) : Result :=
  if (entries.flatMap textDangers).isEmpty then .ofOutcomes strict (entries.map textOutcome)
  else { rejections := entries.flatMap textDangers }

theorem entryDangers_texts (entry : Text × Text) :
    entryDangers (.text entry.1, .text entry.2) = .ok (textDangers entry) := rfl

theorem judgeEntry_texts (entry : Text × Text) :
    judgeEntry (.text entry.1, .text entry.2) = .ok (textOutcome entry) := by
  simp only [judgeEntry, textOutcome, Scalar.toText, Batch.valueText?, bind, Except.bind]
  split <;> rfl

theorem validate_ofTexts (entries : List (Text × Text)) (strict : Bool) :
    validate (Batch.ofTexts entries) strict = .ok (.ofTexts entries strict) := by
  have found : dangers (Batch.ofTexts entries) = .ok (entries.flatMap textDangers) := by
    rw [dangers, Batch.mapM_ofTexts fun entry _ => entryDangers_texts entry]
    rfl
  rw [validate, found, Batch.mapM_ofTexts fun entry _ => judgeEntry_texts entry, Result.ofTexts]
  simp only [bind, Except.bind]
  split <;> rfl

/-- A declaration with its texts in small letters. -/
def smallEntry (entry : Text × Text) : Text × Text :=
  (entry.1.small, entry.2.small)

theorem textDangers_small (entry : Text × Text) :
    textDangers (smallEntry entry) = textDangers entry := by
  rw [textDangers, smallEntry, sanitizeName_small, valueDangers_small, textDangers]

/-- What an outcome says apart from the wording of the value. -/
def EntryOutcome.outline (outcome : EntryOutcome) :
    Text × Text × Option (Text × RejectionKind × Option Text) × Nat :=
  (outcome.name, outcome.value.small, outcome.verdict.outline)

theorem textOutcome_small (entry : Text × Text) :
    (textOutcome (smallEntry entry)).outline = (textOutcome entry).outline := by
  simp only [textOutcome, smallEntry, sanitizeName_small]
  split
  · rfl
  · simp only [EntryOutcome.outline, sanitizeValue_small, Value.parse_small, judge_small,
      small_small]

/-- What a result says apart from the wording of the values: the codes, kinds and
properties of its rejections, the number of its warnings, and what it validated. -/
structure Result.Outline where
  rejections : List (Text × RejectionKind × Option Text)
  warnings : Nat
  validated : OrderedMap Text Text

def Result.outline (result : Result) : Result.Outline where
  rejections := result.rejections.map Rejection.outline
  warnings := result.warnings.length
  validated := result.validated.map fun entry => (entry.1, entry.2.small)

theorem outline_ofOutcomes {first second : List EntryOutcome}
    (same : first.map EntryOutcome.outline = second.map EntryOutcome.outline) (strict : Bool) :
    (Result.ofOutcomes strict first).outline = (Result.ofOutcomes strict second).outline := by
  -- Each part of the outline of a result is read off the outlines of its outcomes.
  have causes (outcomes : List EntryOutcome) :
      (outcomes.filterMap (·.verdict.rejection)).map Rejection.outline =
        (outcomes.map EntryOutcome.outline).filterMap (·.2.2.1) := by
    simp only [List.map_filterMap, List.filterMap_map]
    rfl
  have counts (outcomes : List EntryOutcome) :
      (outcomes.flatMap (·.verdict.warnings)).length =
        ((outcomes.map EntryOutcome.outline).map (·.2.2.2)).sum := by
    simp only [List.length_flatMap, List.map_map]
    rfl
  have kept (outcomes : List EntryOutcome) :
      (outcomes.filterMap (·.accepted?)).map (fun entry => (entry.1, entry.2.small)) =
        (outcomes.map EntryOutcome.outline).filterMap fun outline =>
          if outline.2.2.1.isNone then some (outline.1, outline.2.1) else none := by
    simp only [List.map_filterMap, List.filterMap_map]
    refine List.filterMap_congr fun outcome _ => ?_
    obtain ⟨name, value, cause, warnings⟩ := outcome
    cases cause <;> rfl
  have strict_eq {warnings others : List Warning} (count : warnings.length = others.length) :
      (strictRejection strict warnings).map Rejection.outline =
        (strictRejection strict others).map Rejection.outline := by
    have empty : warnings.isEmpty = others.isEmpty := by
      rw [Bool.eq_iff_iff, List.isEmpty_iff_length_eq_zero, count, List.isEmpty_iff_length_eq_zero]
    rw [strictRejection, strictRejection, empty]
    split <;> rfl
  have warned := (counts first).trans (same ▸ (counts second).symm)
  rw [Result.outline, Result.outline, Result.Outline.mk.injEq]
  refine ⟨?_, warned, ?_⟩
  · simp only [Result.ofOutcomes, List.map_append, causes, same, strict_eq warned]
  · simp only [Result.ofOutcomes, OrderedMap.map_ofList, kept, same]

theorem outline_ofTexts_small (entries : List (Text × Text)) (strict : Bool) :
    (Result.ofTexts (entries.map smallEntry) strict).outline =
      (Result.ofTexts entries strict).outline := by
  have found : (entries.map smallEntry).flatMap textDangers = entries.flatMap textDangers := by
    simp only [List.flatMap_map, textDangers_small]
  rw [Result.ofTexts, found, Result.ofTexts]
  split
  · apply outline_ofOutcomes
    simp only [List.map_map, Function.comp_def, textOutcome_small]
  · rfl

/-- Whether two declarations differ in nothing but the case of ASCII letters. -/
def AlikeEntries (first second : Text × Text) : Prop :=
  Alike first.1 second.1 ∧ Alike first.2 second.2

instance (first second : Text × Text) : Decidable (AlikeEntries first second) :=
  inferInstanceAs (Decidable (_ ∧ _))

theorem map_smallEntry_eq {first second : List (Text × Text)}
    (alike : List.Forall₂ AlikeEntries first second) :
    first.map smallEntry = second.map smallEntry := by
  induction alike with
  | nil => rfl
  | cons same _ ih => rw [List.map_cons, List.map_cons, ih, smallEntry, smallEntry, same.1, same.2]

/-- Changing the case of ASCII letters in names and values evades nothing. -/
theorem validate_caseless {first second : List (Text × Text)}
    (alike : List.Forall₂ AlikeEntries first second) (strict : Bool) :
    ∃ left right, validate (Batch.ofTexts first) strict = .ok left ∧
      validate (Batch.ofTexts second) strict = .ok right ∧
      left.ok = right.ok ∧
      left.rejections.map (fun cause => (cause.code, cause.kind, cause.property?)) =
        right.rejections.map (fun cause => (cause.code, cause.kind, cause.property?)) ∧
      left.warnings.length = right.warnings.length ∧
      List.Forall₂ (fun survivor other => survivor.1 = other.1 ∧ Alike survivor.2 other.2)
        left.validated right.validated := by
  have outlines : (Result.ofTexts first strict).outline = (Result.ofTexts second strict).outline :=
    calc (Result.ofTexts first strict).outline
        = (Result.ofTexts (first.map smallEntry) strict).outline :=
          (outline_ofTexts_small first strict).symm
      _ = (Result.ofTexts (second.map smallEntry) strict).outline := by
          rw [map_smallEntry_eq alike]
      _ = (Result.ofTexts second strict).outline := outline_ofTexts_small second strict
  refine ⟨_, _, validate_ofTexts first strict, validate_ofTexts second strict, ?_⟩
  obtain ⟨rejections, warnings, validated⟩ := (Result.Outline.mk.injEq ..).mp outlines
  refine ⟨?_, rejections, warnings, ?_⟩
  · have causes := congrArg List.isEmpty rejections
    rwa [List.isEmpty_map, List.isEmpty_map] at causes
  · have paired : List.Forall₂ (· = ·) (Result.ofTexts first strict).outline.validated
        (Result.ofTexts second strict).outline.validated := by
      rw [List.forall₂_eq_eq_eq]
      exact validated
    rw [Result.outline, Result.outline, List.forall₂_map_left_iff,
      List.forall₂_map_right_iff] at paired
    exact paired.imp fun survivor other equal => Prod.mk.inj equal

/-- A call of a URL is refused in any case, and what is beside it survives as it is written. -/
theorem validate_caseless_on_url :
    ∃ left right,
      validate (Batch.ofTexts [("Background".toList, "uRL (x)".toList),
        ("DISPLAY".toList, "Block".toList), ("font-family".toList, "Arial".toList)]) true =
          .ok left ∧
      validate (Batch.ofTexts [("background".toList, "url (X)".toList),
        ("display".toList, "BLOCK".toList), ("FONT-family".toList, "arial".toList)]) true =
          .ok right ∧
      left.validated =
        [("display".toList, "Block".toList), ("font-family".toList, "Arial".toList)] ∧
      left.rejections.map (·.code) = ["url_not_allowed".toList, "strict_warnings".toList] ∧
      right.rejections.map (fun cause => (cause.code, cause.kind, cause.property?)) =
        left.rejections.map fun cause => (cause.code, cause.kind, cause.property?) := by
  have ran : validate (Batch.ofTexts [("Background".toList, "uRL (x)".toList),
      ("DISPLAY".toList, "Block".toList), ("font-family".toList, "Arial".toList)]) true =
        .ok ⟨[("display".toList, "Block".toList), ("font-family".toList, "Arial".toList)],
          [⟨"font-family".toList, "Arial".toList⟩],
          [.urlValue "background".toList, .strictWarnings 1]⟩ := rfl
  have alike : List.Forall₂ AlikeEntries
      [("Background".toList, "uRL (x)".toList), ("DISPLAY".toList, "Block".toList),
        ("font-family".toList, "Arial".toList)]
      [("background".toList, "url (X)".toList), ("display".toList, "BLOCK".toList),
        ("FONT-family".toList, "arial".toList)] :=
    .cons (by decide) (.cons (by decide) (.cons (by decide) .nil))
  obtain ⟨left, right, left_ran, right_ran, -, rejections, -, -⟩ := validate_caseless alike true
  obtain rfl := Except.ok.inj (ran.symm.trans left_ran)
  exact ⟨_, right, ran, right_ran, rfl, rfl, rejections.symm⟩

end Gate

end CssAudit
