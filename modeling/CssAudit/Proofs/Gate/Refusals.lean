import CssAudit.Proofs.Gate.Language

/-!
# The warnings of refused values

A single component is refused without a warning.  The parts of a longer value are judged
one after another, and the warnings about the parts in front of the refused one are kept.
A refusal therefore leaves the warnings as they were exactly if the gate understands all
of these parts.
-/

namespace CssAudit

namespace Gate

/-- A value of several parts is refused for one of them: its property is free in form, its
text passes the first rules, and all parts in front of the refused one are accepted. -/
structure BreaksOff (property : Text) (value : Value) (before : List Value.Component)
    (part : Value.Component) : Prop where
  free : isFreeForm property = true
  nonempty : value.text ≠ []
  silent : ¬ Value.CallsUrl value.text
  shape : ∃ after, value = .composite value.text (before ++ part :: after)
  accepted : ∀ earlier ∈ before, (judgeComponent property earlier).rejection = none
  refused : (judgeComponent property part).rejection ≠ none

theorem judgeParts_append (property : Text) (first second : List Value.Component) :
    judgeParts property (first ++ second) =
      (judgeParts property first).andThen (judgeParts property second) := by
  induction first with
  | nil => exact (Verdict.accept_andThen _).symm
  | cons part first ih => rw [List.cons_append, judgeParts, judgeParts, ih, Verdict.andThen_assoc]

theorem judgeParts_of_refused {property : Text} {part : Value.Component}
    (refused : (judgeComponent property part).rejection ≠ none)
    (after : List Value.Component) :
    judgeParts property (part :: after) = judgeComponent property part := by
  obtain ⟨cause, refused⟩ := Option.ne_none_iff_exists'.mp refused
  rw [judgeParts, Verdict.andThen, refused]

/-- What is left of a value that is refused for a part: the warnings about the parts in
front of it that the gate does not understand. -/
theorem BreaksOff.warnings_eq {property : Text} {value : Value}
    {before : List Value.Component} {part : Value.Component}
    (breaks : BreaksOff property value before part) :
    (judge property value).warnings =
      (before.filter fun earlier => ¬ understands earlier = true).map
        fun earlier => ⟨property, earlier.text⟩ := by
  obtain ⟨after, shape⟩ := breaks.shape
  have judged : judge property value =
      (judgeParts property before).andThen (judgeComponent property part) := by
    rw [shape, judge_composite breaks.free _ breaks.nonempty breaks.silent,
      judgeParts_append, judgeParts_of_refused breaks.refused]
  have silently :=
    (isElementary_judgeComponent property part).warnings_of_refused breaks.refused
  rw [judged, Verdict.andThen, judgeParts_accepts_iff _ |>.mpr breaks.accepted]
  simp only [silently, List.append_nil]
  exact judgeParts_warnings breaks.free breaks.accepted

/-- The first rules leave a text to the others only if it is not empty and calls no URL. -/
theorem of_judgeText?_eq_none {property text : Text} {known : Bool}
    (passed : judgeText? property text known = none) :
    text ≠ [] ∧ ¬ Value.CallsUrl text := by
  rw [← Value.mentionsUrl_iff]
  unfold judgeText? at passed
  split at passed
  · cases passed
  · rename_i nonempty
    split at passed
    · cases passed
    · rename_i silent
      exact ⟨by simpa using nonempty, silent⟩

theorem exists_breaksOff {property : Text} {value : Value}
    (refused : (judge property value).rejection ≠ none)
    (warned : (judge property value).warnings ≠ []) :
    ∃ before part, BreaksOff property value before part := by
  have free : isFreeForm property = true := by
    by_contra bound
    rw [Bool.not_eq_true] at bound
    rcases class_of_not_isFreeForm bound with color | ⟨_, keywords, table⟩
    · exact warned (judge_warnings_of_takesColor color value)
    · exact warned (judge_warnings_of_keywordsOf? table value)
  cases value with
  | single component =>
      exact absurd ((isElementary_judgeComponent property component).warnings_of_refused
        refused) warned
  | composite text parts =>
      have passed : judgeText? property text false = none := by
        cases judged : judgeText? property text false with
        | none => rfl
        | some verdict =>
            rw [judge, judged] at warned
            exact absurd (judgeText?_warnings judged) warned
      obtain ⟨nonempty, silent⟩ := of_judgeText?_eq_none passed
      rw [judge_composite free parts nonempty silent, judgeParts_rejection] at refused
      obtain ⟨cause, found⟩ := Option.ne_none_iff_exists'.mp refused
      obtain ⟨before, part, after, rfl, at_part, accepted⟩ :=
        List.findSome?_eq_some_iff.mp found
      exact ⟨before, part, {
        free := free
        nonempty := nonempty
        silent := silent
        shape := ⟨after, rfl⟩
        accepted := accepted
        refused := by rw [at_part]; exact Option.some_ne_none cause }⟩

/-- A refused value leaves the warnings as they were exactly if the gate understands every
part in front of the part it is refused for.  Otherwise it adds one warning for each of
these parts that is not understood. -/
theorem judge_leaves_warnings_iff {property : Text} {value : Value} {cause : Rejection}
    (refused : (judge property value).rejection = some cause) (initial : List Warning) :
    (initial ++ (judge property value).warnings = initial ↔
      ∀ before part, BreaksOff property value before part →
        ∀ earlier ∈ before, understands earlier = true) ∧
    ∀ before part, BreaksOff property value before part →
      initial ++ (judge property value).warnings =
        initial ++ (before.filter fun earlier => ¬ understands earlier = true).map
          fun earlier => ⟨property, earlier.text⟩ := by
  refine ⟨?_, fun before part breaks => by rw [breaks.warnings_eq]⟩
  rw [List.append_right_eq_self]
  constructor
  · intro unwarned before part breaks
    rw [breaks.warnings_eq, List.map_eq_nil_iff, List.filter_eq_nil_iff] at unwarned
    simpa using unwarned
  · intro understood
    by_contra warned
    obtain ⟨before, part, breaks⟩ :=
      exists_breaksOff (refused ▸ Option.some_ne_none cause) warned
    have unwarned : before.filter (fun earlier => ¬ understands earlier = true) = [] :=
      List.filter_eq_nil_iff.mpr fun earlier member => by
        simp [understood before part breaks earlier member]
    rw [breaks.warnings_eq, unwarned] at warned
    exact warned rfl

/-- A word that the gate does not know stays in the warnings of the number that refuses the
value behind it. -/
theorem judge_leaves_warnings_iff_on_unknown_word :
    (judge "margin".toList (Value.parse "margin".toList "foo 1.2.3".toList)).rejection =
        some (.invalidNumber "margin".toList "1.2.3".toList) ∧
      ∀ initial : List Warning, initial ++ (judge "margin".toList
        (Value.parse "margin".toList "foo 1.2.3".toList)).warnings ≠ initial := by
  have refused : (judge "margin".toList
      (Value.parse "margin".toList "foo 1.2.3".toList)).rejection =
      some (.invalidNumber "margin".toList "1.2.3".toList) := by
    decide +kernel
  refine ⟨refused, fun initial same => ?_⟩
  have breaks : BreaksOff "margin".toList (Value.parse "margin".toList "foo 1.2.3".toList)
      [.keyword "foo".toList] (.unparsed "1.2.3".toList) := {
    free := by decide
    nonempty := by decide
    silent := by rw [← Value.mentionsUrl_iff]; decide
    shape := ⟨[], rfl⟩
    accepted := by decide +kernel
    refused := by decide +kernel }
  have understood := (judge_leaves_warnings_iff refused initial).1.mp same _ _ breaks
    _ List.mem_cons_self
  exact absurd understood (by decide)

end Gate

end CssAudit
