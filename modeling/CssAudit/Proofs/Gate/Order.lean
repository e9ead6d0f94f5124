import CssAudit.Proofs.Gate.Projection
import CssAudit.Proofs.Gate.RoundTrip

/-!
# The order of an inline style

An inline style and the inline style of what validation leaves have the same declarations.
Their order may differ: validation keeps the place of the first declaration of a name,
while a value that vanishes in the attribute gives the place of its name away.
-/

namespace CssAudit

namespace Gate

open OrderedMap (Precedes)

/-- Whether nothing of a declaration is left in the attribute. -/
def vanishes (declaration : Text × Text) : Bool :=
  (attributeValue declaration.2).isEmpty

/-- The declarations that hold the places of their names: neither they nor later ones of the
same name vanish. -/
def lasting : List (Text × Text) → List (Text × Text)
  | [] => []
  | declaration :: later =>
      if (declaration :: later).any fun other => other.1 == declaration.1 && vanishes other then
        lasting later
      else declaration :: lasting later

/-- A further declaration takes the places of its name away if it vanishes. -/
theorem lasting_concat (passed : List (Text × Text)) (last : Text × Text) :
    lasting (passed ++ [last]) =
      if vanishes last then (lasting passed).filter fun other => !(other.1 == last.1)
      else lasting passed ++ [last] := by
  induction passed with
  | nil => cases vanished : vanishes last <;> simp [lasting, vanished]
  | cons first passed ih =>
      rw [List.cons_append, lasting, lasting, ih, ← List.cons_append, List.any_append]
      cases gone : (first :: passed).any fun other => other.1 == first.1 && vanishes other with
      | true => simp
      | false =>
          cases vanished : vanishes last with
          | false => simp [vanished]
          | true =>
              by_cases same : first.1 = last.1
              · simp [vanished, same]
              · simp [vanished, same, Ne.symm same]

theorem lasting_sublist (passed : List (Text × Text)) : (lasting passed).Sublist passed := by
  induction passed with
  | nil => exact List.Sublist.refl []
  | cons first passed ih =>
      rw [lasting]
      split
      · exact ih.cons first
      · exact ih.cons_cons first

/-- A declaration with its value as it stands in the attribute. -/
def styled (declaration : Text × Text) : Text × Text :=
  (declaration.1, attributeValue declaration.2)

theorem map_fst_styled (passed : List (Text × Text)) :
    (passed.map styled).map (·.1) = passed.map (·.1) := by
  simp [styled, Function.comp_def]

theorem precedes_map_styled {passed : List (Text × Text)} {first second : Text} :
    Precedes (passed.map styled) first second ↔ Precedes passed first second := by
  rw [Precedes, map_fst_styled, Precedes]

/-- The styles are collected from the declarations that hold the places of their names. -/
theorem foldl_setStyle_eq (passed : List (Text × Text)) :
    passed.foldl setStyle [] = OrderedMap.ofList ((lasting passed).map styled) := by
  induction passed using List.reverseRecOn with
  | nil => rfl
  | append_singleton passed last ih =>
      rw [List.foldl_append, List.foldl_cons, List.foldl_nil, ih, lasting_concat]
      unfold setStyle vanishes
      dsimp only
      split
      · rw [OrderedMap.erase_ofList, List.filter_map]
        rfl
      · rw [List.map_append, List.map_singleton, OrderedMap.ofList_concat]
        rfl

theorem pairwise_names_foldl_setStyle (passed : List (Text × Text)) :
    ((passed.foldl setStyle []).map (·.1)).Pairwise (Precedes (lasting passed)) := by
  rw [foldl_setStyle_eq]
  exact (OrderedMap.pairwise_keys_ofList _).imp precedes_map_styled.mp

theorem pairwise_names_foldl_setStyle_ofList (passed : List (Text × Text)) :
    (((OrderedMap.ofList passed).foldl setStyle []).map (·.1)).Pairwise (Precedes passed) := by
  -- The names are distinct already, so whatever lasts of them keeps its place.
  have part : ((lasting (OrderedMap.ofList passed)).map (·.1)).Sublist
      ((OrderedMap.ofList passed).map (·.1)) := (lasting_sublist _).map _
  have distinct : OrderedMap.Distinct ((lasting (OrderedMap.ofList passed)).map styled) := by
    rw [OrderedMap.Distinct, map_fst_styled]
    exact (OrderedMap.distinct_ofList passed).sublist part
  rw [foldl_setStyle_eq, OrderedMap.ofList_eq_self distinct, map_fst_styled]
  exact (OrderedMap.pairwise_keys_ofList passed).sublist part

/-- Collecting first changes the order of the styles at most. -/
theorem perm_foldl_setStyle_ofList (passed : List (Text × Text)) :
    ((OrderedMap.ofList passed).foldl setStyle []).Perm (passed.foldl setStyle []) := by
  refine OrderedMap.perm_of_mem_iff (distinct_foldl_setStyle _ List.nodup_nil)
    (distinct_foldl_setStyle _ List.nodup_nil) ?_
  rintro ⟨name, value⟩
  rw [mem_foldl_setStyle_iff, mem_foldl_setStyle_iff,
    OrderedMap.ofList_eq_self (OrderedMap.distinct_ofList passed)]

theorem precedes_lasting_iff {passed : List (Text × Text)} {first second : Text}
    (kept : ∀ declaration ∈ passed, declaration.1 = first ∨ declaration.1 = second →
      vanishes declaration = false) :
    Precedes (lasting passed) first second ↔ Precedes passed first second := by
  induction passed with
  | nil => rfl
  | cons declaration later ih =>
      have others := ih fun other member => kept other (List.mem_cons_of_mem _ member)
      rw [lasting, OrderedMap.precedes_cons_iff]
      split
      · rename_i gone
        -- A declaration that does not last bears neither of the two names.
        obtain ⟨other, member, spec⟩ := List.any_eq_true.mp gone
        obtain ⟨same, vanished⟩ := Bool.and_eq_true_iff.mp spec
        have foreign : ¬ (declaration.1 = first ∨ declaration.1 = second) := by
          intro one
          rw [← eq_of_beq same] at one
          rw [kept other member one] at vanished
          exact absurd vanished (by decide)
        rw [not_or] at foreign
        rw [others, or_iff_right foreign.1, and_iff_right foreign.2]
      · rw [OrderedMap.precedes_cons_iff, others]

theorem passing_of_judged {entry : Scalar × Datum} {outcome : EntryOutcome}
    (readable : Batch.Readable [entry]) (safe : ¬ IsHit entry)
    (judged : judgeEntry entry = .ok outcome) :
    passing entry = .ok outcome.accepted?.toList := by
  obtain ⟨⟨written, name_eq⟩, text?, value_eq⟩ := readable entry List.mem_cons_self
  obtain ⟨other, other_eq, _, spec⟩ := judgeEntry_spec name_eq value_eq
  obtain rfl : outcome = other := Except.ok.inj (judged.symm.trans other_eq)
  cases accepted : outcome.accepted? with
  | some declaration => exact passing_of_survives ⟨safe, (spec declaration).mp accepted⟩
  | none =>
      obtain ⟨result, validated, passes | fails⟩ := validate_singleton readable
      · obtain ⟨declaration, survives, _⟩ := passes
        have present := (spec declaration).mpr survives.admits
        rw [accepted] at present
        exact absurd present (by simp)
      · simp [passing, validated, bind, Except.bind, Result.ok, fails.2]

/-- In a batch without dangers the same declarations pass one by one and survive together. -/
theorem validated_eq_of_passed {batch : Batch} (safe : dangers batch = .ok []) :
    ∃ passed result, batch.mapM passing = .ok passed ∧ validate batch false = .ok result ∧
      result.validated = OrderedMap.ofList passed.flatten := by
  have readable := readable_of_dangers safe
  obtain ⟨found, searched, empty_iff, _⟩ := dangers_spec readable
  have harmless := empty_iff.mp (Except.ok.inj (searched.symm.trans safe))
  obtain ⟨outcomes, judged, validated⟩ := validate_of_safe readable false harmless
  refine ⟨outcomes.map fun outcome => outcome.accepted?.toList, _, ?_, validated, ?_⟩
  · rw [Batch.mapM_eq_ok_iff] at judged ⊢
    rw [List.forall₂_map_right_iff]
    have each : ∀ entry ∈ batch, Batch.Readable [entry] ∧ ¬ IsHit entry := by
      intro entry member
      refine ⟨fun other single => ?_, harmless entry member⟩
      rw [List.mem_singleton.mp single]
      exact readable entry member
    refine ((List.forall₂_and_left _ _).mpr ⟨each, judged⟩).imp ?_
    rintro entry outcome ⟨⟨readable, harmless⟩, judged⟩
    exact passing_of_judged readable harmless judged
  · simp [Result.ofOutcomes, List.filterMap_eq_flatMap_toList, List.flatMap_def]

theorem inlineStyle_eq_iff {batch other : Batch} {styles others : OrderedMap Text Text}
    (ran : inlineStyles batch = .ok styles) (other_ran : inlineStyles other = .ok others)
    (perm : styles.Perm others) :
    inlineStyle batch = inlineStyle other ↔ styles = others := by
  have text : inlineStyle batch = .ok (Stylesheet.renderDeclarations styles) :=
    inlineStyle_eq_ok_iff.mpr ⟨styles, ran, rfl⟩
  have other_text : inlineStyle other = .ok (Stylesheet.renderDeclarations others) :=
    inlineStyle_eq_ok_iff.mpr ⟨others, other_ran, rfl⟩
  rw [text, other_text, Except.ok.injEq]
  constructor
  · exact Stylesheet.renderDeclarations_inj (inlineStyles_spec ran).1 perm
      (isRenderable_of_mem_styles ran)
  · exact fun same => congrArg _ same

/-- Rendering a batch without dangers and rendering what its validation leaves come to the
same declarations.  They come to the same text exactly if the rendered names stand in the
same order among all declarations that pass and among those that last; this is so if no
declaration of a rendered name vanishes. -/
theorem inlineStyle_validated_iff {batch : Batch} (safe : dangers batch = .ok []) :
    ∃ passed result styles again, batch.mapM passing = .ok passed ∧
      validate batch false = .ok result ∧ inlineStyles batch = .ok styles ∧
      inlineStyles (Batch.ofTexts result.validated) = .ok again ∧ again.Perm styles ∧
      (inlineStyle (Batch.ofTexts result.validated) = inlineStyle batch ↔
        ∀ first ∈ styles, ∀ second ∈ styles, Precedes passed.flatten first.1 second.1 →
          Precedes (lasting passed.flatten) first.1 second.1) ∧
      ((∀ declaration ∈ styles, ∀ other ∈ passed.flatten, other.1 = declaration.1 →
          vanishes other = false) →
        inlineStyle (Batch.ofTexts result.validated) = inlineStyle batch) := by
  obtain ⟨passed, result, passed_eq, validated, result_eq⟩ := validated_eq_of_passed safe
  have ran : inlineStyles batch = .ok (passed.flatten.foldl setStyle []) :=
    inlineStyles_eq_ok_iff.mpr ⟨passed, passed_eq, rfl⟩
  have again := inlineStyles_of_survivors (validated_spec validated).2
  have perm := perm_foldl_setStyle_ofList passed.flatten
  have ordered := OrderedMap.eq_iff_precedes perm
    (pairwise_names_foldl_setStyle_ofList passed.flatten)
    (pairwise_names_foldl_setStyle passed.flatten)
  rw [← result_eq] at perm ordered
  have same := (inlineStyle_eq_iff again ran perm).trans ordered
  refine ⟨passed, result, _, _, passed_eq, validated, ran, again, perm, same, fun kept => ?_⟩
  refine same.mpr fun first first_mem second second_mem before => ?_
  refine (precedes_lasting_iff fun declaration member one => ?_).mpr before
  rcases one with one | one
  · exact kept first first_mem declaration member one
  · exact kept second second_mem declaration member one

/-- A border whose quotation marks vanish gives its place to the color behind it. -/
theorem inlineStyle_validated_iff_on_vanished_border :
    dangers (Batch.ofTexts [("border".toList, "''".toList),
        ("border-color".toList, "red".toList), ("BORDER".toList, "1px solid".toList)]) =
      .ok [] ∧
    inlineStyle (Batch.ofTexts [("border".toList, "''".toList),
        ("border-color".toList, "red".toList), ("BORDER".toList, "1px solid".toList)]) =
      .ok "border-color: red; border: 1px solid".toList ∧
    ∃ result, validate (Batch.ofTexts [("border".toList, "''".toList),
        ("border-color".toList, "red".toList), ("BORDER".toList, "1px solid".toList)]) false =
          .ok result ∧
      inlineStyle (Batch.ofTexts result.validated) ≠
        .ok "border-color: red; border: 1px solid".toList := by
  have ran : inlineStyle (Batch.ofTexts [("border".toList, "''".toList),
      ("border-color".toList, "red".toList), ("BORDER".toList, "1px solid".toList)]) =
    .ok "border-color: red; border: 1px solid".toList := rfl
  have safe : dangers (Batch.ofTexts [("border".toList, "''".toList),
      ("border-color".toList, "red".toList), ("BORDER".toList, "1px solid".toList)]) =
    .ok [] := rfl
  obtain ⟨passed, result, styles, again, passed_eq, validated, styles_eq, _, _, ordered, _⟩ :=
    inlineStyle_validated_iff safe
  refine ⟨safe, ran, result, validated, ?_⟩
  obtain rfl : [[("border".toList, "''".toList)], [("border-color".toList, "red".toList)],
      [("border".toList, "1px solid".toList)]] = passed := Except.ok.inj passed_eq
  obtain rfl : [("border-color".toList, "red".toList),
      ("border".toList, "1px solid".toList)] = styles := Except.ok.inj styles_eq
  rw [← ran, ne_eq, ordered]
  intro agree
  have before := agree ("border".toList, "1px solid".toList) (by simp)
    ("border-color".toList, "red".toList) (by simp) (by unfold Precedes; decide)
  exact absurd before (by unfold Precedes; decide)

end Gate

end CssAudit
