import CssAudit.Proofs.Gate.Survival
import CssAudit.Proofs.OrderedMap.Collection
import CssAudit.Proofs.Value.Numbers

/-!
# Rendered declarations

Every rendered declaration stems from an entry that survives on its own, with the
breakout characters taken out of its value.  Taking them out changes free-form values
only, and may join what they separated: such a declaration is accepted as it stands
exactly if its value is harmless after all.
-/

namespace CssAudit

namespace Gate

/-- Where a rendered declaration comes from: an entry of the batch survives on its own
in the same name, and the value is what the attribute keeps of the surviving value. -/
structure Stems (batch : Batch) (declaration : Text × Text) : Prop where
  nonempty : declaration.2 ≠ []
  source : ∃ entry ∈ batch, ∃ value, Survives entry (declaration.1, value) ∧
    declaration.2 = attributeValue value

theorem forall_isBreakout_iff {holds : Char → Prop} :
    (∀ c, isBreakout c = true → holds c) ↔
      holds '"' ∧ holds '\'' ∧ holds '<' ∧ holds '>' := by
  simp [isBreakout, or_imp, forall_and, and_assoc]

theorem mem_attributeValue {c : Char} {value : Text}
    (member : c ∈ attributeValue value) : c ∈ value ∧ isBreakout c = false := by
  have kept := (Text.trim_sublist _).subset member
  simpa using List.mem_filter.mp kept

theorem trim_attributeValue (value : Text) :
    Text.trim (attributeValue value) = attributeValue value :=
  Text.trim_trim _

theorem attributeValue_eq_self {value : Text} (trimmed : Text.trim value = value)
    (unbroken : ∀ c ∈ value, isBreakout c = false) : attributeValue value = value := by
  have kept : value.filter (fun c => !isBreakout c) = value :=
    List.filter_eq_self.mpr fun c member => by simp [unbroken c member]
  rw [attributeValue, kept, trimmed]

theorem distinct_setStyle {styles : OrderedMap Text Text}
    (distinct : OrderedMap.Distinct styles) (added : Text × Text) :
    OrderedMap.Distinct (setStyle styles added) := by
  unfold setStyle
  dsimp only
  split
  · exact OrderedMap.distinct_erase _ distinct
  · exact OrderedMap.distinct_insert _ _ distinct

theorem distinct_foldl_setStyle (passed : List (Text × Text))
    {styles : OrderedMap Text Text} (distinct : OrderedMap.Distinct styles) :
    OrderedMap.Distinct (passed.foldl setStyle styles) := by
  induction passed generalizing styles with
  | nil => exact distinct
  | cons added passed ih => exact ih (distinct_setStyle distinct added)

theorem mem_setStyle_iff {styles : OrderedMap Text Text}
    (distinct : OrderedMap.Distinct styles) {added : Text × Text} {name value : Text} :
    (name, value) ∈ setStyle styles added ↔
      (name = added.1 ∧ value = attributeValue added.2 ∧ value ≠ []) ∨
        (name ≠ added.1 ∧ (name, value) ∈ styles) := by
  unfold setStyle
  dsimp only
  split
  · rename_i empty
    rw [List.isEmpty_iff] at empty
    rw [OrderedMap.mem_erase_iff, and_comm, empty]
    exact (or_iff_right fun vanished => vanished.2.2 vanished.2.1).symm
  · rename_i nonempty
    rw [List.isEmpty_iff] at nonempty
    rw [OrderedMap.mem_insert_iff distinct]
    refine or_congr_left (and_congr_right fun _ => (and_iff_left_of_imp ?_).symm)
    rintro rfl
    exact nonempty

/-- A style is what the attribute keeps of the last declaration of its name. -/
theorem mem_foldl_setStyle_iff {passed : List (Text × Text)} {name value : Text} :
    (name, value) ∈ passed.foldl setStyle [] ↔
      value ≠ [] ∧ ∃ source, (name, source) ∈ OrderedMap.ofList passed ∧
        value = attributeValue source := by
  induction passed using List.reverseRecOn with
  | nil => simp [OrderedMap.ofList, OrderedMap.insertAll]
  | append_singleton passed last ih =>
      have distinct : OrderedMap.Distinct (passed.foldl setStyle []) :=
        distinct_foldl_setStyle passed List.nodup_nil
      rw [List.foldl_append, List.foldl_cons, List.foldl_nil, mem_setStyle_iff distinct, ih,
        OrderedMap.ofList_concat]
      simp only [OrderedMap.mem_insert_iff (OrderedMap.distinct_ofList passed)]
      constructor
      · rintro (⟨rfl, rfl, nonempty⟩ | ⟨different, nonempty, source, member, rfl⟩)
        · exact ⟨nonempty, last.2, .inl ⟨rfl, rfl⟩, rfl⟩
        · exact ⟨nonempty, source, .inr ⟨different, member⟩, rfl⟩
      · rintro ⟨nonempty, source, ⟨rfl, rfl⟩ | ⟨different, member⟩, rfl⟩
        · exact .inl ⟨rfl, rfl, nonempty⟩
        · exact .inr ⟨different, nonempty, source, member, rfl⟩

theorem inlineStyles_eq_ok_iff {batch : Batch} {styles : OrderedMap Text Text} :
    inlineStyles batch = .ok styles ↔
      ∃ passed, batch.mapM passing = .ok passed ∧ passed.flatten.foldl setStyle [] = styles := by
  rw [inlineStyles, Batch.bind_eq_ok_iff]
  simp only [Except.ok.injEq]

theorem inlineStyle_eq_ok_iff {batch : Batch} {text : Text} :
    inlineStyle batch = .ok text ↔
      ∃ styles, inlineStyles batch = .ok styles ∧ Stylesheet.renderDeclarations styles = text := by
  rw [inlineStyle, Batch.bind_eq_ok_iff]
  simp only [Except.ok.injEq]

/-- The styles of a batch have each name once, and each declaration stems from an
entry. -/
theorem inlineStyles_spec {batch : Batch} {styles : OrderedMap Text Text}
    (ran : inlineStyles batch = .ok styles) :
    OrderedMap.Distinct styles ∧ ∀ declaration ∈ styles, Stems batch declaration := by
  obtain ⟨passed, passed_eq, rfl⟩ := inlineStyles_eq_ok_iff.mp ran
  refine ⟨distinct_foldl_setStyle _ List.nodup_nil, fun declaration member => ?_⟩
  obtain ⟨nonempty, value, value_mem, value_eq⟩ := mem_foldl_setStyle_iff.mp member
  obtain ⟨survivors, survivors_mem, within⟩ :=
    List.mem_flatten.mp (OrderedMap.mem_of_mem_ofList value_mem)
  obtain ⟨entry, entry_mem, entry_eq⟩ := Batch.exists_item_of_mapM passed_eq survivors_mem
  exact ⟨nonempty, entry, entry_mem, value, survives_of_mem_passing entry_eq within,
    value_eq⟩

/-- Declarations that survive in themselves are all styled. -/
theorem inlineStyles_of_survivors {entries : List (Text × Text)}
    (survive : ∀ entry ∈ entries, Survives (.text entry.1, .text entry.2) entry) :
    inlineStyles (Batch.ofTexts entries) = .ok (entries.foldl setStyle []) := by
  have passed : (Batch.ofTexts entries).mapM passing =
      .ok (entries.map fun entry => [entry]) :=
    Batch.mapM_ofTexts fun entry member => passing_of_survives (survive entry member)
  have flat : (entries.map fun entry => [entry]).flatten = entries := by
    rw [← List.flatMap_def, List.flatMap_singleton']
  exact inlineStyles_eq_ok_iff.mpr ⟨_, passed, by rw [flat]⟩

section Stems

variable {batch : Batch} {declaration : Text × Text} (stems : Stems batch declaration)
include stems

theorem Stems.allowed : listed allowedProperties declaration.1 = true := by
  obtain ⟨_, _, _, survives, _⟩ := stems.source
  exact survives.admits.allowed

theorem Stems.trimmed : Text.trim declaration.2 = declaration.2 := by
  obtain ⟨_, _, value, _, value_eq⟩ := stems.source
  rw [value_eq, trim_attributeValue]

theorem Stems.unbroken : ∀ c ∈ declaration.2, isBreakout c = false := by
  obtain ⟨_, _, value, _, value_eq⟩ := stems.source
  rw [value_eq]
  exact fun _ member => (mem_attributeValue member).2

theorem Stems.nul_free : nul ∉ declaration.2 := by
  obtain ⟨_, _, value, survives, value_eq⟩ := stems.source
  rw [value_eq]
  exact fun member => survives.isClean.nul_free (mem_attributeValue member).1

/-- Normalizing a rendered value leaves something of it. -/
theorem Stems.sanitizeValue_ne_nil : sanitizeValue declaration.2 ≠ [] := by
  obtain ⟨c, rest, shape⟩ := List.exists_cons_of_ne_nil stems.nonempty
  have first : (Text.trim declaration.2).head? = some c := by
    rw [stems.trimmed, shape, List.head?_cons]
  have member : c ∈ declaration.2 := by simp [shape]
  have kept : c ∈ sanitizeValue declaration.2 :=
    (mem_sanitizeValue (Text.head?_trim c first)).mpr
      ⟨member, fun same => stems.nul_free (same ▸ member)⟩
  exact List.ne_nil_of_mem kept

end Stems

theorem of_keyword (holds : Text → Prop)
    (wide : ∀ keyword ∈ Value.wideKeywords, holds keyword.toList)
    (table : ∀ entry ∈ keywordTable, ∀ keyword ∈ entry.2, holds keyword.toList)
    {property word : Text} (known : Value.isWideKeyword word = true ∨ ∃ keywords,
      keywordsOf? property = some keywords ∧ listed keywords word = true) : holds word := by
  rcases known with known | ⟨keywords, keywords_eq, known⟩
  · obtain ⟨keyword, member, same⟩ := List.any_eq_true.mp known
    rw [← eq_of_beq same]
    exact wide keyword member
  · obtain ⟨entry, found, rfl⟩ := Option.map_eq_some_iff.mp keywords_eq
    obtain ⟨keyword, member, same⟩ := List.any_eq_true.mp known
    rw [← eq_of_beq same]
    exact table entry (List.mem_of_find?_eq_some found) keyword member

theorem isNameChar_of_keyword {property word : Text}
    (known : Value.isWideKeyword word = true ∨ ∃ keywords,
      keywordsOf? property = some keywords ∧ listed keywords word = true) :
    ∀ c ∈ word, isNameChar c = true := by
  have named : word.all isNameChar = true :=
    of_keyword (fun word => word.all isNameChar = true) (by decide) (by decide) known
  exact List.all_eq_true.mp named

/-- The accepted values of properties that are not free in form hold no character that
is foreign to keywords, color literals and lengths. -/
theorem not_mem_of_not_isFreeForm {property value : Text}
    (bound : isFreeForm property = false) (trimmed : Text.trim value = value)
    (accepted : (judge property (Value.parse property value)).rejection = none)
    {c : Char} (small : c.toNat < 0x80) (same : c.toLower = c)
    (no_name : isNameChar c = false) (no_literal : Color.isLiteralChar c = false)
    (no_length : Value.isLengthChar c = false) : c ∉ value := by
  intro member
  have no_keyword (known : Value.isWideKeyword value.lower = true ∨ ∃ keywords,
      keywordsOf? property = some keywords ∧ listed keywords value.lower = true) :
      False := by
    have kept := isNameChar_of_keyword known c (Text.mem_lower_of_mem small same member)
    rw [no_name] at kept
    exact absurd kept (by decide)
  have shape := accepted_of_not_isFreeForm bound accepted
  rw [Value.parse_text, trimmed] at shape
  rcases shape with wide | keyword | ⟨text, color, read⟩ | ⟨text, number, unit, read⟩
  · exact no_keyword (.inl wide)
  · exact no_keyword (.inr keyword)
  · have parsed := Value.parse_eq_color read
    rw [trimmed] at parsed
    exact Color.not_mem_of_parse? parsed small same no_literal member
  · have parsed := Value.parse_eq_length read
    rw [trimmed] at parsed
    have kept := Value.isLengthChar_of_length? parsed c member
    rw [no_length] at kept
    exact absurd kept (by decide)

theorem Survives.unbroken_of_not_isFreeForm {entry : Scalar × Datum}
    {declaration : Text × Text} (survives : Survives entry declaration)
    (bound : isFreeForm declaration.1 = false) :
    ∀ c ∈ declaration.2, isBreakout c = false := by
  intro c member
  refine Bool.eq_false_iff.mpr fun breakout => ?_
  have foreign : ∀ c, isBreakout c = true → c.toNat < 0x80 ∧ c.toLower = c ∧
      isNameChar c = false ∧ Color.isLiteralChar c = false ∧ Value.isLengthChar c = false :=
    forall_isBreakout_iff.mpr (by decide)
  obtain ⟨small, same, no_name, no_literal, no_length⟩ := foreign c breakout
  exact not_mem_of_not_isFreeForm bound survives.trimmed survives.admits.accepted small same
    no_name no_literal no_length member

/-- A declaration whose value has no breakout characters is accepted as rendered. -/
theorem Survives.accepts_attributeValue {entry : Scalar × Datum} {name value : Text}
    (survives : Survives entry (name, value))
    (unbroken : ∀ c ∈ value, isBreakout c = false) :
    Accepts (name, attributeValue value) := by
  rw [attributeValue_eq_self survives.trimmed unbroken]
  exact survives.accepts

/-- When a rendered declaration is accepted as it stands.  It stems from an entry that
survives, and is accepted again if the surviving value had no breakout characters; in
general it is accepted exactly if its property is not free in form or its value, after
all, is harmless. -/
theorem accepts_rendered_iff {batch : Batch} {styles : OrderedMap Text Text}
    (ran : inlineStyles batch = .ok styles) :
    ∀ declaration ∈ styles,
      (∃ entry ∈ batch, ∃ value, Survives entry (declaration.1, value) ∧
        declaration.2 = attributeValue value ∧
          ((∀ c ∈ value, isBreakout c = false) → Accepts declaration)) ∧
      (Accepts declaration ↔
        isFreeForm declaration.1 = false ∨ IsHarmless declaration.2) := by
  rintro ⟨name, rendered⟩ member
  have stems := (inlineStyles_spec ran).2 _ member
  obtain ⟨entry, entry_mem, value, survives, rfl⟩ := stems.source
  refine ⟨⟨entry, entry_mem, value, survives, rfl, survives.accepts_attributeValue⟩, ?_⟩
  cases free : isFreeForm name with
  | false =>
      simp only [true_or, iff_true]
      exact survives.accepts_attributeValue (survives.unbroken_of_not_isFreeForm free)
  | true =>
      simp only [Bool.true_eq_false, false_or]
      exact accepts_iff_isHarmless stems.allowed free stems.nul_free
        stems.sanitizeValue_ne_nil

/-- Taking out a bracket joins a pattern that the gate would have refused. -/
theorem accepts_rendered_iff_on_split_pattern :
    inlineStyles (Batch.ofTexts [("font-family".toList, "java<script:".toList)]) =
        .ok [("font-family".toList, "javascript:".toList)] ∧
      ¬ Accepts ("font-family".toList, "javascript:".toList) := by
  have ran : inlineStyles (Batch.ofTexts
      [("font-family".toList, "java<script:".toList)]) =
      .ok [("font-family".toList, "javascript:".toList)] := rfl
  refine ⟨ran, fun accepts => ?_⟩
  rcases (accepts_rendered_iff ran _ List.mem_cons_self).2.mp accepts with bound | harmless
  · exact absurd bound (by decide)
  · exact harmless.pattern_free "javascript:" (by decide) (by decide)

end Gate

end CssAudit
