import CssAudit.Proofs.Gate.Rendering
import CssAudit.Proofs.Stylesheet.RoundTrip

/-!
# One name at a time

What an inline style renders for a name is decided by the last entry that passes the gate
under this name, and by no other.  Entries that do not pass may therefore be left out.
Nothing that is rendered could leave the attribute.
-/

namespace CssAudit

namespace Gate

open Stylesheet

/-- Whether an entry passes the gate as a batch of its own. -/
def Passes (entry : Scalar × Datum) : Prop :=
  ∃ result, validate [entry] false = .ok result ∧ result.ok = true

/-- Whether an entry passes the gate, and its name comes to a given one. -/
structure PassesUnder (name : Text) (entry : Scalar × Datum) : Prop where
  name_eq : ∃ written, entry.1.toText = .ok written ∧ sanitizeName written = name
  passes : Passes entry

theorem passes_iff {entry : Scalar × Datum} :
    Passes entry ↔ ∃ declaration, Survives entry declaration := by
  constructor
  · rintro ⟨result, validated, ok⟩
    have accepted : result.rejections = [] := List.isEmpty_iff.mp ok
    obtain ⟨other, again, passes | fails⟩ :=
      validate_singleton (readable_of_validate validated)
    · obtain ⟨declaration, survives, _⟩ := passes
      exact ⟨declaration, survives⟩
    · obtain rfl : result = other := Except.ok.inj (validated.symm.trans again)
      exact absurd accepted fails.2
  · rintro ⟨declaration, survives⟩
    obtain ⟨result, validated, passes | fails⟩ := validate_singleton survives.readable
    · obtain ⟨_, _, accepted, _⟩ := passes
      exact ⟨result, validated, List.isEmpty_iff.mpr accepted⟩
    · exact absurd survives (fails.1 declaration)

theorem passesUnder_iff {name : Text} {entry : Scalar × Datum} :
    PassesUnder name entry ↔ ∃ value, Survives entry (name, value) := by
  constructor
  · rintro ⟨⟨written, name_eq, rfl⟩, passes⟩
    obtain ⟨declaration, survives⟩ := passes_iff.mp passes
    refine ⟨declaration.2, ?_⟩
    rw [survives.admits.name_of name_eq]
    exact survives
  · rintro ⟨value, survives⟩
    exact ⟨survives.admits.name_eq, passes_iff.mpr ⟨_, survives⟩⟩

theorem Survives.passesUnder_iff {entry : Scalar × Datum} {declaration : Text × Text}
    (survives : Survives entry declaration) {name : Text} :
    PassesUnder name entry ↔ declaration.1 = name := by
  rw [Gate.passesUnder_iff]
  constructor
  · rintro ⟨value, other⟩
    exact congrArg Prod.fst (survives.admits.unique other.admits)
  · rintro rfl
    exact ⟨declaration.2, survives⟩

theorem passing_of_not_passes {entry : Scalar × Datum} {passed : List (Text × Text)}
    (ran : passing entry = .ok passed) (fails : ¬ Passes entry) : passed = [] := by
  rcases passing_cases ran with empty | ⟨declaration, _, survives⟩
  · exact empty
  · exact absurd (passes_iff.mpr ⟨declaration, survives⟩) fails

/-- Of the declarations that pass, the one that counts for a name comes from the last entry
that passes under it. -/
theorem mem_ofList_passed_iff {batch : Batch} {passed : List (List (Text × Text))}
    (ran : batch.mapM passing = .ok passed) {name value : Text} :
    (name, value) ∈ OrderedMap.ofList passed.flatten ↔
      ∃ entry, IsLast (PassesUnder name) batch entry ∧ Survives entry (name, value) := by
  -- The last entry decides, so the batch is taken apart at its end.
  induction batch using List.reverseRecOn generalizing passed with
  | nil =>
      obtain rfl : [] = passed := Except.ok.inj ran
      refine iff_of_false List.not_mem_nil ?_
      rintro ⟨entry, last, _⟩
      exact not_isLast_nil last
  | append_singleton batch final ih =>
      obtain ⟨left, right, left_eq, right_eq, rfl⟩ := Batch.mapM_append_eq_ok_iff.mp ran
      obtain ⟨own, rest, own_eq, none_left, rfl⟩ := Batch.mapM_cons_eq_ok_iff.mp right_eq
      obtain rfl : [] = rest := Except.ok.inj none_left
      simp only [List.flatten_append, List.flatten_singleton, isLast_concat_iff]
      rcases passing_cases own_eq with rfl | ⟨declaration, rfl, survives⟩
      · have fails : ¬ PassesUnder name final := by
          intro passes
          obtain ⟨other, survives⟩ := passesUnder_iff.mp passes
          exact absurd ((passing_of_survives survives).symm.trans own_eq) (by simp)
        simp only [List.append_nil, ih left_eq, fails, false_and, not_false_eq_true,
          true_and, false_or]
      · rw [OrderedMap.ofList_concat,
          OrderedMap.mem_insert_iff (OrderedMap.distinct_ofList left.flatten), ih left_eq]
        simp only [survives.passesUnder_iff]
        constructor
        · rintro (⟨rfl, rfl⟩ | ⟨different, entry, last, stems⟩)
          · exact ⟨final, .inl ⟨rfl, rfl⟩, survives⟩
          · exact ⟨entry, .inr ⟨Ne.symm different, last⟩, stems⟩
        · rintro ⟨entry, ⟨rfl, rfl⟩ | ⟨different, last⟩, stems⟩
          · have same := survives.admits.unique stems.admits
            exact .inl ⟨rfl, congrArg Prod.snd same.symm⟩
          · exact .inr ⟨Ne.symm different, entry, last, stems⟩

/-- A name is rendered with what the attribute keeps of the value of its last entry that
passes, if this is anything. -/
theorem mem_inlineStyles_iff {batch : Batch} {styles : OrderedMap Text Text}
    (ran : inlineStyles batch = .ok styles) {name value : Text} :
    (name, value) ∈ styles ↔ value ≠ [] ∧ ∃ entry text,
      IsLast (PassesUnder name) batch entry ∧ Batch.valueText? entry.2 = .ok (some text) ∧
        value = attributeValue (sanitizeValue text) := by
  obtain ⟨passed, passed_eq, rfl⟩ := inlineStyles_eq_ok_iff.mp ran
  rw [mem_foldl_setStyle_iff]
  simp only [mem_ofList_passed_iff passed_eq]
  refine and_congr_right fun _ => ⟨?_, ?_⟩
  · rintro ⟨source, ⟨entry, last, survives⟩, rfl⟩
    obtain ⟨text, text_eq, rfl⟩ := survives.admits.value_eq
    exact ⟨entry, text, last, text_eq, rfl⟩
  · rintro ⟨entry, text, last, text_eq, rfl⟩
    obtain ⟨source, survives⟩ := passesUnder_iff.mp last.holds
    obtain ⟨other, other_eq, rfl⟩ := survives.admits.value_eq
    obtain rfl : text = other := Option.some.inj (Except.ok.inj (text_eq.symm.trans other_eq))
    exact ⟨_, ⟨entry, last, survives⟩, rfl⟩

theorem inlineStyles_of_not_passes {before after : Batch} {entry : Scalar × Datum}
    {styles : OrderedMap Text Text}
    (ran : inlineStyles (before ++ entry :: after) = .ok styles) (fails : ¬ Passes entry) :
    inlineStyles (before ++ after) = .ok styles := by
  obtain ⟨passed, passed_eq, rfl⟩ := inlineStyles_eq_ok_iff.mp ran
  obtain ⟨left, right, left_eq, right_eq, rfl⟩ := Batch.mapM_append_eq_ok_iff.mp passed_eq
  obtain ⟨own, others, own_eq, others_eq, rfl⟩ := Batch.mapM_cons_eq_ok_iff.mp right_eq
  obtain rfl := passing_of_not_passes own_eq fails
  refine inlineStyles_eq_ok_iff.mpr ⟨left ++ others, ?_, by simp⟩
  exact Batch.mapM_append_eq_ok_iff.mpr ⟨left, others, left_eq, others_eq, rfl⟩

/-- A character that can stand in an attribute: it could not leave it, it is no NUL
character, and it is no blank other than a space. -/
structure IsAttributeChar (c : Char) : Prop where
  unbroken : isBreakout c = false
  ne_nul : c ≠ nul
  eq_space : Text.isBlank c = true → c = ' '

instance (c : Char) : Decidable (IsAttributeChar c) :=
  decidable_of_iff (isBreakout c = false ∧ c ≠ nul ∧ (Text.isBlank c = true → c = ' '))
    ⟨fun ⟨unbroken, ne_nul, eq_space⟩ => ⟨unbroken, ne_nul, eq_space⟩,
      fun ⟨unbroken, ne_nul, eq_space⟩ => ⟨unbroken, ne_nul, eq_space⟩⟩

theorem isAttributeChar_of_isNameChar {c : Char} (named : isNameChar c = true) :
    IsAttributeChar c where
  unbroken := Bool.eq_false_iff.mpr fun breakout => by
    have foreign : ∀ c, isBreakout c = true → isNameChar c = false :=
      forall_isBreakout_iff.mpr (by decide)
    rw [foreign c breakout] at named
    exact absurd named (by decide)
  ne_nul := by
    rintro rfl
    exact absurd named (by decide)
  eq_space blank := by
    rw [isBlank_of_isNameChar named] at blank
    exact absurd blank (by decide)

theorem Stems.isAttributeChar {batch : Batch} {declaration : Text × Text}
    (stems : Stems batch declaration) {c : Char} (member : c ∈ declaration.2) :
    IsAttributeChar c where
  unbroken := stems.unbroken c member
  ne_nul := ne_of_mem_of_not_mem member stems.nul_free
  eq_space blank := by
    obtain ⟨_, _, value, survives, value_eq⟩ := stems.source
    rw [value_eq] at member
    exact survives.isClean.spaced.eq_space c (mem_attributeValue member).1 blank

theorem isAttributeChar_of_mem_rendered {batch : Batch} {styles : OrderedMap Text Text}
    (ran : inlineStyles batch = .ok styles) {c : Char} (member : c ∈ renderDeclarations styles) :
    IsAttributeChar c := by
  rcases mem_renderDeclarations member with between | ⟨declaration, declaration_mem, within⟩
  · simp only [List.mem_cons, List.not_mem_nil, or_false] at between
    rcases between with rfl | rfl | rfl <;> decide
  · have stems := (inlineStyles_spec ran).2 declaration declaration_mem
    rcases within with name | value
    · exact isAttributeChar_of_isNameChar ((name_of_allowed stems.allowed).2 c name)
    · exact stems.isAttributeChar value

/-- An inline style is safe in its attribute, and each name is a matter of its own.  The
text has no quotation mark, no angle bracket, no NUL character and no blank other than a
space.  It renders allowed names once each, and a name with a value exactly if this is what
the attribute keeps of the value of the last entry that passes under the name, and is not
empty.  An entry that does not pass may be left out. -/
theorem inlineStyle_spec {batch : Batch} {text : Text} (ran : inlineStyle batch = .ok text) :
    (∀ c ∈ text, IsAttributeChar c) ∧
    (∃ styles, inlineStyles batch = .ok styles ∧ text = renderDeclarations styles ∧
      OrderedMap.Distinct styles ∧
      (∀ declaration ∈ styles, listed allowedProperties declaration.1 = true) ∧
      ∀ name value, (name, value) ∈ styles ↔ value ≠ [] ∧ ∃ entry source,
        IsLast (PassesUnder name) batch entry ∧
          Batch.valueText? entry.2 = .ok (some source) ∧
          value = attributeValue (sanitizeValue source)) ∧
    ∀ before entry after, batch = before ++ entry :: after → ¬ Passes entry →
      inlineStyle (before ++ after) = .ok text := by
  obtain ⟨styles, styles_eq, rfl⟩ := inlineStyle_eq_ok_iff.mp ran
  obtain ⟨distinct, stems⟩ := inlineStyles_spec styles_eq
  refine ⟨fun c member => isAttributeChar_of_mem_rendered styles_eq member, ?_, ?_⟩
  · exact ⟨styles, styles_eq, rfl, distinct, fun declaration member =>
      (stems declaration member).allowed, fun name value => mem_inlineStyles_iff styles_eq⟩
  · rintro before entry after rfl fails
    exact inlineStyle_eq_ok_iff.mpr ⟨styles, inlineStyles_of_not_passes styles_eq fails, rfl⟩

/-- A dangerous entry between two of one name is left out, and the later of them counts. -/
theorem inlineStyle_spec_on_danger_between :
    ∃ text, inlineStyle (Batch.ofTexts [("font-family".toList, "Arial".toList),
        ("font-family".toList, "url(javascript:x)".toList),
        ("FONT-FAMILY".toList, " \"Georgia\"".toList)]) = .ok text ∧
      (∀ c ∈ text, IsAttributeChar c) ∧
      inlineStyle (Batch.ofTexts [("font-family".toList, "Arial".toList),
        ("FONT-FAMILY".toList, " \"Georgia\"".toList)]) = .ok text ∧
      text = "font-family: Georgia".toList := by
  have ran : inlineStyle (Batch.ofTexts [("font-family".toList, "Arial".toList),
      ("font-family".toList, "url(javascript:x)".toList),
      ("FONT-FAMILY".toList, " \"Georgia\"".toList)]) = .ok "font-family: Georgia".toList := rfl
  obtain ⟨safe, _, dropping⟩ := inlineStyle_spec ran
  refine ⟨_, ran, safe, ?_, rfl⟩
  refine dropping [(.text "font-family".toList, .text "Arial".toList)]
    (.text "font-family".toList, .text "url(javascript:x)".toList)
    [(.text "FONT-FAMILY".toList, .text " \"Georgia\"".toList)] rfl ?_
  rintro ⟨result, validated, ok⟩
  obtain ⟨found, refused, nonempty, _⟩ := validate_of_hit (Batch.readable_ofTexts
    [("font-family".toList, "url(javascript:x)".toList)]) false
    ⟨_, List.mem_cons_self, .inr ⟨_, rfl, .inr ⟨"javascript:", by decide, by decide⟩⟩⟩
  obtain rfl := Except.ok.inj (validated.symm.trans refused)
  exact nonempty (List.isEmpty_iff.mp ok)

end Gate

end CssAudit
