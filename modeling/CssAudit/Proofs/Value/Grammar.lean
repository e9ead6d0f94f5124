import CssAudit.Proofs.Numeral.Ordered
import CssAudit.Proofs.Text.Padding
import CssAudit.Proofs.Value.Numbers

/-!
# The grammar of tokens

A token is a number with a unit, a call, a hexadecimal color, an identifier, or nothing
that is known.  Identifiers and calls are described by how they are written, and the
readers find exactly what is written so.  No two of the descriptions fit one token, so the
order in which they are tried does not matter.
-/

namespace CssAudit

namespace Value

/-- An identifier: perhaps a hyphen, then a character that may begin a name, then any that
may continue one. -/
def IsIdentifier (name : Text) : Prop :=
  ∃ (hyphen : Text) (first : Char) (rest : Text), (hyphen = [] ∨ hyphen = ['-']) ∧
    isNameStart first = true ∧ (∀ c ∈ rest, isNameChar c = true) ∧ name = hyphen ++ first :: rest

/-- The characters that begin a name begin no number and no color. -/
theorem foreign_of_isNameStart {c : Char} (starts : isNameStart c = true) :
    Text.isDecimal c = false ∧ c ≠ '+' ∧ c ≠ '-' ∧ c ≠ '.' ∧ c ≠ '#' := by
  simp only [isNameStart, Bool.or_eq_true, decide_eq_true_eq] at starts
  rcases starts with letter | rfl
  · have other {d : Char} := ne_of_isFoldedLetter (d := d) letter
    exact ⟨isDecimal_of_isFoldedLetter letter, other (by decide), other (by decide),
      other (by decide), other (by decide)⟩
  · decide

/-- The name at the start of a text behind a hyphen or nothing, and what follows it. -/
def nameAfter (hyphen : Text) : Text → Option (Text × Text)
  | [] => none
  | c :: rest =>
      if isNameStart c then
        some (hyphen ++ c :: (rest.span isNameChar).1, (rest.span isNameChar).2)
      else
        none

theorem nameAfter_eq_some_iff {hyphen body name after : Text} :
    nameAfter hyphen body = some (name, after) ↔
      ∃ (first : Char) (rest : Text), isNameStart first = true ∧
        (∀ c ∈ rest, isNameChar c = true) ∧ name = hyphen ++ first :: rest ∧
        body = first :: rest ++ after ∧ ∀ c, after.head? = some c → isNameChar c = false := by
  constructor
  · intro read
    unfold nameAfter at read
    split at read
    · exact absurd read (by simp)
    rename_i c rest
    split at read
    · rename_i starts
      rw [Option.some.injEq, Prod.mk.injEq] at read
      obtain ⟨rfl, rfl⟩ := read
      obtain ⟨shape, continues, ends⟩ :=
        Text.span_eq_iff.mp (Prod.eta (rest.span isNameChar)).symm
      exact ⟨c, _, starts, continues, rfl, congrArg (c :: ·) shape, ends⟩
    · exact absurd read (by simp)
  · rintro ⟨first, rest, starts, continues, rfl, rfl, ends⟩
    have rest_eq : (rest ++ after).span isNameChar = (rest, after) :=
      Text.span_eq_iff.mpr ⟨rfl, continues, ends⟩
    rw [List.cons_append, nameAfter, if_pos starts, rest_eq]

theorem identifier?_hyphen (body : Text) :
    identifier? ('-' :: body) = nameAfter ['-'] body := by
  cases body <;> rfl

theorem identifier?_of_no_hyphen {text : Text} (first : text.head? ≠ some '-') :
    identifier? text = nameAfter [] text := by
  cases text with
  | nil => rfl
  | cons c rest =>
      have other : c ≠ '-' := by simpa using first
      simp [identifier?, nameAfter, other]

/-- An identifier is read from the start of a text exactly if one is written there that
goes no further. -/
theorem identifier?_eq_some_iff {text name after : Text} :
    identifier? text = some (name, after) ↔ IsIdentifier name ∧ text = name ++ after ∧
      ∀ c, after.head? = some c → isNameChar c = false := by
  constructor
  · intro read
    have of_body {hyphen body : Text} (known : hyphen = [] ∨ hyphen = ['-'])
        (read : nameAfter hyphen body = some (name, after)) :
        IsIdentifier name ∧ hyphen ++ body = name ++ after ∧
          ∀ c, after.head? = some c → isNameChar c = false := by
      obtain ⟨first, rest, starts, continues, rfl, rfl, ends⟩ := nameAfter_eq_some_iff.mp read
      exact ⟨⟨hyphen, first, rest, known, starts, continues, rfl⟩, by simp, ends⟩
    by_cases first : text.head? = some '-'
    · obtain ⟨body, rfl⟩ := List.head?_eq_some_iff.mp first
      rw [identifier?_hyphen] at read
      exact of_body (.inr rfl) read
    · rw [identifier?_of_no_hyphen first] at read
      exact of_body (.inl rfl) read
  · rintro ⟨⟨hyphen, first, rest, known, starts, continues, rfl⟩, rfl, ends⟩
    rcases known with rfl | rfl
    · have no_hyphen := (foreign_of_isNameStart starts).2.2.1
      rw [List.nil_append, identifier?_of_no_hyphen (by simpa using no_hyphen)]
      exact nameAfter_eq_some_iff.mpr ⟨first, rest, starts, continues, rfl, rfl, ends⟩
    · rw [List.append_assoc, List.singleton_append, identifier?_hyphen]
      exact nameAfter_eq_some_iff.mpr ⟨first, rest, starts, continues, rfl, rfl, ends⟩

theorem isIdentifier_iff {token : Text} : isIdentifier token = true ↔ IsIdentifier token := by
  rw [isIdentifier, Option.any_eq_true]
  constructor
  · rintro ⟨⟨name, after⟩, read, ended⟩
    obtain ⟨identifier, shape, _⟩ := identifier?_eq_some_iff.mp read
    obtain rfl : after = [] := List.isEmpty_iff.mp ended
    rwa [shape, List.append_nil]
  · intro identifier
    have read : identifier? token = some (token, []) :=
      identifier?_eq_some_iff.mpr ⟨identifier, by simp, by simp⟩
    exact ⟨_, read, rfl⟩

/-- A call as it is written: a name, blanks, an opening parenthesis and the rest. -/
structure WrittenCall where
  name : Text
  gap : Text
  rest : Text
  isIdentifier : IsIdentifier name
  blank : Text.IsGap gap

namespace WrittenCall

def text (written : WrittenCall) : Text :=
  written.name ++ (written.gap ++ '(' :: written.rest)

/-- What is called, as a component. -/
def component (written : WrittenCall) : Component :=
  .function written.text written.name (Text.trim (dropClosing written.rest))
    (isBalanced written.text)

end WrittenCall

theorem isBlank_of_isNameChar {c : Char} (continues : isNameChar c = true) :
    Text.isBlank c = false := by
  simp only [isNameChar, Bool.or_eq_true, decide_eq_true_eq] at continues
  rcases continues with ((letter | digit) | rfl) | rfl
  · exact Text.isBlank_of_isFoldedLetter letter
  · have codes := Text.isDigit_iff.mp digit
    exact Text.isBlank_eq_false (by omega) (by omega)
  · decide
  · decide

theorem function?_eq_some_iff {token : Text} {found : Component} :
    function? token = some found ↔
      ∃ written : WrittenCall, token = written.text ∧ found = written.component := by
  constructor
  · intro read
    obtain ⟨⟨name, after⟩, name_eq, read⟩ := Option.bind_eq_some_iff.mp read
    obtain ⟨rest, rest_eq, read⟩ := Option.bind_eq_some_iff.mp read
    obtain ⟨identifier, shape, _⟩ := identifier?_eq_some_iff.mp name_eq
    obtain ⟨gap, blank, after_eq⟩ := Text.exists_gap_append_trimStart after
    rw [Text.dropPrefix?_eq_some_iff.mp rest_eq] at after_eq
    obtain rfl : token = name ++ (gap ++ '(' :: rest) := by rw [shape, after_eq]; rfl
    exact ⟨⟨name, gap, rest, identifier, blank⟩, rfl, (Option.some.inj read).symm⟩
  · rintro ⟨⟨name, gap, rest, identifier, blank⟩, rfl, rfl⟩
    have name_eq : identifier? (name ++ (gap ++ '(' :: rest)) =
        some (name, gap ++ '(' :: rest) := by
      refine identifier?_eq_some_iff.mpr ⟨identifier, rfl, fun c first => ?_⟩
      cases gap with
      | nil =>
          obtain rfl : '(' = c := by simpa using first
          decide
      | cons space gap =>
          obtain rfl : space = c := by simpa using first
          rw [← Bool.not_eq_true]
          intro continues
          have solid := isBlank_of_isNameChar continues
          rw [blank space List.mem_cons_self] at solid
          exact absurd solid (by decide)
    have open_eq : Text.trimStart (gap ++ '(' :: rest) = '(' :: rest := by
      rw [blank.trimStart_append]
      rfl
    simp [function?, WrittenCall.text, WrittenCall.component, name_eq, open_eq,
      Text.dropPrefix?]

theorem not_startsNumeric_of_identifier {name : Text} (identifier : IsIdentifier name)
    (after : Text) : ¬ StartsNumeric (name ++ after) := by
  obtain ⟨hyphen, first, rest, known, starts, _, rfl⟩ := identifier
  obtain ⟨undecimal, no_plus, no_hyphen, no_point, _⟩ := foreign_of_isNameStart starts
  have sign_eq : Numeral.splitSign (hyphen ++ first :: rest ++ after) =
      (decide (hyphen = ['-']), first :: (rest ++ after)) := by
    rcases known with rfl | rfl
    · exact splitSign_of_unsigned (by simp [no_plus, no_hyphen])
    · rfl
  rw [← looksNumeric_iff, looksNumeric, sign_eq]
  simp [Text.dropPrefix?, Ne.symm no_point, undecimal]

theorem IsIdentifier.head?_ne_hash {name : Text} (identifier : IsIdentifier name)
    (after : Text) : (name ++ after).head? ≠ some '#' := by
  obtain ⟨hyphen, first, rest, known, starts, _, rfl⟩ := identifier
  rcases known with rfl | rfl
  · simpa using (foreign_of_isNameStart starts).2.2.2.2
  · simp

/-- A token and what it is read as: the description that fits it. -/
inductive Reads (token : Text) : Component → Prop
  | length (written : WrittenLength) : token = written.text →
      Reads token (.length token written.number.value (Text.lower written.unit))
  | call (written : WrittenCall) : token = written.text → Reads token written.component
  | color (color : Color) : token.head? = some '#' → Color.parse? token = some color →
      Reads token (.color token color)
  | keyword : IsIdentifier token → Reads token (.keyword token)
  | unparsed : (∀ written : WrittenLength, token ≠ written.text) →
      (∀ written : WrittenCall, token ≠ written.text) →
      (token.head? = some '#' → Color.parse? token = none) → ¬ IsIdentifier token →
      Reads token (.unparsed token)

theorem isNameChar_of_isNameStart {c : Char} (starts : isNameStart c = true) :
    isNameChar c = true := by
  simp only [isNameStart, Bool.or_eq_true] at starts
  rcases starts with letter | underscore
  · simp [isNameChar, letter]
  · simp [isNameChar, underscore]

theorem IsIdentifier.isNameChar {name : Text} (identifier : IsIdentifier name) :
    ∀ c ∈ name, Value.isNameChar c = true := by
  obtain ⟨hyphen, first, rest, known, starts, continues, rfl⟩ := identifier
  refine List.forall_mem_append.mpr ⟨?_, List.forall_mem_cons.mpr
    ⟨isNameChar_of_isNameStart starts, continues⟩⟩
  rcases known with rfl | rfl
  · simp
  · simpa using show Value.isNameChar '-' = true by decide

theorem IsIdentifier.ne_nil {name : Text} (identifier : IsIdentifier name) : name ≠ [] := by
  obtain ⟨hyphen, first, rest, _, _, _, rfl⟩ := identifier
  simp

theorem WrittenCall.not_isIdentifier (written : WrittenCall) : ¬ IsIdentifier written.text := by
  intro identifier
  have parenthesis := identifier.isNameChar '(' (by simp [text])
  exact absurd parenthesis (by decide)

theorem function?_eq_none_iff {token : Text} :
    function? token = none ↔ ∀ written : WrittenCall, token ≠ written.text := by
  constructor
  · intro unread written shape
    rw [function?_eq_some_iff.mpr ⟨written, shape, rfl⟩] at unread
    exact absurd unread (by simp)
  · intro other
    rw [Option.eq_none_iff_forall_ne_some]
    intro found read
    obtain ⟨written, shape, _⟩ := function?_eq_some_iff.mp read
    exact other written shape

theorem reads_component (token : Text) : Reads token (component token) := by
  unfold component
  cases length_eq : length? token with
  | some found =>
      obtain ⟨written, shape, rfl⟩ := length?_eq_some_iff.mp length_eq
      exact .length written shape
  | none =>
      have no_length := length?_eq_none_iff.mp length_eq
      cases function_eq : function? token with
      | some found =>
          obtain ⟨written, shape, rfl⟩ := function?_eq_some_iff.mp function_eq
          exact .call written shape
      | none =>
          have no_call := function?_eq_none_iff.mp function_eq
          simp only [Option.getD_none, plainComponent]
          split
          · rename_i hash
            split
            · rename_i color parsed
              exact .color color hash parsed
            · rename_i unparsed
              refine .unparsed no_length no_call (fun _ => unparsed) fun identifier => ?_
              exact identifier.head?_ne_hash [] (by rwa [List.append_nil])
          · rename_i no_hash
            split
            · rename_i identifier
              exact .keyword (isIdentifier_iff.mp identifier)
            · rename_i no_identifier
              exact .unparsed no_length no_call (fun hash => absurd hash no_hash)
                fun identifier => no_identifier (isIdentifier_iff.mpr identifier)

theorem Reads.component_eq {token : Text} {found : Component} (reads : Reads token found) :
    component token = found := by
  cases reads with
  | length written shape =>
      rw [component, length?_eq_some_iff.mpr ⟨written, shape, rfl⟩]
  | call written shape =>
      have no_length : length? token = none := length?_of_not_startsNumeric
        (shape ▸ not_startsNumeric_of_identifier written.isIdentifier _)
      rw [component, no_length, function?_eq_some_iff.mpr ⟨written, shape, rfl⟩]
      rfl
  | color color hash parsed =>
      obtain ⟨rest, rfl⟩ := List.head?_eq_some_iff.mp hash
      have no_call : function? ('#' :: rest) = none :=
        function?_eq_none_iff.mpr fun written shape =>
          written.isIdentifier.head?_ne_hash _ (congrArg List.head? shape).symm
      rw [component, length?_of_not_startsNumeric (not_startsNumeric_hash rest), no_call]
      simp [plainComponent, parsed]
  | keyword identifier =>
      have no_length : length? token = none := length?_of_not_startsNumeric
        (by simpa using not_startsNumeric_of_identifier identifier [])
      have no_call : function? token = none :=
        function?_eq_none_iff.mpr fun written shape =>
          written.not_isIdentifier (shape ▸ identifier)
      have no_hash : token.head? ≠ some '#' := by simpa using identifier.head?_ne_hash []
      rw [component, no_length, no_call]
      simp [plainComponent, no_hash, isIdentifier_iff.mpr identifier]
  | unparsed no_length no_call no_color no_identifier =>
      have other : isIdentifier token = false := by
        simpa using mt isIdentifier_iff.mp no_identifier
      simp only [component, length?_eq_none_iff.mpr no_length,
        function?_eq_none_iff.mpr no_call, Option.getD_none, plainComponent, other]
      by_cases hash : token.head? = some '#'
      · simp [hash, no_color hash]
      · simp [hash]

theorem Reads.unique {token : Text} {first second : Component} (first_reads : Reads token first)
    (second_reads : Reads token second) : first = second :=
  first_reads.component_eq.symm.trans second_reads.component_eq

theorem Reads.isNaN_eq {token text unit : Text} {number : Float}
    (reads : Reads token (.length text number unit)) : number.isNaN = false := by
  cases reads with
  | length written shape =>
      rw [WrittenNumber.value, Numeral.isNaN_signed, Numeral.isNaN_ofDigitTexts]

theorem Reads.balanced_iff {token text name arguments : Text} {balanced : Bool}
    (reads : Reads token (.function text name arguments balanced)) :
    balanced = true ↔ token.count '(' = token.count ')' := by
  cases reads with
  | call written shape => rw [isBalanced, beq_iff_eq, shape]

theorem isIdentifier_of_isWideKeyword {token : Text}
    (wide : isWideKeyword token.lower = true) : IsIdentifier token := by
  obtain ⟨keyword, member, same⟩ := List.any_eq_true.mp wide
  have small : wideKeywords.all (fun word => word.toList.all Char.isLower) = true := by decide
  have letters := List.all_eq_true.mp (List.all_eq_true.mp small keyword member)
  rw [eq_of_beq same] at letters
  have folded := Text.isFoldedLetter_of_lower letters
  cases token with
  | nil => exact absurd wide (by decide)
  | cons c rest =>
      obtain ⟨first, others⟩ := List.forall_mem_cons.mp folded
      exact ⟨[], c, rest, .inl rfl, by simp [isNameStart, first],
        fun d member => by simp [isNameChar, others d member], rfl⟩

theorem splitTopLevel_of_solid {text : Text} (solid : ∀ c ∈ text, Text.isBlank c = false)
    (nonempty : text ≠ []) : splitTopLevel text = [text] := by
  have all {nesting : Nesting} : splitFrom nesting text = (text, []) := by
    clear nonempty
    induction text generalizing nesting with
    | nil => rfl
    | cons c rest ih =>
        obtain ⟨first, others⟩ := List.forall_mem_cons.mp solid
        simp [splitFrom, Nesting.separates, first, ih others]
  simp [splitTopLevel, all, consToken, nonempty]

/-- The value of a color property is one color exactly if its text is a color literal. -/
theorem exists_parse_eq_color_iff {property raw : Text}
    (color : isColorProperty property = true) :
    (∃ text literal, parse property raw = .single (.color text literal)) ↔
      (Color.parse? (Text.trim raw)).isSome = true := by
  rw [Option.isSome_iff_exists]
  constructor
  · rintro ⟨text, literal, read⟩
    exact ⟨literal, parse_eq_color read⟩
  · rintro ⟨literal, parsed⟩
    exact ⟨Text.trim raw, literal, by simp [parse, color, parsed]⟩

theorem isBlank_of_isLengthChar {c : Char} (length : isLengthChar c = true) :
    Text.isBlank c = false := by
  simp only [isLengthChar, isUnitChar, Bool.or_eq_true, decide_eq_true_eq] at length
  rcases length with (((decimal | rfl) | rfl) | rfl) | letter | rfl
  · exact Text.isBlank_of_isFigure (Text.isFigure_of_isDecimal decimal)
  · decide
  · decide
  · decide
  · exact Text.isBlank_of_isFoldedLetter letter
  · decide

theorem ofTokens_length (written : WrittenLength) :
    ofTokens written.text = .single (component written.text) := by
  have read : length? written.text = some _ := length?_eq_some_iff.mpr ⟨written, rfl, rfl⟩
  have solid : ∀ c ∈ written.text, Text.isBlank c = false := fun c member =>
    isBlank_of_isLengthChar (isLengthChar_of_length? read c member)
  have nonempty : written.text ≠ [] := by
    intro empty
    rw [empty] at read
    cases read
  rw [ofTokens, splitTopLevel_of_solid solid nonempty]

end Value

end CssAudit
