import CssAudit.Proofs.Text.Collapse
import CssAudit.Proofs.Text.Trim
import CssAudit.Value.Parser
import Mathlib.Data.List.Infix

/-!
# Tokens and components

The tokens of a value are runs of its characters, and a trimmed value of at most
one token is that token.  A value with single spaces is its tokens with spaces between
them.  A component keeps the text of its token; a length keeps
to digits, a sign, a point and the characters of units, and a color component is a
color literal.
-/

namespace CssAudit

namespace Value

theorem mem_consToken {token first : Text} {others : List Text} :
    token ∈ consToken first others ↔ (token = first ∧ token ≠ []) ∨ token ∈ others := by
  unfold consToken
  split
  · rename_i empty
    rw [List.isEmpty_iff] at empty
    constructor
    · exact .inr
    · rintro (⟨same, nonempty⟩ | member)
      · exact absurd (same.trans empty) nonempty
      · exact member
  · rename_i nonempty
    rw [List.isEmpty_iff] at nonempty
    rw [List.mem_cons]
    constructor
    · rintro (rfl | member)
      · exact .inl ⟨rfl, nonempty⟩
      · exact .inr member
    · rintro (⟨same, _⟩ | member)
      · exact .inl same
      · exact .inr member

theorem splitFrom_runs (nesting : Nesting) (text : Text) :
    (splitFrom nesting text).1 <+: text ∧
      ∀ token ∈ (splitFrom nesting text).2, token ≠ [] ∧ token <:+: text := by
  induction text generalizing nesting with
  | nil => simp [splitFrom]
  | cons c rest ih =>
      by_cases separates : nesting.separates c = true
      · obtain ⟨first, others⟩ := ih nesting
        simp only [splitFrom, separates, if_true]
        refine ⟨List.nil_prefix, fun token member => ?_⟩
        rcases mem_consToken.mp member with ⟨rfl, nonempty⟩ | member
        · exact ⟨nonempty, List.infix_cons first.isInfix⟩
        · exact ⟨(others token member).1, List.infix_cons (others token member).2⟩
      · obtain ⟨first, others⟩ := ih (nesting.advance c)
        simp only [splitFrom, separates, Bool.false_eq_true, if_false]
        exact ⟨List.cons_prefix_cons.mpr ⟨rfl, first⟩, fun token member =>
          ⟨(others token member).1, List.infix_cons (others token member).2⟩⟩

theorem run_of_mem_splitTopLevel {text token : Text} (member : token ∈ splitTopLevel text) :
    token ≠ [] ∧ token <:+: text := by
  obtain ⟨first, others⟩ := splitFrom_runs {} text
  rcases mem_consToken.mp member with ⟨rfl, nonempty⟩ | member
  · exact ⟨nonempty, first.isInfix⟩
  · exact others token member

/-- Nothing but blanks follows the last token. -/
theorem splitFrom_of_no_tokens {nesting : Nesting} {text : Text}
    (alone : (splitFrom nesting text).2 = []) :
    ∃ blanks : Text, (∀ c ∈ blanks, Text.isBlank c = true) ∧
      text = (splitFrom nesting text).1 ++ blanks := by
  induction text generalizing nesting with
  | nil => exact ⟨[], by simp, rfl⟩
  | cons c rest ih =>
      by_cases separates : nesting.separates c = true
      · simp only [splitFrom, separates, if_true] at alone ⊢
        have first : (splitFrom nesting rest).1 = [] := by
          unfold consToken at alone
          split at alone
          · rename_i empty
            exact List.isEmpty_iff.mp empty
          · exact absurd alone (by simp)
        have others : (splitFrom nesting rest).2 = [] := by
          simpa [consToken, first] using alone
        obtain ⟨blanks, blank, shape⟩ := ih others
        have here : Text.isBlank c = true := by
          simp only [Nesting.separates, Bool.and_eq_true] at separates
          exact separates.2
        refine ⟨c :: blanks, ?_, ?_⟩
        · simpa [here] using blank
        · rw [shape, first]
          rfl
      · simp only [splitFrom, separates, Bool.false_eq_true, if_false] at alone ⊢
        obtain ⟨blanks, blank, shape⟩ := ih alone
        exact ⟨blanks, blank, congrArg (c :: ·) shape⟩

/-- A trimmed value has a token unless it is empty, and if it has no other, it is
that token. -/
theorem splitTopLevel_of_trimmed {text : Text} (trimmed : Text.trim text = text)
    (nonempty : text ≠ []) :
    ∃ first others, splitTopLevel text = first :: others ∧ (others = [] → first = text) := by
  have first_nonempty : (splitFrom {} text).1 ≠ [] := by
    obtain ⟨c, rest, rfl⟩ := List.exists_cons_of_ne_nil nonempty
    have solid : Text.isBlank c = false := by
      have first : (Text.trim (c :: rest)).head? = some c := by
        rw [trimmed]
        rfl
      exact Text.head?_trim c first
    simp [splitFrom, Nesting.separates, solid]
  refine ⟨(splitFrom {} text).1, (splitFrom {} text).2, ?_, fun alone => ?_⟩
  · simp [splitTopLevel, consToken, first_nonempty]
  · obtain ⟨blanks, blank, shape⟩ := splitFrom_of_no_tokens alone
    cases last : blanks.getLast? with
    | none =>
        rw [List.getLast?_eq_none_iff.mp last, List.append_nil] at shape
        exact shape.symm
    | some c =>
        have ends : (Text.trim text).getLast? = some c := by
          rw [trimmed, shape, List.getLast?_append, last]
          rfl
        have solid := Text.getLast?_trim c ends
        rw [blank c (List.mem_of_mem_getLast? last)] at solid
        exact absurd solid (by decide)

/-- Where the blanks are single spaces and none stands at the end, the tokens with a space
in front of each but the first make up the text. -/
theorem splitFrom_append_flatMap {nesting : Nesting} {text : Text}
    (eq_space : ∀ c ∈ text, Text.isBlank c = true → c = ' ') (apart : ¬ [' ', ' '] <:+: text)
    (ends : ∀ c, text.getLast? = some c → Text.isBlank c = false) :
    text = (splitFrom nesting text).1 ++ (splitFrom nesting text).2.flatMap ([' '] ++ ·) := by
  induction text generalizing nesting with
  | nil => rfl
  | cons c rest ih =>
      have rest_ends : ∀ d, rest.getLast? = some d → Text.isBlank d = false := by
        intro d last
        refine ends d ?_
        rw [List.getLast?_cons, last]
        rfl
      have tail {inner : Nesting} : rest =
          (splitFrom inner rest).1 ++ (splitFrom inner rest).2.flatMap ([' '] ++ ·) :=
        ih (fun d member => eq_space d (List.mem_cons_of_mem c member))
          (fun within => apart (List.infix_cons within)) rest_ends
      by_cases separates : nesting.separates c = true
      · have blank : Text.isBlank c = true := by
          simp only [Nesting.separates, Bool.and_eq_true] at separates
          exact separates.2
        obtain rfl := eq_space c List.mem_cons_self blank
        -- The blank is neither the last character nor in front of another blank.
        cases rest with
        | nil => exact absurd (ends ' ' rfl) (by decide)
        | cons d rest =>
            have solid : Text.isBlank d = false := by
              rw [← Bool.not_eq_true]
              intro other
              obtain rfl := eq_space d (by simp) other
              exact apart (List.IsPrefix.isInfix ⟨rest, rfl⟩)
            have starts : (splitFrom nesting (d :: rest)).1 ≠ [] := by
              simp [splitFrom, Nesting.separates, solid]
            rw [splitFrom, if_pos separates]
            simp only [consToken, List.isEmpty_iff, if_neg starts, List.flatMap_cons,
              List.nil_append, List.singleton_append]
            exact congrArg (' ' :: ·) tail
      · rw [splitFrom, if_neg separates]
        exact congrArg (c :: ·) tail

theorem joinWith_splitTopLevel {text : Text} (spaced : Text.SingleSpaced text)
    (nonempty : text ≠ []) : Text.joinWith [' '] (splitTopLevel text) = text := by
  obtain ⟨c, rest, rfl⟩ := List.exists_cons_of_ne_nil nonempty
  have starts : (splitFrom {} (c :: rest)).1 ≠ [] := by
    simp [splitFrom, Nesting.separates, spaced.starts c rfl]
  rw [splitTopLevel, consToken, if_neg (by simpa using starts), Text.joinWith_eq_flatMap]
  exact (splitFrom_append_flatMap spaced.eq_space spaced.apart spaced.ends).symm

theorem length?_eq_some {token : Text} {found : Component}
    (read : length? token = some found) :
    ∃ number unit, found = .length token number unit := by
  obtain ⟨⟨number, unit⟩, _, read⟩ := Option.bind_eq_some_iff.mp read
  dsimp only at read
  split at read
  · exact ⟨number, Text.lower unit, (Option.some.inj read).symm⟩
  · exact absurd read (by simp)

theorem function?_eq_some {token : Text} {found : Component}
    (read : function? token = some found) :
    ∃ name arguments balanced, found = .function token name arguments balanced := by
  obtain ⟨⟨name, rest⟩, _, read⟩ := Option.bind_eq_some_iff.mp read
  obtain ⟨arguments, _, read⟩ := Option.bind_eq_some_iff.mp read
  exact ⟨name, _, _, (Option.some.inj read).symm⟩

theorem plainComponent_cases (token : Text) :
    plainComponent token = .keyword token ∨ plainComponent token = .unparsed token ∨
      ∃ color, plainComponent token = .color token color ∧
        Color.parse? token = some color := by
  unfold plainComponent
  split
  · split
    · rename_i color read
      exact .inr (.inr ⟨color, rfl, read⟩)
    · exact .inr (.inl rfl)
  · split
    · exact .inl rfl
    · exact .inr (.inl rfl)

theorem component_cases (token : Text) :
    (∃ number unit, component token = .length token number unit ∧
        length? token = some (.length token number unit)) ∨
      (∃ name arguments balanced,
        component token = .function token name arguments balanced) ∨
      component token = .keyword token ∨ component token = .unparsed token ∨
      ∃ color, component token = .color token color ∧ Color.parse? token = some color := by
  unfold component
  cases length_eq : length? token with
  | some found =>
      obtain ⟨number, unit, rfl⟩ := length?_eq_some length_eq
      exact .inl ⟨number, unit, rfl, rfl⟩
  | none =>
      cases function_eq : function? token with
      | some found =>
          obtain ⟨name, arguments, balanced, rfl⟩ := function?_eq_some function_eq
          exact .inr (.inl ⟨name, arguments, balanced, rfl⟩)
      | none => exact .inr (.inr (plainComponent_cases token))

theorem component_text (token : Text) : (component token).text = token := by
  rcases component_cases token with
    ⟨_, _, shape, _⟩ | ⟨_, _, _, shape⟩ | shape | shape | ⟨_, shape, _⟩ <;>
    rw [shape] <;> rfl

theorem ofTokens_text (text : Text) : (ofTokens text).text = text := by
  unfold ofTokens
  split
  · rfl
  · exact component_text text

theorem parse_text (property raw : Text) : (parse property raw).text = Text.trim raw := by
  unfold parse
  dsimp only
  split
  · split
    · rfl
    · exact ofTokens_text _
  · exact ofTokens_text _

/-- A value that is one component was read from one token, unless it is a color. -/
theorem parse_eq_single {property raw : Text} {found : Component}
    (read : parse property raw = .single found) :
    found = component (Text.trim raw) ∨
      ∃ color, found = .color (Text.trim raw) color ∧
        Color.parse? (Text.trim raw) = some color := by
  have alone {text : Text} (single : ofTokens text = .single found) :
      found = component text := by
    unfold ofTokens at single
    split at single
    · exact absurd single (by simp)
    · exact (Value.single.inj single).symm
  unfold parse at read
  dsimp only at read
  split at read
  · split at read
    · rename_i color parsed
      exact .inr ⟨color, (Value.single.inj read).symm, parsed⟩
    · exact .inl (alone read)
  · exact .inl (alone read)

theorem parse_eq_color {property raw text : Text} {color : Color}
    (read : parse property raw = .single (.color text color)) :
    Color.parse? (Text.trim raw) = some color := by
  rcases parse_eq_single read with token | ⟨found, same, parsed⟩
  · rcases component_cases (Text.trim raw) with
      ⟨_, _, shape, _⟩ | ⟨_, _, _, shape⟩ | shape | shape | ⟨found, shape, parsed⟩ <;>
      rw [shape] at token <;> cases token
    exact parsed
  · cases same
    exact parsed

theorem parse_eq_length {property raw text unit : Text} {number : Float}
    (read : parse property raw = .single (.length text number unit)) :
    length? (Text.trim raw) = some (.length (Text.trim raw) number unit) := by
  rcases parse_eq_single read with token | ⟨_, different, _⟩
  · rcases component_cases (Text.trim raw) with
      ⟨_, _, shape, parsed⟩ | ⟨_, _, _, shape⟩ | shape | shape | ⟨_, shape, _⟩ <;>
      rw [shape] at token <;> cases token
    exact parsed
  · cases different

end Value

end CssAudit
