import CssAudit.Proofs.Value.Tokens

/-!
# What the tokens keep of a value

The tokens of a value are the value without the blanks at which neither a quotation nor a
parenthesis is open.  At such a blank the scan is where it was at the start of the value.
Each token is therefore read on its own as it is read in the value, and single spaces
separate the tokens as well as the blanks that stood between them.
-/

namespace CssAudit

namespace Value

/-- A text without the blanks at which neither a quotation nor a parenthesis is open, when
`nesting` is open before the text. -/
def withoutGaps (nesting : Nesting) (text : Text) : Text :=
  ((text.zip (text.scanl Nesting.advance nesting)).filter fun place =>
    !(Text.isBlank place.1 && place.2.depth == 0 && place.2.quote.isNone)).map (·.1)

namespace Nesting

variable {nesting : Nesting} {c : Char}

theorem eq_of_separates (separates : nesting.separates c = true) : nesting = {} := by
  obtain ⟨depth, quote⟩ := nesting
  simp only [Nesting.separates, Bool.and_eq_true, Option.isNone_iff_eq_none, beq_iff_eq]
    at separates
  obtain ⟨⟨rfl, rfl⟩, -⟩ := separates
  rfl

theorem isBlank_of_separates (separates : nesting.separates c = true) :
    Text.isBlank c = true := by
  simp only [Nesting.separates, Bool.and_eq_true] at separates
  exact separates.2

theorem advance_of_separates (separates : nesting.separates c = true) :
    nesting.advance c = nesting := by
  have blank := isBlank_of_separates separates
  have apart {mark : Char} (solid : Text.isBlank mark = false) : c ≠ mark := by
    rintro rfl
    exact absurd blank (by simp [solid])
  obtain rfl := eq_of_separates separates
  simp [advance, apart (show Text.isBlank '"' = false by decide),
    apart (show Text.isBlank '\'' = false by decide),
    apart (show Text.isBlank '(' = false by decide),
    apart (show Text.isBlank ')' = false by decide)]

end Nesting

section Scan

variable {nesting : Nesting} {c : Char}

theorem splitFrom_of_separates (separates : nesting.separates c = true) (rest : Text) :
    splitFrom nesting (c :: rest) =
      ([], consToken (splitFrom nesting rest).1 (splitFrom nesting rest).2) := by
  rw [splitFrom, if_pos separates]

theorem splitFrom_of_not_separates (continues : ¬ nesting.separates c = true) (rest : Text) :
    splitFrom nesting (c :: rest) =
      (c :: (splitFrom (nesting.advance c) rest).1, (splitFrom (nesting.advance c) rest).2) := by
  rw [splitFrom, if_neg continues]

theorem withoutGaps_cons (rest : Text) :
    withoutGaps nesting (c :: rest) =
      if nesting.separates c then withoutGaps (nesting.advance c) rest
      else c :: withoutGaps (nesting.advance c) rest := by
  have same : nesting.separates c =
      (Text.isBlank c && nesting.depth == 0 && nesting.quote.isNone) := by
    rw [Nesting.separates, Bool.and_comm, Bool.and_comm nesting.quote.isNone, Bool.and_assoc]
  rw [withoutGaps, List.scanl_cons, List.zip_cons_cons, List.filter_cons, ← same]
  cases nesting.separates c with
  | false => rfl
  | true => rfl

end Scan

theorem flatten_consToken (token : Text) (tokens : List Text) :
    (consToken token tokens).flatten = token ++ tokens.flatten := by
  unfold consToken
  split
  · rename_i empty
    rw [List.isEmpty_iff.mp empty, List.nil_append]
  · rfl

theorem flatten_splitFrom (nesting : Nesting) (text : Text) :
    (splitFrom nesting text).1 ++ (splitFrom nesting text).2.flatten =
      withoutGaps nesting text := by
  induction text generalizing nesting with
  | nil => rfl
  | cons c rest ih =>
      rw [withoutGaps_cons]
      split
      · rename_i separates
        rw [splitFrom_of_separates separates, Nesting.advance_of_separates separates, ← ih,
          flatten_consToken, List.nil_append]
      · rename_i continues
        rw [splitFrom_of_not_separates continues, ← ih, List.cons_append]

/-- The tokens of a value are all of it but the blanks between them. -/
theorem flatten_splitTopLevel (text : Text) :
    (splitTopLevel text).flatten = withoutGaps {} text := by
  rw [splitTopLevel, flatten_consToken, flatten_splitFrom]

/-- Whether nothing in a token separates it when `nesting` is open before it. -/
def IsWhole (nesting : Nesting) (token : Text) : Prop :=
  splitFrom nesting token = (token, [])

theorem IsWhole.cons {nesting : Nesting} {c : Char} {token : Text}
    (continues : ¬ nesting.separates c = true) (whole : IsWhole (nesting.advance c) token) :
    IsWhole nesting (c :: token) := by
  rw [IsWhole, splitFrom_of_not_separates continues, whole]

theorem IsWhole.splitTopLevel_eq {token : Text} (whole : IsWhole {} token)
    (nonempty : token ≠ []) : splitTopLevel token = [token] := by
  rw [splitTopLevel, whole, consToken, if_neg (by simpa using nonempty)]

/-- The token that the scan is in goes on from what is open, and all later ones start with
nothing open. -/
theorem isWhole_splitFrom (nesting : Nesting) (text : Text) :
    IsWhole nesting (splitFrom nesting text).1 ∧
      ∀ token ∈ (splitFrom nesting text).2, IsWhole {} token := by
  induction text generalizing nesting with
  | nil => exact ⟨rfl, by simp [splitFrom]⟩
  | cons c rest ih =>
      by_cases separates : nesting.separates c = true
      · rw [splitFrom_of_separates separates]
        obtain ⟨first, others⟩ := ih nesting
        refine ⟨rfl, fun token member => ?_⟩
        rcases mem_consToken.mp member with ⟨rfl, -⟩ | later
        · rwa [Nesting.eq_of_separates separates] at first ⊢
        · exact others token later
      · rw [splitFrom_of_not_separates separates]
        obtain ⟨first, others⟩ := ih (nesting.advance c)
        exact ⟨first.cons separates, others⟩

theorem splitTopLevel_of_mem {text token : Text} (member : token ∈ splitTopLevel text) :
    splitTopLevel token = [token] := by
  obtain ⟨first, others⟩ := isWhole_splitFrom {} text
  rcases mem_consToken.mp member with ⟨rfl, nonempty⟩ | later
  · exact first.splitTopLevel_eq nonempty
  · exact (others token later).splitTopLevel_eq (run_of_mem_splitTopLevel member).1

/-- Tokens with a space in front of each. -/
def spaced (tokens : List Text) : Text :=
  tokens.flatMap ([' '] ++ ·)

theorem splitFrom_space (text : Text) :
    splitFrom {} (' ' :: text) = ([], splitTopLevel text) :=
  splitFrom_of_separates (by decide) text

theorem splitTopLevel_space (text : Text) :
    splitTopLevel (' ' :: text) = splitTopLevel text := by
  rw [splitTopLevel, splitFrom_space]
  rfl

theorem spaced_cons (token : Text) (tokens : List Text) :
    spaced (token :: tokens) = ' ' :: (token ++ spaced tokens) := rfl

theorem splitFrom_spaced_eq (tokens : List Text) :
    splitFrom {} (spaced tokens) = ([], splitTopLevel (spaced tokens)) := by
  cases tokens with
  | nil => rfl
  | cons token tokens => rw [spaced_cons, splitFrom_space, splitTopLevel_space]

theorem splitTopLevel_spaced_consToken {first : Text} {others : List Text}
    (again : splitFrom {} (first ++ spaced others) = (first, others)) :
    splitTopLevel (spaced (consToken first others)) = consToken first others := by
  unfold consToken
  split
  · rename_i empty
    rw [List.isEmpty_iff.mp empty, List.nil_append] at again
    rw [splitTopLevel, again]
    rfl
  · rename_i nonempty
    rw [spaced_cons, splitTopLevel_space, splitTopLevel, again, consToken, if_neg nonempty]

/-- Spaces do for the blanks that separate tokens. -/
theorem splitFrom_spaced (nesting : Nesting) (text : Text) :
    splitFrom nesting ((splitFrom nesting text).1 ++ spaced (splitFrom nesting text).2) =
      splitFrom nesting text := by
  induction text generalizing nesting with
  | nil => rfl
  | cons c rest ih =>
      by_cases separates : nesting.separates c = true
      · obtain rfl := Nesting.eq_of_separates separates
        rw [splitFrom_of_separates separates, List.nil_append, splitFrom_spaced_eq,
          splitTopLevel_spaced_consToken (ih {})]
      · rw [splitFrom_of_not_separates separates, List.cons_append,
          splitFrom_of_not_separates separates, ih]

/-- The tokens with single spaces between them have the same tokens. -/
theorem splitTopLevel_joinWith (text : Text) :
    splitTopLevel (Text.joinWith [' '] (splitTopLevel text)) = splitTopLevel text := by
  cases shown : splitTopLevel text with
  | nil => rfl
  | cons first others =>
      have again := splitTopLevel_spaced_consToken (splitFrom_spaced {} text)
      rw [← splitTopLevel, shown, spaced_cons, splitTopLevel_space] at again
      rwa [Text.joinWith_eq_flatMap]

/-- Splitting loses only blanks between tokens: no token is empty, the tokens one after
another are the text without the blanks at which neither a quotation nor a parenthesis is
open, each token is the only token of itself, and the tokens with single spaces between
them are split into the same tokens. -/
theorem splitTopLevel_lossless (text : Text) :
    (∀ token ∈ splitTopLevel text, token ≠ [] ∧ splitTopLevel token = [token]) ∧
      (splitTopLevel text).flatten = withoutGaps {} text ∧
      splitTopLevel (Text.joinWith [' '] (splitTopLevel text)) = splitTopLevel text :=
  ⟨fun _ member => ⟨(run_of_mem_splitTopLevel member).1, splitTopLevel_of_mem member⟩,
    flatten_splitTopLevel text, splitTopLevel_joinWith text⟩

/-- A parenthesis that closes nothing, a quotation inside a function and one that is never
closed. -/
theorem splitTopLevel_lossless_on_open_quotation :
    splitTopLevel ") a( '  )' b ) \t \"c  (".toList =
        [[')'], "a( '  )' b )".toList, "\"c  (".toList] ∧
      "a( '  )' b )".toList ∈ splitTopLevel ") a( '  )' b ) \t \"c  (".toList ∧
      splitTopLevel "a( '  )' b )".toList = ["a( '  )' b )".toList] ∧
      withoutGaps {} ") a( '  )' b ) \t \"c  (".toList = ")a( '  )' b )\"c  (".toList ∧
      splitTopLevel ") a( '  )' b ) \"c  (".toList =
        splitTopLevel ") a( '  )' b ) \t \"c  (".toList := by
  obtain ⟨each, whole, again⟩ := splitTopLevel_lossless ") a( '  )' b ) \t \"c  (".toList
  have tokens : splitTopLevel ") a( '  )' b ) \t \"c  (".toList =
      [[')'], "a( '  )' b )".toList, "\"c  (".toList] := by
    decide
  have member : "a( '  )' b )".toList ∈ splitTopLevel ") a( '  )' b ) \t \"c  (".toList := by
    rw [tokens]
    exact List.mem_cons_of_mem _ List.mem_cons_self
  rw [tokens] at whole again
  exact ⟨tokens, member, (each _ member).2, whole.symm, again.trans tokens.symm⟩

end Value

end CssAudit
