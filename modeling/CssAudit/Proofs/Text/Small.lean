import CssAudit.Proofs.Text.Lowering
import CssAudit.Text.Case
import CssAudit.Text.Digit

/-!
# Texts in small letters

Texts that differ in the case of ASCII letters have one form in small letters.  What
classifies characters does not tell a letter from its small form, so that whatever cuts,
trims or collapses a text commutes with making its letters small, and lower case does not
notice it.
-/

namespace CssAudit

namespace Text

/-- A text with its ASCII letters in lower case, and all else as it is. -/
def small (text : Text) : Text :=
  text.map Char.toLower

/-- Whether two texts differ in nothing but the case of ASCII letters. -/
def Alike (first second : Text) : Prop :=
  first.small = second.small

instance (first second : Text) : Decidable (Alike first second) :=
  inferInstanceAs (Decidable (first.small = second.small))

/-- The letters that have another small form. -/
def capitals : List Char :=
  "ABCDEFGHIJKLMNOPQRSTUVWXYZ".toList

theorem toLower_cases (c : Char) : c.toLower = c ∨ c ∈ capitals := by
  by_cases capital : 65 ≤ c.toNat ∧ c.toNat ≤ 90
  · have all : ∀ code : Fin 26, Char.ofNat (65 + code.val) ∈ capitals := by decide
    have listed := all ⟨c.toNat - 65, by omega⟩
    have code : 65 + (c.toNat - 65) = c.toNat := by omega
    rw [code, Char.ofNat_toNat] at listed
    exact .inr listed
  · exact .inl (toLower_eq_self capital)

/-- What does not tell the capital letters from the small ones tells no case apart. -/
theorem blind_of_capitals {β : Type} [DecidableEq β] {f : Char → β}
    (same : capitals.all (fun c => f c.toLower = f c) = true) (c : Char) : f c.toLower = f c := by
  rcases toLower_cases c with unchanged | capital
  · rw [unchanged]
  · simpa using List.all_eq_true.mp same c capital

theorem isBlank_toLower (c : Char) : isBlank c.toLower = isBlank c :=
  blind_of_capitals (by decide) c

theorem digitValue?_toLower (c : Char) : digitValue? c.toLower = digitValue? c :=
  blind_of_capitals (by decide) c

theorem isDecimal_toLower (c : Char) : isDecimal c.toLower = isDecimal c := by
  rw [isDecimal, digitValue?_toLower, isDecimal]

theorem fold_toLower (c : Char) : fold c.toLower = fold c :=
  blind_of_capitals (by decide) c

theorem isFoldedLetter_toLower (c : Char) : isFoldedLetter c.toLower = isFoldedLetter c := by
  rw [isFoldedLetter, fold_toLower, isFoldedLetter]

theorem isDigit_toLower (c : Char) : c.toLower.isDigit = c.isDigit :=
  blind_of_capitals (f := Char.isDigit) (by decide) c

theorem isCased_toLower (c : Char) : isCased c.toLower = isCased c :=
  blind_of_capitals (by decide) c

theorem isCaseIgnorable_toLower (c : Char) : isCaseIgnorable c.toLower = isCaseIgnorable c :=
  blind_of_capitals (by decide +kernel) c

theorem lowerChar_toLower (c : Char) : lowerChar c.toLower = lowerChar c :=
  blind_of_capitals (by decide) c

theorem toLower_eq_iff {c d : Char} (plain : d.isAlpha = false) : c.toLower = d ↔ c = d := by
  rcases toLower_cases c with unchanged | capital
  · rw [unchanged]
  · have letters : capitals.all (fun c => c.isAlpha && c.toLower.isAlpha) = true := by decide
    have letter := List.all_eq_true.mp letters c capital
    obtain ⟨large_letter, small_letter⟩ := Bool.and_eq_true_iff.mp letter
    constructor <;> rintro rfl
    · exact absurd small_letter (by simp [plain])
    · exact absurd large_letter (by simp [plain])

theorem toLower_toLower (c : Char) : c.toLower.toLower = c.toLower :=
  blind_of_capitals (by decide) c

@[simp] theorem small_nil : small [] = [] := rfl

@[simp] theorem small_cons (c : Char) (text : Text) : small (c :: text) = c.toLower :: small text :=
  rfl

@[simp] theorem small_append (first second : Text) :
    small (first ++ second) = small first ++ small second :=
  List.map_append

@[simp] theorem isEmpty_small (text : Text) : (small text).isEmpty = text.isEmpty :=
  List.isEmpty_map

@[simp] theorem length_small (text : Text) : (small text).length = text.length :=
  List.length_map _

theorem small_small (text : Text) : small (small text) = small text := by
  rw [small, small, List.map_map]
  exact List.map_congr_left fun c _ => toLower_toLower c

section Class

variable {p : Char → Bool} (blind : ∀ c, p c.toLower = p c)
include blind

theorem dropWhile_small (text : Text) : (small text).dropWhile p = small (text.dropWhile p) := by
  rw [small, List.dropWhile_map, show p ∘ Char.toLower = p from funext blind, small]

theorem takeWhile_small (text : Text) : (small text).takeWhile p = small (text.takeWhile p) := by
  rw [small, List.takeWhile_map, show p ∘ Char.toLower = p from funext blind, small]

theorem span_small (text : Text) :
    (small text).span p = (small (text.span p).1, small (text.span p).2) := by
  simp only [List.span_eq_takeWhile_dropWhile, takeWhile_small blind, dropWhile_small blind]

theorem filter_small (text : Text) : (small text).filter p = small (text.filter p) := by
  rw [small, List.filter_map, show p ∘ Char.toLower = p from funext blind, small]

theorem all_small (text : Text) : (small text).all p = text.all p := by
  rw [small, List.all_map, show p ∘ Char.toLower = p from funext blind]

theorem head?_any_small (text : Text) : (small text).head?.any p = text.head?.any p := by
  cases text with
  | nil => rfl
  | cons c rest => exact blind c

end Class

section Plain

variable {d : Char} (plain : d.isAlpha = false)
include plain

theorem head?_small_eq_iff {text : Text} : (small text).head? = some d ↔ text.head? = some d := by
  cases text with
  | nil => rfl
  | cons c rest => simp [toLower_eq_iff plain]

theorem getLast?_small_eq_iff {text : Text} :
    (small text).getLast? = some d ↔ text.getLast? = some d := by
  rw [small, List.getLast?_map]
  cases text.getLast? with
  | none => simp
  | some c => simp [toLower_eq_iff plain]

theorem count_small (text : Text) : (small text).count d = text.count d := by
  induction text with
  | nil => rfl
  | cons c rest ih => simp [List.count_cons, ih, toLower_eq_iff plain]

theorem mem_small_iff {text : Text} : d ∈ small text ↔ d ∈ text := by
  rw [← List.count_pos_iff, count_small plain, List.count_pos_iff]

theorem dropPrefix?_small (text : Text) :
    dropPrefix? [d] (small text) = (dropPrefix? [d] text).map small := by
  cases text with
  | nil => rfl
  | cons c rest =>
      by_cases same : d = c
      · subst same
        simp [dropPrefix?, (toLower_eq_iff plain).mpr rfl]
      · have apart : d ≠ c.toLower := fun eq => same ((toLower_eq_iff plain).mp eq.symm).symm
        simp [dropPrefix?, same, apart]

end Plain

theorem trimStart_small (text : Text) : trimStart (small text) = small (trimStart text) :=
  dropWhile_small isBlank_toLower text

theorem trimEnd_small (text : Text) : trimEnd (small text) = small (trimEnd text) := by
  have reversed : (small text).reverse = small text.reverse := List.map_reverse.symm
  rw [trimEnd, reversed, trimStart_small, trimEnd, small, small, List.map_reverse]

theorem trim_small (text : Text) : trim (small text) = small (trim text) := by
  rw [trim, trimStart_small, trimEnd_small, trim]

theorem words_small (text : Text) : words (small text) = (words text).map small := by
  have continued (rest : Text) : (small rest).head?.any (fun next => !isBlank next) =
      rest.head?.any fun next => !isBlank next :=
    head?_any_small (fun c => by rw [isBlank_toLower]) rest
  fun_induction words text with
  | case1 => rfl
  | case2 c rest blank ih => simp [words, isBlank_toLower, blank, ih]
  | case3 c rest solid next none ih =>
      simp [words, isBlank_toLower, solid, continued, next, ih, none]
  | case4 c rest solid next first others found ih =>
      simp [words, isBlank_toLower, solid, continued, next, ih, found]
  | case5 c rest solid alone ih =>
      simp [words, isBlank_toLower, solid, continued, alone, ih]

theorem joinWith_small (texts : List Text) :
    joinWith [' '] (texts.map small) = small (joinWith [' '] texts) := by
  fun_induction joinWith [' '] texts with
  | case1 => rfl
  | case2 text => rfl
  | case3 text next texts ih =>
      rw [List.map_cons, List.map_cons, joinWith, ← List.map_cons, ih, small_append, small_append]
      rfl

theorem collapse_small (text : Text) : collapse (small text) = small (collapse text) := by
  rw [collapse, words_small, joinWith_small, collapse]

theorem dropFolded?_small (pattern text : Text) :
    dropFolded? pattern (small text) = (dropFolded? pattern text).map small := by
  fun_induction dropFolded? pattern text with
  | case1 rest => simp [dropFolded?]
  | case2 => rfl
  | case3 pattern c rest ih => simp [dropFolded?, fold_toLower, ih]
  | case4 expected pattern c rest different => simp [dropFolded?, fold_toLower, different]

theorem anywhere_small {test : Text → Bool} (blind : ∀ text, test (small text) = test text)
    (text : Text) : anywhere test (small text) = anywhere test text := by
  induction text with
  | nil => rfl
  | cons c rest ih => 
      have start : test (c.toLower :: small rest) = test (c :: rest) := blind (c :: rest)
      simp only [small_cons, anywhere, start, ih]

theorem startsCased_small (text : Text) : startsCased (small text) = startsCased text := by
  rw [startsCased, dropWhile_small isCaseIgnorable_toLower, head?_any_small isCased_toLower,
    startsCased]

theorem lowerAfter_small (afterCased : Bool) (text : Text) :
    lowerAfter afterCased (small text) = lowerAfter afterCased text := by
  induction text generalizing afterCased with
  | nil => rfl
  | cons c rest ih =>
      have sigma : c.toLower = capitalSigma ↔ c = capitalSigma := toLower_eq_iff (by decide)
      simp only [small_cons, lowerAfter, startsCased_small, sigma, lowerChar_toLower,
        isCaseIgnorable_toLower, isCased_toLower, ih]

/-- Lower case does not notice that the ASCII letters are small already. -/
theorem lower_small (text : Text) : lower (small text) = lower text :=
  lowerAfter_small false text

end Text

end CssAudit
