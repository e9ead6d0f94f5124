import CssAudit.Text.Basic

/-!
# Blank characters

The blanks are the twenty-nine characters that separate words in any script:
the ASCII spaces, the four information separators, the next-line character and
the Unicode spaces.  A text is trimmed at both ends, cut into words, or
collapsed so that single spaces stand between its words.
-/

namespace CssAudit

namespace Text

/-- The ranges of blank characters. -/
def blankRanges : Ranges :=
  [(0x0009, 0x000D), (0x001C, 0x0020), (0x0085, 0x0085), (0x00A0, 0x00A0),
    (0x1680, 0x1680), (0x2000, 0x200A), (0x2028, 0x2029), (0x202F, 0x202F),
    (0x205F, 0x205F), (0x3000, 0x3000)]

def isBlank (c : Char) : Bool :=
  blankRanges.contains c

/-- A text without the blanks at its start. -/
def trimStart (text : Text) : Text :=
  text.dropWhile isBlank

/-- A text without the blanks at its end. -/
def trimEnd (text : Text) : Text :=
  (trimStart text.reverse).reverse

/-- A text without the blanks at its ends. -/
def trim (text : Text) : Text :=
  trimEnd (trimStart text)

/-- The maximal runs of characters that are not blank. -/
def words : Text → List Text
  | [] => []
  | c :: rest =>
      if isBlank c then
        words rest
      else if rest.head?.any (fun next => !isBlank next) then
        match words rest with
        | [] => [[c]]
        | word :: others => (c :: word) :: others
      else
        [c] :: words rest

/-- The words of a text with one space between neighbours. -/
def collapse (text : Text) : Text :=
  joinWith [' '] (words text)

theorem isBlank_of_head?_trimStart {text : Text} {c : Char}
    (first : (trimStart text).head? = some c) : isBlank c = false := by
  have kept := List.head?_dropWhile_not isBlank text
  rw [← trimStart, first] at kept
  simpa using kept

theorem trimStart_eq_self {text : Text}
    (first : ∀ c, text.head? = some c → isBlank c = false) : trimStart text = text := by
  cases text with
  | nil => rfl
  | cons c rest => simp [trimStart, first c rfl]

theorem trimEnd_eq_self {text : Text}
    (last : ∀ c, text.getLast? = some c → isBlank c = false) : trimEnd text = text := by
  rw [trimEnd, trimStart_eq_self (by simpa using last), List.reverse_reverse]

theorem trim_eq_self {text : Text}
    (first : ∀ c, text.head? = some c → isBlank c = false)
    (last : ∀ c, text.getLast? = some c → isBlank c = false) : trim text = text := by
  rw [trim, trimStart_eq_self first, trimEnd_eq_self last]

theorem mem_words {text word : Text} (member : word ∈ words text) :
    word ≠ [] ∧ ∀ c ∈ word, isBlank c = false := by
  fun_induction words text generalizing word with
  | case1 => simp at member
  | case2 c rest blank ih => exact ih member
  | case3 c rest solid next none ih => simp_all
  | case4 c rest solid next first others found ih =>
      rcases List.mem_cons.mp member with rfl | member
      · have kept : first ≠ [] ∧ ∀ c ∈ first, isBlank c = false := ih (by simp [found])
        simp_all
      · exact ih (by simp [found, member])
  | case5 c rest solid alone ih =>
      rcases List.mem_cons.mp member with rfl | member
      · simp_all
      · exact ih member

theorem flatten_words (text : Text) :
    (words text).flatten = text.filter fun c => !isBlank c := by
  fun_induction words text with
  | case1 => rfl
  | case2 c rest blank ih => simp [blank, ih]
  | case3 c rest solid next none ih => simp_all
  | case4 c rest solid next first others found ih => simp_all
  | case5 c rest solid alone ih => simp_all

end Text

end CssAudit
