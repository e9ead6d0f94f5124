import CssAudit.Text.Blank
import CssAudit.Text.Lemmas
import Mathlib.Data.List.Infix

/-!
# Collapsed texts

A collapsed text is its words with single spaces between them.  Collapsing keeps
the characters that are not blank, in order, and can neither make nor break a run
of them: a pattern without blanks that occurs in the collapsed text occurs in a
word of the text.  A collapsed text collapses to itself.
-/

namespace CssAudit

namespace Text

/-- A run of characters that avoids a separator lies on one side of it. -/
theorem infix_of_infix_append_cons {pattern before after : Text} {separator : Char}
    (avoids : separator ∉ pattern)
    (within : pattern <:+: before ++ separator :: after) :
    pattern <:+: before ∨ pattern <:+: after := by
  have no_start : ∀ {start : Text}, separator ∉ start →
      start <+: separator :: after → start = [] := by
    intro start missing starts
    rcases List.prefix_cons_iff.mp starts with empty | ⟨rest, shape, _⟩
    · exact empty
    · exact absurd (by simp [shape]) missing
  rcases List.infix_append_iff.mp within with left | right | ⟨first, second, split, ends, starts⟩
  · exact .inl left
  · rcases List.infix_cons_iff.mp right with starts | inside
    · rw [no_start avoids starts]
      exact .inl List.nil_infix
    · exact .inr inside
  · have empty : second = [] := no_start (by simp_all) starts
    rw [split, empty, List.append_nil]
    exact .inl ends.isInfix

theorem infix_of_infix_append_append {pattern before separator after : Text}
    (nonempty : separator ≠ []) (avoids : ∀ c ∈ separator, c ∉ pattern)
    (within : pattern <:+: before ++ (separator ++ after)) :
    pattern <:+: before ∨ pattern <:+: after := by
  induction separator generalizing before with
  | nil => exact absurd rfl nonempty
  | cons c separator ih =>
      have first : c ∉ pattern := avoids c (by simp)
      rcases infix_of_infix_append_cons first within with left | right
      · exact .inl left
      · cases separator with
        | nil => exact .inr right
        | cons next others =>
            have rest : ∀ d ∈ next :: others, d ∉ pattern := fun d member =>
              avoids d (List.mem_cons_of_mem c member)
            have later : pattern <:+: [] ++ (next :: others ++ after) := right
            rcases ih (by simp) rest later with inside | inside
            · exact .inl (inside.trans List.nil_infix)
            · exact .inr inside

theorem exists_infix_of_infix_joinWith {pattern separator : Text} {pieces : List Text}
    (nonempty : pattern ≠ []) (separates : separator ≠ [])
    (avoids : ∀ c ∈ separator, c ∉ pattern)
    (within : pattern <:+: joinWith separator pieces) :
    ∃ piece ∈ pieces, pattern <:+: piece := by
  induction pieces with
  | nil => exact absurd (List.infix_nil.mp within) nonempty
  | cons piece pieces ih =>
      cases pieces with
      | nil => exact ⟨piece, by simp, within⟩
      | cons next others =>
          rw [joinWith_cons _ _ (by simp), List.append_assoc] at within
          rcases infix_of_infix_append_append separates avoids within with left | right
          · exact ⟨piece, by simp, left⟩
          · obtain ⟨found, member, inside⟩ := ih right
            exact ⟨found, List.mem_cons_of_mem piece member, inside⟩

theorem isBlank_eq_false {c : Char} (low : 0x20 < c.toNat) (high : c.toNat < 0x80) :
    isBlank c = false := by
  simp only [isBlank, Ranges.contains, blankRanges, List.any_cons, List.any_nil,
    Bool.or_false, Bool.or_eq_false_iff, Bool.and_eq_false_iff, decide_eq_false_iff_not]
  omega

theorem words_append_blank {c : Char} (blank : isBlank c = true) (before after : Text) :
    words (before ++ c :: after) = words before ++ words after := by
  induction before with
  | nil => simp [words, blank]
  | cons d before ih =>
      by_cases skipped : isBlank d = true
      · simpa [words, skipped] using ih
      · cases before with
        | nil => simp [words, skipped, blank]
        | cons e before =>
            by_cases ends : isBlank e = true
            · simpa [words, skipped, ends] using ih
            · have shape : words (e :: before) ≠ [] := by
                unfold words
                simp only [ends, Bool.false_eq_true, if_false]
                split
                · split <;> simp
                · simp
              obtain ⟨word, others, found⟩ := List.exists_cons_of_ne_nil shape
              rw [List.cons_append, List.cons_append, words]
              rw [List.cons_append] at ih
              rw [ih, found, words, found]
              simp [skipped, ends]

theorem words_of_solid {word : Text} (nonempty : word ≠ [])
    (solid : ∀ c ∈ word, isBlank c = false) : words word = [word] := by
  induction word with
  | nil => exact absurd rfl nonempty
  | cons c word ih =>
      have first : isBlank c = false := solid c (by simp)
      cases word with
      | nil => simp [words, first]
      | cons d word =>
          have next : isBlank d = false := solid d (by simp)
          have rest := ih (by simp) fun e member => solid e (List.mem_cons_of_mem c member)
          rw [words, rest]
          simp [first, next]

theorem words_joinWith {pieces : List Text}
    (solid : ∀ piece ∈ pieces, piece ≠ [] ∧ ∀ c ∈ piece, isBlank c = false) :
    words (joinWith [' '] pieces) = pieces := by
  induction pieces with
  | nil => rfl
  | cons piece pieces ih =>
      have first := solid piece (by simp)
      have rest := ih fun other member => solid other (List.mem_cons_of_mem piece member)
      cases pieces with
      | nil => exact words_of_solid first.1 first.2
      | cons next others =>
          rw [joinWith_cons _ _ (by simp), List.append_assoc, List.singleton_append,
            words_append_blank (by decide), words_of_solid first.1 first.2, rest]
          rfl

theorem words_collapse (text : Text) : words (collapse text) = words text :=
  words_joinWith fun _ member => mem_words member

theorem collapse_collapse (text : Text) : collapse (collapse text) = collapse text := by
  rw [collapse, words_collapse, collapse]

private theorem words_runs (text : Text) :
    (∀ word ∈ words text, word <:+: text) ∧
      ∀ first others, words text = first :: others →
        text.head?.any (fun c => !isBlank c) = true → first <+: text := by
  fun_induction words text with
  | case1 => simp
  | case2 c rest blank ih =>
      refine ⟨fun word member => List.infix_cons (ih.1 word member), ?_⟩
      simp [blank]
  | case3 c rest solid next none ih =>
      refine ⟨fun word member => ?_, fun first others found _ => ?_⟩
      · rw [List.mem_singleton.mp member]
        exact (List.prefix_append [c] rest).isInfix
      · rw [← (List.cons.inj found).1]
        exact List.prefix_append [c] rest
  | case4 c rest solid next word others found ih =>
      have starts : c :: word <+: c :: rest :=
        List.cons_prefix_cons.mpr ⟨rfl, ih.2 word others found next⟩
      refine ⟨fun other member => ?_, fun first later shape _ => ?_⟩
      · rcases List.mem_cons.mp member with rfl | member
        · exact starts.isInfix
        · exact List.infix_cons (ih.1 other (by simp [found, member]))
      · rw [← (List.cons.inj shape).1]
        exact starts
  | case5 c rest solid alone ih =>
      refine ⟨fun word member => ?_, fun first others found _ => ?_⟩
      · rcases List.mem_cons.mp member with rfl | member
        · exact (List.prefix_append [c] rest).isInfix
        · exact List.infix_cons (ih.1 word member)
      · rw [← (List.cons.inj found).1]
        exact List.prefix_append [c] rest

theorem infix_of_mem_words {text word : Text} (member : word ∈ words text) :
    word <:+: text :=
  (words_runs text).1 word member

/-- A pattern without blanks that occurs after collapsing occurred before. -/
theorem infix_of_infix_collapse {pattern text : Text} (nonempty : pattern ≠ [])
    (solid : ∀ c ∈ pattern, isBlank c = false) (within : pattern <:+: collapse text) :
    pattern <:+: text := by
  have avoids : ∀ c ∈ [' '], c ∉ pattern := by
    intro c separates member
    rw [List.mem_singleton.mp separates] at member
    exact absurd (solid ' ' member) (by decide)
  obtain ⟨word, member, inside⟩ :=
    exists_infix_of_infix_joinWith nonempty (by simp) avoids within
  exact inside.trans (infix_of_mem_words member)

private theorem filter_joinWith (pieces : List Text) :
    (joinWith [' '] pieces).filter (fun c => !isBlank c) =
      pieces.flatten.filter fun c => !isBlank c := by
  induction pieces with
  | nil => rfl
  | cons piece pieces ih =>
      cases pieces with
      | nil => simp [joinWith]
      | cons next others =>
          rw [joinWith_cons _ _ (by simp), List.flatten_cons, List.filter_append,
            List.filter_append, ih, List.filter_append]
          have space : [' '].filter (fun c => !isBlank c) = [] := by decide
          rw [space, List.append_nil]

theorem filter_collapse (text : Text) :
    (collapse text).filter (fun c => !isBlank c) = text.filter fun c => !isBlank c := by
  rw [collapse, filter_joinWith, flatten_words, List.filter_filter]
  simp

theorem count_collapse {c : Char} (solid : isBlank c = false) (text : Text) :
    (collapse text).count c = text.count c := by
  have kept := congrArg (List.count c) (filter_collapse text)
  rwa [List.count_filter (by simp [solid]), List.count_filter (by simp [solid])] at kept

theorem mem_collapse {c : Char} (solid : isBlank c = false) {text : Text} :
    c ∈ collapse text ↔ c ∈ text := by
  rw [← List.count_pos_iff, count_collapse solid, List.count_pos_iff]

/-- The blanks of a text are single spaces, and none stands at an end. -/
structure SingleSpaced (text : Text) : Prop where
  eq_space : ∀ c ∈ text, isBlank c = true → c = ' '
  apart : ¬ [' ', ' '] <:+: text
  starts : ∀ c, text.head? = some c → isBlank c = false
  ends : ∀ c, text.getLast? = some c → isBlank c = false

theorem singleSpaced_of_solid {word : Text} (solid : ∀ c ∈ word, isBlank c = false) :
    SingleSpaced word where
  eq_space c member blank := by simp [solid c member] at blank
  apart within := absurd (solid ' ' (within.subset (by simp))) (by decide)
  starts c first := solid c (List.mem_of_mem_head? first)
  ends c last := solid c (List.mem_of_mem_getLast? last)

theorem SingleSpaced.cons_word {word text : Text} (spaced : SingleSpaced text)
    (nonempty : word ≠ []) (follows : text ≠ [])
    (solid : ∀ c ∈ word, isBlank c = false) : SingleSpaced (word ++ ' ' :: text) where
  eq_space c member blank := by
    rcases List.mem_append.mp member with inWord | inRest
    · simp [solid c inWord] at blank
    · rcases List.mem_cons.mp inRest with space | inText
      · exact space
      · exact spaced.eq_space c inText blank
  apart within := by
    have no_space : ' ' ∉ word := fun member => absurd (solid ' ' member) (by decide)
    have no_start : ¬ [' '] <+: text := by
      intro start
      obtain ⟨rest, shape⟩ := start
      exact absurd (spaced.starts ' ' (by simp [← shape])) (by decide)
    rcases List.infix_append_iff.mp within with
      left | right | ⟨first, second, split, ends, starts⟩
    · exact no_space (left.subset (by simp))
    · rcases List.infix_cons_iff.mp right with starts | inside
      · exact no_start (List.cons_prefix_cons.mp starts).2
      · exact spaced.apart inside
    · cases first with
      | nil =>
          rw [List.nil_append] at split
          rw [← split] at starts
          exact no_start (List.cons_prefix_cons.mp starts).2
      | cons c first =>
          have space : c = ' ' := (List.cons.inj split).1.symm
          exact no_space (ends.subset (by simp [space]))
  starts c first := by
    rw [List.head?_append_of_ne_nil _ nonempty] at first
    exact solid c (List.mem_of_mem_head? first)
  ends c last := by
    rw [List.getLast?_append_cons, List.getLast?_cons_of_ne_nil follows] at last
    exact spaced.ends c last

theorem singleSpaced_joinWith {pieces : List Text}
    (solid : ∀ piece ∈ pieces, piece ≠ [] ∧ ∀ c ∈ piece, isBlank c = false) :
    SingleSpaced (joinWith [' '] pieces) := by
  induction pieces with
  | nil => exact singleSpaced_of_solid (by simp [joinWith])
  | cons piece pieces ih =>
      have first := solid piece (by simp)
      cases pieces with
      | nil => exact singleSpaced_of_solid first.2
      | cons next others =>
          have rest := ih fun other member => solid other (List.mem_cons_of_mem piece member)
          have follows : joinWith [' '] (next :: others) ≠ [] := by
            have start := (solid next (by simp)).1
            cases others with
            | nil => exact start
            | cons _ _ => simp [joinWith, start]
          rw [joinWith_cons _ _ (by simp), List.append_assoc, List.singleton_append]
          exact rest.cons_word first.1 follows first.2

theorem singleSpaced_collapse (text : Text) : SingleSpaced (collapse text) :=
  singleSpaced_joinWith fun _ member => mem_words member

theorem SingleSpaced.trim_eq {text : Text} (spaced : SingleSpaced text) :
    trim text = text :=
  trim_eq_self spaced.starts spaced.ends

theorem trim_eq_self_of_collapse {text : Text} (normalised : collapse text = text) :
    trim text = text := by
  rw [← normalised]
  exact (singleSpaced_collapse text).trim_eq

theorem head?_collapse {text : Text} (starts : ∀ c, text.head? = some c → isBlank c = false) :
    (collapse text).head? = text.head? := by
  have first_solid {source : Text} (solid : ∀ c, source.head? = some c → isBlank c = false) :
      (source.filter fun c => !isBlank c).head? = source.head? := by
    cases source with
    | nil => rfl
    | cons c rest => simp [solid c rfl]
  rw [← first_solid (singleSpaced_collapse text).starts, filter_collapse, first_solid starts]

theorem joinWith_eq_flatMap (separator first : Text) (others : List Text) :
    joinWith separator (first :: others) = first ++ others.flatMap (separator ++ ·) := by
  induction others generalizing first with
  | nil => simp [joinWith]
  | cons second others ih =>
      rw [joinWith_cons _ _ (by simp), ih, List.flatMap_cons, List.append_assoc,
        List.append_assoc]

end Text

end CssAudit
