import CssAudit.Proofs.Text.Collapse
import CssAudit.Proofs.Text.Padding
import Mathlib.Data.List.Flatten

/-!
# Words and the blanks between them

A blank stands between two solid characters of a text exactly if they lie in different
words, so texts with the same words have the same characters apart, and the solid
characters together with the places where they are apart determine the words.  A text is
single-spaced exactly if it is collapsed.  Collapsing can therefore be done in two steps:
one space is put for every run of blanks, and what comes out is trimmed.
-/

namespace CssAudit

namespace Text

/-- Whether a blank stands between the `i`-th and the `j`-th of the characters that pass
a test, counted from zero. -/
def Separates (keeps : Char → Bool) (text : Text) (i j : Nat) : Prop :=
  ∃ before c after, text = before ++ c :: after ∧ isBlank c = true ∧
    i < before.countP keeps ∧ before.countP keeps ≤ j

/-- Dropping characters that do not count and are not blank moves no blank past one that
counts. -/
theorem separates_filter_iff {keeps passes : Char → Bool}
    (blanks : ∀ c, isBlank c = true → passes c = true) {text : Text} {i j : Nat} :
    Separates keeps (text.filter passes) i j ↔
      Separates (fun c => keeps c && passes c) text i j := by
  constructor
  · rintro ⟨before, c, after, shape, blank, low, high⟩
    obtain ⟨first, second, rfl, rfl, later⟩ := List.filter_eq_append_iff.mp shape
    obtain ⟨skipped, rest, rfl, dropped, -, -⟩ := List.filter_eq_cons_iff.mp later
    have same : ((first ++ skipped).countP fun d => keeps d && passes d) =
        (first.filter passes).countP keeps := by
      rw [← List.countP_filter, List.filter_append, List.filter_eq_nil_iff.mpr dropped,
        List.append_nil]
    exact ⟨first ++ skipped, c, rest, by simp, blank, same ▸ low, same ▸ high⟩
  · rintro ⟨before, c, after, rfl, blank, low, high⟩
    rw [← List.countP_filter] at low high
    exact ⟨before.filter passes, c, after.filter passes, by simp [blanks c blank], blank,
      low, high⟩

theorem length_flatten_words (text : Text) :
    (words text).flatten.length = text.countP fun c => !isBlank c := by
  rw [flatten_words, List.countP_eq_length_filter]

/-- Whether a list of words can be cut behind exactly `n` characters. -/
def CutsAt (pieces : List Text) (n : Nat) : Prop :=
  ∃ left right, pieces = left ++ right ∧ left.flatten.length = n

theorem cutsAt_head (word : Text) (pieces : List Text) : CutsAt (word :: pieces) word.length :=
  ⟨[word], pieces, rfl, by simp⟩

theorem CutsAt.length_head_le {word : Text} {pieces : List Text} {n : Nat}
    (cuts : CutsAt (word :: pieces) n) (positive : 0 < n) : word.length ≤ n := by
  obtain ⟨left, right, cut, rfl⟩ := cuts
  cases left with
  | nil => exact absurd positive (Nat.lt_irrefl 0)
  | cons first left =>
      obtain ⟨rfl, -⟩ := List.cons.inj cut
      simp

theorem cutsAt_cons_iff {word : Text} {pieces : List Text} {n : Nat} (nonempty : word ≠ []) :
    CutsAt (word :: pieces) (word.length + n) ↔ CutsAt pieces n := by
  constructor
  · rintro ⟨left, right, cut, count⟩
    cases left with
    | nil =>
        have empty : word.length = 0 := Nat.eq_zero_of_add_eq_zero_right count.symm
        exact absurd (List.length_eq_zero_iff.mp empty) nonempty
    | cons first left =>
        obtain ⟨rfl, rfl⟩ := List.cons.inj cut
        exact ⟨left, right, rfl, by simpa using count⟩
  · rintro ⟨left, right, rfl, rfl⟩
    exact ⟨word :: left, right, rfl, by simp⟩

theorem length_head_eq {word other : Text} {first second : List Text} (word_nonempty : word ≠ [])
    (other_nonempty : other ≠ [])
    (same : (word :: first).flatten = (other :: second).flatten)
    (cuts : ∀ n, n < (word :: first).flatten.length →
      (CutsAt (word :: first) n ↔ CutsAt (other :: second) n)) :
    word.length = other.length := by
  have total := congrArg List.length same
  rw [List.flatten_cons, List.flatten_cons, List.length_append, List.length_append] at total
  rw [List.flatten_cons, List.length_append] at cuts
  -- The end of the shorter word is a cut, and it would lie inside the longer one.
  rcases Nat.lt_trichotomy word.length other.length with shorter | equal | longer
  · have cut := (cuts word.length (by omega)).mp (cutsAt_head word first)
    have bound := cut.length_head_le (List.length_pos_iff.mpr word_nonempty)
    omega
  · exact equal
  · have cut := (cuts other.length (by omega)).mpr (cutsAt_head other second)
    have bound := cut.length_head_le (List.length_pos_iff.mpr other_nonempty)
    omega

/-- Words are determined by their characters and the places where they are cut. -/
theorem eq_of_cutsAt {first second : List Text} (first_nonempty : [] ∉ first)
    (second_nonempty : [] ∉ second) (same : first.flatten = second.flatten)
    (cuts : ∀ n, n < first.flatten.length → (CutsAt first n ↔ CutsAt second n)) :
    first = second := by
  induction first generalizing second with
  | nil =>
      cases second with
      | nil => rfl
      | cons other second => simp_all
  | cons word first ih =>
      cases second with
      | nil => simp_all
      | cons other second =>
          rw [List.mem_cons, not_or] at first_nonempty second_nonempty
          have word_nonempty := Ne.symm first_nonempty.1
          have lengths := length_head_eq word_nonempty (Ne.symm second_nonempty.1) same cuts
          obtain ⟨rfl, rest⟩ := List.append_inj same lengths
          refine congrArg (word :: ·) (ih first_nonempty.2 second_nonempty.2 rest ?_)
          intro n within
          have shifted := cuts (word.length + n) (by simpa using within)
          rwa [cutsAt_cons_iff word_nonempty, cutsAt_cons_iff word_nonempty] at shifted

theorem nil_not_mem_words (text : Text) : [] ∉ words text :=
  fun member => (mem_words member).1 rfl

/-- Where the list of words is cut in two, the text is cut at a blank. -/
theorem exists_blank_of_words_eq_append {text : Text} {left right : List Text}
    (cut : words text = left ++ right) (left_nonempty : left ≠ [])
    (right_nonempty : right ≠ []) :
    ∃ before c after, text = before ++ c :: after ∧ isBlank c = true ∧
      before.countP (fun d => !isBlank d) = left.flatten.length := by
  -- The words of `left` are used up character by character, up to the blank behind them.
  fun_induction words text generalizing left with
  | case1 =>
      have empty := List.append_eq_nil_iff.mp cut.symm
      exact absurd empty.1 left_nonempty
  | case2 c rest blank ih =>
      obtain ⟨before, d, after, rfl, separates, count⟩ := ih cut left_nonempty
      exact ⟨c :: before, d, after, rfl, separates, by simp [blank, count]⟩
  | case3 c rest solid next none ih =>
      rcases List.append_eq_singleton_iff.mp cut.symm with ⟨empty, -⟩ | ⟨-, empty⟩
      · exact absurd empty left_nonempty
      · exact absurd empty right_nonempty
  | case4 c rest solid next word others found ih =>
      obtain ⟨first, left, rfl⟩ := List.exists_cons_of_ne_nil left_nonempty
      obtain ⟨rfl, rfl⟩ := List.cons.inj cut
      have later : words rest = (word :: left) ++ right := found
      obtain ⟨before, d, after, rfl, separates, count⟩ := ih later (List.cons_ne_nil word left)
      refine ⟨c :: before, d, after, rfl, separates, ?_⟩
      rw [List.countP_cons_of_pos (by simpa using solid), count]
      rfl
  | case5 c rest solid alone ih =>
      obtain ⟨first, left, rfl⟩ := List.exists_cons_of_ne_nil left_nonempty
      obtain ⟨rfl, later⟩ := List.cons.inj cut
      by_cases only : left = []
      · subst only
        cases rest with
        | nil => exact absurd later.symm right_nonempty
        | cons d rest => exact ⟨[c], d, rest, rfl, by simpa using alone, by simp [solid]⟩
      · obtain ⟨before, d, after, rfl, separates, count⟩ := ih later only
        refine ⟨c :: before, d, after, rfl, separates, ?_⟩
        rw [List.countP_cons_of_pos (by simpa using solid), count]
        rfl

/-- A blank stands between two solid characters exactly if they lie in different words. -/
theorem separates_iff_cutsAt {text : Text} {i j : Nat}
    (within : j < text.countP fun c => !isBlank c) :
    Separates (fun c => !isBlank c) text i j ↔ ∃ n, i < n ∧ n ≤ j ∧ CutsAt (words text) n := by
  constructor
  · rintro ⟨before, c, after, rfl, blank, low, high⟩
    exact ⟨_, low, high, words before, words after, words_append_blank blank before after,
      length_flatten_words before⟩
  · rintro ⟨_, low, high, left, right, cut, rfl⟩
    have left_nonempty : left ≠ [] := by
      rintro rfl
      exact absurd low (Nat.not_lt_zero i)
    have right_nonempty : right ≠ [] := by
      rintro rfl
      rw [← length_flatten_words, cut, List.append_nil] at within
      omega
    obtain ⟨before, c, after, shape, blank, count⟩ :=
      exists_blank_of_words_eq_append cut left_nonempty right_nonempty
    exact ⟨before, c, after, shape, blank, by rwa [count], by rwa [count]⟩

theorem cutsAt_zero (pieces : List Text) : CutsAt pieces 0 :=
  ⟨[], pieces, rfl, rfl⟩

theorem cutsAt_words_succ_iff {text : Text} {n : Nat}
    (within : n + 1 < text.countP fun c => !isBlank c) :
    CutsAt (words text) (n + 1) ↔ Separates (fun c => !isBlank c) text n (n + 1) := by
  rw [separates_iff_cutsAt within]
  constructor
  · exact fun cuts => ⟨n + 1, n.lt_succ_self, le_rfl, cuts⟩
  · rintro ⟨m, low, high, cuts⟩
    obtain rfl : m = n + 1 := by omega
    exact cuts

theorem words_eq_iff {first second : Text} :
    words first = words second ↔
      (first.filter fun c => !isBlank c) = second.filter (fun c => !isBlank c) ∧
        ∀ i j, j < (second.countP fun c => !isBlank c) →
          (Separates (fun c => !isBlank c) first i j ↔
            Separates (fun c => !isBlank c) second i j) := by
  have counts (kept : (first.filter fun c => !isBlank c) = second.filter fun c => !isBlank c) :
      (first.countP fun c => !isBlank c) = second.countP fun c => !isBlank c := by
    rw [List.countP_eq_length_filter, kept, ← List.countP_eq_length_filter]
  constructor
  · intro same
    have kept : (first.filter fun c => !isBlank c) = second.filter fun c => !isBlank c := by
      rw [← flatten_words, same, flatten_words]
    refine ⟨kept, fun i j within => ?_⟩
    rw [separates_iff_cutsAt (by rwa [counts kept]), separates_iff_cutsAt within, same]
  · rintro ⟨kept, apart⟩
    refine eq_of_cutsAt (nil_not_mem_words first) (nil_not_mem_words second)
      (by rw [flatten_words, flatten_words, kept]) ?_
    intro n within
    rw [length_flatten_words, counts kept] at within
    cases n with
    | zero => exact iff_of_true (cutsAt_zero _) (cutsAt_zero _)
    | succ n =>
        rw [cutsAt_words_succ_iff (by rwa [counts kept]), cutsAt_words_succ_iff within,
          apart n (n + 1) within]

theorem joinWith_append (separator : Text) {left right : List Text} (left_nonempty : left ≠ [])
    (right_nonempty : right ≠ []) :
    joinWith separator (left ++ right) =
      joinWith separator left ++ separator ++ joinWith separator right := by
  induction left with
  | nil => exact absurd rfl left_nonempty
  | cons text left ih =>
      cases left with
      | nil => exact joinWith_cons separator text right_nonempty
      | cons next others =>
          have rest := ih (List.cons_ne_nil next others)
          rw [List.cons_append] at rest
          rw [List.cons_append, List.cons_append, joinWith_cons separator text (by simp), rest,
            joinWith_cons separator text (List.cons_ne_nil next others)]
          simp only [List.append_assoc]

theorem infix_joinWith (separator : Text) {pieces : List Text} {piece : Text}
    (member : piece ∈ pieces) : piece <:+: joinWith separator pieces := by
  induction pieces with
  | nil => simp at member
  | cons text pieces ih =>
      cases pieces with
      | nil =>
          rw [List.mem_singleton.mp member]
          exact List.infix_rfl
      | cons next others =>
          rw [joinWith_cons _ _ (List.cons_ne_nil next others)]
          rcases List.mem_cons.mp member with rfl | later
          · rw [List.append_assoc]
            exact (List.prefix_append piece _).isInfix
          · exact (ih later).trans (List.suffix_append _ _).isInfix

theorem SingleSpaced.nil_not_mem_splitOn {text : Text} (spaced : SingleSpaced text)
    (nonempty : text ≠ []) : [] ∉ splitOn ' ' text := by
  intro member
  obtain ⟨left, right, split⟩ := List.append_of_mem member
  have shape := joinWith_splitOn ' ' text
  rw [split] at shape
  -- The empty piece is at an end of the text or between two spaces.
  cases left with
  | nil =>
      cases right with
      | nil => exact nonempty shape.symm
      | cons next others =>
          have first : text.head? = some ' ' := by
            rw [← shape]
            rfl
          exact absurd (spaced.starts ' ' first) (by decide)
  | cons first left =>
      rw [joinWith_append _ (List.cons_ne_nil first left) (by simp)] at shape
      cases right with
      | nil =>
          have last : text.getLast? = some ' ' := by
            rw [← shape]
            simp only [joinWith, List.append_nil, List.getLast?_concat]
          exact absurd (spaced.ends ' ' last) (by decide)
      | cons next others =>
          rw [joinWith_cons _ _ (List.cons_ne_nil next others), List.nil_append] at shape
          refine spaced.apart ⟨joinWith [' '] (first :: left), joinWith [' '] (next :: others), ?_⟩
          rw [← shape]
          simp

theorem SingleSpaced.of_mem_splitOn {text piece : Text} (spaced : SingleSpaced text)
    (nonempty : text ≠ []) (member : piece ∈ splitOn ' ' text) :
    piece ≠ [] ∧ ∀ c ∈ piece, isBlank c = false := by
  have shape := joinWith_splitOn ' ' text
  constructor
  · rintro rfl
    exact spaced.nil_not_mem_splitOn nonempty member
  · intro c inside
    rw [← Bool.not_eq_true]
    intro blank
    have within : c ∈ text := by
      rw [← shape]
      exact (infix_joinWith _ member).subset inside
    rw [spaced.eq_space c within blank] at inside
    exact not_mem_of_mem_splitOn member inside

theorem collapse_eq_self_iff {text : Text} : collapse text = text ↔ SingleSpaced text := by
  constructor
  · intro collapsed
    rw [← collapsed]
    exact singleSpaced_collapse text
  · intro spaced
    by_cases nonempty : text = []
    · rw [nonempty]
      rfl
    have split := words_joinWith fun _ member => spaced.of_mem_splitOn nonempty member
    rw [joinWith_splitOn] at split
    rw [collapse, split, joinWith_splitOn]

/-- A single-spaced text with the words of another one is what that one collapses to. -/
theorem SingleSpaced.eq_collapse {normal text : Text} (spaced : SingleSpaced normal)
    (same : words normal = words text) : normal = collapse text := by
  rw [collapse, ← same, ← collapse, collapse_eq_self_iff.mpr spaced]

/-- A text with one space for every run of blanks. -/
def squeeze : Text → Text
  | [] => []
  | c :: rest =>
      if isBlank c then
        if rest.head?.any isBlank then squeeze rest else ' ' :: squeeze rest
      else
        c :: squeeze rest

theorem head?_squeeze (text : Text) :
    (squeeze text).head?.map isBlank = text.head?.map isBlank := by
  fun_induction squeeze text with
  | case1 => rfl
  | case2 c rest blank continues ih =>
      obtain ⟨d, first, d_blank⟩ := (Option.any_eq_true _ _).mp continues
      simp [ih, first, d_blank, blank]
  | case3 c rest blank final ih => simpa [blank] using (by decide : isBlank ' ' = true)
  | case4 c rest solid ih => rfl

theorem isBlank_of_mem_squeeze {text : Text} :
    ∀ c ∈ squeeze text, isBlank c = true → c = ' ' := by
  fun_induction squeeze text with
  | case1 => simp
  | case2 d rest blank continues ih => exact ih
  | case3 d rest blank final ih => simpa using ih
  | case4 d rest solid ih =>
      intro c member c_blank
      rcases List.mem_cons.mp member with rfl | later
      · exact absurd c_blank solid
      · exact ih c later c_blank

theorem not_infix_squeeze (text : Text) : ¬ [' ', ' '] <:+: squeeze text := by
  fun_induction squeeze text with
  | case1 => simp
  | case2 c rest blank continues ih => exact ih
  | case3 c rest blank final ih =>
      rw [List.infix_cons_iff, not_or]
      refine ⟨fun starts => final ?_, ih⟩
      obtain ⟨after, shape⟩ := (List.cons_prefix_cons.mp starts).2
      have first := head?_squeeze rest
      rw [← shape] at first
      obtain ⟨d, d_first, d_blank⟩ := Option.map_eq_some_iff.mp first.symm
      rw [d_first, Option.any_some, d_blank]
      decide
  | case4 c rest solid ih =>
      rw [List.infix_cons_iff, not_or]
      refine ⟨fun starts => solid ?_, ih⟩
      rw [← (List.cons_prefix_cons.mp starts).1]
      decide

theorem words_cons_congr {first second : Text} (c : Char)
    (starts : first.head?.map isBlank = second.head?.map isBlank)
    (same : words first = words second) : words (c :: first) = words (c :: second) := by
  have next : first.head?.any (fun d => !isBlank d) = second.head?.any fun d => !isBlank d := by
    have mapped := congrArg (Option.any not) starts
    rwa [Option.any_map, Option.any_map] at mapped
  rw [words, words, next, same]

theorem words_squeeze (text : Text) : words (squeeze text) = words text := by
  fun_induction squeeze text with
  | case1 => rfl
  | case2 c rest blank continues ih => rw [ih, words, if_pos blank]
  | case3 c rest blank final ih => rw [words, if_pos (by decide), ih, words, if_pos blank]
  | case4 c rest solid ih => exact words_cons_congr c (head?_squeeze rest) ih

theorem IsGap.words_append {gap : Text} (blank : IsGap gap) (text : Text) :
    words (gap ++ text) = words text := by
  induction gap with
  | nil => rfl
  | cons c gap ih =>
      rw [List.cons_append, words, if_pos (blank c (by simp))]
      exact ih fun d member => blank d (List.mem_cons_of_mem c member)

theorem IsGap.append_words {gap : Text} (blank : IsGap gap) (text : Text) :
    words (text ++ gap) = words text := by
  cases gap with
  | nil => rw [List.append_nil]
  | cons c gap =>
      have rest : IsGap gap := fun d member => blank d (List.mem_cons_of_mem c member)
      have none : words gap = [] := by simpa [words] using rest.words_append []
      rw [words_append_blank (blank c (by simp)), none, List.append_nil]

theorem words_trim (text : Text) : words (trim text) = words text := by
  obtain ⟨before, after, before_blank, after_blank, shape⟩ := pads_trim text
  conv_rhs => rw [shape]
  rw [before_blank.words_append, after_blank.append_words]

/-- Collapsing a text is squeezing its runs of blanks and trimming what comes out. -/
theorem trim_squeeze (text : Text) : trim (squeeze text) = collapse text := by
  have spaced : SingleSpaced (trim (squeeze text)) := {
    eq_space c member := isBlank_of_mem_squeeze c ((trim_sublist _).subset member)
    apart within := not_infix_squeeze text (within.trans (pads_trim _).isInfix)
    starts := head?_trim
    ends := getLast?_trim }
  exact spaced.eq_collapse (by rw [words_trim, words_squeeze])

end Text

end CssAudit
