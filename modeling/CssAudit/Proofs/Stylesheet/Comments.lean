import CssAudit.Proofs.Text.Collapse
import CssAudit.Proofs.Text.Padding
import CssAudit.Stylesheet.Comment
import Mathlib.Data.List.Infix

/-!
# What stripping comments does

Stripping leaves out characters and adds none.  It changes a text exactly if the text
has a comment in it, and then it loses a slash, which is what tells a text apart from
the one without its comments.  Texts in which no comment begins can be put together
around any character of a third kind.
-/

namespace CssAudit

namespace Stylesheet

/-- Whether a comment is closed somewhere in a text. -/
def IsClosed (text : Text) : Prop :=
  ['*', '/'] <:+: text

instance (text : Text) : Decidable (IsClosed text) :=
  inferInstanceAs (Decidable (['*', '/'] <:+: text))

/-- Whether a text has a comment in it: an opening with a closing after it. -/
def HasComment (text : Text) : Prop :=
  ∃ rest, '/' :: '*' :: rest <:+ text ∧ IsClosed rest

theorem isClosed_cons_iff {c : Char} {rest : Text} :
    IsClosed (c :: rest) ↔ (c = '*' ∧ rest.head? = some '/') ∨ IsClosed rest := by
  rw [IsClosed, List.infix_cons_iff, IsClosed]
  refine or_congr_left ?_
  cases rest with
  | nil => simp
  | cons next rest => simp [List.cons_prefix_cons, eq_comm]

theorem hasComment_cons_iff {c : Char} {rest : Text} :
    HasComment (c :: rest) ↔
      (∃ after, c = '/' ∧ rest = '*' :: after ∧ IsClosed after) ∨ HasComment rest := by
  simp only [HasComment, List.suffix_cons_iff, or_and_right, exists_or, List.cons.injEq]
  refine or_congr_left (exists_congr fun after => ?_)
  constructor
  · rintro ⟨⟨rfl, rfl⟩, closed⟩
    exact ⟨rfl, rfl, closed⟩
  · rintro ⟨rfl, rfl, closed⟩
    exact ⟨⟨rfl, rfl⟩, closed⟩

theorem HasComment.isOpened {text : Text} (present : HasComment text) :
    ['/', '*'] <:+: text := by
  obtain ⟨rest, opened, _⟩ := present
  exact (List.prefix_append ['/', '*'] rest).isInfix.trans opened.isInfix

theorem HasComment.isClosed {text : Text} (present : HasComment text) : IsClosed text := by
  obtain ⟨rest, opened, closed⟩ := present
  have tail : rest <:+ text :=
    ((List.suffix_cons '*' rest).trans (List.suffix_cons '/' ('*' :: rest))).trans opened
  exact closed.trans tail.isInfix

theorem stripFrom_true_cons (c : Char) (rest : Text) :
    stripFrom true (c :: rest) =
      if c = '*' ∧ rest.head? = some '/' then stripFrom false rest.tail
      else stripFrom true rest := by
  rw [stripFrom.eq_def]
  split
  · exact absurd ‹_ = []› (by simp)
  · rename_i after shape
    obtain ⟨rfl, rfl⟩ := List.cons.inj shape
    simp
  · rename_i after shape
    obtain ⟨rfl, rfl⟩ := List.cons.inj shape
    simp
  · rename_i head tail _ no_closing shape
    obtain ⟨rfl, rfl⟩ := List.cons.inj shape
    rw [if_pos rfl, if_neg]
    rintro ⟨rfl, next⟩
    obtain ⟨after, rfl⟩ := List.head?_eq_some_iff.mp next
    exact no_closing after rfl rfl

theorem stripFrom_false_cons {c : Char} {rest : Text}
    (plain : ¬ (c = '/' ∧ rest.head? = some '*')) :
    stripFrom false (c :: rest) = (stripFrom false rest).map (c :: ·) := by
  rw [stripFrom.eq_def]
  split
  · exact absurd ‹_ = []› (by simp)
  · rename_i after shape
    obtain ⟨rfl, rfl⟩ := List.cons.inj shape
    exact absurd ⟨rfl, rfl⟩ plain
  · rename_i after shape
    obtain ⟨rfl, rfl⟩ := List.cons.inj shape
    rfl
  · rename_i head tail _ _ shape
    obtain ⟨rfl, rfl⟩ := List.cons.inj shape
    rfl

/-- A reading outside of comments comes to an end, and leaves out characters at
most. -/
theorem stripFrom_false_spec (text : Text) :
    ∃ out, stripFrom false text = some out ∧ out.Sublist text := by
  -- A comment leads into a reading inside and back, so both readings go together.
  suffices both : ∀ inside, (inside = false → ∃ out, stripFrom inside text = some out) ∧
      ∀ out, stripFrom inside text = some out → out.Sublist text by
    obtain ⟨out, ran⟩ := (both false).1 rfl
    exact ⟨out, ran, (both false).2 out ran⟩
  intro inside
  fun_induction stripFrom inside text with
  | case1 => simp
  | case2 => simp
  | case3 rest ih => exact ⟨by simp, fun out ran => (ih.2 out ran).cons _⟩
  | case4 inside rest outside ih =>
      refine ⟨fun _ => ⟨_, rfl⟩, fun out ran => ?_⟩
      rw [← Option.some.inj ran]
      cases closed : stripFrom true rest with
      | none => exact List.Sublist.refl _
      | some after => exact ((ih.2 after closed).cons _).cons _
  | case5 rest ih => exact ⟨by simp, fun out ran => ((ih.2 out ran).cons _).cons _⟩
  | case6 inside rest outside ih =>
      obtain ⟨after, ran⟩ := ih.1 rfl
      rw [ran]
      refine ⟨fun _ => ⟨_, rfl⟩, fun out shape => ?_⟩
      rw [← Option.some.inj shape]
      exact (ih.2 after ran).cons_cons _
  | case7 c rest _ _ ih => exact ⟨by simp, fun out ran => (ih.2 out ran).cons _⟩
  | case8 inside c rest _ _ outside ih =>
      obtain ⟨after, ran⟩ := ih.1 rfl
      rw [ran]
      refine ⟨fun _ => ⟨_, rfl⟩, fun out shape => ?_⟩
      rw [← Option.some.inj shape]
      exact (ih.2 after ran).cons_cons _

theorem stripFrom_false_eq (text : Text) : stripFrom false text = some (stripComments text) := by
  obtain ⟨out, ran, -⟩ := stripFrom_false_spec text
  rw [stripComments, ran, Option.getD_some]

/-- A reading inside a comment comes to an end exactly if the comment is closed, and
then it has lost the slash of the closing. -/
theorem stripFrom_true_spec (text : Text) :
    (stripFrom true text = none ↔ ¬ IsClosed text) ∧
      ∀ out, stripFrom true text = some out → out.count '/' < text.count '/' := by
  induction text with
  | nil => simp [stripFrom, IsClosed]
  | cons c rest ih =>
      rw [stripFrom_true_cons, isClosed_cons_iff]
      split
      · rename_i closing
        obtain ⟨rfl, next⟩ := closing
        obtain ⟨after, rfl⟩ := List.head?_eq_some_iff.mp next
        obtain ⟨out, ran, sublist⟩ := stripFrom_false_spec after
        rw [List.tail_cons, ran]
        refine ⟨by simp, fun other same => ?_⟩
        rw [← Option.some.inj same]
        have bound := sublist.count_le '/'
        simp only [List.count_cons, beq_iff_eq, Char.reduceEq, if_true, if_false]
        omega
      · rename_i open_still
        refine ⟨by rw [ih.1]; simp [open_still], fun out ran => ?_⟩
        have bound := ih.2 out ran
        rw [List.count_cons]
        omega

/-- An opening starts a comment exactly if a closing follows, wherever it is. -/
theorem hasComment_opening_iff (after : Text) :
    HasComment ('/' :: '*' :: after) ↔ IsClosed after := by
  rw [hasComment_cons_iff, hasComment_cons_iff]
  constructor
  · rintro (⟨other, _, same, closed⟩ | ⟨_, different, _⟩ | later)
    · rwa [(List.cons.inj same).2]
    · exact absurd different (by decide)
    · exact later.isClosed
  · exact fun closed => .inl ⟨after, rfl, rfl, closed⟩

/-- Outside of comments a text without comments is read as it is, and a text with one
loses a slash. -/
theorem stripFrom_false_cases (text : Text) :
    (stripFrom false text = some text ∧ ¬ HasComment text) ∨
      ∃ out, stripFrom false text = some out ∧ out.count '/' < text.count '/' ∧
        HasComment text := by
  induction text with
  | nil => exact .inl ⟨rfl, by simp [HasComment]⟩
  | cons c rest ih =>
      by_cases opening : c = '/' ∧ rest.head? = some '*'
      · obtain ⟨rfl, next⟩ := opening
        obtain ⟨after, rfl⟩ := List.head?_eq_some_iff.mp next
        have start : stripFrom false ('/' :: '*' :: after) =
            some ((stripFrom true after).getD ('/' :: '*' :: after)) := rfl
        obtain ⟨none_iff, loses⟩ := stripFrom_true_spec after
        rw [start, hasComment_opening_iff]
        cases ran : stripFrom true after with
        | none => exact .inl ⟨rfl, none_iff.mp ran⟩
        | some out =>
            have bound := loses out ran
            refine .inr ⟨out, rfl, ?_, ?_⟩
            · simp only [List.count_cons]
              omega
            · by_contra unclosed
              rw [none_iff.mpr unclosed] at ran
              exact absurd ran (by simp)
      · have plain : HasComment (c :: rest) ↔ HasComment rest := by
          rw [hasComment_cons_iff, or_iff_right]
          rintro ⟨after, rfl, rfl, _⟩
          exact opening ⟨rfl, rfl⟩
        rw [stripFrom_false_cons opening, plain]
        rcases ih with ⟨ran, absent⟩ | ⟨out, ran, bound, present⟩
        · exact .inl ⟨by rw [ran, Option.map_some], absent⟩
        · refine .inr ⟨c :: out, by rw [ran, Option.map_some], ?_, present⟩
          simp only [List.count_cons]
          omega

theorem count_stripComments_lt {text : Text} (present : HasComment text) :
    (stripComments text).count '/' < text.count '/' := by
  rcases stripFrom_false_cases text with ⟨_, absent⟩ | ⟨out, ran, bound, _⟩
  · exact absurd present absent
  · rwa [stripComments, ran, Option.getD_some]

theorem stripComments_eq_self_iff {text : Text} :
    stripComments text = text ↔ ¬ HasComment text := by
  constructor
  · intro same present
    have bound := count_stripComments_lt present
    rw [same] at bound
    exact Nat.lt_irrefl _ bound
  · intro absent
    rcases stripFrom_false_cases text with ⟨ran, _⟩ | ⟨_, _, _, present⟩
    · rw [stripComments, ran, Option.getD_some]
    · exact absurd present absent

/-- Whether a comment begins in a text. -/
def OpensComment (text : Text) : Prop :=
  ['/', '*'] <:+: text

instance (text : Text) : Decidable (OpensComment text) :=
  inferInstanceAs (Decidable (['/', '*'] <:+: text))

theorem not_opensComment_append_cons {before after : Text} {separator : Char}
    (apart : separator ∉ ['/', '*']) (first : ¬ OpensComment before)
    (second : ¬ OpensComment after) : ¬ OpensComment (before ++ separator :: after) := by
  intro opened
  rcases Text.infix_of_infix_append_cons apart opened with left | right
  · exact first left
  · exact second right

theorem not_opensComment_of_cons {c : Char} {text : Text}
    (closed : ¬ OpensComment (c :: text)) : ¬ OpensComment text :=
  fun opened => closed (opened.trans (List.suffix_cons c text).isInfix)

theorem not_opensComment_of_not_mem {text : Text} (absent : '/' ∉ text) :
    ¬ OpensComment text :=
  fun opened => absent (opened.subset (by simp))

theorem not_mem_comment_of_isBlank {c : Char} (blank : Text.isBlank c = true) :
    c ∉ ['/', '*'] := by
  intro member
  have marks : c = '/' ∨ c = '*' := by simpa using member
  rcases marks with rfl | rfl
  · exact absurd blank (by decide)
  · exact absurd blank (by decide)

theorem not_opensComment_gap_append {gap text : Text} (blank : Text.IsGap gap)
    (uncommented : ¬ OpensComment text) : ¬ OpensComment (gap ++ text) := by
  induction gap with
  | nil => exact uncommented
  | cons c gap ih =>
      obtain ⟨first, others⟩ := List.forall_mem_cons.mp blank
      have none : ¬ OpensComment [] := by decide
      exact not_opensComment_append_cons (not_mem_comment_of_isBlank first) none (ih others)

theorem not_opensComment_append_gap {gap text : Text} (blank : Text.IsGap gap)
    (uncommented : ¬ OpensComment text) : ¬ OpensComment (text ++ gap) := by
  cases gap with
  | nil => rwa [List.append_nil]
  | cons c gap =>
      obtain ⟨first, others⟩ := List.forall_mem_cons.mp blank
      have rest : Text.IsGap gap := others
      exact not_opensComment_append_cons (not_mem_comment_of_isBlank first) uncommented
        (not_opensComment_of_not_mem (rest.not_mem (by decide)))

theorem not_opensComment_of_pads {inner outer : Text} (pads : Text.Pads inner outer)
    (uncommented : ¬ OpensComment inner) : ¬ OpensComment outer := by
  obtain ⟨before, after, before_blank, after_blank, rfl⟩ := pads
  exact not_opensComment_gap_append before_blank
    (not_opensComment_append_gap after_blank uncommented)

/-- A comment with some content. -/
def commentOf (content : Text) : Text :=
  '/' :: '*' :: (content ++ ['*', '/'])

theorem stripFrom_true_append {content : Text} (unclosed : ¬ IsClosed content) (after : Text) :
    stripFrom true (content ++ '*' :: '/' :: after) = stripFrom false after := by
  induction content with
  | nil => rw [List.nil_append, stripFrom_true_cons, if_pos ⟨rfl, rfl⟩, List.tail_cons]
  | cons c content ih =>
      rw [isClosed_cons_iff, not_or] at unclosed
      rw [List.cons_append, stripFrom_true_cons, if_neg, ih unclosed.2]
      rintro ⟨star, slash⟩
      cases content with
      | nil => exact absurd slash (by simp)
      | cons next content => exact unclosed.1 ⟨star, slash⟩

theorem stripFrom_false_append {before after : Text} (unopened : ¬ OpensComment before)
    (starts : after.head? ≠ some '*') :
    stripFrom false (before ++ after) = (stripFrom false after).map (before ++ ·) := by
  induction before with
  | nil => simp
  | cons c before ih =>
      rw [List.cons_append, stripFrom_false_cons, ih (not_opensComment_of_cons unopened),
        Option.map_map]
      · rfl
      · rintro ⟨rfl, star⟩
        cases before with
        | nil => exact starts star
        | cons next before =>
            obtain rfl : next = '*' := by simpa using star
            exact unopened (List.prefix_append ['/', '*'] before).isInfix

/-- A comment behind a text in which none begins is stripped, and the reading goes on. -/
theorem stripComments_commentOf {before content : Text} (unopened : ¬ OpensComment before)
    (unclosed : ¬ IsClosed content) (after : Text) :
    stripComments (before ++ (commentOf content ++ after)) = before ++ stripComments after := by
  have opening : stripFrom false (commentOf content ++ after) = some (stripComments after) := by
    have shape : commentOf content ++ after =
        '/' :: '*' :: (content ++ '*' :: '/' :: after) := by simp [commentOf]
    rw [shape, stripFrom.eq_def]
    simp [stripFrom_true_append unclosed, stripFrom_false_eq]
  rw [stripComments, stripFrom_false_append unopened (by simp [commentOf]), opening,
    Option.map_some, Option.getD_some]

/-- A comment in a text in which none begins is all that is stripped. -/
theorem stripComments_around {before content after : Text}
    (unopened : ¬ OpensComment (before ++ after)) (unclosed : ¬ IsClosed content) :
    stripComments (before ++ (commentOf content ++ after)) = before ++ after := by
  have first : ¬ OpensComment before :=
    fun opened => unopened (opened.trans (List.prefix_append _ _).isInfix)
  have second : ¬ OpensComment after :=
    fun opened => unopened (opened.trans (List.suffix_append _ _).isInfix)
  rw [stripComments_commentOf first unclosed, stripComments_eq_self second]

/-- Trimming goes on at both sides of a comment, which no blank starts or ends. -/
theorem trim_around (before content after : Text) :
    Text.trim (before ++ (commentOf content ++ after)) =
      Text.trimStart before ++ (commentOf content ++ Text.trimEnd after) := by
  refine Text.trim_append_append (by simp [commentOf]) (fun c first => ?_) (fun c last => ?_)
    before after
  · obtain rfl : '/' = c := by simpa [commentOf] using first
    decide
  · have shape : commentOf content = ('/' :: '*' :: content ++ ['*']) ++ ['/'] := by
      simp [commentOf]
    rw [shape, List.getLast?_concat] at last
    obtain rfl := Option.some.inj last
    decide

end Stylesheet

end CssAudit
