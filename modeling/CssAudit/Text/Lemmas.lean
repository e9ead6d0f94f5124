import CssAudit.Text.Basic

/-!
# Laws of searching, cutting and joining

A prefix is dropped exactly from the texts that start with it, and a pattern
occurs exactly where it is a run of consecutive characters.  Joining with a
separator undoes splitting at it, and a cut leaves the first separator out.
-/

namespace CssAudit

namespace Text

theorem dropPrefix?_eq_some_iff {pattern text rest : Text} :
    dropPrefix? pattern text = some rest ↔ text = pattern ++ rest := by
  induction pattern generalizing text with
  | nil => simp [dropPrefix?, eq_comm]
  | cons expected pattern ih =>
      cases text with
      | nil => simp [dropPrefix?]
      | cons c text =>
          by_cases same : expected = c
          · simp [dropPrefix?, same, ih]
          · simp [dropPrefix?, same, Ne.symm same]

theorem anywhere_eq_true_iff {test : Text → Bool} {text : Text} :
    anywhere test text = true ↔ ∃ suffix, suffix <:+ text ∧ test suffix = true := by
  induction text with
  | nil => simp [anywhere]
  | cons c rest ih => simp [anywhere, ih, List.suffix_cons_iff, or_and_right, exists_or]

theorem occursIn_eq_true_iff {pattern text : Text} :
    occursIn pattern text = true ↔ pattern <:+: text := by
  simp [occursIn, anywhere_eq_true_iff, List.infix_iff_prefix_suffix, and_comm]

theorem splitOn_ne_nil (separator : Char) (text : Text) :
    splitOn separator text ≠ [] := by
  cases text with
  | nil => simp [splitOn]
  | cons c rest =>
      unfold splitOn
      split
      · simp
      · split <;> simp

theorem splitOn_cons_of_ne {separator c : Char} {rest piece : Text}
    {pieces : List Text} (different : c ≠ separator)
    (split_rest : splitOn separator rest = piece :: pieces) :
    splitOn separator (c :: rest) = (c :: piece) :: pieces := by
  simp [splitOn, different, split_rest]

theorem splitOn_append_separator (separator : Char) (before after : Text) :
    splitOn separator (before ++ separator :: after) =
      splitOn separator before ++ splitOn separator after := by
  induction before with
  | nil => simp [splitOn]
  | cons c before ih =>
      by_cases same : c = separator
      · simp [splitOn, same, ih]
      · match split_before : splitOn separator before with
        | [] => exact absurd split_before (splitOn_ne_nil separator before)
        | piece :: pieces =>
            rw [split_before] at ih
            simp [splitOn, same, ih, split_before]

theorem splitOn_eq_singleton {separator : Char} {text : Text}
    (absent : separator ∉ text) : splitOn separator text = [text] := by
  induction text with
  | nil => rfl
  | cons c rest ih =>
      have different : c ≠ separator := fun same => absent (by simp [same])
      exact splitOn_cons_of_ne different
        (ih fun member => absent (List.mem_cons_of_mem c member))

theorem not_mem_of_mem_splitOn {separator : Char} {text piece : Text}
    (member : piece ∈ splitOn separator text) : separator ∉ piece := by
  induction text generalizing piece with
  | nil =>
      obtain rfl : piece = [] := by simpa [splitOn] using member
      simp
  | cons c rest ih =>
      by_cases same : c = separator
      · rcases (by simpa [splitOn, same] using member :
            piece = [] ∨ piece ∈ splitOn separator rest) with rfl | member
        · simp
        · exact ih member
      · match split_rest : splitOn separator rest with
        | [] => exact absurd split_rest (splitOn_ne_nil separator rest)
        | first :: others =>
            rw [splitOn_cons_of_ne same split_rest, List.mem_cons] at member
            rcases member with rfl | member
            · have missing : separator ∉ first := ih (by simp [split_rest])
              simp [Ne.symm same, missing]
            · exact ih (by simp [split_rest, member])

theorem joinWith_cons (separator text : Text) {texts : List Text}
    (nonempty : texts ≠ []) :
    joinWith separator (text :: texts) = text ++ separator ++ joinWith separator texts := by
  cases texts with
  | nil => exact absurd rfl nonempty
  | cons next others => rfl

theorem joinWith_splitOn (separator : Char) (text : Text) :
    joinWith [separator] (splitOn separator text) = text := by
  induction text with
  | nil => rfl
  | cons c rest ih =>
      by_cases same : c = separator
      · simp [splitOn, same, joinWith_cons _ _ (splitOn_ne_nil separator rest), ih]
      · match split_rest : splitOn separator rest with
        | [] => exact absurd split_rest (splitOn_ne_nil separator rest)
        | [piece] => simp_all [splitOn, joinWith]
        | piece :: next :: pieces => simp_all [splitOn, joinWith]

theorem cutAt_eq_some_iff {separator : Char} {text before after : Text} :
    cutAt separator text = some (before, after) ↔
      text = before ++ separator :: after ∧ separator ∉ before := by
  induction text generalizing before after with
  | nil => simp [cutAt]
  | cons c rest ih =>
      by_cases same : c = separator
      · subst same
        cases before with
        | nil => simp [cutAt]
        | cons first before => simp +contextual [cutAt]
      · cases before with
        | nil => simp [cutAt, same]
        | cons first before =>
            have swap : separator = first → c = first → False :=
              fun left right => same (right.trans left.symm)
            simp only [cutAt, same, if_false, Option.map_eq_some_iff, Prod.exists, ih,
              Prod.mk.injEq, List.cons.injEq, List.cons_append, List.mem_cons]
            constructor
            · rintro ⟨left, right, ⟨rest_eq, missing⟩, ⟨rfl, rfl⟩, rfl⟩
              exact ⟨⟨rfl, rest_eq⟩, by simp [Ne.symm same, missing]⟩
            · rintro ⟨⟨rfl, rest_eq⟩, missing⟩
              exact ⟨before, after, ⟨rest_eq, fun member => missing (.inr member)⟩,
                ⟨rfl, rfl⟩, rfl⟩

theorem not_mem_afterLast (separator : Char) (text : Text) :
    separator ∉ afterLast separator text := by
  intro member
  have kept := List.all_takeWhile (l := text.reverse) (p := fun c => decide (c ≠ separator))
  rw [List.all_eq_true] at kept
  simpa using kept separator (by simpa [afterLast] using member)

theorem afterLast_isSuffix (separator : Char) (text : Text) :
    afterLast separator text <:+ text := by
  have start := List.takeWhile_prefix (l := text.reverse)
    fun c => decide (c ≠ separator)
  simpa [afterLast] using List.reverse_suffix.mpr start

theorem afterLast_append_of_not_mem {separator : Char} (before : Text) {after : Text}
    (absent : separator ∉ after) :
    afterLast separator (before ++ after) = afterLast separator before ++ after := by
  have kept : ∀ c ∈ after.reverse, decide (c ≠ separator) = true := by
    intro c member
    rw [decide_eq_true_eq]
    rintro rfl
    exact absent (List.mem_reverse.mp member)
  rw [afterLast, List.reverse_append, List.takeWhile_append_of_pos kept, List.reverse_append,
    List.reverse_reverse, afterLast]

theorem afterLast_eq_self {separator : Char} {text : Text} (absent : separator ∉ text) :
    afterLast separator text = text :=
  afterLast_append_of_not_mem [] absent

theorem afterLast_append_of_mem {separator : Char} (before : Text) {after : Text}
    (present : separator ∈ after) :
    afterLast separator (before ++ after) = afterLast separator after := by
  have stops : (after.reverse.takeWhile fun c => decide (c ≠ separator)).length ≠
      after.reverse.length := by
    intro whole
    have all := (List.takeWhile_prefix fun c => decide (c ≠ separator)).eq_of_length whole
    have absent := not_mem_afterLast separator after
    rw [afterLast, all, List.reverse_reverse] at absent
    exact absent present
  rw [afterLast, List.reverse_append, List.takeWhile_append, if_neg stops, afterLast]

theorem afterLast_concat (separator : Char) (text : Text) :
    afterLast separator (text ++ [separator]) = [] := by
  simp [afterLast]

end Text

end CssAudit
