import CssAudit.Proofs.Text.Padding
import CssAudit.Stylesheet.Rule
import CssAudit.Text.Lemmas

/-!
# Reading blocks

The rules of a text are read brace by brace.  Text before a closing brace is passed
over, and so is the head of a block that can be no rule.  Any other block is its rule,
and the reading goes on after it.
-/

namespace CssAudit

namespace Stylesheet

/-- A text without braces. -/
def Unbraced (text : Text) : Prop :=
  '{' ∉ text ∧ '}' ∉ text

instance (text : Text) : Decidable (Unbraced text) :=
  inferInstanceAs (Decidable (_ ∧ _))

theorem Unbraced.append {first second : Text} (left : Unbraced first)
    (right : Unbraced second) : Unbraced (first ++ second) :=
  ⟨by simp [left.1, right.1], by simp [left.2, right.2]⟩

theorem unbraced_of_isGap {gap : Text} (blank : Text.IsGap gap) : Unbraced gap :=
  ⟨blank.not_mem (by decide), blank.not_mem (by decide)⟩

theorem unbraced_of_pads {inner outer : Text} (pads : Text.Pads inner outer)
    (unbraced : Unbraced inner) : Unbraced outer :=
  ⟨fun member => unbraced.1 ((pads.mem_iff (by decide)).mp member),
    fun member => unbraced.2 ((pads.mem_iff (by decide)).mp member)⟩

theorem unbraced_cons_iff {c : Char} {text : Text} :
    Unbraced (c :: text) ↔ ¬ (c = '{' ∨ c = '}') ∧ Unbraced text := by
  simp only [Unbraced, List.mem_cons, not_or, eq_comm]
  exact and_and_and_comm

theorem chunks_of_unbraced {text : Text} (unbraced : Unbraced text) : chunks text = [] := by
  induction text with
  | nil => rfl
  | cons c rest ih =>
      obtain ⟨plain, rest_unbraced⟩ := unbraced_cons_iff.mp unbraced
      simp [chunks, plain, ih rest_unbraced]

theorem chunks_append {text : Text} (unbraced : Unbraced text) {brace : Char}
    (closes : brace = '{' ∨ brace = '}') (rest : Text) :
    chunks (text ++ brace :: rest) = (text, brace) :: chunks rest := by
  induction text with
  | nil => simp [chunks, closes]
  | cons c text ih =>
      obtain ⟨plain, text_unbraced⟩ := unbraced_cons_iff.mp unbraced
      simp [chunks, plain, ih text_unbraced]

theorem unbraced_of_mem_chunks {text : Text} {chunk : Text × Char}
    (member : chunk ∈ chunks text) : Unbraced chunk.1 := by
  have none : Unbraced [] := by decide
  induction text generalizing chunk with
  | nil => exact absurd member List.not_mem_nil
  | cons c rest ih =>
      rw [chunks] at member
      split at member
      · rcases List.mem_cons.mp member with rfl | later
        · exact none
        · exact ih later
      · rename_i plain
        split at member
        · exact absurd member List.not_mem_nil
        · rename_i text brace others found
          rw [found] at ih
          rcases List.mem_cons.mp member with rfl | later
          · exact unbraced_cons_iff.mpr ⟨by simpa using plain, ih List.mem_cons_self⟩
          · exact ih (List.mem_cons_of_mem _ later)

theorem exists_chunk_of_mem_blocks {pieces : List (Text × Char)} {block : Text × Text}
    (member : block ∈ blocks pieces) : ∃ chunk ∈ pieces, chunk.1 = block.1 := by
  fun_induction blocks pieces with
  | case1 first second others encloses ih =>
      rcases List.mem_cons.mp member with rfl | later
      · exact ⟨first, List.mem_cons_self, rfl⟩
      · obtain ⟨chunk, chunk_mem, same⟩ := ih later
        exact ⟨chunk, List.mem_cons_of_mem first chunk_mem, same⟩
  | case2 first second others _ ih =>
      obtain ⟨chunk, chunk_mem, same⟩ := ih member
      exact ⟨chunk, List.mem_cons_of_mem first chunk_mem, same⟩
  | case3 => exact absurd member List.not_mem_nil

theorem unbraced_of_mem_blocks {text : Text} {block : Text × Text}
    (member : block ∈ blocks (chunks text)) : Unbraced block.1 := by
  obtain ⟨chunk, chunk_mem, same⟩ := exists_chunk_of_mem_blocks member
  rw [← same]
  exact unbraced_of_mem_chunks chunk_mem

/-- The rules of a text, without regard to comments. -/
def rulesIn (text : Text) : List StyleRule :=
  (blocks (chunks text)).filterMap rule?

theorem parse_rules (source : Text) :
    (parse source).rules = rulesIn (stripComments source) := rfl

theorem rulesIn_of_unbraced {text : Text} (unbraced : Unbraced text) : rulesIn text = [] := by
  rw [rulesIn, chunks_of_unbraced unbraced]
  rfl

theorem rulesIn_closing {text : Text} (unbraced : Unbraced text) (rest : Text) :
    rulesIn (text ++ '}' :: rest) = rulesIn rest := by
  rw [rulesIn, chunks_append unbraced (.inr rfl), rulesIn]
  cases chunks rest with
  | nil => rfl
  | cons second others => simp [blocks]

theorem rulesIn_refused {head : Text} (unbraced : Unbraced head)
    (refused : ∀ body, rule? (head, body) = none) (rest : Text) :
    rulesIn (head ++ '{' :: rest) = rulesIn rest := by
  rw [rulesIn, chunks_append unbraced (.inl rfl), rulesIn]
  cases chunks rest with
  | nil => rfl
  | cons second others =>
      rw [blocks]
      split
      · rw [List.filterMap_cons_none (refused second.1)]
      · rfl

/-- A block is its rule, if it has one, and the reading goes on after it. -/
theorem rulesIn_block {head body : Text} (nonempty : head ≠ []) (head_unbraced : Unbraced head)
    (body_unbraced : Unbraced body) (rest : Text) :
    rulesIn (head ++ '{' :: (body ++ '}' :: rest)) =
      (rule? (head, body)).toList ++ rulesIn rest := by
  have closing := rulesIn_closing body_unbraced rest
  rw [rulesIn, chunks_append body_unbraced (.inr rfl)] at closing
  rw [rulesIn, chunks_append head_unbraced (.inl rfl), chunks_append body_unbraced (.inr rfl),
    blocks, if_pos (by simp [nonempty]), List.filterMap_cons, closing]
  cases rule? (head, body) <;> rfl

theorem selectorBefore_eq (text : Text) :
    selectorBefore text = Text.trim (Text.afterLast ';' text) := by
  have solid : Text.isBlank ';' = false := by decide
  obtain ⟨before, after, before_blank, after_blank, shape⟩ := Text.pads_trim text
  have outer : Text.afterLast ';' text =
      Text.afterLast ';' (before ++ Text.trim text) ++ after :=
    calc Text.afterLast ';' text
        = Text.afterLast ';' (before ++ (Text.trim text ++ after)) := congrArg _ shape
      _ = Text.afterLast ';' ((before ++ Text.trim text) ++ after) := by rw [List.append_assoc]
      _ = Text.afterLast ';' (before ++ Text.trim text) ++ after :=
          Text.afterLast_append_of_not_mem _ (after_blank.not_mem solid)
  rw [selectorBefore, outer, after_blank.trim_after]
  by_cases present : ';' ∈ Text.trim text
  · rw [Text.afterLast_append_of_mem before present]
  · rw [Text.afterLast_append_of_not_mem before present, Text.afterLast_eq_self present,
      Text.afterLast_eq_self (before_blank.not_mem solid), before_blank.trim_before]

/-- A text that no selector begins in: statements and blanks. -/
structure Idle (text : Text) : Prop where
  unbraced : Unbraced text
  settled : Text.IsGap (Text.afterLast ';' text)

theorem idle_nil : Idle [] where
  unbraced := by decide
  settled := Text.isGap_nil

theorem idle_statement {text : Text} (unbraced : Unbraced text) : Idle (text ++ [';']) where
  unbraced := unbraced.append (by decide)
  settled := by
    rw [Text.afterLast_concat]
    exact Text.isGap_nil

/-- The selector of a block begins after the statements in front of it. -/
theorem Idle.selectorBefore_append {before head : Text} (idle : Idle before)
    (unseparated : ';' ∉ head) : selectorBefore (before ++ head) = Text.trim head := by
  rw [selectorBefore_eq, Text.afterLast_append_of_not_mem before unseparated,
    idle.settled.trim_before]

theorem rule?_of_at {head : Text} (starts : (selectorBefore head).head? = some '@')
    (body : Text) : rule? (head, body) = none := by
  simp [rule?, starts]

/-- A block with a selector in front of it is a rule unless it declares nothing. -/
theorem rule?_of_selector {head selector : Text} (found : selectorBefore head = selector)
    (nonempty : selector ≠ []) (plain : selector.head? ≠ some '@') (body : Text) :
    rule? (head, body) =
      let rule := StyleRule.ofDeclarations (Text.collapse selector) (declarationsOf body)
      if rule.declarations.isEmpty then none else some rule := by
  have kept : (selector.isEmpty || selector.head? = some '@') = false := by
    simp [nonempty, plain]
  simp only [rule?, found, kept, Bool.false_eq_true, if_false]

theorem rule?_eq_some_iff {head body : Text} {rule : StyleRule} :
    rule? (head, body) = some rule ↔
      selectorBefore head ≠ [] ∧ (selectorBefore head).head? ≠ some '@' ∧
        rule.declarations ≠ [] ∧
        rule = .ofDeclarations (Text.collapse (selectorBefore head)) (declarationsOf body) := by
  by_cases nonempty : selectorBefore head = []
  · simp [rule?, nonempty]
  by_cases starts : (selectorBefore head).head? = some '@'
  · simp [rule?_of_at starts, starts]
  rw [rule?_of_selector rfl nonempty starts]
  dsimp only
  constructor
  · intro read
    split at read
    · exact absurd read (by simp)
    · rename_i declares
      obtain rfl := Option.some.inj read
      exact ⟨nonempty, starts, by simpa using declares, rfl⟩
  · rintro ⟨-, -, declares, rfl⟩
    rw [if_neg (by simpa using declares)]

end Stylesheet

end CssAudit
