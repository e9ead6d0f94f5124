import CssAudit.Accessibility.Probe
import CssAudit.Proofs.Text.Lowering
import CssAudit.Proofs.Text.Stop

/-!
# Suggestions block by block

No probe reads past a closing brace.  What the probes suggest for texts that end with
closing braces, such as the blocks of a style sheet, is found in the single texts, and
their order matters to the probe of small fonts alone, which looks at the first size.
-/

namespace CssAudit

namespace Probe

open Text

theorem closed_of_perm {blocks arranged : List Text} (same : arranged.Perm blocks)
    (closed : ∀ block ∈ blocks, EndsIn '}' block) : ∀ block ∈ arranged, EndsIn '}' block :=
  fun block member => closed block (same.mem_iff.mp member)

/-- Whether a search finds in two texts, the first of which ends with a closing brace, what
it finds in either. -/
structure IsPiecewise (search : Text → Bool) : Prop where
  nil : search [] = false
  append : ∀ {first : Text}, EndsIn '}' first → ∀ second,
    search (first ++ second) = (search first || search second)

namespace IsPiecewise

variable {search : Text → Bool} (piecewise : IsPiecewise search) {blocks : List Text}
  (closed : ∀ block ∈ blocks, EndsIn '}' block)
include piecewise closed

theorem flatten : search blocks.flatten = blocks.any search := by
  induction blocks with
  | nil => exact piecewise.nil
  | cons block blocks ih =>
      rw [List.flatten_cons, piecewise.append (closed block (by simp)), List.any_cons,
        ih fun other member => closed other (List.mem_cons_of_mem block member)]

theorem flatten_of_perm {arranged : List Text} (same : arranged.Perm blocks) :
    search arranged.flatten = search blocks.flatten := by
  rw [piecewise.flatten closed, piecewise.flatten (closed_of_perm same closed), same.any_eq]

end IsPiecewise

section Searches

theorem isPiecewise_anywhere {test : Text → Bool} (looks : LooksTo '}' test)
    (nothing : test [] = false) : IsPiecewise (anywhere test) where
  nil := nothing
  append ends second := anywhere_append_of_endsIn looks ends second nothing

/-- The lower-case form of a text depends on what follows it only in its sigmas. -/
theorem isPiecewise_mentions {phrase : String}
    (plain : phrase.toList ≠ [] ∧ SigmaFree phrase.toList ∧ '}' ∉ phrase.toList) :
    IsPiecewise (mentions phrase) where
  nil := by
    rw [← Bool.not_eq_true, mentions, occursIn_eq_true_iff]
    exact fun within => plain.1 (List.infix_nil.mp within)
  append {first} ends second := by
    obtain ⟨before, rfl⟩ := List.getLast?_eq_some_iff.mp ends
    have brace : lowerImage '}' = ['}'] := by decide
    rw [Bool.eq_iff_iff, Bool.or_eq_true]
    simp only [mentions, occursIn_eq_true_iff, infix_lower_iff plain.2.1, List.flatMap_append,
      List.flatMap_cons, List.flatMap_nil, brace, List.append_assoc, List.singleton_append]
    constructor
    · intro within
      exact (infix_of_infix_append_cons plain.2.2 within).imp_left fun inside =>
        inside.trans (List.prefix_append _ _).isInfix
    · rintro (inside | inside)
      · exact inside.trans ⟨[], second.flatMap lowerImage, by simp⟩
      · exact inside.trans (List.suffix_append_of_suffix (List.suffix_cons _ _)).isInfix

theorem atWordStart_append {test : Text → Bool} (looks : LooksTo '}' test) {first : Text}
    (ends : EndsIn '}' first) (second : Text) (afterWord : Bool) :
    atWordStart test afterWord (first ++ second) =
      (atWordStart test afterWord first || atWordStart test false second) := by
  induction ends using EndsIn.induction generalizing afterWord with
  | alone =>
      have here : test ('}' :: second) = test ['}'] := looks ['}'] rfl second
      have apart : isWord '}' = false := by decide
      simp [atWordStart, here, apart]
  | cons c rest ends ih =>
      rw [List.cons_append, atWordStart, ih, ← List.cons_append, looks _ ends.cons,
        atWordStart, Bool.or_assoc]

theorem isPiecewise_atWordStart {test : Text → Bool} (looks : LooksTo '}' test) :
    IsPiecewise (atWordStart test false) where
  nil := rfl
  append ends second := atWordStart_append looks ends second false

end Searches

section Tests

theorem keepsTo_dropColon? : KeepsTo '}' dropColon? :=
  (keepsTo_dropPrefix? (by decide)).comp_dropWhile (by decide)

theorem keepsTo_dropName {name : Text} (avoids : fold '}' ∉ name) :
    KeepsTo '}' fun text => (dropFolded? name text).bind dropColon? :=
  (keepsTo_dropFolded? avoids).bind keepsTo_dropColon?

theorem looksTo_startsMotion : LooksTo '}' startsMotion := by
  have avoids : ∀ name ∈ ["animation", "transition"], fold '}' ∉ name.toList := by decide
  refine LooksTo.list_any fun name member text ends next => ?_
  have reads := keepsTo_dropFolded? (avoids name member)
  rw [reads.append ends]
  cases found : dropFolded? name.toList text with
  | none => rfl
  | some rest =>
      exact (keepsTo_dropColon?.comp_dropWhile (by decide)).isSome rest
        (reads.ends ends found) next

theorem looksTo_startsBackgroundImage : LooksTo '}' startsBackgroundImage :=
  (keepsTo_dropName (by decide)).isSome.or
    (LooksTo.any (keepsTo_dropName (by decide))
      ((looksTo_takeWhile (by decide)).comp Value.mentionsUrl))

theorem looksTo_startsFixed : LooksTo '}' startsFixed :=
  LooksTo.any (keepsTo_dropName (by decide))
    ((keepsTo_dropFolded? (by decide)).comp_dropWhile (by decide)).isSome

theorem looksTo_startsSignal : LooksTo '}' startsSignal := by
  have avoids : ∀ color ∈ signalColors, fold '}' ∉ color.toList := by decide
  have single (color : String) (member : color ∈ signalColors) :
      LooksTo '}' fun text => (dropFolded? color.toList (trimStart text)).any endsWord :=
    LooksTo.any ((keepsTo_dropFolded? (avoids color member)).comp_dropWhile (by decide))
      looksTo_endsWord
  exact LooksTo.any (keepsTo_dropName (by decide)) (LooksTo.list_any single)

end Tests

section Sizes

/-- The digits after a point at the start of a text. -/
def fraction : Text → Text
  | '.' :: after => (after.span isDecimal).1
  | _ => []

theorem plainNumber?_eq (text : Text) :
    plainNumber? text =
      if (text.takeWhile isDecimal).isEmpty then none
      else if (fraction (text.dropWhile isDecimal)).isEmpty then
        some (Numeral.ofDigitTexts (text.takeWhile isDecimal) [], text.dropWhile isDecimal)
      else
        some (Numeral.ofDigitTexts (text.takeWhile isDecimal)
            (fraction (text.dropWhile isDecimal)),
          (text.dropWhile isDecimal).drop
            ((fraction (text.dropWhile isDecimal)).length + 1)) := by
  rw [plainNumber?, List.span_eq_takeWhile_dropWhile]
  rfl

theorem fraction_of_ne {c : Char} (other : c ≠ '.') (rest : Text) : fraction (c :: rest) = [] := by
  unfold fraction
  split
  · exact absurd (List.cons.inj ‹_›).1 other
  · rfl

theorem looksTo_fraction : LooksTo '}' fraction := by
  intro text ends next
  cases text with
  | nil => exact absurd rfl ends.ne_nil
  | cons c rest =>
      rw [List.cons_append]
      by_cases point : c = '.'
      · subst point
        have inner : EndsIn '}' rest := ends.of_cons (by decide)
        simp only [fraction, List.span_eq_takeWhile_dropWhile]
        exact takeWhile_append_of_endsIn (by decide) inner next
      · rw [fraction_of_ne point, fraction_of_ne point]

theorem exists_of_fraction_ne_nil {rest : Text} (digits : fraction rest ≠ []) :
    ∃ after, rest = '.' :: after ∧ fraction rest = after.takeWhile isDecimal ∧
      rest.drop ((fraction rest).length + 1) = after.dropWhile isDecimal := by
  cases rest with
  | nil => exact absurd rfl digits
  | cons c after =>
      by_cases point : c = '.'
      · subst point
        have taken : fraction ('.' :: after) = after.takeWhile isDecimal := by
          rw [fraction, List.span_eq_takeWhile_dropWhile]
        refine ⟨after, rfl, taken, ?_⟩
        have parts := List.takeWhile_append_dropWhile (p := isDecimal) (l := after)
        rw [taken, List.drop_succ_cons]
        nth_rewrite 2 [← parts]
        exact List.drop_left
      · exact absurd (fraction_of_ne point after) digits

theorem plainNumber?_append {text : Text} (ends : EndsIn '}' text) (next : Text) :
    plainNumber? (text ++ next) =
      (plainNumber? text).map fun found => (found.1, found.2 ++ next) := by
  have stops : isDecimal '}' = false := by decide
  have inner : EndsIn '}' (text.dropWhile isDecimal) := endsIn_dropWhile stops ends
  rw [plainNumber?_eq, plainNumber?_eq, takeWhile_append_of_endsIn stops ends,
    dropWhile_append_of_endsIn stops ends, looksTo_fraction _ inner]
  by_cases whole : (text.takeWhile isDecimal).isEmpty = true
  · rw [if_pos whole, if_pos whole, Option.map_none]
  · by_cases none : (fraction (text.dropWhile isDecimal)).isEmpty = true
    · rw [if_neg whole, if_neg whole, if_pos none, if_pos none, Option.map_some]
    · obtain ⟨after, shape, taken, -⟩ :=
        exists_of_fraction_ne_nil (mt List.isEmpty_iff.mpr none)
      have short : (fraction (text.dropWhile isDecimal)).length + 1 ≤
          (text.dropWhile isDecimal).length := by
        rw [taken, shape, List.length_cons]
        exact Nat.succ_le_succ (List.takeWhile_prefix isDecimal).length_le
      rw [if_neg whole, if_neg whole, if_neg none, if_neg none, Option.map_some,
        List.drop_append_of_le_length short]

theorem endsIn_of_plainNumber? {text rest : Text} {number : Float} (ends : EndsIn '}' text)
    (found : plainNumber? text = some (number, rest)) : EndsIn '}' rest := by
  have inner : EndsIn '}' (text.dropWhile isDecimal) := endsIn_dropWhile (by decide) ends
  rw [plainNumber?_eq] at found
  split at found
  · cases found
  · split at found
    · cases found
      exact inner
    · rename_i none
      obtain ⟨after, shape, -, left⟩ :=
        exists_of_fraction_ne_nil (mt List.isEmpty_iff.mpr none)
      cases found
      rw [left]
      rw [shape] at inner
      exact endsIn_dropWhile (by decide) (inner.of_cons (by decide))

theorem looksTo_leadingUnit? : LooksTo '}' leadingUnit? := by
  have avoids : ∀ unit ∈ [("px", (1 : Float)), ("pt", 1.333)], fold '}' ∉ unit.1.toList := by
    simp only [List.forall_mem_cons]
    decide
  exact LooksTo.list_findSome? fun unit member =>
    LooksTo.bind (keepsTo_dropFolded? (avoids unit member))
      (looksTo_endsWord.comp fun ended => if ended then some unit.2 else none)

theorem looksTo_plainNumber? {α : Type} {look : Float → Text → Option α}
    (looks : ∀ number, LooksTo '}' (look number)) :
    LooksTo '}' fun text => (plainNumber? text).bind fun found => look found.1 found.2 := by
  intro text ends next
  dsimp only
  rw [plainNumber?_append ends]
  cases found : plainNumber? text with
  | none => rfl
  | some parts => exact looks parts.1 parts.2 (endsIn_of_plainNumber? ends found) next

theorem looksTo_leadingFontSize? : LooksTo '}' leadingFontSize? := by
  have sized (number : Float) : LooksTo '}' fun unitText =>
      (leadingUnit? unitText).bind fun factor => some (number * factor) :=
    looksTo_leadingUnit?.comp fun unit => unit.bind fun factor => some (number * factor)
  exact LooksTo.bind (keepsTo_dropFolded? (by decide))
    (LooksTo.bind keepsTo_dropColon? ((looksTo_plainNumber? sized).comp_dropWhile (by decide)))

theorem firstFontSize?_append {first : Text} (ends : EndsIn '}' first) (second : Text) :
    firstFontSize? (first ++ second) =
      (firstFontSize? first).or (firstFontSize? second) := by
  induction ends using EndsIn.induction with
  | alone =>
      have here : leadingFontSize? ('}' :: second) = leadingFontSize? ['}'] :=
        looksTo_leadingFontSize? ['}'] rfl second
      simp [firstFontSize?, here]
  | cons c rest ends ih =>
      rw [List.cons_append, firstFontSize?, ih, ← List.cons_append,
        looksTo_leadingFontSize? _ ends.cons, firstFontSize?, Option.or_assoc]

theorem firstFontSize?_flatten {blocks : List Text}
    (closed : ∀ block ∈ blocks, EndsIn '}' block) :
    firstFontSize? blocks.flatten = blocks.findSome? firstFontSize? := by
  induction blocks with
  | nil => rfl
  | cons block blocks ih =>
      rw [List.flatten_cons, firstFontSize?_append (closed block (by simp)),
        ih fun other member => closed other (List.mem_cons_of_mem block member),
        List.findSome?_cons]
      cases firstFontSize? block <;> rfl

end Sizes

section Arrangements

variable {blocks arranged : List Text}

/-- The probes other than that of small fonts, in order. -/
def piecewise : List (Text → Option Issue) :=
  [missingFocus, hoverOnly, unguardedMotion, textOverImage, fixedPosition, colorSignal]

/-- Whether an issue is about a small font. -/
def isSmallFont (issue : Issue) : Bool :=
  issue.ruleId == "font_too_small".toList

/-- The rule ids of the suggestions for a style sheet. -/
def ruleIds (source : Text) : List Text :=
  (suggest source).map Issue.ruleId

/-- Whether the first font sizes of any two texts lie on the same side of twelve pixels. -/
def SizesAgree (blocks : List Text) : Prop :=
  ∀ first ∈ blocks, ∀ second ∈ blocks, ∀ size ∈ firstFontSize? first,
    ∀ other ∈ firstFontSize? second, 12 ≤ size ↔ 12 ≤ other

instance (blocks : List Text) : Decidable (SizesAgree blocks) :=
  inferInstanceAs (Decidable (∀ first ∈ blocks, ∀ second ∈ blocks,
    ∀ size ∈ firstFontSize? first, ∀ other ∈ firstFontSize? second, 12 ≤ size ↔ 12 ≤ other))

theorem piecewise_flatten_of_perm (closed : ∀ block ∈ blocks, EndsIn '}' block)
    (same : arranged.Perm blocks) {probe : Text → Option Issue} (member : probe ∈ piecewise) :
    probe arranged.flatten = probe blocks.flatten := by
  have search {search : Text → Bool} (splits : IsPiecewise search) :
      search arranged.flatten = search blocks.flatten := splits.flatten_of_perm closed same
  have focus : mentions ":focus" arranged.flatten = mentions ":focus" blocks.flatten :=
    search (isPiecewise_mentions (by decide))
  simp only [piecewise, List.mem_cons, List.not_mem_nil, or_false] at member
  rcases member with rfl | rfl | rfl | rfl | rfl | rfl
  · rw [missingFocus, missingFocus, focus]
  · rw [hoverOnly, hoverOnly, focus, search (isPiecewise_mentions (by decide))]
  · rw [unguardedMotion, unguardedMotion,
      search (isPiecewise_atWordStart looksTo_startsMotion),
      search (isPiecewise_mentions (by decide))]
  · rw [textOverImage, textOverImage,
      search (isPiecewise_anywhere looksTo_startsBackgroundImage (by decide))]
  · rw [fixedPosition, fixedPosition,
      search (isPiecewise_anywhere looksTo_startsFixed (by decide))]
  · rw [colorSignal, colorSignal, search (isPiecewise_anywhere looksTo_startsSignal (by decide))]

theorem isSmallFont_of_piecewise {probe : Text → Option Issue} (member : probe ∈ piecewise)
    {source : Text} {issue : Issue} (found : probe source = some issue) :
    isSmallFont issue = false := by
  simp only [piecewise, List.mem_cons, List.not_mem_nil, or_false] at member
  rcases member with rfl | rfl | rfl | rfl | rfl | rfl
  all_goals
    simp only [missingFocus, hoverOnly, unguardedMotion, textOverImage, fixedPosition,
      colorSignal] at found
    split at found
    all_goals cases found <;> rfl

theorem isSmallFont_iff {issue : Issue} :
    isSmallFont issue = true ↔ issue.ruleId = "font_too_small".toList :=
  beq_iff_eq

theorem isSmallFont_of_smallFont {source : Text} {issue : Issue}
    (found : smallFont source = some issue) : isSmallFont issue = true := by
  obtain ⟨size, -, found⟩ := Option.bind_eq_some_iff.mp found
  split at found
  · cases found
  · cases found
    rfl

theorem exists_smallFont_iff {source : Text} :
    (∃ issue, smallFont source = some issue) ↔ ∃ size ∈ firstFontSize? source, ¬ 12 ≤ size := by
  constructor
  · rintro ⟨issue, found⟩
    obtain ⟨size, first, found⟩ := Option.bind_eq_some_iff.mp found
    refine ⟨size, first, fun large => ?_⟩
    rw [if_pos large] at found
    cases found
  · rintro ⟨size, first, small⟩
    exact ⟨_, Option.bind_eq_some_iff.mpr ⟨size, first, if_neg small⟩⟩

/-- The other suggestions are those of the other probes. -/
theorem filter_suggest (source : Text) :
    (suggest source).filter (fun issue => !isSmallFont issue) =
      piecewise.filterMap fun probe => probe source := by
  have dropped : (smallFont source).filter (fun issue => !isSmallFont issue) = none := by
    rw [Option.filter_eq_none_iff]
    intro issue found
    rw [isSmallFont_of_smallFont found]
    decide
  have kept : ∀ probe ∈ piecewise,
      (probe source).filter (fun issue => !isSmallFont issue) = probe source := by
    intro probe member
    cases found : probe source with
    | none => rfl
    | some issue =>
        have large := isSmallFont_of_piecewise member found
        exact Option.filter_some_pos (by rw [large]; rfl)
  calc (suggest source).filter (fun issue => !isSmallFont issue)
      = all.filterMap fun probe => (probe source).filter fun issue => !isSmallFont issue :=
        List.filter_filterMap
    _ = piecewise.filterMap fun probe => (probe source).filter fun issue => !isSmallFont issue := by
        simp only [all, piecewise, List.filterMap_cons, dropped]
    _ = piecewise.filterMap fun probe => probe source := List.filterMap_congr kept

theorem mem_ruleIds_iff_of_ne {ruleId source : Text} (other : ruleId ≠ "font_too_small".toList) :
    ruleId ∈ ruleIds source ↔
      ruleId ∈ ((suggest source).filter fun issue => !isSmallFont issue).map Issue.ruleId := by
  have large {issue : Issue} (named : issue.ruleId = ruleId) : (!isSmallFont issue) = true := by
    rw [Bool.not_eq_true', ← Bool.not_eq_true, isSmallFont_iff, named]
    exact other
  rw [ruleIds, List.mem_map, List.mem_map]
  refine exists_congr fun issue => and_congr_left fun named => ?_
  rw [List.mem_filter, and_iff_left (large named)]

theorem smallFont_mem_ruleIds_iff {source : Text} :
    "font_too_small".toList ∈ ruleIds source ↔ ∃ size ∈ firstFontSize? source, ¬ 12 ≤ size := by
  rw [← exists_smallFont_iff, ruleIds, List.mem_map]
  constructor
  · rintro ⟨issue, member, named⟩
    obtain ⟨probe, listed, found⟩ := List.mem_filterMap.mp member
    have split : probe = smallFont ∨ probe ∈ piecewise := by
      simp only [all, piecewise, List.mem_cons] at listed ⊢
      tauto
    rcases split with rfl | other
    · exact ⟨issue, found⟩
    · have large := isSmallFont_of_piecewise other found
      exact absurd (isSmallFont_iff.mpr named) (by simp [large])
  · rintro ⟨issue, found⟩
    exact ⟨issue, List.mem_filterMap.mpr ⟨smallFont, by simp [all], found⟩,
      isSmallFont_iff.mp (isSmallFont_of_smallFont found)⟩

/-- Sizes that agree leave it open which text comes first. -/
theorem SizesAgree.small_of_perm (agree : SizesAgree blocks) (same : arranged.Perm blocks)
    (found : ∃ size ∈ blocks.findSome? firstFontSize?, ¬ 12 ≤ size) :
    ∃ size ∈ arranged.findSome? firstFontSize?, ¬ 12 ≤ size := by
  obtain ⟨size, first, small⟩ := found
  obtain ⟨block, member, sized⟩ := List.exists_of_findSome?_eq_some first
  cases first' : arranged.findSome? firstFontSize? with
  | none =>
      have unsized := List.findSome?_eq_none_iff.mp first' block (same.mem_iff.mpr member)
      rw [sized] at unsized
      cases unsized
  | some other =>
      obtain ⟨block', member', sized'⟩ := List.exists_of_findSome?_eq_some first'
      refine ⟨other, rfl, fun large => small ?_⟩
      exact (agree block member block' (same.mem_iff.mp member') size sized other sized').mpr large

theorem SizesAgree.of_perm (agree : SizesAgree blocks) (same : arranged.Perm blocks) :
    SizesAgree arranged :=
  fun first member second member' =>
    agree first (same.mem_iff.mp member) second (same.mem_iff.mp member')

theorem smallFont_mem_ruleIds_flatten_iff (closed : ∀ block ∈ blocks, EndsIn '}' block) :
    "font_too_small".toList ∈ ruleIds blocks.flatten ↔
      ∃ size ∈ blocks.findSome? firstFontSize?, ¬ 12 ≤ size := by
  rw [smallFont_mem_ruleIds_iff, firstFontSize?_flatten closed]

/-- With a block in front that has a font size, the size of that block counts. -/
theorem smallFont_mem_ruleIds_front_iff (closed : ∀ block ∈ blocks, EndsIn '}' block)
    {block : Text} (member : block ∈ blocks) {size : Float}
    (sized : firstFontSize? block = some size) :
    "font_too_small".toList ∈ ruleIds (block :: blocks.erase block).flatten ↔ ¬ 12 ≤ size := by
  have front : (block :: blocks.erase block).Perm blocks := (List.perm_cons_erase member).symm
  rw [smallFont_mem_ruleIds_flatten_iff (closed_of_perm front closed),
    List.findSome?_cons_of_isSome (by rw [sized]; rfl), sized]
  simp

end Arrangements

/-- However blocks are arranged, the suggestions that are not about a small font are the
same in the same order.  A small font is found exactly if the first font size in pixels or
points of the first block that has one is below twelve, so that the rule ids are the same
for all arrangements exactly if these sizes lie on one side of twelve in all blocks. -/
theorem suggest_rearranged_iff (blocks : List Text)
    (closed : ∀ block ∈ blocks, EndsIn '}' block) :
    (∀ arranged : List Text, arranged.Perm blocks →
      (suggest arranged.flatten).filter (fun issue => !isSmallFont issue) =
        (suggest blocks.flatten).filter fun issue => !isSmallFont issue) ∧
    ("font_too_small".toList ∈ ruleIds blocks.flatten ↔
      ∃ size ∈ blocks.findSome? firstFontSize?, ¬ 12 ≤ size) ∧
    ((∀ arranged : List Text, arranged.Perm blocks → ∀ ruleId,
        ruleId ∈ ruleIds arranged.flatten ↔ ruleId ∈ ruleIds blocks.flatten) ↔
      SizesAgree blocks) := by
  have others (arranged : List Text) (same : arranged.Perm blocks) :
      (suggest arranged.flatten).filter (fun issue => !isSmallFont issue) =
        (suggest blocks.flatten).filter fun issue => !isSmallFont issue := by
    rw [filter_suggest, filter_suggest]
    exact List.filterMap_congr fun probe member => piecewise_flatten_of_perm closed same member
  refine ⟨others, smallFont_mem_ruleIds_flatten_iff closed, fun equal => ?_, fun agree => ?_⟩
  -- Any two blocks with sizes can be brought to the front.
  · intro first member second member' size sized other sized'
    have front := equal _ (List.perm_cons_erase member).symm "font_too_small".toList
    have front' := equal _ (List.perm_cons_erase member').symm "font_too_small".toList
    rw [smallFont_mem_ruleIds_front_iff closed member sized] at front
    rw [smallFont_mem_ruleIds_front_iff closed member' sized'] at front'
    exact not_iff_not.mp (front.trans front'.symm)
  · intro arranged same ruleId
    by_cases small : ruleId = "font_too_small".toList
    · rw [small, smallFont_mem_ruleIds_flatten_iff closed,
        smallFont_mem_ruleIds_flatten_iff (closed_of_perm same closed)]
      exact ⟨(agree.of_perm same).small_of_perm same.symm, agree.small_of_perm same⟩
    · rw [mem_ruleIds_iff_of_ne small, mem_ruleIds_iff_of_ne small, others arranged same]

theorem suggest_rearranged_iff_on_small_sizes :
    (∀ block ∈ ["small \x7b font-size: 10px; \x7d".toList,
        " sup \x7b font-size: 1em; font-size: 8pt \x7d".toList], EndsIn '}' block) ∧
      "font_too_small".toList ∈ ruleIds ["small \x7b font-size: 10px; \x7d".toList,
        " sup \x7b font-size: 1em; font-size: 8pt \x7d".toList].flatten ∧
      ∀ ruleId, ruleId ∈ ruleIds [" sup \x7b font-size: 1em; font-size: 8pt \x7d".toList,
          "small \x7b font-size: 10px; \x7d".toList].flatten ↔
        ruleId ∈ ruleIds ["small \x7b font-size: 10px; \x7d".toList,
          " sup \x7b font-size: 1em; font-size: 8pt \x7d".toList].flatten := by
  have closed : ∀ block ∈ ["small \x7b font-size: 10px; \x7d".toList,
      " sup \x7b font-size: 1em; font-size: 8pt \x7d".toList], EndsIn '}' block := by
    simp only [List.forall_mem_cons, EndsIn]
    decide
  obtain ⟨-, small, same⟩ := suggest_rearranged_iff _ closed
  exact ⟨closed, small.mpr (by decide +kernel), same.mpr (by decide +kernel) _ (.swap _ _ [])⟩

/-- With sizes on both sides of twelve, the order of two blocks decides. -/
theorem small_font_found_in_one_order :
    ["small \x7b font-size: 10px; \x7d".toList, "p \x7b font-size: 16px; \x7d".toList].Perm
        ["p \x7b font-size: 16px; \x7d".toList, "small \x7b font-size: 10px; \x7d".toList] ∧
      "font_too_small".toList ∈ ruleIds ["small \x7b font-size: 10px; \x7d".toList,
        "p \x7b font-size: 16px; \x7d".toList].flatten ∧
      "font_too_small".toList ∉ ruleIds ["p \x7b font-size: 16px; \x7d".toList,
        "small \x7b font-size: 10px; \x7d".toList].flatten := by
  refine ⟨.swap _ _ [], ?_, ?_⟩
  · rw [smallFont_mem_ruleIds_iff]
    decide +kernel
  · rw [smallFont_mem_ruleIds_iff]
    decide +kernel

end Probe

end CssAudit
