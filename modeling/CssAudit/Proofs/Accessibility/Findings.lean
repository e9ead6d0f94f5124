import CssAudit.Accessibility.Check
import CssAudit.Proofs.Batch

/-!
# What a check may find

Each issue of a check is one of a few kinds of issues.  An issue of too little contrast
is about two colors that are understood, and names what they were read from.
-/

namespace CssAudit

namespace Check

open Batch

/-- What the rule of contrast may find. -/
inductive IsContrastFinding (rule : StyleRule) : Issue → Prop
  | unverifiable (raw : Text) : IsContrastFinding rule (Rules.unverifiableContrast rule raw)
  | insufficient {pair : Rules.ColorPair} {foreground background : Color} (large : Bool) :
      Color.parse? pair.foreground = some foreground →
      Color.parse? pair.background = some background →
      IsContrastFinding rule (Rules.insufficientContrast rule pair foreground background large
        (foreground.contrast background))
  | belowEnhanced {pair : Rules.ColorPair} {foreground background : Color} (large : Bool) :
      Color.parse? pair.foreground = some foreground →
      Color.parse? pair.background = some background →
      IsContrastFinding rule (Rules.contrastBelowEnhanced rule pair foreground background large
        (foreground.contrast background))

/-- What the other rules of rule blocks may find. -/
inductive IsPlainFinding (rule : StyleRule) : Issue → Prop
  | unverifiableSize (raw : Text) : IsPlainFinding rule (Rules.unverifiableSize rule raw)
  | sizeTooSmall (size : Float) : IsPlainFinding rule (Rules.sizeTooSmall rule size)
  | sizeSmall (size : Float) : IsPlainFinding rule (Rules.sizeSmall rule size)
  | outlineReplaced : IsPlainFinding rule (Rules.outlineReplaced rule)
  | outlineRemoved : IsPlainFinding rule (Rules.outlineRemoved rule)
  | notDisplayed : IsPlainFinding rule (Rules.notDisplayed rule)
  | notVisible : IsPlainFinding rule (Rules.notVisible rule)
  | noPointerEvents : IsPlainFinding rule (Rules.noPointerEvents rule)
  | tightLines (height : Float) : IsPlainFinding rule (Rules.tightLines rule height)
  | underlineRemoved : IsPlainFinding rule (Rules.underlineRemoved rule)
  | lowOpacity (value : Float) : IsPlainFinding rule (Rules.lowOpacity rule value)

/-- What the rules of whole style sheets may find. -/
inductive IsSheetFinding : Issue → Prop
  | importantOverused (count : Nat) : IsSheetFinding (Rules.importantOverused count)
  | selectionDisabled (rule : StyleRule) : IsSheetFinding (Rules.selectionDisabled rule)
  | pointerEventsDisabled (rule : StyleRule) :
      IsSheetFinding (Rules.pointerEventsDisabled rule)

/-- What a check may find. -/
inductive IsFinding : Issue → Prop
  | contrast {rule : StyleRule} {issue : Issue} : IsContrastFinding rule issue → IsFinding issue
  | plain {rule : StyleRule} {issue : Issue} : IsPlainFinding rule issue → IsFinding issue
  | sheet {issue : Issue} : IsSheetFinding issue → IsFinding issue

section Block

variable {rule : StyleRule} {context : Context}

theorem isContrastFinding_of_mem {issues : List Issue}
    (ran : Rules.contrast rule context = .ok issues) :
    ∀ issue ∈ issues, IsContrastFinding rule issue := by
  unfold Rules.contrast at ran
  split at ran
  · obtain rfl := Except.ok.inj ran
    exact List.forall_mem_nil _
  · split at ran
    · obtain rfl := Except.ok.inj ran
      exact List.forall_mem_nil _
    · split at ran
      · obtain rfl := Except.ok.inj ran
        exact List.forall_mem_singleton.mpr (.unverifiable _)
      · obtain rfl := Except.ok.inj ran
        exact List.forall_mem_singleton.mpr (.unverifiable _)
      · rename_i foreground background foreground_eq background_eq
        obtain ⟨large, _, shape⟩ := bind_eq_ok_iff.mp ran
        obtain rfl := Except.ok.inj shape
        intro issue member
        have found := Option.mem_toList.mp member
        unfold Rules.contrastIssue? at found
        dsimp only at found
        split at found
        · obtain rfl := Option.some.inj found
          exact .insufficient large foreground_eq background_eq
        · split at found
          · obtain rfl := Option.some.inj found
            exact .belowEnhanced large foreground_eq background_eq
          · cases found

theorem isPlainFinding_of_mem_fontSize :
    ∀ issue ∈ Rules.fontSize rule, IsPlainFinding rule issue := by
  unfold Rules.fontSize
  split
  · exact List.forall_mem_nil _
  · split
    · exact List.forall_mem_nil _
    · split
      · exact List.forall_mem_singleton.mpr (.unverifiableSize _)
      · split
        · exact List.forall_mem_singleton.mpr (.sizeTooSmall _)
        · split
          · exact List.forall_mem_singleton.mpr (.sizeSmall _)
          · exact List.forall_mem_nil _

theorem isPlainFinding_of_mem_focusOutline :
    ∀ issue ∈ Rules.focusOutline rule context, IsPlainFinding rule issue := by
  unfold Rules.focusOutline
  split
  · split
    · exact List.forall_mem_singleton.mpr .outlineReplaced
    · exact List.forall_mem_singleton.mpr .outlineRemoved
  · exact List.forall_mem_nil _

theorem isPlainFinding_of_mem_keyboard :
    ∀ issue ∈ Rules.keyboard rule context, IsPlainFinding rule issue := by
  have single {condition : Prop} [Decidable condition] {found : Issue}
      (finding : IsPlainFinding rule found) :
      ∀ issue ∈ (if condition then [found] else []), IsPlainFinding rule issue := by
    split
    · exact List.forall_mem_singleton.mpr finding
    · exact List.forall_mem_nil _
  unfold Rules.keyboard
  split
  · simp only [List.forall_mem_append]
    exact ⟨⟨single .notDisplayed, single .notVisible⟩, single .noPointerEvents⟩
  · exact List.forall_mem_nil _

theorem isPlainFinding_of_mem_lineHeight :
    ∀ issue ∈ Rules.lineHeight rule, IsPlainFinding rule issue := by
  unfold Rules.lineHeight
  split
  · exact List.forall_mem_nil _
  · split
    · exact List.forall_mem_nil _
    · exact List.forall_mem_singleton.mpr (.tightLines _)

theorem isPlainFinding_of_mem_linkUnderline :
    ∀ issue ∈ Rules.linkUnderline rule context, IsPlainFinding rule issue := by
  unfold Rules.linkUnderline
  split
  · exact List.forall_mem_singleton.mpr .underlineRemoved
  · exact List.forall_mem_nil _

theorem isPlainFinding_of_mem_opacity :
    ∀ issue ∈ Rules.opacity rule, IsPlainFinding rule issue := by
  unfold Rules.opacity
  split
  · exact List.forall_mem_nil _
  · split
    · exact List.forall_mem_nil _
    · exact List.forall_mem_singleton.mpr (.lowOpacity _)

theorem isFinding_of_mem_blockIssues {issues : List Issue}
    (ran : blockIssues rule context = .ok issues) : ∀ issue ∈ issues, IsFinding issue := by
  obtain ⟨contrastIssues, contrast_ran, shape⟩ := bind_eq_ok_iff.mp ran
  obtain rfl := Except.ok.inj shape
  simp only [List.forall_mem_append]
  refine ⟨⟨⟨⟨⟨⟨?_, ?_⟩, ?_⟩, ?_⟩, ?_⟩, ?_⟩, ?_⟩
  · exact fun issue member => .contrast (isContrastFinding_of_mem contrast_ran issue member)
  · exact fun issue member => .plain (isPlainFinding_of_mem_fontSize issue member)
  · exact fun issue member => .plain (isPlainFinding_of_mem_focusOutline issue member)
  · exact fun issue member => .plain (isPlainFinding_of_mem_keyboard issue member)
  · exact fun issue member => .plain (isPlainFinding_of_mem_lineHeight issue member)
  · exact fun issue member => .plain (isPlainFinding_of_mem_linkUnderline issue member)
  · exact fun issue member => .plain (isPlainFinding_of_mem_opacity issue member)

end Block

theorem isSheetFinding_of_mem {sheet : Stylesheet} :
    ∀ issue ∈ sheetIssues sheet, IsSheetFinding issue := by
  intro issue member
  simp only [sheetIssues, List.mem_append] at member
  rcases member with (important | selection) | pointer
  · unfold Rules.importantUse at important
    split at important
    · simp at important
    · rw [List.mem_singleton.mp important]
      exact .importantOverused _
  · obtain ⟨rule, _, rfl⟩ := Option.map_eq_some_iff.mp (Option.mem_toList.mp selection)
    exact .selectionDisabled rule
  · obtain ⟨rule, _, rfl⟩ := Option.map_eq_some_iff.mp (Option.mem_toList.mp pointer)
    exact .pointerEventsDisabled rule

theorem isFinding_of_declarations {batch : Batch} {context : Context} {report : Compliance}
    (ran : Check.declarations batch context = .ok report) :
    ∀ issue ∈ report.issues, IsFinding issue := by
  obtain ⟨rule, _, ran⟩ := bind_eq_ok_iff.mp ran
  obtain ⟨issues, block_ran, shape⟩ := bind_eq_ok_iff.mp ran
  obtain rfl := Except.ok.inj shape
  rw [List.forall_mem_append]
  exact ⟨isFinding_of_mem_blockIssues block_ran,
    fun issue member => .sheet (isSheetFinding_of_mem issue member)⟩

theorem isFinding_of_sheet {sheet : Stylesheet} {context : Context} {report : Compliance}
    (ran : Check.sheet sheet context = .ok report) :
    ∀ issue ∈ report.issues, IsFinding issue := by
  obtain ⟨found, found_eq, shape⟩ := bind_eq_ok_iff.mp ran
  obtain rfl := Except.ok.inj shape
  rw [List.forall_mem_append]
  refine ⟨?_, fun issue member => .sheet (isSheetFinding_of_mem issue member)⟩
  intro issue member
  obtain ⟨issues, issues_mem, within⟩ := List.mem_flatten.mp member
  obtain ⟨rule, _, block_ran⟩ := exists_item_of_mapM found_eq issues_mem
  exact isFinding_of_mem_blockIssues block_ran issue within

end Check

end CssAudit
