import CssAudit.Text.Blank
import CssAudit.Text.Case
import CssAudit.Text.Lemmas
import CssAudit.Text.Word
import Mathlib.Data.List.Infix
import Mathlib.Data.List.TakeWhile

/-!
# Reading up to a stop

A text that ends with a stop is read on its own if no reader gets past the stop: what is
read of it and what is left of it do not depend on what follows.  Readers in turn keep to
the stop if each of them does, so searches built from them find the same in the text
whatever follows it.
-/

namespace CssAudit

namespace Text

variable {stop : Char}

/-- Whether a text ends with a stop. -/
def EndsIn (stop : Char) (text : Text) : Prop :=
  text.getLast? = some stop

namespace EndsIn

variable {text rest : Text} {c : Char}

theorem ne_nil (ends : EndsIn stop text) : text ≠ [] := by
  rintro rfl
  cases ends

theorem of_cons (ends : EndsIn stop (c :: rest)) (passed : c ≠ stop) : EndsIn stop rest := by
  cases rest with
  | nil => exact absurd (Option.some.inj ends) passed
  | cons d rest => rwa [EndsIn, List.getLast?_cons_cons] at ends

theorem mem (ends : EndsIn stop text) : stop ∈ text :=
  List.mem_of_getLast? ends

theorem of_append {before after : Text} (ends : EndsIn stop (before ++ after))
    (nonempty : after ≠ []) : EndsIn stop after := by
  rwa [EndsIn, List.getLast?_append_of_ne_nil _ nonempty] at ends

theorem cons (ends : EndsIn stop rest) : EndsIn stop (c :: rest) := by
  rwa [EndsIn, List.getLast?_cons_of_ne_nil ends.ne_nil]

/-- What holds of a stop alone and passes on to a text with one more character before it
holds of all texts that end with the stop. -/
@[elab_as_elim]
theorem induction {motive : ∀ text, EndsIn stop text → Prop} (alone : motive [stop] rfl)
    (cons : ∀ c rest (ends : EndsIn stop rest), motive rest ends → motive (c :: rest) ends.cons)
    (ends : EndsIn stop text) : motive text ends := by
  induction text with
  | nil => exact absurd rfl ends.ne_nil
  | cons c rest ih =>
      cases rest with
      | nil =>
          obtain rfl : c = stop := Option.some.inj ends
          exact alone
      | cons d rest =>
          have inner : EndsIn stop (d :: rest) := by
            rwa [EndsIn, List.getLast?_cons_cons] at ends
          exact cons c (d :: rest) inner (ih inner)

end EndsIn

/-- Whether a reader of the start of a text leaves the stop that ends it, whatever
follows. -/
structure KeepsTo (stop : Char) (read : Text → Option Text) : Prop where
  append : ∀ {text : Text}, EndsIn stop text → ∀ next,
    read (text ++ next) = (read text).map (· ++ next)
  ends : ∀ {text rest : Text}, EndsIn stop text → read text = some rest → EndsIn stop rest

/-- Whether a look at the start of a text is the same whatever follows a stop. -/
def LooksTo {α : Type} (stop : Char) (look : Text → α) : Prop :=
  ∀ text, EndsIn stop text → ∀ next, look (text ++ next) = look text

section Skipping

variable {p : Char → Bool} (stops : p stop = false) {text : Text} (ends : EndsIn stop text)
include stops ends

theorem dropWhile_ne_nil : text.dropWhile p ≠ [] := by
  rw [Ne, List.dropWhile_eq_nil_iff]
  intro passes
  exact absurd (passes stop ends.mem) (by simp [stops])

theorem endsIn_dropWhile : EndsIn stop (text.dropWhile p) := by
  have parts : EndsIn stop (text.takeWhile p ++ text.dropWhile p) := by
    rwa [List.takeWhile_append_dropWhile]
  exact parts.of_append (dropWhile_ne_nil stops ends)

theorem dropWhile_append_of_endsIn (next : Text) :
    (text ++ next).dropWhile p = text.dropWhile p ++ next := by
  rw [List.dropWhile_append, if_neg]
  simpa using dropWhile_ne_nil stops ends

theorem takeWhile_append_of_endsIn (next : Text) :
    (text ++ next).takeWhile p = text.takeWhile p := by
  have left : 0 < (text.dropWhile p).length :=
    List.length_pos_of_ne_nil (dropWhile_ne_nil stops ends)
  have parts := congrArg List.length (List.takeWhile_append_dropWhile (p := p) (l := text))
  rw [List.length_append] at parts
  rw [List.takeWhile_append, if_neg (by omega)]

end Skipping

section Readers

theorem keepsTo_dropPrefix? {pattern : Text} (avoids : stop ∉ pattern) :
    KeepsTo stop (dropPrefix? pattern) where
  append {text} ends next := by
    induction pattern generalizing text with
    | nil => rfl
    | cons expected pattern ih =>
        cases text with
        | nil => exact absurd rfl ends.ne_nil
        | cons c text =>
            rw [List.mem_cons, not_or] at avoids
            rw [List.cons_append, dropPrefix?, dropPrefix?]
            split
            · rename_i same
              exact ih avoids.2 (ends.of_cons (same ▸ Ne.symm avoids.1))
            · rfl
  ends {text rest} ends dropped := by
    obtain rfl := dropPrefix?_eq_some_iff.mp dropped
    refine ends.of_append ?_
    rintro rfl
    exact avoids (by simpa using ends.mem)

theorem keepsTo_dropFolded? {pattern : Text} (avoids : fold stop ∉ pattern) :
    KeepsTo stop (dropFolded? pattern) := by
  have both (text : Text) (ends : EndsIn stop text) :
      (∀ next, dropFolded? pattern (text ++ next) = (dropFolded? pattern text).map (· ++ next)) ∧
        ∀ rest, dropFolded? pattern text = some rest → EndsIn stop rest := by
    induction pattern generalizing text with
    | nil => exact ⟨fun _ => rfl, fun _ same => Option.some.inj same ▸ ends⟩
    | cons expected pattern ih =>
        cases text with
        | nil => exact absurd rfl ends.ne_nil
        | cons c text =>
            rw [List.mem_cons, not_or] at avoids
            simp only [List.cons_append, dropFolded?]
            split
            · rename_i same
              have passed : c ≠ stop := fun equal => avoids.1 (equal ▸ same.symm)
              exact ih avoids.2 text (ends.of_cons passed)
            · exact ⟨fun _ => rfl, fun _ none => by cases none⟩
  exact ⟨fun ends => (both _ ends).1, fun ends => (both _ ends).2 _⟩

variable {first second : Text → Option Text}

theorem KeepsTo.bind (reads : KeepsTo stop first) (continues : KeepsTo stop second) :
    KeepsTo stop fun text => (first text).bind second where
  append {text} ends next := by
    rw [reads.append ends]
    cases read : first text with
    | none => rfl
    | some rest => exact continues.append (reads.ends ends read) next
  ends {text rest} ends found := by
    obtain ⟨middle, read, found⟩ := Option.bind_eq_some_iff.mp found
    exact continues.ends (reads.ends ends read) found

theorem KeepsTo.comp_dropWhile {p : Char → Bool} (stops : p stop = false)
    (reads : KeepsTo stop first) : KeepsTo stop fun text => first (text.dropWhile p) where
  append {text} ends next := by
    rw [dropWhile_append_of_endsIn stops ends, reads.append (endsIn_dropWhile stops ends)]
  ends ends found := reads.ends (endsIn_dropWhile stops ends) found

end Readers

section Looks

variable {α β : Type} {read : Text → Option Text}

theorem LooksTo.bind {look : Text → Option α} (reads : KeepsTo stop read)
    (looks : LooksTo stop look) : LooksTo stop fun text => (read text).bind look := by
  intro text ends next
  dsimp only
  rw [reads.append ends]
  cases found : read text with
  | none => rfl
  | some rest => exact looks rest (reads.ends ends found) next

theorem LooksTo.any {test : Text → Bool} (reads : KeepsTo stop read)
    (looks : LooksTo stop test) : LooksTo stop fun text => (read text).any test := by
  intro text ends next
  dsimp only
  rw [reads.append ends]
  cases found : read text with
  | none => rfl
  | some rest => exact looks rest (reads.ends ends found) next

theorem KeepsTo.isSome (reads : KeepsTo stop read) :
    LooksTo stop fun text => (read text).isSome := by
  intro text ends next
  dsimp only
  rw [reads.append ends, Option.isSome_map]

theorem LooksTo.comp {look : Text → α} (looks : LooksTo stop look) (f : α → β) :
    LooksTo stop fun text => f (look text) :=
  fun text ends next => congrArg f (looks text ends next)

theorem LooksTo.comp_dropWhile {p : Char → Bool} (stops : p stop = false)
    {look : Text → α} (looks : LooksTo stop look) :
    LooksTo stop fun text => look (text.dropWhile p) := by
  intro text ends next
  dsimp only
  rw [dropWhile_append_of_endsIn stops ends]
  exact looks _ (endsIn_dropWhile stops ends) next

theorem LooksTo.or {first second : Text → Bool} (looks : LooksTo stop first)
    (looks' : LooksTo stop second) : LooksTo stop fun text => first text || second text :=
  fun text ends next => congrArg₂ _ (looks text ends next) (looks' text ends next)

theorem LooksTo.list_any {items : List β} {test : β → Text → Bool}
    (looks : ∀ item ∈ items, LooksTo stop (test item)) :
    LooksTo stop fun text => items.any fun item => test item text := by
  intro text ends next
  dsimp only
  rw [Bool.eq_iff_iff, List.any_eq_true, List.any_eq_true]
  exact exists_congr fun item => and_congr_right fun member => by
    rw [looks item member text ends next]

theorem looksTo_takeWhile {p : Char → Bool} (stops : p stop = false) :
    LooksTo stop fun text => text.takeWhile p :=
  fun _ ends next => takeWhile_append_of_endsIn stops ends next

theorem looksTo_head? : LooksTo stop List.head? := by
  intro text ends next
  cases text with
  | nil => exact absurd rfl ends.ne_nil
  | cons c rest => rfl

theorem looksTo_endsWord : LooksTo stop endsWord :=
  looksTo_head?.comp fun first => !first.any isWord

theorem LooksTo.list_findSome? {items : List β} {look : β → Text → Option α}
    (looks : ∀ item ∈ items, LooksTo stop (look item)) :
    LooksTo stop fun text => items.findSome? fun item => look item text := by
  intro text ends next
  induction items with
  | nil => rfl
  | cons item items ih =>
      have others := ih fun other member => looks other (List.mem_cons_of_mem item member)
      dsimp only at others ⊢
      rw [List.findSome?_cons, List.findSome?_cons, looks item (by simp) text ends next, others]

end Looks

section Searches

variable {test : Text → Bool} (looks : LooksTo stop test) {first : Text}
  (ends : EndsIn stop first) (second : Text)
include looks ends

/-- A search that looks to the stop finds on either side of it what it finds in all. -/
theorem anywhere_append_of_endsIn (nothing : test [] = false) :
    anywhere test (first ++ second) = (anywhere test first || anywhere test second) := by
  -- The induction ends at the stop, where the test no longer sees the second text.
  induction ends using EndsIn.induction with
  | alone =>
      have here : test (stop :: second) = test [stop] := looks [stop] rfl second
      simp [anywhere, here, nothing]
  | cons c rest ends ih =>
      rw [List.cons_append, anywhere, ih, ← List.cons_append, looks _ ends.cons, anywhere,
        Bool.or_assoc]

end Searches

end Text

end CssAudit
