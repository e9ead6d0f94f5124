import CssAudit.Datum
import Mathlib.Data.List.Forall2

/-!
# Running a step over a batch

A step that may fail runs through a batch exactly if it succeeds on every
declaration, and the results stand in the order of the declarations.  Whether a run
returns is decided step by step.  Batches whose names and values are texts never fail
to be read.
-/

namespace CssAudit

namespace Batch

section Traversal

variable {ε α β : Type}

theorem bind_eq_ok_iff {start : Except ε α} {next : α → Except ε β} {result : β} :
    (start >>= next) = .ok result ↔ ∃ middle, start = .ok middle ∧ next middle = .ok result := by
  cases start with
  | error cause => simp [bind, Except.bind]
  | ok middle => simp [bind, Except.bind]

theorem mapM_cons_eq_ok_iff {step : α → Except ε β} {item : α} {items : List α}
    {results : List β} :
    (item :: items).mapM step = .ok results ↔
      ∃ first rest, step item = .ok first ∧ items.mapM step = .ok rest ∧
        results = first :: rest := by
  rw [List.mapM_cons, bind_eq_ok_iff]
  constructor
  · rintro ⟨first, first_eq, ran⟩
    obtain ⟨rest, rest_eq, shape⟩ := bind_eq_ok_iff.mp ran
    exact ⟨first, rest, first_eq, rest_eq, (Except.ok.inj shape).symm⟩
  · rintro ⟨first, rest, first_eq, rest_eq, rfl⟩
    exact ⟨first, first_eq, bind_eq_ok_iff.mpr ⟨rest, rest_eq, rfl⟩⟩

theorem mapM_eq_ok_iff {step : α → Except ε β} {items : List α} {results : List β} :
    items.mapM step = .ok results ↔
      List.Forall₂ (fun item result => step item = .ok result) items results := by
  induction items generalizing results with
  | nil => cases results <;> simp [pure, Except.pure]
  | cons item items ih =>
      rw [mapM_cons_eq_ok_iff, List.forall₂_cons_left_iff]
      simp only [ih]

theorem mapM_append_eq_ok_iff {step : α → Except ε β} {first second : List α}
    {results : List β} :
    (first ++ second).mapM step = .ok results ↔
      ∃ left right, first.mapM step = .ok left ∧ second.mapM step = .ok right ∧
        results = left ++ right := by
  rw [List.mapM_append, bind_eq_ok_iff]
  constructor
  · rintro ⟨left, left_eq, ran⟩
    obtain ⟨right, right_eq, shape⟩ := bind_eq_ok_iff.mp ran
    exact ⟨left, right, left_eq, right_eq, (Except.ok.inj shape).symm⟩
  · rintro ⟨left, right, left_eq, right_eq, rfl⟩
    exact ⟨left, left_eq, bind_eq_ok_iff.mpr ⟨right, right_eq, rfl⟩⟩

theorem mapM_ofTexts {step : Scalar × Datum → Except ε β} {image : Text × Text → β}
    {entries : List (Text × Text)}
    (steps : ∀ entry ∈ entries, step (.text entry.1, .text entry.2) = .ok (image entry)) :
    (ofTexts entries).mapM step = .ok (entries.map image) := by
  rw [mapM_eq_ok_iff, ofTexts, List.forall₂_map_left_iff, List.forall₂_map_right_iff,
    List.forall₂_same]
  exact steps

theorem exists_mapM_eq_ok {step : α → Except ε β} {items : List α}
    (each : ∀ item ∈ items, ∃ result, step item = .ok result) :
    ∃ results, items.mapM step = .ok results := by
  induction items with
  | nil => exact ⟨[], rfl⟩
  | cons item items ih =>
      obtain ⟨first, first_eq⟩ := each item (by simp)
      obtain ⟨rest, rest_eq⟩ := ih fun other member => each other (List.mem_cons_of_mem item member)
      exact ⟨first :: rest, mapM_eq_ok_iff.mpr (.cons first_eq (mapM_eq_ok_iff.mp rest_eq))⟩

/-- Of lists that are related item by item, each item of the second has one of the first. -/
theorem exists_of_forall₂ {R : α → β → Prop} {items : List α} {results : List β}
    (paired : List.Forall₂ R items results) {result : β} (member : result ∈ results) :
    ∃ item ∈ items, R item result := by
  induction paired with
  | nil => exact absurd member List.not_mem_nil
  | cons first_related _ ih =>
      rcases List.mem_cons.mp member with rfl | member
      · exact ⟨_, by simp, first_related⟩
      · obtain ⟨item, item_mem, related⟩ := ih member
        exact ⟨item, List.mem_cons_of_mem _ item_mem, related⟩

theorem exists_item_of_mapM {step : α → Except ε β} {items : List α} {results : List β}
    (ran : items.mapM step = .ok results) {result : β} (member : result ∈ results) :
    ∃ item ∈ items, step item = .ok result :=
  exists_of_forall₂ (mapM_eq_ok_iff.mp ran) member

theorem exists_result_of_mapM {step : α → Except ε β} {items : List α} {results : List β}
    (ran : items.mapM step = .ok results) {item : α} (member : item ∈ items) :
    ∃ result ∈ results, step item = .ok result :=
  exists_of_forall₂ (mapM_eq_ok_iff.mp ran).flip member

/-- Whether a run comes to a result and not to an error. -/
def Returns (run : Except ε α) : Prop :=
  ∃ result, run = .ok result

@[simp]
theorem returns_ok (result : α) : Returns (.ok result : Except ε α) :=
  ⟨result, rfl⟩

@[simp]
theorem not_returns_error (cause : ε) : ¬ Returns (.error cause : Except ε α) := by
  rintro ⟨result, ran⟩
  cases ran

@[simp]
theorem returns_map_iff {run : Except ε α} {f : α → β} : Returns (run.map f) ↔ Returns run := by
  cases run <;> simp [Except.map]

theorem returns_bind_iff {start : Except ε α} {next : α → Except ε β} :
    Returns (start >>= next) ↔ ∃ middle, start = .ok middle ∧ Returns (next middle) := by
  cases start <;> simp [bind, Except.bind]

@[simp]
theorem returns_bind_ok_iff {start : Except ε α} {f : α → β} :
    Returns (start >>= fun middle => .ok (f middle)) ↔ Returns start := by
  rw [returns_bind_iff]
  simp [Returns]

theorem returns_mapM_iff {step : α → Except ε β} {items : List α} :
    Returns (items.mapM step) ↔ ∀ item ∈ items, Returns (step item) := by
  constructor
  · rintro ⟨results, ran⟩ item member
    obtain ⟨result, _, result_eq⟩ := exists_result_of_mapM ran member
    exact ⟨result, result_eq⟩
  · exact exists_mapM_eq_ok

end Traversal

/-- Whether the name and the value of every declaration can be written as texts;
only integers of too many digits cannot. -/
def Readable (batch : Batch) : Prop :=
  ∀ entry ∈ batch, (∃ written, entry.1.toText = .ok written) ∧
    ∃ text?, valueText? entry.2 = .ok text?

theorem readable_ofTexts (entries : List (Text × Text)) : Readable (ofTexts entries) := by
  intro entry member
  obtain ⟨source, _, rfl⟩ := List.mem_map.mp member
  exact ⟨⟨source.1, rfl⟩, ⟨some source.2, rfl⟩⟩

end Batch

end CssAudit
