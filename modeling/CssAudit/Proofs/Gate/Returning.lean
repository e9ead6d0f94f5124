import CssAudit.Proofs.Gate.Survival
import CssAudit.Proofs.Numeral.Integer

/-!
# When the gate returns

A batch is validated and rendered to the end exactly if its names and values can be
written as texts.  Where the names are texts, only an integer of too many digits stands
in the way.
-/

namespace CssAudit

namespace Batch

/-- The batch of declarations whose properties are texts. -/
def ofNamed (declarations : List (Text × Datum)) : Batch :=
  declarations.map fun declaration => (.text declaration.1, declaration.2)

/-- Whether a value is no integer of more digits than are written. -/
def IsWritable (value : Datum) : Prop :=
  ∀ n, value = .int n → n.natAbs < Nat.pow 10 Numeral.digitLimit

theorem valueText?_returns_iff {value : Datum} :
    Returns (valueText? value) ↔ IsWritable value := by
  cases value with
  | scalar scalar =>
      cases scalar with
      | number number =>
          cases number with
          | int n =>
              have unfolded : valueText? (.int n) = (Numeral.writeInteger n).map some := rfl
              rw [unfolded, returns_map_iff, Numeral.writeInteger_returns_iff]
              simp [IsWritable]
          | float x => simp [valueText?, Number.toText, IsWritable]
      | _ => simp [valueText?, IsWritable]
  | _ => simp [valueText?, IsWritable]

theorem readable_ofNamed_iff {declarations : List (Text × Datum)} :
    Readable (ofNamed declarations) ↔
      ∀ declaration ∈ declarations, IsWritable declaration.2 := by
  simp only [Readable, ofNamed, List.forall_mem_map, ← valueText?_returns_iff]
  refine forall₂_congr fun declaration _ => ?_
  exact ⟨fun readable => readable.2, fun value => ⟨⟨declaration.1, rfl⟩, value⟩⟩

end Batch

namespace Gate

theorem validate_returns_iff {batch : Batch} {strict : Bool} :
    Batch.Returns (validate batch strict) ↔ batch.Readable := by
  constructor
  · rintro ⟨result, ran⟩
    exact readable_of_validate ran
  · intro readable
    by_cases hit : ∃ entry ∈ batch, IsHit entry
    · obtain ⟨causes, refused, _⟩ := validate_of_hit readable strict hit
      exact ⟨_, refused⟩
    · have safe : ∀ entry ∈ batch, ¬ IsHit entry := fun entry member dangerous =>
        hit ⟨entry, member, dangerous⟩
      obtain ⟨outcomes, _, validated⟩ := validate_of_safe readable strict safe
      exact ⟨_, validated⟩

theorem inlineStyle_returns_iff {batch : Batch} :
    Batch.Returns (inlineStyle batch) ↔ batch.Readable := by
  have single (entry : Scalar × Datum) :
      Batch.Returns (passing entry) ↔ Batch.Readable [entry] := by
    rw [passing, Batch.returns_bind_ok_iff, validate_returns_iff]
  rw [inlineStyle, Batch.returns_bind_ok_iff, inlineStyles, Batch.returns_bind_ok_iff,
    Batch.returns_mapM_iff]
  simp [single, Batch.Readable]

end Gate

end CssAudit
