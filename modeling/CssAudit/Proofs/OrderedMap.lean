import CssAudit.OrderedMap
import Mathlib.Algebra.Order.BigOperators.Group.List
import Mathlib.Algebra.Order.Group.Nat
import Mathlib.Algebra.Ring.Nat
import Mathlib.Data.List.Nodup

/-!
# Distinct keys

Insertion, removal and collection keep the keys of a map distinct.  A list whose
keys are distinct is the map that it collects to.  No operation adds weight: what
a map holds was inserted, and its total weight is bounded by that of all
insertions.
-/

namespace CssAudit

namespace OrderedMap

variable {κ α : Type}

/-- No key has two entries. -/
def Distinct (entries : OrderedMap κ α) : Prop :=
  (entries.map (·.1)).Nodup

instance [DecidableEq κ] (entries : OrderedMap κ α) : Decidable (Distinct entries) :=
  inferInstanceAs (Decidable (entries.map (·.1)).Nodup)

/-- The sum of the weights of all values. -/
def total (weight : α → Nat) (entries : OrderedMap κ α) : Nat :=
  (entries.map fun entry => weight entry.2).sum

theorem Distinct.eq_of_mem {entries : OrderedMap κ α} (distinct : Distinct entries)
    {first second : κ × α} (first_mem : first ∈ entries) (second_mem : second ∈ entries)
    (same : first.1 = second.1) : first = second :=
  List.inj_on_of_nodup_map distinct first_mem second_mem same

theorem perm_of_mem_iff {first second : OrderedMap κ α} (first_distinct : Distinct first)
    (second_distinct : Distinct second) (same : ∀ entry, entry ∈ first ↔ entry ∈ second) :
    first.Perm second :=
  (List.perm_ext_iff_of_nodup (.of_map _ first_distinct) (.of_map _ second_distinct)).mpr same

variable [BEq κ]

theorem distinct_erase (key : κ) {entries : OrderedMap κ α} (distinct : Distinct entries) :
    Distinct (erase key entries) :=
  distinct.sublist (List.filter_sublist.map _)

theorem total_erase_le (weight : α → Nat) (key : κ) (entries : OrderedMap κ α) :
    total weight (erase key entries) ≤ total weight entries :=
  (List.filter_sublist.map _).sum_le_sum fun _ _ => Nat.zero_le _

theorem total_insert_le (weight : α → Nat) (key : κ) (value : α)
    (entries : OrderedMap κ α) :
    total weight (insert key value entries) ≤ total weight entries + weight value := by
  induction entries with
  | nil => simp [insert, total]
  | cons entry entries ih =>
      by_cases same : entry.1 == key
      · simp only [insert, same, if_true, total, List.map_cons, List.sum_cons]
        omega
      · simp only [total] at ih
        simp only [insert, same, Bool.false_eq_true, if_false, total, List.map_cons,
          List.sum_cons]
        omega

theorem insertAll_cons (entries : OrderedMap κ α) (first : κ × α) (added : List (κ × α)) :
    insertAll entries (first :: added) = insertAll (insert first.1 first.2 entries) added :=
  rfl

theorem total_insertAll_le (weight : α → Nat) (entries : OrderedMap κ α)
    (added : List (κ × α)) :
    total weight (insertAll entries added) ≤ total weight entries + total weight added := by
  induction added generalizing entries with
  | nil => simp [insertAll, total]
  | cons entry added ih =>
      have step := total_insert_le weight entry.1 entry.2 entries
      have later := ih (insert entry.1 entry.2 entries)
      have sum : total weight (entry :: added) = weight entry.2 + total weight added := by
        simp [total]
      rw [insertAll_cons, sum]
      omega

/-- Collecting a list into a map adds no weight. -/
theorem total_ofList_le (weight : α → Nat) (added : List (κ × α)) :
    total weight (ofList added) ≤ total weight added := by
  have bound := total_insertAll_le weight ([] : OrderedMap κ α) added
  simpa [ofList, total] using bound

section Values

variable {β : Type} (f : α → β)

theorem map_insert (key : κ) (value : α) (entries : OrderedMap κ α) :
    (insert key value entries).map (fun entry => (entry.1, f entry.2)) =
      insert key (f value) (entries.map fun entry => (entry.1, f entry.2)) := by
  induction entries with
  | nil => rfl
  | cons entry entries ih =>
      simp only [insert, List.map_cons]
      split
      · rfl
      · rw [List.map_cons, ih]

theorem map_insertAll (entries : OrderedMap κ α) (added : List (κ × α)) :
    (insertAll entries added).map (fun entry => (entry.1, f entry.2)) =
      insertAll (entries.map fun entry => (entry.1, f entry.2))
        (added.map fun entry => (entry.1, f entry.2)) := by
  induction added generalizing entries with
  | nil => rfl
  | cons first added ih =>
      rw [insertAll_cons, ih, map_insert, List.map_cons, insertAll_cons]

/-- The values of a map may be changed before or after it is collected. -/
theorem map_ofList (added : List (κ × α)) :
    (ofList added).map (fun entry => (entry.1, f entry.2)) =
      ofList (added.map fun entry => (entry.1, f entry.2)) :=
  map_insertAll f [] added

end Values

variable [LawfulBEq κ]

theorem hasKey_eq_true_iff {entries : OrderedMap κ α} {key : κ} :
    hasKey entries key = true ↔ key ∈ entries.map (·.1) := by
  simp [hasKey]

theorem get?_eq_some_iff {entries : OrderedMap κ α} (distinct : Distinct entries) {key : κ}
    {value : α} : get? entries key = some value ↔ (key, value) ∈ entries := by
  constructor
  · intro got
    obtain ⟨entry, found, rfl⟩ := Option.map_eq_some_iff.mp got
    have same : entry.1 = key := by simpa using List.find?_some found
    rw [← same]
    exact List.mem_of_find?_eq_some found
  · intro member
    have present : (entries.find? fun entry => entry.1 == key).isSome := by
      rw [List.find?_isSome]
      exact ⟨(key, value), member, beq_self_eq_true key⟩
    obtain ⟨entry, found⟩ := Option.isSome_iff_exists.mp present
    have same : entry.1 = key := by simpa using List.find?_some found
    have equal : entry = (key, value) :=
      distinct.eq_of_mem (List.mem_of_find?_eq_some found) member same
    rw [get?, found, equal, Option.map_some]

theorem distinct_insert (key : κ) (value : α) {entries : OrderedMap κ α}
    (distinct : Distinct entries) : Distinct (insert key value entries) := by
  rw [Distinct, keys_insert]
  split
  · exact distinct
  · rename_i absent
    rw [hasKey_eq_true_iff] at absent
    rw [List.nodup_append]
    refine ⟨distinct, List.nodup_singleton key, ?_⟩
    rintro other member _ single rfl
    rw [List.mem_singleton.mp single] at member
    exact absent member

theorem mem_of_mem_insert {key : κ} {value : α} {entry : κ × α}
    {entries : OrderedMap κ α} (member : entry ∈ insert key value entries) :
    entry = (key, value) ∨ entry ∈ entries := by
  induction entries with
  | nil => exact .inl (List.mem_singleton.mp member)
  | cons first entries ih =>
      by_cases same : first.1 == key
      · simp only [insert, same, if_true, List.mem_cons] at member
        rcases member with rfl | member
        · exact .inl (by rw [eq_of_beq same])
        · exact .inr (List.mem_cons_of_mem first member)
      · simp only [insert, same, Bool.false_eq_true, if_false, List.mem_cons] at member
        rcases member with rfl | member
        · exact .inr (by simp)
        · rcases ih member with new | old
          · exact .inl new
          · exact .inr (List.mem_cons_of_mem first old)

theorem mem_of_mem_insertAll {entry : κ × α} {entries : OrderedMap κ α}
    {added : List (κ × α)} (member : entry ∈ insertAll entries added) :
    entry ∈ entries ∨ entry ∈ added := by
  induction added generalizing entries with
  | nil => exact .inl member
  | cons first added ih =>
      rw [insertAll_cons] at member
      rcases ih member with early | late
      · rcases mem_of_mem_insert early with new | old
        · exact .inr (by simp [new])
        · exact .inl old
      · exact .inr (List.mem_cons_of_mem first late)

theorem mem_of_mem_ofList {entry : κ × α} {added : List (κ × α)}
    (member : entry ∈ ofList added) : entry ∈ added := by
  rcases mem_of_mem_insertAll member with none | found
  · exact absurd none List.not_mem_nil
  · exact found

theorem distinct_insertAll (entries : OrderedMap κ α) (distinct : Distinct entries)
    (added : List (κ × α)) : Distinct (insertAll entries added) := by
  induction added generalizing entries with
  | nil => exact distinct
  | cons first added ih => exact ih _ (distinct_insert first.1 first.2 distinct)

theorem distinct_ofList (added : List (κ × α)) : Distinct (ofList added) :=
  distinct_insertAll [] List.nodup_nil added

theorem insert_eq_append {key : κ} {entries : OrderedMap κ α} (value : α)
    (absent : key ∉ entries.map (·.1)) :
    insert key value entries = entries ++ [(key, value)] := by
  induction entries with
  | nil => rfl
  | cons first entries ih =>
      rw [List.map_cons, List.mem_cons, not_or] at absent
      have different : (first.1 == key) = false := by
        simpa using Ne.symm absent.1
      simp only [insert, different, Bool.false_eq_true, if_false, ih absent.2,
        List.cons_append]

theorem insertAll_eq_append (entries added : OrderedMap κ α)
    (distinct : Distinct (entries ++ added)) : insertAll entries added = entries ++ added := by
  induction added generalizing entries with
  | nil => simp [insertAll]
  | cons first added ih =>
      have shifted : entries ++ first :: added = (entries ++ [first]) ++ added := by simp
      have absent : first.1 ∉ entries.map (·.1) := by
        intro member
        rw [Distinct, List.map_append, List.nodup_append] at distinct
        exact distinct.2.2 first.1 member first.1 (by simp) rfl
      rw [insertAll_cons, insert_eq_append first.2 absent, shifted]
      exact ih _ (shifted ▸ distinct)

theorem ofList_eq_self {entries : OrderedMap κ α} (distinct : Distinct entries) :
    ofList entries = entries :=
  insertAll_eq_append [] entries distinct

end OrderedMap

end CssAudit
