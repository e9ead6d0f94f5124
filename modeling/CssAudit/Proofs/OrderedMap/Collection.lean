import CssAudit.Proofs.OrderedMap
import Mathlib.Data.List.Induction

/-!
# Maps collected from lists

A map that is collected from a list has the last value of every key, at the place of the
first.  Whether entries are inserted one by one or collected first makes no difference, and
a key may be removed from the list or from the map.
-/

namespace CssAudit

/-- Whether an item is the last one of a list with some property. -/
def IsLast {α : Type} (holds : α → Prop) (items : List α) (item : α) : Prop :=
  ∃ before after, items = before ++ item :: after ∧ holds item ∧ ∀ later ∈ after, ¬ holds later

theorem IsLast.holds {α : Type} {holds : α → Prop} {items : List α} {item : α}
    (last : IsLast holds items item) : holds item := by
  obtain ⟨_, _, _, holds_item, _⟩ := last
  exact holds_item

theorem not_isLast_nil {α : Type} {holds : α → Prop} {item : α} : ¬ IsLast holds [] item := by
  rintro ⟨before, after, shape, _⟩
  exact absurd shape (by simp)

/-- A further item is the last one if it has the property, and changes nothing if not. -/
theorem isLast_concat_iff {α : Type} {holds : α → Prop} {items : List α} {last item : α} :
    IsLast holds (items ++ [last]) item ↔
      (holds last ∧ item = last) ∨ (¬ holds last ∧ IsLast holds items item) := by
  constructor
  · rintro ⟨before, after, shape, holds_item, none⟩
    -- Whether the further item is the one depends on whether any stand behind it.
    rcases List.eq_nil_or_concat after with rfl | ⟨others, final, rfl⟩
    · obtain ⟨_, single⟩ := List.append_inj' shape rfl
      obtain rfl := List.singleton_inj.mp single
      exact .inl ⟨holds_item, rfl⟩
    · rw [List.concat_eq_append] at shape none
      rw [← List.cons_append, ← List.append_assoc] at shape
      obtain ⟨rfl, single⟩ := List.append_inj' shape rfl
      obtain rfl := List.singleton_inj.mp single
      exact .inr ⟨none last (by simp), before, others, rfl, holds_item,
        fun later member => none later (List.mem_append_left _ member)⟩
  · rintro (⟨holds_last, rfl⟩ | ⟨fails, before, after, rfl, holds_item, none⟩)
    · exact ⟨items, [], rfl, holds_last, fun _ member => absurd member List.not_mem_nil⟩
    · refine ⟨before, after ++ [last], by simp, holds_item, fun later member => ?_⟩
      rcases List.mem_append.mp member with earlier | single
      · exact none later earlier
      · rwa [List.mem_singleton.mp single]

namespace OrderedMap

variable {κ α : Type} [BEq κ]

theorem insertAll_concat (entries : OrderedMap κ α) (added : List (κ × α)) (last : κ × α) :
    insertAll entries (added ++ [last]) = insert last.1 last.2 (insertAll entries added) :=
  insertAll_append entries added [last]

theorem ofList_concat (added : List (κ × α)) (last : κ × α) :
    ofList (added ++ [last]) = insert last.1 last.2 (ofList added) :=
  insertAll_concat [] added last

variable [LawfulBEq κ]

theorem mem_keys_insert {key other : κ} {value : α} {entries : OrderedMap κ α} :
    key ∈ (insert other value entries).map (·.1) ↔ key = other ∨ key ∈ entries.map (·.1) := by
  rw [keys_insert]
  split
  · rename_i present
    rw [hasKey_eq_true_iff] at present
    constructor
    · exact .inr
    · rintro (rfl | member)
      · exact present
      · exact member
  · rw [List.mem_append, List.mem_singleton, or_comm]

theorem mem_keys_ofList {key : κ} {added : List (κ × α)} :
    key ∈ (ofList added).map (·.1) ↔ key ∈ added.map (·.1) := by
  induction added using List.reverseRecOn with
  | nil => rfl
  | append_singleton added last ih =>
      rw [ofList_concat, mem_keys_insert, ih, List.map_append, List.mem_append,
        List.map_singleton, List.mem_singleton, or_comm]

theorem insert_insert (key : κ) (first second : α) (entries : OrderedMap κ α) :
    insert key second (insert key first entries) = insert key second entries := by
  induction entries with
  | nil => simp [insert]
  | cons entry entries ih =>
      by_cases same : entry.1 == key
      · simp [insert, same]
      · simp [insert, same, ih]

/-- A key that has its place may get its value before or after another key. -/
theorem insert_comm {key other : κ} (different : key ≠ other) (value added : α)
    {entries : OrderedMap κ α} (present : key ∈ entries.map (·.1)) :
    insert key value (insert other added entries) =
      insert other added (insert key value entries) := by
  induction entries with
  | nil => exact absurd present List.not_mem_nil
  | cons entry entries ih =>
      by_cases same : entry.1 = key
      · simp [insert, same, different]
      · have later : key ∈ entries.map (·.1) :=
          (List.mem_cons.mp present).resolve_left (Ne.symm same)
        by_cases found : entry.1 = other
        · simp [insert, found, Ne.symm different]
        · simp [insert, same, found, ih later]

theorem insert_insertAll {key : κ} (value : α) {entries : OrderedMap κ α}
    (present : key ∈ entries.map (·.1)) {added : List (κ × α)}
    (absent : key ∉ added.map (·.1)) :
    insert key value (insertAll entries added) = insertAll (insert key value entries) added := by
  induction added generalizing entries with
  | nil => rfl
  | cons first added ih =>
      rw [List.map_cons, List.mem_cons, not_or] at absent
      have kept : key ∈ (insert first.1 first.2 entries).map (·.1) :=
        mem_keys_insert.mpr (.inr present)
      rw [insertAll_cons, insertAll_cons, ih kept absent.2, insert_comm absent.1 _ _ present]

/-- A map with one more entry is inserted as the map, and then the entry. -/
theorem insertAll_insert (key : κ) (value : α) (entries : OrderedMap κ α)
    {added : OrderedMap κ α} (distinct : Distinct added) :
    insertAll entries (insert key value added) = insert key value (insertAll entries added) := by
  induction added generalizing entries with
  | nil => rfl
  | cons first added ih =>
      obtain ⟨alone, others⟩ := List.nodup_cons.mp distinct
      by_cases same : first.1 = key
      · subst same
        have placed : first.1 ∈ (insert first.1 first.2 entries).map (·.1) :=
          mem_keys_insert.mpr (.inl rfl)
        rw [insertAll_cons, insert_insertAll value placed alone, insert_insert]
        simp [insert, insertAll_cons]
      · have passed : insert key value (first :: added) = first :: insert key value added := by
          simp [insert, same]
        rw [passed, insertAll_cons, insertAll_cons, ih _ others]

/-- It makes no difference whether entries are inserted one by one or collected first. -/
theorem insertAll_ofList (entries : OrderedMap κ α) (added : List (κ × α)) :
    insertAll entries (ofList added) = insertAll entries added := by
  induction added using List.reverseRecOn with
  | nil => rfl
  | append_singleton added last ih =>
      rw [ofList_concat, insertAll_insert _ _ _ (distinct_ofList added), ih, insertAll_concat]

theorem keys_insertAll (entries : OrderedMap κ α) {added : OrderedMap κ α}
    (distinct : Distinct added) :
    (insertAll entries added).map (·.1) =
      entries.map (·.1) ++ (added.map (·.1)).filter fun key => !hasKey entries key := by
  induction added generalizing entries with
  | nil => simp [insertAll]
  | cons first added ih =>
      obtain ⟨alone, others⟩ := List.nodup_cons.mp distinct
      have same : ∀ key ∈ added.map (·.1),
          (!hasKey (insert first.1 first.2 entries) key) = !hasKey entries key := by
        intro key member
        have different : key ≠ first.1 := by
          rintro rfl
          exact alone member
        rw [Bool.not_inj_iff, Bool.eq_iff_iff, hasKey_eq_true_iff, hasKey_eq_true_iff,
          mem_keys_insert, or_iff_right different]
      rw [insertAll_cons, ih _ others, List.filter_congr same, keys_insert, List.map_cons,
        List.filter_cons]
      by_cases present : hasKey entries first.1 = true
      · simp [present]
      · simp [present]

theorem get?_insertAll (entries : OrderedMap κ α) {added : OrderedMap κ α}
    (distinct : Distinct added) (key : κ) :
    get? (insertAll entries added) key = (get? added key).or (get? entries key) := by
  induction added generalizing entries with
  | nil => rfl
  | cons first added ih =>
      obtain ⟨alone, others⟩ := List.nodup_cons.mp distinct
      rw [insertAll_cons, ih _ others, get?_insert]
      by_cases same : first.1 = key
      · subst same
        have absent : get? added first.1 = none := by
          rw [get?, Option.map_eq_none_iff, List.find?_eq_none]
          exact fun entry member found => alone
            (List.mem_map.mpr ⟨entry, member, eq_of_beq found⟩)
        rw [absent, if_pos (beq_self_eq_true _)]
        simp [get?]
      · simp [get?, same]

/-- Whether a map is another one updated with the entries of a third: the keys that were
there keep their places, new keys follow in order, and later values replace earlier ones. -/
structure IsUpdate (entries added updated : OrderedMap κ α) : Prop where
  keys_eq : updated.map (·.1) =
    entries.map (·.1) ++ (added.map (·.1)).filter fun key => !hasKey entries key
  get?_eq : ∀ key, get? updated key = (get? added key).or (get? entries key)

theorem isUpdate_insertAll (entries : OrderedMap κ α) {added : OrderedMap κ α}
    (distinct : Distinct added) : IsUpdate entries added (insertAll entries added) :=
  ⟨keys_insertAll entries distinct, get?_insertAll entries distinct⟩

theorem mem_insert_iff {key other : κ} {value found : α} {entries : OrderedMap κ α}
    (distinct : Distinct entries) :
    (other, found) ∈ insert key value entries ↔
      (other = key ∧ found = value) ∨ (other ≠ key ∧ (other, found) ∈ entries) := by
  rw [← get?_eq_some_iff (distinct_insert key value distinct), get?_insert,
    ← get?_eq_some_iff distinct]
  by_cases same : other = key
  · subst same
    simp [eq_comm]
  · simp [same, Ne.symm same]

/-- The last entry of a key is the one that is collected. -/
theorem mem_ofList_iff {added : List (κ × α)} {entry : κ × α} :
    entry ∈ ofList added ↔ IsLast (fun other => other.1 = entry.1) added entry := by
  induction added using List.reverseRecOn with
  | nil => exact iff_of_false List.not_mem_nil not_isLast_nil
  | append_singleton added last ih =>
      rw [ofList_concat, mem_insert_iff (distinct_ofList added), ih, isLast_concat_iff]
      constructor
      · rintro (⟨same, value_eq⟩ | ⟨different, found⟩)
        · exact .inl ⟨same.symm, Prod.ext same value_eq⟩
        · exact .inr ⟨Ne.symm different, found⟩
      · rintro (⟨_, rfl⟩ | ⟨different, found⟩)
        · exact .inl ⟨rfl, rfl⟩
        · exact .inr ⟨Ne.symm different, found⟩

theorem mem_erase_iff {key : κ} {entry : κ × α} {entries : OrderedMap κ α} :
    entry ∈ erase key entries ↔ entry ∈ entries ∧ entry.1 ≠ key := by
  simp [erase]

theorem erase_insert (key other : κ) (value : α) (entries : OrderedMap κ α) :
    erase key (insert other value entries) =
      if other == key then erase key entries else insert other value (erase key entries) := by
  induction entries with
  | nil => by_cases same : other == key <;> simp [erase, insert, same]
  | cons entry entries ih =>
      simp only [erase] at ih ⊢
      by_cases found : entry.1 = other
      · by_cases same : entry.1 = key <;> simp [insert, ← found, same]
      · rw [insert, if_neg (by simpa using found), List.filter_cons, ih]
        by_cases same : other = key
        · simp [same, List.filter_cons]
        · by_cases first : entry.1 = key <;> simp [insert, same, first, found]

theorem erase_ofList (key : κ) (added : List (κ × α)) :
    erase key (ofList added) = ofList (added.filter fun entry => !(entry.1 == key)) := by
  induction added using List.reverseRecOn with
  | nil => rfl
  | append_singleton added last ih =>
      rw [ofList_concat, erase_insert, ih, List.filter_append]
      by_cases same : last.1 == key
      · simp [same]
      · simp [same, ofList_concat]

/-- Whether a key has its first entry before the first one of another. -/
def Precedes (entries : List (κ × α)) (first second : κ) : Prop :=
  (entries.map (·.1)).idxOf first < (entries.map (·.1)).idxOf second

theorem precedes_cons_iff {entry : κ × α} {entries : List (κ × α)} {first second : κ} :
    Precedes (entry :: entries) first second ↔
      entry.1 ≠ second ∧ (entry.1 = first ∨ Precedes entries first second) := by
  rw [Precedes, Precedes, List.map_cons, List.idxOf_cons, List.idxOf_cons]
  by_cases at_second : entry.1 = second
  · simp [at_second]
  · by_cases at_first : entry.1 = first
    · subst at_first
      simp [Bool.cond_eq_ite, at_second]
    · simp [Bool.cond_eq_ite, at_first, at_second]

theorem precedes_append_iff {entries : List (κ × α)} {first second : κ}
    (first_mem : first ∈ entries.map (·.1)) (second_mem : second ∈ entries.map (·.1))
    (others : List (κ × α)) :
    Precedes (entries ++ others) first second ↔ Precedes entries first second := by
  rw [Precedes, List.map_append, List.idxOf_append_of_mem first_mem,
    List.idxOf_append_of_mem second_mem, Precedes]

/-- The keys of a collected list stand in the order of their first entries. -/
theorem pairwise_keys_ofList (added : List (κ × α)) :
    ((ofList added).map (·.1)).Pairwise (Precedes added) := by
  induction added using List.reverseRecOn with
  | nil => exact List.Pairwise.nil
  | append_singleton added last ih =>
      have earlier : ((ofList added).map (·.1)).Pairwise (Precedes (added ++ [last])) :=
        ih.imp_of_mem fun first_mem second_mem before =>
          (precedes_append_iff (mem_keys_ofList.mp first_mem) (mem_keys_ofList.mp second_mem)
            [last]).mpr before
      rw [ofList_concat, keys_insert]
      split
      · exact earlier
      · rename_i absent
        rw [hasKey_eq_true_iff, mem_keys_ofList] at absent
        refine List.pairwise_append.mpr ⟨earlier, List.pairwise_singleton _ _, ?_⟩
        intro key member other single
        rw [List.mem_singleton.mp single, Precedes, List.map_append,
          List.idxOf_append_of_mem (mem_keys_ofList.mp member),
          List.idxOf_append_of_notMem absent]
        exact Nat.lt_add_right _ (List.idxOf_lt_length_of_mem (mem_keys_ofList.mp member))

omit [LawfulBEq κ] in
/-- Maps of the same entries, each in the order of some list, are equal exactly if the
lists agree on the order of the keys. -/
theorem eq_iff_precedes {β γ : Type} {first second : OrderedMap κ α} {source : List (κ × β)}
    {other : List (κ × γ)} (perm : first.Perm second)
    (first_order : (first.map (·.1)).Pairwise (Precedes source))
    (second_order : (second.map (·.1)).Pairwise (Precedes other)) :
    first = second ↔ ∀ left ∈ second, ∀ right ∈ second,
      Precedes source left.1 right.1 → Precedes other left.1 right.1 := by
  rw [List.pairwise_map] at first_order second_order
  constructor
  · rintro rfl
    -- Of two entries the earlier precedes in both lists, and the later in none.
    refine List.Pairwise.forall_of_forall_of_flip (fun entry _ before => ?_) ?_ ?_
    · exact absurd before (Nat.lt_irrefl _)
    · exact second_order.imp fun {left right} before (_ : Precedes source left.1 right.1) => before
    · exact first_order.imp fun before after => absurd before (Nat.lt_asymm after)
  · intro agree
    have again : first.Pairwise fun left right => Precedes other left.1 right.1 :=
      first_order.imp_of_mem fun left_mem right_mem before =>
        agree _ (perm.mem_iff.mp left_mem) _ (perm.mem_iff.mp right_mem) before
    exact perm.eq_of_pairwise (fun _ _ _ _ before after => absurd before (Nat.lt_asymm after))
      again second_order

end OrderedMap

end CssAudit
