/-!
# Maps in insertion order

A map keeps its entries in the order in which their keys were first inserted; a
later insertion of a key replaces the value and keeps the place.
-/

namespace CssAudit

/-- A map from keys to values as the list of its entries. -/
abbrev OrderedMap (κ α : Type) := List (κ × α)

namespace OrderedMap

variable {κ α : Type} [BEq κ]

/-- The map with the value of `key` set to `value`. -/
def insert (key : κ) (value : α) : OrderedMap κ α → OrderedMap κ α
  | [] => [(key, value)]
  | entry :: entries =>
      if entry.1 == key then (entry.1, value) :: entries
      else entry :: insert key value entries

/-- The map without the entry of `key`. -/
def erase (key : κ) (entries : OrderedMap κ α) : OrderedMap κ α :=
  entries.filter fun entry => !(entry.1 == key)

/-- The value of `key`. -/
def get? (entries : OrderedMap κ α) (key : κ) : Option α :=
  (entries.find? fun entry => entry.1 == key).map (·.2)

/-- Whether the map has an entry of `key`. -/
def hasKey (entries : OrderedMap κ α) (key : κ) : Bool :=
  entries.any fun entry => entry.1 == key

/-- The map with all entries of a list inserted one after another. -/
def insertAll (entries : OrderedMap κ α) (added : List (κ × α)) :
    OrderedMap κ α :=
  added.foldl (fun map entry => insert entry.1 entry.2 map) entries

/-- The map with the entries of a list, each inserted after those before it. -/
def ofList (entries : List (κ × α)) : OrderedMap κ α :=
  insertAll [] entries

theorem insertAll_append (entries : OrderedMap κ α) (first second : List (κ × α)) :
    insertAll entries (first ++ second) = insertAll (insertAll entries first) second := by
  simp [insertAll]

theorem ofList_append (first second : List (κ × α)) :
    ofList (first ++ second) = insertAll (ofList first) second :=
  insertAll_append [] first second

theorem keys_insert (key : κ) (value : α) (entries : OrderedMap κ α) :
    (insert key value entries).map (·.1) =
      if hasKey entries key then entries.map (·.1) else entries.map (·.1) ++ [key] := by
  induction entries with
  | nil => simp [insert, hasKey]
  | cons entry entries ih =>
      by_cases same : entry.1 == key
      · simp [insert, hasKey, same]
      · have tail : hasKey (entry :: entries) key = hasKey entries key := by
          simp [hasKey, same]
        simp only [insert, same, Bool.false_eq_true, if_false, List.map_cons, ih, tail]
        split <;> rfl

variable [LawfulBEq κ]

theorem get?_insert (entries : OrderedMap κ α) (key other : κ) (value : α) :
    get? (insert key value entries) other =
      if key == other then some value else get? entries other := by
  induction entries with
  | nil => by_cases same : key == other <;> simp [insert, get?, same]
  | cons entry entries ih =>
      by_cases found : entry.1 == key
      · obtain rfl := eq_of_beq found
        by_cases same : entry.1 == other <;> simp [insert, get?, same]
      · by_cases same : entry.1 == other
        · obtain rfl := eq_of_beq same
          have different : (key == entry.1) = false := by
            simpa [BEq.comm] using found
          simp [insert, get?, found, different]
        · simpa [insert, get?, found, same] using ih

end OrderedMap

end CssAudit
