import CssAudit.Accessibility.Context

/-!
# The names of facts

A mapping gives a fact by its canonical name or by one of its other names, absent values
apart.  The canonical name has the say wherever it stands, and of the other names the first
one.  A context holds what was chosen in this way, and the first fact whose chosen value is
of the wrong kind is to blame if there is none.
-/

namespace CssAudit

/-- Whether a datum is the absent one. -/
def Datum.isAbsent : Datum → Bool
  | .null => true
  | _ => false

theorem Datum.isAbsent_iff {datum : Datum} : datum.isAbsent = true ↔ datum = .null := by
  unfold isAbsent
  split
  · exact iff_of_true rfl rfl
  · rename_i present
    exact iff_of_false Bool.false_ne_true present

theorem Scalar.beq_text_iff {key : Scalar} {name : Text} :
    (key == .text name) = true ↔ key = .text name := by
  cases key with
  | text other =>
      change (other == name) = true ↔ _
      rw [beq_iff_eq, Scalar.text.injEq]
  | null => exact iff_of_false Bool.false_ne_true (by simp)
  | bool value => exact iff_of_false Bool.false_ne_true (by simp)
  | number value => exact iff_of_false Bool.false_ne_true (by simp)

/-- Whether no two entries of a mapping have the same key. -/
def DistinctKeys (entries : List (Scalar × Datum)) : Prop :=
  entries.Pairwise fun first second => (first.1 == second.1) = false

instance (entries : List (Scalar × Datum)) : Decidable (DistinctKeys entries) :=
  inferInstanceAs (Decidable (entries.Pairwise fun first second => (first.1 == second.1) = false))

/-- The first value of a mapping that is not absent, under a key that passes a test. -/
def valueUnder? (test : Scalar → Bool) (entries : List (Scalar × Datum)) : Option Datum :=
  (entries.find? fun entry => test entry.1 && !entry.2.isAbsent).map (·.2)

namespace ContextField

/-- The facts in the order in which their values are checked. -/
def checked : List ContextField :=
  [.isInteractive, .background, .foreground, .tag, .selector]

/-- Whether a key is the canonical name of a fact. -/
def isName (field : ContextField) (key : Scalar) : Bool :=
  key == .text field.name.toList

/-- Whether a key is another name of a fact. -/
def isOtherName (field : ContextField) : Scalar → Bool
  | .text name => ofAlias? name = some field
  | _ => false

/-- Whether a datum is of the kind of a fact. -/
def fits : ContextField → Datum → Bool
  | .isInteractive, .bool _ => true
  | .isInteractive, _ => false
  | _, .null => true
  | _, .text _ => true
  | _, _ => false

theorem ofName?_eq_some_iff {name : Text} {field : ContextField} :
    ofName? name = some field ↔ field.name.toList = name := by
  constructor
  · intro found
    have same := List.find?_some found
    exact beq_iff_eq.mp same
  · rintro rfl
    cases field <;> decide

theorem ofAlias?_name (field : ContextField) : ofAlias? field.name.toList = none := by
  cases field <;> decide

theorem isName_iff {field : ContextField} {key : Scalar} :
    field.isName key = true ↔ key = .text field.name.toList :=
  Scalar.beq_text_iff

theorem isOtherName_iff {field : ContextField} {key : Scalar} :
    field.isOtherName key = true ↔ ∃ name, key = .text name ∧ ofAlias? name = some field := by
  cases key with
  | text name => simp [isOtherName]
  | null => simp [isOtherName]
  | bool value => simp [isOtherName]
  | number value => simp [isOtherName]

theorem isOtherName_of_isName {field other : ContextField} {key : Scalar}
    (named : field.isName key = true) : other.isOtherName key = false := by
  obtain rfl := isName_iff.mp named
  simp [isOtherName, ofAlias?_name]

theorem isName_of_isOtherName {field other : ContextField} {key : Scalar}
    (named : other.isOtherName key = true) : field.isName key = false := by
  rw [← Bool.not_eq_true]
  intro canonical
  rw [isOtherName_of_isName canonical] at named
  cases named

theorem isOtherName_of_ne {field other : ContextField} {key : Scalar}
    (named : other.isOtherName key = true) (apart : field ≠ other) :
    field.isOtherName key = false := by
  rw [← Bool.not_eq_true]
  intro also
  obtain ⟨name, rfl, other_eq⟩ := isOtherName_iff.mp named
  obtain ⟨_, same, field_eq⟩ := isOtherName_iff.mp also
  obtain rfl := Scalar.text.inj same
  exact apart (Option.some.inj (field_eq.symm.trans other_eq))

end ContextField

section Lookup

variable {test : Scalar → Bool}

theorem valueUnder?_cons (entry : Scalar × Datum) (entries : List (Scalar × Datum)) :
    valueUnder? test (entry :: entries) =
      if test entry.1 && !entry.2.isAbsent then some entry.2 else valueUnder? test entries := by
  rw [valueUnder?, List.find?_cons]
  split
  · rename_i found
    rw [if_pos found, Option.map_some]
  · rename_i passed
    rw [if_neg (by simp [passed]), valueUnder?]

theorem valueUnder?_append (first second : List (Scalar × Datum)) :
    valueUnder? test (first ++ second) =
      (valueUnder? test first).or (valueUnder? test second) := by
  rw [valueUnder?, List.find?_append, Option.map_or, valueUnder?, valueUnder?]

theorem valueUnder?_eq_none {entries : List (Scalar × Datum)}
    (failed : ∀ entry ∈ entries, test entry.1 = false) : valueUnder? test entries = none := by
  rw [valueUnder?, Option.map_eq_none_iff, List.find?_eq_none]
  intro entry member
  simp [failed entry member]

end Lookup

namespace Context

/-- The value of a fact in a context. -/
def fact (context : Context) : ContextField → Datum
  | .isInteractive => .bool context.isInteractive
  | .background => .ofOption .text context.background
  | .foreground => .ofOption .text context.foreground
  | .tag => .ofOption .text context.tag
  | .selector => .ofOption .text context.selector

/-- The value that a mapping gives for a fact, if it does: the one under the canonical name,
and else the first one under another name. -/
def chosen? (entries : List (Scalar × Datum)) (field : ContextField) : Option Datum :=
  (valueUnder? field.isName entries).or (valueUnder? field.isOtherName entries)

/-- The value of a fact that may be given, and else its default. -/
def valueOf (facts : ContextField → Option Datum) (field : ContextField) : Datum :=
  (facts field).getD (fact {} field)

/-- The value of a fact that a mapping describes. -/
def chosen (entries : List (Scalar × Datum)) : ContextField → Datum :=
  valueOf (chosen? entries)

/-- Whether an entry of a mapping, with others before and after it, has no say. -/
inductive Loses (before after : List (Scalar × Datum)) : Scalar × Datum → Prop
  | absent (key : Scalar) : Loses before after (key, .null)
  | unknown {key : Scalar} {value : Datum} :
      (∀ field : ContextField, field.isName key = false ∧ field.isOtherName key = false) →
      Loses before after (key, value)
  | outvoted {field : ContextField} {key : Scalar} {value : Datum} :
      field.isOtherName key = true →
      (∃ canonical, valueUnder? field.isName (before ++ after) = some canonical) ∨
        (∃ first, valueUnder? field.isOtherName before = some first) →
      Loses before after (key, value)

section Entries

open OrderedMap

variable {field : ContextField}

theorem addEntry_text {value : Datum} (present : value.isAbsent = false)
    (facts : OrderedMap ContextField Datum) (name : Text) :
    addEntry facts (.text name, value) =
      match ContextField.ofName? name with
      | some field => insert field value facts
      | none =>
          match ContextField.ofAlias? name with
          | some field => if hasKey facts field then facts else insert field value facts
          | none => facts := by
  unfold addEntry
  split
  · rename_i shape
    rw [(Prod.mk.inj shape).2] at present
    cases present
  · rename_i shape
    cases shape
    rfl
  · rename_i unnamed
    exact absurd rfl (unnamed name value)

theorem addEntry_of_ne_text {key : Scalar} (unnamed : ∀ name, key ≠ .text name)
    (facts : OrderedMap ContextField Datum) (value : Datum) :
    addEntry facts (key, value) = facts := by
  unfold addEntry
  split
  · rfl
  · rename_i shape
    exact absurd (congrArg Prod.fst shape) (unnamed _)
  · rfl

theorem get?_setDefault (facts : OrderedMap ContextField Datum) (other : ContextField)
    (value : Datum) :
    get? (if hasKey facts other then facts else insert other value facts) field =
      if other = field then (get? facts field).or (some value) else get? facts field := by
  have known : hasKey facts other = (get? facts other).isSome := by
    rw [hasKey, get?, Option.isSome_map, List.isSome_find?]
  rw [known]
  by_cases same : other = field
  · subst same
    cases found : get? facts other with
    | some known => simp [found]
    | none => simp [get?_insert]
  · rw [if_neg same]
    split
    · rfl
    · rw [get?_insert, if_neg (by simpa using same)]

section Present

variable {value : Datum} (present : value.isAbsent = false) (facts : OrderedMap ContextField Datum)
include present

theorem get?_addEntry_name :
    get? (addEntry facts (.text field.name.toList, value)) field = some value := by
  rw [addEntry_text present, ContextField.ofName?_eq_some_iff.mpr rfl]
  simp [get?_insert]

theorem get?_addEntry_otherName {name : Text} (named : ContextField.ofAlias? name = some field) :
    get? (addEntry facts (.text name, value)) field = (get? facts field).or (some value) := by
  have uncanonical : ContextField.ofName? name = none := by
    rw [Option.eq_none_iff_forall_not_mem]
    intro other canonical
    obtain rfl := ContextField.ofName?_eq_some_iff.mp canonical
    rw [ContextField.ofAlias?_name] at named
    cases named
  simp only [addEntry_text present, uncanonical, named, get?_setDefault, if_true]

theorem get?_addEntry_foreign {name : Text} (uncanonical : name ≠ field.name.toList)
    (unnamed : ContextField.ofAlias? name ≠ some field) :
    get? (addEntry facts (.text name, value)) field = get? facts field := by
  rw [addEntry_text present]
  split
  · rename_i other canonical
    obtain rfl := ContextField.ofName?_eq_some_iff.mp canonical
    have apart : other ≠ field := fun same => uncanonical (congrArg (·.name.toList) same)
    simp [get?_insert, apart]
  · split
    · rename_i other named
      have apart : other ≠ field := fun same => unnamed (same ▸ named)
      rw [get?_setDefault, if_neg apart]
    · rfl

end Present

/-- What one entry of a mapping does to a fact. -/
theorem get?_addEntry (facts : OrderedMap ContextField Datum) (entry : Scalar × Datum) :
    get? (addEntry facts entry) field =
      if field.isName entry.1 && !entry.2.isAbsent then some entry.2
      else if field.isOtherName entry.1 && !entry.2.isAbsent then
        (get? facts field).or (some entry.2)
      else get? facts field := by
  obtain ⟨key, value⟩ := entry
  cases absent : value.isAbsent with
  | true =>
      obtain rfl := Datum.isAbsent_iff.mp absent
      simp [addEntry]
  | false =>
      simp only [Bool.not_false, Bool.and_true]
      split
      · rename_i canonical
        obtain rfl := ContextField.isName_iff.mp canonical
        exact get?_addEntry_name absent facts
      · rename_i uncanonical
        rw [ContextField.isName_iff] at uncanonical
        split
        · rename_i named
          obtain ⟨name, rfl, found⟩ := ContextField.isOtherName_iff.mp named
          exact get?_addEntry_otherName absent facts found
        · rename_i unnamed
          rw [ContextField.isOtherName_iff, not_exists] at unnamed
          by_cases text : ∃ name, key = .text name
          · obtain ⟨name, rfl⟩ := text
            exact get?_addEntry_foreign absent facts (fun same => uncanonical (by rw [same]))
              fun found => unnamed name ⟨rfl, found⟩
          · rw [addEntry_of_ne_text (not_exists.mp text)]

theorem valueUnder?_isName_tail {entry : Scalar × Datum} {entries : List (Scalar × Datum)}
    (distinct : DistinctKeys (entry :: entries)) (canonical : field.isName entry.1 = true) :
    valueUnder? field.isName entries = none := by
  refine valueUnder?_eq_none fun other member => ?_
  have apart := (List.pairwise_cons.mp distinct).1 other member
  rw [ContextField.isName_iff.mp canonical] at apart
  rw [← Bool.not_eq_true]
  intro again
  rw [ContextField.isName_iff.mp again, Scalar.beq_text_iff.mpr rfl] at apart
  cases apart

/-- The facts after all entries of a mapping: the canonical name replaces what was there,
the other names do not. -/
theorem get?_foldl_addEntry {entries : List (Scalar × Datum)} (distinct : DistinctKeys entries)
    (facts : OrderedMap ContextField Datum) :
    get? (entries.foldl addEntry facts) field =
      (valueUnder? field.isName entries).or
        ((get? facts field).or (valueUnder? field.isOtherName entries)) := by
  induction entries generalizing facts with
  | nil => simp [valueUnder?]
  | cons entry entries ih =>
      rw [List.foldl_cons, ih distinct.of_cons, get?_addEntry, valueUnder?_cons, valueUnder?_cons]
      cases absent : entry.2.isAbsent with
      | true => simp
      | false =>
          simp only [Bool.not_false, Bool.and_true]
          split
          · rename_i canonical
            rw [valueUnder?_isName_tail distinct canonical]
            simp
          · split
            · simp
            · rfl

theorem get?_entries {entries : List (Scalar × Datum)} (distinct : DistinctKeys entries) :
    get? (entries.foldl addEntry []) = chosen? entries := by
  funext field
  rw [get?_foldl_addEntry distinct, chosen?]
  rfl

theorem chosen_of_mem {entries : List (Scalar × Datum)} (distinct : DistinctKeys entries)
    {value : Datum} (member : (.text field.name.toList, value) ∈ entries)
    (present : value.isAbsent = false) : chosen entries field = value := by
  have canonical : field.isName (.text field.name.toList) = true :=
    ContextField.isName_iff.mpr rfl
  suffices found : valueUnder? field.isName entries = some value by
    rw [chosen, valueOf, chosen?, found, Option.some_or, Option.getD_some]
  induction entries with
  | nil => cases member
  | cons entry entries ih =>
      rw [valueUnder?_cons]
      rcases List.mem_cons.mp member with rfl | later
      · simp [canonical, present]
      · rw [if_neg, ih distinct.of_cons later]
        intro named
        have again := valueUnder?_isName_tail distinct (Bool.and_eq_true_iff.mp named).1
        rw [ih distinct.of_cons later] at again
        cases again

/-- What an entry without a say adds to a mapping is nothing. -/
theorem chosen?_of_loses {before after : List (Scalar × Datum)} {entry : Scalar × Datum}
    (loses : Loses before after entry) (field : ContextField) :
    chosen? (before ++ entry :: after) field = chosen? (before ++ after) field := by
  have drop (test : Scalar → Bool) (idle : (test entry.1 && !entry.2.isAbsent) = false) :
      valueUnder? test (before ++ entry :: after) = valueUnder? test (before ++ after) := by
    simp only [valueUnder?_append, valueUnder?_cons, idle, Bool.false_eq_true, if_false]
  cases loses with
  | absent key =>
      rw [chosen?, drop _ (Bool.and_false _), drop _ (Bool.and_false _), chosen?]
  | unknown foreign =>
      obtain ⟨uncanonical, unnamed⟩ := foreign field
      rw [chosen?, drop _ (by simp [uncanonical]), drop _ (by simp [unnamed]), chosen?]
  | @outvoted other key value named lost =>
      have kept := drop field.isName
        (by rw [ContextField.isName_of_isOtherName named, Bool.false_and])
      rw [chosen?, kept, chosen?]
      by_cases same : field = other
      · subst same
        rcases lost with ⟨canonical, found⟩ | ⟨first, found⟩
        · rw [found, Option.some_or, Option.some_or]
        · congr 1
          rw [valueUnder?_append, valueUnder?_append, found, Option.some_or, Option.some_or]
      · rw [drop _ (by rw [ContextField.isOtherName_of_ne named same, Bool.false_and])]

end Entries

section Facts

/-- Whether reading a fact returns what shows as its value, or names the fact whose value is
of the wrong kind. -/
inductive Reads {α : Type} (shows : α → Datum) (field : ContextField) (value : Datum) :
    Except ContextError α → Prop
  | shown {result : α} : shows result = value → field.fits value = true →
      Reads shows field value (.ok result)
  | misfit : field.fits value = false →
      Reads shows field value (.error (.wrongKind field value.kindName))

theorem reads_truthOf (value? : Option Datum) :
    Reads Datum.bool .isInteractive (value?.getD (.bool false))
      (truthOf .isInteractive value?) := by
  unfold truthOf
  split
  · exact .shown rfl rfl
  · exact .shown rfl rfl
  · rename_i value untrue
    refine .misfit ?_
    unfold ContextField.fits
    split <;> simp_all

theorem reads_textOf {field : ContextField} (textual : field ≠ .isInteractive)
    (value? : Option Datum) :
    Reads (Datum.ofOption Datum.text) field (value?.getD .null) (textOf field value?) := by
  have fits_null : field.fits .null = true := by
    cases field <;> first | exact absurd rfl textual | rfl
  unfold textOf
  split
  · exact .shown rfl fits_null
  · exact .shown rfl fits_null
  · rename_i value
    refine .shown rfl ?_
    cases field <;> first | exact absurd rfl textual | rfl
  · rename_i value other _
    refine .misfit ?_
    unfold ContextField.fits
    split <;> simp_all

theorem fits_fact (context : Context) (field : ContextField) :
    field.fits (context.fact field) = true := by
  obtain ⟨_, background, foreground, tag, selector⟩ := context
  cases field with
  | isInteractive => rfl
  | background => cases background <;> rfl
  | foreground => cases foreground <;> rfl
  | tag => cases tag <;> rfl
  | selector => cases selector <;> rfl

/-- Whether a run comes to a result that passes, unless a field has a value of the wrong
kind; the first such field is to blame. -/
def Settles {α : Type} (facts : ContextField → Option Datum) (fields : List ContextField)
    (passes : α → Prop) (run : Except ContextError α) : Prop :=
  (∃ result, run = .ok result ∧ passes result) ∨
    ∃ field, fields.find? (fun field => !field.fits (valueOf facts field)) = some field ∧
      run = .error (.wrongKind field (valueOf facts field).kindName)

theorem Reads.bind {α β : Type} {shows : α → Datum} {facts : ContextField → Option Datum}
    {field : ContextField} {fields : List ContextField} {run : Except ContextError α}
    {next : α → Except ContextError β} {passes : β → Prop}
    (reads : Reads shows field (valueOf facts field) run)
    (settles : ∀ result, shows result = valueOf facts field →
      Settles facts fields passes (next result)) :
    Settles facts (field :: fields) passes (run >>= next) := by
  cases reads with
  | misfit misfit =>
      exact .inr ⟨field, List.find?_cons_of_pos (by simp [misfit]), rfl⟩
  | shown result_eq fits =>
      have skip := List.find?_cons_of_neg (p := fun field => !field.fits (valueOf facts field))
        (a := field) (l := fields) (by simp [fits])
      rcases settles _ result_eq with done | ⟨other, found, failed⟩
      · exact .inl done
      · exact .inr ⟨other, skip.trans found, failed⟩

/-- Facts make the context that holds their values, unless one does not fit. -/
theorem settles_ofFacts (facts : ContextField → Option Datum) :
    Settles facts ContextField.checked
      (fun context => ∀ field, context.fact field = valueOf facts field) (ofFacts facts) := by
  have reads (field : ContextField) (textual : field ≠ .isInteractive)
      (default : fact {} field = .null) :
      Reads (Datum.ofOption Datum.text) field (valueOf facts field)
        (textOf field (facts field)) := by
    rw [valueOf, default]
    exact reads_textOf textual (facts field)
  have interactive : Reads Datum.bool .isInteractive (valueOf facts .isInteractive)
      (truthOf .isInteractive (facts .isInteractive)) := reads_truthOf _
  refine interactive.bind fun _ interactive_eq => ?_
  refine (reads .background (by decide) rfl).bind fun _ background_eq => ?_
  refine (reads .foreground (by decide) rfl).bind fun _ foreground_eq => ?_
  refine (reads .tag (by decide) rfl).bind fun _ tag_eq => ?_
  refine (reads .selector (by decide) rfl).bind fun _ selector_eq => ?_
  refine .inl ⟨_, rfl, fun field => ?_⟩
  cases field with
  | isInteractive => exact interactive_eq
  | background => exact background_eq
  | foreground => exact foreground_eq
  | tag => exact tag_eq
  | selector => exact selector_eq

theorem ofOption_text_inj {first second : Option Text}
    (same : Datum.ofOption Datum.text first = Datum.ofOption Datum.text second) :
    first = second := by
  cases first <;> cases second <;> simp_all [Datum.ofOption]

theorem eq_of_fact {first second : Context}
    (same : ∀ field, first.fact field = second.fact field) : first = second := by
  have interactive : first.isInteractive = second.isInteractive := by
    simpa [fact] using same .isInteractive
  rw [mk.injEq]
  exact ⟨interactive, ofOption_text_inj (same .background), ofOption_text_inj (same .foreground),
    ofOption_text_inj (same .tag), ofOption_text_inj (same .selector)⟩

section Results

variable {facts : ContextField → Option Datum}

theorem find?_misfit_eq_none {context : Context}
    (same : ∀ field, context.fact field = valueOf facts field) (fields : List ContextField) :
    fields.find? (fun field => !field.fits (valueOf facts field)) = none := by
  rw [List.find?_eq_none]
  intro field _
  simp [← same field, fits_fact]

theorem ofFacts_eq_ok_iff {context : Context} :
    ofFacts facts = .ok context ↔ ∀ field, context.fact field = valueOf facts field := by
  rcases settles_ofFacts facts with ⟨result, read, result_eq⟩ | ⟨field, found, failed⟩
  · rw [read, Except.ok.injEq]
    constructor
    · rintro rfl
      exact result_eq
    · exact fun same => eq_of_fact fun field => (result_eq field).trans (same field).symm
  · refine iff_of_false (by simp [failed]) fun same => ?_
    rw [find?_misfit_eq_none same] at found
    cases found

theorem ofFacts_eq_error_iff {error : ContextError} :
    ofFacts facts = .error error ↔
      ∃ field, ContextField.checked.find? (fun field => !field.fits (valueOf facts field)) =
          some field ∧
        error = .wrongKind field (valueOf facts field).kindName := by
  rcases settles_ofFacts facts with ⟨result, read, result_eq⟩ | ⟨field, found, failed⟩
  · refine iff_of_false (by simp [read]) ?_
    rintro ⟨field, found, -⟩
    rw [find?_misfit_eq_none result_eq] at found
    cases found
  · rw [failed, found]
    simp [eq_comm]

end Results

end Facts

theorem ofEntries_eq {entries : List (Scalar × Datum)} (distinct : DistinctKeys entries) :
    ofEntries entries = ofFacts (chosen? entries) := by
  rw [ofEntries, get?_entries distinct]

theorem ofDatum_of_no_object {datum : Datum} (given : datum ≠ .null)
    (none : ∀ entries, datum ≠ .object entries) :
    ofDatum datum = .error (.notObject datum.kindName) := by
  unfold ofDatum
  split
  · exact absurd rfl given
  · exact absurd rfl (none _)
  · rfl

/-- An entry without a say may as well be missing. -/
theorem ofDatum_of_loses {before after : List (Scalar × Datum)} {entry : Scalar × Datum}
    (distinct : DistinctKeys (before ++ entry :: after)) (loses : Loses before after entry) :
    ofDatum (.object (before ++ after)) = ofDatum (.object (before ++ entry :: after)) := by
  have fewer : DistinctKeys (before ++ after) :=
    distinct.sublist ((List.sublist_cons_self entry after).append_left before)
  rw [ofDatum, ofDatum, ofEntries_eq fewer, ofEntries_eq distinct]
  exact congrArg ofFacts (funext fun field => (chosen?_of_loses loses field).symm)

/-- A context is made of nothing or of a mapping.  It holds the chosen values of a mapping
unless one is of the wrong kind, and the first such fact is to blame.  The chosen value is
that of the canonical name wherever it stands, and absent values, unknown names and other
names that come too late or beside the canonical one might as well be missing. -/
theorem ofDatum_resolves {datum : Datum}
    (distinct : ∀ entries, datum = .object entries → DistinctKeys entries) :
    (∀ error, ofDatum datum = .error error ↔
        (datum ≠ .null ∧ (∀ entries, datum ≠ .object entries) ∧
          error = .notObject datum.kindName) ∨
        ∃ entries field, datum = .object entries ∧
          ContextField.checked.find? (fun field => !field.fits (chosen entries field)) =
            some field ∧
          error = .wrongKind field (chosen entries field).kindName) ∧
      (∀ context, ofDatum datum = .ok context ↔
        (datum = .null ∧ context = {}) ∨
        ∃ entries, datum = .object entries ∧
          ∀ field, context.fact field = chosen entries field) ∧
      ∀ entries, datum = .object entries →
        (∀ (field : ContextField) (value : Datum), (.text field.name.toList, value) ∈ entries →
          value ≠ .null → chosen entries field = value) ∧
        ∀ before entry after, entries = before ++ entry :: after → Loses before after entry →
          ofDatum (.object (before ++ after)) = ofDatum datum := by
  refine ⟨fun error => ?_, fun context => ?_, ?_⟩
  · by_cases object : ∃ entries, datum = .object entries
    · obtain ⟨entries, rfl⟩ := object
      rw [ofDatum, ofEntries_eq (distinct entries rfl), ofFacts_eq_error_iff]
      simp [chosen]
    · rw [not_exists] at object
      by_cases absent : datum = .null
      · subst absent
        simp [ofDatum]
      · rw [ofDatum_of_no_object absent object]
        simp [absent, object, eq_comm]
  · by_cases object : ∃ entries, datum = .object entries
    · obtain ⟨entries, rfl⟩ := object
      rw [ofDatum, ofEntries_eq (distinct entries rfl), ofFacts_eq_ok_iff]
      simp [chosen]
    · rw [not_exists] at object
      by_cases absent : datum = .null
      · subst absent
        simp [ofDatum, eq_comm]
      · rw [ofDatum_of_no_object absent object]
        simp [absent, object]
  · rintro entries rfl
    refine ⟨fun field value member given => ?_, ?_⟩
    · refine chosen_of_mem (distinct entries rfl) member ?_
      rwa [← Bool.not_eq_true, Datum.isAbsent_iff]
    · rintro before entry after rfl loses
      exact ofDatum_of_loses (distinct _ rfl) loses

/-- Other names before and after the canonical one, of which the first has a value of the
wrong kind, an absent value and an unknown name. -/
theorem ofDatum_resolves_on_outvoted_names :
    ∃ entries rest : List (Scalar × Datum),
      entries = (.text "background".toList, .int 12) :: rest ∧
      rest = [(.text "theme".toList, .text "dark".toList),
        (.text "default_background".toList, .text "#fff".toList), (.text "tag".toList, .null),
        (.text "background_color".toList, .list []),
        (.text "interactive".toList, .bool true)] ∧
      DistinctKeys entries ∧
      ofDatum (.object entries) = .ok { isInteractive := true, background := some "#fff".toList } ∧
      chosen entries .background = .text "#fff".toList ∧
      ofDatum (.object rest) = ofDatum (.object entries) := by
  let rest : List (Scalar × Datum) :=
    [(.text "theme".toList, .text "dark".toList),
      (.text "default_background".toList, .text "#fff".toList), (.text "tag".toList, .null),
      (.text "background_color".toList, .list []), (.text "interactive".toList, .bool true)]
  have distinct : DistinctKeys ((.text "background".toList, .int 12) :: rest) := by decide
  have mapped : ∀ entries, Datum.object ((.text "background".toList, .int 12) :: rest) =
      .object entries → DistinctKeys entries := by
    rintro _ ⟨⟩
    exact distinct
  obtain ⟨-, returns, mapping⟩ := ofDatum_resolves mapped
  obtain ⟨canonical, idle⟩ := mapping _ rfl
  refine ⟨_, rest, rfl, rfl, distinct, (returns _).mpr (.inr ⟨_, rfl, fun field => ?_⟩),
    canonical .background _ ?_ (by simp), idle [] _ _ rfl ?_⟩
  · cases field <;> rfl
  · exact List.mem_cons_of_mem _ (List.mem_cons_of_mem _ List.mem_cons_self)
  · exact .outvoted (show ContextField.background.isOtherName _ = true from rfl) (.inl ⟨_, rfl⟩)

end Context

end CssAudit
