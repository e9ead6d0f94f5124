import CssAudit.Color.Literal
import CssAudit.Proofs.Color.Alphabet

/-!
# Colors read back from their digits

A channel has two hexadecimal digits, and a color is read back from the number sign and
the digits of its three channels.
-/

namespace CssAudit

namespace Text

theorem hexDigits_two {code : Nat} (small : code < 256) :
    hexDigits 2 code = [Nat.digitChar (code / 16), Nat.digitChar (code % 16)] := by
  by_cases single : code < 16
  · have high : code / 16 = 0 := by omega
    have low : code % 16 = code := by omega
    rw [hexDigits, Nat.toDigits_of_lt_base single, high, low]
    rfl
  · have high : code / 16 < 16 := by omega
    rw [hexDigits, Nat.toDigits_of_base_le (by decide) (by omega), Nat.toDigits_of_lt_base high]
    rfl

theorem hexValue?_digitChar {digit : Nat} (small : digit < 16) :
    hexValue? (Nat.digitChar digit) = some digit := by
  have all : ∀ digit : Fin 16, hexValue? (Nat.digitChar digit.val) = some digit.val := by decide
  exact all ⟨digit, small⟩

theorem toNat_digitChar {digit : Nat} (small : digit < 16) :
    (48 ≤ (Nat.digitChar digit).toNat ∧ (Nat.digitChar digit).toNat ≤ 57) ∨
      (97 ≤ (Nat.digitChar digit).toNat ∧ (Nat.digitChar digit).toNat ≤ 102) := by
  have all : ∀ digit : Fin 16,
      (48 ≤ (Nat.digitChar digit.val).toNat ∧ (Nat.digitChar digit.val).toNat ≤ 57) ∨
        (97 ≤ (Nat.digitChar digit.val).toNat ∧ (Nat.digitChar digit.val).toNat ≤ 102) := by
    decide
  exact all ⟨digit, small⟩

theorem mapM_hexValue?_digitChar {digits : List Nat} (small : ∀ digit ∈ digits, digit < 16) :
    (digits.map Nat.digitChar).mapM hexValue? = some digits := by
  induction digits with
  | nil => rfl
  | cons digit digits ih =>
      obtain ⟨first, others⟩ := List.forall_mem_cons.mp small
      rw [List.map_cons, List.mapM_cons, hexValue?_digitChar first, ih others]
      rfl

theorem lower_trim_eq_self {text : Text} (plain : ∀ c ∈ text,
    0x20 < c.toNat ∧ c.toNat < 0x80 ∧ ¬ (65 ≤ c.toNat ∧ c.toNat ≤ 90)) :
    lower (trim text) = text := by
  have trimmed : trim text = text := trim_eq_self_of_solid fun c member => by
    obtain ⟨low, high, -⟩ := plain c member
    exact isBlank_eq_false low high
  rw [trimmed]
  refine lower_eq_self fun c member => ?_
  obtain ⟨-, high, small⟩ := plain c member
  exact ⟨high, toLower_eq_self small⟩

end Text

namespace Color

/-- The hexadecimal digits of a color. -/
def digits (color : Color) : List Nat :=
  [color.red, color.green, color.blue].flatMap fun channel =>
    [channel.val / 16, channel.val % 16]

theorem hex_eq (color : Color) : color.hex = '#' :: color.digits.map Nat.digitChar := by
  simp [hex, digits, Text.hexDigits_two]

theorem digits_lt {color : Color} : ∀ digit ∈ color.digits, digit < 16 := by
  intro digit member
  obtain ⟨channel, _, within⟩ := List.mem_flatMap.mp member
  have bound := channel.isLt
  rcases List.mem_pair.mp within with rfl | rfl <;> omega

theorem channel_val (value : Fin 256) : channel value.val = .ok value := by
  have bounds : 0 ≤ (value.val : Int) ∧ (value.val : Int) ≤ 255 := by omega
  rw [channel, dif_pos bounds]
  rfl

theorem ofHexDigits?_digits (color : Color) :
    ofHexDigits? color.digits = some { color with opacity := none } := by
  have whole (value : Fin 256) :
      (16 * (value.val / 16 : Nat) + (value.val % 16 : Nat) : Int) = value.val := by omega
  have shape : ofHexDigits? color.digits =
      (ofNumbers (16 * (color.red.val / 16 : Nat) + (color.red.val % 16 : Nat))
        (16 * (color.green.val / 16 : Nat) + (color.green.val % 16 : Nat))
        (16 * (color.blue.val / 16 : Nat) + (color.blue.val % 16 : Nat)) none).toOption := rfl
  rw [shape, whole, whole, whole]
  simp only [ofNumbers, channel_val]
  rfl

theorem toNat_of_mem_hex {color : Color} : ∀ c ∈ color.hex,
    c.toNat = 35 ∨ (48 ≤ c.toNat ∧ c.toNat ≤ 57) ∨ (97 ≤ c.toNat ∧ c.toNat ≤ 102) := by
  intro c member
  rw [hex_eq] at member
  rcases List.mem_cons.mp member with rfl | within
  · exact .inl rfl
  · obtain ⟨digit, digit_mem, rfl⟩ := List.mem_map.mp within
    exact .inr (Text.toNat_digitChar (digits_lt digit digit_mem))

theorem ofName?_eq_none (test : Text → Bool)
    (passed : ("transparent" :: names.map (·.1)).all (fun name => test name.toList) = true)
    {text : Text} (failed : test text = false) : ofName? text = none := by
  rw [List.all_eq_true, List.forall_mem_cons] at passed
  obtain ⟨transparent, named⟩ := passed
  have apart {name : Text} (pass : test name = true) : text ≠ name := by
    rintro rfl
    rw [failed] at pass
    cases pass
  rw [ofName?, if_neg (apart transparent), Option.map_eq_none_iff, List.find?_eq_none]
  intro entry member
  simpa using (apart (named _ (List.mem_map_of_mem member))).symm

theorem ofName?_of_sign (text : Text) : ofName? ('#' :: text) = none :=
  ofName?_eq_none (fun name => name.head? != some '#') (by decide) rfl

/-- A color without opacity is read back from its digits. -/
theorem parse?_hex {color : Color} (solid : color.opacity = none) :
    parse? color.hex = some color := by
  have plain := Text.lower_trim_eq_self fun c member => by
    have codes := @toNat_of_mem_hex color c member
    exact ⟨by omega, by omega, by omega⟩
  have found : ofHex? color.hex = some color := by
    have dropped : Text.dropPrefix? ['#'] ('#' :: color.digits.map Nat.digitChar) =
        some (color.digits.map Nat.digitChar) := by simp [Text.dropPrefix?]
    rw [hex_eq, ofHex?, dropped, Option.getD_some, Text.mapM_hexValue?_digitChar digits_lt,
      Option.bind_some, ofHexDigits?_digits, ← solid]
  rw [parse?, plain, found, hex_eq, ofName?_of_sign]
  rfl

/-- The number sign may be left out. -/
theorem parse?_digits {color : Color} (solid : color.opacity = none) :
    parse? (color.digits.map Nat.digitChar) = some color := by
  have codes : ∀ c ∈ color.digits.map Nat.digitChar,
      (48 ≤ c.toNat ∧ c.toNat ≤ 57) ∨ (97 ≤ c.toNat ∧ c.toNat ≤ 102) := by
    intro c member
    obtain ⟨digit, digit_mem, rfl⟩ := List.mem_map.mp member
    exact Text.toNat_digitChar (digits_lt digit digit_mem)
  have plain := Text.lower_trim_eq_self fun c member => by
    have code := codes c member
    exact ⟨by omega, by omega, by omega⟩
  have unsigned : Text.dropPrefix? ['#'] (color.digits.map Nat.digitChar) = none := by
    rw [Option.eq_none_iff_forall_not_mem]
    intro rest dropped
    have code := codes '#' (by simp [Text.dropPrefix?_eq_some_iff.mp dropped])
    exact absurd code (by decide)
  have read : (color.digits.map Nat.digitChar).mapM Text.hexValue? = some color.digits :=
    Text.mapM_hexValue?_digitChar digits_lt
  have unnamed : ofName? (color.digits.map Nat.digitChar) = none := by
    refine ofName?_eq_none (fun name => name.any fun c => (Text.hexValue? c).isNone) (by decide) ?_
    rw [List.any_eq_false]
    intro c member
    simp [Option.isSome_iff_ne_none.mp (isSome_hexValue?_of_mapM read c member)]
  have found : ofHex? (color.digits.map Nat.digitChar) = some color := by
    rw [ofHex?, unsigned, Option.getD_none, read, Option.bind_some, ofHexDigits?_digits, ← solid]
  rw [parse?, plain, unnamed, found]
  rfl

/-- A literal that begins with the sign of hexadecimal colors has hexadecimal digits
only behind it, and so no parenthesis. -/
theorem parenthesis_not_mem_of_sign {literal : Text} {color : Color}
    (read : parse? literal = some color) (sign : literal.head? = some '#') : '(' ∉ literal := by
  obtain ⟨rest, rfl⟩ := List.head?_eq_some_iff.mp sign
  obtain ⟨kept, trimmed⟩ : ∃ kept, Text.trim ('#' :: rest) = '#' :: kept := by
    have first : Text.trimStart ('#' :: rest) = '#' :: rest := rfl
    rcases List.prefix_cons_iff.mp (Text.trimEnd_prefix ('#' :: rest)) with empty | kept
    · have survives := (Text.mem_trim (show Text.isBlank '#' = false by decide)).mpr
        (List.mem_cons_self (a := '#') (l := rest))
      rw [Text.trim, first, empty] at survives
      exact absurd survives List.not_mem_nil
    · obtain ⟨kept, shape, _⟩ := kept
      exact ⟨kept, by rw [Text.trim, first, shape]⟩
  intro member
  have inside : '(' ∈ Text.lower (Text.trim ('#' :: rest)) :=
    Text.mem_lower_of_mem (by decide) (by decide)
      ((Text.mem_trim (by decide)).mpr member)
  obtain ⟨digits, lowered⟩ : ∃ digits, Text.lower ('#' :: kept) = '#' :: digits := ⟨_, rfl⟩
  rw [trimmed, lowered] at inside
  rw [parse?, trimmed, lowered, ofName?_of_sign] at read
  simp only [Option.none_or, Option.or_eq_some_iff] at read
  rcases read with hex | ⟨_, rgb | ⟨_, hsl⟩⟩
  · obtain ⟨values, values_eq, _⟩ := Option.bind_eq_some_iff.mp hex
    have dropped : Text.dropPrefix? ['#'] ('#' :: digits) = some digits := rfl
    rw [dropped] at values_eq
    rcases List.mem_cons.mp inside with same | within
    · exact absurd same (by decide)
    · exact absurd (isSome_hexValue?_of_mapM values_eq '(' within) (by decide)
  · cases rgb
  · cases hsl

end Color

end CssAudit
