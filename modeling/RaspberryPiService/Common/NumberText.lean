import Mathlib.Algebra.Order.Ring.Abs
import Mathlib.Data.List.TakeWhile
import Mathlib.Data.Rat.Floor
import Mathlib.Tactic.FieldSimp

/-!
# Numbers in texts

The conversions of the C++ library between texts and numbers: `stoi`, `stof` and the
`to_string` of a `float`, in the "C" locale. A conversion from a text skips blanks, takes
the longest number that follows, and does not look at what comes after it; it throws when
there is no number, or one that does not fit.

Floating-point values are exact here, and the format of `float` only decides which of them
are out of range. Too large is what rounds to more than any `float`, too small what is
below the normal numbers and not a subnormal one, before it is rounded.
-/

/-- The exceptions that the conversions throw. -/
inductive ConversionError where
  | invalidArgument
  | outOfRange
deriving DecidableEq

/-- What a `float` may be; the sign of a zero and of a NaN is left out. -/
inductive FloatValue where
  | nan
  | infinity (negative : Bool)
  | finite (value : ℚ)
deriving DecidableEq

namespace NumberText

/-- `isspace`. -/
def isSpace (character : Char) : Bool :=
  character = ' ' || '\t' ≤ character && character ≤ '\r'

/-- Whether there is a minus sign, and what follows the sign. -/
def readSign : List Char → Bool × List Char
  | '-' :: rest => (true, rest)
  | '+' :: rest => (false, rest)
  | rest => (false, rest)

def applySign {Number : Type} [Neg Number] (negative : Bool) (magnitude : Number) : Number :=
  if negative then -magnitude else magnitude

/-- The value of a digit, which is a hexadecimal one if it is a letter. -/
def digitValue (digit : Char) : Nat :=
  if digit.isDigit then digit.toNat - '0'.toNat else digit.toLower.toNat - 'a'.toNat + 10

def digitsValue (base : Nat) (digits : List Char) : Nat :=
  digits.foldl (fun value digit => base * value + digitValue digit) 0

/-- The number that `strtol` reads in base ten. -/
def readInteger (text : List Char) : Option Int :=
  let (negative, rest) := readSign (text.dropWhile isSpace)
  let digits := rest.takeWhile Char.isDigit
  if digits = [] then none else some (applySign negative (digitsValue 10 digits : Int))

def stoi (text : String) : Except ConversionError Int32 :=
  match readInteger text.toList with
  | none => .error .invalidArgument
  | some value =>
      if Int32.minValue.toInt ≤ value ∧ value ≤ Int32.maxValue.toInt then .ok (.ofInt value)
      else .error .outOfRange

/-- Digits, possibly with a point before, among or after them, and the rest of the text. -/
def readMantissa (base : Nat) (isDigit : Char → Bool) (text : List Char) :
    Option (ℚ × List Char) :=
  let whole := text.takeWhile isDigit
  let (fraction, rest) :=
    match text.dropWhile isDigit with
    | '.' :: rest => (rest.takeWhile isDigit, rest.dropWhile isDigit)
    | rest => ([], rest)
  if whole = [] ∧ fraction = [] then none
  else some ((digitsValue base (whole ++ fraction) : ℚ) / (base : ℚ) ^ fraction.length, rest)

/-- The exponent after its marker; without digits it does not belong to the number. -/
def readExponent (marker : Char) : List Char → Int
  | first :: rest =>
      if first.toLower = marker then
        let (negative, rest) := readSign rest
        applySign negative (digitsValue 10 (rest.takeWhile Char.isDigit) : Int)
      else 0
  | [] => 0

/-- The number after `0x`; when there is none, the zero itself is the number. -/
def readHexadecimal : List Char → Option ℚ
  | '0' :: letter :: text =>
      if letter.toLower = 'x' then
        (readMantissa 16 Char.isHexDigit text).map fun (mantissa, rest) =>
          mantissa * 2 ^ readExponent 'p' rest
      else none
  | _ => none

def readDecimal (text : List Char) : Option ℚ :=
  (readMantissa 10 Char.isDigit text).map fun (mantissa, rest) =>
    mantissa * 10 ^ readExponent 'e' rest

/-- The number that `strtof` reads after the sign. -/
def readMagnitude (text : List Char) : Option FloatValue :=
  let lower := text.map Char.toLower
  if ['i', 'n', 'f'].isPrefixOf lower then some (.infinity false)
  else if ['n', 'a', 'n'].isPrefixOf lower then some .nan
  else (readHexadecimal text <|> readDecimal text).map .finite

/-- A conversion of a floating-point number to an integer drops the fraction. -/
def truncate (value : ℚ) : Int :=
  if value < 0 then ⌈value⌉ else ⌊value⌋

/-- Halfway between the largest `float` and the next power of two. -/
def floatLimit : ℚ := 340282356779733661637539395458142568448

/-- The least normal `float`. -/
def floatMinNormal : ℚ := 1 / 2 ^ 126

/-- Every subnormal `float` is a multiple of the least one. -/
def IsSubnormal (magnitude : ℚ) : Prop :=
  (magnitude * 2 ^ 149).isInt

/-- `strtof` does not set `errno`. -/
def InFloatRange (magnitude : ℚ) : Prop :=
  magnitude < floatLimit ∧ (magnitude < floatMinNormal → IsSubnormal magnitude)

instance (magnitude : ℚ) : Decidable (IsSubnormal magnitude) :=
  inferInstanceAs (Decidable (_ = true))

instance (magnitude : ℚ) : Decidable (InFloatRange magnitude) :=
  inferInstanceAs (Decidable (_ ∧ (_ → _)))

def stof (text : String) : Except ConversionError FloatValue :=
  let (negative, rest) := readSign (text.toList.dropWhile isSpace)
  match readMagnitude rest with
  | none => .error .invalidArgument
  | some .nan => .ok .nan
  | some (.infinity _) => .ok (.infinity negative)
  | some (.finite magnitude) =>
      if InFloatRange magnitude then .ok (.finite (applySign negative magnitude))
      else .error .outOfRange

/-- The nearest integer, and of two of them the even one. -/
def roundHalfEven (value : ℚ) : Int :=
  let below := ⌊value⌋
  if value - below < 1 / 2 then below
  else if 1 / 2 < value - below then below + 1
  else if below % 2 = 0 then below
  else below + 1

/-- The digits after the point. -/
def millionthsDigits (millionths : Nat) : List Char :=
  (Nat.toDigits 10 (millionths % 1000000)).leftpad 6 '0'

/-- What `%f` makes of millionths. -/
def millionthsText (millionths : Nat) : List Char :=
  Nat.toDigits 10 (millionths / 1000000) ++ '.' :: millionthsDigits millionths

/-- `std::to_string`. -/
def floatToString (value : ℚ) : String :=
  let millionths := millionthsText (roundHalfEven (|value| * 1000000)).toNat
  String.ofList (if value < 0 then '-' :: millionths else millionths)

/-- The text does not go on with such a character. -/
def Stops (accepts : Char → Bool) (text : List Char) : Prop :=
  ∀ next ∈ text.head?, accepts next = false

section Reading

variable {accepts : Char → Bool} {run rest : List Char}

theorem takeWhile_append_of_stops (accepted : ∀ character ∈ run, accepts character)
    (stops : Stops accepts rest) : (run ++ rest).takeWhile accepts = run := by
  rw [List.takeWhile_append_of_pos accepted]
  cases rest with
  | nil => simp
  | cons next rest => simp [stops next rfl]

theorem dropWhile_append_of_stops (accepted : ∀ character ∈ run, accepts character)
    (stops : Stops accepts rest) : (run ++ rest).dropWhile accepts = rest := by
  rw [List.dropWhile_append_of_pos accepted]
  cases rest with
  | nil => rfl
  | cons next rest => simp [stops next rfl]

theorem isDigit_of_mem_toDigits (number : Nat) :
    ∀ digit ∈ Nat.toDigits 10 number, digit.isDigit :=
  fun _ present => Nat.isDigit_of_mem_toDigits (by decide) (by decide) present

theorem digitsValue_eq_ofDigitChars {digits : List Char}
    (areDigits : ∀ digit ∈ digits, digit.isDigit) :
    digitsValue 10 digits = Nat.ofDigitChars 10 digits 0 := by
  rw [digitsValue, Nat.ofDigitChars_eq_foldl]
  apply List.foldl_ext
  intro value digit present
  rw [digitValue, if_pos (areDigits digit present)]

theorem digitsValue_toDigits (number : Nat) :
    digitsValue 10 (Nat.toDigits 10 number) = number := by
  rw [digitsValue_eq_ofDigitChars (isDigit_of_mem_toDigits number), Nat.ofDigitChars_ten_toDigits]

/-- Digits are neither blanks nor signs. -/
theorem readSign_dropWhile_digits {digits : List Char} (rest : List Char)
    (nonempty : digits ≠ []) (areDigits : ∀ digit ∈ digits, digit.isDigit) :
    readSign ((digits ++ rest).dropWhile isSpace) = (false, digits ++ rest) := by
  rcases digits with - | ⟨digit, digits⟩
  · exact absurd rfl nonempty
  have isDigit := areDigits digit List.mem_cons_self
  have notSpace : isSpace digit = false := by
    by_contra space
    simp [isSpace, Char.isDigit, Char.le_def, Char.ext_iff, UInt32.le_iff_toNat_le,
      UInt32.ext_iff] at space isDigit
    omega
  rw [List.cons_append, List.dropWhile_cons_of_neg (by simp [notSpace]), readSign]
  · rintro _ ⟨⟩
    exact absurd isDigit (by decide)
  · rintro _ ⟨⟩
    exact absurd isDigit (by decide)

/-- A minus sign is not a blank either. -/
theorem readSign_dropWhile_minus :
    readSign (('-' :: rest).dropWhile isSpace) = (true, rest) := by
  rw [List.dropWhile_cons_of_neg (by decide), readSign]

theorem toList_toString_ofNat (magnitude : Nat) :
    (toString (Int.ofNat magnitude)).toList = Nat.toDigits 10 magnitude :=
  Nat.toList_repr

theorem toList_toString_negSucc (magnitude : Nat) :
    (toString (Int.negSucc magnitude)).toList = '-' :: Nat.toDigits 10 (magnitude + 1) := by
  rw [← Nat.toList_repr]
  exact String.toList_append

theorem isDigit_or_minus_of_mem_toString (number : Int) :
    ∀ character ∈ (toString number).toList, character.isDigit ∨ character = '-' := by
  intro character present
  cases number with
  | ofNat magnitude =>
      rw [toList_toString_ofNat] at present
      exact Or.inl (isDigit_of_mem_toDigits magnitude character present)
  | negSucc magnitude =>
      rw [toList_toString_negSucc, List.mem_cons] at present
      rcases present with minus | digit
      · exact Or.inr minus
      · exact Or.inl (isDigit_of_mem_toDigits _ character digit)

/-- The text of a number is read, up to what follows its digits. -/
theorem readInteger_toString (number : Int) (stops : Stops Char.isDigit rest) :
    readInteger ((toString number).toList ++ rest) = some number := by
  have digits := fun magnitude : Nat =>
    takeWhile_append_of_stops (isDigit_of_mem_toDigits magnitude) stops
  cases number with
  | ofNat magnitude =>
      simp only [toList_toString_ofNat, readInteger,
        readSign_dropWhile_digits _ Nat.toDigits_ne_nil (isDigit_of_mem_toDigits _), digits,
        if_neg Nat.toDigits_ne_nil, digitsValue_toDigits]
      rfl
  | negSucc magnitude =>
      simp only [toList_toString_negSucc, readInteger, List.cons_append, readSign_dropWhile_minus,
        digits, if_neg Nat.toDigits_ne_nil, digitsValue_toDigits]
      rfl

end Reading

theorem stoi_eq_ok_iff {text : String} {number : Int32} :
    stoi text = .ok number ↔ readInteger text.toList = some number.toInt := by
  unfold stoi
  split
  · next unread => simp [unread]
  · next value read =>
      rw [read]
      by_cases fits : Int32.minValue.toInt ≤ value ∧ value ≤ Int32.maxValue.toInt
      · have exactly : (Int32.ofInt value).toInt = value :=
          Int32.toInt_ofInt_of_le fits.1 (Int.lt_add_one_of_le fits.2)
        simp only [if_pos fits, Except.ok.injEq, Option.some.injEq, ← Int32.toInt_inj, exactly]
      · simp only [if_neg fits, Option.some.injEq, reduceCtorEq, false_iff]
        rintro rfl
        exact fits ⟨number.minValue_le_toInt, number.toInt_le⟩

theorem truncate_intCast (value : Int) : truncate value = value := by
  simp [truncate]

/-- A quotient of integers is truncated as integer division does. -/
theorem truncate_intCast_div (number : Int) (divisor : Nat) :
    truncate ((number : ℚ) / divisor) = number.tdiv divisor := by
  unfold truncate
  split
  · next negative =>
      have numerator : number < 0 := by
        by_contra nonneg
        have : (0 : ℚ) ≤ number := by exact_mod_cast not_lt.mp nonneg
        exact absurd negative (not_lt.mpr (by positivity))
      rw [← neg_neg ((number : ℚ) / divisor), Int.ceil_neg, ← neg_div, ← Int.cast_neg,
        Rat.floor_intCast_div_natCast, ← Int.tdiv_eq_ediv_of_nonneg (by omega), Int.neg_tdiv,
        neg_neg]
  · next nonneg =>
      rw [Rat.floor_intCast_div_natCast]
      rcases divisor.eq_zero_or_pos with rfl | positive
      · simp
      · have divisorPositive : (0 : ℚ) < divisor := by exact_mod_cast positive
        have numerator : 0 ≤ number := by
          by_contra negative
          have below : (number : ℚ) < 0 := by exact_mod_cast not_le.mp negative
          exact nonneg (div_neg_of_neg_of_pos below divisorPositive)
        rw [Int.tdiv_eq_ediv_of_nonneg numerator]

section Printing

theorem digitsValue_append (base : Nat) (digits more : List Char) :
    digitsValue base (digits ++ more) =
      digitsValue base digits * base ^ more.length + digitsValue base more := by
  have shift : ∀ (more : List Char) (first : Nat),
      more.foldl (fun value digit => base * value + digitValue digit) first =
        first * base ^ more.length + digitsValue base more := by
    intro more
    induction more with
    | nil => simp [digitsValue]
    | cons digit more ih =>
        intro first
        rw [digitsValue, List.foldl_cons, List.foldl_cons, ih, ih (base * 0 + _), List.length_cons]
        ring
  rw [digitsValue, List.foldl_append, shift]
  rfl

theorem digitsValue_replicate_zero (base count : Nat) :
    digitsValue base (List.replicate count '0') = 0 := by
  induction count with
  | zero => rfl
  | succ count ih =>
      rw [List.replicate_succ', digitsValue_append, ih]
      simp [digitsValue, digitValue]

theorem toLower_of_isDigit {digit : Char} (isDigit : digit.isDigit) : digit.toLower = digit := by
  unfold Char.toLower
  apply dif_neg
  rintro ⟨letter, -⟩
  simp [Char.isDigit, UInt32.le_iff_toNat_le] at letter isDigit
  omega

theorem isDigit_of_mem_millionthsDigits {millionths : Nat} :
    ∀ digit ∈ millionthsDigits millionths, digit.isDigit := by
  intro digit present
  rw [millionthsDigits, List.leftpad, List.mem_append] at present
  rcases present with padding | present
  · rw [List.eq_of_mem_replicate padding]
    rfl
  · exact isDigit_of_mem_toDigits _ digit present

theorem isPrintable_of_mem_floatToString {value : ℚ} :
    ∀ character ∈ (floatToString value).toList,
      character.isDigit ∨ character = '.' ∨ character = '-' := by
  have digits : ∀ millionths, ∀ character ∈ millionthsText millionths,
      character.isDigit ∨ character = '.' ∨ character = '-' := by
    intro millionths character present
    rw [millionthsText, List.mem_append, List.mem_cons] at present
    rcases present with whole | point | fraction
    · exact Or.inl (isDigit_of_mem_toDigits _ character whole)
    · exact Or.inr (Or.inl point)
    · exact Or.inl (isDigit_of_mem_millionthsDigits character fraction)
  intro character present
  rw [floatToString, String.toList_ofList] at present
  split at present
  · rcases List.mem_cons.mp present with minus | present
    · exact Or.inr (Or.inr minus)
    · exact digits _ character present
  · exact digits _ character present

theorem length_millionthsDigits (millionths : Nat) : (millionthsDigits millionths).length = 6 := by
  have short : (Nat.toDigits 10 (millionths % 1000000)).length ≤ 6 := by
    rw [Nat.length_toDigits_le_iff (by decide) (by decide)]
    exact Nat.mod_lt _ (by decide)
  rw [millionthsDigits, List.length_leftpad]
  omega

theorem digitsValue_millionthsDigits (millionths : Nat) :
    digitsValue 10 (millionthsDigits millionths) = millionths % 1000000 := by
  rw [millionthsDigits, List.leftpad, digitsValue_append, digitsValue_replicate_zero,
    digitsValue_toDigits]
  simp

theorem readMantissa_millionthsText (millionths : Nat) :
    readMantissa 10 Char.isDigit (millionthsText millionths) =
      some ((millionths : ℚ) / 1000000, []) := by
  have stops : Stops Char.isDigit ('.' :: millionthsDigits millionths) := by
    rintro _ ⟨⟩
    rfl
  have whole := takeWhile_append_of_stops
    (isDigit_of_mem_toDigits (millionths / 1000000)) stops
  have point := dropWhile_append_of_stops
    (isDigit_of_mem_toDigits (millionths / 1000000)) stops
  have fraction : (millionthsDigits millionths).takeWhile Char.isDigit =
      millionthsDigits millionths :=
    List.takeWhile_eq_self_iff.mpr isDigit_of_mem_millionthsDigits
  have rest : (millionthsDigits millionths).dropWhile Char.isDigit = [] :=
    List.dropWhile_eq_nil_iff.mpr isDigit_of_mem_millionthsDigits
  have value : digitsValue 10
      (Nat.toDigits 10 (millionths / 1000000) ++ millionthsDigits millionths) = millionths := by
    rw [digitsValue_append, digitsValue_toDigits, length_millionthsDigits,
      digitsValue_millionthsDigits]
    omega
  simp only [readMantissa, millionthsText, whole, point, fraction, rest, value,
    length_millionthsDigits, Nat.toDigits_ne_nil, false_and, if_false]
  norm_num

/-- Such a text is read as the decimal number that it is. -/
theorem readMagnitude_millionthsText (millionths : Nat) :
    readMagnitude (millionthsText millionths) = some (.finite ((millionths : ℚ) / 1000000)) := by
  have lowered : ∀ character ∈ millionthsText millionths,
      character.toLower ≠ 'i' ∧ character.toLower ≠ 'n' ∧ character.toLower ≠ 'x' := by
    intro character present
    rw [millionthsText, List.mem_append, List.mem_cons] at present
    have digit : character.isDigit →
        character.toLower ≠ 'i' ∧ character.toLower ≠ 'n' ∧ character.toLower ≠ 'x' := by
      intro isDigit
      rw [toLower_of_isDigit isDigit]
      refine ⟨?_, ?_, ?_⟩ <;>
        · rintro rfl
          exact absurd isDigit (by decide)
    rcases present with whole | rfl | fraction
    · exact digit (isDigit_of_mem_toDigits _ character whole)
    · decide
    · exact digit (isDigit_of_mem_millionthsDigits character fraction)
  have notHexadecimal : readHexadecimal (millionthsText millionths) = none := by
    unfold readHexadecimal
    split
    · next letter text same =>
        rw [if_neg (lowered letter (same ▸ by simp)).2.2]
    · rfl
  have decimal : readDecimal (millionthsText millionths) = some ((millionths : ℚ) / 1000000) := by
    simp [readDecimal, readMantissa_millionthsText, readExponent]
  rcases found : millionthsText millionths with - | ⟨first, text⟩
  · exact absurd found (by simp [millionthsText])
  · have differs := lowered first (found ▸ List.mem_cons_self)
    rw [← found, readMagnitude, notHexadecimal, decimal]
    simp [found, List.isPrefixOf, Ne.symm differs.1, Ne.symm differs.2.1]

theorem roundHalfEven_intCast (number : Int) : roundHalfEven number = number := by
  simp [roundHalfEven]

/-- A number of millionths is far from both ends of the range, or zero. -/
theorem inFloatRange_millionths {millionths : Nat} (bounded : millionths < 10 ^ 15) :
    InFloatRange ((millionths : ℚ) / 1000000) := by
  have bounded : (millionths : ℚ) < 10 ^ 15 := by exact_mod_cast bounded
  refine ⟨?_, ?_⟩
  · rw [floatLimit, div_lt_iff₀ (by norm_num)]
    exact bounded.trans (by norm_num)
  · intro small
    rcases Nat.eq_zero_or_pos millionths with rfl | positive
    · simp [IsSubnormal, Rat.isInt]
    · have atLeastOne : (1 : ℚ) ≤ millionths := by exact_mod_cast positive
      rw [floatMinNormal, div_lt_iff₀ (by norm_num)] at small
      exact absurd (atLeastOne.trans_lt small) (by norm_num)

/-- Millionths survive being printed and read. -/
theorem stof_floatToString {millionths : Int} (bounded : millionths.natAbs < 10 ^ 15) :
    stof (floatToString ((millionths : ℚ) / 1000000)) =
      .ok (.finite ((millionths : ℚ) / 1000000)) := by
  have inRange := inFloatRange_millionths bounded
  have magnitude : |(millionths : ℚ) / 1000000| * 1000000 = ((millionths.natAbs : Int) : ℚ) := by
    rw [abs_div, abs_of_pos (by norm_num : (0 : ℚ) < 1000000),
      div_mul_cancel₀ _ (by norm_num), Int.natCast_natAbs, Int.cast_abs]
  have printed : (roundHalfEven (|(millionths : ℚ) / 1000000| * 1000000)).toNat =
      millionths.natAbs := by
    rw [magnitude, roundHalfEven_intCast, Int.toNat_natCast]
  have isNegative : (millionths : ℚ) / 1000000 < 0 ↔ millionths < 0 := by
    rw [div_lt_iff₀ (by norm_num), zero_mul, Int.cast_lt_zero]
  simp only [stof, floatToString, printed, String.toList_ofList, isNegative]
  by_cases negative : millionths < 0
  · have value : (millionths : ℚ) = -(millionths.natAbs : ℚ) := by
      have exactly : millionths = -(millionths.natAbs : Int) := by omega
      exact_mod_cast exactly
    simp only [if_pos negative, readSign_dropWhile_minus, readMagnitude_millionthsText,
      if_pos inRange, applySign, if_true, value, neg_div]
  · have value : (millionths : ℚ) = (millionths.natAbs : ℚ) := by
      rw [Nat.cast_natAbs, abs_of_nonneg (by omega)]
    have sign := readSign_dropWhile_digits ('.' :: millionthsDigits millionths.natAbs)
      Nat.toDigits_ne_nil (isDigit_of_mem_toDigits (millionths.natAbs / 1000000))
    rw [← millionthsText] at sign
    simp only [if_neg negative, sign, readMagnitude_millionthsText, if_pos inRange, applySign,
      Bool.false_eq_true, if_false, value]

end Printing

end NumberText
