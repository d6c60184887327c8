import Mathlib
import SchemaCheck.Json.Parser
import SchemaCheck.Proofs.Decimal.Shortest

/-! Numbers as text. What either layout writes for a double has it as the nearest double, but whole
numbers in messages are read as integers that round to it. -/
namespace SchemaCheck.Json

theorem digitsValue_eq (digits : List Char) : digitsValue digits = Nat.ofDigitChars 10 digits 0 :=
  rfl

theorem digitsValue_decimalDigits (n : Nat) : digitsValue (decimalDigits n) = n :=
  Nat.ofDigitChars_toDigits (by decide) (by decide)

theorem digitsValue_append_zeros (digits : List Char) (count : Nat) :
    digitsValue (digits ++ List.replicate count '0') = digitsValue digits * 10 ^ count := by
  rw [digitsValue_eq, Nat.ofDigitChars_append, Nat.ofDigitChars_replicate_zero, Nat.mul_comm,
    ← digitsValue_eq]

theorem digitsValue_zeros_append (digits : List Char) (count : Nat) :
    digitsValue (List.replicate count '0' ++ digits) = digitsValue digits := by
  rw [digitsValue_eq, Nat.ofDigitChars_append, Nat.ofDigitChars_replicate_zero, Nat.mul_zero,
    ← digitsValue_eq]

/-- Decimal digits and nothing else. -/
abbrev Digits (cs : List Char) : Prop := ∀ c ∈ cs, c.isDigit = true

private theorem Digits.value_lt {digits : List Char} (all : Digits digits) :
    digitsValue digits < 10 ^ digits.length := by
  induction digits using List.reverseRecOn with
  | nil => decide
  | append_singleton digits last ih =>
    have digit : last.toNat - '0'.toNat < 10 := by
      have range : 48 ≤ last.toNat ∧ last.toNat ≤ 57 :=
        Char.isDigit_iff_toNat.mp (all last (by simp))
      rw [show '0'.toNat = 48 from rfl]
      omega
    have before := ih fun c member => all c (by simp [member])
    rw [digitsValue_eq, Nat.ofDigitChars_append, Nat.ofDigitChars_cons, Nat.ofDigitChars_nil,
      ← digitsValue_eq, List.length_append, List.length_singleton, Nat.pow_succ]
    omega

theorem Digits.not_mem {cs : List Char} (all : Digits cs) {c : Char} (other : c.isDigit = false) :
    c ∉ cs := fun member => Bool.false_ne_true (other.symm.trans (all c member))

theorem digits_decimalDigits (n : Nat) : Digits (decimalDigits n) := fun _ member =>
  Nat.isDigit_of_mem_toDigits (by decide) (by decide) member

theorem decimalDigits_ne_nil (n : Nat) : decimalDigits n ≠ [] := Nat.toDigits_ne_nil

theorem head?_decimalDigits {n : Nat} (positive : 0 < n) : (decimalDigits n).head? ≠ some '0' := by
  induction n using Nat.strongRecOn with
  | ind n ih =>
    rw [decimalDigits]
    rcases Nat.lt_or_ge n 10 with single | more
    · rw [Nat.toDigits_of_lt_base single]
      interval_cases n <;> decide
    · rw [Nat.toDigits_of_base_le (by decide) more,
        List.head?_append_of_ne_nil _ Nat.toDigits_ne_nil]
      exact ih (n / 10) (by omega) (by omega)

theorem length_decimalDigits (n : Nat) : (decimalDigits n).length = digitCount n := by
  fun_induction digitCount n with
  | case1 n single => rw [decimalDigits, Nat.toDigits_of_lt_base single, List.length_singleton]
  | case2 n more ih =>
    rw [decimalDigits, Nat.toDigits_of_base_le (by decide) (not_lt.mp more), List.length_append,
      ← decimalDigits, ih, List.length_singleton]

theorem getLast?_decimalDigits {n : Nat} (whole : n % 10 ≠ 0) :
    (decimalDigits n).getLast? ≠ some '0' := by
  have digits : ∀ digit < 10, digit ≠ 0 → Nat.digitChar digit ≠ '0' := by decide
  have last := digits (n % 10) (Nat.mod_lt n (by decide)) whole
  rw [decimalDigits]
  rcases Nat.lt_or_ge n 10 with single | more
  · rw [Nat.mod_eq_of_lt single] at last
    simpa [Nat.toDigits_of_lt_base single] using last
  · simpa [Nat.toDigits_of_base_le (by decide) more] using last

/-- No digit follows. -/
abbrev EndsDigits (rest : List Char) : Prop := ∀ c ∈ rest.head?, c.isDigit = false

theorem span_digits {digits rest : List Char} (all : Digits digits) (ends : EndsDigits rest) :
    (digits ++ rest).span Char.isDigit = (digits, rest) := by
  have none : rest.takeWhile Char.isDigit = [] ∧ rest.dropWhile Char.isDigit = rest := by
    cases rest with
    | nil => exact ⟨rfl, rfl⟩
    | cons c rest => simp [ends c rfl]
  rw [List.span_eq_takeWhile_dropWhile, List.takeWhile_append_of_pos all,
    List.dropWhile_append_of_pos all, none.1, none.2, List.append_nil]

/-- Nothing that a number could go on with. -/
abbrev EndsNumber (rest : List Char) : Prop :=
  ∀ c ∈ rest.head?, c.isDigit = false ∧ c ≠ '.' ∧ c ≠ 'e' ∧ c ≠ 'E'

/-- No point without digits after it. -/
def pointText : List Char → List Char
  | [] => []
  | digits => '.' :: digits

/-- A power of ten always has its sign. -/
def powerText : Option Int → List Char
  | none => []
  | some power => (if power < 0 then ['e', '-'] else ['e', '+']) ++ decimalDigits power.natAbs

theorem pointText_of_ne_nil {digits : List Char} (nonempty : digits ≠ []) :
    pointText digits = '.' :: digits := by
  cases digits with
  | nil => exact absurd rfl nonempty
  | cons first rest => rfl

theorem not_mem_powerText {c : Char} (other : c.isDigit = false) (unmarked : c ∉ ['e', '-', '+'])
    (power : Option Int) : c ∉ powerText power := by
  simp only [List.mem_cons, not_or] at unmarked
  obtain ⟨mark, minus, plus, _⟩ := unmarked
  cases power with
  | none => exact List.not_mem_nil
  | some power =>
    rw [powerText, List.mem_append, not_or]
    refine ⟨?_, (digits_decimalDigits power.natAbs).not_mem other⟩
    split <;> simp [mark, minus, plus]

/-- A number in digits, without its sign. -/
structure Numeral where
  whole : List Char
  fraction : List Char
  power : Option Int
  digits : Digits whole ∧ Digits fraction
  nonempty : whole ≠ []
  leading : whole.head? = some '0' → whole.length = 1

def signText (negative : Bool) : List Char := if negative then ['-'] else []

namespace Numeral

def text (n : Numeral) : List Char := n.whole ++ pointText n.fraction ++ powerText n.power

def size (n : Numeral) : ℚ :=
  digitsValue (n.whole ++ n.fraction) * 10 ^ (n.power.getD 0 - n.fraction.length)

private theorem fraction?_pointText {fraction rest : List Char} (all : Digits fraction)
    (ends : ∀ c ∈ rest.head?, c.isDigit = false ∧ c ≠ '.') :
    fraction? (pointText fraction ++ rest) = some (fraction, rest) := by
  cases fraction with
  | nil =>
    rw [pointText, List.nil_append]
    unfold fraction?
    split
    next => exact absurd rfl (ends '.' rfl).2
    next => rfl
  | cons first more =>
    rw [pointText, List.cons_append, fraction?, span_digits all fun c head => (ends c head).1]
    · rfl
    · simp

private theorem exponent?_powerText (power : Option Int) {rest : List Char}
    (ends : EndsNumber rest) :
    exponent? (powerText power ++ rest) = some (power, rest) := by
  cases power with
  | none =>
    rw [powerText, List.nil_append]
    cases rest with
    | nil => rfl
    | cons c rest =>
      obtain ⟨_, _, lower, upper⟩ := ends c rfl
      simp [exponent?, lower, upper]
  | some power =>
    have all := span_digits (digits_decimalDigits power.natAbs) fun c head => (ends c head).1
    have nonempty : (decimalDigits power.natAbs).isEmpty = false :=
      List.isEmpty_eq_false_iff.mpr (decimalDigits_ne_nil _)
    rw [powerText]
    split
    next negative =>
      simp only [List.cons_append, List.nil_append, exponent?, all, nonempty,
        digitsValue_decimalDigits]
      simp [Int.ofNat_natAbs_of_nonpos negative.le]
    next positive =>
      simp only [List.cons_append, List.nil_append, exponent?, all, nonempty,
        digitsValue_decimalDigits]
      simp [Int.natAbs_of_nonneg (not_lt.mp positive)]

theorem head?_powerText (power : Option Int) {rest : List Char} (ends : EndsNumber rest) :
    ∀ c ∈ (powerText power ++ rest).head?, c.isDigit = false ∧ c ≠ '.' := by
  intro c head
  cases power with
  | none => exact ⟨(ends c head).1, (ends c head).2.1⟩
  | some power =>
    obtain rfl : 'e' = c := by
      rw [powerText] at head
      split at head <;> exact Option.some_inj.mp head
    decide

private theorem head?_pointText (fraction : List Char) {rest : List Char}
    (ends : ∀ c ∈ rest.head?, c.isDigit = false ∧ c ≠ '.') :
    EndsDigits (pointText fraction ++ rest) := by
  intro c head
  cases fraction with
  | nil => exact (ends c head).1
  | cons first more =>
    obtain rfl : '.' = c := Option.some_inj.mp head
    decide

theorem number?_text (n : Numeral) (double? : DoubleReader) (negative : Bool) {rest : List Char}
    (ends : EndsNumber rest) :
    number? double? (signText negative ++ n.text ++ rest) =
      (literalNumber? double? negative n.whole n.fraction n.power).map (·, rest) := by
  have exponent := exponent?_powerText n.power ends
  have fraction := fraction?_pointText n.digits.2 (head?_powerText n.power ends)
  have whole := span_digits n.digits.1 (head?_pointText n.fraction (head?_powerText n.power ends))
  have proper :
      (n.whole.isEmpty || (n.whole.head? == some '0' && n.whole.length != 1)) = false := by
    simpa [n.nonempty] using n.leading
  rw [text, List.append_assoc, List.append_assoc, List.append_assoc]
  cases negative with
  | true =>
    simp only [signText, if_pos, List.singleton_append, number?, whole, proper, fraction,
      Option.bind_eq_bind, Option.bind_some, exponent]
    cases literalNumber? double? true n.whole n.fraction n.power <;> rfl
  | false =>
    rw [signText, if_neg Bool.false_ne_true, List.nil_append, number?]
    · simp only [whole, proper, fraction, Option.bind_eq_bind, Option.bind_some, exponent]
      cases literalNumber? double? false n.whole n.fraction n.power <;> rfl
    · intro more signed
      obtain ⟨first, digits, starts⟩ := List.exists_cons_of_ne_nil n.nonempty
      rw [starts, List.cons_append, List.cons.injEq] at signed
      have digit := n.digits.1 first (starts ▸ List.mem_cons_self)
      rw [signed.1] at digit
      exact absurd digit (by decide)

end Numeral

/-- The text is read as the number, whatever follows it. -/
def ReadsAsNumber (double? : DoubleReader) (text : List Char) (number : Number) : Prop :=
  ∀ rest, EndsNumber rest → number? double? (text ++ rest) = some (number, rest)

/-- Takes a numeral for the double nearest to its value. -/
def nearestDouble? : DoubleReader := fun negative whole fraction power =>
  Binary64.ofDecimal? negative (digitsValue (whole ++ fraction)) (whole.length + fraction.length)
    (power - fraction.length)

theorem Numeral.digits_lt (n : Numeral) :
    digitsValue (n.whole ++ n.fraction) < 10 ^ (n.whole.length + n.fraction.length) := by
  have all : Digits (n.whole ++ n.fraction) := fun c member =>
    (List.mem_append.mp member).elim (n.digits.1 c) (n.digits.2 c)
  rw [← List.length_append]
  exact all.value_lt

/-- Without a fraction and a power. -/
abbrev Numeral.IsWhole (n : Numeral) : Prop := n.fraction = [] ∧ n.power = none

theorem Numeral.size_of_isWhole {n : Numeral} (shape : n.IsWhole) :
    n.size = digitsValue n.whole := by
  obtain ⟨fraction, power⟩ := shape
  rw [size, fraction, power]
  simp

/-- A numeral whose size a double covers is read as the double, but a whole number that fits 64
bits as itself. -/
theorem Numeral.reads_covered (n : Numeral) {x : Binary64} (nonzero : x.isZero = false)
    (covers : x.Covers (n.size * 2 ^ unitBits)) :
    ∃ number, ReadsAsNumber nearestDouble? (signText x.negative ++ n.text) number ∧
      (number = .double x ∨
        n.IsWhole ∧ ∃ whole fits, number = .integer whole fits ∧ x.Nearest whole) := by
  have double : nearestDouble? x.negative n.whole n.fraction (n.power.getD 0) = some x :=
    Binary64.ofDecimal?_eq_some nonzero n.digits_lt covers
  have read {number : Number}
      (literal : literalNumber? nearestDouble? x.negative n.whole n.fraction n.power =
        some number) :
      ReadsAsNumber nearestDouble? (signText x.negative ++ n.text) number := fun rest ends => by
    rw [n.number?_text _ x.negative ends, literal, Option.map_some]
  have value :
      literalNumber? nearestDouble? x.negative n.whole n.fraction n.power = some (.double x) ∨
        n.IsWhole ∧ ∃ whole fits,
          literalNumber? nearestDouble? x.negative n.whole n.fraction n.power =
            some (.integer whole fits) ∧ x.Nearest whole := by
    simp only [literalNumber?, double, Option.map_some]
    generalize signed : (if x.negative = true then -(digitsValue n.whole : ℤ)
      else digitsValue n.whole) = whole
    split
    next shape =>
      have shape : n.IsWhole := by
        simp only [Bool.and_eq_true, List.isEmpty_iff, Option.isNone_iff_eq_none] at shape
        exact shape.1
      split
      next fits =>
        rw [n.size_of_isWhole shape] at covers
        have nearest := covers.nearest (Nat.cast_nonneg _)
        refine .inr ⟨shape, whole, fits, rfl, ?_⟩
        rw [← signed]
        push_cast
        exact nearest
      next => exact .inl rfl
    next => exact .inl rfl
  rcases value with double | ⟨shape, whole, fits, integer, nearest⟩
  · exact ⟨_, read double, .inl rfl⟩
  · exact ⟨_, read integer, .inr ⟨shape, whole, fits, rfl, nearest⟩⟩

def Numeral.ofNat (n : Nat) : Numeral where
  whole := decimalDigits n
  fraction := []
  power := none
  digits := ⟨digits_decimalDigits n, List.forall_mem_nil _⟩
  nonempty := decimalDigits_ne_nil n
  leading := by
    intro zero
    rcases n.eq_zero_or_pos with rfl | positive
    · rfl
    · exact absurd zero (head?_decimalDigits positive)

theorem toList_toString (whole : Int) :
    (toString whole).toList = signText (whole < 0) ++ (Numeral.ofNat whole.natAbs).text := by
  have digits : (Numeral.ofNat whole.natAbs).text = (Nat.repr whole.natAbs).toList := by
    rw [Nat.repr_eq_ofList_toDigits, String.toList_ofList]
    exact (List.append_nil _).trans (List.append_nil _)
  rw [Int.toString_eq_repr, Int.repr_eq_if, digits]
  split
  next positive =>
    rw [signText, if_neg (by simpa using positive), show whole.toNat = whole.natAbs by omega]
    rfl
  next negative =>
    rw [signText, if_pos (by simpa using negative), String.toList_append,
      show (-whole).toNat = whole.natAbs by omega]
    rfl

theorem readsAsNumber_integer (double? : DoubleReader) (whole : Int) (fits : Number.Fits whole) :
    ReadsAsNumber double? (toString whole).toList (.integer whole fits) := by
  intro rest ends
  have digits : digitsValue (Numeral.ofNat whole.natAbs).whole = whole.natAbs :=
    digitsValue_decimalDigits _
  rw [toList_toString, Numeral.number?_text _ _ _ ends]
  have signed :
      (if decide (whole < 0) = true then -(whole.natAbs : ℤ) else whole.natAbs) = whole := by
    simp only [decide_eq_true_eq]
    split <;> omega
  have zero : (decide (whole < 0) && whole.natAbs == 0) = false := by
    rw [Bool.and_eq_false_iff, decide_eq_false_iff_not, beq_eq_false_iff_ne]
    omega
  change Option.map _ (literalNumber? _ _ _ [] none) = _
  simp only [literalNumber?, digits, signed, dif_pos fits]
  rw [if_pos (by rw [zero]; rfl)]
  rfl

theorem Digits.append_zeros {cs : List Char} (digits : Digits cs) (count : Nat) :
    Digits (cs ++ List.replicate count '0') := fun c member => by
  rcases List.mem_append.mp member with digit | zero
  · exact digits c digit
  · rw [List.eq_of_mem_replicate zero]
    decide

private theorem Digits.zeros_append {cs : List Char} (digits : Digits cs) (count : Nat) :
    Digits (List.replicate count '0' ++ cs) := fun c member =>
  digits.append_zeros count c (List.mem_append.mpr (List.mem_append.mp member).symm)

namespace Numeral

/-- What a layout settles about the numeral of some digits: its power, one digit before the point
if there is a power, and no zero behind the point but for the suffix of whole numbers. -/
structure LaidOut (n : Numeral) (suffix : String) (cs : List Char) (power : Option Int) : Prop where
  power_eq : n.power = power
  whole_eq (raised : power.isSome) : n.whole = cs.take 1
  trimmed (plain : suffix = "") (last : cs.getLast? ≠ some '0') : n.fraction.getLast? ≠ some '0'
  padded (pointed : suffix = ".0") : ¬ n.IsWhole

section Laid

variable {cs : List Char}

/-- Zeros between the point and the digits. -/
private theorem exists_below (digits : Digits cs) (nonempty : cs ≠ []) (suffix : String)
    (zeros : Nat) :
    ∃ n : Numeral, n.text = '0' :: '.' :: (List.replicate zeros '0' ++ cs) ∧
      n.size = digitsValue cs * 10 ^ (-(zeros + cs.length) : ℤ) ∧ n.LaidOut suffix cs none := by
  let n : Numeral :=
    { whole := ['0']
      fraction := List.replicate zeros '0' ++ cs
      power := none
      digits := ⟨List.forall_mem_singleton.mpr rfl, digits.zeros_append zeros⟩
      nonempty := by simp
      leading := fun _ => rfl }
  have fraction : n.fraction ≠ [] := by simp [n, nonempty]
  have last : n.fraction.getLast? = cs.getLast? := List.getLast?_append_of_ne_nil _ nonempty
  refine ⟨n, ?_, ?_, rfl, nofun, fun _ => last.trans_ne, fun _ shape => fraction shape.1⟩
  · rw [text, pointText_of_ne_nil fraction]
    exact List.append_nil _
  · have value : digitsValue (n.whole ++ n.fraction) = digitsValue cs := by
      have padded : n.whole ++ n.fraction =
          List.replicate 1 '0' ++ (List.replicate zeros '0' ++ cs) := rfl
      rw [padded, digitsValue_zeros_append, digitsValue_zeros_append]
    rw [size, value]
    simp [n]

/-- Zeros after the digits, and the point after both or nowhere. -/
private theorem exists_padded (digits : Digits cs) (nonempty : cs ≠ [])
    (leading : cs.head? ≠ some '0')
    {suffix : String} (suffixes : suffix = "" ∨ suffix = ".0") (zeros : Nat) :
    ∃ n : Numeral, n.text = cs ++ List.replicate zeros '0' ++ suffix.toList ∧
      n.size = digitsValue cs * 10 ^ (zeros : ℤ) ∧ n.LaidOut suffix cs none := by
  let n (places : Nat) : Numeral :=
    { whole := cs ++ List.replicate zeros '0'
      fraction := List.replicate places '0'
      power := none
      digits := ⟨digits.append_zeros zeros, Digits.append_zeros (List.forall_mem_nil _) places⟩
      nonempty := List.append_ne_nil_of_left_ne_nil nonempty _
      leading := by
        rw [List.head?_append_of_ne_nil _ nonempty]
        exact (absurd · leading) }
  have sizes (places : Nat) : (n places).size = digitsValue cs * 10 ^ (zeros : ℤ) := by
    have value : digitsValue ((n places).whole ++ (n places).fraction) =
        digitsValue cs * 10 ^ zeros * 10 ^ places := by
      rw [digitsValue_append_zeros, digitsValue_append_zeros]
    have length : (n places).fraction.length = places := List.length_replicate
    rw [size, value, length]
    simp [n, mul_assoc]
  rcases suffixes with rfl | rfl
  · exact ⟨n 0, by simp [n, text, pointText, powerText], sizes 0, rfl, nofun, by simp [n], by simp⟩
  · exact ⟨n 1, by simp [n, text, pointText, powerText], sizes 1, rfl, nofun, by simp, by simp [n]⟩

/-- The point between the digits. -/
private theorem exists_pointed (digits : Digits cs) (leading : cs.head? ≠ some '0')
    (suffix : String)
    {places : Nat} (some : 0 < places) (more : places < cs.length) :
    ∃ n : Numeral, n.text = cs.take places ++ '.' :: cs.drop places ∧
      n.size = digitsValue cs * 10 ^ (places - cs.length : ℤ) ∧ n.LaidOut suffix cs none := by
  have fraction : cs.drop places ≠ [] := mt List.drop_eq_nil_iff.mp (not_le.mpr more)
  have head : (cs.take places).head? = cs.head? := by
    rw [List.head?_take, if_neg some.ne']
  have last : (cs.drop places).getLast? = cs.getLast? := by
    rw [List.getLast?_drop, if_neg (not_le.mpr more)]
  refine ⟨⟨cs.take places, cs.drop places, none,
    ⟨fun c member => digits c (List.mem_of_mem_take member),
      fun c member => digits c (List.mem_of_mem_drop member)⟩, ?_, ?_⟩,
    ?_, ?_, rfl, nofun, fun _ => last.trans_ne, fun _ shape => fraction shape.1⟩
  · rw [← List.length_pos_iff, List.length_take]
    omega
  · rw [head]
    exact (absurd · leading)
  · rw [text, pointText_of_ne_nil fraction]
    exact List.append_nil _
  · rw [size, List.take_append_drop, List.length_drop, Nat.cast_sub more.le]
    simp

/-- The point after the first digit. -/
private theorem exists_scientific (digits : Digits cs) (nonempty : cs ≠ []) (suffix : String)
    (power : Int) :
    ∃ n : Numeral, n.text = NumberLayout.scientific "e+" cs power ∧
      n.size = digitsValue cs * 10 ^ (power - cs.length + 1) ∧
      n.LaidOut suffix cs (some power) := by
  cases cs with
  | nil => exact absurd rfl nonempty
  | cons first rest =>
    refine ⟨⟨[first], rest, some power, ⟨?_, ?_⟩, List.cons_ne_nil _ _, fun _ => rfl⟩, ?_, ?_,
      rfl, fun _ => rfl, fun _ last => ?_, fun _ => ?_⟩
    · exact List.forall_mem_singleton.mpr (digits first List.mem_cons_self)
    · exact fun c member => digits c (List.mem_cons_of_mem _ member)
    · cases rest <;> simp [text, pointText, powerText, NumberLayout.scientific]
    · rw [size]
      simp only [List.singleton_append, Option.getD_some, List.length_cons]
      congr 2
      omega
    · cases rest with
      | nil => exact nofun
      | cons second others => rwa [List.getLast?_cons_cons] at last
    · simp

end Laid

end Numeral

end SchemaCheck.Json

namespace SchemaCheck.NumberLayout

open Json

/-- The power is written with its sign, and whole numbers as such or with a zero after the
point. -/
structure Readable (layout : NumberLayout) : Prop where
  plus : layout.plusExponent = "e+"
  suffix : layout.wholeSuffix = "" ∨ layout.wholeSuffix = ".0"

private theorem exists_positional {suffix : String} (suffixes : suffix = "" ∨ suffix = ".0")
    {coefficient : Nat} (positive : 0 < coefficient) (exponent : Int) :
    ∃ n : Numeral,
      n.text = positional suffix (decimalDigits coefficient)
        (exponent + (decimalDigits coefficient).length) ∧
      n.size = coefficient * 10 ^ exponent ∧
      n.LaidOut suffix (decimalDigits coefficient) none := by
  have digits := digits_decimalDigits coefficient
  have value := digitsValue_decimalDigits coefficient
  have nonempty := decimalDigits_ne_nil coefficient
  have leading := head?_decimalDigits positive
  generalize decimalDigits coefficient = cs at *
  have length := List.length_pos_iff.mpr nonempty
  simp only [positional]
  split
  next small =>
    obtain ⟨n, text, size, laidOut⟩ :=
      Numeral.exists_below digits nonempty suffix (exponent + cs.length).natAbs
    refine ⟨n, text, ?_, laidOut⟩
    rw [size, value]
    congr 2
    omega
  next large =>
    split
    next padded =>
      obtain ⟨n, text, size, laidOut⟩ :=
        Numeral.exists_padded digits nonempty leading suffixes
          ((exponent + cs.length).toNat - cs.length)
      refine ⟨n, text, ?_, laidOut⟩
      rw [size, value]
      congr 2
      omega
    next pointed =>
      have some : 0 < (exponent + cs.length).toNat := by omega
      obtain ⟨n, text, size, laidOut⟩ :=
        Numeral.exists_pointed digits leading suffix some (not_le.mp pointed)
      refine ⟨n, text, ?_, laidOut⟩
      rw [size, value]
      congr 2
      omega

/-- The power of ten that is written for a decimal. -/
def power? (layout : NumberLayout) (d : Decimal) : Option Int :=
  let power := d.exponent + (decimalDigits d.coefficient).length - 1
  if layout.positionalFrom ≤ power ∧ power < layout.positionalBelow then none else some power

theorem exists_numeral {layout : NumberLayout} (readable : layout.Readable) {x : Binary64}
    (nonzero : x.isZero = false) :
    ∃ n : Numeral, (layout.render x).toList = signText x.negative ++ n.text ∧
      n.size = (x.shortest layout.tie).value ∧
      n.LaidOut layout.wholeSuffix (decimalDigits (x.shortest layout.tie).coefficient)
        (layout.power? (x.shortest layout.tie)) := by
  obtain ⟨positive, _⟩ := Binary64.covers_shortest nonzero layout.tie
  simp only [render, nonzero, Decimal.value, readable.plus]
  generalize x.shortest layout.tie = d at *
  generalize place : d.exponent + (decimalDigits d.coefficient).length - 1 = power
  have body : ∃ n : Numeral,
      n.text = (if layout.positionalFrom ≤ power ∧ power < layout.positionalBelow then
          positional layout.wholeSuffix (decimalDigits d.coefficient) (power + 1)
        else scientific "e+" (decimalDigits d.coefficient) power) ∧
      n.size = d.coefficient * 10 ^ d.exponent ∧
      n.LaidOut layout.wholeSuffix (decimalDigits d.coefficient) (layout.power? d) := by
    simp only [power?, place]
    split
    next =>
      rw [← place, sub_add_cancel]
      exact exists_positional readable.suffix positive d.exponent
    next =>
      obtain ⟨n, text, size, laidOut⟩ := Numeral.exists_scientific
        (digits_decimalDigits d.coefficient) (decimalDigits_ne_nil d.coefficient)
        layout.wholeSuffix power
      refine ⟨n, text, ?_, laidOut⟩
      rw [size, digitsValue_decimalDigits]
      congr 2
      omega
  obtain ⟨n, text, size, laidOut⟩ := body
  refine ⟨n, ?_, size, laidOut⟩
  rw [← text, if_neg Bool.false_ne_true, String.toList_ofList, signText]
  split <;> rfl

/-- What is written for a double is read as the double, or a whole number as itself. -/
theorem exists_readsAsNumber {layout : NumberLayout} (readable : layout.Readable) {x : Binary64}
    (nonzero : x.isZero = false) :
    ∃ number, ReadsAsNumber nearestDouble? (layout.render x).toList number ∧
      (number = .double x ∨ layout.wholeSuffix ≠ ".0" ∧
        ∃ whole fits, number = .integer whole fits ∧ x.Nearest whole) := by
  obtain ⟨n, text, size, laidOut⟩ := exists_numeral readable nonzero
  have covers := (Binary64.covers_shortest nonzero layout.tie).2
  rw [← size] at covers
  obtain ⟨number, reads, kept⟩ := n.reads_covered nonzero covers
  rw [text]
  exact ⟨number, reads,
    kept.imp_right fun ⟨isWhole, integer⟩ => ⟨(laidOut.padded · isWhole), integer⟩⟩

theorem zero_of_isZero {x : Binary64} (zero : x.isZero = true) :
    x = { Binary64.zero with negative := x.negative } := by
  have coefficient : x.coefficient = 0 := beq_iff_eq.mp zero
  refine Binary64.eq_of_magnitude rfl ?_
  rw [Binary64.magnitude_eq, coefficient, Nat.zero_mul]
  rfl

theorem readsAsNumber_json (x : Binary64) :
    ReadsAsNumber nearestDouble? (json.render x).toList (.double x) := by
  cases zero : x.isZero with
  | true =>
    let n : Numeral :=
      { whole := ['0']
        fraction := ['0']
        power := none
        digits := ⟨List.forall_mem_singleton.mpr rfl, List.forall_mem_singleton.mpr rfl⟩
        nonempty := List.cons_ne_nil _ _
        leading := fun _ => rfl }
    intro rest ends
    have text : (json.render x).toList = signText x.negative ++ n.text := by
      rw [render, zero, if_pos rfl]
      cases x.negative <;> simp [n, Numeral.text, pointText, powerText, signText, json]
    rw [text, n.number?_text _ x.negative ends, zero_of_isZero zero]
    cases x.negative <;> rfl
  | false =>
    have readable : json.Readable := ⟨rfl, .inr rfl⟩
    obtain ⟨number, reads, rfl | ⟨padded, _⟩⟩ := exists_readsAsNumber readable zero
    · exact reads
    · exact absurd rfl padded

/-- Messages keep whole numbers short, at the price of a digit. -/
theorem readsAsNumber_message (x : Binary64) :
    ∃ number, ReadsAsNumber nearestDouble? (message.render x).toList number ∧
      (number = .double x ∨ ∃ whole fits, number = .integer whole fits ∧ x.Nearest whole) := by
  cases zero : x.isZero with
  | true =>
    have text : message.render x = toString (0 : Int) := by
      rw [render, zero]
      cases x.negative <;> rfl
    have value : x.value = (0 : ℤ) := by
      rw [Binary64.value_eq_intCast_iff, zero_of_isZero zero, zero_mul]
      cases x.negative <;> rfl
    rw [text]
    exact ⟨_, readsAsNumber_integer _ 0 (by decide), .inr ⟨0, _, rfl, value ▸ x.nearest_self⟩⟩
  | false =>
    have readable : message.Readable := ⟨rfl, .inl rfl⟩
    obtain ⟨number, reads, kept⟩ := exists_readsAsNumber readable zero
    exact ⟨number, reads, kept.imp_right And.right⟩

end SchemaCheck.NumberLayout
