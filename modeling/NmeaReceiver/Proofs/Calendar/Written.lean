import NmeaReceiver.Calendar.Instant
import NmeaReceiver.Proofs.Sentence.Slots

/-! Numbers written out: a number filled up to a width is the run of digits of that width that has its
value. Of a year there are four digits at least, and a sign if those do not do. -/
namespace NmeaReceiver.Sentence
open NmeaReceiver.Decimal NmeaReceiver.Text

theorem digitsValueCons (c : Char) (digits : List Char) :
    digitsValue (c :: digits) = (c.toNat - 48) * tenTo digits.length + digitsValue digits := by
  have split := digitsValueAppend [c] digits
  simpa [digitsValue] using split

theorem digitBounds {c : Char} (digit : c.isDigit = true) : 48 ≤ c.toNat ∧ c.toNat ≤ 57 := by
  simp only [Char.isDigit, Bool.and_eq_true, decide_eq_true_eq] at digit
  exact digit

theorem digitsBound {digits : List Char} (all : ∀ c ∈ digits, c.isDigit = true) :
    digitsValue digits < tenTo digits.length := by
  induction digits with
  | nil => exact Nat.one_pos
  | cons c digits ih =>
    have first := digitBounds (all c List.mem_cons_self)
    have rest := ih fun other member => all other (List.mem_cons_of_mem _ member)
    have scaled := Nat.mul_le_mul_right (tenTo digits.length) (show c.toNat - 48 ≤ 9 by omega)
    rw [digitsValueCons, List.length_cons, tenToSucc]
    omega

theorem digitsInj {digits others : List Char} (same : digits.length = others.length)
    (all : ∀ c ∈ digits, c.isDigit = true) (alike : ∀ c ∈ others, c.isDigit = true)
    (value : digitsValue digits = digitsValue others) : digits = others := by
  induction digits generalizing others with
  | nil => exact (List.length_eq_zero_iff.mp same.symm).symm
  | cons c digits ih =>
    obtain ⟨d, others, rfl⟩ := List.exists_cons_of_length_eq_add_one same.symm
    obtain ⟨digit, rest⟩ := List.forall_mem_cons.mp all
    obtain ⟨other, later⟩ := List.forall_mem_cons.mp alike
    have lengths : digits.length = others.length := Nat.succ_inj.mp same
    have below := digitsBound rest
    have under := digitsBound later
    rw [digitsValueCons, digitsValueCons, lengths] at value
    rw [lengths] at below
    have values : digitsValue digits = digitsValue others := by
      have left := congrArg (· % tenTo others.length) value
      simpa [Nat.mul_add_mod_self_right, Nat.mod_eq_of_lt below, Nat.mod_eq_of_lt under] using left
    have leads : c.toNat - 48 = d.toNat - 48 :=
      Nat.eq_of_mul_eq_mul_right (tenToPositive others.length) (by omega)
    have first := digitBounds digit
    have second := digitBounds other
    have char : c = d := Char.toNat_inj.mp (by omega)
    rw [char, ih lengths rest later values]

theorem digitsLeading {c : Char} {digits : List Char} (digit : c.isDigit = true) (leads : c ≠ '0') :
    tenTo digits.length ≤ digitsValue (c :: digits) := by
  have bounds := digitBounds digit
  have other : c.toNat ≠ 48 := fun same => leads (Char.toNat_inj.mp same)
  have scaled := Nat.mul_le_mul_right (tenTo digits.length) (show 1 ≤ c.toNat - 48 by omega)
  rw [digitsValueCons]
  omega

theorem valueOfChars (digits : List Char) : digitsValue digits = Nat.ofDigitChars 10 digits 0 := by
  unfold digitsValue Nat.ofDigitChars
  congr 1
  funext n c
  rw [Nat.mul_comm]
  rfl

theorem writtenChars (n : Nat) : (toString n).toList = Nat.toDigits 10 n := by
  rw [Nat.toString_eq_ofList_toDigits, String.toList_ofList]

theorem writtenValue (n : Nat) : digitsValue (toString n).toList = n := by
  rw [writtenChars, valueOfChars, Nat.ofDigitChars_ten_toDigits]

theorem writtenDigits (n : Nat) : ∀ c ∈ (toString n).toList, c.isDigit = true := by
  rw [writtenChars]
  exact fun c => Nat.isDigit_of_mem_toDigits (by decide) (by decide)

theorem writtenLength {width n : Nat} (some : 0 < width) :
    (toString n).toList.length ≤ width ↔ n < tenTo width := by
  rw [writtenChars]
  exact Nat.length_toDigits_le_iff (by decide) some

theorem paddedParts (width n : Nat) : (padded width n).toList =
    List.replicate (width - (toString n).toList.length) '0' ++ (toString n).toList := by
  rw [padded, zeros, String.toList_append, String.toList_ofList, String.length_toList]

theorem paddedValue (width n : Nat) : digitsValue (padded width n).toList = n := by
  rw [paddedParts, digitsValueAppend, digitsValueZeros, writtenValue, Nat.zero_mul, Nat.zero_add]

theorem paddedDigits (width n : Nat) : ∀ c ∈ (padded width n).toList, c.isDigit = true := by
  intro c member
  rw [paddedParts, List.mem_append] at member
  rcases member with zero | written
  · rw [List.eq_of_mem_replicate zero]
    rfl
  · exact writtenDigits n c written

theorem paddedFixed {width n : Nat} (some : 0 < width) (small : n < tenTo width) :
    Fixed width (padded width n).toList := by
  have fits := (writtenLength some).mpr small
  refine ⟨?_, paddedDigits width n⟩
  rw [paddedParts, List.length_append, List.length_replicate]
  omega

theorem paddedOf {width : Nat} {digits : List Char} (some : 0 < width) (fixed : Fixed width digits) :
    (padded width (digitsValue digits)).toList = digits := by
  have small := digitsBound fixed.all
  rw [fixed.length] at small
  have again := paddedFixed some small
  exact digitsInj (again.length.trans fixed.length.symm) again.all fixed.all
    (paddedValue width (digitsValue digits))

theorem writtenLeads {n : Nat} (positive : 0 < n) : (toString n).toList.head? ≠ some '0' := by
  intro zero
  obtain ⟨rest, written⟩ := List.head?_eq_some_iff.mp zero
  have value := writtenValue n
  rw [written, digitsValueCons] at value
  have same : digitsValue rest = n := by simpa using value
  have below : n < tenTo rest.length :=
    same ▸ digitsBound fun c member => writtenDigits n c (written ▸ List.mem_cons_of_mem _ member)
  cases rest with
  | nil =>
    have none : n = 0 := same.symm
    omega
  | cons c rest =>
    have fits := (writtenLength (Nat.succ_pos rest.length)).mpr below
    rw [written] at fits
    exact absurd fits (Nat.not_succ_le_self _)

end NmeaReceiver.Sentence

namespace NmeaReceiver.Calendar
open NmeaReceiver.Decimal NmeaReceiver.Text
open NmeaReceiver.Sentence

def YearDigits (size : Nat) (digits : List Char) : Prop :=
  digitsValue digits = size ∧ (Fixed 4 digits ∨
    Digits digits ∧ 4 < digits.length ∧ digits.head? ≠ some '0')

inductive YearPrinted (year : Int) : List Char → Prop
  | plain {digits : List Char} (fixed : Fixed 4 digits) (value : (digitsValue digits : Int) = year) :
      YearPrinted year digits
  | before {digits : List Char} (early : year < 0) (spelled : YearDigits year.natAbs digits) :
      YearPrinted year ('-' :: digits)
  | past {digits : List Char} (late : 9999 < year) (spelled : YearDigits year.natAbs digits) :
      YearPrinted year ('+' :: digits)

theorem yearDigitsPadded (size : Nat) : YearDigits size (padded 4 size).toList := by
  refine ⟨paddedValue 4 size, ?_⟩
  by_cases small : size < tenTo 4
  · exact .inl (paddedFixed (by decide) small)
  · have long := mt (writtenLength (by decide)).mp small
    have parts := paddedParts 4 size
    rw [Nat.sub_eq_zero_of_le (by omega), List.replicate_zero, List.nil_append] at parts
    have large : 0 < size := Nat.pos_of_ne_zero fun none => small (none ▸ tenToPositive 4)
    rw [parts]
    exact .inr
      ⟨⟨List.ne_nil_of_length_pos (by omega), writtenDigits size⟩, by omega, writtenLeads large⟩

theorem yearTextPrinted (year : Int) : YearPrinted year (Instant.yearText year).toList := by
  unfold Instant.yearText
  split
  · rename_i within
    have small : year.toNat < tenTo 4 := by
      have same : tenTo 4 = 10000 := rfl
      omega
    exact .plain (paddedFixed (by decide) small) (by rw [paddedValue]; omega)
  · split
    · rename_i early
      rw [String.toList_append]
      exact .before early (yearDigitsPadded year.natAbs)
    · rw [String.toList_append]
      exact .past (by omega) (yearDigitsPadded year.natAbs)

theorem yearDigitsLong {size : Nat} {digits : List Char} (spelled : YearDigits size digits)
    (long : 4 < digits.length) : tenTo (digits.length - 1) ≤ size ∧ size < tenTo digits.length := by
  obtain ⟨rfl, short | ⟨run, _, leads⟩⟩ := spelled
  · exact absurd short.length (by omega)
  · obtain ⟨c, rest, rfl⟩ := List.exists_cons_of_ne_nil run.some
    have first : c ≠ '0' := fun zero => leads (congrArg some zero)
    exact ⟨digitsLeading (run.all c List.mem_cons_self) first, digitsBound run.all⟩

theorem yearDigitsLength {size : Nat} {digits others : List Char} (spelled : YearDigits size digits)
    (again : YearDigits size others) : digits.length ≤ others.length := by
  have least : 4 ≤ others.length := by
    rcases again.2 with fixed | ⟨_, long, _⟩
    · exact Nat.le_of_eq fixed.length.symm
    · exact Nat.le_of_lt long
  have below : size < tenTo others.length := by
    rcases again with ⟨rfl, fixed | ⟨run, _, _⟩⟩
    · exact digitsBound fixed.all
    · exact digitsBound run.all
  refine Nat.le_of_not_lt fun longer => ?_
  have above := (yearDigitsLong spelled (Nat.lt_of_le_of_lt least longer)).1
  have grows : tenTo others.length ≤ tenTo (digits.length - 1) :=
    Nat.pow_le_pow_right (by decide) (by omega)
  omega

theorem yearDigitsAll {size : Nat} {digits : List Char} (spelled : YearDigits size digits) :
    ∀ c ∈ digits, c.isDigit = true := by
  rcases spelled.2 with fixed | ⟨run, _, _⟩
  · exact fixed.all
  · exact run.all

theorem yearDigitsUnique {size : Nat} {digits others : List Char} (spelled : YearDigits size digits)
    (again : YearDigits size others) : digits = others :=
  digitsInj (Nat.le_antisymm (yearDigitsLength spelled again) (yearDigitsLength again spelled))
    (yearDigitsAll spelled) (yearDigitsAll again) (spelled.1.trans again.1.symm)

theorem yearPrintedUnique {year : Int} {printed others : List Char} (prints : YearPrinted year printed)
    (again : YearPrinted year others) : printed = others := by
  have small {digits : List Char} (fixed : Fixed 4 digits) : digitsValue digits < 10000 := by
    have below := digitsBound fixed.all
    rwa [fixed.length] at below
  cases prints with
  | plain fixed value =>
    have bound := small fixed
    cases again with
    | plain other same =>
      exact digitsInj (fixed.length.trans other.length.symm) fixed.all other.all (by omega)
    | before early spelled => omega
    | past late spelled => omega
  | before early spelled =>
    cases again with
    | plain other same => omega
    | before _ other => rw [yearDigitsUnique spelled other]
    | past late _ => omega
  | past late spelled =>
    cases again with
    | plain other same =>
      have bound := small other
      omega
    | before early _ => omega
    | past _ other => rw [yearDigitsUnique spelled other]

theorem yearTextFixed {digits : List Char} (fixed : Fixed 4 digits) :
    (Instant.yearText (digitsValue digits)).toList = digits := by
  have small := digitsBound fixed.all
  rw [fixed.length] at small
  have within : 0 ≤ (digitsValue digits : Int) ∧ (digitsValue digits : Int) ≤ 9999 := by
    have same : tenTo 4 = 10000 := rfl
    omega
  rw [Instant.yearText, if_pos within, Int.toNat_natCast]
  exact paddedOf (by decide) fixed

theorem yearTextTwenty {digits : List Char} (fixed : Fixed 2 digits) :
    (Instant.yearText (2000 + (digitsValue digits : Int))).toList = '2' :: '0' :: digits := by
  have year : Fixed 4 ('2' :: '0' :: digits) :=
    ⟨congrArg (· + 2) fixed.length, by simpa using fixed.all⟩
  have value : digitsValue ('2' :: '0' :: digits) = 2000 + digitsValue digits := by
    have same : tenTo 3 = 1000 := rfl
    rw [digitsValueCons, digitsValueCons, List.length_cons, fixed.length, same]
    simp
  have written := yearTextFixed year
  rw [value] at written
  exact written

end NmeaReceiver.Calendar
