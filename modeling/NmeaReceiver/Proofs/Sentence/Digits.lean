import Mathlib.Data.List.TakeWhile
import NmeaReceiver.Proofs.Sentence.Grammar

/-! Runs of digits and signs at the front of a text. A run of digits ends where the text after it
does not go on with one; between two slots it goes on with a comma or not at all. -/
namespace NmeaReceiver.Sentence
open NmeaReceiver.Decimal

def Clean (text : List Char) : Prop := ∀ c ∈ text.head?, c = ','

def Stops (text : List Char) : Prop := ∀ c ∈ text.head?, c.isDigit = false

def Unsigned (text : List Char) : Prop := ∀ c ∈ text.head?, c ≠ '-' ∧ c ≠ '+'

theorem cleanCases {text : List Char} (clean : Clean text) : text = [] ∨ ∃ rest, text = ',' :: rest := by
  cases text with
  | nil => exact .inl rfl
  | cons c rest => exact .inr ⟨rest, by rw [clean c rfl]⟩

theorem cleanStops {text : List Char} (clean : Clean text) : Stops text := by
  intro c member
  rw [clean c member]
  rfl

theorem cleanUnsigned {text : List Char} (clean : Clean text) : Unsigned text := by
  intro c member
  rw [clean c member]
  decide

theorem digitUnsigned {c : Char} (digit : c.isDigit = true) : c ≠ '-' ∧ c ≠ '+' := by
  constructor <;> rintro rfl <;> cases digit

theorem digitsUnsigned {digits rest : List Char} (some : digits ≠ [])
    (all : ∀ c ∈ digits, c.isDigit = true) : Unsigned (digits ++ rest) := by
  cases digits with
  | nil => exact absurd rfl some
  | cons first more =>
    rintro c ⟨⟩
    exact digitUnsigned (all first List.mem_cons_self)

theorem fixedSome {width : Nat} {text : List Char} (fixed : Fixed (width + 1) text) : text ≠ [] := by
  rintro rfl
  cases fixed.length

theorem scanDigits {digits rest : List Char} (all : ∀ c ∈ digits, c.isDigit = true)
    (stops : Stops rest) :
    (digits ++ rest).takeWhile Char.isDigit = digits ∧
      (digits ++ rest).dropWhile Char.isDigit = rest := by
  have taken : rest.takeWhile Char.isDigit = [] := by
    cases rest with
    | nil => rfl
    | cons c more => exact List.takeWhile_cons_of_neg (by rw [stops c rfl]; decide)
  have dropped : rest.dropWhile Char.isDigit = rest := by
    cases rest with
    | nil => rfl
    | cons c more => exact List.dropWhile_cons_of_neg (by rw [stops c rfl]; decide)
  rw [List.takeWhile_append_of_pos all, List.dropWhile_append_of_pos all, taken, dropped,
    List.append_nil]
  exact ⟨rfl, rfl⟩

theorem scannedDigits (text : List Char) :
    (∀ c ∈ text.takeWhile Char.isDigit, c.isDigit = true) ∧ Stops (text.dropWhile Char.isDigit) := by
  refine ⟨fun c member => List.mem_takeWhile_imp member, ?_⟩
  intro c member
  have stopped := List.head?_dropWhile_not Char.isDigit text
  rw [Option.mem_def.mp member] at stopped
  simpa using stopped

theorem digitRunSome {width value : Nat} {text rest : List Char} :
    digitRun? width text = some (value, rest) ↔
      ∃ digits, text = digits ++ rest ∧ Fixed width digits ∧ value = digitsValue digits := by
  unfold digitRun?
  constructor
  · intro found
    dsimp only at found
    split at found
    · rename_i run
      cases found
      exact ⟨text.take width, (List.take_append_drop width text).symm,
        ⟨run.1, List.all_eq_true.mp run.2⟩, rfl⟩
    · cases found
  · rintro ⟨digits, rfl, fixed, rfl⟩
    have taken : (digits ++ rest).take width = digits := fixed.length ▸ List.take_left
    have dropped : (digits ++ rest).drop width = rest := fixed.length ▸ List.drop_left
    dsimp only
    rw [taken, dropped, if_pos ⟨fixed.length, List.all_eq_true.mpr fixed.all⟩]

theorem splitSignParts (text : List Char) :
    ∃ sign, Sign (splitSign text).1 sign ∧ text = sign ++ (splitSign text).2 := by
  unfold splitSign
  split
  · exact ⟨['-'], .minus, rfl⟩
  · exact ⟨['+'], .plus, rfl⟩
  · exact ⟨[], .none, rfl⟩

theorem splitSignOf {negative : Bool} {sign text : List Char} (signs : Sign negative sign)
    (free : Unsigned text) : splitSign (sign ++ text) = (negative, text) := by
  cases signs with
  | minus => rfl
  | plus => rfl
  | none =>
    rw [List.nil_append]
    unfold splitSign
    split
    · exact absurd rfl (free _ rfl).1
    · exact absurd rfl (free _ rfl).2
    · rfl

end NmeaReceiver.Sentence
