import Mathlib.Algebra.Ring.Nat
import NmeaReceiver.Text.Utf8

/-! Octets below 0x80 among any others. Lenient reading swallows none of them, for a sequence that
one of them breaks off is a gap before it, and it makes none out of others: what a sequence can still
become lies at all times among the characters of 0x80 and more. -/
namespace NmeaReceiver.Text.Utf8

-- The characters that a sequence under way can become are those from `least` on below `most`.
def Owed.least (owed : Owed) : Nat := (owed.bits * 64 + (owed.low - 0x80)) * 64 ^ owed.more

def Owed.most (owed : Owed) : Nat := (owed.bits * 64 + (owed.high - 0x80) + 1) * 64 ^ owed.more

def Owed.Wide (owed : Owed) : Prop :=
  0x80 ≤ owed.least ∧ owed.most ≤ 0xD800 ∨ 0xE000 ≤ owed.least ∧ owed.most ≤ 0x110000

def Wide (state : Option Owed) : Prop := ∀ owed ∈ state, owed.Wide

theorem ofNatValid {n : Nat} (valid : n < 0xD800 ∨ 0xE000 ≤ n ∧ n < 0x110000) :
    (Char.ofNat n).toNat = n := by
  have allowed : n.isValidChar := by
    unfold Nat.isValidChar
    omega
  rw [Char.ofNat, dif_pos allowed]
  rfl

theorem owedWide {octet : Nat} {owed : Owed} (begun : owed? octet = some owed) : owed.Wide := by
  unfold owed? at begun
  repeat' split at begun
  all_goals
    cases begun
    try simp only [Owed.Wide, Owed.least, Owed.most]
    try omega

theorem noneWide : Wide none := by
  intro owed under
  cases under

theorem startWide (octet : Nat) : Wide (start octet).2 := by
  unfold start
  split
  · exact noneWide
  · cases begun : owed? octet with
    | none => exact noneWide
    | some owed =>
      intro other same
      cases same
      exact owedWide begun

theorem lastRead {owed : Owed} {octet : Nat} (wide : owed.Wide) (last : owed.more = 0)
    (within : owed.low ≤ octet ∧ octet ≤ owed.high) :
    0x80 ≤ (Char.ofNat (owed.bits * 64 + (octet - 0x80))).toNat := by
  have continues := owed.continues
  simp only [Owed.Wide, Owed.least, Owed.most, last, Nat.pow_zero, Nat.mul_one] at wide
  rw [ofNatValid (by omega)]
  omega

-- With each octet the range of what a sequence can become gets narrower.
theorem nextWide {owed next : Owed} {octet : Nat} (wide : owed.Wide)
    (within : owed.low ≤ octet ∧ octet ≤ owed.high) (owes : owed.more = next.more + 1)
    (low : next.low = 0x80) (high : next.high = 0xBF)
    (bits : next.bits = owed.bits * 64 + (octet - 0x80)) : next.Wide := by
  have least : owed.least ≤ next.least := by
    simp only [Owed.least, owes, low, bits, Nat.pow_succ', ← Nat.mul_assoc, Nat.sub_self, Nat.add_zero]
    refine Nat.mul_le_mul_right _ (Nat.mul_le_mul_right _ ?_)
    omega
  have most : next.most ≤ owed.most := by
    simp only [Owed.most, owes, high, bits, Nat.pow_succ', ← Nat.mul_assoc]
    refine Nat.mul_le_mul_right _ ?_
    omega
  unfold Owed.Wide at wide ⊢
  omega

theorem startRead {octet : Nat} {c : Char} (read : some c ∈ (start octet).1) : c.toNat = octet := by
  unfold start at read
  split at read
  · have same : c = Char.ofNat octet := by simpa using read
    rw [same, ofNatValid (by omega)]
  · cases begun : owed? octet <;> simp [begun] at read

theorem stepWide {state : Option Owed} (wide : Wide state) (octet : Nat) :
    Wide (step state octet).2 ∧
      ∀ c, some c ∈ (step state octet).1 → c.toNat = octet ∨ 0x80 ≤ c.toNat := by
  cases state with
  | none => exact ⟨startWide octet, fun c read => .inl (startRead read)⟩
  | some owed =>
    unfold step
    dsimp only
    split
    · rename_i within
      cases more : owed.more with
      | zero =>
        refine ⟨noneWide, fun c read => .inr ?_⟩
        have same : c = Char.ofNat (owed.bits * 64 + (octet - 0x80)) := by simpa using read
        rw [same]
        exact lastRead (wide owed rfl) more within
      | succ n =>
        refine ⟨?_, fun c read => by cases read⟩
        intro next same
        cases same
        exact nextWide (wide owed rfl) within more rfl rfl rfl
    · refine ⟨startWide octet, fun c read => .inl (startRead ?_)⟩
      simpa using read

theorem scanCons (state : Option Owed) (octet : UInt8) (rest : List UInt8) :
    scan state (octet :: rest) =
      (step state octet.toNat).1 ++ scan (step state octet.toNat).2 rest := by
  cases state <;> rfl

theorem scanRead {state : Option Owed} (wide : Wide state) (octets : List UInt8) {c : Char}
    (read : some c ∈ scan state octets) (single : c.toNat < 0x80) :
    ∃ octet ∈ octets, octet.toNat = c.toNat := by
  induction octets generalizing state with
  | nil => cases state <;> simp [scan] at read
  | cons octet rest ih =>
    obtain ⟨next, told⟩ := stepWide wide octet.toNat
    rw [scanCons] at read
    rcases List.mem_append.mp read with now | later
    · rcases told c now with same | wide
      · exact ⟨octet, List.mem_cons_self, same.symm⟩
      · omega
    · obtain ⟨other, member, same⟩ := ih next later
      exact ⟨other, List.mem_cons_of_mem octet member, same⟩

theorem decodeRead {octets : List UInt8} {c : Char} (read : c ∈ decode octets)
    (single : c.toNat < 0x80) : ∃ octet ∈ octets, octet.toNat = c.toNat := by
  obtain ⟨found, member, same⟩ := List.mem_map.mp read
  cases found with
  | none =>
    rw [← same] at single
    exact absurd single (by decide)
  | some d =>
    obtain rfl : d = c := same
    exact scanRead noneWide octets member single

theorem scanSplit (state : Option Owed) (front : List UInt8) {octet : UInt8}
    (single : octet.toNat < 0x80) (rest : List UInt8) :
    scan state (front ++ octet :: rest) = scan state front ++ scan none (octet :: rest) := by
  induction front generalizing state with
  | nil =>
    cases state with
    | none => rfl
    | some owed =>
      rw [List.nil_append, scanCons, scanCons none, stepAscii owed single, stepBetween, startAscii single]
      rfl
  | cons first front ih =>
    rw [List.cons_append, scanCons, ih, scanCons state, List.append_assoc]

theorem decodeSplit (front : List UInt8) {octet : UInt8} (single : octet.toNat < 0x80)
    (rest : List UInt8) :
    decode (front ++ octet :: rest) = decode front ++ decode (octet :: rest) := by
  rw [decode, scanSplit none front single rest, List.map_append]
  rfl

theorem decodeCons {octet : UInt8} (single : octet.toNat < 0x80) (rest : List UInt8) :
    decode (octet :: rest) = Char.ofNat octet.toNat :: decode rest := by
  rw [decode, scanCons, stepBetween, startAscii single]
  rfl

theorem asciiNumber {c : Char} (small : c.toNat < 0x80) : c.toNat.toUInt8.toNat = c.toNat := by
  rw [Nat.toUInt8, UInt8.toNat_ofNat']
  omega

theorem decodeAscii {text : List Char} (ascii : ∀ c ∈ text, c.toNat < 0x80) :
    decode (text.map fun c => c.toNat.toUInt8) = text := by
  induction text with
  | nil => rfl
  | cons c rest ih =>
    have small := ascii c List.mem_cons_self
    have number := asciiNumber small
    rw [List.map_cons, decodeCons (by omega), number, Char.ofNat_toNat,
      ih fun other member => ascii other (List.mem_cons_of_mem c member)]

end NmeaReceiver.Text.Utf8
