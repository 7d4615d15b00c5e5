import NmeaReceiver.Proofs.Sentence.Slots

/-! What a reader leaves. Whether it finds a value or breaks off, it passes no comma: what is left
begins before the first comma of the text, or there. -/
namespace NmeaReceiver.Sentence
open NmeaReceiver.Decimal

def Skips (text rest : List Char) : Prop := ∃ token, text = token ++ rest ∧ ',' ∉ token

inductive Stays {α : Type} (text : List Char) : Reading α → Prop where
  | absent : Stays text .absent
  | found (value : α) {rest : List Char} (skips : Skips text rest) : Stays text (.found value rest)
  | broken {rest : List Char} (skips : Skips text rest) : Stays text (.broken rest)

section Readers

variable {α : Type} {text middle rest : List Char}

theorem skipsNothing (text : List Char) : Skips text text := ⟨[], rfl, List.not_mem_nil⟩

theorem skipsOn (first : Skips text middle) (second : Skips middle rest) : Skips text rest := by
  obtain ⟨token, rfl, free⟩ := first
  obtain ⟨other, rfl, clean⟩ := second
  exact ⟨token ++ other, (List.append_assoc _ _ _).symm, by simp [free, clean]⟩

theorem staysOn {reading : Reading α} (first : Skips text middle) (stays : Stays middle reading) :
    Stays text reading := by
  cases stays with
  | absent => exact .absent
  | found value skips => exact .found value (skipsOn first skips)
  | broken skips => exact .broken (skipsOn first skips)

theorem staysIf (bound : Prop) [Decidable bound] (value : α) :
    Stays text (if bound then .found value text else .absent) := by
  split
  · exact .found value (skipsNothing text)
  · exact .absent

theorem skipsSign (text : List Char) : Skips text (splitSign text).2 := by
  obtain ⟨sign, signs, split⟩ := splitSignParts text
  exact ⟨sign, split, signCommaFree signs⟩

theorem skipsDigits (text : List Char) : Skips text (text.dropWhile Char.isDigit) :=
  ⟨_, List.takeWhile_append_dropWhile.symm, digitsCommaFree (scannedDigits text).1⟩

theorem runStays {width : Nat} {next : Nat → List Char → Reading α}
    (stays : ∀ size after, Stays after (next size after)) : Stays text (afterRun width next text) := by
  unfold afterRun
  cases run : digitRun? width text with
  | none => exact .absent
  | some taken =>
    obtain ⟨digits, split, fixed, _⟩ := digitRunSome.mp run
    exact staysOn ⟨digits, split, digitsCommaFree fixed.all⟩ (stays taken.1 taken.2)

theorem digitsStays {next : Nat → List Char → Reading α}
    (stays : ∀ size after, Stays after (next size after)) : Stays text (afterDigits next text) := by
  unfold afterDigits
  split
  · exact .absent
  · exact staysOn (skipsDigits text) (stays _ _)

theorem markStays {mark : Char} (marks : isMark mark) (after : List Char) :
    Stays (mark :: after) (exponentPart (mark :: after)) := by
  have ahead : Skips (mark :: after) (splitSign after).2 := by
    refine skipsOn ⟨[mark], rfl, ?_⟩ (skipsSign after)
    rcases marks with rfl | rfl <;> decide
  rw [exponentMarked marks]
  dsimp only
  split
  · exact .broken ahead
  · exact .found _ (skipsOn ahead (skipsDigits _))

theorem exponentStays (text : List Char) : Stays text (exponentPart text) := by
  cases text with
  | nil => exact .absent
  | cons c after =>
    by_cases marks : isMark c
    · exact markStays marks after
    · rw [exponentAbsent (by simpa using marks)]
      exact .absent

theorem numeralStays (text : List Char) : Stays text (readNumeral text) := by
  cases numeralScanned text with
  | absent none =>
    rw [none]
    exact .absent
  | @mantissa negative sign whole fraction body after signs digits split goes =>
    have ahead : Skips text after :=
      ⟨sign ++ body, by rw [split, List.append_assoc],
        by simp [signCommaFree signs, mantissaCommaFree digits]⟩
    have stays := exponentStays after
    rw [goes]
    unfold withExponent
    generalize exponentPart after = part at stays
    cases stays with
    | absent => exact .found _ ahead
    | found exponent skips => exact .found _ (skipsOn ahead skips)
    | broken skips => exact .broken (skipsOn ahead skips)

theorem numberStays (text : List Char) : Stays text (readNumber text) := by
  have stays := numeralStays text
  unfold readNumber
  generalize readNumeral text = reading at stays
  cases stays with
  | absent => exact .absent
  | found numeral skips => exact .found _ skips
  | broken skips => exact .broken skips

theorem degreesStays (width limit : Nat) (text : List Char) : Stays text (readDegrees width limit text) := by
  change Stays text (afterRun width (readArc limit) text)
  refine runStays fun degrees after => ?_
  have stays := numberStays after
  unfold readArc
  generalize readNumber after = part at stays
  cases stays with
  | absent => exact .absent
  | broken skips => exact .broken skips
  | found minutes skips =>
    dsimp only
    split
    · exact staysOn skips (staysIf _ _)
    · exact .absent

theorem secondFractionSkips (text : List Char) : Skips text (secondFraction text).2 := by
  unfold secondFraction
  split
  · rename_i after
    dsimp only
    split
    · exact skipsNothing _
    · exact skipsOn ⟨['.'], rfl, by decide⟩ (skipsDigits after)
  · exact skipsNothing text

theorem timeStays (text : List Char) : Stays text (readTime text) := by
  change Stays text (afterRun 2 (fun hours => afterRun 2 fun minutes => afterRun 2 fun seconds after =>
    .found (⟨hours, minutes, seconds, (secondFraction after).1⟩ : Calendar.TimeOfDay)
      (secondFraction after).2) text)
  exact runStays fun _ _ => runStays fun _ _ => runStays fun _ after =>
    .found _ (secondFractionSkips after)

theorem dateStays (text : List Char) : Stays text (readDate text) := by
  change Stays text (afterRun 2 (fun day => afterRun 2 fun month => afterRun 2 fun year after =>
    .found (⟨2000 + (year : Int), month, day⟩ : Calendar.Date) after) text)
  exact runStays fun _ _ => runStays fun _ _ => runStays fun _ after => .found _ (skipsNothing after)

theorem countStays (text : List Char) : Stays text (readCount text) := by
  change Stays text
    (afterDigits (fun size after => if size < twoTo 32 then .found size after else .absent) text)
  exact digitsStays fun _ _ => staysIf _ _

theorem letterStays {meanings : List (Char × α)} (free : meanings.lookup ',' = none) :
    Stays text (readLetter meanings text) := by
  unfold readLetter
  split
  · exact .absent
  · rename_i c after
    split
    · rename_i meaning meant
      have other : ',' ≠ c := by
        intro same
        rw [← same, free] at meant
        cases meant
      exact .found meaning ⟨[c], rfl, by simp [other]⟩
    · exact .absent

theorem slotStays (slot : Slot) (text : List Char) : Stays text (slot.read text) := by
  cases slot with
  | time => exact timeStays text
  | date => exact dateStays text
  | latitude => exact degreesStays 2 90 text
  | longitude => exact degreesStays 3 180 text
  | number => exact numberStays text
  | status => exact letterStays rfl
  | northSouth => exact letterStays rfl
  | eastWest => exact letterStays rfl
  | metres => exact letterStays rfl
  | mode => exact letterStays rfl
  | count => exact countStays text
  | twoDigits => exact runStays fun _ after => .found _ (skipsNothing after)
  | year =>
    change Stays text (signedYear (splitSign text).1 (splitSign text).2)
    exact staysOn (skipsSign text) (digitsStays fun _ _ => staysIf _ _)
  | zoneHours =>
    change Stays text (signedHours (splitSign text).1 (splitSign text).2)
    exact staysOn (skipsSign text) (runStays fun _ _ => staysIf _ _)
  | zoneMinutes =>
    change Stays text (signedMinutes (splitSign text).1 (splitSign text).2)
    exact staysOn (skipsSign text) (runStays fun _ _ => staysIf _ _)

end Readers

end NmeaReceiver.Sentence
