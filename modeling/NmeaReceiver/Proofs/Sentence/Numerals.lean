import NmeaReceiver.Proofs.Sentence.Digits

/-! Numerals are read to their end. A scan that finds a mantissa goes on with the exponent; it is
broken exactly if the mark of one stands there without it. -/
namespace NmeaReceiver.Sentence
open NmeaReceiver.Decimal

def Past (text : List Char) : Prop := ∀ c ∈ text.head?, c.isDigit = false ∧ c ≠ '.'

theorem cleanPast {text : List Char} (clean : Clean text) : Past text := by
  intro c member
  rw [clean c member]
  decide

theorem markPast {mark : Char} (marks : isMark mark) (after : List Char) : Past (mark :: after) := by
  rintro c ⟨⟩
  rcases marks with rfl | rfl <;> decide

theorem scalePast {exponent : Int} {scale rest : List Char} (spelled : Exponent exponent scale)
    (clean : Clean rest) : Past (scale ++ rest) := by
  cases spelled with
  | none => exact cleanPast clean
  | marked marks signs counts => exact markPast marks _

theorem exponentMarked {mark : Char} (marks : isMark mark) (after : List Char) :
    exponentPart (mark :: after) =
      let digits := (splitSign after).2.takeWhile Char.isDigit
      if digits.isEmpty then .broken (splitSign after).2
      else .found (signed (splitSign after).1 (digitsValue digits))
        ((splitSign after).2.dropWhile Char.isDigit) := by
  rcases marks with rfl | rfl <;> rfl

theorem exponentAbsent {text : List Char} (plain : ∀ c ∈ text.head?, ¬ isMark c) :
    exponentPart text = .absent := by
  unfold exponentPart
  split
  · exact absurd (.inl rfl) (plain _ rfl)
  · exact absurd (.inr rfl) (plain _ rfl)
  · rfl

theorem exponentOf {exponent : Int} {mark : Char} {scale rest : List Char}
    (spelled : Exponent exponent (mark :: scale)) (stops : Stops rest) :
    exponentPart (mark :: scale ++ rest) = .found exponent rest := by
  cases spelled with
  | @marked _ negative sign digits marks signs counts =>
    have split : splitSign ((sign ++ digits) ++ rest) = (negative, digits ++ rest) := by
      rw [List.append_assoc]
      exact splitSignOf signs (digitsUnsigned counts.some counts.all)
    obtain ⟨taken, dropped⟩ := scanDigits counts.all stops
    rw [List.cons_append, exponentMarked marks, split]
    dsimp only
    rw [taken, dropped, if_neg (by simpa using counts.some)]

inductive Follows (text : List Char) : Reading Int → Prop where
  | plain (free : ∀ c ∈ text.head?, ¬ isMark c) : Follows text .absent
  | scaled {exponent : Int} {scale rest : List Char} (spelled : Exponent exponent scale)
      (marked : scale ≠ []) (split : text = scale ++ rest) (stops : Stops rest) :
      Follows text (.found exponent rest)
  | broken {mark : Char} {after rest : List Char} (marks : isMark mark) (split : text = mark :: after)
      (none : ∀ exponent scale rest, Exponent exponent scale → text = scale ++ rest → scale = []) :
      Follows text (.broken rest)

theorem markedBreaks {mark : Char} {after : List Char}
    (none : (splitSign after).2.takeWhile Char.isDigit = []) {exponent : Int} {scale rest : List Char}
    (spelled : Exponent exponent scale) (split : mark :: after = scale ++ rest) : scale = [] := by
  cases spelled with
  | none => rfl
  | @marked other negative sign digits marks signs counts =>
    rw [List.cons_append] at split
    rw [(List.cons.inj split).2, List.append_assoc, splitSignOf signs (digitsUnsigned counts.some counts.all),
      List.takeWhile_append_of_pos counts.all] at none
    exact absurd (List.append_eq_nil_iff.mp none).1 counts.some

theorem exponentFollows (text : List Char) : Follows text (exponentPart text) := by
  by_cases free : ∀ c ∈ text.head?, ¬ isMark c
  · rw [exponentAbsent free]
    exact .plain free
  · obtain ⟨mark, after, rfl, marks⟩ : ∃ mark after, text = mark :: after ∧ isMark mark := by
      cases text with
      | nil => exact absurd nofun free
      | cons mark after =>
        refine ⟨mark, after, rfl, ?_⟩
        by_contra other
        refine free fun c member => ?_
        cases member
        exact other
    rw [exponentMarked marks]
    dsimp only
    split
    · rename_i empty
      exact .broken marks rfl fun _ _ _ => markedBreaks (List.isEmpty_iff.mp empty)
    · rename_i some
      obtain ⟨sign, signs, whole⟩ := splitSignParts after
      obtain ⟨all, stops⟩ := scannedDigits (splitSign after).2
      refine .scaled (.marked marks signs ⟨fun empty => some (List.isEmpty_iff.mpr empty), all⟩)
        (List.cons_ne_nil _ _) ?_ stops
      rw [List.cons_append, List.append_assoc, List.takeWhile_append_dropWhile, ← whole]

theorem withExponentFound {negative : Bool} {whole fraction after rest : List Char}
    {numeral : Numeral} (found : withExponent negative whole fraction after = .found numeral rest) :
    ∃ exponent scale, Exponent exponent scale ∧ after = scale ++ rest ∧
      numeral = ⟨negative, whole, fraction, exponent⟩ := by
  unfold withExponent at found
  have follows := exponentFollows after
  cases part : exponentPart after with
  | absent =>
    rw [part] at found
    cases found
    exact ⟨0, [], .none, rfl, rfl⟩
  | found exponent left =>
    rw [part] at found follows
    cases found
    cases follows with
    | scaled spelled marked split stops => exact ⟨exponent, _, spelled, split, rfl⟩
  | broken left =>
    rw [part] at found
    cases found

theorem withExponentOf (negative : Bool) (whole fraction : List Char) {exponent : Int}
    {scale rest : List Char} (spelled : Exponent exponent scale) (clean : Clean rest) :
    withExponent negative whole fraction (scale ++ rest) =
      .found ⟨negative, whole, fraction, exponent⟩ rest := by
  unfold withExponent
  cases scale with
  | nil =>
    cases spelled
    have free : ∀ c ∈ rest.head?, ¬ isMark c := by
      intro c member
      rw [clean c member]
      rintro (same | same) <;> cases same
    rw [List.nil_append, exponentAbsent free]
  | cons mark scale => rw [exponentOf spelled (cleanStops clean)]

theorem withExponentBroken (negative : Bool) (whole fraction : List Char) {after : List Char} :
    (∃ rest, withExponent negative whole fraction after = .broken rest) ↔
      ∃ mark more, isMark mark ∧ after = mark :: more ∧
        ∀ exponent scale rest, Exponent exponent scale → after = scale ++ rest → scale = [] := by
  unfold withExponent
  constructor
  · rintro ⟨rest, broken⟩
    have follows := exponentFollows after
    cases part : exponentPart after with
    | absent => rw [part] at broken; cases broken
    | found exponent left => rw [part] at broken; cases broken
    | broken left =>
      rw [part] at follows
      cases follows with
      | broken marks split none => exact ⟨_, _, marks, split, none⟩
  · rintro ⟨mark, more, marks, split, none⟩
    have follows := exponentFollows after
    cases part : exponentPart after with
    | broken left => exact ⟨left, rfl⟩
    | absent =>
      rw [part] at follows
      cases follows with
      | plain free =>
        rw [split] at free
        exact absurd marks (free mark rfl)
    | found exponent left =>
      rw [part] at follows
      cases follows with
      | scaled spelled marked whole stops => exact absurd (none _ _ _ spelled whole) marked

inductive Scanned (text : List Char) (reading : Reading Numeral) : Prop where
  | absent (none : reading = .absent)
  | mantissa {negative : Bool} {sign whole fraction body after : List Char}
      (signs : Sign negative sign) (digits : Mantissa whole fraction body)
      (split : text = sign ++ (body ++ after))
      (goes : reading = withExponent negative whole fraction after)

theorem numeralScanned (text : List Char) : Scanned text (readNumeral text) := by
  obtain ⟨sign, signs, whole⟩ := splitSignParts text
  obtain ⟨all, stops⟩ := scannedDigits (splitSign text).2
  have run : (splitSign text).2.takeWhile Char.isDigit ++ (splitSign text).2.dropWhile Char.isDigit =
      (splitSign text).2 := List.takeWhile_append_dropWhile
  unfold readNumeral
  dsimp only
  split
  · rename_i rest after
    obtain ⟨others, _⟩ := scannedDigits rest
    split
    · exact .absent rfl
    · rename_i some
      refine .mantissa signs (.pointed ⟨?_, ?_⟩) ?_ rfl
      · intro none
        obtain ⟨first, second⟩ := List.append_eq_nil_iff.mp none
        exact some ⟨List.isEmpty_iff.mpr first, List.isEmpty_iff.mpr second⟩
      · intro c member
        rcases List.mem_append.mp member with before | behind
        · exact all c before
        · exact others c behind
      · rw [List.append_assoc, List.cons_append, List.takeWhile_append_dropWhile, ← after, run, ← whole]
  · split
    · exact .absent rfl
    · rename_i some
      refine .mantissa signs (.plain ⟨fun none => some (List.isEmpty_iff.mpr none), all⟩) ?_ rfl
      rw [run, ← whole]

theorem mantissaUnsigned {whole fraction body : List Char} (digits : Mantissa whole fraction body)
    (after : List Char) : Unsigned (body ++ after) := by
  cases digits with
  | plain digits => exact digitsUnsigned digits.some digits.all
  | pointed digits =>
    cases whole with
    | nil => rintro c ⟨⟩; decide
    | cons first more =>
      rintro c ⟨⟩
      exact digitUnsigned (digits.all first List.mem_cons_self)

theorem numeralScan {negative : Bool} {sign whole fraction body after : List Char}
    (signs : Sign negative sign) (digits : Mantissa whole fraction body) (past : Past after) :
    readNumeral (sign ++ (body ++ after)) = withExponent negative whole fraction after := by
  have stops : Stops after := fun c member => (past c member).1
  unfold readNumeral
  rw [splitSignOf signs (mantissaUnsigned digits after)]
  dsimp only
  cases digits with
  | plain digits =>
    obtain ⟨taken, dropped⟩ := scanDigits digits.all stops
    rw [taken, dropped]
    split
    · exact absurd rfl (past _ rfl).2
    · rw [if_neg (by simpa using digits.some)]
  | pointed digits =>
    have before : ∀ c ∈ whole, c.isDigit = true :=
      fun c member => digits.all c (List.mem_append_left _ member)
    have behind : ∀ c ∈ fraction, c.isDigit = true :=
      fun c member => digits.all c (List.mem_append_right _ member)
    have point : Stops ('.' :: (fraction ++ after)) := by rintro c ⟨⟩; rfl
    obtain ⟨taken, dropped⟩ := scanDigits before point
    obtain ⟨more, left⟩ := scanDigits behind stops
    rw [List.append_assoc, List.cons_append, taken, dropped]
    change (if whole.isEmpty ∧ ((fraction ++ after).takeWhile Char.isDigit).isEmpty then _ else _) = _
    rw [more, left, if_neg]
    rintro ⟨none, nothing⟩
    refine digits.some ?_
    rw [List.isEmpty_iff.mp none, List.isEmpty_iff.mp nothing, List.append_nil]

theorem readNumeralSpelled {text rest : List Char} {numeral : Numeral}
    (found : readNumeral text = .found numeral rest) :
    ∃ piece, text = piece ++ rest ∧ NumeralText numeral piece := by
  cases numeralScanned text with
  | absent none => rw [none] at found; cases found
  | mantissa signs digits split goes =>
    obtain ⟨exponent, scale, scales, rfl, rfl⟩ := withExponentFound (goes.symm.trans found)
    exact ⟨_, by rw [split, List.append_assoc, List.append_assoc], .parts signs digits scales⟩

theorem readNumeralFound {text rest : List Char} {numeral : Numeral} (clean : Clean rest) :
    readNumeral text = .found numeral rest ↔
      ∃ piece, text = piece ++ rest ∧ NumeralText numeral piece := by
  constructor
  · exact readNumeralSpelled
  · rintro ⟨_, rfl, ⟨signs, digits, scales⟩⟩
    rw [List.append_assoc, List.append_assoc, numeralScan signs digits (scalePast scales clean),
      withExponentOf _ _ _ scales clean]

theorem mantissaScan {negative : Bool} {sign whole fraction body : List Char}
    (signs : Sign negative sign) (digits : Mantissa whole fraction body) (after : List Char) :
    ∃ more others left, readNumeral (sign ++ (body ++ after)) = withExponent negative more others left ∧
      left.length ≤ after.length := by
  have shorter (text : List Char) : (text.dropWhile Char.isDigit).length ≤ text.length :=
    (List.dropWhile_suffix _).length_le
  have within := shorter after
  unfold readNumeral
  rw [splitSignOf signs (mantissaUnsigned digits after)]
  dsimp only
  cases digits with
  | plain digits =>
    have some : ¬ (whole ++ after.takeWhile Char.isDigit).isEmpty = true := by simp [digits.some]
    rw [List.takeWhile_append_of_pos digits.all, List.dropWhile_append_of_pos digits.all]
    split
    · rename_i rest point
      rw [if_neg fun none => some none.1]
      rw [point, List.length_cons] at within
      have behind := shorter rest
      exact ⟨_, _, _, rfl, by omega⟩
    · rw [if_neg some]
      exact ⟨_, _, _, rfl, within⟩
  | pointed digits =>
    have before : ∀ c ∈ whole, c.isDigit = true :=
      fun c member => digits.all c (List.mem_append_left _ member)
    have behind : ∀ c ∈ fraction, c.isDigit = true :=
      fun c member => digits.all c (List.mem_append_right _ member)
    have point : Stops ('.' :: (fraction ++ after)) := by rintro c ⟨⟩; rfl
    obtain ⟨taken, dropped⟩ := scanDigits before point
    rw [List.append_assoc, List.cons_append, taken, dropped]
    refine ⟨whole, fraction ++ after.takeWhile Char.isDigit, _, ?_, within⟩
    change (if whole.isEmpty ∧ ((fraction ++ after).takeWhile Char.isDigit).isEmpty then _ else _) = _
    rw [List.takeWhile_append_of_pos behind, if_neg, List.dropWhile_append_of_pos behind]
    intro none
    obtain ⟨first, second⟩ := none
    have empty := (List.append_eq_nil_iff.mp (List.isEmpty_iff.mp second)).1
    exact digits.some (by rw [List.isEmpty_iff.mp first, empty, List.append_nil])

theorem withExponentScaled {negative : Bool} {whole fraction scale after rest : List Char}
    {exponent : Int} {numeral : Numeral} {mark : Char}
    (spelled : Exponent exponent (mark :: scale))
    (found : withExponent negative whole fraction (mark :: scale ++ after) = .found numeral rest) :
    rest.length ≤ after.length := by
  cases spelled with
  | @marked _ sign below digits marks signs counts =>
    have split : splitSign ((below ++ digits) ++ after) = (sign, digits ++ after) := by
      rw [List.append_assoc]
      exact splitSignOf signs (digitsUnsigned counts.some counts.all)
    unfold withExponent at found
    rw [List.cons_append, exponentMarked marks, split] at found
    dsimp only at found
    rw [List.takeWhile_append_of_pos counts.all, List.dropWhile_append_of_pos counts.all,
      if_neg (by simp [counts.some])] at found
    cases found
    exact (List.dropWhile_suffix _).length_le

theorem numeralLongest {numeral : Numeral} {token : List Char} (spelled : NumeralText numeral token)
    (after : List Char) :
    readNumeral (token ++ after) ≠ .absent ∧
      ∀ other rest, readNumeral (token ++ after) = .found other rest → rest.length ≤ after.length := by
  have some (negative whole fraction text) : withExponent negative whole fraction text ≠ .absent := by
    unfold withExponent
    cases exponentPart text <;> simp
  cases spelled with
  | @parts negative sign whole fraction body scale exponent signs digits scales =>
    rw [List.append_assoc, List.append_assoc]
    cases scale with
    | nil =>
      obtain ⟨more, others, left, scan, within⟩ := mantissaScan signs digits after
      rw [List.nil_append, scan]
      refine ⟨some _ _ _ _, fun other rest found => ?_⟩
      obtain ⟨_, _, _, rfl, _⟩ := withExponentFound found
      rw [List.length_append] at within
      omega
    | cons mark scale =>
      have past : Past (mark :: scale ++ after) := by
        cases scales with
        | marked marks _ _ => exact markPast marks _
      rw [numeralScan signs digits past]
      exact ⟨some _ _ _ _, fun other rest found => withExponentScaled scales found⟩

theorem readNumeralAbsent {text : List Char} (clean : Clean text) : readNumeral text = .absent := by
  rcases cleanCases clean with rfl | ⟨rest, rfl⟩ <;> rfl

theorem readNumeralBroken {text : List Char} :
    (∃ rest, readNumeral text = .broken rest) ↔ BreaksOff text := by
  constructor
  · rintro ⟨rest, broken⟩
    cases numeralScanned text with
    | absent none => rw [none] at broken; cases broken
    | mantissa signs digits split goes =>
      obtain ⟨mark, more, marks, rfl, none⟩ :=
        (withExponentBroken _ _ _).mp ⟨rest, goes.symm.trans broken⟩
      exact ⟨_, _, _, _, _, mark, more, signs, digits, marks, split, none⟩
  · rintro ⟨negative, sign, whole, fraction, body, mark, after, signs, digits, marks, rfl, none⟩
    rw [numeralScan signs digits (markPast marks after), withExponentBroken]
    exact ⟨mark, after, marks, rfl, none⟩

end NmeaReceiver.Sentence
