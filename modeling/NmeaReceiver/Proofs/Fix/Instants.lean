import NmeaReceiver.Proofs.Calendar.Days
import NmeaReceiver.Proofs.Calendar.Written
import NmeaReceiver.Proofs.Fix.LastWriter
import NmeaReceiver.Proofs.Sentence.Truncation

/-! From the digits of a line to the instant that is stored and back to digits. A line gives a time of
day in its first field; its day stands in its last field, in three fields, or is the clock's. -/
namespace NmeaReceiver.Fix
open NmeaReceiver.Calendar NmeaReceiver.Decimal NmeaReceiver.Sentence NmeaReceiver.Text

inductive TimeSent (fields : List (List Char)) : TimeOfDay → List Char → Prop
  | sent {hours minutes seconds rest : List Char} {fraction : Nat}
      (field : fields[1]? = some (hours ++ (minutes ++ (seconds ++ rest))))
      (hour : Fixed 2 hours) (minute : Fixed 2 minutes) (second : Fixed 2 seconds)
      (part : Subsecond fraction rest) :
      TimeSent fields ⟨digitsValue hours, digitsValue minutes, digitsValue seconds, fraction⟩
        (hours ++ ':' :: (minutes ++ ':' :: seconds))

inductive DateSent (clock : Clock) (fields : List (List Char)) : Kind → Date → List Char → Prop
  | rmc {days months years rest : List Char}
      (after : [','].intercalate (fields.drop 9) = days ++ (months ++ (years ++ rest)))
      (day : Fixed 2 days) (month : Fixed 2 months) (year : Fixed 2 years) :
      DateSent clock fields .rmc
        ⟨2000 + (digitsValue years : Int), digitsValue months, digitsValue days⟩
        ('2' :: '0' :: years ++ '-' :: (months ++ '-' :: days))
  | gga {today : Date} {days months years : List Char}
      (now : DayNumber today (clock.now.seconds / 86400)) (day : TwoDigitsText today.day days)
      (month : TwoDigitsText today.month months) (year : YearPrinted today.year years) :
      DateSent clock fields .gga today (years ++ '-' :: (months ++ '-' :: days))
  | zda {year : Int} {days months years printed : List Char} (onDay : fields[2]? = some days)
      (inMonth : fields[3]? = some months) (inYear : fields[4]? = some years)
      (day : Fixed 2 days) (month : Fixed 2 months) (spelled : YearText year years)
      (prints : YearPrinted year printed) (same : Fixed 4 years → printed = years) :
      DateSent clock fields .zda ⟨year, digitsValue months, digitsValue days⟩
        (printed ++ '-' :: (months ++ '-' :: days))

inductive Transmits (clock : Clock) (line : List Char) : Kind → Date → TimeOfDay → List Char → Prop
  | sent {kind : Kind} {date : Date} {time : TimeOfDay} {noise body after days clocked : List Char}
      (placed : Placed line body noise after) (named : (body.drop 2).take 3 = kind.name.toList)
      (dated : DateSent clock ((body.drop 5).splitOn ',') kind date days)
      (timed : TimeSent ((body.drop 5).splitOn ',') time clocked) :
      Transmits clock line kind date time (days ++ 'T' :: clocked)

structure Shows (utc : Instant) (date : Date) (time : TimeOfDay) : Prop where
  day : DayNumber date (utc.seconds / 86400)
  second : utc.seconds % 86400 = (time.hours * 3600 + time.minutes * 60 + time.seconds : Nat)
  minutes : time.minutes < 60
  seconds : time.seconds < 60
  fraction : utc.microseconds = time.microseconds ∧ time.microseconds < 1000000

inductive Ready (clock : Clock) : Sentence → Kind → Date → TimeOfDay → Prop
  | rmc {r : Rmc} {place : Coordinates} {date : Date} {time : TimeOfDay} (active : r.active = true)
      (position : r.position = some place) (timed : r.time = some time) (dated : r.date = some date) :
      Ready clock (.rmc r) .rmc date time
  | gga {g : Gga} {place : Coordinates} {time : TimeOfDay} (fixed : g.quality ≠ 0)
      (position : g.position = some place) (timed : g.time = some time) :
      Ready clock (.gga g) .gga clock.now.date time
  | zda {z : Zda} {day month : Nat} {year : Int} {time : TimeOfDay} (timed : z.time = some time)
      (onDay : z.day = some day) (inMonth : z.month = some month) (inYear : z.year = some year) :
      Ready clock (.zda z) .zda ⟨year, month, day⟩ time

def Impossible (date : Date) (time : TimeOfDay) : Prop :=
  ¬ (date.InCalendar ∧ firstYear ≤ date.year ∧ date.year ≤ lastYear) ∨
    24 ≤ time.hours ∨ 60 ≤ time.minutes ∨ 60 ≤ time.seconds

def writtenDate (d : Date) : List Char :=
  (Instant.yearText d.year).toList ++ '-' :: ((padded 2 d.month).toList ++ '-' :: (padded 2 d.day).toList)

def writtenTime (t : TimeOfDay) : List Char :=
  (padded 2 t.hours).toList ++ ':' :: ((padded 2 t.minutes).toList ++ ':' :: (padded 2 t.seconds).toList)

theorem subsecondBound {fraction : Nat} {text : List Char} (part : Subsecond fraction text) :
    fraction < 1000000 := by
  cases part with
  | none => decide
  | @pointed fraction digits =>
    have all : ∀ c ∈ (fraction ++ List.replicate 6 '0').take 6, c.isDigit = true := by
      intro c member
      rcases List.mem_append.mp (List.mem_of_mem_take member) with given | zero
      · exact digits.all c given
      · rw [List.eq_of_mem_replicate zero]
        rfl
    have length : ((fraction ++ List.replicate 6 '0').take 6).length = 6 := by simp
    have below := digitsBound all
    rw [length] at below
    exact below

theorem timeSent {fields : List (List Char)} {time : TimeOfDay} {text : List Char}
    (field : fields[1]? = some text) (spelled : TimeText time text) :
    TimeSent fields time (writtenTime time) := by
  cases spelled with
  | @parts hours minutes seconds rest fraction hour minute second part =>
    have sent : TimeSent fields _ _ := .sent field hour minute second part
    simp only [writtenTime, paddedOf (by decide : 0 < 2) hour, paddedOf (by decide : 0 < 2) minute,
      paddedOf (by decide : 0 < 2) second]
    exact sent

theorem timeSentFraction {fields : List (List Char)} {time : TimeOfDay} {text : List Char}
    (sent : TimeSent fields time text) : time.microseconds < 1000000 := by
  cases sent with
  | sent field hour minute second part => exact subsecondBound part

variable {clock : Clock} {talker : Talker} {text : List Char} {date : Date} {time : TimeOfDay}

theorem rmcDate {fields : List (List Char)} {piece rest : List Char} (spelled : DateText date piece)
    (after : [','].intercalate (fields.drop 9) = piece ++ rest) :
    DateSent clock fields .rmc date (writtenDate date) := by
  cases spelled with
  | @parts days months years day month year =>
    have sent : DateSent clock fields .rmc _ _ := .rmc (by simpa using after) day month year
    simp only [writtenDate, yearTextTwenty year, paddedOf (by decide : 0 < 2) month,
      paddedOf (by decide : 0 < 2) day]
    exact sent

theorem ggaDate (clock : Clock) (fields : List (List Char)) :
    DateSent clock fields .gga clock.now.date (writtenDate clock.now.date) := by
  have now : DayNumber clock.now.date (clock.now.seconds / 86400) := dayNumberOf _
  obtain ⟨_, length, months, last⟩ := (dayNumberCounts now).1
  obtain ⟨_, month, _, long⟩ := monthBounds months
  have hundred : tenTo 2 = 100 := rfl
  exact .gga now ⟨paddedFixed (by decide) (by omega), paddedValue 2 _⟩
    ⟨paddedFixed (by decide) (by omega), paddedValue 2 _⟩ (yearTextPrinted _)

theorem yearSame {year : Int} {years : List Char} (spelled : YearText year years)
    (fixed : Fixed 4 years) : (Instant.yearText year).toList = years := by
  obtain ⟨negative, sign, digits, rfl, signs, run, _, rfl⟩ := spelled
  cases signs with
  | none => exact yearTextFixed fixed
  | plus => exact absurd (fixed.all '+' List.mem_cons_self) (by decide)
  | minus => exact absurd (fixed.all '-' List.mem_cons_self) (by decide)

theorem zdaDate {fields : List (List Char)} {year : Int} {month day : Nat}
    {days months years : List Char} (onDay : fields[2]? = some days)
    (inMonth : fields[3]? = some months) (inYear : fields[4]? = some years)
    (daySpelled : TwoDigitsText day days) (monthSpelled : TwoDigitsText month months)
    (spelled : YearText year years) :
    DateSent clock fields .zda ⟨year, month, day⟩ (writtenDate ⟨year, month, day⟩) := by
  obtain ⟨dayFixed, rfl⟩ := daySpelled
  obtain ⟨monthFixed, rfl⟩ := monthSpelled
  have sent : DateSent clock fields .zda _ _ :=
    .zda onDay inMonth inYear dayFixed monthFixed spelled (yearTextPrinted year) (yearSame spelled)
  simp only [writtenDate, paddedOf (by decide : 0 < 2) monthFixed, paddedOf (by decide : 0 < 2) dayFixed]
  exact sent

def Sent (clock : Clock) (text : List Char) (kind : Kind) (date : Date) (time : TimeOfDay) : Prop :=
  DateSent clock (text.splitOn ',') kind date (writtenDate date) ∧
    TimeSent (text.splitOn ',') time (writtenTime time)

theorem rmcSent {r : Rmc} (read : Rmc.read talker text = .ok r) (timed : r.time = some time)
    (dated : r.date = some date) : Sent clock text .rmc date time := by
  obtain ⟨first, stands, holds⟩ := (rmcTells read).clocked
  rw [timed] at holds
  obtain ⟨contents, day, rest, filled, rfl⟩ := rmcRead.mp read
  cases (show day = some date from dated)
  obtain ⟨after, front, back⟩ := lastRead.mp filled
  obtain ⟨tail, _, rfl, fields, split, pieces⟩ := openLayout.mp front
  obtain ⟨piece, left, spelled⟩ := readDateFound.mp (readSlotSome back)
  have count : fields.length = 8 := filledPieces pieces
  have last : (text.splitOn ',').drop 9 = tail := by simp [split, count]
  exact ⟨rmcDate spelled (last ▸ left), timeSent stands holds⟩

theorem ggaSent {g : Gga} (read : Gga.read talker text = .ok g) (timed : g.time = some time) :
    Sent clock text .gga clock.now.date time := by
  obtain ⟨first, stands, holds⟩ := (ggaTells read).clocked
  rw [timed] at holds
  exact ⟨ggaDate clock _, timeSent stands holds⟩

theorem zdaSent {z : Zda} {year : Int} {month day : Nat} (read : Zda.read talker text = .ok z)
    (timed : z.time = some time) (onDay : z.day = some day) (inMonth : z.month = some month)
    (inYear : z.year = some year) : Sent clock text .zda ⟨year, month, day⟩ time := by
  obtain ⟨⟨clocked, days, months, years, others⟩, filled, rfl⟩ := zdaRead.mp read
  cases (show clocked = some time from timed)
  cases (show days = some day from onDay)
  cases (show months = some month from inMonth)
  cases (show years = some year from inYear)
  obtain ⟨fields, split, holds⟩ := closedLayout.mp filled
  match fields, holds with
  | first :: second :: third :: fourth :: more, ⟨times, ofDay, ofMonth, ofYear, _⟩ =>
    exact ⟨zdaDate (by rw [split]; rfl) (by rw [split]; rfl) (by rw [split]; rfl) ofDay ofMonth ofYear,
      timeSent (by rw [split]; rfl) times⟩

theorem readySent {line body : List Char} {kind other : Kind} {sentence : Sentence}
    (recorded : Recorded line body other sentence) (ready : Ready clock sentence kind date time) :
    other = kind ∧ Sent clock (body.drop 5) kind date time := by
  cases ready with
  | rmc active position timed dated =>
    cases recordedAs recorded with
    | rmc read => exact ⟨rfl, rmcSent read timed dated⟩
  | gga fixed position timed =>
    cases recordedAs recorded with
    | gga read => exact ⟨rfl, ggaSent read timed⟩
  | zda timed onDay inMonth inYear =>
    cases recordedAs recorded with
    | zda read => exact ⟨rfl, zdaSent read timed onDay inMonth inYear⟩

theorem readyTransmits {line : List Char} {kind : Kind}
    (ready : Ready clock (ofLine line) kind date time) :
    Transmits clock line kind date time (writtenDate date ++ 'T' :: writtenTime time) ∧
      time.microseconds < 1000000 := by
  have recorded : ∃ body kind, Recorded line body kind (ofLine line) := by
    generalize told : ofLine line = sentence at ready
    cases ready <;> exact recordedLine told (by simp) (by simp)
  obtain ⟨body, other, recorded⟩ := recorded
  obtain ⟨noise, after, placed⟩ := recordedPlaced recorded
  obtain ⟨rfl, dated, timed⟩ := readySent recorded ready
  exact ⟨.sent placed recorded.named dated timed, timeSentFraction timed⟩

theorem fixedSplit {width : Nat} {run other rest after : List Char} (fixed : Fixed width run)
    (again : Fixed width other) (same : run ++ rest = other ++ after) : run = other ∧ rest = after :=
  List.append_inj same (fixed.length.trans again.length.symm)

theorem subsecondUnique {fraction other : Nat} {text : List Char} (part : Subsecond fraction text)
    (again : Subsecond other text) : fraction = other := by
  cases part <;> cases again <;> rfl

theorem timeSentUnique {fields : List (List Char)} {first second : TimeOfDay}
    {printed others : List Char} (sent : TimeSent fields first printed)
    (again : TimeSent fields second others) : first = second ∧ printed = others := by
  cases sent with
  | sent field hour minute second part =>
    cases again with
    | sent field' hour' minute' second' part' =>
      have whole := Option.some.inj (field.symm.trans field')
      obtain ⟨rfl, afterHour⟩ := fixedSplit hour hour' whole
      obtain ⟨rfl, afterMinute⟩ := fixedSplit minute minute' afterHour
      obtain ⟨rfl, rfl⟩ := fixedSplit second second' afterMinute
      obtain rfl := subsecondUnique part part'
      exact ⟨rfl, rfl⟩

theorem dayNumberUnique {first second : Date} {n : Int} (counted : DayNumber first n)
    (again : DayNumber second n) : first = second := by
  obtain ⟨here, number⟩ := dayNumberCounts counted
  obtain ⟨there, same⟩ := dayNumberCounts again
  rw [← ofNumberNumber here, number, ← same, ofNumberNumber there]

theorem twoDigitsUnique {value : Nat} {digits others : List Char} (spelled : TwoDigitsText value digits)
    (again : TwoDigitsText value others) : digits = others :=
  digitsInj (spelled.1.length.trans again.1.length.symm) spelled.1.all again.1.all
    (spelled.2.trans again.2.symm)

theorem dateSentUnique {fields : List (List Char)} {kind : Kind} {first second : Date}
    {printed others : List Char} (sent : DateSent clock fields kind first printed)
    (again : DateSent clock fields kind second others) : first = second ∧ printed = others := by
  cases sent with
  | rmc after day month year =>
    cases again with
    | rmc after' day' month' year' =>
      obtain ⟨rfl, afterDay⟩ := fixedSplit day day' (after.symm.trans after')
      obtain ⟨rfl, afterMonth⟩ := fixedSplit month month' afterDay
      obtain ⟨rfl, _⟩ := fixedSplit year year' afterMonth
      exact ⟨rfl, rfl⟩
  | gga now day month year =>
    cases again with
    | gga now' day' month' year' =>
      obtain rfl := dayNumberUnique now now'
      obtain rfl := twoDigitsUnique day day'
      obtain rfl := twoDigitsUnique month month'
      obtain rfl := yearPrintedUnique year year'
      exact ⟨rfl, rfl⟩
  | zda onDay inMonth inYear day month spelled prints same =>
    cases again with
    | zda onDay' inMonth' inYear' day' month' spelled' prints' same' =>
      obtain rfl := Option.some.inj (onDay.symm.trans onDay')
      obtain rfl := Option.some.inj (inMonth.symm.trans inMonth')
      obtain rfl := Option.some.inj (inYear.symm.trans inYear')
      obtain rfl := @spelledUnique .year _ _ _ spelled spelled'
      obtain rfl := yearPrintedUnique prints prints'
      exact ⟨rfl, rfl⟩

theorem transmitsUnique {line printed others : List Char} {kind other : Kind} {second : Date}
    {again : TimeOfDay} (sent : Transmits clock line kind date time printed)
    (resent : Transmits clock line other second again others) :
    date = second ∧ time = again ∧ printed = others := by
  cases sent with
  | sent placed named dated timed =>
    cases resent with
    | sent placed' named' dated' timed' =>
      obtain rfl := placedBody placed placed'
      have kinds : some kind = some other := by rw [← kind.ofCodeName, ← named, named', other.ofCodeName]
      obtain rfl := Option.some.inj kinds
      obtain ⟨rfl, rfl⟩ := dateSentUnique dated dated'
      obtain ⟨rfl, rfl⟩ := timeSentUnique timed timed'
      exact ⟨rfl, rfl, rfl⟩

theorem possibleIff {d : Date} {t : TimeOfDay} (fraction : t.microseconds < 1000000) :
    ¬ Impossible d t ↔ d.Exists ∧ t.Exists := by
  simp only [Impossible, existsIff, TimeOfDay.Exists, not_or, not_not, not_le, fraction, true_or,
    and_true]

theorem ofSome {utc : Instant} : Instant.of? date time = some utc ↔
    (date.Exists ∧ time.Exists) ∧
      utc = ⟨date.number * 86400 + time.secondOfDay, time.microseconds⟩ := by
  unfold Instant.of?
  split <;> simp_all [eq_comm]

theorem madeShows {utc : Instant} (made : Instant.of? date time = some utc)
    (fraction : time.microseconds < 1000000) : Shows utc date time := by
  obtain ⟨⟨there, hours, minutes, seconds, _⟩, rfl⟩ := ofSome.mp made
  have within : time.secondOfDay < 86400 := by unfold TimeOfDay.secondOfDay; omega
  have day : (date.number * 86400 + (time.secondOfDay : Int)) / 86400 = date.number := by omega
  have second : (date.number * 86400 + (time.secondOfDay : Int)) % 86400 = time.secondOfDay := by omega
  have counted : DayNumber date date.number := dayNumberIff.mpr ⟨((existsIff date).mp there).1, rfl⟩
  exact ⟨day.symm ▸ counted, second, minutes, seconds, rfl, fraction⟩

theorem madeText {utc : Instant} (made : Instant.of? date time = some utc)
    (fraction : time.microseconds < 1000000) :
    utc.text.toList = writtenDate date ++ 'T' :: writtenTime time := by
  obtain ⟨here, number⟩ := dayNumberIff.mp (madeShows made fraction).day
  have onDay : utc.date = date := by rw [Instant.date, ← number, ofNumberNumber here]
  have whole : time.microseconds / 1000000 = 0 := Nat.div_eq_of_lt fraction
  simp [Instant.text, Instant.timeOf made, onDay, whole, writtenDate, writtenTime]

theorem readyFails {sentence : Sentence} {kind : Kind} (ready : Ready clock sentence kind date time)
    (none : Instant.of? date time = none) :
    extract clock sentence = .error (.outOfRange kind date time) := by
  cases ready with
  | rmc active position timed dated =>
    simp [extract, ofRmc, active, position, timed, dated, required, instant, none, bind, Except.bind]
  | gga fixed position timed =>
    simp [extract, ofGga, fixed, position, timed, required, instant, none, bind, Except.bind]
  | zda timed onDay inMonth inYear =>
    simp [extract, ofZda, timed, onDay, inMonth, inYear, required, instant, none, bind, Except.bind]

theorem readyGives {sentence : Sentence} {kind : Kind} {utc : Instant}
    (ready : Ready clock sentence kind date time) (made : Instant.of? date time = some utc) :
    ∃ update offset, extract clock sentence = .ok update ∧ update.time = some ⟨utc, offset⟩ := by
  cases ready with
  | rmc active position timed dated =>
    exact ⟨_, _, ofRmcOk.mpr ⟨active, _, position, _, timed, _, dated, _, made, rfl⟩, rfl⟩
  | gga fixed position timed =>
    exact ⟨_, _, ofGgaOk.mpr ⟨fixed, _, position, _, timed, _, made, rfl⟩, rfl⟩
  | zda timed onDay inMonth inYear =>
    exact ⟨_, _, ofZdaOk.mpr ⟨_, timed, _, onDay, _, inMonth, _, inYear, _, made, rfl⟩, rfl⟩

theorem extractReady {sentence : Sentence} {update : Update} {fix : TimeFix}
    (told : extract clock sentence = .ok update) (timed : update.time = some fix) :
    ∃ kind date time, Ready clock sentence kind date time ∧ Instant.of? date time = some fix.utc := by
  cases extractExtracted told with
  | rmc active position clocked dated valid =>
    cases timed
    exact ⟨_, _, _, .rmc active position clocked dated, valid⟩
  | gga fixed position clocked valid =>
    cases timed
    exact ⟨_, _, _, .gga fixed position clocked, valid⟩
  | gsa g => cases timed
  | zda clocked onDay inMonth inYear valid =>
    cases timed
    exact ⟨_, _, _, .zda clocked onDay inMonth inYear, valid⟩

theorem ingestText {line : List Char} {update : Update} {fix : TimeFix}
    (told : extract clock (ofLine line) = .ok update) (timed : update.time = some fix) (s : State) :
    (s.ingest clock line).utcText = some fix.utc.text := by
  simp [State.ingest, told, State.utcText, timed]

/-- The instant that is stored shows the day and the time of day that the line transmits, and prints
them with the same digits; a line that is ready gives one unless there is no such day or time. -/
theorem sentTimeIsStored (clock : Clock) (line : List Char) :
    (∀ update fix, extract clock (ofLine line) = .ok update → update.time = some fix →
      (∃ kind date time printed, Transmits clock line kind date time printed) ∧
      ∀ kind date time printed, Transmits clock line kind date time printed →
        Shows fix.utc date time ∧
        ∀ s : State, (s.ingest clock line).utcText = some (String.ofList printed)) ∧
    ∀ kind date time, Ready clock (ofLine line) kind date time →
      (∃ printed, Transmits clock line kind date time printed) ∧
      (extract clock (ofLine line) = .error (.outOfRange kind date time) ↔ Impossible date time) ∧
      (¬ Impossible date time → ∃ update fix, extract clock (ofLine line) = .ok update ∧
        update.time = some fix) := by
  constructor
  · intro update fix told timed
    obtain ⟨kind, date, time, ready, made⟩ := extractReady told timed
    obtain ⟨sent, fraction⟩ := readyTransmits ready
    refine ⟨⟨kind, date, time, _, sent⟩, fun _ _ _ _ other => ?_⟩
    obtain ⟨rfl, rfl, rfl⟩ := transmitsUnique sent other
    refine ⟨madeShows made fraction, fun s => ?_⟩
    rw [ingestText told timed, ← madeText made fraction, String.ofList_toList]
  · intro kind date time ready
    obtain ⟨sent, fraction⟩ := readyTransmits ready
    have possible := @possibleIff date time fraction
    refine ⟨⟨_, sent⟩, ⟨fun failed => ?_, fun impossible => ?_⟩, fun free => ?_⟩
    · by_contra free
      obtain ⟨update, offset, told, _⟩ := readyGives ready (ofSome.mpr ⟨possible.mp free, rfl⟩)
      rw [told] at failed
      cases failed
    · refine readyFails ready (if_neg fun both => ?_)
      exact possible.mpr both impossible
    · obtain ⟨update, offset, told, timed⟩ := readyGives ready (ofSome.mpr ⟨possible.mp free, rfl⟩)
      exact ⟨update, _, told, timed⟩

end NmeaReceiver.Fix
