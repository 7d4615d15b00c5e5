import NmeaReceiver.Fix.Snapshot
import NmeaReceiver.Proofs.Calendar.Written

/-! The line of JSON read back. No text in it holds a comma and no key a quotation mark, so the pieces
between its commas are the members of the snapshot, each key with the text of its value. -/
namespace NmeaReceiver.Fix
open NmeaReceiver.Calendar NmeaReceiver.Decimal NmeaReceiver.Text
open NmeaReceiver.Sentence (digitsCommaFree writtenDigits paddedDigits)

def readMember : List Char → Option (String × String)
  | '"' :: text => match text.dropWhile (· != '"') with
    | '"' :: ':' :: value => some (String.ofList (text.takeWhile (· != '"')), String.ofList value)
    | _ => none
  | _ => none

def readMembers (json : String) : Option (List (String × String)) :=
  match json.toList with
  | '\x7b' :: text =>
    if text.getLast? = some '\x7d' then (text.dropLast.splitOn ',').mapM readMember else none
  | _ => none

section CommaFree

variable {a b : String}

theorem appendFree (first : ',' ∉ a.toList) (second : ',' ∉ b.toList) : ',' ∉ (a ++ b).toList := by
  rw [String.toList_append, List.mem_append]
  exact not_or.mpr ⟨first, second⟩

theorem iteFree {p : Prop} [Decidable p] (first : ',' ∉ a.toList) (second : ',' ∉ b.toList) :
    ',' ∉ (if p then a else b).toList := by
  split
  · exact first
  · exact second

theorem partFree {text part : List Char} (free : ',' ∉ text) (within : part ⊆ text) :
    ',' ∉ (String.ofList part).toList := by
  rw [String.toList_ofList]
  exact fun member => free (within member)

theorem numberFree (n : Nat) : ',' ∉ (toString n).toList := digitsCommaFree (writtenDigits n)

theorem paddedFree (width n : Nat) : ',' ∉ (padded width n).toList :=
  digitsCommaFree (paddedDigits width n)

theorem zerosFree (n : Nat) : ',' ∉ (zeros n).toList := by simp [zeros]

theorem pointFree (form : ShortForm) (point : Point) : ',' ∉ (point.text form).toList := by
  have free := numberFree point.digits
  have digits := partFree free (List.Subset.refl _)
  have front (n : Nat) := partFree free (List.take_subset n _)
  have back (n : Nat) := partFree free (List.drop_subset n _)
  unfold Point.text
  refine iteFree (iteFree ?_ (iteFree ?_ ?_)) ?_
  · exact appendFree (appendFree digits (zerosFree _)) (by simp)
  · exact appendFree (appendFree (front _) (by simp)) (back _)
  · exact appendFree (appendFree (by simp) (zerosFree _)) digits
  · refine appendFree (appendFree (appendFree (front 1) ?_) ?_) (numberFree _)
    · exact iteFree (by simp) (appendFree (by simp) (back 1))
    · exact iteFree (by simp) (by simp)

theorem shortFree {x : Binary64} {text : String} (short : x.shortText? = some text) :
    ',' ∉ text.toList := by
  cases x with
  | nan => cases short
  | infinite negative => cases short
  | finite negative units =>
    cases short
    exact appendFree (iteFree (by simp) (by simp)) (iteFree (by simp) (pointFree plainNumbers _))

theorem timestampFree (i : Instant) : ',' ∉ i.timestamp.toList := by
  have year : ',' ∉ (Instant.yearText i.date.year).toList :=
    iteFree (paddedFree _ _) (appendFree (iteFree (by simp) (by simp)) (paddedFree _ _))
  have fraction : ',' ∉ (Instant.fractionText i.microseconds).toList :=
    iteFree (by simp) (iteFree (appendFree (by simp) (paddedFree _ _))
      (appendFree (by simp) (paddedFree _ _)))
  simp [Instant.timestamp, Instant.text, year, fraction, paddedFree]

theorem numberValueFree (x : Option Binary64) : ',' ∉ (numberValue x).text.toList := by
  unfold numberValue
  cases short : x.bind Binary64.shortText? with
  | none => simp [Value.text]
  | some text =>
    obtain ⟨number, _, short⟩ := Option.bind_eq_some_iff.mp short
    exact shortFree short

theorem stringValueFree {x : Option String} (free : ∀ text ∈ x, ',' ∉ text.toList) :
    ',' ∉ (stringValue x).text.toList := by
  cases x with
  | none => simp [stringValue, Value.text]
  | some text => simp [stringValue, Value.text, free text rfl]

end CommaFree

def memberText (member : String × Value) : String := "\"" ++ member.1 ++ "\":" ++ member.2.text

theorem memberRead {key : String} (plain : '"' ∉ key.toList) (value : Value) :
    readMember (memberText (key, value)).toList = some (key, value.text) := by
  have text : (memberText (key, value)).toList = '"' :: (key.toList ++ '"' :: ':' :: value.text.toList) := by
    simp [memberText]
  have all : ∀ c ∈ key.toList, (c != '"') = true := by
    intro c member
    exact bne_iff_ne.mpr fun same => plain (same ▸ member)
  rw [text, readMember, List.takeWhile_append_of_pos all, List.dropWhile_append_of_pos all]
  simp

theorem membersRead {members : List (String × Value)} (plain : ∀ member ∈ members, '"' ∉ member.1.toList) :
    (members.map fun member => (memberText member).toList).mapM readMember =
      some (members.map fun member => (member.1, member.2.text)) := by
  induction members with
  | nil => rfl
  | cons member members ih =>
    have later := ih fun other among => plain other (List.mem_cons_of_mem _ among)
    rw [List.map_cons, List.mapM_cons, memberRead (plain member List.mem_cons_self) member.2, later]
    rfl

theorem plainKeys (s : State) : ∀ member ∈ s.members, '"' ∉ member.1.toList ∧ ',' ∉ member.1.toList := by
  simp [State.members]

theorem valuesFree (s : State) : ∀ member ∈ s.members, ',' ∉ member.2.text.toList := by
  have timestamp : ',' ∉ (stringValue (s.utc.map Instant.timestamp)).text.toList := by
    refine stringValueFree fun text told => ?_
    obtain ⟨i, _, rfl⟩ := Option.map_eq_some_iff.mp told
    exact timestampFree i
  have status : ',' ∉ (stringValue (s.status.map Status.name)).text.toList := by
    refine stringValueFree fun text told => ?_
    obtain ⟨kind, _, rfl⟩ := Option.map_eq_some_iff.mp told
    cases kind <;> simp [Status.name]
  have flag (value : Bool) : ',' ∉ (Value.flag value).text.toList := by
    cases value <;> simp [Value.text]
  simp only [State.members, List.forall_mem_cons]
  exact ⟨numberValueFree _, numberValueFree _, numberValueFree _, timestamp, numberValueFree _, status,
    flag _, flag _, nofun⟩

theorem jsonText (s : State) : s.json.toList =
    '\x7b' :: ([','].intercalate (s.members.map fun member => (memberText member).toList) ++ ['\x7d']) := by
  have texts : s.members.map (fun member => (memberText member).toList) =
      (s.members.map memberText).map String.toList := List.map_map.symm
  rw [State.json, String.toList_append, String.toList_append, String.toList_intercalate, texts]
  rfl

theorem jsonRead (s : State) :
    readMembers s.json = some (s.members.map fun member => (member.1, member.2.text)) := by
  have free : ∀ piece ∈ s.members.map (fun member => (memberText member).toList), ',' ∉ piece := by
    intro piece among
    obtain ⟨member, listed, rfl⟩ := List.mem_map.mp among
    simp [memberText, (plainKeys s member listed).2, valuesFree s member listed]
  have split := List.splitOn_intercalate ',' free (by simp [State.members])
  rw [readMembers, jsonText]
  simp only [List.getLast?_concat, if_true, List.dropLast_concat, split]
  exact membersRead fun member listed => (plainKeys s member listed).1

end NmeaReceiver.Fix
