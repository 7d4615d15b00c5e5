import NmeaReceiver.Sentence.Slot

/-! A layout is a list of slots, each after a comma. Reading one either fills its slots and
leaves the rest of the text, or tells what was missing and where. -/
namespace NmeaReceiver.Sentence

inductive Expected where
  | comma
  | letter
  | digit
  | finish
  deriving DecidableEq, Repr

/-- A stop: what was expected, the length of the text left there, and, within a repeated
group, the length left where the group starts. -/
structure Fault where
  expected : Expected
  left : Nat
  group : Option Nat
  deriving DecidableEq, Repr

abbrev Contents : List Slot → Type
  | [] => Unit
  | slot :: rest => Option slot.Value × Contents rest

def readSlot (slot : Slot) (text : List Char) :
    Except Fault (Option slot.Value × List Char) :=
  match slot.read text with
  | .found value rest => .ok (some value, rest)
  | .broken rest => .error ⟨.digit, rest.length, none⟩
  | .absent =>
    if slot.required then .error ⟨.letter, text.length, none⟩ else .ok (none, text)

def readComma : List Char → Except Fault (List Char)
  | ',' :: rest => .ok rest
  | text => .error ⟨.comma, text.length, none⟩

def readSlots : (slots : List Slot) → List Char → Except Fault (Contents slots × List Char)
  | [], text => .ok ((), text)
  | slot :: slots, text => do
    let text ← readComma text
    let (value, text) ← readSlot slot text
    let (values, text) ← readSlots slots text
    return ((value, values), text)

def readGroup (slots : List Slot) (text : List Char) :
    Except Fault (Contents slots × List Char) :=
  match readSlots slots text with
  | .ok filled => .ok filled
  | .error fault => .error { fault with group := some text.length }

def present (slot : Slot) : (n : Nat) → Contents (List.replicate n slot) → List slot.Value
  | 0, _ => []
  | n + 1, contents => contents.1.toList ++ present slot n contents.2

def readFinish : List Char → Except Fault Unit
  | [] => .ok ()
  | text => .error ⟨.finish, text.length, none⟩

theorem readSlotsAppend (a b : List Slot) (text : List Char) :
    (readSlots (a ++ b) text).map Prod.snd =
      (do let (_, text) ← readSlots a text; (readSlots b text).map Prod.snd) := by
  induction a generalizing text with
  | nil => rfl
  | cons slot rest ih =>
    simp only [List.cons_append, readSlots]
    cases readComma text with
    | error f => rfl
    | ok t =>
      show Except.map _ (readSlot slot t >>= _) = _
      cases first : readSlot slot t with
      | error f => simp only [bind, Except.bind, first, Except.map]
      | ok pair =>
        have tail := ih pair.2
        simp only [bind, Except.bind, first] at tail ⊢
        cases whole : readSlots (rest ++ b) pair.2 <;> cases half : readSlots rest pair.2 <;>
          simp_all [Except.map, pure, Except.pure]

end NmeaReceiver.Sentence
