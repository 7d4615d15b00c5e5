import NmeaReceiver.Settings.Document.Value

/-! Fields of records in a settings document. -/
namespace NmeaReceiver.Settings
open NmeaReceiver.Settings.Document

def field? (entries : Entries) (name : String) : Option (Option Value) :=
  match entries.filter fun entry => entry.1 == name.toList with
  | [] => some none
  | [entry] => some (some entry.2)
  | _ => none

/-- The values of a record's fields. A table has them by name, whatever else it has; an array
has all of them in their order; a date has none. -/
def fields? (names : List String) : Value → Option (List (Option Value))
  | .table entries | .dotted entries => names.mapM (field? entries)
  | .array values => if values.length = names.length then some (values.map some) else none
  | .datetime => some (names.map fun _ => none)
  | _ => none

def text? : Value → Option String
  | .text value => some (String.ofList value)
  | _ => none

def natural? (limit : Nat) : Value → Option Nat
  | .integer value => if 0 ≤ value ∧ value ≤ limit then some value.toNat else none
  | _ => none

def optional {α : Type} (read : Value → Option α) : Option Value → Option (Option α)
  | none => some none
  | some value => (read value).map some

theorem naturalBound {limit n : Nat} {value : Value} (read : natural? limit value = some n) :
    n ≤ limit := by
  unfold natural? at read
  split at read
  · split at read
    · cases Option.some.inj read
      omega
    · simp at read
  · simp at read

end NmeaReceiver.Settings
