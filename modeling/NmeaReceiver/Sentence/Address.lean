/-! The address at the front of a body: two characters for the talker, three for the kind of
sentence. -/
namespace NmeaReceiver.Sentence

inductive Talker where
  | galileo
  | beiDou
  | glonass
  | combination
  | gps
  | unknown (code : List Char)
  deriving DecidableEq, Repr

def Talker.ofCode (code : List Char) : Talker :=
  if code = ['G', 'A'] then .galileo
  else if code = ['G', 'B'] ∨ code = ['B', 'D'] then .beiDou
  else if code = ['G', 'L'] then .glonass
  else if code = ['G', 'N'] then .combination
  else if code = ['G', 'P'] then .gps
  else .unknown code

inductive Kind where
  | rmc
  | gga
  | gsa
  | zda
  deriving DecidableEq, Repr

def Kind.name : Kind → String
  | .rmc => "RMC"
  | .gga => "GGA"
  | .gsa => "GSA"
  | .zda => "ZDA"

def Kind.ofCode? (code : List Char) : Option Kind :=
  if code = ['R', 'M', 'C'] then some .rmc
  else if code = ['G', 'G', 'A'] then some .gga
  else if code = ['G', 'S', 'A'] then some .gsa
  else if code = ['Z', 'D', 'A'] then some .zda
  else none

theorem Kind.ofCodeName (kind : Kind) : Kind.ofCode? kind.name.toList = some kind := by
  cases kind <;> decide

structure Address where
  talker : Talker
  kind : Option Kind
  deriving DecidableEq, Repr

def isAddressChar (c : Char) : Bool := c.isUpper || c.isDigit

def Address.split? (body : List Char) : Option (Address × List Char) :=
  let code := body.take 5
  if code.length = 5 ∧ code.all isAddressChar then
    some (⟨.ofCode (code.take 2), Kind.ofCode? (code.drop 2)⟩, body.drop 5)
  else none

end NmeaReceiver.Sentence
