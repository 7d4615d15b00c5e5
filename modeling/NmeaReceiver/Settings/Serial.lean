/-! The settings of a serial line: a framing such as `8N1` (data bits, parity, stop bits) and a
letter for flow control. -/
namespace NmeaReceiver.Settings

inductive DataBits where
  | five
  | six
  | seven
  | eight
  deriving DecidableEq, Repr

inductive Parity where
  | none
  | odd
  | even
  deriving DecidableEq, Repr

inductive StopBits where
  | one
  | two
  deriving DecidableEq, Repr

inductive FlowControl where
  | none
  | software
  | hardware
  deriving DecidableEq, Repr

inductive SerialFault where
  | framing (text : String)
  | dataBits (letter : Char)
  | parity (letter : Char)
  | stopBits (letter : Char)
  | flowControl (text : String)
  deriving DecidableEq, Repr

def SerialFault.message : SerialFault → String
  | .framing text => "framing " ++ text ++ " must be three characters, data bits, parity, stop bits"
  | .dataBits letter => "data bits " ++ letter.toString ++ " must be 8, 7, 6, or 5"
  | .parity letter => "parity " ++ letter.toString ++ " must be N(one), O(dd), or E(ven)"
  | .stopBits letter => "stop bits " ++ letter.toString ++ " must be 1 or 2"
  | .flowControl text => "flow control " ++ text ++ " must be H(ardware), S(oftware), or N(one)"

structure Framing where
  dataBits : DataBits
  parity : Parity
  stopBits : StopBits
  deriving DecidableEq, Repr

def DataBits.read : Char → Except SerialFault DataBits
  | '8' => .ok .eight
  | '7' => .ok .seven
  | '6' => .ok .six
  | '5' => .ok .five
  | other => .error (.dataBits other)

def Parity.read : Char → Except SerialFault Parity
  | 'N' => .ok .none
  | 'O' => .ok .odd
  | 'E' => .ok .even
  | other => .error (.parity other)

def StopBits.read : Char → Except SerialFault StopBits
  | '1' => .ok .one
  | '2' => .ok .two
  | other => .error (.stopBits other)

def Framing.standard : Framing := ⟨.eight, .none, .one⟩

def Framing.read (text : String) : Except SerialFault Framing :=
  match text.toList with
  | [d, p, s] => do return ⟨← DataBits.read d, ← Parity.read p, ← StopBits.read s⟩
  | _ => .error (.framing text)

def FlowControl.read (text : String) : Except SerialFault FlowControl :=
  if text = "H" then .ok .hardware
  else if text = "S" then .ok .software
  else if text = "N" then .ok .none
  else .error (.flowControl text)

structure SerialLine where
  baudRate : Nat
  framing : Framing
  flowControl : FlowControl
  deriving DecidableEq, Repr

def standardBaudRate : Nat := 4800

def SerialLine.read (baudRate : Option Nat) (framing flowControl : Option String) :
    Except SerialFault SerialLine := do
  let framing ← match framing with
    | some text => Framing.read text
    | none => .ok .standard
  let flow ← match flowControl with
    | some text => FlowControl.read text
    | none => .ok .none
  return ⟨baudRate.getD standardBaudRate, framing, flow⟩

end NmeaReceiver.Settings
