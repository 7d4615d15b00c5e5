import NmeaReceiver.Sentence.Frame
import NmeaReceiver.Sentence.Record
import NmeaReceiver.Sentence.Refusal

/-! Sentences. Every line is one, if only an invalid one that says why. -/
namespace NmeaReceiver
open NmeaReceiver.Sentence

inductive Sentence where
  | rmc (record : Rmc)
  | gga (record : Gga)
  | gsa (record : Gsa)
  | zda (record : Zda)
  | unrecognized (body : List Char)
  | invalid (refusal : Refusal)
  deriving DecidableEq, Repr

namespace Sentence

def ofRecord {α : Type} (kind : Kind) (text : List Char) (wrap : α → Sentence) :
    Except Fault α → Sentence
  | .ok record => wrap record
  | .error fault => .invalid (.fields kind (fault.report kind text))

def ofFields (talker : Talker) (kind : Kind) (text : List Char) : Sentence :=
  match kind with
  | .rmc => ofRecord kind text .rmc (Rmc.read talker text)
  | .gga => ofRecord kind text .gga (Gga.read talker text)
  | .gsa => ofRecord kind text .gsa (Gsa.read talker text)
  | .zda => ofRecord kind text .zda (Zda.read talker text)

def ofBody (body : List Char) : Sentence :=
  match Address.split? body with
  | none => .invalid (.address body)
  | some (address, text) => match address.kind with
    | none => .unrecognized body
    | some kind => ofFields address.talker kind text

def body? (line : List Char) : Except Refusal (List Char) :=
  match Frame.of? (trimLineEnd line) with
  | none => .error (.framing (trimLineEnd line))
  | some frame =>
    if !frame.body.all isPrintable then .error (.nonPrintable frame.body)
    else match frame.checksum with
      | none => .ok frame.body
      | some given =>
        let calculated := checksum frame.body
        if given = calculated then .ok frame.body
        else .error (.checksum frame.body given calculated)

def ofLine (line : List Char) : Sentence :=
  match body? line with
  | .error refusal => .invalid refusal
  | .ok body => ofBody body

def isNmea (line : List Char) : Bool :=
  match ofLine line with
  | .invalid _ => false
  | _ => true

end Sentence
end NmeaReceiver
