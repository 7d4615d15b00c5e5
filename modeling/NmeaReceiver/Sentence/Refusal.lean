import NmeaReceiver.Sentence.Address
import NmeaReceiver.Sentence.Layout
import NmeaReceiver.Text.Written

/-! Why a line is no sentence, and the words for it. -/
namespace NmeaReceiver.Sentence
open NmeaReceiver.Text

inductive Refusal where
  | framing (text : List Char)
  | nonPrintable (body : List Char)
  | checksum (body : List Char) (given calculated : Nat)
  | address (body : List Char)
  | fields (kind : Kind) (detail : String)
  deriving DecidableEq, Repr

def Expected.name : Expected → String
  | .comma => "Tag"
  | .letter => "OneOf"
  | .digit => "Digit"
  | .finish => "Eof"

structure Entry where
  what : String
  position : Nat
  deriving DecidableEq, Repr

def Fault.entries (kind : Kind) (length : Nat) (fault : Fault) : List Entry :=
  ⟨fault.expected.name, length - fault.left⟩
    :: (fault.group.toList.map fun left => ⟨"Count", length - left⟩)
    ++ [⟨kind.name, 0⟩]

def trimBlanks (text : List Char) : List Char :=
  (text.reverse.dropWhile (· == ' ')).reverse

def Entry.text (shown : List Char) (n : Nat) (entry : Entry) : String :=
  if shown.isEmpty then toString n ++ ": in " ++ entry.what ++ ", got empty input\n\n"
  else toString n ++ ": at line 1, in " ++ entry.what ++ ":\n" ++ String.ofList (trimBlanks shown)
    ++ "\n" ++ alignRight (entry.position + 1) "^" ++ "\n\n"

def Fault.report (kind : Kind) (text : List Char) (fault : Fault) : String :=
  String.join ((fault.entries kind text.length).zipIdx.map fun (entry, n) => entry.text text n)

theorem reportBegins {kind : Kind} {text : List Char} {fault : Fault} {entry : Entry} {outer : List Entry}
    (entries : fault.entries kind text.length = entry :: outer) :
    fault.report kind text = entry.text text 0 ++
      String.join ((outer.zipIdx 1).map fun (entry, n) => entry.text text n) := by
  rw [Fault.report, entries, List.zipIdx_cons, List.map_cons, String.join_cons]

theorem entryCaret {shown : List Char} (some : shown ≠ []) (n : Nat) (entry : Entry) :
    ∃ heading, entry.text shown n = heading ++ "\n" ++ String.ofList (trimBlanks shown) ++ "\n" ++
      String.ofList (List.replicate entry.position ' ') ++ "^\n\n" := by
  have filled : shown.isEmpty = false := List.isEmpty_eq_false_iff.mpr some
  have caret : alignRight (entry.position + 1) "^" = String.ofList (List.replicate entry.position ' ') ++ "^" :=
    rfl
  refine ⟨toString n ++ ": at line 1, in " ++ entry.what ++ ":", ?_⟩
  rw [Entry.text, filled, caret]
  simp only [Bool.false_eq_true, if_false, String.append_assoc]
  rfl

def Refusal.message : Refusal → String
  | .framing text => "no sentence framing in \"" ++ String.ofList text ++ "\""
  | .nonPrintable body => "non-printable character in \"" ++ String.ofList body ++ "\""
  | .checksum body given calculated =>
    "checksum mismatch on \"" ++ String.ofList body ++ "\", given " ++ hexPair given
      ++ ", calculated " ++ hexPair calculated
  | .address body => "invalid address in \"" ++ String.ofList body ++ "\""
  | .fields kind detail => "malformed " ++ kind.name ++ " sentence: " ++ detail

end NmeaReceiver.Sentence
