import NmeaReceiver.Settings.Document.Line

/-! The tree of a settings document: the tables under each header, put in their places. -/
namespace NmeaReceiver.Settings.Document

structure Section where
  path : List (List Char)
  array : Bool
  entries : Entries

def sections : Option Section → List Line → Option (List Section)
  | current, [] => some current.toList
  | current, .header key parts array :: rest => do
    let later ← sections (some ⟨key :: parts, array, []⟩) rest
    return current.toList ++ later
  | current, .entry key parts value :: rest => do
    let now := current.getD ⟨[], false, []⟩
    let entries ← insertDotted key parts value now.entries
    sections (some { now with entries := entries }) rest

def Section.isHere (s : Section) : Bool := s.path.isEmpty

def Section.beginsElement (s : Section) : Bool := s.array && s.isHere

def under (key : List Char) (sections : List Section) : List Section :=
  sections.filterMap fun s => match s.path with
    | first :: rest => if first == key then some { s with path := rest } else none
    | [] => none

def keys (sections : List Section) : List (List Char) :=
  (sections.filterMap fun s => s.path.head?).eraseDups

def elements (sections : List Section) : List (List Section) :=
  (sections.foldr place ([], [])).2
where
  place (s : Section) (placed : List Section × List (List Section)) :
      List Section × List (List Section) :=
    if s.beginsElement then ([], ({ s with array := false } :: placed.1) :: placed.2)
    else (s :: placed.1, placed.2)

def entriesHere (sections : List Section) : Option Entries :=
  match sections.filter Section.isHere with
  | [] => some []
  | [s] => if s.array then none else some s.entries
  | _ => none

def table : Nat → List Section → Option Entries
  | 0, sections => entriesHere sections
  | depth + 1, sections => do
    let here ← entriesHere sections
    let below ← (keys sections).mapM fun key => do
      let inner := under key sections
      if (inner.head?.map Section.beginsElement).getD false then
        return (key, Value.array (← (elements inner).mapM fun e => do return .table (← table depth e)))
      else return (key, Value.table (← table depth inner))
    return here ++ below

def depth (sections : List Section) : Nat := (sections.map (·.path.length)).foldl max 0

def ofText? (text : List Char) : Option Entries := do
  let sections ← sections none (← lines? (← tokens? text))
  table (depth sections) sections

end NmeaReceiver.Settings.Document
