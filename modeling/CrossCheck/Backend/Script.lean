import CrossCheck.Backend

/-!
A backend that answers from a script and keeps a list of what it was asked.
-/

namespace CrossCheck

/-- A scripted answer; `silence` never comes. -/
inductive Answer (α : Type) where
  | given (a : α)
  | failure (message : String)
  | silence

structure Script where
  records : List (Answer Record)
  samples : Answer (List Record)
  asked : List String

namespace Script

inductive Interruption where
  | failure (message : String)
  | silence
deriving DecidableEq

def answer {α : Type} : Answer α → Session Script Interruption α
  | .given a => pure a
  | .failure message => throw (.failure message)
  | .silence => throw .silence

def ask (query : String) : Session Script Interruption Unit :=
  modify fun s => { s with asked := s.asked ++ [query] }

/-- Takes the next record; past the last one every record is empty. -/
def nextRecord : Session Script Interruption Record := do
  match (← get).records with
  | [] => pure []
  | a :: rest =>
    modify fun s => { s with records := rest }
    answer a

def backend : Backend Script Interruption where
  aggregate query := do
    ask query
    nextRecord
  sample query := do
    ask query
    answer (← get).samples

end Script
end CrossCheck
