import RenkuNotebooks.Foundation.PyText

/-!
# The status of a repository

`status` of `sidecar/commands/base.py`: what the sidecar reads in the output of
`git status --porcelain=v2 --branch`.
-/

namespace RenkuNotebooks.GitServices

structure RepositoryStatus where
  clean : Bool := true
  ahead : Int := 0
  behind : Int := 0
  branch : String := ""
  commit : String := ""
  status : String
  deriving DecidableEq, Repr

inductive StatusError where
  | valueError
  deriving DecidableEq, Repr

def aheadBehindStart : String := "# branch.ab "

def branchStart : String := "# branch.head "

def commitStart : String := "# branch.oid "

/-- `int(text[1:])` -/
def parseCount (text : String) : Except StatusError Int :=
  match PyText.toInt (PyText.after 1 text) with
  | some count => .ok count
  | none => .error .valueError

/-- The loop body of `status`. -/
def readLine (read : RepositoryStatus) (line : String) : Except StatusError RepositoryStatus :=
  if line = "" then .ok read
  else if PyText.startsWith line aheadBehindStart then
    match PyText.split (PyText.after aheadBehindStart.length line) ' ' with
    | [ahead, behind] => do
      let ahead ← parseCount ahead
      let behind ← parseCount behind
      pure { read with ahead, behind }
    | _ => .error .valueError
  else if PyText.startsWith line branchStart then
    .ok { read with branch := PyText.after branchStart.length line }
  else if PyText.startsWith line commitStart then
    .ok { read with commit := PyText.after commitStart.length line }
  else if line.toList.head? ∈ [some '1', some '2', some '?'] then .ok { read with clean := false }
  else .ok read

def status (output : String) : Except StatusError RepositoryStatus :=
  (PyText.splitlines output).foldlM readLine { status := output }

end RenkuNotebooks.GitServices
