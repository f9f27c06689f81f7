import RepoVitals.Failure
/-!
Verdicts: what a bulk call says about its documents, one by one.

Owns the verdict on a document, when it counts as a success, and the summary of the failures.
-/

namespace RepoVitals.Bulk

/-- What became of one document of a bulk call. -/
structure Verdict where
  id : String
  status : Nat
  error : Option String
  deriving DecidableEq

namespace Verdict

/-- A document is stored if its status is one of success and no error is given. -/
def isStored (verdict : Verdict) : Bool :=
  verdict.error.isNone && Http.succeeds verdict.status

/-- A failure in words. -/
def text (verdict : Verdict) : String :=
  "[" ++ verdict.id ++ "]: status " ++ Text.decimal verdict.status ++ " " ++
    verdict.error.getD "(no reason given)"

/-- The verdict on a document that was stored. -/
def stored (id : String) : Verdict := ⟨id, 201, none⟩

end Verdict

/-- The verdicts that are failures, in order. -/
def failuresOf (verdicts : List Verdict) : List Verdict :=
  verdicts.filter (fun verdict => !verdict.isStored)

/-- The failures in words. -/
def summaryOfFailures (verdicts : List Verdict) : String :=
  "; ".intercalate ((failuresOf verdicts).map Verdict.text)

end RepoVitals.Bulk
