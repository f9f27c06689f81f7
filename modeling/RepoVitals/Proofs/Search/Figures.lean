import RepoVitals.Catalogue.Release
import RepoVitals.Proofs.Binary64.Integer
import RepoVitals.Proofs.Catalogue.Measure
import RepoVitals.Proofs.Json.Finite
import RepoVitals.Proofs.Ledger
import RepoVitals.Proofs.Steps
/-!
Numbers in answers.

Owns:
- answers whose total is an integer of 64 bits and whose hits hold numbers, as those of every answer
  do that was read from text;
- the readers on such an answer: whatever number they give is an integer of 64 bits;
- the same for what measures, thresholds and release checks read;
- `ReadFrom`: which part of a release check is read from which answer.
-/

namespace RepoVitals

open Json (Value View)

theorem isInt64_of_toInt64? {source : Value} {value : Int} (found : source.toInt64? = some value) :
    IsInt64 value := by
  cases source with
  | number number => exact Json.Number.isInt64_of_toInt64? found
  | _ => cases found

namespace Search.Response

/-- The total is an integer of 64 bits, if there is one. -/
def IsSmall (response : Response) : Prop :=
  ∀ total ∈ response.total, IsInt64 total

/-- Every number among the fields of a hit is one that a value can hold. -/
def HoldsNumbers (response : Response) : Prop :=
  ∀ source ∈ response.hits, source.HoldsNumbers

variable {response : Response}

/-! ### Readers -/

theorem isInt64_matchCount
    (small : response.IsSmall)
    {count : Int}
    (isCount : response.matchCount = .ok count) :
    IsInt64 count := by
  unfold matchCount at isCount
  split at isCount
  · rename_i isTotal
    cases isCount
    exact small _ isTotal
  · cases isCount

theorem isInt64_distinct
    {name : String}
    {count : Int}
    (isCount : response.distinct name = .ok count) :
    IsInt64 count := by
  obtain ⟨value, -, isTruncated⟩ := Outcome.exists_of_bind_eq_ok isCount
  cases isTruncated
  exact Binary64.isInt64_truncate value

theorem isInt64_countOf
    {name : String}
    {bucket : Value}
    {entry : String × Int}
    (isEntry : countOf name bucket = .ok entry) :
    IsInt64 entry.2 := by
  obtain ⟨key, -, isCounted⟩ := Outcome.exists_of_bind_eq_ok isEntry
  split at isCounted
  · rename_i count isCount
    cases isCounted
    obtain ⟨part, -, isPart⟩ := Option.bind_eq_some_iff.mp isCount
    exact isInt64_of_toInt64? isPart
  · cases isCounted

/-- All counts of a ledger are integers of 64 bits. -/
def Counted (counts : Ledger Int) : Prop :=
  ∀ entry ∈ counts.entries, IsInt64 entry.2

theorem counted_empty : Counted Ledger.empty := fun _ member => by cases member

theorem counted_countsOf
    {name : String}
    {aggregation : Value}
    {counts : Ledger Int}
    (areCounts : countsOf name aggregation = .ok counts) :
    Counted counts := by
  obtain ⟨buckets, -, areCounted⟩ := Outcome.exists_of_bind_eq_ok areCounts
  obtain ⟨entries, areEntries, isLedger⟩ := Outcome.exists_of_bind_eq_ok areCounted
  cases isLedger
  intro entry member
  obtain ⟨bucket, -, isEntry⟩ :=
    exists_of_mem_mapM areEntries (Ledger.mem_of_mem_entries_ofList member)
  exact isInt64_countOf isEntry

theorem counted_terms
    {name : String}
    {counts : Ledger Int}
    (areCounts : response.terms name = .ok counts) :
    Counted counts := by
  obtain ⟨aggregation, -, areCounted⟩ := Outcome.exists_of_bind_eq_ok areCounts
  exact counted_countsOf areCounted

theorem counted_nestedTerms
    {outer inner : String}
    {tables : Ledger (Ledger Int)}
    (areTables : response.nestedTerms outer inner = .ok tables) :
    ∀ entry ∈ tables.entries, Counted entry.2 := by
  obtain ⟨aggregation, -, areNested⟩ := Outcome.exists_of_bind_eq_ok areTables
  obtain ⟨buckets, -, areCounted⟩ := Outcome.exists_of_bind_eq_ok areNested
  obtain ⟨entries, areEntries, isLedger⟩ := Outcome.exists_of_bind_eq_ok areCounted
  cases isLedger
  intro entry member
  obtain ⟨bucket, -, isEntry⟩ :=
    exists_of_mem_mapM areEntries (Ledger.mem_of_mem_entries_ofList member)
  obtain ⟨key, -, isInner⟩ := Outcome.exists_of_bind_eq_ok isEntry
  split at isInner
  · obtain ⟨counts, areCounts, isPair⟩ := Outcome.exists_of_bind_eq_ok isInner
    cases isPair
    exact counted_countsOf areCounts
  · cases isInner

/-! ### Answers read from text -/

section Reading

variable {τ : Type} {view : View τ}

theorem isInt64_total?
    {source : τ}
    {total : Int}
    (isTotal : total? view source = some total) :
    IsInt64 total := by
  unfold total? at isTotal
  obtain ⟨whole, -, isTotal⟩ := Option.bind_eq_some_iff.mp isTotal
  split at isTotal
  · split at isTotal
    · obtain ⟨part, -, isInteger⟩ := Option.bind_eq_some_iff.mp isTotal
      split at isInteger
      · split at isInteger
        · rename_i inside
          exact Option.some.inj isInteger ▸ inside
        · cases isInteger
      · cases isInteger
    · cases isTotal
  · exact isInt64_of_toInt64? isTotal

/-- The total is read from the first part of the hits, and the sources one by one from the
second. -/
theorem exists_of_hits?
    {source : τ}
    {total : Option Int}
    {hits : List Value}
    (areHits : hits? view source = some (total, hits)) :
    (∃ part, view.optional (total? view) part = some total) ∧
      (hits = [] ∨ ∃ parts : List τ, parts.mapM (hit? view) = some hits) := by
  unfold hits? at areHits
  obtain ⟨parts, -, areHits⟩ := Option.bind_eq_some_iff.mp areHits
  split at areHits
  · rename_i totalPart hitsPart
    obtain ⟨found, isFound, areHits⟩ := Option.bind_eq_some_iff.mp areHits
    obtain ⟨sources, areSources, isPair⟩ := Option.bind_eq_some_iff.mp areHits
    cases isPair
    refine ⟨⟨totalPart, isFound⟩, ?_⟩
    cases hitsPart with
    | none =>
      cases areSources
      exact Or.inl rfl
    | some items =>
      obtain ⟨parts, -, areRead⟩ := Option.bind_eq_some_iff.mp areSources
      exact Or.inr ⟨parts, areRead⟩
  · cases areHits

/-- An answer has the total and the hits of one of its parts, or neither. -/
theorem exists_of_read? {source : τ} (isRead : read? view source = some response) :
    (response.total = none ∧ response.hits = []) ∨
      ∃ part, hits? view part = some (response.total, response.hits) := by
  unfold read? at isRead
  obtain ⟨parts, -, isRead⟩ := Option.bind_eq_some_iff.mp isRead
  split at isRead
  · rename_i hitsPart aggregationsPart
    obtain ⟨⟨total, hits⟩, areHits, isRead⟩ := Option.bind_eq_some_iff.mp isRead
    obtain ⟨aggregations, -, isResponse⟩ := Option.bind_eq_some_iff.mp isRead
    cases isResponse
    cases hitsPart with
    | none =>
      cases areHits
      exact Or.inl ⟨rfl, rfl⟩
    | some part => exact Or.inr ⟨part, areHits⟩
  · cases isRead

theorem isSmall_of_read? {source : τ} (isRead : read? view source = some response) :
    response.IsSmall := by
  intro total isTotal
  rcases exists_of_read? isRead with ⟨noTotal, -⟩ | ⟨part, areHits⟩
  · rw [noTotal] at isTotal
    cases isTotal
  · obtain ⟨⟨totalPart, isFound⟩, -⟩ := exists_of_hits? areHits
    rw [Option.mem_def.mp isTotal] at isFound
    cases totalPart with
    | none => cases isFound
    | some part =>
      unfold View.optional at isFound
      dsimp only at isFound
      split at isFound
      · cases isFound
      · obtain ⟨read, isRead, isSome⟩ := Option.map_eq_some_iff.mp isFound
        cases isSome
        exact isInt64_total? isRead

/-- Whatever a text says, an answer that was read from it is small. -/
theorem isSmall_of_ofText? {text : String} (isRead : ofText? text = some response) :
    response.IsSmall := by
  obtain ⟨whole, -, isAnswer⟩ := Option.bind_eq_some_iff.mp isRead
  exact isSmall_of_read? isAnswer

theorem holdsNumbers_of_hit?
    (values : ∀ part source, view.value? part = some source → source.HoldsNumbers)
    {part : τ}
    {source : Value}
    (isHit : hit? view part = some source) :
    source.HoldsNumbers := by
  obtain ⟨parts, -, isHit⟩ := Option.bind_eq_some_iff.mp isHit
  split at isHit
  · rename_i found
    cases found with
    | none =>
      cases isHit
      intro key number isField
      cases isField
    | some written => exact values written source isHit
  · cases isHit

/-- An answer holds its numbers if all values do that it may be made of. -/
theorem holdsNumbers_of_read?
    (values : ∀ part source, view.value? part = some source → source.HoldsNumbers)
    {part : τ}
    (isRead : read? view part = some response) :
    response.HoldsNumbers := by
  intro source member
  rcases exists_of_read? isRead with ⟨-, noHits⟩ | ⟨part, areHits⟩
  · rw [noHits] at member
    cases member
  · rcases (exists_of_hits? areHits).2 with noHits | ⟨parts, areRead⟩
    · rw [noHits] at member
      cases member
    · obtain ⟨hit, -, isHit⟩ := exists_mem_of_forall₂ (mapM_eq_some_iff.mp areRead).flip member
      exact holdsNumbers_of_hit? values isHit

/-- Whatever a text says, an answer that was read from it holds its numbers. -/
theorem holdsNumbers_of_ofText? {text : String} (isRead : ofText? text = some response) :
    response.HoldsNumbers := by
  obtain ⟨whole, -, isAnswer⟩ := Option.bind_eq_some_iff.mp isRead
  exact holdsNumbers_of_read? (fun _ _ isValue => Value.holdsNumbers_of_toValue? isValue) isAnswer

end Reading

end Search.Response

/-! ### Measures -/

namespace Catalogue

open Search (Response)

variable {response : Response}

/-- The numbers of a measured result are integers of 64 bits. -/
def Extracted.IsSmall : Extracted → Prop
  | .count figure => IsInt64 figure
  | .status figure _ => IsInt64 figure
  | .labels _ figures => Search.Response.Counted figures
  | .coverage _ => True

theorem Measure.yields_of_extract
    {measure : Measure}
    {extracted : Extracted}
    (isExtracted : measure.extract response = .ok extracted) :
    measure.Yields extracted := by
  cases measure with
  | repositoryFigure | coveragePercent =>
    cases isExtracted
    trivial
  | coverage =>
    cases isExtracted
    exact Measure.branch_mainSnapshot? response
  | audit =>
    obtain ⟨count, -, isResult⟩ := Outcome.exists_of_bind_eq_ok isExtracted
    split at isResult <;>
    · cases isResult
      trivial
  | total | sum | averageDays | contributors =>
    obtain ⟨value, -, isResult⟩ := Outcome.exists_of_bind_eq_ok isExtracted
    cases isResult
    trivial
  | labels =>
    obtain ⟨counts, -, isResult⟩ := Outcome.exists_of_bind_eq_ok isExtracted
    cases isResult
    rfl

theorem Measure.extract_spec
    {measure : Measure}
    {extracted : Extracted}
    (small : response.IsSmall)
    (isExtracted : measure.extract response = .ok extracted) :
    measure.Yields extracted ∧ extracted.IsSmall := by
  refine ⟨yields_of_extract isExtracted, ?_⟩
  cases measure with
  | total =>
    obtain ⟨count, isCount, isResult⟩ := Outcome.exists_of_bind_eq_ok isExtracted
    cases isResult
    exact Response.isInt64_matchCount small isCount
  | audit =>
    obtain ⟨count, isCount, isResult⟩ := Outcome.exists_of_bind_eq_ok isExtracted
    split at isResult
    · cases isResult
      exact show IsInt64 1 by decide
    · cases isResult
      exact show IsInt64 0 by decide
  | sum name field =>
    obtain ⟨value, -, isResult⟩ := Outcome.exists_of_bind_eq_ok isExtracted
    cases isResult
    exact Binary64.isInt64_truncate value
  | averageDays field =>
    obtain ⟨value, -, isResult⟩ := Outcome.exists_of_bind_eq_ok isExtracted
    cases isResult
    exact Binary64.isInt64_round value
  | contributors =>
    obtain ⟨count, isCount, isResult⟩ := Outcome.exists_of_bind_eq_ok isExtracted
    cases isResult
    exact Response.isInt64_distinct isCount
  | repositoryFigure field =>
    cases isExtracted
    show IsInt64 (((response.topHitField? field).bind Value.toInt64?).getD 0)
    cases isFigure : (response.topHitField? field).bind Value.toInt64? with
    | none => decide
    | some figure =>
      obtain ⟨part, -, isPart⟩ := Option.bind_eq_some_iff.mp isFigure
      exact isInt64_of_toInt64? isPart
  | coverage =>
    cases isExtracted
    trivial
  | coveragePercent =>
    cases isExtracted
    exact Binary64.isInt64_round _
  | labels side name field =>
    obtain ⟨counts, areCounts, isResult⟩ := Outcome.exists_of_bind_eq_ok isExtracted
    cases isResult
    exact Response.counted_terms areCounts

theorem isInt64_shareOf
    {percent : Nat}
    {share : Int}
    (isShare : shareOf percent response = .ok share) :
    IsInt64 share := by
  obtain ⟨total, -, isRounded⟩ := Outcome.exists_of_bind_eq_ok isShare
  cases isRounded
  exact Binary64.isInt64_round _

/-- Every part of a release check is read from the answer to its own search. -/
structure ReadFrom (answers : Check Response Response) (readiness : Readiness) : Prop where
  issuesOpen : answers.issuesOpen.matchCount = .ok readiness.issuesOpen
  autocutIssuesOpen : answers.autocutIssuesOpen.matchCount = .ok readiness.autocutIssuesOpen
  issuesClosed : answers.issuesClosed.matchCount = .ok readiness.issuesClosed
  pullsOpen : answers.pullsOpen.matchCount = .ok readiness.pullsOpen
  pullsClosed : answers.pullsClosed.matchCount = .ok readiness.pullsClosed
  releaseIssue : trackingIssueOf answers.releaseIssue = .ok readiness.releaseIssue

variable {answers : Check Response Response} {readiness : Readiness}

theorem readFrom_of_readinessOf (isReadiness : readinessOf answers = .ok readiness) :
    ReadFrom answers readiness := by
  obtain ⟨issuesOpen, isIssuesOpen, isReadiness⟩ := Outcome.exists_of_bind_eq_ok isReadiness
  obtain ⟨autocut, isAutocut, isReadiness⟩ := Outcome.exists_of_bind_eq_ok isReadiness
  obtain ⟨issuesClosed, isIssuesClosed, isReadiness⟩ := Outcome.exists_of_bind_eq_ok isReadiness
  obtain ⟨pullsOpen, isPullsOpen, isReadiness⟩ := Outcome.exists_of_bind_eq_ok isReadiness
  obtain ⟨pullsClosed, isPullsClosed, isReadiness⟩ := Outcome.exists_of_bind_eq_ok isReadiness
  obtain ⟨issue, isIssue, isReadiness⟩ := Outcome.exists_of_bind_eq_ok isReadiness
  cases isReadiness
  exact ⟨isIssuesOpen, isAutocut, isIssuesClosed, isPullsOpen, isPullsClosed, isIssue⟩

/-- The numbers of a release check come from six small answers. -/
theorem isInt64_readinessOf
    (issuesOpen : answers.issuesOpen.IsSmall)
    (autocutIssuesOpen : answers.autocutIssuesOpen.IsSmall)
    (issuesClosed : answers.issuesClosed.IsSmall)
    (pullsOpen : answers.pullsOpen.IsSmall)
    (pullsClosed : answers.pullsClosed.IsSmall)
    (isReadiness : readinessOf answers = .ok readiness) :
    IsInt64 readiness.issuesOpen ∧ IsInt64 readiness.autocutIssuesOpen ∧
      IsInt64 readiness.issuesClosed ∧ IsInt64 readiness.pullsOpen ∧
      IsInt64 readiness.pullsClosed := by
  have read := readFrom_of_readinessOf isReadiness
  exact ⟨Response.isInt64_matchCount issuesOpen read.issuesOpen,
    Response.isInt64_matchCount autocutIssuesOpen read.autocutIssuesOpen,
    Response.isInt64_matchCount issuesClosed read.issuesClosed,
    Response.isInt64_matchCount pullsOpen read.pullsOpen,
    Response.isInt64_matchCount pullsClosed read.pullsClosed⟩

end Catalogue

end RepoVitals
