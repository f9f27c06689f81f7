import RepoVitals.Assembly.Draft
import RepoVitals.Proofs.Binary64.Spelling
import RepoVitals.Proofs.Json.Reading
import RepoVitals.Proofs.Search.Figures
/-!
Coverage: the number in a report, in the coverage document and in the health row.

Owns:
- the coverage of the first report on the main branch, and when it is finite;
- `coverage_is_number_unless_spelled_beyond`: the coverage document has a number exactly if that
  report does not spell one beyond the finite numbers; otherwise it has a null.
-/

namespace RepoVitals

open Json (Number Value Written)

/-! ### The coverage of an answer -/

namespace Catalogue

open Binary64 (SpellsBeyond clampInt64)
open Search (Response)

/-- What the first report on the main branch says under `coverage`. -/
def reportedCoverage? (response : Response) : Option Value :=
  (response.hits.find? isMainBranch).bind (fun source => source.field? "coverage")

/-- That report gives its coverage as a text, and between its blanks the text spells a number which
is not finite. -/
def SpelledBeyond (response : Response) : Prop :=
  ∃ content, reportedCoverage? response = some (.text content) ∧
    SpellsBeyond (Text.trimBlanks content.toList)

/-- The snapshot that is written down for an answer. -/
def snapshotOf (response : Response) : Snapshot := (mainSnapshot? response).getD missingSnapshot

theorem isFinite_zero : Binary64.zero.isFinite = true := by decide

/-- A text that is no number counts as zero, so that only a text that is one can go beyond the
finite numbers. -/
theorem isFinite_coverageOf {source : Value} (holds : source.HoldsNumbers) :
    (coverageOf source).isFinite = true ↔
      ¬∃ content, source.field? "coverage" = some (.text content) ∧
        SpellsBeyond (Text.trimBlanks content.toList) := by
  unfold coverageOf
  cases isField : source.field? "coverage" with
  | none =>
    apply iff_of_true isFinite_zero
    rintro ⟨content, ⟨⟩, -⟩
  | some value =>
    cases value with
    | number number =>
      apply iff_of_true (holds _ _ isField).isFinite
      rintro ⟨content, ⟨⟩, -⟩
    | text content =>
      have spelled :=
        Binary64.exists_not_isFinite_iff (String.ofList (Text.trimBlanks content.toList))
      rw [String.toList_ofList] at spelled
      simp only [Option.some.injEq, Value.text.injEq, exists_eq_left', ← spelled]
      cases Binary64.ofText? (String.ofList (Text.trimBlanks content.toList)) with
      | none => simp [isFinite_zero]
      | some number => simp
    | _ =>
      apply iff_of_true isFinite_zero
      rintro ⟨content, ⟨⟩, -⟩

theorem isFinite_snapshotOf {response : Response} (holds : response.HoldsNumbers) :
    (snapshotOf response).coverage.isFinite = true ↔ ¬SpelledBeyond response := by
  unfold snapshotOf mainSnapshot? SpelledBeyond reportedCoverage?
  cases isMain : response.hits.find? isMainBranch with
  | none =>
    apply iff_of_true isFinite_zero
    rintro ⟨content, ⟨⟩, -⟩
  | some source => exact isFinite_coverageOf (holds source (List.mem_of_find?_eq_some isMain))

/-- The health row reads the same coverage. -/
theorem extract_coveragePercent (response : Response) :
    Measure.coveragePercent.extract response =
      .ok (.count (snapshotOf response).coverage.round) := by
  unfold Measure.extract snapshotOf
  cases mainSnapshot? response <;> rfl

/-! ### The coverage document -/

/-- A finite number is written as a numeral. -/
theorem exists_numeral_of_isFinite {value : Binary64} (finite : value.isFinite = true) :
    ∃ numeral, (Number.float value).written = .number numeral := by
  cases value with
  | notANumber => cases finite
  | signed negative rank =>
    have notInfinity : rank.val ≠ infinityRank := (of_decide_eq_true finite).ne
    unfold Number.written Number.numeral?
    dsimp only
    rw [if_neg notInfinity]
    exact ⟨_, rfl⟩

/-- Any other number is written as null. -/
theorem written_of_not_isFinite {value : Binary64} (notFinite : value.isFinite = false) :
    (Number.float value).written = .null := by
  cases value with
  | notANumber => rfl
  | signed negative rank =>
    have isInfinity : rank.val = infinityRank :=
      Nat.le_antisymm (Nat.le_of_lt_succ rank.isLt) (not_lt.mp (of_decide_eq_false notFinite))
    unfold Number.written Number.numeral?
    dsimp only
    rw [if_pos isInfinity]

theorem exists_fields_body (origin : Origin) (snapshot : Snapshot) :
    ∃ fields, Written.ofText? (Document.body ⟨origin, .coverage snapshot⟩) =
        some (.object fields) ∧
      fields.lookup (some "coverage") = some (Number.float snapshot.coverage).written := by
  refine ⟨_, Written.ofText?_toText _, ?_⟩
  rfl

/-- The coverage document of an answer has a number for the coverage, and the health row counts that
number rounded, a half going away from zero.  There is one exception: where the first report on the
main branch spells a number that is not finite, the document has a null. -/
theorem coverage_is_number_unless_spelled_beyond
    {response : Response}
    (holds : response.HoldsNumbers)
    (filing : Assembly.Filing)
    (repository : String) :
    ∃ (snapshot : Snapshot) (document : Document) (fields : List (Option String × Written)),
      (∃ row, Family.coverage.row? "Code Coverage" = some row ∧
        row.extract response = .ok (.coverage snapshot) ∧
        Assembly.documentOf? filing repository row.name ⟨.coverage snapshot, none⟩ =
          some document) ∧
      (∃ row, Family.health.row? "CodeCov Coverage Percentage" = some row ∧
        row.extract response = .ok (.count snapshot.coverage.round)) ∧
      Written.ofText? document.body = some (.object fields) ∧
      (¬SpelledBeyond response →
        snapshot.coverage.isFinite = true ∧
          (∃ numeral, fields.lookup (some "coverage") = some (.number numeral)) ∧
          snapshot.coverage.round = clampInt64 (halfAway snapshot.coverage.exact)) ∧
      (SpelledBeyond response →
        snapshot.coverage.isFinite = false ∧ fields.lookup (some "coverage") = some .null) ∧
      (response.hits.find? isMainBranch = none →
        snapshot.coverage = Binary64.zero ∧ snapshot.coverage.round = 0) := by
  have finite := isFinite_snapshotOf holds
  obtain ⟨fields, areFields, isCoverage⟩ :=
    exists_fields_body (filing.origin repository) (snapshotOf response)
  refine ⟨snapshotOf response, _, fields, ⟨_, rfl, rfl, rfl⟩,
    ⟨_, rfl, extract_coveragePercent response⟩, areFields, ?_, ?_, ?_⟩
  · intro notBeyond
    have isFinite := finite.mpr notBeyond
    obtain ⟨numeral, isNumeral⟩ := exists_numeral_of_isFinite isFinite
    refine ⟨isFinite, ⟨numeral, ?_⟩, Binary64.round_of_isFinite isFinite⟩
    rw [isCoverage, isNumeral]
  · intro beyond
    have notFinite : (snapshotOf response).coverage.isFinite = false := by
      rw [← Bool.not_eq_true, finite, not_not]
      exact beyond
    refine ⟨notFinite, ?_⟩
    rw [isCoverage, written_of_not_isFinite notFinite]
  · intro noMain
    have isZero : (snapshotOf response).coverage = Binary64.zero := by
      unfold snapshotOf mainSnapshot?
      rw [noMain]
      rfl
    rw [isZero]
    exact ⟨rfl, by decide +kernel⟩

/-- A report on another branch, and one on the main branch whose coverage is a text for NaN. -/
def unnumberedReport : Response :=
  ⟨some 2, [.object [("branch", .text "fixes"), ("coverage", .number (.integer 80))],
    .object [("branch", .text "main"), ("coverage", .text " NaN ")]], Ledger.empty⟩

theorem holdsNumbers_unnumberedReport : unnumberedReport.HoldsNumbers := by
  have first : ∀ entry ∈ [("branch", .text "fixes"), ("coverage", .number (.integer 80))],
      ∀ number, entry.2 = Value.number number → number.Held := by
    simp [Number.Held, Binary64.leastInt64, Json.Numeral.greatestUInt64]
  have second : ∀ entry ∈ [("branch", .text "main"), ("coverage", .text " NaN ")],
      ∀ number, entry.2 = Value.number number → number.Held := by
    simp
  intro source member
  rcases List.mem_cons.mp member with rfl | member
  · exact Value.holdsNumbers_object first
  · rw [List.mem_singleton.mp member]
    exact Value.holdsNumbers_object second

theorem coverage_is_null_of_unnumberedReport :
    unnumberedReport.HoldsNumbers ∧ SpelledBeyond unnumberedReport ∧
      ∃ (snapshot : Snapshot) (document : Document) (fields : List (Option String × Written)),
        (∃ row, Family.coverage.row? "Code Coverage" = some row ∧
          row.extract unnumberedReport = .ok (.coverage snapshot)) ∧
        Written.ofText? document.body = some (.object fields) ∧
        fields.lookup (some "coverage") = some .null := by
  have spelled : SpelledBeyond unnumberedReport :=
    ⟨" NaN ", rfl, none, _, rfl, Or.inr (Or.inl rfl)⟩
  obtain ⟨snapshot, document, fields, ⟨row, isRow, isSnapshot, -⟩, -, areFields, -, beyond, -⟩ :=
    coverage_is_number_unless_spelled_beyond holdsNumbers_unnumberedReport
      ⟨.coverage, .day ⟨2024, 6, 1, by decide⟩, "2024-06-01T03:00:00.000Z"⟩ "alpha"
  exact ⟨holdsNumbers_unnumberedReport, spelled, snapshot, document, fields,
    ⟨row, isRow, isSnapshot⟩, areFields, (beyond spelled).2⟩

end Catalogue

end RepoVitals
