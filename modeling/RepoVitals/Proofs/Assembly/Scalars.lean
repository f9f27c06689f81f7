import RepoVitals.Proofs.Assembly.Rows
import RepoVitals.Proofs.Batch
import RepoVitals.Proofs.Catalogue.Measure
/-!
The scalar families: one document for each repository and row.

Owns:
- what the answers to a pair's own searches make of the pair, and the report of such a finding;
- the natural keys of the pairs of a family;
- `scalar_batch_complete`: where every search of a family is answered in its own shape, the batch
  holds one document for each repository and row and nothing else.
-/

namespace RepoVitals.Assembly

open Catalogue (Family Extracted Row Threshold)
open Identity (NaturalKey documentId)
open Search (Request Response)

/-! ### Findings -/

/-- The limit that a threshold sets for a repository, by the answer to its own search. -/
def Sets (answer : Request → Outcome Response) (repository : String) :
    Option Threshold → Option Int → Prop
  | none, limit => limit = none
  | some (.fixed value), limit => limit = some value
  | some (.share index conditions percent), limit =>
    ∃ response share,
      answer (Request.count index ((Catalogue.pinned repository).and conditions)) = .ok response ∧
        Catalogue.shareOf percent response = .ok share ∧ limit = some share

/-- What a row finds for a repository, by the answers to the pair's own searches. -/
structure Measures (answer : Request → Outcome Response) (row : Row) (repository : String)
    (finding : Finding) : Prop where
  extracted : ∃ response, answer (row.request repository) = .ok response ∧
    row.extract response = .ok finding.extracted
  limit : Sets answer repository row.threshold finding.threshold

variable {answer : Request → Outcome Response} {row : Row} {repository : String}

theorem exists_measures
    (suited : ∀ request ∈ (findingVolley row repository).searches,
      ∃ response, answer request = .ok response ∧ request.Suits response) :
    ∃ finding, Measures answer row repository finding ∧ row.measure.Yields finding.extracted := by
  have first : row.request repository ∈ (findingVolley row repository).searches := by
    unfold findingVolley
    rcases row.threshold with _ | value | ⟨index, conditions, percent⟩ <;> exact List.mem_cons_self
  obtain ⟨response, isAnswer, suits⟩ := suited _ first
  obtain ⟨extracted, isExtracted, yields⟩ := Catalogue.Measure.exists_extract suits
  have limited : ∃ limit, Sets answer repository row.threshold limit := by
    unfold findingVolley at suited
    rcases threshold : row.threshold with _ | value | ⟨index, conditions, percent⟩
    · exact ⟨none, rfl⟩
    · exact ⟨some value, rfl⟩
    · rw [threshold] at suited
      obtain ⟨second, isSecond, suitsSecond⟩ := suited _ (List.mem_cons_of_mem _ List.mem_cons_self)
      obtain ⟨share, isShare⟩ := Catalogue.exists_shareOf percent suitsSecond
      exact ⟨some share, second, share, isSecond, isShare, rfl⟩
  obtain ⟨limit, sets⟩ := limited
  exact ⟨⟨extracted, limit⟩, ⟨⟨response, isAnswer, isExtracted⟩, sets⟩, yields⟩

theorem succeeds_of_measures
    {finding : Finding}
    (measures : Measures answer row repository finding) :
    (findingVolley row repository).inquiry.Succeeds (.steady answer) (· = finding) := by
  obtain ⟨⟨response, isAnswer, isExtracted⟩, sets⟩ := measures
  apply succeeds_findingVolley
  · exact Inquiry.Succeeds.search fun _ => ⟨response, isAnswer, isExtracted⟩
  · generalize row.threshold = threshold at sets ⊢
    rcases threshold with _ | value | ⟨index, conditions, percent⟩
    · exact sets
    · exact sets
    · obtain ⟨second, share, isSecond, isShare, isLimit⟩ := sets
      exact Inquiry.Succeeds.search fun _ => ⟨second, isSecond, share, isShare, isLimit⟩

/-! ### Reports -/

/-- The report of a finding under the name of its row. -/
inductive Reports (family : Family) (name : String) : Finding → Report → Prop where
  | count {count : Int} {limit : Option Int} :
    Reports family name ⟨.count count, limit⟩ (.metric family name count none limit)
  | status {count : Int} {value : String} {limit : Option Int} :
    Reports family name ⟨.status count value, limit⟩ (.metric family name count (some value) limit)
  | coverage {snapshot : Catalogue.Snapshot} {limit : Option Int} :
    Reports family name ⟨.coverage snapshot, limit⟩ (.coverage snapshot)

theorem documentOf?_of_reports
    (filing : Filing)
    (repository : String)
    {name : String}
    {finding : Finding}
    {report : Report}
    (reports : Reports filing.family name finding report) :
    documentOf? filing repository name finding = some ⟨filing.origin repository, report⟩ := by
  cases reports <;> rfl

theorem gather_of_reports
    {family : Family}
    {name : String}
    {finding : Finding}
    {report : Report}
    (reports : Reports family name finding report)
    (labels : Ledger LabelCounts) :
    gather labels finding = labels := by
  cases reports <;> rfl

/-- Where no row counts labels, a page has one document for each row. -/
theorem pageOf_of_reports
    (filing : Filing)
    (repository : String)
    {rows : List Row}
    {finding : Row → Finding}
    {report : Row → Report}
    (reports : ∀ row ∈ rows, Reports filing.family row.name (finding row) (report row)) :
    pageOf filing repository rows finding =
      rows.map (fun row => ⟨filing.origin repository, report row⟩) := by
  have noLabels : (rows.map finding).foldl gather Ledger.empty = Ledger.empty := by
    induction rows with
    | nil => rfl
    | cons row rest inductionHypothesis =>
      rw [List.map_cons, List.foldl_cons, gather_of_reports (reports row List.mem_cons_self)]
      exact inductionHypothesis fun later member => reports later (List.mem_cons_of_mem _ member)
  have singles : rows.filterMap (fun row => documentOf? filing repository row.name (finding row)) =
      rows.map (fun row => ⟨filing.origin repository, report row⟩) := by
    rw [List.filterMap_eq_map_iff_forall_eq_some]
    exact fun row member => documentOf?_of_reports filing repository (reports row member)
  rw [pageOf, noLabels, singles]
  exact List.append_nil _

/-! ### The scalar families -/

/-- The families whose rows give one document for each repository. -/
def scalarFamilies : List Family := [.general, .health, .coverage]

/-- The name that a row is filed under: coverage is filed under its branch. -/
def filedName (family : Family) (row : Row) : String :=
  if family = .coverage then Catalogue.reportedBranch else row.name

/-- The natural key of a repository and a row. -/
def pairKey (family : Family) (date : Calendar.Date) (pair : String × Row) : NaturalKey :=
  ⟨family.name, filedName family pair.2, .day date, pair.1⟩

theorem nodup_pairKeys
    {family : Family}
    (scalar : family ∈ scalarFamilies)
    (date : Calendar.Date)
    {repositories : List String}
    (unrepeated : repositories.Nodup) :
    ((repositories ×ˢ family.rows).map (pairKey family date)).Nodup := by
  have names : ∀ family ∈ scalarFamilies, (family.rows.map (filedName family)).Nodup := by decide
  have namesHere := names family scalar
  refine List.Nodup.map_on ?_ (unrepeated.product namesHere.of_map)
  rintro ⟨repository, row⟩ isPair ⟨repository', row'⟩ isPair' sameKey
  have isRow := (List.mem_product.mp isPair).2
  have isRow' := (List.mem_product.mp isPair').2
  have sameName : filedName family row = filedName family row' := congrArg NaturalKey.name sameKey
  have sameRow := List.inj_on_of_nodup_map namesHere isRow isRow' sameName
  have sameRepository : repository = repository' := congrArg NaturalKey.repository sameKey
  rw [sameRepository, sameRow]

/-- What the pair of a scalar family comes to is reported under the name in its key. -/
theorem exists_reports
    {family : Family}
    (scalar : family ∈ scalarFamilies)
    {row : Row}
    (isRow : row ∈ family.rows)
    {finding : Finding}
    (yields : row.measure.Yields finding.extracted) :
    ∃ report, Reports family row.name finding report ∧ report.family = family ∧
      report.name = filedName family row := by
  have kinds : ∀ family ∈ scalarFamilies, ∀ row ∈ family.rows,
      row.lookup?.isNone = true ∧ (row.measure = .coverage ↔ family = .coverage) := by
    decide
  obtain ⟨noLookup, coverage⟩ := kinds family scalar row isRow
  obtain ⟨extracted, limit⟩ := finding
  by_cases isCoverage : family = .coverage
  · rw [coverage.mpr isCoverage] at yields
    obtain ⟨snapshot, rfl, isBranch⟩ := Catalogue.Measure.exists_snapshot yields
    exact ⟨_, .coverage, isCoverage.symm, isBranch.trans (if_pos isCoverage).symm⟩
  · cases extracted with
    | count count => exact ⟨_, .count, rfl, (if_neg isCoverage).symm⟩
    | status count value => exact ⟨_, .status, rfl, (if_neg isCoverage).symm⟩
    | coverage snapshot =>
      exact absurd (coverage.mp (Catalogue.Measure.eq_coverage_of_yields yields)) isCoverage
    | labels side counts =>
      obtain ⟨name, field, measure⟩ := Catalogue.Measure.exists_labels_of_yields yields
      simp [Row.lookup?, measure] at noLookup

/-- The document of a pair on an occasion. -/
def Occasion.document (occasion : Occasion) (report : String → Row → Report)
    (pair : String × Row) : Document :=
  ⟨⟨.day occasion.date, occasion.runAt.text, pair.1⟩, report pair.1 pair.2⟩

theorem documents_rowsBatch
    (occasion : Occasion)
    {family : Family}
    {finding : String → Row → Finding}
    {report : String → Row → Report}
    (scalar : family ∈ scalarFamilies)
    (reports : ∀ repository ∈ occasion.repositories, ∀ row ∈ family.rows,
      Reports family row.name (finding repository row) (report repository row) ∧
        (report repository row).family = family ∧
          (report repository row).name = filedName family row)
    (distinct : DistinctIds ((occasion.repositories.dedup ×ˢ family.rows).map
      (pairKey family occasion.date))) :
    (rowsBatch (occasion.filing family) occasion.repositories family.rows
      finding).documents.Perm ((occasion.repositories.dedup ×ˢ family.rows).map (fun pair =>
        ⟨documentId (pairKey family occasion.date pair),
          (occasion.document report pair).body⟩)) := by
  have keys : ∀ pair ∈ occasion.repositories.dedup ×ˢ family.rows,
      (occasion.document report pair).key = pairKey family occasion.date pair := by
    intro pair isPair
    obtain ⟨isRepository, isRow⟩ := List.mem_product.mp isPair
    obtain ⟨-, isFamily, isName⟩ := reports _ (List.mem_dedup.mp isRepository) _ isRow
    simp only [Occasion.document, Document.key, isFamily, isName, pairKey]
  have pages : occasion.repositories.flatMap (fun repository =>
      pageOf (occasion.filing family) repository family.rows (finding repository)) =
      (occasion.repositories ×ˢ family.rows).map (occasion.document report) := by
    show _ = (occasion.repositories.flatMap fun repository =>
      family.rows.map (Prod.mk repository)).map (occasion.document report)
    rw [List.map_flatMap]
    apply List.flatMap_congr
    intro repository isRepository
    rw [List.map_map, pageOf_of_reports (occasion.filing family) repository fun row isRow =>
      (reports repository isRepository row isRow).1]
    rfl
  rw [rowsBatch, pages]
  exact Batch.documents_perm_of_pairs keys
    (nodup_pairKeys scalar occasion.date (List.nodup_dedup _)) distinct

/-- **Scalar batches are complete.**  In a scalar family whose searches are each answered in their
own shape, every pair of a repository and a row is measured by its own searches.  If the keys of the
pairs have different ids, the batch holds one document for each of them and nothing else, however
often a repository is listed. -/
theorem scalar_batch_complete
    (plan : Plan)
    (occasion : Occasion)
    (asked : List Request)
    {family : Family}
    {answer : Request → Outcome Response}
    (scalar : family ∈ scalarFamilies)
    (suited : ∀ repository ∈ occasion.repositories, ∀ row ∈ family.rows,
      ∀ request ∈ (findingVolley row repository).searches,
        ∃ response, answer request = .ok response ∧ request.Suits response) :
    ∃ (batch : Batch) (report : String → Row → Report),
      ((assemble plan family occasion).run (.steady answer) asked).2 = .ok batch ∧
      (∀ repository ∈ occasion.repositories, ∀ row ∈ family.rows, ∃ finding,
        Measures answer row repository finding ∧
          Reports family row.name finding (report repository row)) ∧
      (DistinctIds ((occasion.repositories.dedup ×ˢ family.rows).map
          (pairKey family occasion.date)) →
        batch.documents.Perm ((occasion.repositories.dedup ×ˢ family.rows).map (fun pair =>
          ⟨documentId (pairKey family occasion.date pair),
            (occasion.document report pair).body⟩))) := by
  have each : ∀ repository ∈ occasion.repositories, ∀ row ∈ family.rows,
      ∃ finding report, Measures answer row repository finding ∧
        Reports family row.name finding report ∧ report.family = family ∧
          report.name = filedName family row := by
    intro repository isRepository row isRow
    obtain ⟨finding, measures, yields⟩ := exists_measures (suited repository isRepository row isRow)
    obtain ⟨report, reports, filed⟩ := exists_reports scalar isRow yields
    exact ⟨finding, report, measures, reports, filed⟩
  have : Nonempty Finding := ⟨.count 0, none⟩
  have : Nonempty Report := ⟨.label "" 0 0⟩
  choose! finding report measures reports filed using each
  have noLookup : ∀ family ∈ scalarFamilies, ∀ row ∈ family.rows, row.lookup?.isNone = true := by
    decide
  have success : (assemble plan family occasion).Succeeds (.steady answer)
      (· = rowsBatch (occasion.filing family) occasion.repositories family.rows finding) := by
    have isAssembly : assemble plan family occasion =
        assembleRows plan family family.rows occasion := by
      cases family <;> first | rfl | exact absurd scalar (by decide)
    rw [isAssembly]
    apply succeeds_assembleRows
    intro row isRow
    have none : (if plan.useLookups then row.lookup? else none) = none := by
      rw [Option.isNone_iff_eq_none.mp (noLookup family scalar row isRow), ite_self]
    rw [Tells, none]
    exact fun repository isRepository =>
      succeeds_of_measures (measures repository isRepository row isRow)
  obtain ⟨batch, isBatch, rfl⟩ := success asked
  refine ⟨_, report, isBatch, ?_, ?_⟩
  · intro repository isRepository row isRow
    exact ⟨_, measures repository isRepository row isRow, reports repository isRepository row isRow⟩
  · exact documents_rowsBatch occasion scalar fun repository isRepository row isRow =>
      ⟨reports repository isRepository row isRow, filed repository isRepository row isRow⟩

/-- A repository that is listed twice has one coverage document. -/
theorem scalar_batch_complete_for_repeated_repository :
    let occasion : Occasion := ⟨["a", "b", "a"], ⟨2024, 6, 1, by decide⟩, ⟨1717200000, 0⟩⟩
    let answer : Request → Outcome Response := fun _ => .ok ⟨some 1, [], Ledger.empty⟩
    ∃ (batch : Batch) (report : String → Row → Report),
      ((assemble ⟨true, [], 1⟩ .coverage occasion).run (.steady answer) []).2 = .ok batch ∧
      batch.documents.Perm ((["b", "a"] ×ˢ Catalogue.coverageRows).map (fun pair =>
        ⟨documentId (pairKey .coverage occasion.date pair),
          (occasion.document report pair).body⟩)) := by
  intro occasion answer
  have scalar : Family.coverage ∈ scalarFamilies := by decide
  have suited : ∀ repository ∈ occasion.repositories, ∀ row ∈ Family.coverage.rows,
      ∀ request ∈ (findingVolley row repository).searches,
        ∃ response, answer request = .ok response ∧ request.Suits response := by
    intro repository _ row isRow request isRequest
    rw [List.mem_singleton.mp isRow] at isRequest
    rw [List.mem_singleton.mp isRequest]
    exact ⟨_, rfl, ⟨1, rfl⟩, fun _ none => absurd none List.not_mem_nil⟩
  obtain ⟨batch, report, isBatch, -, documents⟩ :=
    scalar_batch_complete ⟨true, [], 1⟩ occasion [] scalar suited
  exact ⟨batch, report, isBatch, documents (by decide +kernel)⟩

end RepoVitals.Assembly
