import RepoVitals.Proofs.Assembly.Findings
import RepoVitals.Proofs.Assembly.Labels
import RepoVitals.Proofs.Assembly.Scalars
import RepoVitals.Proofs.Document
/-!
Rows picked from the table of a family.

Owns:
- the documents of picked rows in a scalar family, each of which the whole table has as well;
- the label rows by their sides, and the documents of one side alone;
- `picked_rows_agree`: when the batch of picked rows is part of the batch of the whole table.

A label document combines two rows.  Where only one of them is picked, the other side counts zero,
so the document is the one of the whole table only if that side has no such label.
-/

namespace RepoVitals.Assembly

open Catalogue (Family Row Side)
open Identity (documentId)
open Search (Request Response)

variable {answer : Request → Outcome Response} {occasion : Occasion} {family : Family}
  {rows : List Row} {finding : String → Row → Finding}

/-- The labels of a finding. -/
def Finding.labels (finding : Finding) : Ledger Int :=
  match finding.extracted with
  | .labels _ counts => counts
  | _ => Ledger.empty

/-- No label of a picked row is counted by a row of the table that was not picked. -/
def KeepsSides (finding : String → Row → Finding) (repositories : List String)
    (picked table : List Row) : Prop :=
  ∀ repository ∈ repositories, ∀ row ∈ picked, ∀ other ∈ table, other ∉ picked →
    ∀ label ∈ (finding repository row).labels.keys,
      ((finding repository other).labels.get? label).getD 0 = 0

/-- Everything in one batch is in the other, under the same id and with the same body. -/
def Within (part whole : Batch) : Prop :=
  ∀ id body, part.get? id = some body → whole.get? id = some body

/-! ### Pages -/

theorem rowsBatch_congr
    {filing : Filing}
    {repositories : List String}
    {rows rows' : List Row}
    {first second : String → Row → Finding}
    (same : ∀ repository ∈ repositories,
      pageOf filing repository rows (first repository) =
        pageOf filing repository rows' (second repository)) :
    rowsBatch filing repositories rows first = rowsBatch filing repositories rows' second :=
  congrArg Batch.ofDocuments (List.flatMap_congr same)

/-! ### Scalar families -/

theorem exists_reports_of_tells
    {useLookups : Bool}
    {repositories : List String}
    (scalar : family ∈ scalarFamilies)
    (tells : ∀ row ∈ family.rows, Tells (.steady answer) useLookups repositories finding row) :
    ∃ report : String → Row → Report, ∀ repository ∈ repositories, ∀ row ∈ family.rows,
      Reports family row.name (finding repository row) (report repository row) ∧
        (report repository row).family = family ∧
          (report repository row).name = filedName family row := by
  have noLookup : ∀ family ∈ scalarFamilies, ∀ row ∈ family.rows, row.lookup?.isNone = true := by
    decide
  have each : ∀ repository ∈ repositories, ∀ row ∈ family.rows, ∃ report,
      Reports family row.name (finding repository row) report ∧ report.family = family ∧
        report.name = filedName family row := by
    intro repository isRepository row isRow
    have none : (if useLookups then row.lookup? else none) = none := by
      rw [Option.isNone_iff_eq_none.mp (noLookup family scalar row isRow), ite_self]
    have told := tells row isRow
    rw [Tells, none] at told
    obtain ⟨found, isFound, same⟩ := Inquiry.succeeds_steady_iff.mp (told repository isRepository)
    obtain ⟨response, -, isExtracted, -⟩ := exists_extract_of_finding isFound
    rw [← same]
    exact exists_reports scalar isRow (Catalogue.Measure.yields_of_extract isExtracted)
  have : Nonempty Report := ⟨.label "" 0 0⟩
  choose! report reports using each
  exact ⟨report, reports⟩

theorem labels_of_reports
    {name : String}
    {found : Finding}
    {report : Report}
    (reports : Reports family name found report) :
    found.labels = Ledger.empty := by
  cases reports <;> rfl

/-- The documents of picked rows are among those of the table. -/
theorem within_of_reports
    {report : String → Row → Report}
    (scalar : family ∈ scalarFamilies)
    (picked : rows.Sublist family.rows)
    (reports : ∀ repository ∈ occasion.repositories, ∀ row ∈ family.rows,
      Reports family row.name (finding repository row) (report repository row) ∧
        (report repository row).family = family ∧
          (report repository row).name = filedName family row)
    (distinct : DistinctIds ((pages (occasion.filing family) occasion.repositories family.rows
      finding).map Document.key)) :
    Within (rowsBatch (occasion.filing family) occasion.repositories rows finding)
      (rowsBatch (occasion.filing family) occasion.repositories family.rows finding) := by
  have page (repository : String) (isRepository : repository ∈ occasion.repositories)
      (some : List Row) (among : ∀ row ∈ some, row ∈ family.rows) :
      pageOf (occasion.filing family) repository some (finding repository) =
        some.map (fun row => occasion.document report (repository, row)) :=
    pageOf_of_reports _ _ fun row isRow => (reports repository isRepository row (among row isRow)).1
  have keys : ∀ pair ∈ occasion.repositories.dedup ×ˢ family.rows,
      pairKey family occasion.date pair ∈ (pages (occasion.filing family) occasion.repositories
        family.rows finding).map Document.key := by
    intro pair isPair
    obtain ⟨isRepository, isRow⟩ := List.mem_product.mp isPair
    have isListed := List.mem_dedup.mp isRepository
    obtain ⟨-, isFamily, isName⟩ := reports _ isListed _ isRow
    refine List.mem_map.mpr ⟨occasion.document report pair, ?_, ?_⟩
    · refine List.mem_flatMap.mpr ⟨pair.1, isListed, ?_⟩
      rw [page pair.1 isListed family.rows fun _ => id]
      exact List.mem_map.mpr ⟨pair.2, isRow, rfl⟩
    · simp only [Occasion.document, Document.key, isFamily, isName, pairKey]
  have whole := documents_rowsBatch occasion scalar reports (by
    intro first isFirst second isSecond
    obtain ⟨pair, isPair, rfl⟩ := List.mem_map.mp isFirst
    obtain ⟨pair', isPair', rfl⟩ := List.mem_map.mp isSecond
    exact distinct _ (keys pair isPair) _ (keys pair' isPair'))
  intro id body found
  obtain ⟨document, isDocument, rfl, rfl⟩ := Batch.document_of_get? found
  obtain ⟨repository, isRepository, isOnPage⟩ := List.mem_flatMap.mp isDocument
  rw [page repository isRepository rows fun row => (picked.subset ·)] at isOnPage
  obtain ⟨row, isRow, rfl⟩ := List.mem_map.mp isOnPage
  have isPair : (repository, row) ∈ occasion.repositories.dedup ×ˢ family.rows :=
    List.mem_product.mpr ⟨List.mem_dedup.mpr isRepository, picked.subset isRow⟩
  obtain ⟨-, isFamily, isName⟩ := reports repository isRepository row (picked.subset isRow)
  have isKey : (occasion.document report (repository, row)).key =
      pairKey family occasion.date (repository, row) := by
    simp only [Occasion.document, Document.key, isFamily, isName, pairKey]
  have isEntry := whole.mem_iff.mpr (List.mem_map_of_mem isPair)
  rw [Batch.mem_documents_iff, ← isKey] at isEntry
  exact isEntry

/-! ### Label rows by side -/

theorem labelRows_eq : Catalogue.labelRows = [Side.issues, .pulls].map labelRow := rfl

theorem labelRow_injective : Function.Injective labelRow := by
  intro first second same
  have names : (labelRow first).name = (labelRow second).name := congrArg Row.name same
  cases first <;> cases second <;> first | rfl | exact absurd names (by decide)

theorem labelFinding_labelRow (maps : LabelMaps) (repository : String) (side : Side) :
    labelFinding maps repository (labelRow side) = ⟨.labels side (maps side repository), none⟩ := by
  cases side <;> rfl

/-- Where the findings of the label rows are told, they are labels of their sides. -/
theorem eq_labelFinding_of_tells
    {useLookups : Bool}
    {repositories : List String}
    (tells : ∀ row ∈ Catalogue.labelRows,
      Tells (.steady answer) useLookups repositories finding row) :
    ∀ repository ∈ repositories, ∀ row ∈ Catalogue.labelRows,
      finding repository row =
        labelFinding (fun side repository => (finding repository (labelRow side)).labels)
          repository row := by
  intro repository isRepository row isRow
  have told := tells row isRow
  rw [labelRows_eq] at isRow
  obtain ⟨side, -, rfl⟩ := List.mem_map.mp isRow
  obtain ⟨lookup, isLookup, isSide⟩ : ∃ lookup,
      (labelRow side).lookup? = some lookup ∧ lookup.side = side := by
    cases side <;> exact ⟨_, rfl, rfl⟩
  rw [labelFinding_labelRow]
  cases useLookups with
  | true =>
    rw [Tells, if_pos rfl, isLookup] at told
    obtain ⟨table, -, isTable⟩ := Inquiry.succeeds_steady_iff.mp told
    rw [isTable repository isRepository, isSide]
    rfl
  | false =>
    rw [Tells, if_neg Bool.false_ne_true] at told
    obtain ⟨found, isFound, same⟩ := Inquiry.succeeds_steady_iff.mp (told repository isRepository)
    obtain ⟨response, -, isExtracted, noLimit⟩ := exists_extract_of_finding isFound
    have yields := Catalogue.Measure.yields_of_extract isExtracted
    have isLabels : ∃ name field, (labelRow side).measure = .labels side name field ∧
        (labelRow side).threshold = none := by
      cases side <;> exact ⟨_, _, rfl, rfl⟩
    obtain ⟨name, field, isMeasure, noThreshold⟩ := isLabels
    rw [isMeasure] at yields
    obtain ⟨extracted, limit⟩ := found
    cases noLimit noThreshold
    cases extracted with
    | labels side' counts =>
      cases yields
      rw [← same]
      rfl
    | _ => exact yields.elim

/-- The labels of some sides alone. -/
def LabelMaps.only (maps : LabelMaps) (sides : List Side) : LabelMaps :=
  fun side repository => if side ∈ sides then maps side repository else Ledger.empty

theorem exists_sides (picked : rows.Sublist Catalogue.labelRows) :
    ∃ sides ∈ [Side.issues, .pulls].sublists, rows = sides.map labelRow := by
  rw [labelRows_eq, List.sublist_map_iff] at picked
  obtain ⟨sides, areSides, rfl⟩ := picked
  exact ⟨sides, List.mem_sublists.mpr areSides, rfl⟩

/-- Rows that were not picked are rows without labels. -/
theorem pageOf_sides
    (filing : Filing)
    (maps : LabelMaps)
    (repository : String)
    {sides : List Side}
    (areSides : sides ∈ [Side.issues, .pulls].sublists) :
    pageOf filing repository (sides.map labelRow) (labelFinding maps repository) =
      pageOf filing repository Catalogue.labelRows (labelFinding (maps.only sides) repository) := by
  have four : sides = [] ∨ sides = [.issues] ∨ sides = [.pulls] ∨ sides = [.issues, .pulls] := by
    revert areSides
    simp [List.sublists]
  rcases four with rfl | rfl | rfl | rfl <;> rfl

/-! ### Label batches -/

section

variable {maps : LabelMaps}

/-- The batch of the label table with these labels. -/
def labelBatch (occasion : Occasion) (maps : LabelMaps) : Batch :=
  rowsBatch (occasion.filing .labels) occasion.repositories Catalogue.labelRows (labelFinding maps)

theorem get?_labelBatch
    (distinct : DistinctIds ((labelPairs maps occasion.repositories).map (labelKey occasion.date)))
    {pair : String × String}
    (isPair : pair ∈ labelPairs maps occasion.repositories) :
    (labelBatch occasion maps).get? (documentId (labelKey occasion.date pair)) =
      some (occasion.labelDocument maps pair).body := by
  have held := (documents_labels occasion maps distinct).mem_iff.mpr
    (List.mem_map.mpr ⟨pair, isPair, rfl⟩)
  rw [Batch.mem_documents_iff] at held
  exact held

theorem exists_pair_of_get?
    (distinct : DistinctIds ((labelPairs maps occasion.repositories).map (labelKey occasion.date)))
    {id body : String}
    (found : (labelBatch occasion maps).get? id = some body) :
    ∃ pair ∈ labelPairs maps occasion.repositories,
      documentId (labelKey occasion.date pair) = id ∧
        (occasion.labelDocument maps pair).body = body := by
  have held : (⟨id, body⟩ : Entry) ∈ (labelBatch occasion maps).documents :=
    Batch.mem_documents_iff.mpr found
  obtain ⟨pair, isPair, same⟩ :=
    List.mem_map.mp ((documents_labels occasion maps distinct).mem_iff.mp held)
  obtain ⟨isId, isBody⟩ := Entry.mk.inj same
  exact ⟨pair, isPair, isId, isBody⟩

theorem keys_only {sides : List Side} {side : Side} {repository label : String}
    (member : label ∈ (maps.only sides side repository).keys) :
    side ∈ sides ∧ label ∈ (maps side repository).keys := by
  unfold LabelMaps.only at member
  split at member
  · exact ⟨‹_›, member⟩
  · cases member

theorem labelPairs_only_subset (sides : List Side) (repositories : List String) :
    labelPairs (maps.only sides) repositories ⊆ labelPairs maps repositories := by
  intro pair isPair
  obtain ⟨isRepository, isLabel⟩ := mem_labelPairs.mp isPair
  exact mem_labelPairs.mpr
    ⟨isRepository, isLabel.imp (fun member => (keys_only member).2) fun member =>
      (keys_only member).2⟩

/-- The labels of some sides make part of the batch exactly if the other sides do not count them. -/
theorem within_only_iff
    (sides : List Side)
    (distinct : DistinctIds
      ((labelPairs maps occasion.repositories).map (labelKey occasion.date))) :
    Within (labelBatch occasion (maps.only sides)) (labelBatch occasion maps) ↔
      ∀ pair ∈ labelPairs (maps.only sides) occasion.repositories, ∀ side, side ∉ sides →
        ((maps side pair.1).get? pair.2).getD 0 = 0 := by
  have distinctOnly : DistinctIds
      ((labelPairs (maps.only sides) occasion.repositories).map (labelKey occasion.date)) :=
    distinct.of_subset (List.map_subset _ (labelPairs_only_subset sides _))
  constructor
  · intro within pair isPair side notPicked
    have whole := get?_labelBatch distinct (labelPairs_only_subset sides _ isPair)
    have part := within _ _ (get?_labelBatch distinctOnly isPair)
    rw [whole] at part
    obtain ⟨issues, pulls⟩ := Document.counts_of_body_eq (Option.some.inj part)
    cases side with
    | issues => rw [issues, LabelMaps.only, if_neg notPicked]; rfl
    | pulls => rw [pulls, LabelMaps.only, if_neg notPicked]; rfl
  · intro keeps id body found
    obtain ⟨pair, isPair, rfl, rfl⟩ := exists_pair_of_get? distinctOnly found
    have same (side : Side) : ((maps.only sides side pair.1).get? pair.2).getD 0 =
        ((maps side pair.1).get? pair.2).getD 0 := by
      by_cases isPicked : side ∈ sides
      · rw [LabelMaps.only, if_pos isPicked]
      · rw [LabelMaps.only, if_neg isPicked, keeps pair isPair side isPicked]
        rfl
    rw [get?_labelBatch distinct (labelPairs_only_subset sides _ isPair), Occasion.labelDocument,
      Occasion.labelDocument, same, same]

theorem keepsSides_iff (sides : List Side) (repositories : List String) :
    KeepsSides (labelFinding maps) repositories (sides.map labelRow) Catalogue.labelRows ↔
      ∀ pair ∈ labelPairs (maps.only sides) repositories, ∀ side, side ∉ sides →
        ((maps side pair.1).get? pair.2).getD 0 = 0 := by
  have labels (repository : String) (side : Side) :
      (labelFinding maps repository (labelRow side)).labels = maps side repository := by
    rw [labelFinding_labelRow]
    rfl
  constructor
  · rintro keeps ⟨repository, label⟩ isPair side notPicked
    obtain ⟨isRepository, isLabel⟩ := mem_labelPairs.mp isPair
    have isRow : labelRow side ∈ Catalogue.labelRows := by
      cases side <;> exact List.get_mem _ _
    have isLeft : labelRow side ∉ sides.map labelRow := by
      rwa [List.mem_map_of_injective labelRow_injective]
    obtain ⟨other, member⟩ : ∃ other, label ∈ (maps.only sides other repository).keys :=
      isLabel.elim (fun member => ⟨_, member⟩) fun member => ⟨_, member⟩
    obtain ⟨isPicked, isCounted⟩ := keys_only member
    have none := keeps repository isRepository _ (List.mem_map_of_mem isPicked) _ isRow isLeft label
    rw [labels, labels] at none
    exact none isCounted
  · rintro keeps repository isRepository row isPicked other isRow isLeft label
    obtain ⟨side, isSide, rfl⟩ := List.mem_map.mp isPicked
    rw [labelRows_eq] at isRow
    obtain ⟨otherSide, -, rfl⟩ := List.mem_map.mp isRow
    rw [labels, labels]
    intro isCounted
    have isPair : (repository, label) ∈ labelPairs (maps.only sides) repositories := by
      have isHere : label ∈ (maps.only sides side repository).keys := by
        rwa [LabelMaps.only, if_pos isSide]
      refine mem_labelPairs.mpr ⟨isRepository, ?_⟩
      cases side with
      | issues => exact .inl isHere
      | pulls => exact .inr isHere
    exact keeps _ isPair otherSide fun isSide' => isLeft (List.mem_map_of_mem isSide')

end

/-! ### Any table -/

theorem keepsSides_congr
    {repositories : List String}
    {table : List Row}
    {first second : String → Row → Finding}
    (picked : rows.Sublist table)
    (same : ∀ repository ∈ repositories, ∀ row ∈ table,
      first repository row = second repository row) :
    KeepsSides first repositories rows table ↔ KeepsSides second repositories rows table := by
  refine forall₂_congr fun repository isRepository => forall₂_congr fun row isRow =>
    forall₂_congr fun other isOther => ?_
  rw [same repository isRepository row (picked.subset isRow),
    same repository isRepository other isOther]

theorem keepsSides_of_reports
    {repositories : List String}
    {report : String → Row → Report}
    (picked : rows.Sublist family.rows)
    (reports : ∀ repository ∈ repositories, ∀ row ∈ family.rows,
      Reports family row.name (finding repository row) (report repository row)) :
    KeepsSides finding repositories rows family.rows := by
  intro repository isRepository row isRow other _ _ label member
  rw [labels_of_reports (reports repository isRepository row (picked.subset isRow))] at member
  cases member

theorem labels_agree_iff
    (picked : rows.Sublist Catalogue.labelRows)
    (isLabels : ∀ repository ∈ occasion.repositories, ∀ row ∈ Catalogue.labelRows,
      finding repository row =
        labelFinding (fun side repository => (finding repository (labelRow side)).labels)
          repository row)
    (distinct : DistinctIds ((pages (occasion.filing .labels) occasion.repositories
      Catalogue.labelRows finding).map Document.key)) :
    Within (rowsBatch (occasion.filing .labels) occasion.repositories rows finding)
        (rowsBatch (occasion.filing .labels) occasion.repositories Catalogue.labelRows finding) ↔
      KeepsSides finding occasion.repositories rows Catalogue.labelRows := by
  generalize isMaps : (fun side repository => (finding repository (labelRow side)).labels) = maps
    at isLabels
  obtain ⟨sides, areSides, rfl⟩ := exists_sides picked
  have sameWhole (repository : String) (isRepository : repository ∈ occasion.repositories) :
      pageOf (occasion.filing .labels) repository Catalogue.labelRows (finding repository) =
        pageOf (occasion.filing .labels) repository Catalogue.labelRows
          (labelFinding maps repository) :=
    pageOf_congr (isLabels repository isRepository)
  have whole : rowsBatch (occasion.filing .labels) occasion.repositories Catalogue.labelRows
      finding = labelBatch occasion maps :=
    rowsBatch_congr sameWhole
  have part : rowsBatch (occasion.filing .labels) occasion.repositories (sides.map labelRow)
      finding = labelBatch occasion (LabelMaps.only maps sides) := by
    refine rowsBatch_congr fun repository isRepository => ?_
    rw [← pageOf_sides _ _ _ areSides]
    exact pageOf_congr fun row isRow => isLabels repository isRepository row (picked.subset isRow)
  have distinctPairs :
      DistinctIds ((labelPairs maps occasion.repositories).map (labelKey occasion.date)) := by
    have held : ∀ key ∈ (labelPairs maps occasion.repositories).map (labelKey occasion.date),
        key ∈ (pages (occasion.filing .labels) occasion.repositories Catalogue.labelRows
          finding).map Document.key := by
      intro key isKey
      obtain ⟨pair, isPair, rfl⟩ := List.mem_map.mp isKey
      refine List.mem_map.mpr ⟨occasion.labelDocument maps pair, ?_, rfl⟩
      rw [pages, List.flatMap_congr sameWhole, mem_label_pages]
      exact List.mem_map_of_mem isPair
    exact distinct.of_subset held
  rw [whole, part, within_only_iff sides distinctPairs, keepsSides_congr picked isLabels,
    keepsSides_iff]

/-- **Picked rows.**  Where every search has one answer and the table of a family is assembled, any
rows picked from the table are assembled as well.  If the keys of the table's documents have
different ids, all documents of the picked rows are in the batch of the table, under the same id and
with the same body, exactly if no label of a picked row is counted by a row that was left out.  Only
the label family has such rows. -/
theorem picked_rows_agree
    {plan : Plan}
    {whole : Batch}
    {asked asked' : List Request}
    (picked : rows.Sublist family.rows)
    (hasTable : family ≠ .releases)
    (assembled : ((assemble plan family occasion).run (.steady answer) asked).2 = .ok whole) :
    let finding := findingBy answer plan.useLookups occasion.repositories
    let documents := pages (occasion.filing family) occasion.repositories family.rows finding
    ∃ part : Batch,
      ((assembleRows plan family rows occasion).run (.steady answer) asked').2 = .ok part ∧
      whole = Batch.ofDocuments documents ∧
      (family ≠ .labels → KeepsSides finding occasion.repositories rows family.rows) ∧
      (DistinctIds (documents.map Document.key) →
        (Within part whole ↔ KeepsSides finding occasion.repositories rows family.rows)) := by
  intro finding documents
  have isAssembly : assemble plan family occasion =
      assembleRows plan family family.rows occasion := by
    cases family <;> first | rfl | exact absurd rfl hasTable
  rw [isAssembly, Inquiry.run_steady] at assembled
  have tells := tells_of_assembled assembled
  have isWhole := resultBy_assembleRows family tells
  rw [assembled] at isWhole
  have isPart : (assembleRows plan family rows occasion).resultBy answer = _ :=
    resultBy_assembleRows family fun row isRow => tells row (picked.subset isRow)
  rw [Except.ok.inj isWhole]
  refine ⟨_, (Inquiry.run_steady _ _).trans isPart, rfl, ?_⟩
  by_cases isLabels : family = .labels
  · subst isLabels
    exact ⟨absurd rfl, labels_agree_iff picked (eq_labelFinding_of_tells tells)⟩
  · have scalar : family ∈ scalarFamilies := by
      cases family <;> first | decide | exact absurd rfl ‹_›
    obtain ⟨report, reports⟩ := exists_reports_of_tells scalar tells
    have keeps := keepsSides_of_reports picked fun repository isRepository row isRow =>
      (reports repository isRepository row isRow).1
    exact ⟨fun _ => keeps, fun distinct =>
      ⟨fun _ => keeps, fun _ => within_of_reports scalar picked reports distinct⟩⟩

/-- The row of issues alone leaves out the pull requests with the same label. -/
theorem picked_rows_agree_unless_one_side :
    let occasion : Occasion := ⟨["a"], ⟨2024, 6, 1, by decide⟩, ⟨1717200000, 0⟩⟩
    let answer : Request → Outcome Response := fun request =>
      .ok (lookupAnswer "a" [("bug", if request.index = Catalogue.Holding.issues then 3 else 2)])
    ∃ whole part : Batch,
      ((assemble ⟨true, [], 1⟩ .labels occasion).run (.steady answer) []).2 = .ok whole ∧
      ((assembleRows ⟨true, [], 1⟩ .labels [labelRow .issues] occasion).run
        (.steady answer) []).2 = .ok part ∧
      ¬ Within part whole := by
  intro occasion answer
  have succeeds :
      ((assemble ⟨true, [], 1⟩ .labels occasion).run (.steady answer) []).2.isOk = true := by
    decide +kernel
  cases assembled : ((assemble ⟨true, [], 1⟩ .labels occasion).run (.steady answer) []).2 with
  | error failure =>
    rw [assembled] at succeeds
    cases succeeds
  | ok whole =>
    have picked : [labelRow .issues].Sublist Family.labels.rows :=
      List.Sublist.cons_cons _ (List.nil_sublist _)
    obtain ⟨part, isPart, -, -, agree⟩ := picked_rows_agree picked (by decide) assembled
    refine ⟨whole, part, rfl, isPart, fun within => ?_⟩
    have keeps := (agree (by decide +kernel)).mp within
    have left : labelRow .pulls ∉ [labelRow .issues] := fun isIssues =>
      absurd (labelRow_injective (List.mem_singleton.mp isIssues)) (by decide)
    have none := keeps "a" List.mem_cons_self _ List.mem_cons_self (labelRow .pulls)
      (List.mem_cons_of_mem _ List.mem_cons_self) left "bug" (by decide +kernel)
    exact absurd none (by decide +kernel)

end RepoVitals.Assembly
