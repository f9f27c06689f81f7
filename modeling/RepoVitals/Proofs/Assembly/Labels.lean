import RepoVitals.Proofs.Assembly.Rows
import RepoVitals.Proofs.Batch
import Mathlib.Data.List.Dedup
/-!
The label family: one document for each label of a repository.

Owns:
- `TellsLabels`: an executor tells how often each label occurs on one side of each repository, in
  either lookup mode, and the batch that comes of it;
- the two sides of a repository in one map, read through its lookups;
- walks through the entries of a map in any order, none of which shows in the documents;
- `label_batch_merges_sides`: what the batch of the family holds.
-/

namespace RepoVitals.Assembly

open Catalogue (Family Lookup Row Side)
open Identity (NaturalKey documentId)
open Search (Request Response)

/-! ### Sides -/

/-- The row that counts the labels of a side. -/
def labelRow : Side → Row
  | .issues => Catalogue.labelRows[0]
  | .pulls => Catalogue.labelRows[1]

/-- How often each label occurs, by side and repository. -/
abbrev LabelMaps := Side → String → Ledger Int

/-- The executor tells the labels of a row: the answer to the row's lookup lists them for all
repositories, or the answer for each repository lists its own. -/
def TellsLabels (executor : Executor) (useLookups : Bool) (repositories : List String) (row : Row)
    (maps : LabelMaps) : Prop :=
  ∃ lookup, row.lookup? = some lookup ∧
    if useLookups then
      ∀ asked, ∃ response table,
        executor asked (lookup.request row.index repositories) = .ok response ∧
          response.nestedTerms Catalogue.repositoriesName Catalogue.innerLabelsName = .ok table ∧
          ∀ repository ∈ repositories,
            (table.get? repository).getD Ledger.empty = maps lookup.side repository
    else
      ∀ repository ∈ repositories, ∀ asked, ∃ response,
        executor asked (row.request repository) = .ok response ∧
          row.extract response = .ok (.labels lookup.side (maps lookup.side repository))

/-- The finding of a label row. -/
def labelFinding (maps : LabelMaps) (repository : String) (row : Row) : Finding :=
  match row.lookup? with
  | some lookup => ⟨.labels lookup.side (maps lookup.side repository), none⟩
  | none => ⟨.count 0, none⟩

theorem tells_of_tellsLabels
    {executor : Executor}
    {useLookups : Bool}
    {repositories : List String}
    {row : Row}
    {maps : LabelMaps}
    (noThreshold : row.threshold = none)
    (tells : TellsLabels executor useLookups repositories row maps) :
    Tells executor useLookups repositories (labelFinding maps) row := by
  obtain ⟨lookup, isLookup, told⟩ := tells
  have finding (repository : String) : labelFinding maps repository row =
      ⟨.labels lookup.side (maps lookup.side repository), none⟩ := by
    rw [labelFinding, isLookup]
  unfold Tells
  cases useLookups with
  | true =>
    rw [if_pos rfl] at told ⊢
    rw [isLookup]
    have answered : (Inquiry.search (lookup.request row.index repositories)).Succeeds executor
        (fun response => ∃ table,
          response.nestedTerms Catalogue.repositoriesName Catalogue.innerLabelsName = .ok table ∧
          ∀ repository ∈ repositories,
            (table.get? repository).getD Ledger.empty = maps lookup.side repository) :=
      Inquiry.Succeeds.search fun asked => by
        obtain ⟨response, table, isAnswer, isTable, lists⟩ := told asked
        exact ⟨response, isAnswer, table, isTable, lists⟩
    refine (answered.within _).bind fun response isTable => ?_
    obtain ⟨table, isTable, lists⟩ := isTable
    refine Inquiry.Succeeds.ofOutcome isTable fun repository isRepository => ?_
    rw [finding, lists repository isRepository]
  | false =>
    intro repository isRepository
    apply succeeds_findingVolley
    · rw [finding]
      exact Inquiry.Succeeds.search (told repository isRepository)
    · rw [noThreshold, finding]
      rfl

theorem succeeds_assemble_labels
    {executor : Executor}
    {plan : Plan}
    {occasion : Occasion}
    {maps : LabelMaps}
    (tells : ∀ row ∈ Catalogue.labelRows,
      TellsLabels executor plan.useLookups occasion.repositories row maps) :
    (assemble plan .labels occasion).Succeeds executor
      (· = rowsBatch (occasion.filing .labels) occasion.repositories Catalogue.labelRows
        (labelFinding maps)) := by
  have noThreshold : ∀ row ∈ Catalogue.labelRows, row.threshold.isNone = true := by decide
  apply succeeds_assembleRows
  intro row isRow
  exact tells_of_tellsLabels (Option.isNone_iff_eq_none.mp (noThreshold row isRow))
    (tells row isRow)

/-! ### Both sides -/

theorem mergeEntries_eq (labels : Ledger LabelCounts) (side : Side)
    (entries : List (String × Int)) :
    mergeEntries labels side entries =
      labels.takeIn (fun held count => (held.getD ⟨0, 0⟩).set side count) entries :=
  rfl

/-- The labels of a repository, with their counts on both sides. -/
def bothSides (maps : LabelMaps) (repository : String) : Ledger LabelCounts :=
  mergeLabels (mergeLabels Ledger.empty .issues (maps .issues repository)) .pulls
    (maps .pulls repository)

theorem get?_bothSides (maps : LabelMaps) (repository label : String) :
    (bothSides maps repository).get? label =
      if label ∈ (maps .issues repository).keys ∨ label ∈ (maps .pulls repository).keys then
        some ⟨((maps .issues repository).get? label).getD 0,
          ((maps .pulls repository).get? label).getD 0⟩
      else none := by
  have merged : (bothSides maps repository).get? label =
      match (maps .pulls repository).get? label, (maps .issues repository).get? label with
      | none, none => none
      | none, some issues => some ⟨issues, 0⟩
      | some pulls, none => some ⟨0, pulls⟩
      | some pulls, some issues => some ⟨issues, pulls⟩ := by
    rw [bothSides, mergeLabels, mergeLabels, mergeEntries_eq, mergeEntries_eq,
      Ledger.get?_takeIn _ _ (Ledger.unrepeated _), Ledger.get?_takeIn _ _ (Ledger.unrepeated _),
      ← Ledger.get?, ← Ledger.get?]
    cases (maps .pulls repository).get? label <;> cases (maps .issues repository).get? label <;> rfl
  simp only [merged, Ledger.mem_keys_iff]
  cases (maps .pulls repository).get? label <;> cases (maps .issues repository).get? label <;> rfl

theorem pageOf_labelRows (filing : Filing) (maps : LabelMaps) (repository : String) :
    pageOf filing repository Catalogue.labelRows (labelFinding maps repository) =
      labelDocuments filing repository (bothSides maps repository) :=
  rfl

/-! ### Walks -/

/-- Take in a measurement, walking through its labels in a given order. -/
def Draft.addIn (walk : Placed Finding → List (String × Int)) (filing : Filing)
    (repositories rowNames : List String) (draft : Draft) (measurement : Placed Finding) : Draft :=
  match measurement.result.extracted with
  | .labels side _ =>
    let entered := draft.enter filing repositories measurement.repository
    { entered with labels := mergeEntries entered.labels side (walk measurement) }
  | _ => draft.add filing repositories rowNames measurement

/-- The documents of measurements that stand in order, where the labels of each are walked through
in a given order. -/
def documentsIn (walk : Placed Finding → List (String × Int)) (filing : Filing)
    (repositories rowNames : List String) (measurements : List (Placed Finding)) :
    List Document :=
  let draft := measurements.foldl (Draft.addIn walk filing repositories rowNames) Draft.empty
  (draft.flush filing repositories).reversed.reverse

/-- The walk through the labels of a measurement meets each of them once. -/
def IsWalk (walk : Placed Finding → List (String × Int)) : Prop :=
  ∀ measurement side counts, measurement.result.extracted = .labels side counts →
    (walk measurement).Perm counts.entries

theorem Draft.addIn_eq
    {walk : Placed Finding → List (String × Int)}
    (isWalk : IsWalk walk)
    (filing : Filing)
    (repositories rowNames : List String)
    (draft : Draft)
    (measurement : Placed Finding) :
    draft.addIn walk filing repositories rowNames measurement =
      draft.add filing repositories rowNames measurement := by
  unfold addIn add
  cases found : measurement.result.extracted with
  | labels side counts =>
    have same (labels : Ledger LabelCounts) :
        mergeEntries labels side (walk measurement) = mergeLabels labels side counts := by
      rw [mergeLabels, mergeEntries_eq, mergeEntries_eq]
      exact Ledger.takeIn_of_perm _ _ counts.unrepeated (isWalk measurement side counts found)
    simp only [same]
  | _ => rfl

theorem documentsIn_eq
    {walk : Placed Finding → List (String × Int)}
    (isWalk : IsWalk walk)
    (filing : Filing)
    (repositories rowNames : List String)
    (measurements : List (Placed Finding)) :
    documentsIn walk filing repositories rowNames measurements =
      documentsOf filing repositories rowNames measurements := by
  have same : Draft.addIn walk filing repositories rowNames =
      Draft.add filing repositories rowNames := by
    funext draft measurement
    exact Draft.addIn_eq isWalk filing repositories rowNames draft measurement
  rw [documentsIn, documentsOf, same]

/-! ### The label family -/

/-- Every repository with each of the labels that one of its sides has. -/
def labelPairs (maps : LabelMaps) (repositories : List String) : List (String × String) :=
  repositories.dedup.flatMap (fun repository =>
    ((maps .issues repository).keys ++ (maps .pulls repository).keys).dedup.map
      (Prod.mk repository))

/-- The natural key of a repository and a label. -/
def labelKey (date : Calendar.Date) (pair : String × String) : NaturalKey :=
  ⟨Family.labels.name, pair.2, .day date, pair.1⟩

/-- The document of a repository and a label: a side without the label counts zero. -/
def Occasion.labelDocument (occasion : Occasion) (maps : LabelMaps) (pair : String × String) :
    Document :=
  ⟨⟨.day occasion.date, occasion.runAt.text, pair.1⟩,
    .label pair.2 (((maps .issues pair.1).get? pair.2).getD 0)
      (((maps .pulls pair.1).get? pair.2).getD 0)⟩

theorem mem_labelPairs {maps : LabelMaps} {repositories : List String} {pair : String × String} :
    pair ∈ labelPairs maps repositories ↔
      pair.1 ∈ repositories ∧
        (pair.2 ∈ (maps .issues pair.1).keys ∨ pair.2 ∈ (maps .pulls pair.1).keys) := by
  obtain ⟨repository, label⟩ := pair
  simp only [labelPairs, List.mem_flatMap, List.mem_map, List.mem_dedup, List.mem_append,
    Prod.mk.injEq]
  constructor
  · rintro ⟨_, isRepository, _, isLabel, rfl, rfl⟩
    exact ⟨isRepository, isLabel⟩
  · rintro ⟨isRepository, isLabel⟩
    exact ⟨repository, isRepository, label, isLabel, rfl, rfl⟩

theorem nodup_labelKeys (date : Calendar.Date) (maps : LabelMaps) (repositories : List String) :
    ((labelPairs maps repositories).map (labelKey date)).Nodup := by
  have unrepeated : (labelPairs maps repositories).Nodup := by
    rw [labelPairs, List.nodup_flatMap]
    constructor
    · intro repository _
      exact (List.nodup_dedup _).map fun _ _ same => (Prod.mk.inj same).2
    · refine (List.nodup_dedup repositories).imp fun different => ?_
      intro pair isFirst isSecond
      obtain ⟨_, _, rfl⟩ := List.mem_map.mp isFirst
      obtain ⟨_, _, same⟩ := List.mem_map.mp isSecond
      exact different (Prod.mk.inj same).1.symm
  refine unrepeated.map fun first second same => ?_
  have sameRepository : first.1 = second.1 := congrArg NaturalKey.repository same
  have sameLabel : first.2 = second.2 := congrArg NaturalKey.name same
  exact Prod.ext sameRepository sameLabel

theorem mem_labelDocuments
    (occasion : Occasion)
    (maps : LabelMaps)
    (repository : String)
    (document : Document) :
    document ∈ labelDocuments (occasion.filing .labels) repository (bothSides maps repository) ↔
      ∃ label, (label ∈ (maps .issues repository).keys ∨ label ∈ (maps .pulls repository).keys) ∧
        occasion.labelDocument maps (repository, label) = document := by
  rw [labelDocuments, List.mem_map]
  constructor
  · rintro ⟨⟨label, counts⟩, isEntry, rfl⟩
    have found := Ledger.get?_eq_some_iff.mpr isEntry
    rw [get?_bothSides] at found
    by_cases isLabel :
        label ∈ (maps .issues repository).keys ∨ label ∈ (maps .pulls repository).keys
    · rw [if_pos isLabel] at found
      refine ⟨label, isLabel, ?_⟩
      rw [← Option.some.inj found]
      rfl
    · rw [if_neg isLabel] at found
      exact absurd found.symm (Option.some_ne_none _)
  · rintro ⟨label, isLabel, rfl⟩
    refine ⟨(label, ⟨((maps .issues repository).get? label).getD 0,
      ((maps .pulls repository).get? label).getD 0⟩), ?_, rfl⟩
    rw [← Ledger.get?_eq_some_iff, get?_bothSides, if_pos isLabel]

theorem mem_label_pages
    (occasion : Occasion)
    (maps : LabelMaps)
    (document : Document) :
    document ∈ occasion.repositories.flatMap (fun repository =>
        pageOf (occasion.filing .labels) repository Catalogue.labelRows
          (labelFinding maps repository)) ↔
      document ∈ (labelPairs maps occasion.repositories).map (occasion.labelDocument maps) := by
  simp only [List.mem_flatMap, pageOf_labelRows, mem_labelDocuments, List.mem_map, mem_labelPairs]
  constructor
  · rintro ⟨repository, isRepository, label, isLabel, rfl⟩
    exact ⟨(repository, label), ⟨isRepository, isLabel⟩, rfl⟩
  · rintro ⟨⟨repository, label⟩, ⟨isRepository, isLabel⟩, rfl⟩
    exact ⟨repository, isRepository, label, isLabel, rfl⟩

theorem documents_labels
    (occasion : Occasion)
    (maps : LabelMaps)
    (distinct : DistinctIds ((labelPairs maps occasion.repositories).map
      (labelKey occasion.date))) :
    (rowsBatch (occasion.filing .labels) occasion.repositories Catalogue.labelRows
      (labelFinding maps)).documents.Perm ((labelPairs maps occasion.repositories).map (fun pair =>
        ⟨documentId (labelKey occasion.date pair), (occasion.labelDocument maps pair).body⟩)) :=
  Batch.documents_perm_of_keys (fun _ _ => rfl) (mem_label_pages occasion maps)
    (nodup_labelKeys occasion.date maps occasion.repositories) distinct

/-- What the label rows find, in the order of repositories and rows. -/
def labelMeasurements (maps : LabelMaps) (repositories : List String) : List (Placed Finding) :=
  (tasksOf repositories Catalogue.labelRows).map (fun task =>
    task.placed (labelFinding maps task.repository task.subject))

/-- **Label batches merge both sides.**  Whatever the labels of each repository are on its issues
and on its pull requests, and whichever way they were looked up, the assembly succeeds.  The order
in which the labels of a side are walked through does not matter.  If the keys have different ids,
the batch holds one document for each repository and each label of one of its sides, with the count
of that repository on both sides, and nothing else. -/
theorem label_batch_merges_sides
    (plan : Plan)
    (occasion : Occasion)
    (asked : List Request)
    {executor : Executor}
    {maps : LabelMaps}
    (tells : ∀ row ∈ Catalogue.labelRows,
      TellsLabels executor plan.useLookups occasion.repositories row maps) :
    ∃ batch : Batch,
      ((assemble plan .labels occasion).run executor asked).2 = .ok batch ∧
      (∀ walk, IsWalk walk →
        Batch.ofDocuments (documentsIn walk (occasion.filing .labels) occasion.repositories
          (Catalogue.labelRows.map Row.name)
          (labelMeasurements maps occasion.repositories)) = batch) ∧
      (DistinctIds ((labelPairs maps occasion.repositories).map (labelKey occasion.date)) →
        batch.documents.Perm ((labelPairs maps occasion.repositories).map (fun pair =>
          ⟨documentId (labelKey occasion.date pair),
            (occasion.labelDocument maps pair).body⟩))) := by
  obtain ⟨batch, isBatch, rfl⟩ := succeeds_assemble_labels tells asked
  refine ⟨_, isBatch, ?_, documents_labels occasion maps⟩
  intro walk isWalk
  rw [documentsIn_eq isWalk, labelMeasurements, documentsOf_tasks, rowsBatch]

/-- A bucket with a number of documents. -/
def countedBucket (entry : String × Int) : Json.Value :=
  Json.Value.ofFields [("key", .text entry.1), ("doc_count", .integer entry.2)]

/-- An answer to a lookup that lists one repository with its labels. -/
def lookupAnswer (repository : String) (counts : List (String × Int)) : Response :=
  ⟨none, [], Ledger.ofList [(Catalogue.repositoriesName, Json.Value.ofFields [("buckets", .array
    [Json.Value.ofFields [("key", .text repository), (Catalogue.innerLabelsName,
      Json.Value.ofFields [("buckets", .array (counts.map countedBucket))])]])])]⟩

/-- A label on one side only, a label on both, and a repository without any. -/
theorem label_batch_merges_one_sided_label :
    let occasion : Occasion := ⟨["a", "b", "a"], ⟨2024, 6, 1, by decide⟩, ⟨1717200000, 0⟩⟩
    let executor : Executor := .steady (fun request =>
      .ok (if request.index = Catalogue.Holding.issues then lookupAnswer "a" [("bug", 2)]
        else lookupAnswer "a" [("docs", 3), ("bug", 1)]))
    let maps : LabelMaps := fun side repository =>
      if repository = "a" then
        match side with
        | .issues => Ledger.ofList [("bug", 2)]
        | .pulls => Ledger.ofList [("bug", 1), ("docs", 3)]
      else Ledger.empty
    ∃ batch : Batch,
      ((assemble ⟨true, [], 1⟩ .labels occasion).run executor []).2 = .ok batch ∧
      batch.documents.Perm ([("a", "bug"), ("a", "docs")].map (fun pair =>
        ⟨documentId (labelKey occasion.date pair), (occasion.labelDocument maps pair).body⟩)) := by
  intro occasion executor maps
  have tells : ∀ row ∈ Catalogue.labelRows,
      TellsLabels executor true occasion.repositories row maps := by
    intro row isRow
    rcases List.mem_pair.mp isRow with rfl | rfl
    · refine ⟨_, rfl,
        fun asked => ⟨_, Ledger.ofList [("a", Ledger.ofList [("bug", 2)])], rfl, rfl, ?_⟩⟩
      decide +kernel
    · refine ⟨_, rfl, fun asked =>
        ⟨_, Ledger.ofList [("a", Ledger.ofList [("docs", 3), ("bug", 1)])], rfl, rfl, ?_⟩⟩
      decide +kernel
  obtain ⟨batch, isBatch, -, documents⟩ :=
    label_batch_merges_sides ⟨true, [], 1⟩ occasion [] tells
  refine ⟨batch, isBatch, ?_⟩
  have pairs : labelPairs maps occasion.repositories = [("a", "bug"), ("a", "docs")] := by
    decide +kernel
  rw [pairs] at documents
  exact documents (by decide +kernel)

end RepoVitals.Assembly
