import RepoVitals.Proofs.Assembly.Labels
import RepoVitals.Proofs.Search.Evaluation
/-!
The two ways of looking labels up, over one collection.

Owns:
- issues and pull requests as documents of a collection, each of one repository;
- the documents that a label row finds for a repository, inside those that its lookup finds for all;
- the buckets of a lookup: every listed repository with a document has one;
- what is counted for a label: the open items of a repository that have it;
- `lookup_modes_agree`: over every collection both ways come to the same batch.

The lookup asks for as many buckets as repositories are listed.  This is enough because a document
is of one repository, so that the documents found are of listed ones only.
-/

namespace RepoVitals.Assembly

open Catalogue (Lookup Row Side)
open Identity (documentId)
open Search (Engine Request Response Stored)

/-! ### Issues and pull requests -/

/-- An issue or a pull request of a repository. -/
structure WorkItem where
  side : Side
  repository : String
  state : String
  isPullRequest : Bool
  labels : List String

/-- The index that the items of a side are in. -/
def sideIndex : Side → String
  | .issues => Catalogue.Holding.issues
  | .pulls => Catalogue.Holding.pulls

/-- The field of the labels of a side. -/
def sideLabelField : Side → String
  | .issues => Catalogue.Field.issueLabel
  | .pulls => Catalogue.Field.pullLabel

/-- The item as a document. -/
def WorkItem.stored (item : WorkItem) : Stored where
  index := sideIndex item.side
  terms := fun field =>
    if field = Catalogue.Field.repository then [.text item.repository]
    else if field = Catalogue.Field.state then [.text item.state]
    else if field = Catalogue.Field.isPullRequest then [.boolean item.isPullRequest]
    else if field = sideLabelField item.side then item.labels.map .text
    else []

theorem WorkItem.texts_repository (item : WorkItem) :
    item.stored.texts Catalogue.Field.repository = [item.repository] :=
  rfl

/-- The executor that evaluates searches over a collection. -/
def evaluating (engine : Engine) (collection : List Stored) : Executor :=
  .steady (fun request => .ok (engine.answer collection request))

/-! ### What is found -/

/-- Every document is of one repository. -/
def OfOneRepository (collection : List Stored) : Prop :=
  ∀ document ∈ collection, ∃ repository, document.texts Catalogue.Field.repository = [repository]

variable (engine : Engine) (collection : List Stored) (row : Row)

/-- The documents that a row is about, of any repository. -/
def candidates : List Stored :=
  collection.filter (fun document =>
    document.index = row.index && engine.admits row.conditions.toValue document)

/-- The documents that a row is about, of one repository. -/
def candidatesOf (repository : String) : List Stored :=
  (candidates engine collection row).filter (fun document =>
    repository ∈ document.texts Catalogue.Field.repository)

/-- The documents that a row is about, of listed repositories. -/
def candidatesOfAny (repositories : List String) : List Stored :=
  (candidates engine collection row).filter (fun document =>
    repositories.any (fun repository => repository ∈ document.texts Catalogue.Field.repository))

theorem admits_pinned (repository : String) (document : Stored) :
    engine.admits (Catalogue.pinned repository).toValue document =
      decide (repository ∈ document.texts Catalogue.Field.repository) := by
  rw [Catalogue.pinned, engine.admits_matching, engine.admits_all, Stored.has_text, Bool.true_and]

variable {row} {side : Side} {name field : String}

theorem found_row (measure : row.measure = .labels side name field) (repository : String) :
    engine.found collection row.index (row.request repository).body =
      candidatesOf engine collection row repository := by
  have isIndex : (row.request repository).index = row.index := by
    rw [Row.request, measure]
    rfl
  have isFilter : (row.request repository).filter = row.filter repository := by
    rw [Row.request, measure]
    rfl
  have found := engine.found_body collection (row.request repository)
  rw [isIndex, isFilter] at found
  rw [found, candidatesOf, candidates, List.filter_filter]
  apply List.filter_congr
  intro document _
  rw [Row.filter, engine.admits_and, admits_pinned]
  ac_rfl

theorem found_lookup
    {lookup : Lookup}
    (isLookup : row.lookup? = some lookup)
    (repositories : List String) :
    engine.found collection row.index (lookup.request row.index repositories).body =
      candidatesOfAny engine collection row repositories := by
  have shared : lookup.shared = row.conditions := by
    unfold Row.lookup? at isLookup
    split at isLookup
    · cases isLookup
      rfl
    · cases isLookup
  have found := engine.found_body collection (lookup.request row.index repositories)
  show engine.found collection (lookup.request row.index repositories).index _ = _
  rw [found, candidatesOfAny, candidates, List.filter_filter]
  apply List.filter_congr
  intro document _
  show (_ && engine.admits
    (lookup.shared.anyOf Catalogue.Field.repository repositories).toValue document) = _
  rw [engine.admits_anyOf, shared]
  show (decide (document.index = row.index) && _) = _
  ac_rfl

/-! ### What is counted -/

/-- The labels of a repository, among the documents that a row is about. -/
def countsOf (row : Row) (field repository : String) : Ledger Int :=
  engine.counts field Catalogue.labelLimit (candidatesOf engine collection row repository)

theorem extract_answer (measure : row.measure = .labels side name field) (repository : String) :
    row.extract (engine.answer collection (row.request repository)) =
      .ok (.labels side (countsOf engine collection row field repository)) := by
  have asked : (row.request repository).aggregations =
      [(name, .terms field Catalogue.labelLimit)] := by
    rw [Row.request, measure]
    rfl
  have isIndex : (row.request repository).index = row.index := by
    rw [Row.request, measure]
    rfl
  rw [Row.extract, measure, Catalogue.Measure.extract, engine.terms_answer collection asked,
    isIndex, found_row engine collection measure, Outcome.ok_bind, Outcome.pure_eq, countsOf]

/-- The documents in the bucket of a listed repository are those that the row finds for it. -/
theorem within_candidatesOfAny
    {repositories : List String}
    {entry : String × Nat}
    (listed : entry.1 ∈ repositories) :
    Engine.within Catalogue.Field.repository (candidatesOfAny engine collection row repositories)
        entry =
      candidatesOf engine collection row entry.1 := by
  rw [Engine.within, candidatesOfAny, candidatesOf, List.filter_filter]
  apply List.filter_congr
  intro document _
  by_cases holds : entry.1 ∈ document.texts Catalogue.Field.repository
  · have anyHolds : repositories.any (fun repository =>
        repository ∈ document.texts Catalogue.Field.repository) = true :=
      List.any_eq_true.mpr ⟨entry.1, listed, by simpa using holds⟩
    simp [holds, anyHolds]
  · simp [holds]

variable {collection}

/-- The buckets of a lookup are not limited: every listed repository with a document has one. -/
theorem has_bucket
    (ofOne : OfOneRepository collection)
    {repositories : List String}
    {repository : String}
    (listed : repository ∈ repositories)
    {document : Stored}
    (isCandidate : document ∈ candidatesOf engine collection row repository) :
    repository ∈ (Search.topTexts Catalogue.Field.repository (max 1 repositories.length)
      (candidatesOfAny engine collection row repositories)).map Prod.fst := by
  obtain ⟨isAbout, holds⟩ := List.mem_filter.mp isCandidate
  have holds := of_decide_eq_true holds
  refine Search.mem_topTexts_of_few ?_ (Nat.le_max_right _ _) ?_ holds
  · intro other isFound content holdsContent
    obtain ⟨isAboutOther, anyListed⟩ := List.mem_filter.mp isFound
    obtain ⟨one, isOne⟩ := ofOne other (List.mem_filter.mp isAboutOther).1
    obtain ⟨hit, isListed, holdsHit⟩ := List.any_eq_true.mp anyListed
    have holdsHit := of_decide_eq_true holdsHit
    rw [isOne, List.mem_singleton] at holdsContent holdsHit
    rw [holdsContent, ← holdsHit]
    exact isListed
  · refine List.mem_filter.mpr ⟨isAbout, ?_⟩
    exact List.any_eq_true.mpr ⟨repository, listed, decide_eq_true holds⟩

/-- What a lookup lists. -/
def lookupTable (collection : List Stored) (row : Row) (field : String)
    (repositories : List String) : LabelTable :=
  Ledger.ofList ((Search.topTexts Catalogue.Field.repository (max 1 repositories.length)
    (candidatesOfAny engine collection row repositories)).map (fun entry =>
      (entry.1, engine.counts field Catalogue.labelLimit
        (Engine.within Catalogue.Field.repository
          (candidatesOfAny engine collection row repositories) entry))))

theorem lookup_answer
    (collection : List Stored)
    {lookup : Lookup}
    (isLookup : row.lookup? = some lookup)
    (repositories : List String) :
    (engine.answer collection (lookup.request row.index repositories)).nestedTerms
        Catalogue.repositoriesName Catalogue.innerLabelsName =
      .ok (lookupTable engine collection row lookup.labelField repositories) := by
  have asked : (lookup.request row.index repositories).aggregations =
      [(Catalogue.repositoriesName, .nestedTerms Catalogue.Field.repository
        (max 1 repositories.length) Catalogue.innerLabelsName lookup.labelField
        Catalogue.labelLimit)] :=
    rfl
  have found : engine.found collection (lookup.request row.index repositories).index
      (lookup.request row.index repositories).body =
        candidatesOfAny engine collection row repositories :=
    found_lookup engine collection isLookup repositories
  have answered := engine.nestedTerms_answer collection asked (by decide) (by decide)
  simp only [found] at answered
  exact answered

theorem get?_lookupTable
    (ofOne : OfOneRepository collection)
    (field : String)
    {repositories : List String}
    {repository : String}
    (listed : repository ∈ repositories) :
    (lookupTable engine collection row field repositories).get? repository =
      if candidatesOf engine collection row repository = [] then none
      else some (countsOf engine collection row field repository) := by
  have unrepeated : Unrepeated ((Search.topTexts Catalogue.Field.repository
      (max 1 repositories.length) (candidatesOfAny engine collection row repositories)).map
        (fun entry => (entry.1, engine.counts field Catalogue.labelLimit
          (Engine.within Catalogue.Field.repository
            (candidatesOfAny engine collection row repositories) entry)))) := by
    rw [Unrepeated, List.map_map]
    exact Search.unrepeated_topTexts _ _ _
  rw [lookupTable, Ledger.get?_ofList unrepeated]
  by_cases none : candidatesOf engine collection row repository = []
  · rw [if_pos none, valueUnder?_eq_none_iff, List.map_map]
    intro member
    obtain ⟨entry, isEntry, rfl⟩ := List.mem_map.mp member
    obtain ⟨document, isFound, holds⟩ := Search.exists_of_mem_topTexts isEntry
    have isCandidate : document ∈ candidatesOf engine collection row entry.1 :=
      List.mem_filter.mpr ⟨(List.mem_filter.mp isFound).1, decide_eq_true holds⟩
    exact List.ne_nil_of_mem isCandidate none
  · obtain ⟨document, isCandidate⟩ := List.exists_mem_of_ne_nil _ none
    obtain ⟨entry, isEntry, rfl⟩ := List.mem_map.mp (has_bucket engine ofOne listed isCandidate)
    rw [if_neg none, valueUnder?_eq_some_iff unrepeated]
    refine List.mem_map.mpr ⟨entry, isEntry, ?_⟩
    rw [within_candidatesOfAny engine collection listed, countsOf]

/-- A listed repository with a document that the row is about has a bucket. -/
theorem mem_keys_lookupTable
    (ofOne : OfOneRepository collection)
    {repositories : List String}
    {repository : String}
    (listed : repository ∈ repositories)
    {document : Stored}
    (isDocument : document ∈ collection)
    (isIndex : document.index = row.index)
    (admitted : engine.admits (row.filter repository).toValue document = true)
    (field : String) :
    repository ∈ (lookupTable engine collection row field repositories).keys := by
  rw [Row.filter, engine.admits_and, admits_pinned, Bool.and_eq_true] at admitted
  have isCandidate : document ∈ candidatesOf engine collection row repository := by
    refine List.mem_filter.mpr ⟨List.mem_filter.mpr ⟨isDocument, ?_⟩, admitted.1⟩
    rw [isIndex, admitted.2]
    simp
  rw [Ledger.mem_keys_iff, get?_lookupTable engine ofOne field listed,
    if_neg (List.ne_nil_of_mem isCandidate)]
  rfl

/-! ### Both ways -/

/-- Evaluated searches tell the labels that a row counts, in either lookup mode. -/
theorem tellsLabels_evaluating
    (ofOne : OfOneRepository collection)
    (measure : row.measure = .labels side name field)
    (useLookups : Bool)
    (repositories : List String)
    {maps : LabelMaps}
    (isMap : maps side = countsOf engine collection row field) :
    TellsLabels (evaluating engine collection) useLookups repositories row maps := by
  have isLookup : row.lookup? = some ⟨side, row.conditions, field⟩ := by
    rw [Row.lookup?, measure]
  refine ⟨_, isLookup, ?_⟩
  cases useLookups with
  | true =>
    refine fun asked => ⟨_, _, rfl, lookup_answer engine collection isLookup repositories, ?_⟩
    intro repository listed
    rw [get?_lookupTable engine ofOne field listed]
    by_cases none : candidatesOf engine collection row repository = []
    · rw [if_pos none, isMap, countsOf, none, engine.counts_nil]
      rfl
    · rw [if_neg none, isMap]
      rfl
  | false =>
    intro repository _ asked
    refine ⟨_, rfl, ?_⟩
    rw [extract_answer engine collection measure, isMap]

/-- The labels of both sides, as evaluated searches tell them. -/
def evaluatedMaps (collection : List Stored) : LabelMaps :=
  fun side => countsOf engine collection (labelRow side) (sideLabelField side)

theorem tellsLabels_labelRows
    (ofOne : OfOneRepository collection)
    (useLookups : Bool)
    (repositories : List String) :
    ∀ row ∈ Catalogue.labelRows, TellsLabels (evaluating engine collection) useLookups repositories
      row (evaluatedMaps engine collection) := by
  intro row isRow
  -- The side is told by the measure; otherwise the counts of both sides are compared to find it.
  rcases List.mem_pair.mp isRow with rfl | rfl
  · have measure : (labelRow .issues).measure = .labels .issues _ (sideLabelField .issues) := rfl
    exact tellsLabels_evaluating engine ofOne measure useLookups repositories rfl
  · have measure : (labelRow .pulls).measure = .labels .pulls _ (sideLabelField .pulls) := rfl
    exact tellsLabels_evaluating engine ofOne measure useLookups repositories rfl

/-! ### What is counted of items -/

/-- Open issues without the pull requests among them, or open pull requests. -/
def WorkItem.IsOpen (item : WorkItem) (side : Side) : Bool :=
  item.side = side && item.state = "open" && (side = .pulls || !item.isPullRequest)

/-- How many open items of a side and a repository have a label. -/
def openWith (items : List WorkItem) (side : Side) (repository label : String) : Nat :=
  items.countP (fun item =>
    item.IsOpen side && item.repository = repository && label ∈ item.labels)

theorem WorkItem.texts_label (item : WorkItem) :
    item.stored.texts (sideLabelField item.side) = item.labels := by
  have terms : item.stored.terms (sideLabelField item.side) = item.labels.map .text := by
    cases isSide : item.side <;> simp [stored, isSide, sideLabelField, Catalogue.Field.repository,
      Catalogue.Field.state, Catalogue.Field.isPullRequest, Catalogue.Field.issueLabel,
      Catalogue.Field.pullLabel]
  rw [Stored.texts, terms, List.filterMap_map]
  exact List.filterMap_some

theorem WorkItem.has_state (item : WorkItem) (state : String) :
    item.stored.has Catalogue.Field.state (.text state) = decide (state = item.state) := by
  rw [Stored.has_text]
  exact decide_eq_decide.mpr List.mem_singleton

theorem WorkItem.has_isPullRequest (item : WorkItem) (flag : Bool) :
    item.stored.has Catalogue.Field.isPullRequest (.boolean flag) =
      (flag == item.isPullRequest) := by
  show decide (Search.Term.boolean flag ∈ [Search.Term.boolean item.isPullRequest]) = _
  cases flag <;> cases item.isPullRequest <;> rfl

theorem index_stored (item : WorkItem) (side : Side) :
    item.stored.index = (labelRow side).index ↔ item.side = side := by
  show sideIndex item.side = _ ↔ _
  cases item.side <;> cases side <;> decide

/-- An item is a candidate of the row of a side if it is open there. -/
theorem isOpen_eq (item : WorkItem) (side : Side) :
    (item.stored.index = (labelRow side).index &&
        engine.admits (labelRow side).conditions.toValue item.stored) = item.IsOpen side := by
  simp only [index_stored, WorkItem.IsOpen, Bool.and_assoc]
  congr 1
  cases side with
  | issues =>
    show engine.admits Catalogue.issuesStillOpen.toValue item.stored = _
    rw [Catalogue.issuesStillOpen, Catalogue.issues, engine.admits_matching,
      engine.admits_matching, engine.admits_all, item.has_state, item.has_isPullRequest]
    simp [Bool.and_comm, eq_comm]
  | pulls =>
    show engine.admits Catalogue.pullsStillOpen.toValue item.stored = _
    rw [Catalogue.pullsStillOpen, engine.admits_matching, engine.admits_all, item.has_state]
    simp [eq_comm]

theorem countP_candidatesOf
    (items : List WorkItem)
    (side : Side)
    (repository label : String) :
    (candidatesOf engine (items.map WorkItem.stored) (labelRow side) repository).countP
        (fun document => label ∈ document.texts (sideLabelField side)) =
      openWith items side repository label := by
  rw [candidatesOf, candidates, List.countP_filter, List.countP_filter, List.countP_map, openWith]
  apply List.countP_congr
  intro item _
  simp only [Function.comp, isOpen_eq, item.texts_repository, List.mem_singleton]
  by_cases isSide : item.side = side
  · subst isSide
    rw [item.texts_label]
    simp only [Bool.and_eq_true, decide_eq_true_iff, eq_comm (a := repository)]
    tauto
  · simp [WorkItem.IsOpen, isSide]

theorem eq_written_openWith
    {items : List WorkItem}
    {side : Side}
    {repository label : String}
    {count : Int}
    (found : (evaluatedMaps engine (items.map WorkItem.stored) side repository).get? label =
      some count) :
    count = engine.written (openWith items side repository label) := by
  rw [← countP_candidatesOf engine]
  exact engine.eq_written_of_counts found

theorem mem_keys_evaluatedMaps_iff
    {items : List WorkItem}
    (few : (items.flatMap WorkItem.labels).dedup.length ≤ Catalogue.labelLimit)
    (side : Side)
    (repository label : String) :
    label ∈ (evaluatedMaps engine (items.map WorkItem.stored) side repository).keys ↔
      0 < openWith items side repository label := by
  rw [← countP_candidatesOf engine]
  refine engine.mem_keys_counts_iff ?_ few label
  intro document isCandidate content holds
  have isAbout := List.mem_filter.mp (List.mem_filter.mp isCandidate).1
  obtain ⟨item, isItem, rfl⟩ := List.mem_map.mp isAbout.1
  have isSide : item.side = side := by
    have isOpen := isAbout.2
    rw [isOpen_eq, WorkItem.IsOpen] at isOpen
    simp only [Bool.and_eq_true, decide_eq_true_iff] at isOpen
    exact isOpen.1.1
  rw [← isSide, item.texts_label] at holds
  exact List.mem_dedup.mpr (List.mem_flatMap.mpr ⟨item, isItem, holds⟩)

/-- **Both lookup modes agree.**  Over any collection of issues and pull requests, the label family
is assembled with lookups and without them, and both come to the same batch.  If the keys have
different ids, it holds a document for each listed repository and each label that is counted there.
What is counted is how many open items of the repository have the label; no label is left out as
long as there are not more than are asked for.  A repository that is listed and has a document that
a row is about has a bucket in the answer to the row's lookup. -/
theorem lookup_modes_agree
    (engine : Engine)
    (items : List WorkItem)
    (plan : Plan)
    (occasion : Occasion)
    (asked asked' : List Request) :
    let collection := items.map WorkItem.stored
    let maps := evaluatedMaps engine collection
    (∃ batch : Batch,
      ((assemble { plan with useLookups := true } .labels occasion).run
        (evaluating engine collection) asked).2 = .ok batch ∧
      ((assemble { plan with useLookups := false } .labels occasion).run
        (evaluating engine collection) asked').2 = .ok batch ∧
      (DistinctIds ((labelPairs maps occasion.repositories).map (labelKey occasion.date)) →
        batch.documents.Perm ((labelPairs maps occasion.repositories).map (fun pair =>
          ⟨documentId (labelKey occasion.date pair), (occasion.labelDocument maps pair).body⟩)))) ∧
    (∀ side repository label,
      (∀ count, (maps side repository).get? label = some count →
        count = engine.written (openWith items side repository label)) ∧
      ((items.flatMap WorkItem.labels).dedup.length ≤ Catalogue.labelLimit →
        (label ∈ (maps side repository).keys ↔ 0 < openWith items side repository label))) ∧
    ∀ row ∈ Catalogue.labelRows, ∀ lookup, row.lookup? = some lookup →
      ∃ table, (engine.answer collection
          (lookup.request row.index occasion.repositories)).nestedTerms
            Catalogue.repositoriesName Catalogue.innerLabelsName = .ok table ∧
        ∀ repository ∈ occasion.repositories,
          (∃ document ∈ collection, document.index = row.index ∧
            engine.admits (row.filter repository).toValue document = true) →
          repository ∈ table.keys := by
  intro collection maps
  have ofOne : OfOneRepository collection := by
    intro document isDocument
    obtain ⟨item, _, rfl⟩ := List.mem_map.mp isDocument
    exact ⟨_, item.texts_repository⟩
  refine ⟨?_, ?_, ?_⟩
  · have success (useLookups : Bool) :
        (assemble { plan with useLookups := useLookups } .labels occasion).Succeeds
          (evaluating engine collection)
          (· = rowsBatch (occasion.filing .labels) occasion.repositories Catalogue.labelRows
            (labelFinding maps)) :=
      succeeds_assemble_labels
        (tellsLabels_labelRows engine ofOne useLookups occasion.repositories)
    obtain ⟨_, isBatch, rfl⟩ := success true asked
    obtain ⟨_, isBatch', rfl⟩ := success false asked'
    exact ⟨_, isBatch, isBatch', documents_labels occasion maps⟩
  · intro side repository label
    exact ⟨fun _ found => eq_written_openWith engine found,
      fun few => mem_keys_evaluatedMaps_iff engine few side repository label⟩
  · intro row isRow lookup isLookup
    refine ⟨_, lookup_answer engine collection isLookup occasion.repositories, ?_⟩
    rintro repository listed ⟨document, isDocument, isIndex, admitted⟩
    exact mem_keys_lookupTable engine ofOne listed isDocument isIndex admitted lookup.labelField

end RepoVitals.Assembly
