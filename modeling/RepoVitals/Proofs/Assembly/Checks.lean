import RepoVitals.Proofs.Assembly.Findings
import RepoVitals.Proofs.Batch
import RepoVitals.Proofs.Document
/-!
Release checks: one document for each repository and version.

Owns:
- watchlists with repeated versions, where the last entry of a version decides its state;
- what the answers to the six searches of a check make of its document;
- `release_batch_complete`: the batch of a watchlist holds one document for each repository and
  version, with the figures of that pair's own searches, and nothing else.
-/

namespace RepoVitals.Assembly

open Catalogue (Check Family Readiness Release TrackingIssue)
open Identity (NaturalKey documentId)
open Json (Value)
open Search (Request Response)

/-! ### Watchlists -/

/-- The versions of a watchlist, each of them once. -/
def versionsOf (releases : List Release) : List String :=
  (releases.map Release.version).dedup

/-- The state that the last entry of a version gives it. -/
def stateOf (releases : List Release) (version : String) : String :=
  ((releases.reverse.find? (fun release => release.version = version)).map Release.state).getD
    Catalogue.usualState

/-- What is watched under a version. -/
def entryOf (releases : List Release) (version : String) : Release :=
  ⟨version, stateOf releases version⟩

variable {releases rest : List Release} {release : Release} {version : String}

theorem find?_of_mem_versions
    (isVersion : version ∈ releases.map Release.version) :
    ∃ release,
      releases.reverse.find? (fun release => release.version = version) = some release := by
  obtain ⟨release, isRelease, isVersion⟩ := List.mem_map.mp isVersion
  apply Option.isSome_iff_exists.mp
  rw [List.find?_isSome]
  exact ⟨release, List.mem_reverse.mpr isRelease, decide_eq_true isVersion⟩

/-- Where a version comes again, an earlier entry does not matter. -/
theorem entryOf_cons_of_mem (comesAgain : version ∈ rest.map Release.version) :
    entryOf (release :: rest) version = entryOf rest version := by
  obtain ⟨last, isLast⟩ := find?_of_mem_versions comesAgain
  rw [entryOf, entryOf, stateOf, stateOf, List.reverse_cons, List.find?_append, isLast]
  rfl

theorem entryOf_cons_self (last : release.version ∉ rest.map Release.version) :
    entryOf (release :: rest) release.version = release := by
  have notLater : rest.reverse.find? (fun later => later.version = release.version) = none := by
    rw [List.find?_eq_none]
    intro later isLater same
    apply last
    exact List.mem_map.mpr ⟨later, List.mem_reverse.mp isLater, by simpa using same⟩
  rw [entryOf, stateOf, List.reverse_cons, List.find?_append, notLater]
  simp

/-- What is watched under a version is an entry of the watchlist. -/
theorem entryOf_mem (isVersion : version ∈ versionsOf releases) :
    entryOf releases version ∈ releases := by
  obtain ⟨release, isEntry⟩ := find?_of_mem_versions (List.mem_dedup.mp isVersion)
  have isVersion : release.version = version := by simpa using List.find?_some isEntry
  have isRelease := List.mem_reverse.mp (List.mem_of_find?_eq_some isEntry)
  rw [entryOf, stateOf, isEntry, ← isVersion]
  exact isRelease

/-- Documents that get their ids from versions make the same batch as those of the last entries. -/
theorem ofDocuments_entries
    {document : Release → Document}
    (sameId : ∀ first second : Release, first.version = second.version →
      (document first).id = (document second).id)
    (releases : List Release) :
    Batch.ofDocuments (releases.map document) =
      Batch.ofDocuments ((versionsOf releases).map (document ∘ entryOf releases)) := by
  induction releases with
  | nil => rfl
  | cons release rest inductionHypothesis =>
    have later : (versionsOf rest).map (document ∘ entryOf (release :: rest)) =
        (versionsOf rest).map (document ∘ entryOf rest) := by
      apply List.map_congr_left
      intro version isVersion
      rw [Function.comp_apply, Function.comp_apply,
        entryOf_cons_of_mem (List.mem_dedup.mp isVersion)]
    rw [List.map_cons]
    by_cases comesAgain : release.version ∈ rest.map Release.version
    · obtain ⟨other, isOther, sameVersion⟩ := List.mem_map.mp comesAgain
      have versions : versionsOf (release :: rest) = versionsOf rest :=
        List.dedup_cons_of_mem comesAgain
      rw [Batch.ofDocuments_cons_of_overwritten (List.mem_map_of_mem isOther)
        (sameId _ _ sameVersion), versions, later, inductionHypothesis]
    · have versions : versionsOf (release :: rest) = release.version :: versionsOf rest :=
        List.dedup_cons_of_notMem comesAgain
      rw [versions, List.map_cons, later, Function.comp_apply, entryOf_cons_self comesAgain]
      show Batch.ofDocuments ([document release] ++ _) = Batch.ofDocuments ([document release] ++ _)
      exact Batch.ofDocuments_append_congr rfl inductionHypothesis

/-! ### Checks -/

variable {answer : Request → Outcome Response} {repository : String}

/-- The fields of a release document that hold counts, each with the search that is counted. -/
def countedSearches (release : Release) (repository : String) : List (String × Request) :=
  let searches := release.searches repository
  [("issues_open", searches.issuesOpen), ("autocut_issues_open", searches.autocutIssuesOpen),
    ("issues_closed", searches.issuesClosed), ("pulls_open", searches.pullsOpen),
    ("pulls_closed", searches.pullsClosed)]

/-- Fields that report the check of a release as the answers to its own searches tell it. -/
structure ReportsCheck (answer : Request → Outcome Response) (repository : String)
    (release : Release) (fields : List (String × Value)) : Prop where
  unrepeated : Unrepeated fields
  isRepository : valueUnder? "repository" fields = some (.text repository)
  isVersion : valueUnder? "release_version" fields = some (.text release.version)
  isState : valueUnder? "release_state" fields = some (.text release.state)
  counts : ∀ counted ∈ countedSearches release repository, ∃ response total,
    answer counted.2 = .ok response ∧ response.total = some total ∧
      valueUnder? counted.1 fields = some (.integer total)
  owners : ∃ response tally,
    answer (release.searches repository).releaseIssue = .ok response ∧
      response.terms Catalogue.ownersName = .ok tally ∧
      valueUnder? "release_owners" fields = some (Value.texts tally.keys) ∧
      tally.keys.Pairwise (· < ·) ∧ tally.keys.Nodup ∧
      valueUnder? "release_owner_exists" fields = some (.boolean (decide (tally.keys ≠ [])))
  issue : (∃ url, url ≠ "" ∧ valueUnder? "release_issue" fields = some (.text url) ∧
      valueUnder? "release_issue_exists" fields = some (.boolean true)) ∨
    (valueUnder? "release_issue" fields = some .null ∧
      valueUnder? "release_issue_exists" fields = some (.boolean false))

theorem total_of_matchCount
    {response : Response}
    {total : Int}
    (isCount : response.matchCount = .ok total) :
    response.total = some total := by
  unfold Response.matchCount at isCount
  cases found : response.total with
  | none =>
    rw [found] at isCount
    cases isCount
  | some other =>
    rw [found] at isCount
    rw [Except.ok.inj isCount]

theorem url_ne_empty
    {response : Response}
    {issue : TrackingIssue}
    (isIssue : Catalogue.trackingIssueOf response = .ok issue) :
    issue.url ≠ some "" := by
  obtain ⟨tally, -, isIssue⟩ := Outcome.exists_of_bind_eq_ok isIssue
  cases isIssue
  intro isEmpty
  obtain ⟨-, notEmpty⟩ := Option.filter_eq_some_iff.mp isEmpty
  exact of_decide_eq_true notEmpty rfl

/-- The six answers to the searches of a check, and what is read from each of them. -/
theorem exists_answers_of_readiness
    {readiness : Readiness}
    (isReadiness : (readinessVolley release repository).resultBy answer = .ok readiness) :
    ∃ answers : Check Response Response,
      (answer (release.searches repository).issuesOpen = .ok answers.issuesOpen ∧
        answer (release.searches repository).autocutIssuesOpen = .ok answers.autocutIssuesOpen ∧
        answer (release.searches repository).issuesClosed = .ok answers.issuesClosed ∧
        answer (release.searches repository).pullsOpen = .ok answers.pullsOpen ∧
        answer (release.searches repository).pullsClosed = .ok answers.pullsClosed ∧
        answer (release.searches repository).releaseIssue = .ok answers.releaseIssue) ∧
      Catalogue.ReadFrom answers readiness := by
  obtain ⟨responses, areResponses, read⟩ := Volley.exists_responses isReadiness
  obtain _ | ⟨first, _ | ⟨second, _ | ⟨third, _ | ⟨fourth, _ | ⟨fifth, _ | ⟨sixth, _ | _⟩⟩⟩⟩⟩⟩ :=
    areResponses
  exact ⟨⟨_, _, _, _, _, _⟩, ⟨first, second, third, fourth, fifth, sixth⟩,
    Catalogue.readFrom_of_readinessOf (Option.some.inj read)⟩

theorem counted_of_matchCount
    {search : Request}
    {response : Response}
    {total : Int}
    {field : String}
    {fields : List (String × Value)}
    (isResponse : answer search = .ok response)
    (isCount : response.matchCount = .ok total)
    (isField : valueUnder? field fields = some (.integer total)) :
    ∃ response total, answer search = .ok response ∧ response.total = some total ∧
      valueUnder? field fields = some (.integer total) :=
  ⟨response, total, isResponse, total_of_matchCount isCount, isField⟩

variable {origin : Origin} {readiness : Readiness}

theorem counts_of_readiness
    (isReadiness : (readinessVolley release repository).resultBy answer = .ok readiness) :
    ∀ counted ∈ countedSearches release repository, ∃ response total,
      answer counted.2 = .ok response ∧ response.total = some total ∧
        valueUnder? counted.1 (Document.fields ⟨origin, .release release readiness⟩) =
          some (.integer total) := by
  obtain ⟨answers, ⟨first, second, third, fourth, fifth, -⟩, read⟩ :=
    exists_answers_of_readiness isReadiness
  simp only [countedSearches, List.forall_mem_cons, List.not_mem_nil, false_implies, implies_true,
    and_true]
  refine ⟨counted_of_matchCount first read.issuesOpen ?_,
    counted_of_matchCount second read.autocutIssuesOpen ?_,
    counted_of_matchCount third read.issuesClosed ?_,
    counted_of_matchCount fourth read.pullsOpen ?_,
    counted_of_matchCount fifth read.pullsClosed ?_⟩
  all_goals
    apply Document.valueUnder?_fields_of_mem
    simp [Report.fields]

theorem issue_of_readiness
    (isReadiness : (readinessVolley release repository).resultBy answer = .ok readiness) :
    ∃ response, answer (release.searches repository).releaseIssue = .ok response ∧
      Catalogue.trackingIssueOf response = .ok readiness.releaseIssue := by
  obtain ⟨answers, ⟨-, -, -, -, -, sixth⟩, read⟩ := exists_answers_of_readiness isReadiness
  exact ⟨answers.releaseIssue, sixth, read.releaseIssue⟩

/-- The fields of a check that was made report it. -/
theorem reportsCheck_fields
    (origin : Origin)
    (isReadiness : (readinessVolley release origin.repository).resultBy answer = .ok readiness) :
    ReportsCheck answer origin.repository release
      (Document.fields ⟨origin, .release release readiness⟩) := by
  obtain ⟨response, isResponse, isIssue⟩ := issue_of_readiness isReadiness
  have holds (key : String) (value : Value)
      (isField : (key, value) ∈ Report.fields (.release release readiness)) :
      valueUnder? key (Document.fields ⟨origin, .release release readiness⟩) = some value :=
    Document.valueUnder?_fields_of_mem isField
  refine
    { unrepeated := Document.unrepeated_fields _
      isRepository := by simp [Document.fields, valueUnder?]
      isVersion := holds _ _ (by simp [Report.fields])
      isState := holds _ _ (by simp [Report.fields])
      counts := counts_of_readiness isReadiness
      owners := ?_
      issue := ?_ }
  · obtain ⟨tally, isTally, isRead⟩ := Outcome.exists_of_bind_eq_ok isIssue
    have areOwners : tally.keys = readiness.releaseIssue.owners :=
      congrArg TrackingIssue.owners (Except.ok.inj isRead)
    refine ⟨response, tally, isResponse, isTally, holds _ _ ?_, ?_, tally.unrepeated, holds _ _ ?_⟩
    · simp [Report.fields, areOwners]
    · exact List.pairwise_map.mpr tally.ascending
    · cases owners : readiness.releaseIssue.owners <;> simp [Report.fields, areOwners, owners]
  · cases url : readiness.releaseIssue.url with
    | none =>
      refine Or.inr ⟨holds _ _ ?_, holds _ _ ?_⟩
      · simp [Report.fields, url, Value.optionalText]
      · simp [Report.fields, url]
    | some url' =>
      have notEmpty : url' ≠ "" := by
        rintro rfl
        exact url_ne_empty isIssue url
      refine Or.inl ⟨url', notEmpty, holds _ _ ?_, holds _ _ ?_⟩
      · simp [Report.fields, url, Value.optionalText]
      · simp [Report.fields, url]

/-! ### Batches of checks -/

/-- The natural key of a repository and a version. -/
def releaseKey (date : Calendar.Date) (pair : String × String) : NaturalKey :=
  ⟨Family.releases.name, pair.2, .day date, pair.1⟩

theorem nodup_releaseKeys
    (date : Calendar.Date)
    (repositories : List String)
    (releases : List Release) :
    ((repositories.dedup ×ˢ versionsOf releases).map (releaseKey date)).Nodup := by
  apply List.Nodup.map _ ((List.nodup_dedup _).product (List.nodup_dedup _))
  intro first second same
  have sameRepository : first.1 = second.1 := congrArg NaturalKey.repository same
  have sameVersion : first.2 = second.2 := congrArg NaturalKey.name same
  exact Prod.ext sameRepository sameVersion

/-- The document of a repository and a version on an occasion. -/
def Occasion.releaseDocument (occasion : Occasion) (releases : List Release)
    (readiness : String → Release → Readiness) (pair : String × String) : Document :=
  ⟨⟨.day occasion.date, occasion.runAt.text, pair.1⟩,
    .release (entryOf releases pair.2) (readiness pair.1 (entryOf releases pair.2))⟩

theorem ofDocuments_checkPages
    (occasion : Occasion)
    (releases : List Release)
    (readiness : String → Release → Readiness) :
    Batch.ofDocuments
        (checkPages (occasion.filing .releases) occasion.repositories releases readiness) =
      Batch.ofDocuments ((occasion.repositories ×ˢ versionsOf releases).map
        (occasion.releaseDocument releases readiness)) := by
  have pages : (occasion.repositories ×ˢ versionsOf releases).map
      (occasion.releaseDocument releases readiness) =
      occasion.repositories.flatMap (fun repository => (versionsOf releases).map
        ((fun release => ⟨(occasion.filing .releases).origin repository,
          .release release (readiness repository release)⟩) ∘ entryOf releases)) := by
    show (occasion.repositories.flatMap fun repository =>
      (versionsOf releases).map (Prod.mk repository)).map _ = _
    rw [List.map_flatMap]
    apply List.flatMap_congr
    intro repository _
    rw [List.map_map]
    rfl
  rw [pages, checkPages]
  apply Batch.ofDocuments_flatMap_congr
  intro repository
  refine ofDocuments_entries (fun first second sameVersion => ?_) releases
  simp only [Document.id, Document.key, Report.family, Report.name, sameVersion]

theorem documents_checkPages
    (occasion : Occasion)
    (releases : List Release)
    (readiness : String → Release → Readiness)
    (distinct : DistinctIds ((occasion.repositories.dedup ×ˢ versionsOf releases).map
      (releaseKey occasion.date))) :
    (Batch.ofDocuments (checkPages (occasion.filing .releases) occasion.repositories releases
      readiness)).documents.Perm ((occasion.repositories.dedup ×ˢ versionsOf releases).map
        (fun pair => ⟨documentId (releaseKey occasion.date pair),
          (occasion.releaseDocument releases readiness pair).body⟩)) := by
  rw [ofDocuments_checkPages]
  exact Batch.documents_perm_of_pairs (fun _ _ => rfl) (nodup_releaseKeys _ _ _) distinct

/-- **Release batches are complete.**  Where the assembly of the release checks succeeds, every pair
of a repository and a version on the watchlist is reported with the state of the last entry of that
version and with the figures of that pair's own searches.  If the keys of the pairs have different
ids, the batch holds one document for each of them and nothing else, however often a repository or a
version is listed. -/
theorem release_batch_complete
    (plan : Plan)
    (occasion : Occasion)
    (asked : List Request)
    {answer : Request → Outcome Response}
    {batch : Batch}
    (assembled : ((assemble plan .releases occasion).run (.steady answer) asked).2 = .ok batch) :
    ∃ fields : String × String → List (String × Value),
      (∀ pair ∈ occasion.repositories.dedup ×ˢ versionsOf plan.releases,
        ReportsCheck answer pair.1 ⟨pair.2, stateOf plan.releases pair.2⟩ (fields pair)) ∧
      (DistinctIds ((occasion.repositories.dedup ×ˢ versionsOf plan.releases).map
          (releaseKey occasion.date)) →
        batch.documents.Perm ((occasion.repositories.dedup ×ˢ versionsOf plan.releases).map
          (fun pair => ⟨documentId (releaseKey occasion.date pair),
            (Value.object (fields pair)).toText⟩))) := by
  obtain ⟨checked, rfl⟩ := (run_assemble_iff asked).mp assembled
  refine ⟨fun pair =>
    (occasion.releaseDocument plan.releases (readinessBy answer) pair).fields, ?_, ?_⟩
  · intro pair isPair
    obtain ⟨isRepository, isVersion⟩ := List.mem_product.mp isPair
    obtain ⟨readiness, isReadiness⟩ :=
      checked _ (List.mem_dedup.mp isRepository) _ (entryOf_mem isVersion)
    have isRead : readinessBy answer pair.1 (entryOf plan.releases pair.2) = readiness := by
      rw [readinessBy, isReadiness]
      rfl
    simp only [Occasion.releaseDocument, isRead]
    exact reportsCheck_fields ⟨.day occasion.date, occasion.runAt.text, pair.1⟩ isReadiness
  · have documents := documents_checkPages occasion plan.releases (readinessBy answer)
    unfold Document.body at documents
    exact documents

/-- A version that is watched twice has its last state, and a repository that is listed twice has
one document for each version. -/
theorem release_batch_complete_for_repeated_version :
    let plan : Plan := ⟨true, [⟨"1.0", "open"⟩, ⟨"2.0", "open"⟩, ⟨"1.0", "closed"⟩], 2⟩
    let occasion : Occasion := ⟨["a", "b", "a"], ⟨2024, 6, 1, by decide⟩, ⟨1717200000, 0⟩⟩
    let answer : Request → Outcome Response := fun request =>
      .ok ⟨some (if request.index = Catalogue.Holding.issues then 5 else 2), [],
        Ledger.ofList [(Catalogue.ownersName, Value.ofFields [("buckets", .array
          [Value.ofFields [("key", .text "ann"), ("doc_count", .integer 1)]])])]⟩
    ∃ (batch : Batch) (fields : String × String → List (String × Value)),
      ((assemble plan .releases occasion).run (.steady answer) []).2 = .ok batch ∧
      ReportsCheck answer "a" ⟨"1.0", "closed"⟩ (fields ("a", "1.0")) ∧
      batch.documents.Perm ([("b", "2.0"), ("b", "1.0"), ("a", "2.0"), ("a", "1.0")].map
        (fun pair => ⟨documentId (releaseKey occasion.date pair),
          (Value.object (fields pair)).toText⟩)) := by
  intro plan occasion answer
  have checked : Checked answer occasion.repositories plan.releases :=
    fun _ _ _ _ => ⟨_, rfl⟩
  have assembled : ((assemble plan .releases occasion).run (.steady answer) []).2 = .ok _ :=
    (run_assemble_iff []).mpr ⟨checked, rfl⟩
  have pairs : occasion.repositories.dedup ×ˢ versionsOf plan.releases =
      [("b", "2.0"), ("b", "1.0"), ("a", "2.0"), ("a", "1.0")] := by
    decide +kernel
  have state : stateOf plan.releases "1.0" = "closed" := by decide +kernel
  obtain ⟨fields, reports, documents⟩ := release_batch_complete plan occasion [] assembled
  rw [pairs] at reports documents
  refine ⟨_, fields, assembled, ?_, documents (by decide +kernel)⟩
  rw [← state]
  exact reports ("a", "1.0") (by decide)

end RepoVitals.Assembly
