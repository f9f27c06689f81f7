import RepoVitals.Catalogue.Release
import RepoVitals.Proofs.Assembly.LookupModes
/-!
What the searches of a release check find.

Owns:
- tickets: issues and pull requests with their titles, as documents of a collection;
- what each of the six searches finds among tickets, and the check that is read from the answers;
- what the searches call a release by, and that no two versions go by the same name;
- `searches_find_release`: over every collection the searches of a release count what they say.

A label is one of several that a ticket may have.  Two matches on the field of the labels therefore
ask for a ticket that has both.
-/

namespace RepoVitals.Catalogue

open Json (Value)
open Search (Engine Match Request Response Stored)

/-! ### Tickets -/

/-- An issue or a pull request with its title. -/
structure Ticket extends Assembly.WorkItem where
  title : String

namespace Ticket

/-- The ticket as a document. -/
def stored (ticket : Ticket) : Stored where
  index := Assembly.sideIndex ticket.side
  terms := fun field =>
    if field = "title.keyword" then [.text ticket.title]
    else ticket.toWorkItem.stored.terms field

/-! ### Fields of a ticket -/

/-- A field with one text has just that text. -/
theorem has_iff_of_texts_eq
    {document : Stored}
    {field only : String}
    (texts : document.texts field = [only])
    (content : String) :
    document.has field (.text content) = true ↔ only = content := by
  rw [Stored.has_text, decide_eq_true_iff, texts, List.mem_singleton]
  exact eq_comm

variable (ticket : Ticket)

theorem has_repository_iff (repository : String) :
    ticket.stored.has Field.repository (.text repository) = true ↔
      ticket.repository = repository :=
  has_iff_of_texts_eq rfl repository

theorem has_state_iff (state : String) :
    ticket.stored.has Field.state (.text state) = true ↔ ticket.state = state :=
  has_iff_of_texts_eq rfl state

theorem has_title_iff (title : String) :
    ticket.stored.has "title.keyword" (.text title) = true ↔ ticket.title = title :=
  has_iff_of_texts_eq rfl title

theorem has_isPullRequest_iff (value : Bool) :
    ticket.stored.has Field.isPullRequest (.boolean value) = true ↔
      ticket.isPullRequest = value := by
  show decide (Search.Term.boolean value ∈ [Search.Term.boolean ticket.isPullRequest]) = true ↔ _
  rw [decide_eq_true_iff, List.mem_singleton, Search.Term.boolean.injEq]
  exact eq_comm

theorem has_label_iff (label : String) :
    ticket.stored.has (Assembly.sideLabelField ticket.side) (.text label) = true ↔
      label ∈ ticket.labels := by
  have terms : ticket.stored.terms (Assembly.sideLabelField ticket.side) =
      ticket.labels.map .text := by
    unfold stored Assembly.WorkItem.stored
    cases ticket.side <;> rfl
  have texts : ticket.stored.texts (Assembly.sideLabelField ticket.side) = ticket.labels := by
    rw [Stored.texts, terms, List.filterMap_map]
    exact List.filterMap_some
  rw [Stored.has_text, decide_eq_true_iff, texts]

theorem index_eq_issues_iff : ticket.stored.index = Holding.issues ↔ ticket.side = .issues := by
  show Assembly.sideIndex ticket.side = _ ↔ _
  cases ticket.side with
  | issues => exact iff_of_true rfl rfl
  | pulls => exact iff_of_false (by decide) nofun

theorem index_eq_pulls_iff : ticket.stored.index = Holding.pulls ↔ ticket.side = .pulls := by
  show Assembly.sideIndex ticket.side = _ ↔ _
  cases ticket.side with
  | issues => exact iff_of_false (by decide) nofun
  | pulls => exact iff_of_true rfl rfl

end Ticket

/-! ### Tickets of a release -/

namespace Release

variable (release : Release) (repository state : String)

/-- The title of the issue that tracks the release. -/
def title : String := "[RELEASE] Release version " ++ release.version

/-- An issue of the repository in the state, not a pull request, that is labelled with the
release. -/
def HasIssue (ticket : Ticket) : Prop :=
  ticket.side = .issues ∧ ticket.isPullRequest = false ∧ ticket.repository = repository ∧
    ticket.state = state ∧ "v" ++ release.version ∈ ticket.labels

/-- A pull request of the repository in the state that is labelled with the release. -/
def HasPull (ticket : Ticket) : Prop :=
  ticket.side = .pulls ∧ ticket.repository = repository ∧
    ticket.state = state ∧ "v" ++ release.version ∈ ticket.labels

/-- An open issue that is labelled with the release and as made by a machine. -/
def HasAutocut (ticket : Ticket) : Prop :=
  release.HasIssue repository "open" ticket ∧ "autocut" ∈ ticket.labels

/-- An issue of the repository, not a pull request, with the title of the release. -/
def IsTrackedBy (ticket : Ticket) : Prop :=
  ticket.side = .issues ∧ ticket.isPullRequest = false ∧ ticket.repository = repository ∧
    ticket.title = release.title

instance : DecidablePred (release.HasIssue repository state) :=
  fun ticket => inferInstanceAs (Decidable (ticket.side = .issues ∧ _))

instance : DecidablePred (release.HasPull repository state) :=
  fun ticket => inferInstanceAs (Decidable (ticket.side = .pulls ∧ _))

instance : DecidablePred (release.HasAutocut repository) :=
  fun ticket => inferInstanceAs (Decidable (release.HasIssue repository "open" ticket ∧ _))

instance : DecidablePred (release.IsTrackedBy repository) :=
  fun ticket => inferInstanceAs (Decidable (ticket.side = .issues ∧ _))

end Release

/-! ### Finding tickets -/

/-- A search over tickets finds the wanted ones and counts them. -/
structure Finds (engine : Engine) (tickets : List Ticket) (request : Request)
    (wanted : Ticket → Prop) [DecidablePred wanted] : Prop where
  found : engine.found (tickets.map Ticket.stored) request.index request.body =
    (tickets.filter wanted).map Ticket.stored
  counted : (engine.answer (tickets.map Ticket.stored) request).matchCount =
    .ok (engine.written (tickets.countP wanted))
  exact : (tickets.countP wanted : Int) ≤ Binary64.greatestInt64 →
    (engine.answer (tickets.map Ticket.stored) request).matchCount =
      .ok (tickets.countP wanted)

section Finding

variable (engine : Engine) (tickets : List Ticket)

/-- A search finds what its index holds and its filter admits. -/
theorem finds_of_admits
    {request : Request}
    {wanted : Ticket → Prop}
    [DecidablePred wanted]
    (admits : ∀ ticket : Ticket,
      (ticket.stored.index = request.index ∧
        engine.admits request.filter.toValue ticket.stored = true) ↔ wanted ticket) :
    Finds engine tickets request wanted := by
  have found : engine.found (tickets.map Ticket.stored) request.index request.body =
      (tickets.filter wanted).map Ticket.stored := by
    rw [engine.found_body, List.filter_map]
    congr 1
    apply List.filter_congr
    intro ticket _
    rw [Bool.eq_iff_iff, decide_eq_true_iff, ← admits ticket, Function.comp_apply, Bool.and_eq_true,
      decide_eq_true_iff]
  have counted : (engine.answer (tickets.map Ticket.stored) request).matchCount =
      .ok (engine.written (tickets.countP wanted)) := by
    show Except.ok (engine.written (engine.found _ _ _).length) = _
    rw [found, List.length_map, List.countP_eq_length_filter]
  refine ⟨found, counted, fun few => ?_⟩
  rw [counted, engine.written_exact _ few]

/-- A search that wants fewer tickets finds some of those that the other one finds. -/
theorem Finds.sublist
    {engine : Engine}
    {tickets : List Ticket}
    {fewer more : Request}
    {narrow wide : Ticket → Prop}
    [DecidablePred narrow]
    [DecidablePred wide]
    (findsNarrow : Finds engine tickets fewer narrow)
    (findsWide : Finds engine tickets more wide)
    (within : ∀ ticket, narrow ticket → wide ticket) :
    List.Sublist
      (engine.found (tickets.map Ticket.stored) fewer.index fewer.body)
      (engine.found (tickets.map Ticket.stored) more.index more.body) := by
  rw [findsNarrow.found, findsWide.found]
  refine (List.monotone_filter_right tickets fun ticket isNarrow => ?_).map Ticket.stored
  exact decide_eq_true (within ticket (of_decide_eq_true isNarrow))

variable (release : Release) (repository state : String)

theorem admits_issuesOf (ticket : Ticket) :
    (ticket.stored.index = Holding.issues ∧
      engine.admits (release.issuesOf repository state).toValue ticket.stored = true) ↔
      release.HasIssue repository state ticket := by
  rw [ticket.index_eq_issues_iff, Release.HasIssue]
  refine and_congr_right fun isIssue => ?_
  have label := ticket.has_label_iff release.label
  rw [isIssue] at label
  rw [Release.issuesOf, pinned]
  simp only [engine.admits_matching, engine.admits_all, Bool.true_and, Bool.and_eq_true,
    ticket.has_repository_iff, ticket.has_isPullRequest_iff, ticket.has_state_iff]
  constructor
  · rintro ⟨⟨⟨isRepository, isPull⟩, isState⟩, hasLabel⟩
    exact ⟨isPull, isRepository, isState, label.mp hasLabel⟩
  · rintro ⟨isPull, isRepository, isState, hasLabel⟩
    exact ⟨⟨⟨isRepository, isPull⟩, isState⟩, label.mpr hasLabel⟩

theorem finds_issuesOf :
    Finds engine tickets (Request.count Holding.issues (release.issuesOf repository state))
      (release.HasIssue repository state) :=
  finds_of_admits engine tickets (admits_issuesOf engine release repository state)

/-- A second match on the field of the labels narrows the issues down to those with both labels. -/
theorem finds_autocut :
    Finds engine tickets
      (Request.count Holding.issues
        ((release.issuesOf repository "open").matching Field.issueLabel (.text "autocut")))
      (release.HasAutocut repository) := by
  apply finds_of_admits
  intro ticket
  show (ticket.stored.index = Holding.issues ∧
    engine.admits ((release.issuesOf repository "open").matching Field.issueLabel
      (.text "autocut")).toValue ticket.stored = true) ↔ _
  rw [engine.admits_matching, Bool.and_eq_true, ← and_assoc, admits_issuesOf, Release.HasAutocut]
  refine and_congr_right fun isIssue => ?_
  have label := ticket.has_label_iff "autocut"
  rw [isIssue.1] at label
  exact label

theorem finds_pullsOf :
    Finds engine tickets (Request.count Holding.pulls (release.pullsOf repository state))
      (release.HasPull repository state) := by
  apply finds_of_admits
  intro ticket
  show (ticket.stored.index = Holding.pulls ∧
    engine.admits (release.pullsOf repository state).toValue ticket.stored = true) ↔ _
  rw [ticket.index_eq_pulls_iff, Release.HasPull]
  refine and_congr_right fun isPull => ?_
  have label := ticket.has_label_iff release.label
  rw [isPull] at label
  rw [Release.pullsOf, pinned]
  simp only [engine.admits_matching, engine.admits_all, Bool.true_and, Bool.and_eq_true,
    ticket.has_repository_iff, ticket.has_state_iff]
  rw [and_assoc]
  exact and_congr_right fun _ => and_congr_right fun _ => label

/-- The search for the tracking issue shows an address and groups owners besides. -/
theorem finds_trackingIssue :
    Finds engine tickets (release.searches repository).releaseIssue
      (release.IsTrackedBy repository) := by
  apply finds_of_admits
  intro ticket
  show (ticket.stored.index = Holding.issues ∧
    engine.admits (release.trackingIssue repository).toValue ticket.stored = true) ↔ _
  rw [ticket.index_eq_issues_iff, Release.IsTrackedBy]
  refine and_congr_right fun _ => ?_
  rw [Release.trackingIssue, pinned]
  simp only [engine.admits_matching, engine.admits_all, Bool.true_and, Bool.and_eq_true,
    ticket.has_repository_iff, ticket.has_title_iff, ticket.has_isPullRequest_iff]
  constructor
  · rintro ⟨⟨isRepository, isTitle⟩, isPull⟩
    exact ⟨isPull, isRepository, isTitle⟩
  · rintro ⟨isPull, isRepository, isTitle⟩
    exact ⟨⟨isRepository, isTitle⟩, isPull⟩

end Finding

/-! ### Names of a release -/

/-- The fields that say which release a ticket belongs to. -/
def namingFields : List String := [Field.issueLabel, Field.pullLabel, "title.keyword"]

/-- The labels and the title that a search asks for. -/
def namesOf (request : Request) : List String :=
  request.filter.matched.filterMap (fun condition =>
    if condition.field ∈ namingFields then condition.value.toText? else none)

namespace Check

/-- The six searches of a check. -/
def all (searches : Check Request Request) : List Request :=
  [searches.issuesOpen, searches.autocutIssuesOpen, searches.issuesClosed, searches.pullsOpen,
    searches.pullsClosed, searches.releaseIssue]

/-- The answers to the six searches of a check. -/
def answered (searches : Check Request Request) (engine : Engine) (collection : List Stored) :
    Check Response Response where
  issuesOpen := engine.answer collection searches.issuesOpen
  autocutIssuesOpen := engine.answer collection searches.autocutIssuesOpen
  issuesClosed := engine.answer collection searches.issuesClosed
  pullsOpen := engine.answer collection searches.pullsOpen
  pullsClosed := engine.answer collection searches.pullsClosed
  releaseIssue := engine.answer collection searches.releaseIssue

end Check

namespace Release

variable (release : Release)

theorem namesOf_searches (repository : String) :
    (release.searches repository).all.map namesOf =
      [[release.label], [release.label, "autocut"], [release.label], [release.label],
        [release.label], [release.title]] := by
  rfl

theorem eq_of_mem_namesOf
    {release : Release}
    {repository content : String}
    {request : Request}
    (isSearch : request ∈ (release.searches repository).all)
    (isName : content ∈ namesOf request) :
    content = release.label ∨ content = release.title ∨ content = "autocut" := by
  have areNames : namesOf request ∈ (release.searches repository).all.map namesOf :=
    List.mem_map_of_mem isSearch
  rw [namesOf_searches] at areNames
  have isListed : content ∈ [release.label, "autocut", release.title] := by
    have each : ∀ names ∈ [[release.label], [release.label, "autocut"], [release.label],
        [release.label], [release.label], [release.title]],
        names ⊆ [release.label, "autocut", release.title] := by
      simp
    exact each _ areNames isName
  rcases List.mem_cons.mp isListed with isLabel | isListed
  · exact .inl isLabel
  · rcases List.mem_cons.mp isListed with isAutocut | isListed
    · exact .inr (.inr isAutocut)
    · exact .inr (.inl (List.mem_singleton.mp isListed))

/-! A label and a title differ in their first character. -/

theorem head?_label : release.label.toList.head? = some 'v' := by
  simp [label]

theorem head?_title : release.title.toList.head? = some '[' := by
  have begins : "[RELEASE] Release version ".toList.head? = some '[' := by simp
  have whole : release.title.toList =
      "[RELEASE] Release version ".toList ++ release.version.toList :=
    String.toList_append
  rw [whole, List.head?_append, begins, Option.some_or]

theorem label_ne_title (other : Release) : release.label ≠ other.title := by
  intro same
  have heads := head?_label release
  rw [same, head?_title] at heads
  exact absurd heads (by decide)

/-- Texts that begin alike go on differently, or are the same. -/
theorem eq_of_append_eq {start first second : String} (same : start ++ first = start ++ second) :
    first = second := by
  have characters := congrArg String.toList same
  rw [String.toList_append, String.toList_append] at characters
  exact String.toList_inj.mp (List.append_cancel_left characters)

theorem version_of_label {release other : Release} (same : release.label = other.label) :
    release.version = other.version :=
  eq_of_append_eq same

theorem version_of_title {release other : Release} (same : release.title = other.title) :
    release.version = other.version :=
  eq_of_append_eq same

/-- The searches of two versions have no name in common but the label that no version makes. -/
theorem eq_autocut_of_shared
    {release other : Release}
    {repository elsewhere content : String}
    {first second : Request}
    (otherVersion : release.version ≠ other.version)
    (isFirst : first ∈ (release.searches repository).all)
    (isSecond : second ∈ (other.searches elsewhere).all)
    (inFirst : content ∈ namesOf first)
    (inSecond : content ∈ namesOf second) :
    content = "autocut" := by
  rcases eq_of_mem_namesOf isFirst inFirst with rfl | rfl | isAutocut
  · rcases eq_of_mem_namesOf isSecond inSecond with same | same | isAutocut
    · exact absurd (version_of_label same) otherVersion
    · exact absurd same (label_ne_title release other)
    · exact isAutocut
  · rcases eq_of_mem_namesOf isSecond inSecond with same | same | isAutocut
    · exact absurd same.symm (label_ne_title other release)
    · exact absurd (version_of_title same) otherVersion
    · exact isAutocut
  · exact isAutocut

end Release

/-! ### Release checks over collections -/

/-- What the six searches for a release find and count among tickets. -/
structure FindsRelease (engine : Engine) (tickets : List Ticket) (repository : String)
    (release : Release) (searches : Check Request Request) : Prop where
  issuesOpen : Finds engine tickets searches.issuesOpen (release.HasIssue repository "open")
  autocutIssuesOpen :
    Finds engine tickets searches.autocutIssuesOpen (release.HasAutocut repository)
  issuesClosed : Finds engine tickets searches.issuesClosed (release.HasIssue repository "closed")
  pullsOpen : Finds engine tickets searches.pullsOpen (release.HasPull repository "open")
  pullsClosed : Finds engine tickets searches.pullsClosed (release.HasPull repository "closed")
  releaseIssue : Finds engine tickets searches.releaseIssue (release.IsTrackedBy repository)

section Release

variable (engine : Engine) (tickets : List Ticket) (repository : String) (release : Release)

theorem findsRelease :
    FindsRelease engine tickets repository release (release.searches repository) where
  issuesOpen := finds_issuesOf engine tickets release repository "open"
  autocutIssuesOpen := finds_autocut engine tickets release repository
  issuesClosed := finds_issuesOf engine tickets release repository "closed"
  pullsOpen := finds_pullsOf engine tickets release repository "open"
  pullsClosed := finds_pullsOf engine tickets release repository "closed"
  releaseIssue := finds_trackingIssue engine tickets release repository

/-- The check that is read from the answers to the searches for a release. -/
theorem exists_readinessOf_answered :
    ∃ trackingIssue,
      readinessOf ((release.searches repository).answered engine (tickets.map Ticket.stored)) =
        .ok {
          issuesOpen := engine.written (tickets.countP (release.HasIssue repository "open"))
          autocutIssuesOpen := engine.written (tickets.countP (release.HasAutocut repository))
          issuesClosed := engine.written (tickets.countP (release.HasIssue repository "closed"))
          pullsOpen := engine.written (tickets.countP (release.HasPull repository "open"))
          pullsClosed := engine.written (tickets.countP (release.HasPull repository "closed"))
          releaseIssue := trackingIssue } := by
  have finds := findsRelease engine tickets repository release
  have asked : (release.searches repository).releaseIssue.aggregations =
      [(ownersName, .terms "issue_assignees.keyword" 50)] := rfl
  have owners := engine.terms_answer (tickets.map Ticket.stored) asked
  have isTracking : ∃ trackingIssue, trackingIssueOf
      ((release.searches repository).answered engine
        (tickets.map Ticket.stored)).releaseIssue = .ok trackingIssue := by
    rw [trackingIssueOf]
    show ∃ _, (Response.terms (engine.answer _ _) ownersName >>= _) = _
    rw [owners]
    exact ⟨_, rfl⟩
  obtain ⟨trackingIssue, isTracking⟩ := isTracking
  refine ⟨trackingIssue, ?_⟩
  rw [readinessOf]
  simp only [Check.answered] at isTracking ⊢
  rw [finds.issuesOpen.counted, finds.autocutIssuesOpen.counted, finds.issuesClosed.counted,
    finds.pullsOpen.counted, finds.pullsClosed.counted, isTracking]
  rfl

/-- Over every collection of tickets, the searches for a release find and count what they are named
for: the check that is read from their answers has these counts, and autocut issues are some of the
open ones.  The searches for another version ask for no label and no title of this one. -/
theorem searches_find_release :
    FindsRelease engine tickets repository release (release.searches repository) ∧
      List.Sublist
        (engine.found (tickets.map Ticket.stored) Holding.issues
          (release.searches repository).autocutIssuesOpen.body)
        (engine.found (tickets.map Ticket.stored) Holding.issues
          (release.searches repository).issuesOpen.body) ∧
      (∃ trackingIssue,
        readinessOf ((release.searches repository).answered engine (tickets.map Ticket.stored)) =
          .ok {
            issuesOpen := engine.written (tickets.countP (release.HasIssue repository "open"))
            autocutIssuesOpen := engine.written (tickets.countP (release.HasAutocut repository))
            issuesClosed := engine.written (tickets.countP (release.HasIssue repository "closed"))
            pullsOpen := engine.written (tickets.countP (release.HasPull repository "open"))
            pullsClosed := engine.written (tickets.countP (release.HasPull repository "closed"))
            releaseIssue := trackingIssue }) ∧
      ∀ (other : Release) (elsewhere : String), release.version ≠ other.version →
        release.label ≠ other.label ∧ release.title ≠ other.title ∧
          ∀ first ∈ (release.searches repository).all,
            ∀ second ∈ (other.searches elsewhere).all,
              ∀ content, content ∈ namesOf first → content ∈ namesOf second →
                content = "autocut" := by
  have finds := findsRelease engine tickets repository release
  refine ⟨finds, ?_, exists_readinessOf_answered engine tickets repository release, ?_⟩
  · exact finds.autocutIssuesOpen.sublist finds.issuesOpen fun ticket isAutocut => isAutocut.1
  · intro other elsewhere otherVersion
    refine ⟨fun same => otherVersion (Release.version_of_label same),
      fun same => otherVersion (Release.version_of_title same), ?_⟩
    intro first isFirst second isSecond content inFirst inSecond
    exact Release.eq_autocut_of_shared otherVersion isFirst isSecond inFirst inSecond

end Release

/-- Two open issues of one repository, one of them made by a machine, and an open pull request. -/
def openTickets : List Ticket :=
  [⟨⟨.issues, "security", "open", false, ["v3.0.0", "autocut"]⟩, "build failed"⟩,
    ⟨⟨.issues, "security", "open", false, ["bug", "v3.0.0"]⟩, "[RELEASE] Release version 3.0.0"⟩,
    ⟨⟨.pulls, "security", "open", true, ["v3.0.0"]⟩, "fix the build"⟩]

theorem searches_find_openTickets :
    let searches := Release.searches ⟨"3.0.0", "open"⟩ "security"
    let answer (request : Request) : Response :=
      (default : Engine).answer (openTickets.map Ticket.stored) request
    (answer searches.issuesOpen).matchCount = .ok 2 ∧
      (answer searches.autocutIssuesOpen).matchCount = .ok 1 ∧
      (answer searches.pullsOpen).matchCount = .ok 1 ∧
      (answer searches.releaseIssue).matchCount = .ok 1 ∧
      "3.0.0" ≠ "2.19.0" ∧
      Release.label ⟨"3.0.0", "open"⟩ ≠ Release.label ⟨"2.19.0", "open"⟩ := by
  obtain ⟨finds, -, -, apart⟩ :=
    searches_find_release default openTickets "security" ⟨"3.0.0", "open"⟩
  have other : "3.0.0" ≠ "2.19.0" := by decide
  exact ⟨finds.issuesOpen.exact (by decide), finds.autocutIssuesOpen.exact (by decide),
    finds.pullsOpen.exact (by decide), finds.releaseIssue.exact (by decide), other,
    (apart ⟨"2.19.0", "open"⟩ "security" other).1⟩

end RepoVitals.Catalogue
