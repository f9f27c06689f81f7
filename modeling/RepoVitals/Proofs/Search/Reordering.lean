import RepoVitals.Catalogue.Release
import RepoVitals.Proofs.Search.Buckets
/-!
Answers that differ in the order of buckets.

Owns:
- `Outcome.Alike`: two outcomes that are both failures, or both results that are related;
- `Reordered`: values that are the same but for the order of buckets with different keys, at any
  depth;
- `OrderBlind`: what is read alike from answers that differ in this way; one lemma for each reader.

Which of several malformed buckets is reported does depend on their order, so failures are not
compared.
-/

namespace RepoVitals

/-! ### Alike outcomes -/

/-- Both outcomes are failures, or both are results and these are related. -/
inductive Outcome.Alike {α β : Type} (related : α → β → Prop) : Outcome α → Outcome β → Prop
  | ok {result : α} {result' : β} (results : related result result') :
      Alike related (.ok result) (.ok result')
  | error (failure failure' : Failure) : Alike related (.error failure) (.error failure')

namespace Outcome.Alike

variable {α β γ δ : Type} {related : α → β → Prop} {related' : γ → δ → Prop}

theorem refl (outcome : Outcome α) : Outcome.Alike Eq outcome outcome := by
  cases outcome with
  | ok result => exact .ok rfl
  | error failure => exact .error failure failure

theorem bind
    {outcome : Outcome α}
    {outcome' : Outcome β}
    {next : α → Outcome γ}
    {next' : β → Outcome δ}
    (first : Outcome.Alike related outcome outcome')
    (second : ∀ result result', related result result' →
      Outcome.Alike related' (next result) (next' result')) :
    Outcome.Alike related' (outcome >>= next) (outcome' >>= next') := by
  cases first with
  | ok results => exact second _ _ results
  | error failure failure' => exact .error failure failure'

theorem map
    {outcome outcome' : Outcome α}
    (alike : Outcome.Alike Eq outcome outcome')
    (change : α → γ) :
    Outcome.Alike Eq (Except.map change outcome) (Except.map change outcome') := by
  cases alike with
  | ok results => exact .ok (congrArg change results)
  | error failure failure' => exact .error failure failure'

theorem mapM
    {items : List α}
    {items' : List β}
    {read : α → Outcome γ}
    {read' : β → Outcome δ}
    (alike : List.Forall₂ related items items')
    (each : ∀ item item', related item item' → Outcome.Alike related' (read item) (read' item')) :
    Outcome.Alike (List.Forall₂ related') (items.mapM read) (items'.mapM read') := by
  induction alike with
  | nil => exact .ok .nil
  | cons here later inductionHypothesis =>
    rw [List.mapM_cons, List.mapM_cons]
    refine (each _ _ here).bind fun first first' firsts => ?_
    exact inductionHypothesis.bind fun others others' areOthers => .ok (.cons firsts areOthers)

/-- Of alike outcomes, one is a certain result exactly if the other one is. -/
theorem eq_ok_iff
    {outcome outcome' : Outcome α}
    (alike : Outcome.Alike Eq outcome outcome')
    (result : α) :
    outcome = .ok result ↔ outcome' = .ok result := by
  cases alike with
  | ok results => rw [results]
  | error failure failure' => exact ⟨nofun, nofun⟩

end Outcome.Alike

namespace Search

open Catalogue (Check Measure Row)
open Json (Value)

/-! ### Reordered values -/

/-- No two buckets have the same key. -/
def DistinctKeys (buckets : List Value) : Prop :=
  buckets.Pairwise fun one other => ∀ key, Keyed one key → ¬Keyed other key

mutual

/-- The same value but for the order of buckets. -/
inductive Reordered : Value → Value → Prop
  | same (value : Value) : Reordered value value
  | array {items items' : List Value} (each : List.Forall₂ Reordered items items') :
      Reordered (.array items) (.array items')
  | object {fields fields' : List (String × Value)}
      (each : List.Forall₂ ReorderedField fields fields') :
      Reordered (.object fields) (.object fields')

/-- The same field but for the order of buckets: its own, if no two of them have the same key, and
those inside it. -/
inductive ReorderedField : String × Value → String × Value → Prop
  | part (key : String) {value value' : Value} (values : Reordered value value') :
      ReorderedField (key, value) (key, value')
  | buckets {listed moved listed' : List Value} (distinct : DistinctKeys listed)
      (isMoved : moved.Perm listed) (each : List.Forall₂ Reordered moved listed') :
      ReorderedField ("buckets", .array listed) ("buckets", .array listed')

end

/-- The same list of buckets but for the order, and for the order inside them. -/
def Relisted (listed listed' : List Value) : Prop :=
  ∃ moved, (moved = listed ∨ DistinctKeys listed ∧ moved.Perm listed) ∧
    List.Forall₂ Reordered moved listed'

/-- The same answer but for the order of the buckets of its aggregations. -/
structure Response.Reordered (response response' : Response) : Prop where
  total : response.total = response'.total
  hits : response.hits = response'.hits
  aggregations : List.Forall₂ (Alongside Search.Reordered) response.aggregations.entries
    response'.aggregations.entries

/-- Buckets have different keys exactly if no key is repeated in the list of their keys. -/
theorem distinctKeys_iff_nodup
    {buckets : List Value}
    {keys : List String}
    (keyed : List.Forall₂ Keyed buckets keys) :
    DistinctKeys buckets ↔ keys.Nodup := by
  induction keyed with
  | nil => exact iff_of_true .nil .nil
  | @cons bucket key rest others isKey areKeys inductionHypothesis =>
    rw [DistinctKeys, List.pairwise_cons, List.nodup_cons, ← DistinctKeys, inductionHypothesis]
    refine and_congr_left fun _ => ⟨fun apart repeated => ?_, fun unrepeated other isOther => ?_⟩
    · obtain ⟨other, isOther, isKey'⟩ := exists_mem_of_forall₂ areKeys.flip repeated
      exact apart other isOther key isKey isKey'
    · intro key' isKey' sameKey
      obtain ⟨later, isLater, isLaterKey⟩ := exists_mem_of_forall₂ areKeys isOther
      have same : later = key :=
        (Response.eq_of_keyed isLaterKey sameKey).trans (Response.eq_of_keyed isKey' isKey)
      exact unrepeated (same ▸ isLater)

theorem forall₂_reordered_refl (values : List Value) : List.Forall₂ Reordered values values :=
  List.forall₂_same.mpr fun value _ => .same value

variable {value value' : Value}

/-- Only arrays and objects can be reordered. -/
theorem Reordered.eq_or_containers (reordered : Reordered value value') :
    value = value' ∨ (∃ items items', value = .array items ∧ value' = .array items') ∨
      ∃ fields fields', value = .object fields ∧ value' = .object fields' := by
  cases reordered with
  | same => exact .inl rfl
  | array each => exact .inr (.inl ⟨_, _, rfl, rfl⟩)
  | object each => exact .inr (.inr ⟨_, _, rfl, rfl⟩)

theorem optionRel_refl (found : Option Value) : Option.Rel Reordered found found := by
  cases found with
  | none => exact .none
  | some value => exact .some (.same value)

theorem rel_valueUnder?
    {fields fields' : List (String × Value)}
    {key : String}
    (each : List.Forall₂ ReorderedField fields fields')
    (notBuckets : key ≠ "buckets") :
    Option.Rel Reordered (valueUnder? key fields) (valueUnder? key fields') := by
  induction each with
  | nil => exact .none
  | cons here later inductionHypothesis =>
    cases here with
    | part first values =>
      rw [valueUnder?_cons, valueUnder?_cons]
      split
      · exact .some values
      · exact inductionHypothesis
    | buckets distinct isMoved each =>
      rw [valueUnder?_cons, valueUnder?_cons, if_neg (Ne.symm notBuckets),
        if_neg (Ne.symm notBuckets)]
      exact inductionHypothesis

/-- A field that lists no buckets. -/
theorem Reordered.field?
    (reordered : Reordered value value')
    (key : String)
    (notBuckets : key ≠ "buckets") :
    Option.Rel Reordered (value.field? key) (value'.field? key) := by
  cases reordered with
  | same => exact optionRel_refl _
  | array each => exact .none
  | object each => exact rel_valueUnder? each notBuckets

theorem relisted_of_reordered (reordered : Reordered value value') :
    Option.Rel Relisted value.toItems? value'.toItems? := by
  cases reordered with
  | same =>
    cases value with
    | array items => exact .some ⟨items, .inl rfl, forall₂_reordered_refl items⟩
    | _ => exact .none
  | array each => exact .some ⟨_, .inl rfl, each⟩
  | object each => exact .none

/-- The field that lists buckets. -/
theorem Reordered.buckets (reordered : Reordered value value') :
    Option.Rel Relisted ((value.field? "buckets").bind Value.toItems?)
      ((value'.field? "buckets").bind Value.toItems?) := by
  cases reordered with
  | same =>
    cases (value.field? "buckets") with
    | none => exact .none
    | some listed => exact relisted_of_reordered (.same listed)
  | array each => exact .none
  | object each =>
    show Option.Rel Relisted ((valueUnder? _ _).bind _) ((valueUnder? _ _).bind _)
    induction each with
    | nil => exact .none
    | cons here later inductionHypothesis =>
      cases here with
      | part first values =>
        rw [valueUnder?_cons, valueUnder?_cons]
        split
        · exact relisted_of_reordered values
        · exact inductionHypothesis
      | buckets distinct isMoved each => exact .some ⟨_, .inr ⟨distinct, isMoved⟩, each⟩

theorem Reordered.toInt64? (reordered : Reordered value value') :
    value.toInt64? = value'.toInt64? := by
  rcases reordered.eq_or_containers with rfl | ⟨_, _, rfl, rfl⟩ | ⟨_, _, rfl, rfl⟩ <;> rfl

/-! ### Tables of reordered buckets -/

namespace Response

theorem alike_bucketsOf (name : String) (reordered : Search.Reordered value value') :
    Outcome.Alike Relisted (bucketsOf name value) (bucketsOf name value') := by
  have buckets := reordered.buckets
  unfold bucketsOf
  generalize (value.field? "buckets").bind Value.toItems? = listed? at *
  generalize (value'.field? "buckets").bind Value.toItems? = listed?' at *
  cases buckets with
  | none => exact .error _ _
  | some relisted => exact .ok relisted

theorem alike_keyOf (name : String) (reordered : Search.Reordered value value') :
    Outcome.Alike Eq (keyOf name value) (keyOf name value') := by
  have keys := reordered.field? "key" (by decide)
  unfold keyOf
  generalize value.field? "key" = key? at *
  generalize value'.field? "key" = key?' at *
  cases keys with
  | none => exact .error _ _
  | some keys =>
    rcases keys.eq_or_containers with rfl | ⟨_, _, rfl, rfl⟩ | ⟨_, _, rfl, rfl⟩
    · exact .refl _
    · exact .error _ _
    · exact .error _ _

theorem alike_countOf (name : String) (reordered : Search.Reordered value value') :
    Outcome.Alike Eq (countOf name value) (countOf name value') := by
  have counts := reordered.field? "doc_count" (by decide)
  refine (alike_keyOf name reordered).bind fun key key' sameKey => ?_
  have sameCount : (value.field? "doc_count").bind Value.toInt64? =
      (value'.field? "doc_count").bind Value.toInt64? := by
    generalize value.field? "doc_count" = count? at *
    generalize value'.field? "doc_count" = count?' at *
    cases counts with
    | none => rfl
    | some counts => exact counts.toInt64?
  rw [sameKey, sameCount]
  exact .refl _

section Tables

variable {α : Type} {read : Value → Outcome (String × α)} {listed moved listed' : List Value}

/-- Buckets with different keys are read into entries with different keys. -/
theorem unrepeated_of_distinctKeys
    (keyed : ∀ bucket entry, read bucket = .ok entry → Keyed bucket entry.1)
    {entries : List (String × α)}
    (distinct : DistinctKeys listed)
    (areEntries : List.Forall₂ (fun bucket entry => read bucket = .ok entry) listed entries) :
    Unrepeated entries := by
  induction areEntries with
  | nil => exact List.nodup_nil
  | @cons bucket entry rest others isEntry areOthers inductionHypothesis =>
    obtain ⟨apart, distinct⟩ := List.pairwise_cons.mp distinct
    refine List.nodup_cons.mpr ⟨fun repeated => ?_, inductionHypothesis distinct⟩
    obtain ⟨other, isOther, sameKey⟩ := List.mem_map.mp repeated
    obtain ⟨bucket', isBucket', isRead⟩ := exists_mem_of_forall₂ areOthers.flip isOther
    exact apart bucket' isBucket' entry.1 (keyed _ _ isEntry) (sameKey ▸ keyed _ _ isRead)

/-- Where no two buckets have the same key, their order does not matter for the table. -/
theorem alike_table_of_perm
    (keyed : ∀ bucket entry, read bucket = .ok entry → Keyed bucket entry.1)
    (distinct : DistinctKeys listed)
    (isMoved : moved.Perm listed) :
    Outcome.Alike (fun entries entries' => Ledger.ofList entries = Ledger.ofList entries')
      (listed.mapM read) (moved.mapM read) := by
  cases course : listed.mapM read with
  | ok entries =>
    have areEntries := mapM_eq_ok_iff.mp course
    obtain ⟨entries', areEntries', isPerm⟩ :=
      List.perm_comp_forall₂ isMoved areEntries
    rw [mapM_eq_ok_iff.mpr areEntries']
    have unrepeated := unrepeated_of_distinctKeys keyed distinct areEntries
    exact .ok (Ledger.takeIn_of_perm (fun _ value => value) .empty unrepeated isPerm).symm
  | error failure =>
    cases course' : moved.mapM read with
    | ok entries' =>
      have each := exists_mapM_eq_ok_iff.mp ⟨entries', course'⟩
      obtain ⟨entries, isOk⟩ :=
        exists_mapM_eq_ok_iff.mpr fun bucket isBucket => each bucket (isMoved.mem_iff.mpr isBucket)
      rw [course] at isOk
      cases isOk
    | error failure' => exact .error failure failure'

/-- The order of buckets does not show in their table. -/
theorem alike_table
    (keyed : ∀ bucket entry, read bucket = .ok entry → Keyed bucket entry.1)
    (each : ∀ bucket bucket', Search.Reordered bucket bucket' →
      Outcome.Alike Eq (read bucket) (read bucket'))
    (relisted : Relisted listed listed') :
    Outcome.Alike Eq (do
        let entries ← listed.mapM read
        .ok (Ledger.ofList entries) : Outcome (Ledger α))
      (do
        let entries ← listed'.mapM read
        .ok (Ledger.ofList entries)) := by
  obtain ⟨moved, isMoved, alike⟩ := relisted
  have inside := Outcome.Alike.mapM alike each
  have outside : Outcome.Alike
      (fun entries entries' => Ledger.ofList entries = Ledger.ofList entries')
      (listed.mapM read) (moved.mapM read) := by
    rcases isMoved with rfl | ⟨distinct, isMoved⟩
    · cases moved.mapM read with
      | ok entries => exact .ok rfl
      | error failure => exact .error failure failure
    · exact alike_table_of_perm keyed distinct isMoved
  generalize listed.mapM read = entries at *
  generalize moved.mapM read = between at *
  generalize listed'.mapM read = entries' at *
  cases outside with
  | error failure failure' =>
    cases inside with
    | error => exact .error _ _
  | ok same =>
    cases inside with
    | ok results =>
      rw [List.forall₂_eq_eq_eq] at results
      exact .ok (results ▸ same)

end Tables

theorem alike_countsOf (name : String) (reordered : Search.Reordered value value') :
    Outcome.Alike Eq (countsOf name value) (countsOf name value') :=
  (alike_bucketsOf name reordered).bind fun _ _ relisted =>
    alike_table (fun _ _ isEntry => ((countOf_eq_ok_iff name).mp isEntry).1)
      (fun _ _ buckets => alike_countOf name buckets) relisted

theorem alike_innerCountsOf
    (outer : String)
    {inner : String}
    (notBuckets : inner ≠ "buckets")
    (reordered : Search.Reordered value value') :
    Outcome.Alike Eq (innerCountsOf outer inner value) (innerCountsOf outer inner value') := by
  refine (alike_keyOf outer reordered).bind fun key key' sameKey => ?_
  have inside := reordered.field? inner notBuckets
  generalize value.field? inner = inner? at *
  generalize value'.field? inner = inner?' at *
  cases inside with
  | none => exact .error _ _
  | some aggregations =>
    refine (alike_countsOf inner aggregations).bind fun counts counts' sameCounts => ?_
    rw [sameKey, sameCounts]
    exact .ok rfl

end Response

/-! ### Readers of answers -/

/-- What is read does not show the order of buckets. -/
def OrderBlind {α : Type} (read : Response → Outcome α) : Prop :=
  ∀ response response', response.Reordered response' →
    Outcome.Alike Eq (read response) (read response')

namespace OrderBlind

variable {α β : Type}

theorem bind
    {read : Response → Outcome α}
    {next : α → Response → Outcome β}
    (first : OrderBlind read)
    (second : ∀ result, OrderBlind (next result)) :
    OrderBlind fun response => read response >>= fun result => next result response := by
  intro response response' reordered
  refine (first response response' reordered).bind fun result result' same => ?_
  rw [same]
  exact second result' response response' reordered

/-- What depends on nothing but the total and the hits. -/
theorem of_same
    {read : Response → Outcome α}
    (same : ∀ response response' : Response, response.total = response'.total →
      response.hits = response'.hits → read response = read response') :
    OrderBlind read := by
  intro response response' reordered
  rw [same response response' reordered.total reordered.hits]
  exact .refl _

theorem pure (result : α) : OrderBlind fun _ => (Pure.pure result : Outcome α) :=
  of_same fun _ _ _ _ => rfl

end OrderBlind

theorem alike_aggregation
    {response response' : Response}
    (reordered : response.Reordered response')
    (name : String) :
    Outcome.Alike Reordered (response.aggregation name) (response'.aggregation name) := by
  have found : Option.Rel Reordered (response.aggregations.get? name)
      (response'.aggregations.get? name) := by
    have aggregations := reordered.aggregations
    unfold Ledger.get?
    generalize response.aggregations.entries = entries at *
    generalize response'.aggregations.entries = entries' at *
    induction aggregations with
    | nil => exact .none
    | @cons entry entry' rest rest' here later inductionHypothesis =>
      obtain ⟨first, held⟩ := entry
      obtain ⟨first', held'⟩ := entry'
      obtain ⟨rfl, values⟩ := here
      rw [valueUnder?_cons, valueUnder?_cons]
      split
      · exact .some values
      · exact inductionHypothesis
  unfold Response.aggregation
  generalize response.aggregations.get? name = found? at *
  generalize response'.aggregations.get? name = found?' at *
  cases found with
  | none => exact .error _ _
  | some values => exact .ok values

theorem orderBlind_matchCount : OrderBlind Response.matchCount :=
  .of_same fun response response' sameTotal _ => by
    rw [Response.matchCount, Response.matchCount, sameTotal]

theorem orderBlind_numberUnder (name : String) :
    OrderBlind fun response => response.numberUnder name := by
  intro response response' reordered
  refine (alike_aggregation reordered name).bind fun aggregation aggregation' aggregations => ?_
  have inside := aggregations.field? "value" (by decide)
  generalize aggregation.field? "value" = value? at *
  generalize aggregation'.field? "value" = value?' at *
  cases inside with
  | none => exact .error _ _
  | some values =>
    rcases values.eq_or_containers with rfl | ⟨_, _, rfl, rfl⟩ | ⟨_, _, rfl, rfl⟩
    · exact .refl _
    · exact .error _ _
    · exact .error _ _

theorem orderBlind_terms (name : String) : OrderBlind fun response => response.terms name :=
  fun _ _ reordered => (alike_aggregation reordered name).bind fun _ _ aggregations =>
    Response.alike_countsOf name aggregations

theorem orderBlind_nestedTerms (outer : String) {inner : String} (notBuckets : inner ≠ "buckets") :
    OrderBlind fun response => response.nestedTerms outer inner := by
  intro response response' reordered
  refine (alike_aggregation reordered outer).bind fun aggregation aggregation' aggregations => ?_
  refine (Response.alike_bucketsOf outer aggregations).bind fun listed listed' relisted => ?_
  refine Response.alike_table (fun _ _ isEntry => ?_) (fun _ _ buckets => ?_) relisted
  · exact ((Response.innerCountsOf_eq_ok_iff outer inner).mp isEntry).1
  · exact Response.alike_innerCountsOf outer notBuckets buckets

end Search

/-! ### Measures and checks -/

namespace Catalogue

open Search (OrderBlind Response)

/-- What is read of a number under a name. -/
theorem orderBlind_number
    {α : Type}
    (name : String)
    (change : Binary64 → α) :
    OrderBlind fun response => response.numberUnder name >>= fun number => .ok (change number) :=
  (Search.orderBlind_numberUnder name).bind fun number => .pure (change number)

theorem orderBlind_extract (measure : Measure) : OrderBlind measure.extract := by
  cases measure with
  | total =>
    exact Search.orderBlind_matchCount.bind fun count => .pure (Extracted.count count)
  | audit => exact Search.orderBlind_matchCount.bind fun count => .pure _
  | sum name field => exact orderBlind_number name fun sum => Extracted.count sum.truncate
  | averageDays field =>
    refine .bind (orderBlind_number averageName fun average =>
      if average.isFinite then average else Binary64.zero) fun average => .pure _
  | contributors =>
    refine .bind (orderBlind_number contributorsName Binary64.truncate) fun count => .pure _
  | repositoryFigure field =>
    refine .of_same fun response response' _ sameHits => ?_
    simp only [Measure.extract, Response.topHitField?, sameHits]
  | coverage =>
    refine .of_same fun response response' _ sameHits => ?_
    simp only [Measure.extract, mainSnapshot?, sameHits]
  | coveragePercent =>
    refine .of_same fun response response' _ sameHits => ?_
    simp only [Measure.extract, mainSnapshot?, sameHits]
  | labels side name field =>
    exact (Search.orderBlind_terms name).bind fun counts => .pure (Extracted.labels side counts)

theorem orderBlind_shareOf (percent : Nat) : OrderBlind (shareOf percent) :=
  Search.orderBlind_matchCount.bind fun _ => .pure _

theorem orderBlind_trackingIssueOf : OrderBlind trackingIssueOf := by
  intro response response' reordered
  refine (Search.orderBlind_terms ownersName response response' reordered).bind
    fun owners owners' sameOwners => ?_
  rw [sameOwners, Response.topHitField?, Response.topHitField?, reordered.hits]
  exact .refl _

/-- A check reads six answers alike if each of them is only reordered. -/
theorem alike_readinessOf
    {answers answers' : Check Response Response}
    (issuesOpen : answers.issuesOpen.Reordered answers'.issuesOpen)
    (autocutIssuesOpen : answers.autocutIssuesOpen.Reordered answers'.autocutIssuesOpen)
    (issuesClosed : answers.issuesClosed.Reordered answers'.issuesClosed)
    (pullsOpen : answers.pullsOpen.Reordered answers'.pullsOpen)
    (pullsClosed : answers.pullsClosed.Reordered answers'.pullsClosed)
    (releaseIssue : answers.releaseIssue.Reordered answers'.releaseIssue) :
    Outcome.Alike Eq (readinessOf answers) (readinessOf answers') := by
  have counts := Search.orderBlind_matchCount
  refine (counts _ _ issuesOpen).bind fun _ _ same => ?_
  subst same
  refine (counts _ _ autocutIssuesOpen).bind fun _ _ same => ?_
  subst same
  refine (counts _ _ issuesClosed).bind fun _ _ same => ?_
  subst same
  refine (counts _ _ pullsOpen).bind fun _ _ same => ?_
  subst same
  refine (counts _ _ pullsClosed).bind fun _ _ same => ?_
  subst same
  refine (orderBlind_trackingIssueOf _ _ releaseIssue).bind fun _ _ same => ?_
  subst same
  exact .refl _

end Catalogue

end RepoVitals
