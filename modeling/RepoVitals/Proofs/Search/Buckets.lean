import RepoVitals.Proofs.Ledger
import RepoVitals.Proofs.Search.Figures
/-!
Buckets read as tables.

Owns:
- the key of a bucket as a text, its number of documents, and the last bucket under a key;
- `Tabulates`: a table has the keys of the buckets, and under each of them what its last bucket
  holds;
- `Outcome.OnlyMalformed`: work that fails only on malformed answers, step by step;
- `bucket_readers_exact`: when the readers of terms and of nested terms succeed, what they read
  then, and how they fail.
-/

namespace RepoVitals

/-! ### Malformed answers -/

/-- If the work fails, an answer was malformed. -/
def Outcome.OnlyMalformed {α : Type} (outcome : Outcome α) : Prop :=
  ∀ failure, outcome = .error failure →
    ∃ malformation, failure = .ofCause (.malformedResponse malformation)

namespace Outcome.OnlyMalformed

variable {α β : Type}

theorem ok (result : α) : Outcome.OnlyMalformed (.ok result) := nofun

theorem malformed (malformation : Malformation) :
    Outcome.OnlyMalformed (RepoVitals.malformed malformation : Outcome α) := by
  intro failure failed
  cases failed
  exact ⟨malformation, rfl⟩

theorem bind
    {outcome : Outcome α}
    {next : α → Outcome β}
    (first : outcome.OnlyMalformed)
    (second : ∀ result, (next result).OnlyMalformed) :
    Outcome.OnlyMalformed (outcome >>= next) := by
  cases outcome with
  | ok result => exact second result
  | error failure =>
    intro reported failed
    cases failed
    exact first failure rfl

theorem mapM
    {items : List α}
    {read : α → Outcome β}
    (each : ∀ item, (read item).OnlyMalformed) :
    Outcome.OnlyMalformed (items.mapM read) := by
  induction items with
  | nil => exact ok []
  | cons item rest inductionHypothesis =>
    rw [List.mapM_cons]
    exact (each item).bind fun first => inductionHypothesis.bind fun others => ok (first :: others)

end Outcome.OnlyMalformed

namespace Search

open Json (Number Value)

/-! ### Buckets -/

/-- The key of a bucket, written as a text. -/
inductive Keyed (bucket : Value) : String → Prop where
  | text {key : String} (isKey : bucket.field? "key" = some (.text key)) : Keyed bucket key
  | number {key : Number} (isKey : bucket.field? "key" = some (.number key)) :
      Keyed bucket (Value.number key).toText
  | boolean {key : Bool} (isKey : bucket.field? "key" = some (.boolean key)) :
      Keyed bucket (Value.boolean key).toText

/-- The bucket says how many documents it has, in a signed integer of 64 bits. -/
def Counts (bucket : Value) (count : Int) : Prop :=
  bucket.field? "doc_count" = some (.integer count) ∧ IsInt64 count

/-- Of the buckets under a key this is the last one. -/
def IsLast (buckets : List Value) (key : String) (bucket : Value) : Prop :=
  ∃ before after, buckets = before ++ bucket :: after ∧ Keyed bucket key ∧
    ∀ later ∈ after, ¬Keyed later key

/-- The table has the keys of the buckets, and under each of them what its last bucket holds. -/
structure Tabulates {α : Type} (holds : Value → α → Prop) (buckets : List Value)
    (table : Ledger α) : Prop where
  mem_keys_iff : ∀ key, key ∈ table.keys ↔ ∃ bucket ∈ buckets, Keyed bucket key
  get?_eq_some_iff : ∀ key value, table.get? key = some value ↔
    ∃ bucket, IsLast buckets key bucket ∧ holds bucket value

/-- The table of the buckets that an aggregation lists. -/
def TableOf {α : Type} (holds : Value → α → Prop) (aggregation : Value) (table : Ledger α) : Prop :=
  ∃ buckets, aggregation.field? "buckets" = some (.array buckets) ∧ Tabulates holds buckets table

/-- A bucket holds the table of counts of its inner aggregation. -/
def HoldsTable (inner : String) (bucket : Value) (table : Ledger Int) : Prop :=
  ∃ aggregation, bucket.field? inner = some aggregation ∧
    ListsBuckets IsBucket aggregation ∧ TableOf Counts aggregation table

/-- A bucket with a key, and with an inner aggregation that lists counts. -/
def IsOuterBucket (inner : String) (bucket : Value) : Prop :=
  HasKey bucket ∧ ∃ aggregation, bucket.field? inner = some aggregation ∧
    ListsBuckets IsBucket aggregation

theorem Tabulates.unique {α : Type} {holds : Value → α → Prop} {buckets : List Value}
    {table table' : Ledger α} (isTable : Tabulates holds buckets table)
    (isTable' : Tabulates holds buckets table') : table = table' := by
  refine Ledger.ext_get? fun key => Option.ext fun value => ?_
  rw [isTable.get?_eq_some_iff, isTable'.get?_eq_some_iff]

theorem hasKey_iff {bucket : Value} : HasKey bucket ↔ ∃ key, Keyed bucket key := by
  constructor
  · rintro (⟨key, isKey⟩ | ⟨key, isKey⟩ | ⟨key, isKey⟩)
    · exact ⟨_, .text isKey⟩
    · exact ⟨_, .number isKey⟩
    · exact ⟨_, .boolean isKey⟩
  · rintro ⟨key, isKey | isKey | isKey⟩
    · exact .inl ⟨_, isKey⟩
    · exact .inr (.inl ⟨_, isKey⟩)
    · exact .inr (.inr ⟨_, isKey⟩)

theorem toInt64?_eq_some_iff {value : Value} {count : Int} :
    value.toInt64? = some count ↔ value = .integer count ∧ IsInt64 count := by
  constructor
  · intro isCount
    have small := isInt64_of_toInt64? isCount
    cases value with
    | number number =>
      cases number with
      | integer held =>
        simp only [Value.toInt64?, Number.toInt64?] at isCount
        split at isCount
        · rw [Option.some.inj isCount]
          exact ⟨rfl, Option.some.inj isCount ▸ small⟩
        · cases isCount
      | float held => cases isCount
    | _ => cases isCount
  · rintro ⟨rfl, small⟩
    exact if_pos small

theorem counts_iff {bucket : Value} {count : Int} :
    (bucket.field? "doc_count").bind Value.toInt64? = some count ↔ Counts bucket count := by
  rw [Option.bind_eq_some_iff]
  constructor
  · rintro ⟨value, found, isCount⟩
    obtain ⟨rfl, small⟩ := toInt64?_eq_some_iff.mp isCount
    exact ⟨found, small⟩
  · rintro ⟨found, small⟩
    exact ⟨_, found, toInt64?_eq_some_iff.mpr ⟨rfl, small⟩⟩

namespace Response

/-! ### Readers of one bucket -/

theorem keyOf_eq_ok_iff (name : String) {bucket : Value} {key : String} :
    keyOf name bucket = .ok key ↔ Keyed bucket key := by
  unfold keyOf
  constructor
  · intro isKey
    split at isKey
    all_goals rename_i found
    · cases isKey
      exact .text found
    · cases isKey
      exact .number found
    · cases isKey
      exact .boolean found
    · cases isKey
  · rintro (isKey | isKey | isKey) <;> rw [isKey]

theorem countOf_eq_ok_iff (name : String) {bucket : Value} {entry : String × Int} :
    countOf name bucket = .ok entry ↔ Keyed bucket entry.1 ∧ Counts bucket entry.2 := by
  obtain ⟨key, count⟩ := entry
  rw [← keyOf_eq_ok_iff name, ← counts_iff]
  constructor
  · intro isEntry
    obtain ⟨key', isKey, isEntry⟩ := Outcome.exists_of_bind_eq_ok isEntry
    split at isEntry
    · rename_i isCount
      cases isEntry
      exact ⟨isKey, isCount⟩
    · cases isEntry
  · rintro ⟨isKey, isCount⟩
    rw [countOf, isKey, Outcome.ok_bind, isCount]

theorem bucketsOf_eq_ok_iff {name : String} {aggregation : Value} {buckets : List Value} :
    bucketsOf name aggregation = .ok buckets ↔
      aggregation.field? "buckets" = some (.array buckets) := by
  refine ⟨fun areBuckets => ?_, bucketsOf_eq name⟩
  unfold bucketsOf at areBuckets
  split at areBuckets
  · rename_i found
    cases areBuckets
    obtain ⟨listed, isListed, areItems⟩ := Option.bind_eq_some_iff.mp found
    cases listed with
    | array items => rw [isListed, Option.some.inj areItems]
    | _ => cases areItems
  · cases areBuckets

theorem aggregation_eq_ok_iff {response : Response} {name : String} {aggregation : Value} :
    response.aggregation name = .ok aggregation ↔
      response.aggregations.get? name = some aggregation := by
  refine ⟨fun isAggregation => ?_, aggregation_eq⟩
  unfold Response.aggregation at isAggregation
  split at isAggregation
  · rename_i found
    cases isAggregation
    exact found
  · cases isAggregation

/-! ### Readers of all buckets -/

section Tables

variable {α : Type} {holds : Value → α → Prop} {read : Value → Outcome (String × α)}
  {buckets : List Value}

theorem eq_of_keyed {bucket : Value} {key key' : String} (isKey : Keyed bucket key)
    (isKey' : Keyed bucket key') : key = key' := by
  rw [← keyOf_eq_ok_iff ""] at isKey isKey'
  exact Except.ok.inj (isKey.symm.trans isKey')

/-- Buckets that are read one by one, later ones over earlier ones, give their table. -/
theorem tabulates_of_entries
    (exact : ∀ bucket entry, read bucket = .ok entry ↔ Keyed bucket entry.1 ∧ holds bucket entry.2)
    {entries : List (String × α)}
    (areEntries : buckets.mapM read = .ok entries) :
    Tabulates holds buckets (Ledger.ofList entries) := by
  have alike := mapM_eq_ok_iff.mp areEntries
  refine ⟨fun key => ?_, fun key value => ?_⟩
  · rw [Ledger.mem_keys_ofList]
    constructor
    · rintro ⟨value, member⟩
      obtain ⟨bucket, isBucket, isRead⟩ := exists_of_mem_mapM areEntries member
      exact ⟨bucket, isBucket, ((exact _ _).mp isRead).1⟩
    · rintro ⟨bucket, isBucket, isKey⟩
      obtain ⟨entry, isEntry, isRead⟩ := exists_mem_of_forall₂ alike isBucket
      rw [eq_of_keyed isKey ((exact _ _).mp isRead).1]
      exact ⟨entry.2, isEntry⟩
  · rw [Ledger.get?_ofList_eq_some_iff]
    constructor
    · rintro ⟨before, after, rfl, unwritten⟩
      obtain ⟨before', bucket, after', rfl, isRead, rest⟩ := exists_cut_of_forall₂ alike.flip
      obtain ⟨isKey, isHeld⟩ := (exact _ _).mp isRead
      refine ⟨bucket, ⟨before', after', rfl, isKey, fun later isLater laterKey => ?_⟩, isHeld⟩
      -- A later bucket under the key would have written there again.
      obtain ⟨entry, isEntry, isRead⟩ := exists_mem_of_forall₂ rest.flip isLater
      exact unwritten entry isEntry (eq_of_keyed ((exact _ _).mp isRead).1 laterKey)
    · rintro ⟨bucket, ⟨before, after, rfl, isKey, noneLater⟩, isHeld⟩
      obtain ⟨before', entry, after', rfl, isRead, rest⟩ := exists_cut_of_forall₂ alike
      have same : entry = (key, value) :=
        Except.ok.inj (isRead.symm.trans ((exact bucket (key, value)).mpr ⟨isKey, isHeld⟩))
      refine ⟨before', after', by rw [same], fun pair isPair samePair => ?_⟩
      obtain ⟨later, isLater, isRead⟩ := exists_mem_of_forall₂ rest.flip isPair
      exact noneLater later isLater (samePair ▸ ((exact _ _).mp isRead).1)

theorem exists_entries
    {IsOfKind : Value → Prop}
    {aggregation : Value}
    (exact : ∀ bucket entry, read bucket = .ok entry ↔ Keyed bucket entry.1 ∧ holds bucket entry.2)
    (readable : ∀ bucket, IsOfKind bucket ↔ HasKey bucket ∧ ∃ value, holds bucket value)
    (lists : ListsBuckets IsOfKind aggregation) :
    ∃ buckets entries, aggregation.field? "buckets" = some (.array buckets) ∧
      buckets.mapM read = .ok entries := by
  obtain ⟨buckets, areListed, each⟩ := lists
  obtain ⟨entries, areEntries⟩ : ∃ entries, buckets.mapM read = .ok entries := by
    refine exists_mapM_eq_ok_iff.mpr fun bucket isBucket => ?_
    obtain ⟨hasKey, value, isHeld⟩ := (readable bucket).mp (each bucket isBucket)
    obtain ⟨key, isKey⟩ := hasKey_iff.mp hasKey
    exact ⟨(key, value), (exact bucket (key, value)).mpr ⟨isKey, isHeld⟩⟩
  exact ⟨buckets, entries, areListed, areEntries⟩

/-- An aggregation is read exactly if it lists buckets that can be read, and what is read is their
table. -/
theorem table_eq_ok_iff
    {IsOfKind : Value → Prop}
    (name : String)
    {aggregation : Value}
    {table : Ledger α}
    (exact : ∀ bucket entry, read bucket = .ok entry ↔ Keyed bucket entry.1 ∧ holds bucket entry.2)
    (readable : ∀ bucket, IsOfKind bucket ↔ HasKey bucket ∧ ∃ value, holds bucket value) :
    (do
      let buckets ← bucketsOf name aggregation
      let entries ← buckets.mapM read
      .ok (Ledger.ofList entries) : Outcome (Ledger α)) = .ok table ↔
      ListsBuckets IsOfKind aggregation ∧ TableOf holds aggregation table := by
  constructor
  · intro isTable
    obtain ⟨buckets, areBuckets, isTable⟩ := Outcome.exists_of_bind_eq_ok isTable
    obtain ⟨entries, areEntries, isTable⟩ := Outcome.exists_of_bind_eq_ok isTable
    cases isTable
    have areListed := bucketsOf_eq_ok_iff.mp areBuckets
    refine ⟨⟨buckets, areListed, fun bucket isBucket => ?_⟩,
      buckets, areListed, tabulates_of_entries exact areEntries⟩
    obtain ⟨entry, isRead⟩ := exists_mapM_eq_ok_iff.mp ⟨entries, areEntries⟩ bucket isBucket
    obtain ⟨isKey, isHeld⟩ := (exact _ _).mp isRead
    exact (readable bucket).mpr ⟨hasKey_iff.mpr ⟨_, isKey⟩, _, isHeld⟩
  · rintro ⟨lists, buckets', areListed', isTable⟩
    obtain ⟨buckets, entries, areListed, areEntries⟩ := exists_entries exact readable lists
    obtain rfl : buckets = buckets' := by
      rw [areListed] at areListed'
      injection areListed' with areSame
      injection areSame
    have isRead := tabulates_of_entries exact areEntries
    rw [bucketsOf_eq name areListed, Outcome.ok_bind, areEntries, Outcome.ok_bind,
      isRead.unique isTable]

end Tables

/-- Counts are read exactly if the aggregation lists buckets with a key and a count. -/
theorem countsOf_eq_ok_iff (name : String) {aggregation : Value} {counts : Ledger Int} :
    countsOf name aggregation = .ok counts ↔
      ListsBuckets IsBucket aggregation ∧ TableOf Counts aggregation counts :=
  table_eq_ok_iff name (fun _ _ => countOf_eq_ok_iff name) fun bucket => by
    simp only [IsBucket, counts_iff]

theorem innerCountsOf_eq_ok_iff (outer inner : String) {bucket : Value}
    {entry : String × Ledger Int} :
    innerCountsOf outer inner bucket = .ok entry ↔
      Keyed bucket entry.1 ∧ HoldsTable inner bucket entry.2 := by
  obtain ⟨key, counts⟩ := entry
  rw [← keyOf_eq_ok_iff outer]
  constructor
  · intro isEntry
    obtain ⟨key', isKey, isEntry⟩ := Outcome.exists_of_bind_eq_ok isEntry
    split at isEntry
    · rename_i aggregation found
      obtain ⟨counts', areCounts, isPair⟩ := Outcome.exists_of_bind_eq_ok isEntry
      cases isPair
      exact ⟨isKey, aggregation, found, (countsOf_eq_ok_iff inner).mp areCounts⟩
    · cases isEntry
  · rintro ⟨isKey, aggregation, found, isTable⟩
    rw [innerCountsOf, isKey, Outcome.ok_bind, found]
    dsimp only
    rw [(countsOf_eq_ok_iff inner).mpr isTable, Outcome.ok_bind]

theorem isOuterBucket_iff {inner : String} (bucket : Value) :
    IsOuterBucket inner bucket ↔ HasKey bucket ∧ ∃ table, HoldsTable inner bucket table := by
  refine and_congr_right fun _ => ⟨?_, ?_⟩
  · rintro ⟨aggregation, found, lists⟩
    obtain ⟨table, isTable⟩ := exists_countsOf inner lists
    exact ⟨table, aggregation, found, (countsOf_eq_ok_iff inner).mp isTable⟩
  · rintro ⟨table, aggregation, found, lists, -⟩
    exact ⟨aggregation, found, lists⟩

variable {response : Response}

theorem terms_eq_ok_iff {name : String} {counts : Ledger Int} :
    response.terms name = .ok counts ↔
      ∃ aggregation, response.aggregations.get? name = some aggregation ∧
        ListsBuckets IsBucket aggregation ∧ TableOf Counts aggregation counts := by
  simp only [← aggregation_eq_ok_iff, ← countsOf_eq_ok_iff name]
  constructor
  · exact Outcome.exists_of_bind_eq_ok
  · rintro ⟨aggregation, found, areCounts⟩
    rw [terms, found, Outcome.ok_bind, areCounts]

theorem nestedTerms_eq_ok_iff {outer inner : String} {tables : Ledger (Ledger Int)} :
    response.nestedTerms outer inner = .ok tables ↔
      ∃ aggregation, response.aggregations.get? outer = some aggregation ∧
        ListsBuckets (IsOuterBucket inner) aggregation ∧
        TableOf (HoldsTable inner) aggregation tables := by
  simp only [← aggregation_eq_ok_iff, ← table_eq_ok_iff outer
    (fun _ _ => innerCountsOf_eq_ok_iff outer inner) isOuterBucket_iff]
  constructor
  · exact Outcome.exists_of_bind_eq_ok
  · rintro ⟨aggregation, found, areTables⟩
    rw [nestedTerms, found, Outcome.ok_bind, areTables]

/-! ### Failures -/

theorem onlyMalformed_aggregation (name : String) : (response.aggregation name).OnlyMalformed := by
  unfold Response.aggregation
  split
  · exact .ok _
  · exact .malformed _

theorem onlyMalformed_bucketsOf (name : String) (aggregation : Value) :
    (bucketsOf name aggregation).OnlyMalformed := by
  unfold bucketsOf
  split
  · exact .ok _
  · exact .malformed _

theorem onlyMalformed_keyOf (name : String) (bucket : Value) :
    (keyOf name bucket).OnlyMalformed := by
  unfold keyOf
  split
  · exact .ok _
  · exact .ok _
  · exact .ok _
  · exact .malformed _

theorem onlyMalformed_countsOf (name : String) (aggregation : Value) :
    (countsOf name aggregation).OnlyMalformed := by
  refine (onlyMalformed_bucketsOf name aggregation).bind fun buckets => ?_
  refine .bind (.mapM fun bucket => ?_) fun entries => .ok _
  refine (onlyMalformed_keyOf name bucket).bind fun key => ?_
  split
  · exact .ok _
  · exact .malformed _

theorem onlyMalformed_terms (name : String) : (response.terms name).OnlyMalformed :=
  (onlyMalformed_aggregation name).bind fun aggregation => onlyMalformed_countsOf name aggregation

theorem onlyMalformed_nestedTerms (outer inner : String) :
    (response.nestedTerms outer inner).OnlyMalformed := by
  refine (onlyMalformed_aggregation outer).bind fun aggregation => ?_
  refine (onlyMalformed_bucketsOf outer aggregation).bind fun buckets => ?_
  refine .bind (.mapM fun bucket => ?_) fun entries => .ok _
  refine (onlyMalformed_keyOf outer bucket).bind fun key => ?_
  split
  · exact (onlyMalformed_countsOf inner _).bind fun counts => .ok _
  · exact .malformed _

/-! ### Both readers -/

/-- **Bucket readers are exact.**  Terms are read exactly if the aggregation is there and lists
buckets, each with a usable key and a count, and nested terms exactly if each of its buckets has a
usable key and an inner aggregation of that kind.  What is read is the table of the buckets, where
the last one under a key stays, and the only way to fail is on a malformed answer. -/
theorem bucket_readers_exact (response : Response) (name outer inner : String) :
    ((∃ counts, response.terms name = .ok counts) ↔
      ∃ aggregation, response.aggregations.get? name = some aggregation ∧
        ListsBuckets IsBucket aggregation) ∧
    (∀ counts, response.terms name = .ok counts ↔
      ∃ aggregation, response.aggregations.get? name = some aggregation ∧
        ListsBuckets IsBucket aggregation ∧ TableOf Counts aggregation counts) ∧
    ((∃ tables, response.nestedTerms outer inner = .ok tables) ↔
      ∃ aggregation, response.aggregations.get? outer = some aggregation ∧
        ListsBuckets (IsOuterBucket inner) aggregation) ∧
    (∀ tables, response.nestedTerms outer inner = .ok tables ↔
      ∃ aggregation, response.aggregations.get? outer = some aggregation ∧
        ListsBuckets (IsOuterBucket inner) aggregation ∧
        TableOf (HoldsTable inner) aggregation tables) ∧
    (response.terms name).OnlyMalformed ∧ (response.nestedTerms outer inner).OnlyMalformed := by
  refine ⟨⟨?_, ?_⟩, fun counts => terms_eq_ok_iff, ⟨?_, ?_⟩, fun tables => nestedTerms_eq_ok_iff,
    onlyMalformed_terms name, onlyMalformed_nestedTerms outer inner⟩
  · rintro ⟨counts, areCounts⟩
    obtain ⟨aggregation, found, lists, -⟩ := terms_eq_ok_iff.mp areCounts
    exact ⟨aggregation, found, lists⟩
  · rintro ⟨aggregation, found, lists⟩
    exact exists_terms found lists
  · rintro ⟨tables, areTables⟩
    obtain ⟨aggregation, found, lists, -⟩ := nestedTerms_eq_ok_iff.mp areTables
    exact ⟨aggregation, found, lists⟩
  · rintro ⟨aggregation, found, lists⟩
    obtain ⟨buckets, entries, areListed, areEntries⟩ := exists_entries
      (fun _ _ => innerCountsOf_eq_ok_iff outer inner) isOuterBucket_iff lists
    exact ⟨_, nestedTerms_eq_ok_iff.mpr ⟨aggregation, found, lists, buckets, areListed,
      tabulates_of_entries (fun _ _ => innerCountsOf_eq_ok_iff outer inner) areEntries⟩⟩

/-- A number and a text that are written alike are one key, and the later bucket stays. -/
example :
    (terms ⟨none, [], Ledger.ofList [("labels", .ofFields [("buckets", .array
      [.ofFields [("key", .integer 1), ("doc_count", .integer 2)],
        .ofFields [("key", .text "1"), ("doc_count", .integer 3)]])])]⟩ "labels").map
          Ledger.entries = .ok [("1", 3)] := by
  rfl

end Response

end Search

end RepoVitals
