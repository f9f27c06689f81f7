import RepoVitals.Config.Reading
import RepoVitals.Proofs.Config.Record
/-!
The values of a configuration, and the fields that set them.

Owns:
- knobs, which are the values of a record, each with the field that sets it;
- chapters, which are the parts of a configuration with all their knobs, and the proof that reading
  a part puts every knob where its field says;
- the four chapters of a configuration, and what reading a whole configuration comes to.
-/

namespace RepoVitals.Config

variable {Record : Type}

/-! ### Knobs -/

/-- A value of a record, with the name of the field that sets it and the reader of what is given. -/
structure Knob (Record : Type) where
  name : String
  {Value : Type}
  read : Setting → Reading Value
  value : Record → Value

/-- The knob stands where the given part puts it, or where it usually stands if none is given. -/
def Knob.Settles (knob : Knob Record) (usual : Record) (given? : Option Setting)
    (record : Record) : Prop :=
  match given? with
  | some part => knob.read part = .ok (knob.value record)
  | none => knob.value record = knob.value usual

/-- Whatever a record gives for a field can be read like the field. -/
theorem exists_read
    {fields : List Field}
    {setting : Setting}
    {parts : Parts}
    {Value : Type}
    {read : Setting → Reading Value}
    {name : String}
    {spellings : List String}
    {required : Bool}
    (unrepeated : (fields.map Field.name).Nodup)
    (orderly : setting.Orderly)
    (isRead : setting.readRecord fields = .ok parts)
    (position : Nat)
    (isField : fields[position]? = some (.of read name spellings required))
    (absent : Value) :
    ∃ value, Parts.read parts name read absent = .ok value ∧
      match setting.given? fields name with
      | some part => read part = .ok value
      | none => value = absent := by
  obtain ⟨proper, -, rfl⟩ := (readRecord_eq_ok_iff orderly parts).mp isRead
  unfold Parts.read
  change ∃ value, (match setting.given? fields name with
    | some part => read part
    | none => .ok absent) = .ok value ∧ _
  cases isGiven : setting.given? fields name with
  | none => exact ⟨absent, rfl, rfl⟩
  | some part =>
    obtain ⟨field, member, sameName, passes⟩ := proper.exists_of_given isGiven
    have same : field = .of read name spellings required :=
      List.inj_on_of_nodup_map unrepeated member (List.mem_of_getElem? isField) sameName
    rw [same] at passes
    obtain ⟨value, isValue, -⟩ := Outcome.exists_of_map_eq_ok passes
    exact ⟨value, isValue, isValue⟩

/-! ### Chapters -/

/-- The fields of the parts of a configuration, under the names of the parts. -/
def fieldsOf (part : String) : List Field :=
  (valueUnder? part [("store", storeFields), ("runtime", runtimeFields),
    ("index_settings", indexFields), ("run", scopeFields)]).getD []

/-- A part of a configuration: its fields, its knobs in the order of the fields, and what it comes
to if nothing is given.  No field is a table, and reading the part sets the knobs. -/
structure Chapter (Record : Type) where
  name : String
  fields : List Field
  knobs : List (Knob Record)
  read : Setting → Reading Record
  usual : Record
  isPart : fieldsOf name = fields
  complete : fields.map Field.name = knobs.map Knob.name
  plain : ∀ field ∈ fields, ∀ entries, field.check (.table entries) ≠ .ok ()
  record_of_read : ∀ {setting record}, read setting = .ok record →
    ∃ parts, setting.readRecord fields = .ok parts
  read_of_record : ∀ {setting parts}, setting.Orderly → setting.readRecord fields = .ok parts →
    ∃ record, read setting = .ok record ∧
      ∀ knob ∈ knobs, knob.Settles usual (setting.given? fields knob.name) record

/-! ### The cluster -/

/-- What is said about the cluster: its address, the credentials, the times to wait, and whether
requests are compressed. -/
def storeKnobs : List (Knob Store) :=
  [⟨"url", Setting.readText, Store.url⟩, ⟨"username", readOptionalText, Store.username⟩,
    ⟨"password", readOptionalText, Store.password⟩, ⟨"api_key", readOptionalText, Store.apiKey⟩,
    ⟨"connect_timeout_secs", readCount, Store.connectTimeout⟩,
    ⟨"request_timeout_secs", readCount, Store.requestTimeout⟩,
    ⟨"compress_requests", Setting.readBoolean, Store.compressRequests⟩]

theorem storeFields_plain :
    ∀ field ∈ storeFields, ∀ entries, field.check (.table entries) ≠ .ok () := by
  intro field member entries
  simp only [storeFields, List.mem_cons, List.not_mem_nil, or_false] at member
  rcases member with rfl | rfl | rfl | rfl | rfl | rfl | rfl <;> exact nofun

theorem readStore_of_record
    {setting : Setting}
    {parts : Parts}
    (orderly : setting.Orderly)
    (isRead : setting.readRecord storeFields = .ok parts) :
    ∃ store, readStore setting = .ok store ∧ ∀ knob ∈ storeKnobs,
      knob.Settles (.at "") (setting.given? storeFields knob.name) store := by
  have reads {Value : Type} {read : Setting → Reading Value} {name : String} {required : Bool}
      (position : Nat) (isField : storeFields[position]? = some (.of read name [] required))
      (absent : Value) :=
    exists_read (by decide) orderly isRead position isField absent
  obtain ⟨url, isUrl, url_settles⟩ := reads 0 rfl ""
  obtain ⟨username, isUsername, username_settles⟩ := reads 1 rfl none
  obtain ⟨password, isPassword, password_settles⟩ := reads 2 rfl none
  obtain ⟨apiKey, isApiKey, apiKey_settles⟩ := reads 3 rfl none
  obtain ⟨connect, isConnect, connect_settles⟩ := reads 4 rfl 10
  obtain ⟨request, isRequest, request_settles⟩ := reads 5 rfl 30
  obtain ⟨compress, isCompress, compress_settles⟩ := reads 6 rfl false
  refine ⟨⟨url, username, password, apiKey, connect, request, compress⟩, ?_, ?_⟩
  · simp only [readStore, isRead, Reading.ok_bind, isUrl, Store.at, isUsername, isPassword,
      isApiKey, isConnect, isRequest, isCompress]
    rfl
  · simp only [storeKnobs, List.forall_mem_cons]
    exact ⟨url_settles, username_settles, password_settles, apiKey_settles, connect_settles,
      request_settles, compress_settles, nofun⟩

/-- The part about the cluster; its address has to be given. -/
def storeChapter : Chapter Store where
  name := "store"
  fields := storeFields
  knobs := storeKnobs
  read := readStore
  usual := .at ""
  isPart := rfl
  complete := rfl
  plain := storeFields_plain
  record_of_read isRead := (Outcome.exists_of_bind_eq_ok isRead).imp fun _ => And.left
  read_of_record := readStore_of_record

/-! ### The load -/

/-- What is said about a run on this machine: workers, the sizes and times of bulk writes, searches
at a time, and whether progress is shown. -/
def runtimeKnobs : List (Knob Runtime) :=
  [⟨"worker_pool_size", readCount, Runtime.poolSize⟩,
    ⟨"bulk_parallelism", readCount, Runtime.parallelism⟩,
    ⟨"bulk_batch_size", readCount, Runtime.batchSize⟩,
    ⟨"bulk_timeout_secs", readCount, Runtime.timeout⟩,
    ⟨"query_concurrency", readCount, Runtime.queryConcurrency⟩,
    ⟨"show_progress", Setting.readBoolean, Runtime.showProgress⟩]

theorem runtimeFields_plain :
    ∀ field ∈ runtimeFields, ∀ entries, field.check (.table entries) ≠ .ok () := by
  intro field member entries
  simp only [runtimeFields, List.mem_cons, List.not_mem_nil, or_false] at member
  rcases member with rfl | rfl | rfl | rfl | rfl | rfl <;> exact nofun

theorem readRuntime_of_record
    {setting : Setting}
    {parts : Parts}
    (orderly : setting.Orderly)
    (isRead : setting.readRecord runtimeFields = .ok parts) :
    ∃ runtime, readRuntime setting = .ok runtime ∧ ∀ knob ∈ runtimeKnobs,
      knob.Settles .standard (setting.given? runtimeFields knob.name) runtime := by
  have reads {Value : Type} {read : Setting → Reading Value} {name : String}
      {spellings : List String} {required : Bool} (position : Nat)
      (isField : runtimeFields[position]? = some (.of read name spellings required))
      (absent : Value) :=
    exists_read (by decide) orderly isRead position isField absent
  obtain ⟨poolSize, isPoolSize, poolSize_settles⟩ := reads 0 rfl Runtime.standard.poolSize
  obtain ⟨parallelism, isParallelism, parallelism_settles⟩ :=
    reads 1 rfl Runtime.standard.parallelism
  obtain ⟨batchSize, isBatchSize, batchSize_settles⟩ := reads 2 rfl Runtime.standard.batchSize
  obtain ⟨timeout, isTimeout, timeout_settles⟩ := reads 3 rfl Runtime.standard.timeout
  obtain ⟨concurrency, isConcurrency, concurrency_settles⟩ :=
    reads 4 rfl Runtime.standard.queryConcurrency
  obtain ⟨progress, isProgress, progress_settles⟩ := reads 5 rfl Runtime.standard.showProgress
  refine ⟨⟨poolSize, parallelism, batchSize, timeout, concurrency, progress⟩, ?_, ?_⟩
  · simp only [readRuntime, isRead, Reading.ok_bind, isPoolSize, isParallelism, isBatchSize,
      isTimeout, isConcurrency, isProgress]
    rfl
  · simp only [runtimeKnobs, List.forall_mem_cons]
    exact ⟨poolSize_settles, parallelism_settles, batchSize_settles, timeout_settles,
      concurrency_settles, progress_settles, nofun⟩

/-- The part about runs on this machine. -/
def runtimeChapter : Chapter Runtime where
  name := "runtime"
  fields := runtimeFields
  knobs := runtimeKnobs
  read := readRuntime
  usual := .standard
  isPart := rfl
  complete := rfl
  plain := runtimeFields_plain
  record_of_read isRead := (Outcome.exists_of_bind_eq_ok isRead).imp fun _ => And.left
  read_of_record := readRuntime_of_record

/-! ### New indexes -/

/-- What is said about new indexes: replicas, and limits on fields and on nesting. -/
def indexKnobs : List (Knob Index.Settings) :=
  [⟨"number_of_replicas", readLimit, Index.Settings.replicas⟩,
    ⟨"total_fields_limit", readLimit, Index.Settings.totalFieldsLimit⟩,
    ⟨"depth_limit", readLimit, Index.Settings.depthLimit⟩,
    ⟨"nested_fields_limit", readLimit, Index.Settings.nestedFieldsLimit⟩,
    ⟨"nested_objects_limit", readLimit, Index.Settings.nestedObjectsLimit⟩]

theorem indexFields_plain :
    ∀ field ∈ indexFields, ∀ entries, field.check (.table entries) ≠ .ok () := by
  intro field member entries
  obtain ⟨name, -, rfl⟩ := List.mem_map.mp member
  exact nofun

theorem readIndex_of_record
    {setting : Setting}
    {parts : Parts}
    (orderly : setting.Orderly)
    (isRead : setting.readRecord indexFields = .ok parts) :
    ∃ index, readIndex setting = .ok index ∧ ∀ knob ∈ indexKnobs,
      knob.Settles .standard (setting.given? indexFields knob.name) index := by
  have reads {name : String} (position : Nat)
      (isField : indexFields[position]? = some (.of readLimit name [] false)) (absent : Nat) :=
    exists_read (by decide) orderly isRead position isField absent
  obtain ⟨replicas, isReplicas, replicas_settles⟩ := reads 0 rfl Index.Settings.standard.replicas
  obtain ⟨total, isTotal, total_settles⟩ := reads 1 rfl Index.Settings.standard.totalFieldsLimit
  obtain ⟨depth, isDepth, depth_settles⟩ := reads 2 rfl Index.Settings.standard.depthLimit
  obtain ⟨nested, isNested, nested_settles⟩ :=
    reads 3 rfl Index.Settings.standard.nestedFieldsLimit
  obtain ⟨objects, areObjects, objects_settle⟩ :=
    reads 4 rfl Index.Settings.standard.nestedObjectsLimit
  refine ⟨⟨replicas, total, depth, nested, objects⟩, ?_, ?_⟩
  · simp only [readIndex, isRead, Reading.ok_bind, isReplicas, isTotal, isDepth, isNested,
      areObjects]
    rfl
  · simp only [indexKnobs, List.forall_mem_cons]
    exact ⟨replicas_settles, total_settles, depth_settles, nested_settles, objects_settle, nofun⟩

/-- The part about new indexes. -/
def indexChapter : Chapter Index.Settings where
  name := "index_settings"
  fields := indexFields
  knobs := indexKnobs
  read := readIndex
  usual := .standard
  isPart := rfl
  complete := rfl
  plain := indexFields_plain
  record_of_read isRead := (Outcome.exists_of_bind_eq_ok isRead).imp fun _ => And.left
  read_of_record := readIndex_of_record

/-! ### What is measured -/

/-- What is said about the scope of a run: families, repositories, how many repositories are asked
for if none are given, and releases. -/
def scopeKnobs : List (Knob Scope) :=
  [⟨"families", Setting.readList readFamily, Scope.families⟩,
    ⟨"repositories", Setting.readList Setting.readText, Scope.repositories⟩,
    ⟨"repository_discovery_limit", readCount, Scope.discoveryLimit⟩,
    ⟨"releases", Setting.readList readRelease, Scope.releases⟩]

theorem scopeFields_plain :
    ∀ field ∈ scopeFields, ∀ entries, field.check (.table entries) ≠ .ok () := by
  intro field member entries
  simp only [scopeFields, List.mem_cons, List.not_mem_nil, or_false] at member
  rcases member with rfl | rfl | rfl | rfl <;> exact nofun

theorem readScope_of_record
    {setting : Setting}
    {parts : Parts}
    (orderly : setting.Orderly)
    (isRead : setting.readRecord scopeFields = .ok parts) :
    ∃ scope, readScope setting = .ok scope ∧ ∀ knob ∈ scopeKnobs,
      knob.Settles .standard (setting.given? scopeFields knob.name) scope := by
  have reads {Value : Type} {read : Setting → Reading Value} {name : String} (position : Nat)
      (isField : scopeFields[position]? = some (.of read name [] false)) (absent : Value) :=
    exists_read (by decide) orderly isRead position isField absent
  obtain ⟨families, areFamilies, families_settle⟩ := reads 0 rfl Scope.standard.families
  obtain ⟨repositories, areRepositories, repositories_settle⟩ :=
    reads 1 rfl Scope.standard.repositories
  obtain ⟨limit, isLimit, limit_settles⟩ := reads 2 rfl Scope.standard.discoveryLimit
  obtain ⟨releases, areReleases, releases_settle⟩ := reads 3 rfl Scope.standard.releases
  refine ⟨⟨families, repositories, limit, releases⟩, ?_, ?_⟩
  · simp only [readScope, isRead, Reading.ok_bind, areFamilies, areRepositories, isLimit,
      areReleases]
    rfl
  · simp only [scopeKnobs, List.forall_mem_cons]
    exact ⟨families_settle, repositories_settle, limit_settles, releases_settle, nofun⟩

/-- The part about the scope of runs. -/
def scopeChapter : Chapter Scope where
  name := "run"
  fields := scopeFields
  knobs := scopeKnobs
  read := readScope
  usual := .standard
  isPart := rfl
  complete := rfl
  plain := scopeFields_plain
  record_of_read isRead := (Outcome.exists_of_bind_eq_ok isRead).imp fun _ => And.left
  read_of_record := readScope_of_record

end RepoVitals.Config
