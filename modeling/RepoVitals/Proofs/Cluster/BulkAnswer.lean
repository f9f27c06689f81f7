import RepoVitals.Cluster.Client
import RepoVitals.Proofs.Bulk.Accounting
import RepoVitals.Proofs.Ledger
import RepoVitals.Proofs.Steps
/-!
Bulk answers, document by document.

Owns:
- `Tells`: what the outcome of an action says, with an id and an error that may be left out or null;
- `Decodes`: a body is a JSON text whose items, if any are given, are objects of readable outcomes;
- `succeeds`: an outcome counts as a success by its status and its error alone;
- `bulk_answers_classified`: how an answer to a bulk call is counted.

Nothing relates the number of items to the number of documents that were sent.
-/

namespace RepoVitals.Cluster

open Bulk (Partition Tally Verdict)
open Config (Store)
open Http (Answer)
open Json (View Written)

/-! ### Readers -/

section Readers

variable {τ α : Type} {view : View τ}

/-- What is read from a part that may be left out or null. -/
inductive MayHold (view : View τ) (read : τ → Option α) : Option τ → Option α → Prop where
  | absent : MayHold view read none none
  | null {part : τ} (isNull : view.isNull part = true) : MayHold view read (some part) none
  | present {part : τ} {value : α} (notNull : view.isNull part = false)
      (isRead : read part = some value) : MayHold view read (some part) (some value)

theorem optional_eq_some_iff {read : τ → Option α} {part : Option τ} {value : Option α} :
    view.optional read part = some value ↔ MayHold view read part value := by
  constructor
  · intro isRead
    cases part with
    | none =>
      cases isRead
      exact .absent
    | some part =>
      rw [View.optional] at isRead
      split at isRead
      · rename_i isNull
        cases isRead
        exact .null isNull
      · rename_i notNull
        obtain ⟨value, isValue, rfl⟩ := Option.map_eq_some_iff.mp isRead
        exact .present (Bool.eq_false_of_not_eq_true notNull) isValue
  · rintro (_ | isNull | ⟨notNull, isRead⟩)
    · rfl
    · rw [View.optional, if_pos isNull]
    · rw [View.optional, if_neg (Bool.eq_false_iff.mp notNull), isRead, Option.map_some]

/-- A record has a part, or none, for each of its names. -/
theorem length_of_record? {names : List String} {source : τ} {parts : List (Option τ)}
    (areParts : view.record? names source = some parts) : parts.length = names.length := by
  unfold View.record? at areParts
  split at areParts
  · exact (mapM_eq_some_iff.mp areParts).length_eq.symm
  · split at areParts
    · split at areParts
      · cases areParts
      · rename_i notLonger
        cases areParts
        rw [List.length_append, List.length_map, List.length_replicate]
        omega
    · cases areParts

end Readers

/-! ### Outcomes -/

section Outcomes

variable {τ : Type} {view : View τ} {outcome item : τ} {verdict : Verdict}

/-- What the outcome of an action says.  An id that is left out or null is empty; the status must be
given, and so must the error of a document that has one. -/
def Tells (view : View τ) (outcome : τ) (verdict : Verdict) : Prop :=
  ∃ id status error idText errorValue,
    view.record? ["_id", "status", "error"] outcome = some [id, some status, error] ∧
      MayHold view view.text? id idText ∧ verdict.id = idText.getD "" ∧
      view.integer? 0 greatestStatus status = some (verdict.status : Int) ∧
      MayHold view view.value? error errorValue ∧ verdict.error = errorValue.map errorText

/-- A success has a status from 200 to 299, and its error is left out or null. -/
def succeeds (view : View τ) (outcome : τ) : Bool :=
  match view.record? ["_id", "status", "error"] outcome with
  | some [_, some status, error] =>
    (view.integer? 200 299 status).isSome && error.all view.isNull
  | _ => false

theorem integer?_eq_some_iff {least greatest value : Int} {part : τ} :
    view.integer? least greatest part = some value ↔
      view.value? part = some (.number (.integer value)) ∧ least ≤ value ∧ value ≤ greatest := by
  rw [View.integer?, Option.bind_eq_bind, Option.bind_eq_some_iff]
  constructor
  · rintro ⟨whole, isWhole, isValue⟩
    split at isValue
    · split at isValue <;> cases isValue
      rename_i inside
      exact ⟨isWhole, inside⟩
    · cases isValue
  · rintro ⟨isWhole, inside⟩
    exact ⟨_, isWhole, if_pos inside⟩

theorem verdict?_eq_some_iff :
    verdict? view outcome = some verdict ↔ Tells view outcome verdict := by
  constructor
  · intro isVerdict
    obtain ⟨parts, areParts, isVerdict⟩ := Option.bind_eq_some_iff.mp isVerdict
    split at isVerdict
    · rename_i id status error
      obtain ⟨idText, isId, isVerdict⟩ := Option.bind_eq_some_iff.mp isVerdict
      obtain ⟨code, isCode, isVerdict⟩ := Option.bind_eq_some_iff.mp isVerdict
      obtain ⟨errorValue, isError, isVerdict⟩ := Option.bind_eq_some_iff.mp isVerdict
      cases isVerdict
      have notNegative := (integer?_eq_some_iff.mp isCode).2.1
      refine ⟨id, status, error, idText, errorValue, areParts, optional_eq_some_iff.mp isId, rfl,
        ?_, optional_eq_some_iff.mp isError, rfl⟩
      rw [isCode, Int.toNat_of_nonneg notNegative]
    · cases isVerdict
  · rintro ⟨id, status, error, idText, errorValue, areParts, isId, sameId, isCode, isError,
      sameError⟩
    rw [← optional_eq_some_iff] at isId isError
    obtain ⟨name, code, error'⟩ := verdict
    simp only at sameId sameError isCode
    simp only [verdict?, areParts, isId, isCode, isError, Option.bind_eq_bind, Option.bind_some,
      Int.toNat_natCast, ← sameId, ← sameError]

/-- A verdict counts as stored exactly if its outcome is a success. -/
theorem Tells.isStored_eq (tells : Tells view outcome verdict) :
    verdict.isStored = succeeds view outcome := by
  obtain ⟨id, status, error, idText, errorValue, areParts, -, -, isCode, isError,
    sameError⟩ := tells
  have sameErrors : verdict.error.isNone = error.all view.isNull := by
    rw [sameError]
    rcases isError with _ | isNull | ⟨notNull, -⟩
    · rfl
    · exact isNull.symm
    · exact notNull.symm
  have sameCodes : Http.succeeds verdict.status = (view.integer? 200 299 status).isSome := by
    obtain ⟨isNumber, -⟩ := integer?_eq_some_iff.mp isCode
    rw [Bool.eq_iff_iff, Option.isSome_iff_exists, Http.succeeds, Bool.and_eq_true,
      decide_eq_true_iff, decide_eq_true_iff]
    simp only [integer?_eq_some_iff, isNumber]
    constructor
    · intro inside
      exact ⟨verdict.status, rfl, by omega, by omega⟩
    · rintro ⟨value, same, inside⟩
      injection same with same
      injection same with same
      injection same with same
      omega
  rw [Verdict.isStored, sameErrors, sameCodes, succeeds, areParts, Bool.and_comm]

/-! ### Items -/

/-- The outcome that an item gives; an empty item gives none. -/
def outcome? (view : View τ) (item : τ) : Option τ :=
  (view.fields? item).bind (fun outcomes => outcomes.getLast?.map Prod.snd)

/-- All outcomes of an item are for the same action. -/
def HasOneAction (view : View τ) (item : τ) : Prop :=
  ∀ outcomes, view.fields? item = some outcomes →
    ∀ first ∈ outcomes, ∀ second ∈ outcomes, first.1 = second.1

theorem HasOneAction.of_length_le_one {outcomes : List (String × τ)}
    (areOutcomes : view.fields? item = some outcomes) (atMostOne : outcomes.length ≤ 1) :
    HasOneAction view item := by
  intro others areOthers first isFirst second isSecond
  obtain rfl : outcomes = others := Option.some.inj (areOutcomes.symm.trans areOthers)
  match outcomes, atMostOne, isFirst, isSecond with
  | [outcome], _, isFirst, isSecond =>
    rw [List.mem_singleton.mp isFirst, List.mem_singleton.mp isSecond]

/-- An item is an object of outcomes that tell something. -/
def IsReadable (view : View τ) (item : τ) : Prop :=
  ∃ outcomes, view.fields? item = some outcomes ∧
    ∀ outcome ∈ outcomes, ∃ verdict, Tells view outcome.2 verdict

theorem verdictUnderName_eq_some_iff {outcome : String × τ} {pair : String × Verdict} :
    (verdict? view outcome.2).map (fun verdict => (outcome.1, verdict)) = some pair ↔
      pair.1 = outcome.1 ∧ Tells view outcome.2 pair.2 := by
  rw [Option.map_eq_some_iff]
  constructor
  · rintro ⟨verdict, isVerdict, rfl⟩
    exact ⟨rfl, verdict?_eq_some_iff.mp isVerdict⟩
  · rintro ⟨sameName, tells⟩
    exact ⟨pair.2, verdict?_eq_some_iff.mpr tells, Prod.ext sameName.symm rfl⟩

theorem itemVerdict?_eq_some_iff {found : Option Verdict} :
    itemVerdict? view item = some found ↔
      ∃ outcomes, view.fields? item = some outcomes ∧ ∃ pairs,
        outcomes.Forall₂
            (fun outcome pair => pair.1 = outcome.1 ∧ Tells view outcome.2 pair.2) pairs ∧
          (Ledger.ofList pairs).entries.head?.map Prod.snd = found := by
  simp only [itemVerdict?, Option.bind_eq_bind, Option.bind_eq_some_iff, Option.some.injEq,
    mapM_eq_some_iff, verdictUnderName_eq_some_iff]

/-- An item has a verdict, or none, exactly if all its outcomes can be read. -/
theorem exists_itemVerdict?_iff :
    (∃ found, itemVerdict? view item = some found) ↔ IsReadable view item := by
  simp only [itemVerdict?, Option.bind_eq_bind, Option.bind_eq_some_iff, IsReadable,
    ← verdict?_eq_some_iff]
  constructor
  · rintro ⟨found, outcomes, areOutcomes, pairs, arePairs, -⟩
    refine ⟨outcomes, areOutcomes, fun outcome isOutcome => ?_⟩
    obtain ⟨pair, isPair⟩ := exists_mapM_eq_some_iff.mp ⟨pairs, arePairs⟩ outcome isOutcome
    exact ⟨pair.2, verdict?_eq_some_iff.mpr (verdictUnderName_eq_some_iff.mp isPair).2⟩
  · rintro ⟨outcomes, areOutcomes, readable⟩
    obtain ⟨pairs, arePairs⟩ : ∃ pairs, outcomes.mapM (fun outcome =>
        (verdict? view outcome.2).map fun verdict => (outcome.1, verdict)) = some pairs := by
      refine exists_mapM_eq_some_iff.mpr fun outcome isOutcome => ?_
      obtain ⟨verdict, isVerdict⟩ := readable outcome isOutcome
      exact ⟨(outcome.1, verdict), by rw [isVerdict, Option.map_some]⟩
    exact ⟨_, outcomes, areOutcomes, pairs, arePairs, rfl⟩

/-- The verdict of an item is what its outcome tells; an empty item has none. -/
theorem tells_of_itemVerdict?
    {found : Option Verdict}
    (oneAction : HasOneAction view item)
    (isFound : itemVerdict? view item = some found) :
    Option.Rel (Tells view) (outcome? view item) found := by
  obtain ⟨outcomes, areOutcomes, pairs, alike, rfl⟩ := itemVerdict?_eq_some_iff.mp isFound
  rw [outcome?, areOutcomes, Option.bind_some]
  rcases List.eq_nil_or_concat' outcomes with rfl | ⟨earlier, last, rfl⟩
  · rw [List.forall₂_nil_left_iff.mp alike]
    exact .none
  · obtain ⟨before, pair, after, rfl, ⟨-, tells⟩, isRest⟩ := exists_cut_of_forall₂ alike
    rw [List.forall₂_nil_left_iff.mp isRest] at alike ⊢
    have oneKey : ∀ other ∈ before ++ [pair], other.1 = last.1 := by
      intro other isOther
      obtain ⟨outcome, isOutcome, sameName, -⟩ := exists_mem_of_forall₂ alike.flip isOther
      rw [sameName]
      exact oneAction _ areOutcomes outcome isOutcome last
        (List.mem_append_right _ List.mem_cons_self)
    rw [Ledger.entries_ofList_of_one_key oneKey, List.getLast?_concat, List.getLast?_concat]
    exact .some tells

end Outcomes

/-! ### Bodies -/

/-- A body is a JSON text whose items are these; items that are left out are none. -/
def ListsItems (text : String) (items : List (Nat × Written)) : Prop :=
  ∃ whole listed, Written.ofText? text = some whole ∧
    View.ofWritten.record? ["items"] (Json.containerLimit, whole) = some [listed] ∧
    View.orElse View.ofWritten.items? [] listed = some items

/-- A body can be read, and these are its items. -/
def Decodes (text : String) (items : List (Nat × Written)) : Prop :=
  ListsItems text items ∧ ∀ item ∈ items, IsReadable View.ofWritten item

theorem verdictsOfText?_eq_some_iff {text : String} {verdicts : List Verdict} :
    verdictsOfText? text = some verdicts ↔
      ∃ items, ListsItems text items ∧ ∃ found,
        items.mapM (itemVerdict? View.ofWritten) = some found ∧
          found.filterMap (fun verdict => verdict) = verdicts := by
  simp only [verdictsOfText?, verdictsOf?, Option.bind_eq_bind, Option.bind_eq_some_iff]
  constructor
  · rintro ⟨whole, isWhole, parts, areParts, areVerdicts⟩
    have single := length_of_record? areParts
    split at areVerdicts
    · rename_i listed
      obtain ⟨items, areItems, areVerdicts⟩ := Option.bind_eq_some_iff.mp areVerdicts
      obtain ⟨found, isFound, areVerdicts⟩ := Option.bind_eq_some_iff.mp areVerdicts
      exact ⟨items, ⟨whole, _, isWhole, areParts, areItems⟩, found, isFound,
        Option.some.inj areVerdicts⟩
    · rename_i unlisted
      obtain ⟨listed, rfl⟩ := List.length_eq_one_iff.mp single
      cases listed with
      | none =>
          exact ⟨[], ⟨whole, none, isWhole, areParts, rfl⟩, [], rfl, Option.some.inj areVerdicts⟩
      | some listed => exact absurd rfl (unlisted listed)
  · rintro ⟨items, ⟨whole, listed, isWhole, areParts, areItems⟩, found, isFound, rfl⟩
    refine ⟨whole, isWhole, _, areParts, ?_⟩
    cases listed with
    | none =>
      cases areItems
      cases isFound
      rfl
    | some listed =>
      change View.ofWritten.items? listed = some items at areItems
      simp only [areItems, Option.bind_some, isFound]

/-- Verdicts are found exactly in the bodies that can be read. -/
theorem exists_verdictsOfText?_iff {text : String} :
    (∃ verdicts, verdictsOfText? text = some verdicts) ↔ ∃ items, Decodes text items := by
  simp only [verdictsOfText?_eq_some_iff, Decodes, ← exists_itemVerdict?_iff,
    ← exists_mapM_eq_some_iff]
  constructor
  · rintro ⟨verdicts, items, areItems, found, isFound, -⟩
    exact ⟨items, areItems, found, isFound⟩
  · rintro ⟨items, areItems, found, isFound⟩
    exact ⟨_, items, areItems, found, isFound, rfl⟩

/-- The outcomes of the items that are not empty, in order. -/
def outcomesOf (items : List (Nat × Written)) : List (Nat × Written) :=
  items.filterMap (outcome? View.ofWritten)

/-- The verdicts are what the items tell that are not empty, in order. -/
theorem exists_verdicts
    {text : String}
    {items : List (Nat × Written)}
    (decodes : Decodes text items)
    (oneAction : ∀ item ∈ items, HasOneAction View.ofWritten item) :
    ∃ verdicts, verdictsOfText? text = some verdicts ∧
      (outcomesOf items).Forall₂ (Tells View.ofWritten) verdicts := by
  obtain ⟨areItems, readable⟩ := decodes
  simp only [← exists_itemVerdict?_iff, ← exists_mapM_eq_some_iff] at readable
  obtain ⟨found, isFound⟩ := readable
  refine ⟨_, verdictsOfText?_eq_some_iff.mpr ⟨items, areItems, found, isFound, rfl⟩, ?_⟩
  have alike := (List.forall₂_and_left _ _).mpr ⟨oneAction, mapM_eq_some_iff.mp isFound⟩
  exact List.rel_filterMap (fun _ _ tells => tells) <|
    alike.imp fun item verdict both => tells_of_itemVerdict? both.1 both.2

theorem countP_isStored_eq
    {outcomes : List (Nat × Written)}
    {verdicts : List Verdict}
    (alike : outcomes.Forall₂ (Tells View.ofWritten) verdicts) :
    verdicts.countP Verdict.isStored = outcomes.countP (succeeds View.ofWritten) := by
  induction alike with
  | nil => rfl
  | cons tells _ inductionHypothesis =>
    rw [List.countP_cons, List.countP_cons, inductionHypothesis, tells.isStored_eq]

/-! ### Calls -/

/-- A part whose call of these documents ends so adds this to its account. -/
def IsCountedAs (chunk : List Entry) (outcome : Outcome (List Verdict)) (added : Tally) : Prop :=
  ∀ (writing : Bulk.Writing) (position : Nat) (part : Partition),
    writing.parts[position]? = some part → part.progress = .sending chunk →
      ∃ after next, writing.step (.answer position outcome) = some after ∧
        after.parts[position]? = some next ∧ next.tally = part.tally.add added

theorem isCountedAs_ofAnswer (chunk : List Entry) (outcome : Outcome (List Verdict)) :
    IsCountedAs chunk outcome (.ofAnswer chunk.length outcome) := by
  intro writing position part found sending
  refine ⟨writing.put position (part.receive chunk outcome),
    part.receive chunk outcome, ?_, ?_, rfl⟩
  · simp only [Bulk.Writing.step, found, Option.bind_eq_bind, Option.bind_some, sending,
      Bulk.Writing.update_eq_put found]
  · rw [Bulk.Writing.getElem?_put found, if_pos rfl]

theorem takeOff_eq
    {σ : Type}
    {store : Store}
    {network : CallNetwork σ}
    {state after : σ}
    {index : String}
    {chunk : List Entry}
    {answer : Answer}
    (sendable : (requestOfBulk store index chunk).isSendable = true)
    (answers : network state (requestOfBulk store index chunk) = (some answer, after)) :
    (sink store network).takeOff state index chunk =
      (⟨answer.duration, some (.answered (meaningOfBulk answer))⟩, after) := by
  simp only [sink, exchange, sendable, ↓reduceIte, answers, received]
  rfl

/-- **An answer to a bulk call is classified document by document.**  A status that is not 2xx, or a
body that cannot be read, fails the call as a whole.  Otherwise there is a verdict for each item
that is not empty, in order, and so many documents are stored as items are successes, but no more
than were sent; all others are not stored. -/
theorem bulk_answers_classified
    {σ : Type}
    {store : Store}
    {network : CallNetwork σ}
    {state after : σ}
    {index : String}
    {chunk : List Entry}
    {answer : Answer}
    (sendable : (requestOfBulk store index chunk).isSendable = true)
    (answers : network state (requestOfBulk store index chunk) = (some answer, after)) :
    ∃ outcome : Outcome (List Verdict),
      (sink store network).takeOff state index chunk =
        (⟨answer.duration, some (.answered outcome)⟩, after) ∧
      (∀ later, (sink store network).land later index chunk
        ⟨answer.duration, some (.answered outcome)⟩ = (.answered outcome, later)) ∧
      (¬(200 ≤ answer.status ∧ answer.status ≤ 299) ∨ (¬∃ items, Decodes answer.text items) →
        (∃ failure, outcome = .error failure) ∧
          IsCountedAs chunk outcome ⟨0, 0, chunk.length, 1⟩) ∧
      ∀ items, 200 ≤ answer.status ∧ answer.status ≤ 299 → Decodes answer.text items →
        (∀ item ∈ items, HasOneAction View.ofWritten item) →
        ∃ verdicts, outcome = .ok verdicts ∧
          (outcomesOf items).Forall₂ (fun outcome verdict => Tells View.ofWritten outcome verdict ∧
            verdict.isStored = succeeds View.ofWritten outcome) verdicts ∧
          IsCountedAs chunk outcome
            ⟨0, min chunk.length ((outcomesOf items).countP (succeeds View.ofWritten)),
              chunk.length -
                min chunk.length ((outcomesOf items).countP (succeeds View.ofWritten)), 0⟩ := by
  have counted := isCountedAs_ofAnswer chunk (meaningOfBulk answer)
  have isGood : Http.succeeds answer.status = true ↔ 200 ≤ answer.status ∧ answer.status ≤ 299 := by
    rw [Http.succeeds, Bool.and_eq_true, decide_eq_true_iff, decide_eq_true_iff, Nat.lt_succ_iff]
  refine ⟨_, takeOff_eq sendable answers, fun later => rfl, ?_, ?_⟩
  · intro isBad
    have fails : ∃ failure, meaningOfBulk answer = .error failure := by
      rw [meaningOfBulk]
      split
      · rename_i good
        have unreadable := isBad.resolve_left (not_not.mpr (isGood.mp good))
        rw [← exists_verdictsOfText?_iff, ← Option.isSome_iff_exists, Option.not_isSome_iff_eq_none]
          at unreadable
        exact ⟨_, by rw [unreadable]⟩
      · exact ⟨_, rfl⟩
    obtain ⟨failure, isError⟩ := fails
    rw [isError] at counted ⊢
    exact ⟨⟨failure, rfl⟩, counted⟩
  · intro items good decodes oneAction
    obtain ⟨verdicts, areVerdicts, alike⟩ := exists_verdicts decodes oneAction
    have isOk : meaningOfBulk answer = .ok verdicts := by
      rw [meaningOfBulk, if_pos (isGood.mpr good), areVerdicts]
    rw [isOk] at counted ⊢
    refine ⟨verdicts, rfl, alike.imp fun _ _ tells => ⟨tells, tells.isStored_eq⟩, ?_⟩
    rw [← countP_isStored_eq alike, Nat.min_comm, ← Tally.storedOf_eq]
    exact counted

/-- An answer to a call of three documents: the first one is stored, the second one is not although
its status is good, an empty item is passed over, and the third one is not mentioned. -/
def mixedAnswer : Answer where
  status := 200
  text := "\x7b\"items\":[\x7b\"index\":\x7b\"_id\":\"a\",\"status\":201,\"error\":null\x7d\x7d," ++
    "\x7b\x7d,\x7b\"index\":\x7b\"status\":200,\"error\":\"no\"\x7d\x7d]\x7d"
  duration := 7

/-- The items of the answer; 125 more containers may stand in each of them. -/
def mixedItems : List (Nat × Written) :=
  [(125, .object [(some "index", .object [(some "_id", .text (some "a")),
      (some "status", .number ⟨false, ['2', '0', '1'], [], none⟩), (some "error", .null)])]),
    (125, .object []),
    (125, .object [(some "index", .object [
      (some "status", .number ⟨false, ['2', '0', '0'], [], none⟩),
      (some "error", .text (some "no"))])])]

set_option maxRecDepth 20000 in
theorem decodes_mixedAnswer : Decodes mixedAnswer.text mixedItems := by
  refine ⟨⟨_, _, rfl, rfl, rfl⟩, fun item isItem => exists_itemVerdict?_iff.mp ?_⟩
  revert item
  exact exists_mapM_eq_some_iff.mp ⟨_, rfl⟩

theorem bulk_answers_classified_for_mixed_answer :
    let store := Store.at "http://localhost:9200"
    let chunk : List Entry := [⟨"a", "1"⟩, ⟨"b", "2"⟩, ⟨"c", "3"⟩]
    let network : CallNetwork Unit := fun state _ => (some mixedAnswer, state)
    (requestOfBulk store "index" chunk).isSendable = true ∧
      network () (requestOfBulk store "index" chunk) = (some mixedAnswer, ()) ∧
      Decodes mixedAnswer.text mixedItems ∧
      ∃ outcome, (sink store network).takeOff () "index" chunk =
          (⟨7, some (.answered outcome)⟩, ()) ∧
        IsCountedAs chunk outcome ⟨0, 1, 2, 0⟩ := by
  intro store chunk network
  have sendable : (requestOfBulk store "index" chunk).isSendable = true := by decide +kernel
  have answers : network () (requestOfBulk store "index" chunk) = (some mixedAnswer, ()) := rfl
  obtain ⟨outcome, takesOff, -, -, classified⟩ := bulk_answers_classified sendable answers
  have oneAction : ∀ item ∈ mixedItems, HasOneAction View.ofWritten item := by
    simp only [mixedItems, List.forall_mem_cons]
    exact ⟨.of_length_le_one rfl (by decide), .of_length_le_one rfl (by decide),
      .of_length_le_one rfl (by decide), nofun⟩
  obtain ⟨-, -, -, counted⟩ :=
    classified mixedItems (by decide) decodes_mixedAnswer oneAction
  exact ⟨sendable, answers, decodes_mixedAnswer, outcome, takesOff, counted⟩

end RepoVitals.Cluster
