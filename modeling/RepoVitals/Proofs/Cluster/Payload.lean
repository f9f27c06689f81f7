import Mathlib.Data.List.Basic
import RepoVitals.Cluster.Payload
import RepoVitals.Proofs.Json.Reading
/-!
Bulk payloads and their lines.

Owns:
- text in lines that end in a line feed, split at the line feeds and read line by line;
- what an action line is read as;
- `payload_reads_back`: the payload of documents of any content has two lines for each of them and
  reads back as the same documents in the same order.
-/

namespace RepoVitals.Cluster

open Json (Value)

/-! ### Lines -/

section Lines

variable {lines : List (List Char)} (plain : ∀ line ∈ lines, '\n' ∉ line)
include plain

theorem splitOn_lines :
    (lines.flatMap (fun line => line ++ ['\n'])).splitOn '\n' = lines ++ [[]] := by
  have joined : lines.flatMap (fun line => line ++ ['\n']) =
      ['\n'].intercalate (lines ++ [[]]) := by
    clear plain
    induction lines with
    | nil => rfl
    | cons line rest inductionHypothesis =>
      rw [List.flatMap_cons, inductionHypothesis, List.cons_append,
        List.intercalate_cons_of_ne_nil (by simp)]
  rw [joined]
  apply List.splitOn_intercalate
  · intro line member
    rcases List.mem_append.mp member with old | last
    · exact plain line old
    · rw [List.mem_singleton.mp last]
      exact List.not_mem_nil
  · simp

theorem linesFrom?_lines :
    linesFrom? [] (lines.flatMap (fun line => line ++ ['\n'])) = some lines := by
  -- What has been read of a line is put in front of the rest of it.
  have whole : ∀ (line reversed rest : List Char), '\n' ∉ line →
      linesFrom? reversed (line ++ '\n' :: rest) =
        (linesFrom? [] rest).map ((reversed.reverse ++ line) :: ·) := by
    intro line
    induction line with
    | nil =>
      intro reversed rest _
      rw [List.nil_append, linesFrom?, if_pos rfl, List.append_nil]
    | cons letter line inductionHypothesis =>
      intro reversed rest noBreak
      have notLetter : letter ≠ '\n' := fun same => noBreak (same ▸ List.mem_cons_self)
      have notLine : '\n' ∉ line := fun member => noBreak (List.mem_cons_of_mem _ member)
      rw [List.cons_append, linesFrom?, if_neg notLetter, inductionHypothesis _ _ notLine,
        List.reverse_cons, List.append_assoc]
      rfl
  induction lines with
  | nil => rfl
  | cons line rest inductionHypothesis =>
    have tail := inductionHypothesis (fun other member =>
      plain other (List.mem_cons_of_mem _ member))
    rw [List.flatMap_cons, List.append_assoc]
    show linesFrom? [] (line ++ '\n' :: rest.flatMap (fun line => line ++ ['\n'])) = _
    rw [whole line [] _ (plain line List.mem_cons_self), tail]
    rfl

end Lines

/-! ### Action lines -/

theorem id_lt_index : "_id" < "_index" := by decide

theorem action_eq (index id : String) :
    action index id =
      .object [("index", .object [("_id", .text id), ("_index", .text index)])] := by
  have named : Value.ofFields [("_index", .text index), ("_id", .text id)] =
      .object [("_id", .text id), ("_index", .text index)] := by
    rw [Value.ofFields, List.foldl_cons, List.foldl_cons, List.foldl_nil, insertEntry, insertEntry,
      if_pos id_lt_index]
  rw [action, named]
  exact Value.ofFields_of_ascending (List.pairwise_singleton _ _)

/-- An action line is read as the action, whatever characters the index and the id have. -/
theorem ofText?_action (index id : String) :
    Value.ofText? (String.ofList (action index id).render) = some (action index id) := by
  have named : Value.ofFields [("_id", .text id), ("_index", .text index)] =
      .object [("_id", .text id), ("_index", .text index)] :=
    Value.ofFields_of_ascending (List.pairwise_pair.mpr id_lt_index)
  show Value.ofText? (action index id).toText = _
  rw [Value.ofText?, Json.Written.ofText?_toText, action_eq]
  show some (Value.ofFields [("index", .ofFields [("_id", .text id), ("_index", .text index)])]) = _
  rw [named, Value.ofFields_of_ascending (List.pairwise_singleton _ _)]

theorem addressee?_action (index id : String) :
    addressee? (action index id).render = some (index, id) := by
  rw [addressee?, ofText?_action, action_eq]
  rfl

/-! ### Payloads -/

theorem documentsOfLines?_lines (index : String) (entries : List Entry) :
    documentsOfLines? (entries.flatMap (documentLines index)) =
      some (entries.map (fun entry => (index, entry))) := by
  induction entries with
  | nil => rfl
  | cons entry rest inductionHypothesis =>
    rw [List.flatMap_cons]
    show documentsOfLines? ((action index entry.id).render :: entry.body.toList ::
      rest.flatMap (documentLines index)) = _
    rw [documentsOfLines?, addressee?_action, inductionHypothesis, String.ofList_toList]
    rfl

theorem newline_not_mem_body (document : Document) : '\n' ∉ document.body.toList := by
  rw [Document.body, Value.toText, String.toList_ofList]
  exact Json.newline_not_mem_render _

theorem newline_not_mem_documentLines
    {index : String}
    {entries : List Entry}
    (printed : ∀ entry ∈ entries, ∃ document : Document, entry.body = document.body) :
    ∀ line ∈ entries.flatMap (documentLines index), '\n' ∉ line := by
  intro line member
  obtain ⟨entry, isEntry, isLine⟩ := List.mem_flatMap.mp member
  rw [documentLines, List.mem_cons, List.mem_singleton] at isLine
  rcases isLine with isAction | isBody
  · rw [isAction]
    exact Json.newline_not_mem_render _
  · obtain ⟨document, isDocument⟩ := printed entry isEntry
    rw [isBody, isDocument]
    exact newline_not_mem_body document

/-- The payload of documents, of whatever characters their texts are made, splits at its line feeds
into two lines for each document, in order, and an empty rest.  The first line is read as the action
with the index and the id, the second is the body as it was, and so the payload reads back as the
index, id and body of each document. -/
theorem payload_reads_back
    (index : String)
    {entries : List Entry}
    (printed : ∀ entry ∈ entries, ∃ document : Document, entry.body = document.body) :
    (payload index entries).toList.splitOn '\n' =
        entries.flatMap (fun entry =>
          [(action index entry.id).render, entry.body.toList]) ++ [[]] ∧
      (∀ entry ∈ entries, Value.ofText? (String.ofList (action index entry.id).render) =
        some (.object [("index", .object [("_id", .text entry.id), ("_index", .text index)])])) ∧
      documentsOf? (payload index entries) = some (entries.map (fun entry => (index, entry))) := by
  have plain : ∀ line ∈ entries.flatMap (documentLines index), '\n' ∉ line :=
    newline_not_mem_documentLines printed
  have letters : (payload index entries).toList =
      (entries.flatMap (documentLines index)).flatMap (fun line => line ++ ['\n']) :=
    String.toList_ofList
  refine ⟨?_, ?_, ?_⟩
  · rw [letters, splitOn_lines plain]
    rfl
  · intro entry _
    rw [ofText?_action, action_eq]
  · rw [documentsOf?, letters, linesFrom?_lines plain]
    exact documentsOfLines?_lines index entries

/-- A label document in whose texts there are line feeds, quotes and backslashes. -/
def unruly : Document where
  origin := ⟨.day ⟨2025, 1, 7, by decide⟩, "now\n", "a\"b\\\n\x01"⟩
  report := .label "v1\n,\"" 2 3

theorem payload_of_unruly_reads_back :
    (∀ entry ∈ [unruly.entry, unruly.entry],
      ∃ document : Document, entry.body = document.body) ∧
      documentsOf? (payload "daily\n" [unruly.entry, unruly.entry]) =
        some [("daily\n", unruly.entry), ("daily\n", unruly.entry)] := by
  have printed : ∀ entry ∈ [unruly.entry, unruly.entry],
      ∃ document : Document, entry.body = document.body := by
    intro entry member
    have isUnruly : entry = unruly.entry := by simpa using member
    rw [isUnruly]
    exact ⟨unruly, Document.entry_body unruly⟩
  exact ⟨printed, (payload_reads_back "daily\n" printed).2.2⟩

end RepoVitals.Cluster
