import Tron.Documents.Operation
import Tron.Proofs.Marks

/-! # Documents after a run of operations

A document is followed if it was updated and then neither forgotten nor given up
with all others. Only its last update counts, and the documents stand in the order
of these updates. What was done with a document before has left nothing behind.
-/

namespace Tron

namespace Documents

namespace Operation

/-- Whether an earlier update of the document counts no longer. -/
def supersedes (uri : String) : Operation → Bool
  | .update named _ | .forget named => uri = named
  | .dispose => true
  | .get _ | .has _ | .query _ _ => false

/-- Whether an operation is about this document and no other. -/
def concerns (uri : String) : Operation → Bool
  | .update named _ | .forget named | .get named | .has named => uri = named
  | .query named _ => named = some uri
  | .dispose => false

def mark? : Operation → Option Mark
  | .update uri text => some (.read uri text)
  | .forget uri => some (.closed uri)
  | .dispose => some .ended
  | .get _ | .has _ | .query _ _ => none

theorem any_supersedes_mark? (uri : String) (op : Operation) :
    op.mark?.any (Mark.supersedes uri) = op.supersedes uri := by
  cases op <;> rfl

theorem eq_of_concerns {op : Operation} {uri other : String} (concerned : op.concerns uri = true)
    (superseded : op.supersedes other = true) : other = uri := by
  cases op with
  | update named | forget named =>
      simp only [concerns, supersedes, decide_eq_true_eq] at concerned superseded
      rw [superseded, concerned]
  | get | has | query => simp [supersedes] at superseded
  | dispose => simp [concerns] at concerned

end Operation

/-- At this place of a run a document is updated with a text, and nothing behind
    it updates the document again, forgets it or gives up all. -/
structure LastUpdate (ops : List Operation) (place : Nat) (uri : String) (text : Text) :
    Prop where
  updated : ops[place]? = some (.update uri text)
  kept : ∀ op ∈ ops.drop (place + 1), op.supersedes uri = false

/-- Both documents have a last update, and that of the first came earlier. -/
def UpdatedBefore (ops : List Operation) (first second : String) : Prop :=
  ∃ i j s t, LastUpdate ops i first s ∧ LastUpdate ops j second t ∧ i < j

/-- The documents that a run leaves, each with the text of its last update, in the
    order of these updates. -/
def standing (ops : List Operation) : List (String × Text) :=
  Mark.live (ops.filterMap Operation.mark?)

section LastUpdate

variable {ops : List Operation} {op : Operation} {place i j : Nat} {uri : String} {text : Text}

theorem lastUpdate_zero : LastUpdate (op :: ops) 0 uri text ↔
    op = .update uri text ∧ ∀ later ∈ ops, later.supersedes uri = false :=
  ⟨fun last => ⟨by simpa using last.updated, by simpa using last.kept⟩,
    fun here => ⟨by simpa using here.1, by simpa using here.2⟩⟩

theorem lastUpdate_succ : LastUpdate (op :: ops) (place + 1) uri text ↔
    LastUpdate ops place uri text :=
  ⟨fun last => ⟨by simpa using last.updated, by simpa using last.kept⟩,
    fun last => ⟨by simpa using last.updated, by simpa using last.kept⟩⟩

theorem exists_lastUpdate_cons : (∃ place, LastUpdate (op :: ops) place uri text) ↔
    (op = .update uri text ∧ ∀ later ∈ ops, later.supersedes uri = false) ∨
      ∃ place, LastUpdate ops place uri text := by
  constructor
  · rintro ⟨_ | place, last⟩
    · exact Or.inl (lastUpdate_zero.mp last)
    · exact Or.inr ⟨place, lastUpdate_succ.mp last⟩
  · rintro (here | ⟨place, last⟩)
    · exact ⟨0, lastUpdate_zero.mpr here⟩
    · exact ⟨place + 1, lastUpdate_succ.mpr last⟩

theorem any_supersedes (ops : List Operation) (uri : String) :
    (ops.filterMap Operation.mark?).any (Mark.supersedes uri) =
      ops.any (Operation.supersedes uri) := by
  induction ops with
  | nil => rfl
  | cons op ops ih =>
      rw [List.any_cons, ← Operation.any_supersedes_mark?, ← ih]
      cases marked : op.mark? <;> simp [marked]

theorem standing_update (ops : List Operation) (uri : String) (text : Text) :
    standing (.update uri text :: ops) =
      if ops.any (Operation.supersedes uri) then standing ops
      else (uri, text) :: standing ops := by
  have marked : (Operation.update uri text :: ops).filterMap Operation.mark? =
      .read uri text :: ops.filterMap Operation.mark? := rfl
  rw [standing, marked, Mark.live, any_supersedes]
  rfl

theorem standing_cons_of_not_update (ops : List Operation)
    (other : ∀ uri text, op ≠ .update uri text) : standing (op :: ops) = standing ops := by
  cases op with
  | update uri text => exact absurd rfl (other uri text)
  | get | has | query | forget | dispose => rfl

/-- The documents that stand are those with a last update. -/
theorem mem_standing_iff : (uri, text) ∈ standing ops ↔ ∃ place, LastUpdate ops place uri text := by
  induction ops with
  | nil =>
      have nowhere : ∀ place, ¬LastUpdate [] place uri text :=
        fun _ last => by simpa using last.updated
      simp [standing, Mark.live, nowhere]
  | cons op ops ih =>
      rw [exists_lastUpdate_cons, ← ih]
      cases op with
      | update named new =>
          rw [standing_update]
          by_cases again : ops.any (Operation.supersedes named) = true
          · rw [if_pos again, or_iff_right]
            rintro ⟨same, kept⟩
            cases same
            obtain ⟨later, member, newer⟩ := List.any_eq_true.mp again
            simp [kept later member] at newer
          · have kept : ∀ later ∈ ops, later.supersedes named = false := by simpa using again
            rw [if_neg again, List.mem_cons]
            refine or_congr_left ⟨?_, ?_⟩
            · intro same
              cases same
              exact ⟨rfl, kept⟩
            · rintro ⟨same, -⟩
              cases same
              rfl
      | get | has | query | forget | dispose =>
          rw [standing_cons_of_not_update ops (by simp)]
          simp

/-- No update of the document comes behind its last one. -/
theorem LastUpdate.place_le (last : LastUpdate ops i uri text) {other : Text}
    (updated : ops[j]? = some (.update uri other)) : j ≤ i := by
  by_contra later
  have member : Operation.update uri other ∈ ops.drop (i + 1) := by
    refine List.mem_iff_getElem?.mpr ⟨j - (i + 1), ?_⟩
    rw [List.getElem?_drop, Nat.add_sub_cancel' (by omega), updated]
  simpa [Operation.supersedes] using last.kept _ member

theorem LastUpdate.unique {other : Text} (last : LastUpdate ops i uri text)
    (last' : LastUpdate ops j uri other) : i = j ∧ text = other := by
  obtain rfl : i = j :=
    Nat.le_antisymm (last'.place_le last.updated) (last.place_le last'.updated)
  have same := last.updated.symm.trans last'.updated
  simp only [Option.some.injEq, Operation.update.injEq, true_and] at same
  exact ⟨rfl, same⟩

theorem lastUpdate_append_singleton (other : ∀ uri text, op ≠ .update uri text) :
    LastUpdate (ops ++ [op]) place uri text ↔
      LastUpdate ops place uri text ∧ op.supersedes uri = false := by
  have inside : (ops ++ [op])[place]? = some (.update uri text) ↔
      ops[place]? = some (.update uri text) := by
    rw [List.getElem?_append]
    split
    · exact Iff.rfl
    · next outside =>
        rw [List.getElem?_eq_none (by omega : ops.length ≤ place), List.getElem?_singleton]
        split <;> simp [other]
  have behind (updated : ops[place]? = some (.update uri text)) :
      (ops ++ [op]).drop (place + 1) = ops.drop (place + 1) ++ [op] := by
    obtain ⟨less, -⟩ := List.getElem?_eq_some_iff.mp updated
    exact List.drop_append_of_le_length less
  constructor
  · rintro ⟨updated, kept⟩
    rw [inside] at updated
    rw [behind updated] at kept
    exact ⟨⟨updated, fun op member => kept op (by simp [member])⟩, kept op (by simp)⟩
  · rintro ⟨⟨updated, kept⟩, stays⟩
    refine ⟨inside.mpr updated, ?_⟩
    rw [behind updated]
    simpa [or_imp, forall_and] using ⟨kept, stays⟩

theorem UpdatedBefore.cons {first second : String} (before : UpdatedBefore ops first second) :
    UpdatedBefore (op :: ops) first second := by
  obtain ⟨i, j, s, t, last, last', less⟩ := before
  exact ⟨i + 1, j + 1, s, t, lastUpdate_succ.mpr last, lastUpdate_succ.mpr last', by omega⟩

theorem standing_ordered (ops : List Operation) :
    ((standing ops).map Prod.fst).Pairwise (UpdatedBefore ops) := by
  induction ops with
  | nil => exact List.Pairwise.nil
  | cons op ops ih =>
      have shifted : ((standing ops).map Prod.fst).Pairwise (UpdatedBefore (op :: ops)) :=
        ih.imp UpdatedBefore.cons
      cases op with
      | update uri text =>
          rw [standing_update]
          split
          · exact shifted
          · next again =>
              have last : LastUpdate (.update uri text :: ops) 0 uri text :=
                lastUpdate_zero.mpr ⟨rfl, by simpa using again⟩
              rw [List.map_cons, List.pairwise_cons]
              refine ⟨fun other member => ?_, shifted⟩
              obtain ⟨⟨_, t⟩, stands, rfl⟩ := List.mem_map.mp member
              obtain ⟨place, later⟩ := mem_standing_iff.mp stands
              exact ⟨0, place + 1, text, t, last, lastUpdate_succ.mpr later, by omega⟩
      | get | has | query | forget | dispose =>
          rw [standing_cons_of_not_update ops (by simp)]
          exact shifted

end LastUpdate

section Struck

variable {op : Operation} {later : List Operation}

/-- An operation leaves nothing behind if later ones supersede all that it does. -/
theorem standing_strike (earlier : List Operation)
    (covered : ∀ uri, op.supersedes uri = true →
      later.any (Operation.supersedes uri) = true) :
    standing (earlier ++ op :: later) = standing (earlier ++ later) := by
  cases marked : op.mark? with
  | none => simp [standing, marked]
  | some mark =>
      have covered' : ∀ uri, mark.supersedes uri = true →
          (later.filterMap Operation.mark?).any (Mark.supersedes uri) = true := by
        intro uri superseded
        rw [any_supersedes]
        exact covered uri (by rw [← op.any_supersedes_mark?, marked]; exact superseded)
      have struck := Mark.live_strike (earlier.filterMap Operation.mark?) covered'
      simpa [standing, marked] using struck

/-- Nothing done with a document counts before it is updated, forgotten or given up. -/
theorem standing_filter_concerns (before earlier : List Operation) (later : List Operation)
    {uri : String} (superseded : op.supersedes uri = true) :
    standing (before ++ (earlier ++ op :: later)) =
      standing (before ++ (earlier.filter (fun e => !e.concerns uri) ++ op :: later)) := by
  induction earlier generalizing before with
  | nil => rfl
  | cons first earlier ih =>
      by_cases concerned : first.concerns uri = true
      · have covered : ∀ other, first.supersedes other = true →
            (earlier ++ op :: later).any (Operation.supersedes other) = true := by
          intro other struck
          obtain rfl := Operation.eq_of_concerns concerned struck
          simp [superseded]
        rw [List.cons_append, standing_strike before covered, ih before,
          List.filter_cons_of_neg (by simp [concerned])]
      · simpa [concerned] using ih (before ++ [first])

end Struck

theorem standing_append_singleton (ops : List Operation) (op : Operation) :
    standing (ops ++ [op]) =
      Mark.live (ops.filterMap Operation.mark? ++ op.mark?.toList) := by
  cases marked : op.mark? <;> simp [standing, marked]

theorem after_append_singleton (d : Documents) (ops : List Operation) (op : Operation) :
    d.after (ops ++ [op]) = ((d.after ops).perform op).documents :=
  List.foldl_append

/-- The documents after a run are those that stand. -/
theorem entries_after (ops : List Operation) :
    (after ∅ ops).tracked.entries =
      (standing ops).map fun d => (d.1, TrackedDocument.ofText d.1 d.2) := by
  induction ops using List.reverseRecOn with
  | nil => rfl
  | append_singleton ops op ih =>
      rw [after_append_singleton, standing_append_singleton]
      cases op with
      | update uri text => exact entries_update_of_live uri text ih
      | forget uri => exact entries_forget_of_live uri ih
      | dispose =>
          rw [Operation.mark?, Option.toList_some, Mark.live_ended]
          rfl
      | get | has | query =>
          rw [Operation.mark?, Option.toList_none, List.append_nil]
          exact ih

theorem uris_after (ops : List Operation) : (after ∅ ops).uris = (standing ops).map Prod.fst := by
  simp [uris, Table.keys, entries_after]

theorem after_eq_of_standing {ops ops' : List Operation} (same : standing ops = standing ops') :
    after ∅ ops = after ∅ ops' := by
  have entries : (after ∅ ops).tracked.entries = (after ∅ ops').tracked.entries := by
    rw [entries_after, entries_after, same]
  exact congrArg Documents.mk (Table.ext entries)

theorem get?_update (d : Documents) (uri : String) (text : Text) :
    (d.update uri text).get? uri = some ⟨uri, .ofText text⟩ := by
  simp [get?, update, Table.get?_insert]

theorem contains_iff (d : Documents) (uri : String) : d.contains uri = true ↔ uri ∈ d.uris :=
  List.contains_iff_mem

theorem after_dispose (earlier later : List Operation) :
    after ∅ (earlier ++ .dispose :: later) = after ∅ later := by
  simp [after, perform]

/-- The documents are those with a last update in the run, in the order of these
    updates, and each holds what its last text declares. -/
structure Reflects (d : Documents) (ops : List Operation) : Prop where
  tracked : ∀ uri document, (uri, document) ∈ d.tracked.entries ↔
    ∃ place text, LastUpdate ops place uri text ∧ document = ⟨uri, .ofText text⟩
  distinct : d.uris.Nodup
  ordered : d.uris.Pairwise (UpdatedBefore ops)
  size : d.size = d.uris.length

/-- After every run the documents are what the last updates in it say, and the
    answers agree with them. Looking does not change them. What was done with a
    document before it was updated, forgotten or given up leaves nothing behind, in
    what the documents hold and in their order, and nothing at all survives giving
    up all. -/
theorem documents_after_operations (ops : List Operation) :
    let d := after ∅ ops
    d.Reflects ops ∧
    (∀ uri, ∃ isKnown, d.perform (.has uri) = ⟨d, .known isKnown⟩ ∧
      (isKnown = true ↔ uri ∈ d.uris)) ∧
    (∀ uri, ∃ found, d.perform (.get uri) = ⟨d, .document found⟩ ∧
      ∀ document, found = some document ↔ (uri, document) ∈ d.tracked.entries) ∧
    (∀ uri isShared, (d.perform (.query uri isShared)).documents = d) ∧
    (∀ uri text, ∃ found, (d.perform (.update uri text)).answer = .declarations found ∧
      found = .ofText text ∧
      (d.perform (.update uri text)).documents.get? uri = some ⟨uri, found⟩) ∧
    (∀ earlier op later uri, ops = earlier ++ op :: later → op.supersedes uri = true →
      d = after ∅ (earlier.filter (fun e => !e.concerns uri) ++ op :: later)) ∧
    ∀ earlier later, ops = earlier ++ .dispose :: later → d = after ∅ later := by
  intro d
  refine ⟨?_, fun uri => ?_, fun uri => ?_, fun _ _ => rfl, fun uri text => ?_, ?_, ?_⟩
  · constructor
    case tracked =>
      intro uri document
      rw [entries_after, List.mem_map]
      constructor
      · rintro ⟨⟨_, text⟩, stands, same⟩
        cases same
        obtain ⟨place, last⟩ := mem_standing_iff.mp stands
        exact ⟨place, text, last, rfl⟩
      · rintro ⟨place, text, last, rfl⟩
        exact ⟨(uri, text), mem_standing_iff.mpr ⟨place, last⟩, rfl⟩
    case distinct => exact d.tracked.keys_nodup
    case ordered =>
      rw [uris_after]
      exact standing_ordered ops
    case size => simp [size, Table.size, uris, Table.keys]
  · exact ⟨d.contains uri, rfl, d.contains_iff uri⟩
  · exact ⟨d.get? uri, rfl, fun _ => Table.get?_eq_some_iff⟩
  · exact ⟨.ofText text, rfl, rfl, get?_update d uri text⟩
  · rintro earlier op later uri rfl superseded
    exact after_eq_of_standing (standing_filter_concerns [] earlier later superseded)
  · rintro earlier later rfl
    exact after_dispose earlier later

/-- One document is updated twice, and another is forgotten and comes back. -/
def reopened : List Operation :=
  [.update "a" "let x : t = 1;".toList, .update "b" [], .get "a", .forget "b",
    .update "a" "let y : t = 2;".toList, .update "b" "fn f() : t \x7b\x7d".toList]

theorem documents_after_reopened :
    (after ∅ reopened).uris = ["a", "b"] ∧
    after ∅ reopened = after ∅ [.update "b" [], .forget "b",
      .update "a" "let y : t = 2;".toList, .update "b" "fn f() : t \x7b\x7d".toList] ∧
    after ∅ (reopened ++ [.dispose, .update "c" []]) = after ∅ [.update "c" []] := by
  refine ⟨by decide, ?_, ?_⟩
  · obtain ⟨-, -, -, -, -, struck, -⟩ := documents_after_operations reopened
    exact struck [.update "a" _, .update "b" [], .get "a", .forget "b"] _ _ "a" rfl rfl
  · obtain ⟨-, -, -, -, -, -, ended⟩ :=
      documents_after_operations (reopened ++ [.dispose, .update "c" []])
    exact ended reopened _ rfl

end Documents

end Tron
