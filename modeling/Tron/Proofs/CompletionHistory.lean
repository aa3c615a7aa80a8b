import Tron.Proofs.History
import Tron.Proofs.TableInsertion

/-! # Completion from the history alone

What a session offers at a document is decided by the steps taken so far: by the
last text read of each document that is still followed, by the order of these
readings, and by the last settings. What was read before, could not be read, or
belonged to a closed document plays no part.
-/

namespace Tron

namespace History

theorem textOf?_eq_some_iff {steps : List Step} {uri : String} {text : Text} :
    textOf? steps uri = some text ↔ (uri, text) ∈ live steps :=
  Table.lookup_eq_some_iff (Mark.live_keys_nodup _)

/-- The declarations that are visible from a document with a text. -/
inductive Sees (steps : List Step) (uri : String) (text : Text) : Declarations → Prop where
  /-- Those of all followed documents are inserted, one document after another in the
      order of the last readings. -/
  | shared {d : Declarations} : (preferences steps).sharedCompletion = true →
      d.variableTable.InsertedFrom
        ((live steps).flatMap fun m => (Declarations.ofText m.2).variableTable.entries) →
      d.functionTable.InsertedFrom
        ((live steps).flatMap fun m => (Declarations.ofText m.2).functionTable.entries) →
      Sees steps uri text d
  | own : (preferences steps).sharedCompletion = false → uri ≠ "" →
      Sees steps uri text (.ofText text)
  /-- No document is asked for by the empty URI. -/
  | nameless : (preferences steps).sharedCompletion = false → uri = "" → Sees steps uri text ∅

/-- The list that is offered at a document: nothing if it is not followed, else
    the words of the language, the variables, and each function with its
    parameters. -/
inductive Offers (steps : List Step) (uri : String) : List CompletionItem → Prop where
  | unknown : textOf? steps uri = none → Offers steps uri []
  | known {text : Text} {d : Declarations} : textOf? steps uri = some text →
      Sees steps uri text d →
      Offers steps uri
        (keywords.map (fun word => ⟨word.toList, .forKeyword, none⟩) ++
          (d.variableTable.entries.map fun e => ⟨e.1, .forVariable, some e.2.rawText⟩) ++
          d.functionTable.entries.flatMap fun e =>
            ⟨e.1, .forFunction, some e.2.rawText⟩ ::
              e.2.parameters.map fun p => ⟨p.name, .forVariable, none⟩)

variable {steps : List Step} {uri : String}

theorem Sees.unique {text : Text} {d e : Declarations} (first : Sees steps uri text d)
    (second : Sees steps uri text e) : d = e := by
  cases first with
  | shared on variableEntries functionEntries =>
      cases second with
      | shared _ variableEntries' functionEntries' =>
          cases d
          cases e
          congr
          · exact variableEntries.eq_ofList.trans variableEntries'.eq_ofList.symm
          · exact functionEntries.eq_ofList.trans functionEntries'.eq_ofList.symm
      | own off => simp [on] at off
      | nameless off => simp [on] at off
  | own off named =>
      cases second with
      | shared on => simp [on] at off
      | own => rfl
      | nameless _ empty => exact absurd empty named
  | nameless off empty =>
      cases second with
      | shared on => simp [on] at off
      | own _ named => exact absurd empty named
      | nameless => rfl

theorem Offers.unique {items others : List CompletionItem} (first : Offers steps uri items)
    (second : Offers steps uri others) : items = others := by
  cases first with
  | unknown closed =>
      cases second with
      | unknown => rfl
      | known followed => simp [closed] at followed
  | known followed sees =>
      cases second with
      | unknown closed => simp [closed] at followed
      | known followed' sees' =>
          obtain rfl := Option.some.inj (followed.symm.trans followed')
          rw [sees.unique sees']

end History

namespace Session

variable {s : Session} {steps : List Step}

namespace Follows

variable {marks : List Mark}

theorem get? (follows : s.Follows marks) (uri : String) :
    s.documents.get? uri =
      (((Mark.live marks).find? fun d => d.1 = uri).map Prod.snd).map
        (TrackedDocument.ofText uri) := by
  simp only [Documents.get?, Table.get?, follows.tracked, List.find?_map, Function.comp_def]
  cases found : (Mark.live marks).find? fun d => d.1 = uri with
  | none => rfl
  | some d =>
      have same : d.1 = uri := by simpa using List.find?_some found
      simp [same]

theorem isOpen_iff (follows : s.Follows marks) (uri : String) :
    s.isOpen uri = (((Mark.live marks).find? fun d => d.1 = uri).map Prod.snd).isSome := by
  rw [Bool.eq_iff_iff, isOpen, List.contains_iff_mem, follows.opened]
  simp

theorem shared (follows : s.Follows marks) :
    s.documents.shared = .joined ((Mark.live marks).map fun d => .ofText d.2) :=
  Documents.shared_of_live follows.tracked

end Follows

theorem sees_visible (reflects : s.Reflects steps) {uri : String} {text : Text}
    (followed : History.textOf? steps uri = some text) :
    History.Sees steps uri text
      (s.documents.visible (some uri) s.preferences.sharedCompletion) := by
  rw [reflects.preferences]
  cases mode : (History.preferences steps).sharedCompletion with
  | true =>
      have merged : s.documents.visible (some uri) true =
          .joined ((History.live steps).map fun m => .ofText m.2) := reflects.follows.shared
      rw [merged, Declarations.joined, List.flatMap_map, List.flatMap_map]
      exact .shared mode (Table.insertedFrom_ofList _) (Table.insertedFrom_ofList _)
  | false =>
      have lookup : s.documents.get? uri = some (.ofText uri text) := by
        rw [reflects.follows.get?, ← History.live, ← History.textOf?, followed]
        rfl
      by_cases empty : uri = ""
      · have none_seen : s.documents.visible (some uri) false = ∅ := by
          simp [Documents.visible, Documents.own, empty]
        rw [none_seen]
        exact .nameless mode empty
      · have own_seen : s.documents.visible (some uri) false = .ofText text := by
          simp [Documents.visible, Documents.own, empty, lookup, TrackedDocument.ofText]
        rw [own_seen]
        exact .own mode empty

theorem offers_complete (reflects : s.Reflects steps) (uri : String) :
    History.Offers steps uri (s.complete uri).1 := by
  have isOpen : s.isOpen uri = (History.textOf? steps uri).isSome :=
    reflects.follows.isOpen_iff uri
  rw [complete, isOpen]
  cases followed : History.textOf? steps uri with
  | none => exact .unknown followed
  | some text =>
      have list := History.Offers.known followed (sees_visible reflects followed)
      rw [List.append_assoc] at list
      exact list

/-- In a run, the reply to a step is the one the session gives after the steps
    before it. -/
theorem replies_getElem? (s : Session) (earlier : List Step) (step : Step) (later : List Step) :
    (s.replies (earlier ++ step :: later))[earlier.length]? =
      some ((s.after earlier).step step) := by
  induction earlier generalizing s with
  | nil => rfl
  | cons first earlier ih =>
      simpa only [List.cons_append, replies, List.length_cons, List.getElem?_cons_succ,
        after, List.foldl_cons] using ih (s.step first).session

/-- Whenever a run asks for completion, the answer is the one list that the steps
    before it determine. The text that counts for a document is the one of a
    reading after which it was not read again, closed or given up. -/
theorem completion_from_history (earlier : List Step) (uri : String) (later : List Step) :
    (∃! items, History.Offers earlier uri items) ∧
    (∀ items, ((Session.replies {} (earlier ++ .complete uri :: later))[earlier.length]?).map
        (·.answer) = some (.completions items) ↔ History.Offers earlier uri items) ∧
    ∀ text, History.textOf? earlier uri = some text ↔
      ∃ before after, History.marksFrom [] earlier = before ++ .read uri text :: after ∧
        ∀ mark ∈ after, mark.supersedes uri = false := by
  have offered := offers_complete (reflects_after earlier) uri
  refine ⟨⟨_, offered, fun other offers => offers.unique offered⟩, ?_, ?_⟩
  · intro items
    have answered : ((Session.replies {} (earlier ++ .complete uri :: later))[earlier.length]?).map
        (·.answer) = some (.completions ((Session.after {} earlier).complete uri).1) := by
      rw [replies_getElem?]
      rfl
    rw [answered]
    constructor
    · intro same
      cases same
      exact offered
    · intro offers
      rw [offered.unique offers]
  · intro text
    rw [History.textOf?_eq_some_iff, History.live, Mark.mem_live_iff]

/-- Two documents declare a name, and the one opened first is read again. -/
def retracked : List Step :=
  [.openDocument "a" (.ok "let x:t=1;".toList),
    .openDocument "b" (.ok "let x:u=2; fn f(p:v, q : w):u\x7b\x7d".toList),
    .change "a" (.ok "let y:t=3;let x:t=4;".toList), .change "b" (.error ⟨"file is locked"⟩)]

/-- Completion is not shared any more. -/
def unshare : Step :=
  .configure (some (.group [("completion", .group [("crossDocument", .bool false)])]))

/-- The items of the language's words. -/
def wordItems : List CompletionItem :=
  ["break", "else if", "else", "false", "for", "fn", "if", "use", "null", "true", "let",
    "while", "case", "default", "switch", "number", "string"].map fun word =>
      ⟨word.toList, ⟨14⟩, none⟩

/-- What is offered at either document while completion is shared: the name that both
    declare stands where the document behind declares it, as the last reading has it. -/
def sharedItems : List CompletionItem :=
  wordItems ++
    [⟨['x'], ⟨6⟩, some "let x:t=4;".toList⟩, ⟨['y'], ⟨6⟩, some "let y:t=3;".toList⟩,
      ⟨['f'], ⟨3⟩, some "fn f(p:v, q : w):u\x7b\x7d".toList⟩, ⟨['p'], ⟨6⟩, none⟩,
      ⟨['q'], ⟨6⟩, none⟩]

/-- What is offered at the document opened last while it is not. -/
def ownItems : List CompletionItem :=
  wordItems ++
    [⟨['x'], ⟨6⟩, some "let x:u=2;".toList⟩,
      ⟨['f'], ⟨3⟩, some "fn f(p:v, q : w):u\x7b\x7d".toList⟩, ⟨['p'], ⟨6⟩, none⟩,
      ⟨['q'], ⟨6⟩, none⟩]

theorem completion_from_history_retracked :
    let answers := fun steps => (Session.replies {} steps).map (·.answer)
    (answers (retracked ++ [.complete "b"]))[4]? = some (.completions sharedItems) ∧
    History.Offers retracked "b" sharedItems ∧
    (answers (retracked ++ [unshare, .complete "b"]))[5]? = some (.completions ownItems) ∧
    History.Offers (retracked ++ [unshare]) "b" ownItems ∧
    History.Offers (retracked ++ [.close "b"]) "b" [] := by
  intro answers
  have shared : (answers (retracked ++ [.complete "b"]))[4]? = some (.completions sharedItems) :=
    rfl
  have own : (answers (retracked ++ [unshare, .complete "b"]))[5]? =
      some (.completions ownItems) := rfl
  obtain ⟨-, offers, -⟩ := completion_from_history retracked "b" []
  obtain ⟨-, offers', -⟩ := completion_from_history (retracked ++ [unshare]) "b" []
  obtain ⟨-, offers'', -⟩ := completion_from_history (retracked ++ [.close "b"]) "b" []
  exact ⟨shared, (offers _).mp rfl, own, (offers' _).mp rfl, (offers'' _).mp rfl⟩

end Session

end Tron
