import Tron.Proofs.DocumentOrder

/-! # Marks

What is read, closed and given up in the course of time decides which documents
are followed, with which text, and in which order. This module reads that off the
marks alone, and shows that the table of documents holds just this.
-/

namespace Tron

/-- What happens to the documents that are followed. -/
inductive Mark where
  /-- A document could be read, and this is its text. -/
  | read (uri : String) (text : Text)
  | closed (uri : String)
  /-- All documents were given up. -/
  | ended
  deriving Repr, DecidableEq

namespace Mark

/-- Whether an earlier reading of the document counts no longer. -/
def supersedes (uri : String) : Mark → Bool
  | .read named _ | .closed named => uri = named
  | .ended => true

def document? : Mark → Option (String × Text)
  | .read uri text => some (uri, text)
  | _ => none

/-- The documents that are followed, each with the text of its last reading, in
    the order of these readings. A reading counts until its document is read
    again or closed, or all documents are given up. -/
def live : List Mark → List (String × Text)
  | [] => []
  | .read uri text :: later =>
      if later.any (supersedes uri) then live later else (uri, text) :: live later
  | _ :: later => live later

/-- Later marks take out what they supersede and add their own documents. -/
theorem live_append (earlier later : List Mark) :
    live (earlier ++ later) =
      (live earlier).filter (fun d => !later.any (supersedes d.1)) ++ live later := by
  induction earlier with
  | nil => rfl
  | cons first earlier ih =>
      cases first with
      | closed uri => simpa only [List.cons_append, live] using ih
      | ended => simpa only [List.cons_append, live] using ih
      | read uri text =>
          simp only [List.cons_append, live, List.any_append, ih]
          by_cases again : earlier.any (supersedes uri) = true
          · simp [again]
          · by_cases now : later.any (supersedes uri) = true <;> simp [again, now]

/-- One more mark takes out what it supersedes and adds its own document last. -/
theorem live_append_singleton (marks : List Mark) (mark : Mark) :
    live (marks ++ [mark]) =
      (live marks).filter (fun d => !mark.supersedes d.1) ++ mark.document?.toList := by
  have added : live [mark] = mark.document?.toList := by cases mark <;> rfl
  simp [live_append, added]

theorem live_ended (earlier later : List Mark) :
    live (earlier ++ .ended :: later) = live later := by
  simp [live_append, live, supersedes]

/-- A mark that supersedes only what later marks supersede too can be struck out. -/
theorem live_strike (earlier : List Mark) {mark : Mark} {later : List Mark}
    (covered : ∀ uri, mark.supersedes uri = true → later.any (supersedes uri) = true) :
    live (earlier ++ mark :: later) = live (earlier ++ later) := by
  have behind : live (mark :: later) = live later := by
    cases mark with
    | closed | ended => rfl
    | read uri text => simp only [live, covered uri (by simp [supersedes]), if_true]
  have before : ∀ uri, (mark :: later).any (supersedes uri) = later.any (supersedes uri) := by
    intro uri
    by_cases struck : mark.supersedes uri = true <;> simp [struck, covered uri]
  simp only [live_append, behind, before]

/-- A document is followed with a text exactly if some reading gave that text and
    nothing after it supersedes the reading. -/
theorem mem_live_iff {marks : List Mark} {uri : String} {text : Text} :
    (uri, text) ∈ live marks ↔ ∃ before after,
      marks = before ++ .read uri text :: after ∧
        ∀ mark ∈ after, mark.supersedes uri = false := by
  induction marks using List.reverseRecOn with
  | nil => simp [live]
  | append_singleton marks mark ih =>
      simp only [live_append_singleton, List.mem_append, List.mem_filter, ih, Option.mem_toList]
      constructor
      · rintro (⟨⟨before, after, rfl, kept⟩, stays⟩ | added)
        · refine ⟨before, after ++ [mark], by simp, ?_⟩
          simpa [or_imp, forall_and] using ⟨kept, by simpa using stays⟩
        · cases mark <;> simp only [document?, reduceCtorEq, Option.some.injEq,
            Prod.mk.injEq] at added
          obtain ⟨rfl, rfl⟩ := added
          exact ⟨marks, [], rfl, by simp⟩
      · rintro ⟨before, after, split, kept⟩
        rcases List.eq_nil_or_concat after with rfl | ⟨earlier, last, rfl⟩
        · obtain ⟨rfl, rfl⟩ := by simpa using split
          exact Or.inr (by simp [document?])
        · have joined : marks ++ [mark] = (before ++ .read uri text :: earlier) ++ [last] := by
            simpa using split
          obtain ⟨rfl, same⟩ := List.append_inj' joined rfl
          obtain rfl : mark = last := by simpa using same
          exact Or.inl ⟨⟨before, earlier, rfl, fun m member => kept m (by simp [member])⟩,
            by simp [kept mark (by simp)]⟩

theorem live_keys_nodup (marks : List Mark) : ((live marks).map Prod.fst).Nodup := by
  induction marks using List.reverseRecOn with
  | nil => exact List.nodup_nil
  | append_singleton marks mark ih =>
      rw [live_append_singleton, List.map_append]
      have kept : (((live marks).filter fun d => !mark.supersedes d.1).map Prod.fst).Nodup :=
        (List.filter_sublist.map _).nodup ih
      cases mark with
      | closed | ended => simpa [document?] using kept
      | read uri text =>
          refine List.nodup_append.mpr ⟨kept, by simp [document?], ?_⟩
          -- a new reading supersedes the old one, so its key is not among those kept
          simp only [List.mem_map, List.mem_filter, supersedes]
          rintro _ ⟨d, ⟨-, other⟩, rfl⟩ _ ⟨e, added, rfl⟩
          simp only [document?, Option.toList_some, List.mem_singleton] at added
          subst added
          simpa using other

end Mark

def TrackedDocument.ofText (uri : String) (text : Text) : TrackedDocument := ⟨uri, .ofText text⟩

namespace Documents

variable {d : Documents} {marks : List Mark}

theorem entries_update_of_live (uri : String) (text : Text)
    (holds : d.tracked.entries =
      (Mark.live marks).map fun m => (m.1, TrackedDocument.ofText m.1 m.2)) :
    (d.update uri text).tracked.entries =
      (Mark.live (marks ++ [.read uri text])).map
        fun m => (m.1, TrackedDocument.ofText m.1 m.2) := by
  simp [entries_update, holds, Mark.live_append_singleton, Mark.supersedes, Mark.document?,
    List.filter_map, Function.comp_def, TrackedDocument.ofText]

theorem entries_forget_of_live (uri : String)
    (holds : d.tracked.entries =
      (Mark.live marks).map fun m => (m.1, TrackedDocument.ofText m.1 m.2)) :
    (d.forget uri).tracked.entries =
      (Mark.live (marks ++ [.closed uri])).map
        fun m => (m.1, TrackedDocument.ofText m.1 m.2) := by
  simp [entries_forget, holds, Mark.live_append_singleton, Mark.supersedes, Mark.document?,
    List.filter_map, Function.comp_def]

theorem shared_of_live
    (holds : d.tracked.entries =
      (Mark.live marks).map fun m => (m.1, TrackedDocument.ofText m.1 m.2)) :
    d.shared = .joined ((Mark.live marks).map fun m => .ofText m.2) := by
  simp [shared_eq_joined, Table.values, holds, Function.comp_def, TrackedDocument.ofText]

end Documents

end Tron
