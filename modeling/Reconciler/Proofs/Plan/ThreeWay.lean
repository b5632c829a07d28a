import Reconciler.Plan.Update
import Reconciler.Proofs.Document.Convergence
import Reconciler.Proofs.Document.Patch
import Reconciler.Proofs.Success

namespace Reconciler

/-!
# Three-way merges of objects

* `threeWay_eq_ok` — a merge succeeds on objects only;
* `threeWay_atPaths` — its result is the one document that is merged at every path;
* `threeWay_again` — merging again changes nothing;
* `threeWay_no_drift` — over what was applied last, the result is what is desired;
* `threeWay_comm` — independent patches may be merged in either order.
-/

/-- A three-way merge succeeds on objects only. -/
theorem threeWay_eq_ok {o l p d : Document} :
    threeWay o l p = .ok d ↔
      (∃ members, o = .obj members) ∧ (∃ members, p = .obj members) ∧ Document.merge o l p = d := by
  cases o <;> cases p <;> simp [threeWay]

/-- Two objects can be merged, whatever was applied last. -/
theorem threeWay_obj (observed : List (String × Document)) (l : Document)
    (desired : List (String × Document)) :
    threeWay (.obj observed) l (.obj desired) =
      .ok (Document.merge (.obj observed) l (.obj desired)) := rfl

/-! ### The merged document -/

/-- A merge fails only where the observed or the desired document is no object.  Its result
    is told by its objects: it is the one document in which, at every path of keys at which
    both hold objects, the members are merged from theirs. -/
theorem threeWay_atPaths (o l d : Document) (ho : o.WellFormed) (hd : d.WellFormed) :
    ((∃ m, threeWay o l d = .ok m) ↔ o.kind = .object ∧ d.kind = .object) ∧
      ∀ m, threeWay o l d = .ok m ↔
        (o.kind = .object ∧ d.kind = .object) ∧ m.WellFormed ∧ Document.MergedAtPaths o l d m := by
  have hok : ∀ m, threeWay o l d = .ok m ↔
      (o.kind = .object ∧ d.kind = .object) ∧ Document.merge o l d = m := by
    intro m
    rw [threeWay_eq_ok, Document.kind_eq_object_iff, Document.kind_eq_object_iff, and_assoc]
  constructor
  · simp [hok]
  · intro m
    rw [hok]
    refine and_congr_right fun hobjects => ⟨?_, ?_⟩
    · -- The merge is well-formed and as every path tells, and nothing else is.
      rintro rfl
      exact ⟨Document.wellFormed_merge o l d ho hd, Document.mergedAtPaths_merge o l d⟩
    · rintro ⟨hm, hpaths⟩
      exact (Document.eq_merge_of_mergedAtPaths ho hd hm hobjects hpaths).symm

namespace LabelMerge

/-- The label `team` was set by another hand, and a text stands where an object is desired. -/
def observed : List (String × Document) :=
  [("labels", .obj [("app", .str "web"), ("team", .str "a"), ("tier", .str "old")]),
    ("ports", .arr [.nat 80, .nat 443]), ("spec", .str "none")]

/-- Two of the labels, and a text for the specification. -/
def last : List (String × Document) :=
  [("labels", .obj [("app", .str "web"), ("tier", .str "old")]), ("spec", .str "none")]

/-- One of the two labels is gone, one list is replaced, and a text gives way to an object. -/
def desired : List (String × Document) :=
  [("labels", .obj [("app", .str "api")]), ("ports", .arr [.nat 8080]),
    ("spec", .obj [("replicas", .null)])]

/-- The desired object with the label that another hand has set. -/
def merged : List (String × Document) :=
  [("labels", .obj [("app", .str "api"), ("team", .str "a")]), ("ports", .arr [.nat 8080]),
    ("spec", .obj [("replicas", .null)])]

theorem wellFormed_observed : (Document.obj observed).WellFormed := by decide +kernel

theorem wellFormed_last : (Document.obj last).WellFormed := by decide +kernel

theorem wellFormed_desired : (Document.obj desired).WellFormed := by decide +kernel

/-- The label that was applied last and is no longer desired goes, and all other members stay or
    come. -/
theorem threeWay_observed :
    threeWay (.obj observed) (.obj last) (.obj desired) = .ok (.obj merged) := rfl

end LabelMerge

open LabelMerge in
/-- Of two labels that were applied one is withdrawn, the foreign one stays, and the list and
    the text are replaced. -/
theorem threeWay_atPaths_labels :
    (Document.obj observed).WellFormed ∧ (Document.obj desired).WellFormed ∧
      threeWay (.obj observed) (.obj last) (.obj desired) = .ok (.obj merged) ∧
      Document.MergedAtPaths (.obj observed) (.obj last) (.obj desired) (.obj merged) := by
  obtain ⟨-, hmerge⟩ :=
    threeWay_atPaths (.obj observed) (.obj last) (.obj desired) wellFormed_observed
      wellFormed_desired
  exact ⟨wellFormed_observed, wellFormed_desired, threeWay_observed,
    ((hmerge (.obj merged)).mp threeWay_observed).2.2⟩

/-! ### Merging again -/

/-- A second merge changes nothing, whether the same document counts as last applied or the
    desired one, which has been applied by then. -/
theorem threeWay_again (observed : List (String × Document)) (l : Document)
    (desired : List (String × Document)) (ho : (Document.obj observed).WellFormed)
    (hd : (Document.obj desired).WellFormed) :
    ∃ m, threeWay (.obj observed) l (.obj desired) = .ok m ∧
      threeWay m l (.obj desired) = .ok m ∧
      threeWay m (.obj desired) (.obj desired) = .ok m := by
  have hsecond : ∀ l', l' = l ∨ l' = .obj desired →
      threeWay (Document.merge (.obj observed) l (.obj desired)) l' (.obj desired) =
        .ok (Document.merge (.obj observed) l (.obj desired)) := by
    intro l' hlast
    rw [threeWay_eq_ok]
    exact ⟨⟨_, Document.merge_obj observed l desired⟩, ⟨_, rfl⟩, Document.merge_merge ho hd hlast⟩
  exact ⟨_, threeWay_obj observed l desired, hsecond l (.inl rfl), hsecond _ (.inr rfl)⟩

open LabelMerge in
/-- After the first merge two objects meet where a text and an object did. -/
theorem threeWay_again_labels :
    (Document.obj observed).WellFormed ∧ (Document.obj desired).WellFormed ∧
      threeWay (.obj observed) (.obj last) (.obj desired) = .ok (.obj merged) ∧
      threeWay (.obj merged) (.obj last) (.obj desired) = .ok (.obj merged) ∧
      threeWay (.obj merged) (.obj desired) (.obj desired) = .ok (.obj merged) := by
  obtain ⟨m, hm, hlast, hdesired⟩ :=
    threeWay_again observed (.obj last) desired wellFormed_observed wellFormed_desired
  obtain rfl := ok_unique threeWay_observed hm
  exact ⟨wellFormed_observed, wellFormed_desired, threeWay_observed, hlast, hdesired⟩

/-- Where the observed object is still the one that was applied last, the merge yields the
    desired object: what was applied and is no longer desired is gone at every depth. -/
theorem threeWay_no_drift (last desired : List (String × Document))
    (hlast : (Document.obj last).WellFormed) (hdesired : (Document.obj desired).WellFormed) :
    threeWay (.obj last) (.obj last) (.obj desired) = .ok (.obj desired) := by
  rw [threeWay_obj, Document.merge_last_self hlast hdesired]

open LabelMerge in
/-- Without the foreign label the desired object is all that is left. -/
theorem threeWay_no_drift_labels :
    (Document.obj last).WellFormed ∧ (Document.obj desired).WellFormed ∧
      threeWay (.obj last) (.obj last) (.obj desired) = .ok (.obj desired) :=
  ⟨wellFormed_last, wellFormed_desired,
    threeWay_no_drift last desired wellFormed_last wellFormed_desired⟩

/-! ### Independent patches -/

/-- Two independent patches merge into any object, and in either order they leave the same
    document. -/
theorem threeWay_comm (observed patch other : List (String × Document))
    (ho : (Document.obj observed).WellFormed) (hp : (Document.obj patch).WellFormed)
    (hq : (Document.obj other).WellFormed)
    (h : Document.Independent (.obj patch) (.obj other)) :
    ∃ m, (do
        let first ← threeWay (.obj observed) (.obj patch) (.obj patch)
        threeWay first (.obj other) (.obj other)) = .ok m ∧
      (do
        let first ← threeWay (.obj observed) (.obj other) (.obj other)
        threeWay first (.obj patch) (.obj patch)) = .ok m := by
  refine ⟨Document.merge (Document.merge (.obj observed) (.obj patch) (.obj patch)) (.obj other)
    (.obj other), ?_, ?_⟩
  · rw [bind_eq_ok]
    exact ⟨_, threeWay_obj observed (.obj patch) patch, by rw [Document.merge_obj]; rfl⟩
  · rw [bind_eq_ok, Document.merge_comm_of_independent h ho hp hq]
    exact ⟨_, threeWay_obj observed (.obj other) other, by rw [Document.merge_obj]; rfl⟩

namespace TwoPatches

/-- A text stands where both patches have an object, and one label is there. -/
def observed : List (String × Document) :=
  [("labels", .obj [("app", .str "web")]), ("spec", .str "none")]

/-- A new value for the label, and one member for the specification. -/
def patch : List (String × Document) :=
  [("labels", .obj [("app", .str "api")]), ("spec", .obj [("replicas", .nat 2)])]

/-- A second label, another member for the specification, and a list. -/
def other : List (String × Document) :=
  [("labels", .obj [("team", .str "a")]), ("ports", .arr [.nat 80]),
    ("spec", .obj [("paused", .bool true)])]

/-- The labels are patched one by one, and the text has given way to both members. -/
def merged : List (String × Document) :=
  [("labels", .obj [("app", .str "api"), ("team", .str "a")]), ("ports", .arr [.nat 80]),
    ("spec", .obj [("paused", .bool true), ("replicas", .nat 2)])]

theorem wellFormed : (Document.obj observed).WellFormed ∧ (Document.obj patch).WellFormed ∧
    (Document.obj other).WellFormed := by
  decide +kernel

/-- The patches share two keys, and below these none. -/
theorem independent : Document.Independent (.obj patch) (.obj other) := by
  refine .obj fun k p q hp hq => ?_
  have hk := Entries.mem_of_get?_eq_some hp
  simp only [patch, List.mem_cons, Prod.mk.injEq, List.not_mem_nil, or_false] at hk
  -- Objects with one member each are independent when the members have different keys.
  have hdistinct : ∀ (a b : String) (v w : Document), a ≠ b →
      Document.Independent (.obj [(a, v)]) (.obj [(b, w)]) := by
    intro a b v w hab
    refine .obj fun k p q hp hq => ?_
    simp only [Entries.get?_cons, Entries.get?_nil] at hp hq
    grind
  rcases hk with ⟨rfl, rfl⟩ | ⟨rfl, rfl⟩
  · obtain rfl := Option.some.inj hq
    exact hdistinct _ _ _ _ (by decide)
  · obtain rfl := Option.some.inj hq
    exact hdistinct _ _ _ _ (by decide)

end TwoPatches

open TwoPatches in
/-- Either patch may be the one that takes the place of the text. -/
theorem threeWay_comm_text :
    ((Document.obj observed).WellFormed ∧ (Document.obj patch).WellFormed ∧
        (Document.obj other).WellFormed) ∧
      Document.Independent (.obj patch) (.obj other) ∧
      (do
        let first ← threeWay (.obj observed) (.obj patch) (.obj patch)
        threeWay first (.obj other) (.obj other)) = .ok (.obj merged) ∧
      (do
        let first ← threeWay (.obj observed) (.obj other) (.obj other)
        threeWay first (.obj patch) (.obj patch)) = .ok (.obj merged) := by
  obtain ⟨ho, hp, hq⟩ := wellFormed
  obtain ⟨m, hfirst, hsecond⟩ := threeWay_comm observed patch other ho hp hq independent
  have hm : (do
      let first ← threeWay (.obj observed) (.obj patch) (.obj patch)
      threeWay first (.obj other) (.obj other)) = .ok (.obj merged) := rfl
  obtain rfl := ok_unique hm hfirst
  exact ⟨wellFormed, independent, hfirst, hsecond⟩

end Reconciler
