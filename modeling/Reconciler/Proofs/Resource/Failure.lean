import Reconciler.Proofs.Path.Failure
import Reconciler.Proofs.Resource.Writing

namespace Reconciler

/-!
# A failing write into a resource

A write into a resource goes into the object of its other members, and so it fails and stops as
any write does.  What is written back is what the failed write has left of that object.

* `FieldPath.set_destroys_nothing` — when a write fails, what it leaves behind, and what it does
  the next time, in a document and in a resource;
* `Replicated` — a document whose null is opened on the way to a list that is not there.
-/

/-- A write fails exactly when some step of the path cannot be taken, and then for the first one
    of them.  It leaves everything that was there, and objects on the way to that step.  The same
    write fails again in the same way and changes nothing any more.  All of this holds of a write
    into a resource as well, whose other members are written back whether it succeeds or fails,
    and whose typed parts stay. -/
theorem FieldPath.set_destroys_nothing (p : FieldPath) (v d : Document) :
    ((∀ e, (∃ d', p.set v d = (d', some e)) ↔ p.BlockedBy d e) ∧
        ∀ d' e, p.set v d = (d', some e) →
          p.LeavesBehind d d' e ∧ p.set v d' = (d', some e)) ∧
      ∀ r : Resource,
        (∀ e, (∃ r', r.setPath p v = (r', some e)) ↔ p.BlockedBy (.obj r.data) e) ∧
        (∀ r' outcome, r.setPath p v = (r', outcome) →
          p.set v (.obj r.data) = (.obj r'.data, outcome) ∧
            r'.apiVersion = r.apiVersion ∧ r'.kind = r.kind ∧ r'.metadata = r.metadata) ∧
        ∀ r' e, r.setPath p v = (r', some e) →
          p.LeavesBehind (.obj r.data) (.obj r'.data) e ∧ r'.setPath p v = (r', some e) := by
  refine ⟨⟨fun e => exists_set_eq_error, fun d' e h => ⟨leavesBehind_of_set h, set_again h⟩⟩,
    fun r => ⟨fun e => ?fails, fun r' outcome h => ?back, fun r' e h => ?leaves⟩⟩
  case fails =>
    rw [← exists_set_eq_error (v := v)]
    constructor
    · rintro ⟨r', h⟩
      obtain ⟨data, hset, -⟩ := Resource.setPath_eq.mp h
      exact ⟨_, hset⟩
    · rintro ⟨d', hset⟩
      -- What a failed write leaves of an object is an object.
      obtain ⟨data, rfl⟩ := Resource.exists_obj_of_set hset
      exact ⟨_, Resource.setPath_eq.mpr ⟨data, hset, rfl⟩⟩
  case back =>
    obtain ⟨data, hset, rfl⟩ := Resource.setPath_eq.mp h
    exact ⟨hset, rfl, rfl, rfl⟩
  case leaves =>
    obtain ⟨data, hset, rfl⟩ := Resource.setPath_eq.mp h
    exact ⟨leavesBehind_of_set hset, Resource.setPath_eq.mpr ⟨data, set_again hset, rfl⟩⟩

namespace Replicated

/-- A resource whose template is null. -/
def pod : Resource := ⟨"v1", "Pod", .empty, [("ports", .arr [.nat 80]), ("template", .null)]⟩

/-- A way through the template to a list that is not there. -/
def imagePath : FieldPath :=
  ⟨"template.spec.containers[0].image", .key "template",
    [.key "spec", .key "containers", .index 0, .key "image"]⟩

/-- The way up to the list is open, and the list is still missing. -/
def opened : Resource :=
  { pod with
    data := [("ports", .arr [.nat 80]),
      ("template", .obj [("spec", .obj [("containers", .null)])])] }

/-- A position in a list that is there but ends before. -/
def portPath : FieldPath := ⟨"ports[3]", .key "ports", [.index 3]⟩

end Replicated

open Replicated in
/-- Of the five steps the fourth is blocked, and the first three have opened the way to it. -/
theorem FieldPath.set_destroys_nothing_pod :
    FieldPath.parse "template.spec.containers[0].image" = .ok imagePath ∧
      FieldPath.parse "ports[3]" = .ok portPath ∧
      imagePath.set (.str "web") (.obj pod.data) =
        (.obj opened.data, some (.write imagePath.raw (.mismatch 3 .array .null))) ∧
      imagePath.LeavesBehind (.obj pod.data) (.obj opened.data)
        (.write imagePath.raw (.mismatch 3 .array .null)) ∧
      pod.setPath imagePath (.str "web") =
        (opened, some (.write imagePath.raw (.mismatch 3 .array .null))) ∧
      opened.setPath imagePath (.str "web") =
        (opened, some (.write imagePath.raw (.mismatch 3 .array .null))) ∧
      portPath.BlockedBy (.obj pod.data) (.write portPath.raw (.outOfBounds 3 1)) := by
  have hset : pod.setPath imagePath (.str "web") =
      (opened, some (.write imagePath.raw (.mismatch 3 .array .null))) := by rfl
  have hport : portPath.set (.nat 443) (.obj pod.data) =
      (.obj pod.data, some (.write portPath.raw (.outOfBounds 3 1))) := by rfl
  obtain ⟨-, himage⟩ :=
    FieldPath.set_destroys_nothing imagePath (.str "web") (.obj pod.data)
  obtain ⟨⟨hblocked, -⟩, -⟩ :=
    FieldPath.set_destroys_nothing portPath (.nat 443) (.obj pod.data)
  obtain ⟨-, hback, hleaves⟩ := himage pod
  obtain ⟨hbehind, hagain⟩ := hleaves _ _ hset
  exact ⟨by decide +kernel, by decide +kernel, (hback _ _ hset).1, hbehind, hset, hagain,
    (hblocked _).mp ⟨_, hport⟩⟩

end Reconciler
