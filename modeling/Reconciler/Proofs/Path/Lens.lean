import Reconciler.Path.Grammar
import Reconciler.Proofs.Path.Writing

namespace Reconciler

/-!
# A path is a lens

Reading and writing at a path obey the laws of a lens, as far as the write succeeds.  It may have
to make the objects on its way; they hold nothing but the way itself, so that off the way there
is nothing to be found that was not there before.

* `Document.write_write` — the second of two writes wins;
* `Document.walk_write_of_diverges` — what lies off the way stays;
* `Document.write_of_walk` — writing what is there changes nothing;
* `FieldPath.set_lens` — the laws of a lens;
* `Ports` — a document with a list and a null on the way.
-/

namespace Document

variable {v w x d d' : Document} {pos : Nat} {steps q : List Segment}

/-- Of two writes in the same place the second one wins. -/
theorem write_write (h : write v pos steps d = (d', none)) :
    write w pos steps d' = write w pos steps d := by
  induction steps generalizing pos d d' with
  | nil => rfl
  | cons step rest ih =>
    obtain ⟨child, put, child', hstep, hchild, rfl⟩ := write_cons_eq_ok.mp h
    -- Both writes go through the same place, where the first one has left `child'`.
    rw [write_of_stepsTo (hstep.again child'), write_of_stepsTo hstep, ih hchild]

/-- Whether a write succeeds is no matter of what is written. -/
theorem exists_write_eq_ok (h : write v pos steps d = (d', none)) (w : Document) :
    ∃ d'', write w pos steps d = (d'', none) := by
  induction steps generalizing pos d d' with
  | nil => exact ⟨w, rfl⟩
  | cons step rest ih =>
    obtain ⟨child, put, child', hstep, hchild, rfl⟩ := write_cons_eq_ok.mp h
    obtain ⟨child'', hchild''⟩ := ih hchild
    exact ⟨_, write_cons_eq_ok.mpr ⟨child, put, child'', hstep, hchild'', rfl⟩⟩

/-- Steps that leave the way of a write before its end, and do not end on it, lead to what they
    led to before. -/
theorem walk_write_of_diverges (h : write v pos steps d = (d', none)) (hsteps : ¬ steps <+: q)
    (hq : ¬ q <+: steps) : d'.walk q = d.walk q := by
  -- On the steps of the write, until the other path takes another one.
  induction steps generalizing pos d d' q with
  | nil => exact absurd List.nil_prefix hsteps
  | cons step rest ih =>
    obtain ⟨child, put, child', hstep, hchild, rfl⟩ := write_cons_eq_ok.mp h
    cases q with
    | nil => exact absurd List.nil_prefix hq
    | cons s q =>
      refine hstep.walk_put_eq_walk fun hs => ?_
      rw [hs, List.cons_prefix_cons, and_iff_right rfl] at hsteps hq
      exact ⟨fun hnil => hq (hnil ▸ List.nil_prefix), ih hchild hsteps hq⟩

/-- Writing the value that is there changes nothing. -/
theorem write_of_walk (hd : d.WellFormed) (h : d.walk steps = some x) (pos : Nat) :
    write x pos steps d = (d, none) := by
  induction steps generalizing pos d with
  | nil =>
    obtain rfl := Option.some.inj h
    rfl
  | cons step rest ih =>
    obtain ⟨child, put, hstep, hchild, hrest, hput⟩ := stepsTo_of_walk hd h
    exact write_cons_eq_ok.mpr ⟨child, put, child, hstep, ih hchild hrest (pos + 1), hput⟩

end Document

namespace FieldPath

/-- A written value is read back.  Of two writes the second one wins, and it succeeds when the
    first one did.  A write leaves what lies at any path that neither leads through its place nor
    ends on the way to it.  Writing what is read succeeds and changes nothing. -/
theorem set_lens (p : FieldPath) {d : Document} (hd : d.WellFormed) :
    (∀ v d', p.set v d = (d', none) →
        p.get? d' = some v ∧
          (∀ w, ∃ d'', p.set w d' = (d'', none) ∧ p.set w d = (d'', none)) ∧
          ∀ q : FieldPath, ¬ p.segments <+: q.segments → ¬ q.segments <+: p.segments →
            q.get? d' = q.get? d) ∧
      ∀ x, p.get? d = some x → p.set x d = (d, none) := by
  refine ⟨fun v d' h => ?written, fun x h => set_eq_ok.mpr (Document.write_of_walk hd h 0)⟩
  case written =>
    have hwrite := set_eq_ok.mp h
    refine ⟨Document.walk_write hwrite, fun w => ?_, fun q hp hq =>
      Document.walk_write_of_diverges hwrite hp hq⟩
    obtain ⟨d'', hd''⟩ := Document.exists_write_eq_ok hwrite w
    refine ⟨d'', set_eq_ok.mpr ?_, set_eq_ok.mpr hd''⟩
    rw [Document.write_write hwrite, hd'']

end FieldPath

namespace Ports

/-- A document with a list, and with a null where an object can come. -/
def document : Document :=
  .obj [("ports", .arr [.obj [("port", .nat 80)]]), ("template", .null)]

/-- A place inside two objects that are not there yet. -/
def replicasPath : FieldPath :=
  ⟨"template.spec.replicas", .key "template", [.key "spec", .key "replicas"]⟩

/-- Another place inside these objects. -/
def namePath : FieldPath :=
  ⟨"template.spec.name", .key "template", [.key "spec", .key "name"]⟩

/-- A place in the list. -/
def portPath : FieldPath := ⟨"ports[0].port", .key "ports", [.index 0, .key "port"]⟩

/-- The document with a value at the first place. -/
def scaled : Document :=
  .obj [("ports", .arr [.obj [("port", .nat 80)]]),
    ("template", .obj [("spec", .obj [("replicas", .nat 3)])])]

end Ports

open Ports in
/-- The other place inside the new objects is as empty as it was inside the null. -/
theorem FieldPath.set_lens_ports :
    document.WellFormed ∧
      (FieldPath.parse "template.spec.replicas" = .ok replicasPath ∧
        FieldPath.parse "template.spec.name" = .ok namePath ∧
        FieldPath.parse "ports[0].port" = .ok portPath) ∧
      (replicasPath.set (.nat 3) document = (scaled, none) ∧
        replicasPath.get? scaled = some (.nat 3) ∧
        ∃ d'', replicasPath.set (.nat 5) scaled = (d'', none) ∧
          replicasPath.set (.nat 5) document = (d'', none)) ∧
      (¬ replicasPath.segments <+: namePath.segments ∧
        ¬ namePath.segments <+: replicasPath.segments ∧
        namePath.get? scaled = namePath.get? document) ∧
      portPath.get? document = some (.nat 80) ∧
        portPath.set (.nat 80) document = (document, none) := by
  have hdocument : document.WellFormed := by decide +kernel
  have hset : replicasPath.set (.nat 3) document = (scaled, none) := by rfl
  have hport : portPath.get? document = some (.nat 80) := by rfl
  have hreplicas : ¬ replicasPath.segments <+: namePath.segments := by decide
  have hname : ¬ namePath.segments <+: replicasPath.segments := by decide
  obtain ⟨hwritten, -⟩ := FieldPath.set_lens replicasPath hdocument
  obtain ⟨-, hread⟩ := FieldPath.set_lens portPath hdocument
  obtain ⟨hget, hagain, hother⟩ := hwritten (.nat 3) scaled hset
  exact ⟨hdocument, ⟨by decide +kernel, by decide +kernel, by decide +kernel⟩,
    ⟨hset, hget, hagain (.nat 5)⟩, ⟨hreplicas, hname, hother namePath hreplicas hname⟩, hport,
    hread (.nat 80) hport⟩

end Reconciler
