import Reconciler.Host.Session
import Reconciler.Proofs.Host.Attachment

namespace Reconciler

/-!
# What a session keeps

A host makes the changes of a pass and then carries out the response, if it went well.  What stands
at an address afterwards is told by the address alone, and so is what a whole session keeps.

* `Session.get?_change`, `Session.get?_carryOut` — the two halves of a pass at one address;
* `Session.carryOut_carryOut` — a response that is carried out again changes nothing more;
* `Session.pass_of_error` — a response that went wrong is not carried out;
* `Session.listed_of_pass` — after one that went well, what stands there for the watch is listed;
* `Session.passes_induction` — what each pass preserves holds in every state of a session;
* `Session.passes_keeps` — each resource stands at its own address, and the watched one stays what
  it is;
* `Session.passes_sources` — nothing is attached that nobody has asked for;
* `Session.passes_spares` — resources of others stay when nobody asks for a change of them.
-/

namespace Session

variable {s : Session} {e : Engine} {p : Pass} {ps : List Pass} {d : Delta} {id : ResourceId}
  {r : Resource} {rs : List Resource}

/-! ### One address -/

/-- The last of the resources that has this address. -/
def lastAt (rs : List Resource) (id : ResourceId) : Option Resource :=
  rs.reverse.find? (·.id == id)

/-- It is one of them, and it has the address. -/
theorem mem_of_lastAt (h : lastAt rs id = some r) : r ∈ rs ∧ r.id = id := by
  have hid : (r.id == id) = true := List.find?_some (p := fun r : Resource => r.id == id) h
  exact ⟨List.mem_reverse.mp (List.mem_of_find?_eq_some h), beq_iff_eq.mp hid⟩

/-- There is none when none of them has the address. -/
theorem lastAt_eq_none (h : id ∉ rs.map Resource.id) : lastAt rs id = none := by
  rw [lastAt, List.find?_eq_none]
  intro r hr hid
  exact h (List.mem_map.mpr ⟨r, List.mem_reverse.mp hr, beq_iff_eq.mp hid⟩)

/-- Resources are set over what stood at their addresses. -/
theorem get?_insertAll (t : Table ResourceId Resource) (rs : List Resource) (id : ResourceId) :
    (insertAll t rs).get? id = (lastAt rs id).or (t.get? id) := by
  have hfold : insertAll t rs =
      (rs.map fun r => (r.id, r)).foldl (fun t e => t.insert e.1 e.2) t := by
    rw [List.foldl_map]
    rfl
  rw [hfold, Table.get?_foldl_insert, ← List.map_reverse, ReconcileRequest.lookup_map_id]
  rfl

/-- Erased resources leave nothing at their addresses. -/
theorem get?_foldl_erase (t : Table ResourceId Resource) (rs : List Resource) (id : ResourceId) :
    (rs.foldl (fun t r => t.erase r.id) t).get? id =
      if id ∈ rs.map Resource.id then none else t.get? id := by
  -- On the erased resources, from any table.
  induction rs generalizing t with
  | nil => rfl
  | cons r rest ih =>
    rw [List.foldl_cons, ih, Table.get?_erase, List.map_cons]
    by_cases hrest : id ∈ rest.map Resource.id
    · rw [if_pos hrest, if_pos (List.mem_cons_of_mem _ hrest)]
    · simp only [List.mem_cons, hrest, or_false, if_false]

/-! ### The two halves of a pass -/

/-- The watch whose resources a response replaces. -/
def owner (s : Session) : Owner :=
  Owner.watch (s.watch.uid.getD "") s.watch.name

/-- What is dropped goes, what is added comes, and the rest stays. -/
theorem get?_change (s : Session) (p : Pass) (id : ResourceId) :
    (s.change p).attachments.get? id =
      if id.display ∈ p.drop then none else (lastAt p.add id).or (s.attachments.get? id) := by
  have hfilter : (s.change p).attachments.get? id =
      if !p.drop.contains id.display then (insertAll s.attachments p.add).get? id else none :=
    Entries.get?_filter_key id (fun id => !p.drop.contains id.display) _
  rw [hfilter, get?_insertAll]
  by_cases hdrop : id.display ∈ p.drop
  · simp [hdrop]
  · simp [hdrop]

/-- Desired resources come before updated ones, and these before what is there already, of which
    the resources of the watch and the deleted ones go. -/
theorem get?_carryOut (s : Session) (d : Delta) (id : ResourceId) :
    (s.carryOut d).attachments.get? id =
      (lastAt d.desired id).or ((lastAt d.explicitUpdates id).or
        (if id ∈ d.explicitDeletes.map Resource.id then none
          else (s.attachments.get? id).filter fun r => !r.createdBy s.owner)) := by
  rw [carryOut, get?_insertAll, get?_insertAll, get?_foldl_erase, Table.get?_filter]
  rfl

/-- A response that is carried out again changes nothing more. -/
theorem carryOut_carryOut (s : Session) (d : Delta) : (s.carryOut d).carryOut d = s.carryOut d := by
  have hattachments : ((s.carryOut d).carryOut d).attachments = (s.carryOut d).attachments := by
    refine Table.ext fun id => ?_
    have howner : (s.carryOut d).owner = s.owner := rfl
    rw [get?_carryOut, get?_carryOut, howner]
    -- Only where no resource of the response stands does the state before it count.
    cases lastAt d.desired id with
    | some r => rfl
    | none =>
      cases lastAt d.explicitUpdates id with
      | some r => rfl
      | none =>
        simp only [Option.none_or]
        split
        · rfl
        · rw [Option.filter_filter]
          simp only [Bool.and_self]
  exact congrArg (Session.mk s.watch) hattachments

/-- The state after a pass, by the phase of its response. -/
theorem snd_pass (s : Session) (e : Engine) (p : Pass) :
    (s.pass e p).2 = if (s.pass e p).1.status.phase = .online then
      (s.change p).carryOut (s.pass e p).1.delta else s.change p := rfl

/-- A response that went wrong is not carried out. -/
theorem pass_of_error (h : (s.pass e p).1.status.phase = .error) :
    (s.pass e p).2 = s.change p := by
  rw [snd_pass, h]
  rfl

/-- A response that went well is carried out on the changed state. -/
theorem pass_of_online (h : (s.pass e p).1.status.phase = .online) :
    (s.pass e p).2 = (s.change p).carryOut (s.pass e p).1.delta := by
  rw [snd_pass, if_pos h]

/-! ### One pass -/

/-- The response asks the host to keep the resource, or to change what stands at its address. -/
def Listed (x : ReconcileResponse) (r : Resource) : Prop :=
  r ∈ x.delta.desired ∨ r ∈ x.delta.explicitUpdates

/-- What is attached after a change has been attached before or is added. -/
theorem source_of_change (h : (s.change p).attachments.get? id = some r) :
    s.attachments.get? id = some r ∨ r ∈ p.add ∧ r.id = id := by
  rw [get?_change] at h
  split at h
  · cases h
  · rcases Option.or_eq_some_iff.mp h with hadded | ⟨-, hbefore⟩
    · exact .inr (mem_of_lastAt hadded)
    · exact .inl hbefore

/-- What is attached after a response is listed by it, or it has been attached before for another
    owner. -/
theorem source_of_carryOut (h : (s.carryOut d).attachments.get? id = some r) :
    ((r ∈ d.desired ∨ r ∈ d.explicitUpdates) ∧ r.id = id) ∨
      s.attachments.get? id = some r ∧ r.createdBy s.owner = false := by
  -- From the top: desired, updated, or kept of what was there.
  rw [get?_carryOut] at h
  rcases Option.or_eq_some_iff.mp h with hdesired | ⟨-, h⟩
  · obtain ⟨hmem, hid⟩ := mem_of_lastAt hdesired
    exact .inl ⟨.inl hmem, hid⟩
  · rcases Option.or_eq_some_iff.mp h with hupdated | ⟨-, hkept⟩
    · obtain ⟨hmem, hid⟩ := mem_of_lastAt hupdated
      exact .inl ⟨.inr hmem, hid⟩
    · split at hkept
      · cases hkept
      · obtain ⟨hbefore, hforeign⟩ := Option.filter_eq_some_iff.mp hkept
        exact .inr ⟨hbefore, by simpa using hforeign⟩

/-- What is attached after a pass has been attached before, or it is added or listed under its own
    address. -/
theorem source_of_pass (h : (s.pass e p).2.attachments.get? id = some r) :
    s.attachments.get? id = some r ∨ (r ∈ p.add ∨ Listed (s.pass e p).1 r) ∧ r.id = id := by
  have hchanged : (s.change p).attachments.get? id = some r →
      s.attachments.get? id = some r ∨ (r ∈ p.add ∨ Listed (s.pass e p).1 r) ∧ r.id = id :=
    fun h => (source_of_change h).imp_right fun ⟨hmem, hid⟩ => ⟨.inl hmem, hid⟩
  -- The response is carried out only if it went well.
  cases hphase : (s.pass e p).1.status.phase with
  | error =>
    rw [pass_of_error hphase] at h
    exact hchanged h
  | online =>
    rw [pass_of_online hphase] at h
    rcases source_of_carryOut h with ⟨hlisted, hid⟩ | ⟨hbefore, -⟩
    · exact .inr ⟨.inr hlisted, hid⟩
    · exact hchanged hbefore

/-- After a response that went well, every attached resource of the watch is one that it lists. -/
theorem listed_of_pass (honline : (s.pass e p).1.status.phase = .online)
    (h : (s.pass e p).2.attachments.get? id = some r)
    (howned : r.createdBy (s.change p).owner = true) : Listed (s.pass e p).1 r := by
  rw [pass_of_online honline] at h
  rcases source_of_carryOut h with ⟨hlisted, -⟩ | ⟨-, hforeign⟩
  · exact hlisted
  · rw [howned] at hforeign
    cases hforeign

/-- Nobody asks for a change at the address: neither the pass nor its response. -/
structure Spares (id : ResourceId) (p : Pass) (x : ReconcileResponse) : Prop where
  add : id ∉ p.add.map Resource.id
  drop : id.display ∉ p.drop
  desired : id ∉ x.delta.desired.map Resource.id
  updates : id ∉ x.delta.explicitUpdates.map Resource.id
  deletes : id ∉ x.delta.explicitDeletes.map Resource.id

/-- A resource of another owner stays where nobody asks for a change. -/
theorem get?_pass_of_spares (hspares : Spares id p (s.pass e p).1)
    (h : s.attachments.get? id = some r) (hforeign : r.createdBy (s.change p).owner = false) :
    (s.pass e p).2.attachments.get? id = some r := by
  have hchanged : (s.change p).attachments.get? id = some r := by
    rw [get?_change, if_neg hspares.drop, lastAt_eq_none hspares.add, Option.none_or, h]
  cases hphase : (s.pass e p).1.status.phase with
  | error => rwa [pass_of_error hphase]
  | online =>
    rw [pass_of_online hphase, get?_carryOut, lastAt_eq_none hspares.desired,
      lastAt_eq_none hspares.updates, if_neg hspares.deletes, hchanged]
    simp [hforeign]

/-! ### What a pass preserves -/

/-- Every attached resource stands at its own address. -/
def Keyed (s : Session) : Prop :=
  ∀ id r, s.attachments.get? id = some r → r.id = id

/-- The watched resources of both are of one type and have the same metadata, and so they are one
    watch. -/
structure SameWatch (s s' : Session) : Prop where
  apiVersion : s'.watch.apiVersion = s.watch.apiVersion
  kind : s'.watch.kind = s.watch.kind
  metadata : s'.watch.metadata = s.watch.metadata

/-- One watch is one owner. -/
theorem SameWatch.owner_eq {s' : Session} (h : SameWatch s s') : s'.owner = s.owner := by
  rw [owner, owner, Resource.uid, Resource.uid, Resource.name, Resource.name, h.metadata]

/-- The documents of a request are attached at their own addresses. -/
theorem keyed_ofRequest {watch : Resource} {rs : List Resource} :
    (ofRequest (.ofResources watch rs)).Keyed := fun _ _ h =>
  (ReconcileRequest.attaches_ofResources watch rs).keyed _ (Table.mem_entries_iff.mpr h) |>.symm

/-- A pass attaches everything at its own address. -/
theorem Keyed.pass (h : s.Keyed) (e : Engine) (p : Pass) : (s.pass e p).2.Keyed := by
  intro id r hr
  rcases source_of_pass hr with hbefore | ⟨-, hid⟩
  · exact h id r hbefore
  · exact hid

/-- A change writes nothing but the `spec` of the watched resource. -/
theorem sameWatch_change (s : Session) (p : Pass) : SameWatch s (s.change p) := by
  unfold change
  cases p.spec <;> exact ⟨rfl, rfl, rfl⟩

/-- No pass replaces the watched resource by another one. -/
theorem sameWatch_pass (s : Session) (e : Engine) (p : Pass) : SameWatch s (s.pass e p).2 := by
  have hchange := sameWatch_change s p
  cases hphase : (s.pass e p).1.status.phase with
  | error =>
    rw [pass_of_error hphase]
    exact hchange
  | online =>
    rw [pass_of_online hphase]
    exact ⟨hchange.apiVersion, hchange.kind, hchange.metadata⟩

/-! ### Whole sessions -/

/-- What each pass preserves holds in every state of a session, as long as the passes and their
    responses are such that it does. -/
theorem passes_induction {P : Session → Prop} {Q : Pass → ReconcileResponse → Prop}
    (hstep : ∀ s p, P s → Q p (s.pass e p).1 → P (s.pass e p).2) (hs : P s)
    (hpasses : ∀ y ∈ ps.zip (s.passes e ps), Q y.1 y.2.1) : ∀ x ∈ s.passes e ps, P x.2 := by
  -- On the passes, from any session that has the property.
  induction ps generalizing s with
  | nil => exact List.forall_mem_nil _
  | cons p rest ih =>
    have hunfold : s.passes e (p :: rest) = s.pass e p :: (s.pass e p).2.passes e rest := rfl
    rw [hunfold, List.zip_cons_cons, List.forall_mem_cons] at hpasses
    have hnext : P (s.pass e p).2 := hstep s p hs hpasses.1
    rw [hunfold, List.forall_mem_cons]
    exact ⟨hnext, ih hnext hpasses.2⟩

/-- In every state of a session the attached resources stand at their own addresses, and the
    watched resource is the one of the beginning, whatever its spec. -/
theorem passes_keeps (hs : s.Keyed) (e : Engine) (ps : List Pass) :
    ∀ x ∈ s.passes e ps, x.2.Keyed ∧ SameWatch s x.2 := by
  refine passes_induction (P := fun s' => s'.Keyed ∧ SameWatch s s') (Q := fun _ _ => True) ?_
    ⟨hs, rfl, rfl, rfl⟩ fun _ _ => trivial
  intro s' p ⟨hkeyed, hwatch⟩ _
  have hpass := sameWatch_pass s' e p
  exact ⟨hkeyed.pass e p, hpass.apiVersion.trans hwatch.apiVersion, hpass.kind.trans hwatch.kind,
    hpass.metadata.trans hwatch.metadata⟩

/-- Whatever is attached in some state of a session was attached at the beginning, or a pass has
    added it, or a response has listed it. -/
theorem passes_sources (s : Session) (e : Engine) (ps : List Pass) :
    ∀ x ∈ s.passes e ps, ∀ id r, x.2.attachments.get? id = some r →
      s.attachments.get? id = some r ∨ (∃ p ∈ ps, r ∈ p.add) ∨
        ∃ y ∈ s.passes e ps, Listed y.1 r := by
  -- What a response lists is remembered by the condition on the passes.
  refine passes_induction
    (P := fun s' => ∀ id r, s'.attachments.get? id = some r →
      s.attachments.get? id = some r ∨ (∃ p ∈ ps, r ∈ p.add) ∨ ∃ y ∈ s.passes e ps, Listed y.1 r)
    (Q := fun p x => p ∈ ps ∧ ∃ y ∈ s.passes e ps, y.1 = x) ?_ (fun _ _ h => .inl h) fun y hy => ?_
  · intro s' p hsource ⟨hp, y, hy, hyx⟩ id r hr
    rcases source_of_pass hr with hbefore | ⟨hadded | hlisted, -⟩
    · exact hsource id r hbefore
    · exact .inr (.inl ⟨p, hp, hadded⟩)
    · exact .inr (.inr ⟨y, hy, hyx ▸ hlisted⟩)
  · obtain ⟨hp, hx⟩ := List.of_mem_zip hy
    exact ⟨hp, y.2, hx, rfl⟩

/-- A resource that another owner has created stays through a whole session in which nobody asks
    for a change at its address. -/
theorem passes_spares (h : s.attachments.get? id = some r)
    (hforeign : r.createdBy s.owner = false)
    (hspares : ∀ y ∈ ps.zip (s.passes e ps), Spares id y.1 y.2.1) :
    ∀ x ∈ s.passes e ps, x.2.attachments.get? id = some r := by
  have hkept : ∀ x ∈ s.passes e ps, x.2.attachments.get? id = some r ∧ x.2.owner = s.owner := by
    refine passes_induction (P := fun s' => s'.attachments.get? id = some r ∧ s'.owner = s.owner)
      ?_ ⟨h, rfl⟩ hspares
    intro s' p ⟨hget, howner⟩ hp
    have hchange := (sameWatch_change s' p).owner_eq.trans howner
    exact ⟨get?_pass_of_spares hp hget (hchange ▸ hforeign),
      (sameWatch_pass s' e p).owner_eq.trans howner⟩
  exact fun x hx => (hkept x hx).1

end Session

end Reconciler
