import Reconciler.Document.Basic

namespace Reconciler.Document

/-!
# Three-way merge

A desired document is laid over an observed one.  Objects are merged member by
member and everything else is replaced.  Observed members that the desired object
does not mention stay, unless the last applied document had them: those were set by
the same hand, and are now withdrawn.

* `merge` — the merged document;
* `withdraw` — the observed members that stay before the desired ones are laid over.
-/

/-- The members of `observed` without those that `last` has and `desired` has not. -/
def withdraw (observed last desired : List (String × Document)) : List (String × Document) :=
  observed.filter fun e => (Entries.get? e.1 last).isNone || (Entries.get? e.1 desired).isSome

mutual

/-- Lays `desired` over `observed`; `last` is what was laid over it before. -/
def merge (observed last : Document) : Document → Document
  | obj desired =>
    match observed with
    | obj members =>
      let lastMembers := last.members?.getD []
      obj (mergeMembers members lastMembers (withdraw members lastMembers desired) desired)
    | _ => obj desired
  | desired => desired
termination_by structural desired => desired

/-- Lays the desired members, each merged with its observed and last applied
    counterparts, over `kept`. -/
def mergeMembers (observed last kept : List (String × Document)) :
    List (String × Document) → List (String × Document)
  | [] => kept
  | (k, d) :: rest =>
    let merged :=
      match Entries.get? k observed with
      | some o => merge o ((Entries.get? k last).getD null) d
      | none => d
    Entries.insert k merged (mergeMembers observed last kept rest)
termination_by structural desired => desired

end

/-! ### Members of a merged object -/

/-- A member goes when it was applied last and is no longer desired. -/
theorem get?_withdraw (k : String) (observed last desired : List (String × Document)) :
    Entries.get? k (withdraw observed last desired) =
      if (Entries.get? k last).isNone ∨ (Entries.get? k desired).isSome then
        Entries.get? k observed
      else none := by
  rw [withdraw, Entries.get?_filter_key k
    (fun k => (Entries.get? k last).isNone || (Entries.get? k desired).isSome)]
  simp

/-- A desired member is merged with its observed counterpart, or stands as it is; the
    other members are those that were kept. -/
theorem get?_mergeMembers (k : String) (observed last kept desired : List (String × Document)) :
    Entries.get? k (mergeMembers observed last kept desired) =
      match Entries.get? k desired with
      | some d =>
        some <|
          match Entries.get? k observed with
          | some o => merge o ((Entries.get? k last).getD null) d
          | none => d
      | none => Entries.get? k kept := by
  induction desired with
  | nil => rfl
  | cons e rest ih =>
    obtain ⟨k', d⟩ := e
    rw [mergeMembers, Entries.get?_insert, Entries.get?_cons, ih]
    by_cases h : k = k'
    · subst h
      simp
    · simp [h]

end Reconciler.Document
