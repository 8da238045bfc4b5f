import Buildfile.Failure
import Buildfile.Table
/-!
# The ledger of a build

A build keeps one record for every name that was ever requested: being built, or settled with an
outcome. Beside the records it keeps, for every name whose dependencies are being built, the names
it waits for.

Admission decides what becomes of a request. The first request for a name owns it; a later one
joins it; a request that would have to wait for itself is refused, either because the name is among
its own ancestors or because the names waited for lead from it back to one of them.
-/

namespace Buildfile.Build

/-- What is known of a name that was requested. -/
inductive Record where
  /-- The owner of the name is still at work. -/
  | building
  /-- The owner has published its outcome. -/
  | settled (outcome : Outcome)
  deriving DecidableEq, Repr, Inhabited

/-- How far a name has come. -/
inductive Status where
  | unstarted
  | inProgress
  | done
  | failed
  deriving DecidableEq, Repr, Inhabited

/-- The wording of a status. -/
def Status.label : Status → Text
  | unstarted => lit "unstarted"
  | inProgress => lit "in-progress"
  | done => lit "done"
  | failed => lit "failed"

/-- For each name whose dependencies are being built, the names it waits for. -/
abbrev Waits := Table Name (List Name)

namespace Waits

/-- Where a search stands: the names that are left to look at, the next one first, and those it has looked at. -/
structure Search where
  stack : List Name
  seen : List Name := []
  deriving DecidableEq, Repr, Inhabited

/-- One round of a search for the goals: its answer, or where it stands afterwards. What a name waits for is put on
the stack name by name, so the last of these names is the next one to be looked at. -/
def round (w : Waits) (goals : List Name) (s : Search) : Bool ⊕ Search :=
  match s.stack with
  | [] => .inl false
  | n :: rest =>
    if n ∈ goals then .inl true
    else if n ∈ s.seen then .inr { s with stack := rest }
    else .inr { stack := ((w.get? n).getD []).reverse ++ rest, seen := n :: s.seen }

/-- The answer of a search, if it comes to one within so many rounds. -/
def search (w : Waits) (goals : List Name) : (rounds : Nat) → Search → Option Bool
  | 0, _ => none
  | rounds + 1, s =>
    match w.round goals s with
    | .inl answer => some answer
    | .inr s' => w.search goals rounds s'

/-- The number of waits in the table; each is followed at most once in a search. -/
def size (w : Waits) : Nat := (w.entries.flatMap (·.2)).length

/-- Whether the waits lead from `start` to one of the goals. -/
def reaches (w : Waits) (start : Name) (goals : List Name) : Bool :=
  (w.search goals (w.size + 2) { stack := [start] }).getD false

end Waits

/-- The records of a build and the waits between its names. -/
structure Ledger where
  records : Table Name Record := {}
  waits : Waits := {}
  deriving DecidableEq, Repr, Inhabited

/-- What becomes of a request. -/
inductive Admission where
  /-- The request is the first for its name and builds it. -/
  | own
  /-- The name is being built or settled, and the request takes over that outcome. -/
  | join
  /-- The request would wait for itself. -/
  | refuse (e : BuildError)
  deriving DecidableEq, Repr, Inhabited

namespace Ledger

/-- What becomes of a request for `n` made while building the last of `ancestors`. -/
def admission (l : Ledger) (n : Name) (ancestors : List Name) : Admission :=
  let cycle := BuildError.circular n (ancestors ++ [n])
  if n ∈ ancestors then .refuse cycle
  else match l.records.get? n with
    | none => .own
    | some (.settled _) => .join
    | some .building => if ancestors ≠ [] ∧ l.waits.reaches n ancestors then .refuse cycle else .join

/-- The ledger with `n` being built. -/
def enroll (l : Ledger) (n : Name) : Ledger := { l with records := l.records.set n .building }

/-- The ledger with the outcome of `n` published. -/
def settle (l : Ledger) (n : Name) (o : Outcome) : Ledger := { l with records := l.records.set n (.settled o) }

/-- The ledger with `n` waiting for `ds`. -/
def await (l : Ledger) (n : Name) (ds : List Name) : Ledger := { l with waits := l.waits.set n ds }

/-- The ledger with `n` waiting for nothing. -/
def release (l : Ledger) (n : Name) : Ledger := { l with waits := l.waits.erase n }

/-- The published outcome of `n`. -/
def outcome? (l : Ledger) (n : Name) : Option Outcome :=
  match l.records.get? n with
  | some (.settled o) => some o
  | _ => none

/-- How far `n` has come. -/
def status (l : Ledger) (n : Name) : Status :=
  match l.records.get? n with
  | none => .unstarted
  | some .building => .inProgress
  | some (.settled none) => .done
  | some (.settled (some _)) => .failed

/-! ## Records and waits after a change -/

variable (l : Ledger) (n k : Name) (ds : List Name) (o : Outcome)

@[simp] theorem waits_enroll : (l.enroll n).waits = l.waits := rfl
@[simp] theorem waits_settle : (l.settle n o).waits = l.waits := rfl
@[simp] theorem records_await : (l.await n ds).records = l.records := rfl
@[simp] theorem records_release : (l.release n).records = l.records := rfl

theorem records_get?_enroll :
    (l.enroll n).records.get? k = if k = n then some .building else l.records.get? k :=
  Table.get?_set _ _ _ _

theorem records_get?_settle :
    (l.settle n o).records.get? k = if k = n then some (.settled o) else l.records.get? k :=
  Table.get?_set _ _ _ _

theorem waits_get?_await : (l.await n ds).waits.get? k = if k = n then some ds else l.waits.get? k :=
  Table.get?_set _ _ _ _

theorem waits_get?_release : (l.release n).waits.get? k = if k = n then none else l.waits.get? k :=
  Table.get?_erase _ _ _

/-- A name that waits for nothing has nothing to release. -/
theorem release_eq_self {l : Ledger} {n : Name} (h : l.waits.get? n = none) : l.release n = l := by
  rw [release, Table.erase_of_get?_eq_none h]

/-! ## What a status says of the records -/

variable {l n o}

theorem status_eq_unstarted_iff : l.status n = .unstarted ↔ l.records.get? n = none := by
  unfold status
  split <;> simp_all

theorem status_eq_inProgress_iff : l.status n = .inProgress ↔ l.records.get? n = some .building := by
  unfold status
  split <;> simp_all

theorem outcome?_eq_some_iff : l.outcome? n = some o ↔ l.records.get? n = some (.settled o) := by
  unfold outcome?
  split <;> simp_all

theorem status_of_settled (h : l.records.get? n = some (.settled o)) :
    l.status n = if o = none then .done else .failed := by
  cases o <;> simp [status, h]

/-! ## What an admission says of the ledger -/

/-- A request that is the first for its name finds no record of it. -/
theorem get?_of_own {as : List Name} (h : l.admission n as = .own) : n ∉ as ∧ l.records.get? n = none := by
  simp only [admission] at h
  split at h
  · cases h
  next hn =>
  refine ⟨hn, ?_⟩
  split at h
  · next hg => exact hg
  · cases h
  · split at h <;> cases h

/-- A request that joins finds an outcome, or a name whose waits do not lead back to its ancestors. -/
theorem get?_of_join {as : List Name} (h : l.admission n as = .join) :
    n ∉ as ∧ ((∃ o, l.records.get? n = some (.settled o)) ∨
      (l.records.get? n = some .building ∧ (as ≠ [] → l.waits.reaches n as = false))) := by
  simp only [admission] at h
  split at h
  · cases h
  next hn =>
  refine ⟨hn, ?_⟩
  split at h
  · cases h
  · next o hg => exact .inl ⟨o, hg⟩
  · next hg =>
    split at h
    · cases h
    · next hw => exact .inr ⟨hg, fun has => by simpa [has] using hw⟩

/-- A request is refused if its name is among its ancestors, or the waits lead back to one of them. -/
theorem eq_of_refuse {as : List Name} {e : BuildError} (h : l.admission n as = .refuse e) :
    e = .circular n (as ++ [n]) ∧
      (n ∈ as ∨ (l.records.get? n = some .building ∧ l.waits.reaches n as = true)) := by
  simp only [admission] at h
  split at h
  · next hn =>
    cases h
    exact ⟨rfl, .inl hn⟩
  · split at h
    · cases h
    · cases h
    · next hg =>
      split at h
      · next hw =>
        cases h
        exact ⟨rfl, .inr ⟨hg, hw.2⟩⟩
      · cases h

end Ledger

end Buildfile.Build
