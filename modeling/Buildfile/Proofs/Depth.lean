import Buildfile.Build.Serial
import Buildfile.Proofs.Termination
import Mathlib.Data.Set.Finite.Basic
/-!
# How deep a serial build goes

A visit goes one level deeper only for a name that was not requested before, so it needs no more
depth than there are such names (`visit_total`). That it answers then, instead of waiting for a name
that nobody is going to settle, is due to the names being built: they are the ancestors of the visit,
and a request for one of those is refused.
-/

namespace Buildfile.Build.Session

open Relation

variable {σ : Type} {site : Site σ} {ok : σ → Prop} {b : Rulebook} {S : Finset Name}
  {recs recs' recs'' : Table Name Record}
  {ancestors : List Name} {n : Name} {s : Session σ} {depth : Nat}

/-- The names of `S` of which there is no record. -/
def unrecorded (S : Finset Name) (recs : Table Name Record) : Finset Name :=
  S.filter fun k => recs.get? k = none

/-- No record is forgotten, and no name is left being built. -/
structure Settles (recs recs' : Table Name Record) : Prop where
  kept {k : Name} : recs.get? k ≠ none → recs'.get? k ≠ none
  building {k : Name} : recs'.get? k = some .building → recs.get? k = some .building

theorem Settles.refl : Settles recs recs := ⟨id, id⟩

theorem Settles.trans (h : Settles recs recs') (h' : Settles recs' recs'') : Settles recs recs'' :=
  ⟨fun hk => h'.kept (h.kept hk), fun hk => h.building (h'.building hk)⟩

theorem Settles.card_le (h : Settles recs recs') : (unrecorded S recs').card ≤ (unrecorded S recs).card := by
  refine Finset.card_le_card fun k hk => ?_
  rw [unrecorded, Finset.mem_filter] at hk ⊢
  refine ⟨hk.1, ?_⟩
  by_contra hne
  exact h.kept hne hk.2

/-- A name that is enrolled is recorded from then on. -/
theorem card_enroll_lt {l : Ledger} (hn : n ∈ S) (hnone : l.records.get? n = none) :
    (unrecorded S (l.enroll n).records).card < (unrecorded S l.records).card := by
  have herase : unrecorded S (l.enroll n).records = (unrecorded S l.records).erase n := by
    ext k
    simp only [unrecorded, Finset.mem_filter, Finset.mem_erase, Ledger.records_get?_enroll]
    by_cases hk : k = n <;> simp [hk]
  rw [herase]
  exact Finset.card_erase_lt_of_mem (Finset.mem_filter.2 ⟨hn, hnone⟩)

/-- A name that is enrolled first and settled last is not left being built either. -/
theorem Settles.settle {l l' : Ledger} (h : Settles (l.enroll n).records l'.records) (o : Outcome) :
    Settles l.records (l'.settle n o).records := by
  constructor
  · intro k hk
    rw [Ledger.records_get?_settle]
    split
    · exact Option.some_ne_none _
    · next hkn =>
      refine h.kept ?_
      rwa [Ledger.records_get?_enroll, if_neg hkn]
  · intro k hk
    rw [Ledger.records_get?_settle] at hk
    split at hk
    · cases hk
    · next hkn =>
      have hb := h.building hk
      rwa [Ledger.records_get?_enroll, if_neg hkn] at hb

/-- A session whose names being built are all ancestors, and in which the depth suffices. -/
structure Fits (ok : σ → Prop) (S : Finset Name) (ancestors : List Name) (depth : Nat) (s : Session σ) :
    Prop where
  world : ok s.world
  building {k : Name} : s.ledger.records.get? k = some .building → k ∈ ancestors
  depth : (unrecorded S s.ledger.records).card < depth

/-- A visit answers wherever the session fits, and leaves no name being built. -/
def Total (ok : σ → Prop) (S : Finset Name) (ancestors : List Name) (depth : Nat) (visit : Visit σ) : Prop :=
  ∀ n ∈ S, ∀ s : Session σ, Fits ok S ancestors depth s →
    ∃ r, visit n s = some r ∧ ok r.2.world ∧ Settles s.ledger.records r.2.ledger.records

theorem Fits.next {s' : Session σ} (h : Fits ok S ancestors depth s) (hw : ok s'.world)
    (hs : Settles s.ledger.records s'.ledger.records) : Fits ok S ancestors depth s' :=
  ⟨hw, fun hk => h.building (hs.building hk), Nat.lt_of_le_of_lt hs.card_le h.depth⟩

/-! ## Commands -/

theorem run_eq (hk : site.Keeps ok) (hw : ok s.world) (commands : List Command) :
    ok (s.run site n commands).2.world ∧ (s.run site n commands).2.ledger = s.ledger := by
  induction commands generalizing s with
  | nil => exact ⟨hw, rfl⟩
  | cons c commands ih =>
    have hperf := hk.perform n c hw
    rw [run]
    rcases hp : site.perform n c s.world with ⟨_ | f, w⟩ <;> rw [hp] at hperf
    · exact ih (s := { s with ran := s.ran ++ [(n, c)], world := w }) hperf
    · exact ⟨hperf, rfl⟩

theorem conclude_eq (hk : site.Keeps ok) (hw : ok s.world) (commands : List Command) (o : Outcome) :
    ok (s.conclude site n commands o).2.world ∧ (s.conclude site n commands o).2.ledger = s.ledger := by
  cases o with
  | some f => exact ⟨hw, rfl⟩
  | none =>
    obtain ⟨hw', hl⟩ := run_eq (n := n) hk hw commands
    unfold conclude
    rcases hr : s.run site n commands with ⟨_ | f, s'⟩ <;> rw [hr] at hw' hl
    · exact ⟨hk.note _ hw', hl⟩
    · exact ⟨hw', hl⟩

/-! ## Dependencies -/

theorem visitAll_total {visit : Visit σ} (hv : Total ok S ancestors depth visit) {ns : List Name}
    (hns : ∀ n ∈ ns, n ∈ S) (hs : Fits ok S ancestors depth s) :
    ∃ r, visitAll visit ns s = some r ∧ ok r.2.world ∧ Settles s.ledger.records r.2.ledger.records := by
  induction ns generalizing s with
  | nil => exact ⟨_, rfl, hs.world, .refl⟩
  | cons n ns ih =>
    obtain ⟨r, hr, hw, hset⟩ := hv n (hns n List.mem_cons_self) s hs
    obtain ⟨rs, hrs, hw', hset'⟩ := ih (fun k hk => hns k (List.mem_cons_of_mem _ hk)) (hs.next hw hset)
    refine ⟨((n, r.1) :: rs.1, rs.2), ?_, hw', hset.trans hset'⟩
    rw [visitAll, hr, Option.bind_some, hrs, Option.map_some]

theorem carryOut_total (hk : site.Keeps ok) {visit : Visit σ} (hv : Total ok S ancestors depth visit)
    {p : Plan} (hp : ∀ d ∈ p.dependencies, d ∈ S) (hs : Fits ok S ancestors depth s) :
    ∃ r, carryOut site visit n p s = some r ∧ ok r.2.world ∧ Settles s.ledger.records r.2.ledger.records := by
  -- recording waits leaves the records as they are
  have hawait :
      Fits ok S ancestors depth (if p.dependencies = [] then s else s.update (·.await n p.dependencies)) ∧
      (if p.dependencies = [] then s else s.update (·.await n p.dependencies)).ledger.records =
        s.ledger.records := by
    split
    · exact ⟨hs, rfl⟩
    · exact ⟨⟨hs.world, hs.building, hs.depth⟩, rfl⟩
  obtain ⟨r, hr, hw, hset⟩ := visitAll_total hv hp hawait.1
  rw [hawait.2] at hset
  obtain ⟨hw', hl⟩ := conclude_eq (n := n) (s := r.2.update (·.release n)) hk hw p.commands (blame n r.1)
  refine ⟨_, ?_, hw', ?_⟩
  · simp only [carryOut, hr, Option.map_some]
  · rw [hl]
    exact hset

/-! ## Visits -/

theorem build_total (hk : site.Keeps ok) (hf : site.Follows b s.world) {visit : Visit σ}
    (hv : Total ok S ancestors depth visit) (hclosed : ∀ d, b.Needs n d → d ∈ S)
    (hs : Fits ok S ancestors depth s) :
    ∃ r, build site visit n s = some r ∧ ok r.2.world ∧ Settles s.ledger.records r.2.ledger.records := by
  obtain ⟨isFile, hres⟩ := hf
  have hnote : ∀ k : Option Note, Fits ok S ancestors depth (k.elim s (s.note site)) ∧
      (k.elim s (s.note site)).ledger = s.ledger := by
    rintro (_ | k)
    · exact ⟨hs, rfl⟩
    · exact ⟨⟨hk.note k hs.world, hs.building, hs.depth⟩, rfl⟩
  unfold build
  cases hr : site.resolve s.world n with
  | planned p pattern =>
    have hplan := Rulebook.plan?_of_resolve (hres n ▸ hr)
    obtain ⟨hfit, hl⟩ := hnote ((Resolution.planned p pattern).note? n)
    obtain ⟨r, hcarry, hw, hset⟩ :=
      carryOut_total (n := n) hk hv (fun d hd => hclosed d (Rulebook.needs_of_plan? hplan hd)) hfit
    exact ⟨r, hcarry, hw, hl ▸ hset⟩
  | present => exact ⟨(none, s.note site (.existing n)), rfl, hk.note _ hs.world, .refl⟩
  | missing => exact ⟨(some (.error (.unknownTarget n)), s), rfl, hs.world, .refl⟩

/-- A visit answers if the depth is more than the number of names that were not requested before. -/
theorem visit_total (hk : site.Keeps ok) (hf : ∀ w, ok w → site.Follows b w)
    (hclosed : ∀ n ∈ S, ∀ d, b.Needs n d → d ∈ S) (depth : Nat) (ancestors : List Name) :
    Total ok S ancestors depth (visit site depth ancestors) := by
  induction depth generalizing ancestors with
  | zero =>
    intro n _ s hs
    exact absurd hs.depth (Nat.not_lt_zero _)
  | succ depth ih =>
    intro n hn s hs
    rw [visit]
    cases ha : s.ledger.admission n ancestors with
    | refuse e => exact ⟨_, rfl, hs.world, .refl⟩
    | join =>
      obtain ⟨hnot, ⟨o, ho⟩ | ⟨hb, -⟩⟩ := Ledger.get?_of_join ha
      · refine ⟨(o, s.note site (.joining n)), ?_, hk.note _ hs.world, .refl⟩
        simp [Ledger.outcome?, ho]
      · exact absurd (hs.building hb) hnot
    | own =>
      have hnone := (Ledger.get?_of_own ha).2
      have hfit : Fits ok S (ancestors ++ [n]) depth (s.update (·.enroll n)) := by
        refine ⟨hs.world, fun {k} hb => ?_,
          Nat.lt_of_lt_of_le (card_enroll_lt hn hnone) (Nat.lt_succ_iff.1 hs.depth)⟩
        rw [List.mem_append, List.mem_singleton]
        by_cases hk : k = n
        · exact .inr hk
        · refine .inl (hs.building ?_)
          change (s.ledger.enroll n).records.get? k = some .building at hb
          rwa [Ledger.records_get?_enroll, if_neg hk] at hb
      obtain ⟨r, hr, hw, hset⟩ := build_total (s := s.update (·.enroll n)) hk (hf _ hs.world) (ih _)
        (hclosed n hn) hfit
      exact ⟨(r.1, r.2.update (·.settle n r.1)), by simp only [hr, Option.map_some], hw, hset.settle r.1⟩

/-! ## Builds from the start -/

/-- The build of `n`, with nothing requested before, comes to an end: some depth suffices for it. -/
def Ends (site : Site σ) (n : Name) (w : σ) : Prop := ∃ depth r, execute site depth n { world := w } = some r

theorem ends_of_finite (hk : site.Keeps ok) (hf : ∀ w, ok w → site.Follows b w) {w : σ} (hw : ok w)
    (hfinite : {k | ReflTransGen b.Needs n k}.Finite) : Ends site n w := by
  have hfit : Fits ok hfinite.toFinset [] (hfinite.toFinset.card + 1) { world := w } := by
    refine ⟨hw, fun hk => ?_, Nat.lt_succ_of_le (Finset.card_filter_le _ _)⟩
    cases hk
  have hclosed : ∀ k ∈ hfinite.toFinset, ∀ d, b.Needs k d → d ∈ hfinite.toFinset := by
    intro k hk d hd
    rw [hfinite.mem_toFinset] at hk ⊢
    exact hk.tail hd
  have hn : n ∈ hfinite.toFinset := hfinite.mem_toFinset.2 .refl
  -- one more than the names that can be requested is depth enough
  obtain ⟨r, hr, -, -⟩ := visit_total hk hf hclosed _ [] n hn _ hfit
  exact ⟨_, r, hr⟩

end Buildfile.Build.Session
