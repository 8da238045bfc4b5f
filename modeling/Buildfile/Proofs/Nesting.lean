import Buildfile.Build.Nesting
import Buildfile.Proofs.Depth
import Buildfile.Proofs.Waits
import Mathlib.Data.List.Count
/-!
# Cycles in a serial build

While a serial build makes a request, the names that are being built are the ancestors of the request and no
others, for every visit settles what it has begun before it answers (`visit_restores`). So a request never waits, and
the waits on record never decide about it: it is refused only if it asks for one of its ancestors, and the chain of
its refusal is the path to it from the name that was requested from outside (`serial_cycles`).
-/

namespace Buildfile.Build

open Relation

/-- The waits on record do not matter to a request if the names that are being built are among its ancestors. -/
theorem Ledger.admission_of_waits {l : Ledger} {n : Name} {as : List Name}
    (h : l.records.get? n = some .building → n ∈ as) (w : Waits) :
    Ledger.admission { l with waits := w } n as = l.admission n as := by
  unfold Ledger.admission
  by_cases hn : n ∈ as
  · rw [if_pos hn, if_pos hn]
  · rw [if_neg hn, if_neg hn]
    dsimp only
    cases hr : l.records.get? n with
    | none => rfl
    | some r =>
      cases r with
      | building => exact absurd (h hr) hn
      | settled o => rfl

namespace Session

variable {σ : Type} {site : Site σ} {visit : Visit σ} {n k : Name} {ns as : List Name} {s s' s'' t : Session σ}
  {o : Outcome} {os : List (Name × Outcome)} {p : Plan} {pattern : Option Name} {f : Failure} {depth : Nat}

/-! ## Commands -/

theorem ledger_conclude (site : Site σ) (n : Name) (commands : List Command) (o : Outcome) (s : Session σ) :
    (s.conclude site n commands o).2.ledger = s.ledger := by
  have hkeeps : site.Keeps fun _ => True := ⟨fun _ _ _ => trivial, fun _ _ => trivial⟩
  exact (conclude_eq hkeeps trivial commands o).2

theorem exists_perform_of_run {commands : List Command} (h : (s.run site n commands).1 = some f) :
    ∃ c w, (site.perform n c w).1 = some f := by
  induction commands generalizing s with
  | nil => cases h
  | cons c commands ih =>
    rw [run] at h
    rcases hp : site.perform n c s.world with ⟨_ | g, w⟩ <;> rw [hp] at h
    · exact ih h
    · exact ⟨c, s.world, by rw [hp]; exact h⟩

/-- A target fails with the failure of its dependencies or with that of a command. -/
theorem conclude_eq_some {commands : List Command} (h : (s.conclude site n commands o).1 = some f) :
    o = some f ∨ ∃ c w, (site.perform n c w).1 = some f := by
  cases o with
  | some g => exact .inl h
  | none =>
    have hrun : (s.run site n commands).1 = some f := by
      unfold conclude at h
      rcases hr : s.run site n commands with ⟨_ | g, s'⟩ <;> rw [hr] at h
      · cases h
      · exact h
    exact .inr (exists_perform_of_run hrun)

/-! ## What a visit leaves as it was -/

/-- Only names that are being built wait for something. -/
def Tidy (s : Session σ) : Prop := ∀ k, s.ledger.waits.get? k ≠ none → s.ledger.records.get? k = some .building

/-- In the second session the same names are being built and wait for the same as in the first. -/
structure Restores (s s' : Session σ) : Prop where
  building (k : Name) : s'.ledger.records.get? k = some .building ↔ s.ledger.records.get? k = some .building
  waits (k : Name) : s'.ledger.waits.get? k = s.ledger.waits.get? k

namespace Restores

theorem of_ledger (h : s'.ledger = s.ledger) : Restores s s' := by
  constructor <;> intro k <;> rw [h]

theorem trans (h : Restores s s') (h' : Restores s' s'') : Restores s s'' :=
  ⟨fun k => (h'.building k).trans (h.building k), fun k => (h'.waits k).trans (h.waits k)⟩

theorem tidy (h : Restores s s') (hs : s.Tidy) : s'.Tidy := by
  intro k hk
  rw [h.waits] at hk
  exact (h.building k).2 (hs k hk)

end Restores

theorem Tidy.of_ledger (hs : s.Tidy) (h : s'.ledger = s.ledger) : s'.Tidy := (Restores.of_ledger h).tidy hs

theorem Tidy.waits_eq_none (hs : s.Tidy) (hn : s.ledger.records.get? n = none) : s.ledger.waits.get? n = none := by
  by_contra hwaits
  have hbuilding := hs n hwaits
  rw [hn] at hbuilding
  cases hbuilding

theorem building_enroll (s : Session σ) (n k : Name) : (s.update (·.enroll n)).ledger.records.get? k = some .building ↔
    k = n ∨ s.ledger.records.get? k = some .building := by
  rw [ledger_update, Ledger.records_get?_enroll]
  by_cases hk : k = n <;> simp [hk]

theorem Tidy.enroll (hs : s.Tidy) (n : Name) : (s.update (·.enroll n)).Tidy :=
  fun k hk => (building_enroll s n k).2 (.inr (hs k hk))

/-- A name that is being built may wait for something. -/
theorem Tidy.await (hs : s.Tidy) (hn : s.ledger.records.get? n = some .building) (ds : List Name) :
    (s.update (·.await n ds)).Tidy := by
  intro k hk
  rw [ledger_update, Ledger.waits_get?_await] at hk
  by_cases hkn : k = n
  · subst hkn
    exact hn
  · rw [if_neg hkn] at hk
    exact hs k hk

/-- What was recorded for the visits to the dependencies is forgotten behind them. -/
theorem Restores.release {ds : List Name} (h : Restores (s.update (·.await n ds)) s')
    (hn : s.ledger.waits.get? n = none) : Restores s (s'.update (·.release n)) := by
  refine ⟨h.building, ?_⟩
  intro k
  rw [ledger_update, Ledger.waits_get?_release]
  by_cases hkn : k = n
  · rw [if_pos hkn, hkn, hn]
  · rw [if_neg hkn, h.waits, ledger_update, Ledger.waits_get?_await, if_neg hkn]

/-- A name that is settled after it was enrolled is being built no more than before. -/
theorem Restores.settle (h : Restores (s.update (·.enroll n)) s') (hn : s.ledger.records.get? n = none)
    (o : Outcome) : Restores s (s'.update (·.settle n o)) := by
  refine ⟨?_, h.waits⟩
  intro k
  rw [ledger_update, Ledger.records_get?_settle]
  by_cases hkn : k = n
  · simp [hkn, hn]
  · rw [if_neg hkn, h.building, building_enroll]
    simp [hkn]

/-- A visit leaves no more names being built, and no more waits, than it finds. -/
def Restoring (visit : Visit σ) : Prop := ∀ n s o s', Tidy s → visit n s = some (o, s') → Restores s s'

theorem visitAll_restores (hv : Restoring visit) (hs : s.Tidy) (h : visitAll visit ns s = some (os, s')) :
    Restores s s' := by
  induction ns generalizing s os with
  | nil =>
    cases h
    exact .of_ledger rfl
  | cons n ns ih =>
    simp only [visitAll, Option.bind_eq_some_iff, Option.map_eq_some_iff, Prod.mk.injEq] at h
    obtain ⟨⟨o, mid⟩, hn, ⟨os', s''⟩, hns, -, rfl⟩ := h
    have hfirst := hv n s o mid hs hn
    exact hfirst.trans (ih (hfirst.tidy hs) hns)

theorem carryOut_restores (hv : Restoring visit) (hs : s.Tidy) (hn : s.ledger.records.get? n = some .building)
    (hwaits : s.ledger.waits.get? n = none) (h : carryOut site visit n p s = some (o, s')) : Restores s s' := by
  obtain ⟨⟨os, mid⟩, hall, hend⟩ := Option.map_eq_some_iff.1 h
  have hledger : s'.ledger = (mid.update (·.release n)).ledger := by
    have hconclude := ledger_conclude site n p.commands (blame n os) (mid.update (·.release n))
    rwa [hend] at hconclude
  refine Restores.trans ?_ (.of_ledger hledger)
  by_cases hd : p.dependencies = []
  · -- nothing was recorded, and there is nothing to forget
    rw [if_pos hd, hd] at hall
    cases hall
    exact .of_ledger (Ledger.release_eq_self hwaits)
  · rw [if_neg hd] at hall
    exact (visitAll_restores hv (hs.await hn _) hall).release hwaits

theorem build_restores (hv : Restoring visit) (hs : s.Tidy) (hn : s.ledger.records.get? n = some .building)
    (hwaits : s.ledger.waits.get? n = none) (h : build site visit n s = some (o, s')) : Restores s s' := by
  unfold build at h
  cases hr : site.resolve s.world n with
  | planned p pattern =>
    rw [hr] at h
    have hl := ledger_elim_note site s ((Resolution.planned p pattern).note? n)
    exact .trans (.of_ledger hl) (carryOut_restores hv (hs.of_ledger hl) (hl ▸ hn) (hl ▸ hwaits) h)
  | present | missing =>
    rw [hr] at h
    cases h
    exact .of_ledger rfl

/-- However a visit ends, it settles all that it has begun. -/
theorem visit_restores (site : Site σ) (depth : Nat) (as : List Name) : Restoring (Session.visit site depth as) := by
  induction depth generalizing as with
  | zero =>
    intro n s o s' _ h
    cases h
  | succ depth ih =>
    intro n s o s' hs h
    rw [Session.visit] at h
    cases ha : s.ledger.admission n as with
    | refuse e =>
      rw [ha] at h
      cases h
      exact .of_ledger rfl
    | join =>
      rw [ha] at h
      obtain ⟨o', -, h⟩ := Option.map_eq_some_iff.1 h
      cases h
      exact .of_ledger rfl
    | own =>
      rw [ha] at h
      obtain ⟨⟨o', mid⟩, hbuild, h⟩ := Option.map_eq_some_iff.1 h
      cases h
      have hn := (Ledger.get?_of_own ha).2
      have hself := (building_enroll s n n).2 (.inl rfl)
      have hrest := build_restores (ih _) (hs.enroll n) hself (hs.waits_eq_none hn) hbuild
      exact hrest.settle hn _

/-- Between two requests from outside, whatever became of the first, no name is being built and none waits. -/
theorem AtRest.idle (h : AtRest site s) :
    (∀ k, s.ledger.records.get? k ≠ some .building) ∧ ∀ k, s.ledger.waits.get? k = none := by
  induction h with
  | new w => exact ⟨nofun, fun _ => rfl⟩
  | @executed depth n o s s' _ hexec ih =>
    obtain ⟨hbuilding, hwaits⟩ := ih
    have htidy : s.Tidy := fun k hk => absurd (hwaits k) hk
    have hrest := visit_restores site depth [] n s o s' htidy hexec
    exact ⟨fun k hk => hbuilding k ((hrest.building k).1 hk), fun k => (hrest.waits k).trans (hwaits k)⟩
  | turn w _ ih => exact ih

/-! ## What a circular dependency can come from -/

theorem blame_ne_circular {e : BuildError} {chain : List Name} (h : blame n os = some (.error e)) :
    e ≠ .circular k chain := by
  obtain ⟨-, d, cause, -, -, -, rfl⟩ := blame_eq_error h
  exact nofun

/-- A build that begins reports no cycle on its own account: those below are wrapped up. -/
theorem exists_perform_of_build {chain : List Name}
    (h : build site visit n s = some (some (.error (.circular k chain)), s')) :
    ∃ c w, (site.perform n c w).1 = some (.error (.circular k chain)) := by
  unfold build at h
  cases hr : site.resolve s.world n with
  | planned p pattern =>
    rw [hr] at h
    obtain ⟨t, mid, os, -, -, -, -, hend⟩ := of_carryOut h
    have hfirst := congrArg Prod.fst hend
    rcases conclude_eq_some hfirst with hblame | hperform
    · exact absurd rfl (blame_ne_circular hblame)
    · exact hperform
  | present | missing =>
    rw [hr] at h
    cases h

end Session

/-! ## The requests of a serial build -/

namespace Demand

open Session

variable {σ : Type} {site : Site σ} {d d' : Demand σ} {root : Name} {s : Session σ}

/-- The ancestors of a request are the names that are being built. They lead from `root` to its name, each of them
waiting for the next. -/
structure Nested (root : Name) (d : Demand σ) : Prop where
  tidy : d.session.Tidy
  building (k : Name) : d.session.ledger.records.get? k = some .building ↔ k ∈ d.ancestors
  nodup : d.ancestors.Nodup
  head : (d.ancestors ++ [d.name]).head? = some root
  chain : (d.ancestors ++ [d.name]).IsChain d.session.ledger.waits.Edge

theorem nested_root (h : AtRest site s) (root : Name) :
    Nested root { ancestors := [], name := root, session := s } where
  tidy k hk := absurd (h.idle.2 k) hk
  building k := by simpa using h.idle.1 k
  nodup := List.nodup_nil
  head := rfl
  chain := List.isChain_singleton _

/-- Whoever makes a request is an ancestor of it, and the last one. -/
theorem Nested.makes (h : Nested root d) (hm : d.Makes site d') : Nested root d' := by
  obtain @⟨p, pattern, depth, before, after, n, os, s, hown, hr, hsplit, hbefore⟩ := hm
  obtain ⟨hnot, hnone⟩ := Ledger.get?_of_own hown
  -- the session in which the first dependency is visited
  have hledger : (d.session.opened site d.name p pattern).ledger =
      ((d.session.update (·.enroll d.name)).update (·.await d.name p.dependencies)).ledger := by
    unfold opened
    exact congrArg (·.await d.name p.dependencies) (ledger_elim_note _ _ _)
  have hself := (building_enroll d.session d.name d.name).2 (.inl rfl)
  have htidy := ((h.tidy.enroll d.name).await hself p.dependencies).of_ledger hledger
  have hrest := Restores.trans (.of_ledger hledger) (visitAll_restores (visit_restores site depth _) htidy hbefore)
  have hwaits : ∀ k, s.ledger.waits.get? k =
      if k = d.name then some p.dependencies else d.session.ledger.waits.get? k := by
    intro k
    rw [hrest.waits, ledger_update, Ledger.waits_get?_await, ledger_update, Ledger.waits_enroll]
  refine ⟨hrest.tidy ((h.tidy.enroll d.name).await hself p.dependencies), ?_, ?_, ?_, ?_⟩
  · intro k
    have hbuilding := (hrest.building k).trans (building_enroll d.session d.name k)
    rw [hbuilding, h.building, List.mem_append, List.mem_singleton, or_comm]
  · rw [List.nodup_append]
    refine ⟨h.nodup, List.nodup_singleton _, ?_⟩
    rintro k hk _ hself rfl
    rw [List.mem_singleton] at hself
    exact hnot (hself ▸ hk)
  · rw [List.head?_append, h.head]
    rfl
  · -- the older waits are still there, and the new ones lead to the dependency
    have hkeep : ∀ a b, d.session.ledger.waits.Edge a b → s.ledger.waits.Edge a b := by
      intro a b hab
      have ha : a ≠ d.name := by
        rintro rfl
        rw [Waits.Edge, h.tidy.waits_eq_none hnone] at hab
        cases hab
      rwa [Waits.Edge, hwaits, if_neg ha]
    have hnew : s.ledger.waits.Edge d.name n := by
      rw [Waits.Edge, hwaits, if_pos rfl, Option.getD_some, hsplit]
      simp
    rw [List.isChain_append]
    refine ⟨h.chain.imp hkeep, List.isChain_singleton _, ?_⟩
    simpa using hnew

theorem Nested.reaches (h : Nested root d) (hm : ReflTransGen (Makes site) d d') : Nested root d' := by
  induction hm with
  | refl => exact h
  | tail _ hm ih => exact ih.makes hm

/-- The chain leads from `root` to `target`, which it has passed once before. It passes no other name twice. -/
structure Closes (edge : Name → Name → Prop) (root target : Name) (chain : List Name) : Prop where
  starts : chain.head? = some root
  linked : chain.IsChain edge
  closed : ∃ before after, chain = before ++ target :: after ++ [target]
  twice : chain.count target = 2
  once {k : Name} : k ≠ target → chain.count k ≤ 1

theorem Nested.closes (h : Nested root d) (hd : d.name ∈ d.ancestors) :
    Closes d.session.ledger.waits.Edge root d.name (d.ancestors ++ [d.name]) where
  starts := h.head
  linked := h.chain
  closed := by
    obtain ⟨before, after, hsplit⟩ := List.append_of_mem hd
    exact ⟨before, after, by rw [← hsplit]⟩
  twice := by
    rw [List.count_append, List.count_eq_one_of_mem h.nodup hd, List.count_singleton_self]
  once hk := by
    rw [List.count_append, List.count_singleton, if_neg (by simpa using Ne.symm hk)]
    exact List.nodup_iff_count_le_one.1 h.nodup _

/-- Whatever earlier requests from outside came to and whatever was changed since, for every request that is made in a
serial build of `root`:

* the names that are being built are its ancestors, which are all different; so a name that was requested before is an
  ancestor or has its outcome;
* whether it is admitted does not depend on the waits; if it joins, the outcome is there and is its answer at once;
* it is refused only with the chain of its ancestors, which leads from `root` to its name and closes there;
* if it answers with a circular dependency, then with one on record, or because it is refused, or because a command
  failed with it. -/
theorem serial_cycles (hs : AtRest site s)
    (hd : ReflTransGen (Makes site) { ancestors := [], name := root, session := s } d) :
    (∀ k, d.session.ledger.status k = .inProgress ↔ k ∈ d.ancestors) ∧ d.ancestors.Nodup ∧
    (∀ k, d.session.ledger.status k ≠ .unstarted → k ∈ d.ancestors ∨ ∃ o, d.session.ledger.outcome? k = some o) ∧
    (∀ w, Ledger.admission { d.session.ledger with waits := w } d.name d.ancestors =
      d.session.ledger.admission d.name d.ancestors) ∧
    (d.session.ledger.admission d.name d.ancestors = .join → ∃ o, d.session.ledger.outcome? d.name = some o ∧
      ∀ depth, visit site (depth + 1) d.ancestors d.name d.session = some (o, d.session.note site (.joining d.name))) ∧
    (∀ e, d.session.ledger.admission d.name d.ancestors = .refuse e →
      e = .circular d.name (d.ancestors ++ [d.name]) ∧
      Closes d.session.ledger.waits.Edge root d.name (d.ancestors ++ [d.name])) ∧
    ∀ depth k chain s', visit site depth d.ancestors d.name d.session = some (some (.error (.circular k chain)), s') →
      d.session.ledger.outcome? d.name = some (some (.error (.circular k chain))) ∨
      d.session.ledger.admission d.name d.ancestors = .refuse (.circular k chain) ∨
      ∃ c w, (site.perform d.name c w).1 = some (.error (.circular k chain)) := by
  have hnested := (nested_root hs root).reaches hd
  have hancestor : d.session.ledger.records.get? d.name = some .building → d.name ∈ d.ancestors :=
    (hnested.building d.name).1
  have hjoin : d.session.ledger.admission d.name d.ancestors = .join →
      ∃ o, d.session.ledger.outcome? d.name = some o := by
    intro ha
    obtain ⟨hnot, ⟨o, ho⟩ | ⟨hb, -⟩⟩ := Ledger.get?_of_join ha
    · exact ⟨o, Ledger.outcome?_eq_some_iff.2 ho⟩
    · exact absurd (hancestor hb) hnot
  refine ⟨?_, hnested.nodup, ?_, Ledger.admission_of_waits hancestor, ?_, ?_, ?_⟩
  · intro k
    rw [Ledger.status_eq_inProgress_iff, hnested.building]
  · intro k hk
    rw [Ne, Ledger.status_eq_unstarted_iff] at hk
    obtain ⟨r, hr⟩ := Option.ne_none_iff_exists'.1 hk
    cases r with
    | building => exact .inl ((hnested.building k).1 hr)
    | settled o => exact .inr ⟨o, Ledger.outcome?_eq_some_iff.2 hr⟩
  · intro ha
    obtain ⟨o, ho⟩ := hjoin ha
    refine ⟨o, ho, ?_⟩
    intro depth
    rw [visit, ha, ho]
    rfl
  · intro e ha
    obtain ⟨rfl, hd⟩ := Ledger.eq_of_refuse ha
    exact ⟨rfl, hnested.closes (hd.elim id fun hb => hancestor hb.1)⟩
  · intro depth k chain s' hvisit
    cases depth with
    | zero => cases hvisit
    | succ depth =>
      rw [visit] at hvisit
      cases ha : d.session.ledger.admission d.name d.ancestors with
      | refuse e =>
        rw [ha] at hvisit
        cases hvisit
        exact .inr (.inl rfl)
      | join =>
        rw [ha] at hvisit
        obtain ⟨o, ho, hend⟩ := Option.map_eq_some_iff.1 hvisit
        cases hend
        exact .inl ho
      | own =>
        rw [ha] at hvisit
        obtain ⟨⟨o, mid⟩, hbuild, hend⟩ := Option.map_eq_some_iff.1 hvisit
        cases hend
        exact .inr (.inr (exists_perform_of_build hbuild))

/-- A command fails, and rules are added. They lead to the failed name, which is not built again, and back. -/
theorem serial_cycles_later : ∃ (site : Site Rulebook) (s : Session Rulebook) (d : Demand Rulebook), AtRest site s ∧
    ReflTransGen (Makes site) { ancestors := [], name := lit "c", session := s } d ∧
    d.session.ledger.status (lit "a") = .failed ∧
    d.session.ledger.admission d.name d.ancestors = .refuse (.circular (lit "c") [lit "c", lit "d", lit "c"]) ∧
    Closes d.session.ledger.waits.Edge (lit "c") (lit "c") [lit "c", lit "d", lit "c"] := by
  let site : Site Rulebook := {
    resolve b n := Build.resolve b (fun _ => false) n
    perform _ _ b := (some (.error (.general [])), b)
    note _ b := b }
  let failing : Rulebook := { rules := [{ name := lit "a", commands := [{ text := lit "make a" }] }] }
  let added : Rulebook := failing.addAll [{ name := lit "c", dependencies := [lit "d"] },
    { name := lit "d", dependencies := [lit "a", lit "c"] }]
  let first := (execute site 1 (lit "a") { world := failing }).get (by decide +kernel)
  let s : Session Rulebook := { first.2 with world := added }
  have hs : AtRest site s := .turn added (.executed (.new failing) (Option.some_get _).symm)
  -- `c` asks for `d`, which asks for `a`, and then for `c` again
  let s₁ := s.opened site (lit "c") ⟨[lit "d"], []⟩ none
  let s₂ := s₁.opened site (lit "d") ⟨[lit "a", lit "c"], []⟩ none
  let joined := (visitAll (visit site 1 [lit "c", lit "d"]) [lit "a"] s₂).get (by decide +kernel)
  let d : Demand Rulebook := ⟨[lit "c", lit "d"], lit "c", joined.2⟩
  have hfirst : Makes site ⟨[], lit "c", s⟩ ⟨[lit "c"], lit "d", s₁⟩ :=
    @Makes.dependency _ site ⟨[], lit "c", s⟩ ⟨[lit "d"], []⟩ none 0 [] [] _ _ _
      (by decide +kernel) (by decide +kernel) rfl rfl
  have hsecond : Makes site ⟨[lit "c"], lit "d", s₁⟩ d :=
    @Makes.dependency _ site ⟨[lit "c"], lit "d", s₁⟩ ⟨[lit "a", lit "c"], []⟩ none 1 [lit "a"] [] _ _ _
      (by decide +kernel) (by decide +kernel) rfl (Option.some_get _).symm
  have hpath : ReflTransGen (Makes site) ⟨[], lit "c", s⟩ d := .tail (.single hfirst) hsecond
  obtain ⟨-, -, -, -, -, hrefuse, -⟩ := serial_cycles hs hpath
  have ha : d.session.ledger.admission d.name d.ancestors =
      .refuse (.circular (lit "c") [lit "c", lit "d", lit "c"]) := by
    decide +kernel
  exact ⟨site, s, d, hs, hpath, by decide +kernel, ha, (hrefuse _ ha).2⟩

end Demand

end Buildfile.Build
