import Buildfile.Proofs.Soundness
import Mathlib
/-!
# A build that reaches finitely many names comes to an end

Every step uses up potential: a call that has not returned counts for the steps that it can still
take, a plan for the calls that it will start, and a name that nobody owns yet for what its owner
will have to do. `length_play_le` bounds the length of every schedule by the potential at its start,
whatever the rulebook looks like, as long as the roots reach finitely many names.
-/

namespace Buildfile.Build

open Relation

variable {b : Rulebook} {S : Finset Name} {cs : List Call} {i : CallId} {c : Call} {p : Phase}
  {recs recs' : Table Name Record} {n : Name}

/-! ## Potential -/

/-- The steps of an owner from its resolution on, and of the calls it starts as long as they own nothing. -/
def ownCost : Option Plan → Nat
  | none => 2
  | some p => 9 + 2 * p.commands.length + 2 * p.dependencies.length

theorem one_lt_ownCost (plan : Option Plan) : 1 < ownCost plan := by
  cases plan with
  | none => exact Nat.one_lt_two
  | some p =>
    simp only [ownCost]
    omega

/-- The steps that are left to a call in this phase, for a name with this plan. -/
def Phase.cost (plan : Option Plan) : Phase → Nat
  | requested => 2
  | joined => 1
  | resolving => ownCost plan
  | planned p => 8 + 2 * p.commands.length + 2 * p.dependencies.length
  | recorded p => 7 + 2 * p.commands.length + 2 * p.dependencies.length
  | waiting p _ => 6 + 2 * p.commands.length
  | gathered p _ => 5 + 2 * p.commands.length
  | queued commands => 4 + 2 * commands.length
  | holding commands => 3 + 2 * commands.length
  | running _ rest => 4 + 2 * rest.length
  | leaving _ => 2
  | closing _ => 1
  | returned _ => 0

/-- The steps that are left to the calls. -/
def callsCost (b : Rulebook) (cs : List Call) : Nat := (cs.map fun c => c.phase.cost (b.plan? c.name)).sum

/-- The steps that are left to the names which nobody owns yet. -/
def freeCost (b : Rulebook) (S : Finset Name) (recs : Table Name Record) : Nat :=
  ∑ k ∈ S, if recs.get? k = none then ownCost (b.plan? k) else 0

/-- The steps that are left to a machine whose calls are all for names in `S`. -/
def Machine.potential {σ : Type} (b : Rulebook) (S : Finset Name) (m : Machine σ) : Nat :=
  callsCost b m.calls + freeCost b S m.ledger.records

theorem callsCost_enterAt (hc : cs[i]? = some c) (p : Phase) :
    callsCost b (enterAt cs i p) + c.phase.cost (b.plan? c.name) =
      callsCost b cs + p.cost (b.plan? c.name) := by
  obtain ⟨l₁, l₂, hcs, hm⟩ := exists_enterAt_eq hc p
  rw [hm, hcs]
  simp only [callsCost, List.map_append, List.map_cons, List.sum_append, List.sum_cons]
  omega

theorem callsCost_append_child (cs : List Call) (c : Call) (ds : List Name) :
    callsCost b (cs ++ ds.map c.child) = callsCost b cs + 2 * ds.length := by
  simp only [callsCost, List.map_append, List.sum_append, List.map_map]
  congr 1
  induction ds with
  | nil => rfl
  | cons d ds ih =>
    rw [List.map_cons, List.sum_cons, ih, List.length_cons]
    simp only [Function.comp_apply, Call.child, Phase.cost]
    omega

theorem freeCost_congr (h : ∀ k, recs'.get? k = none ↔ recs.get? k = none) :
    freeCost b S recs' = freeCost b S recs :=
  Finset.sum_congr rfl fun k _ => by simp only [h k]

/-- A name that finds an owner is not free any more. -/
theorem freeCost_enroll {l : Ledger} (hn : n ∈ S) (hnone : l.records.get? n = none) :
    freeCost b S (l.enroll n).records + ownCost (b.plan? n) = freeCost b S l.records := by
  unfold freeCost
  rw [← Finset.add_sum_erase S _ hn,
    ← Finset.add_sum_erase S (fun k => if l.records.get? k = none then _ else 0) hn]
  have hrest : ∀ k ∈ S.erase n, (if (l.enroll n).records.get? k = none then ownCost (b.plan? k) else 0) =
      if l.records.get? k = none then ownCost (b.plan? k) else 0 := by
    intro k hk
    rw [Ledger.records_get?_enroll, if_neg (Finset.ne_of_mem_erase hk)]
  rw [Finset.sum_congr rfl hrest, Ledger.records_get?_enroll, if_pos rfl, if_neg (by simp), if_pos hnone]
  omega

/-! ## Every step uses up potential -/

namespace Machine

variable {σ : Type} {site : Site σ} {m m' : Machine σ}

theorem potential_enter (hc : m.calls[i]? = some c) (hcalls : m'.calls = enterAt m.calls i p)
    (hrec : ∀ k, m'.ledger.records.get? k = none ↔ m.ledger.records.get? k = none)
    (hcost : p.cost (b.plan? c.name) < c.phase.cost (b.plan? c.name)) :
    m'.potential b S < m.potential b S := by
  have hsum := callsCost_enterAt (b := b) hc p
  unfold potential
  rw [hcalls, freeCost_congr hrec]
  omega

theorem potential_lt_of_moves (hco : Coherent m.ledger m.calls) (hfollows : site.Follows b m.world)
    (hn : c.name ∈ S) (hc : m.calls[i]? = some c) (hm : Moves site m i c m') :
    m'.potential b S < m.potential b S := by
  obtain ⟨isFile, hres⟩ := hfollows
  cases hm with
  | own hp ha =>
    -- what the name was worth while it was free goes over to its owner
    have hnone := (Ledger.get?_of_own ha).2
    have hsum := callsCost_enterAt (b := b) hc .resolving
    have hfree := freeCost_enroll (b := b) hn hnone
    rw [hp] at hsum
    simp only [Phase.cost] at hsum
    change callsCost b (enterAt m.calls i .resolving) + freeCost b S (m.ledger.enroll c.name).records < _
    unfold potential
    omega
  | @spawn pl hp =>
    have hc' : (m.calls ++ pl.dependencies.map c.child)[i]? = some c := getElem?_append_of_eq_some hc _
    -- a recorded plan counts two steps for each call that it starts
    have hsum := callsCost_enterAt (b := b) hc'
      (.waiting pl (List.range' m.calls.length pl.dependencies.length))
    rw [callsCost_append_child, hp] at hsum
    simp only [Phase.cost] at hsum
    change callsCost b (enterAt (m.calls ++ pl.dependencies.map c.child) i _) +
      freeCost b S m.ledger.records < _
    unfold potential
    omega
  | publish hp =>
    refine potential_enter hc rfl (fun k => ?_) (by rw [hp]; exact Nat.zero_lt_one)
    have hb := hco.owner_building hc (by rw [hp]; rfl)
    simp only [enter_ledger, update_ledger, Ledger.records_get?_settle]
    split
    · next hk => simp [hk, hb]
    · exact Iff.rfl
  | @plan pl _ hp hr _ =>
    refine potential_enter (p := .planned pl) hc (by simp) (fun _ => by simp) ?_
    rw [hp, Rulebook.plan?_of_resolve (hres c.name ▸ hr)]
    simp only [Phase.cost, ownCost]
    omega
  | @queue pl _ hp hr _ =>
    refine potential_enter (p := .queued pl.commands) hc (by simp) (fun _ => by simp) ?_
    rw [hp, Rulebook.plan?_of_resolve (hres c.name ▸ hr)]
    simp only [Phase.cost, ownCost]
    omega
  | find hp _ | miss hp _ =>
    refine potential_enter hc rfl (fun _ => Iff.rfl) ?_
    rw [hp]
    exact one_lt_ownCost _
  | @leave o hp =>
    refine potential_enter (p := .closing o) hc (by simp) (fun _ => by simp) ?_
    rw [hp]
    exact Nat.one_lt_two
  | acquire hp hs =>
    obtain ⟨free, rfl, -⟩ := eq_of_takeSlot hs
    refine potential_enter hc rfl (fun _ => Iff.rfl) ?_
    rw [hp]
    simp only [Phase.cost]
    omega
  | join hp _ | refuse hp _ | inherit hp _ | record hp | gather hp _ | proceed hp | abandon hp | skip hp
  | exhaust hp | launch hp | pass hp _ | fail hp _ =>
    refine potential_enter hc rfl (fun _ => Iff.rfl) ?_
    rw [hp]
    simp only [Phase.cost, List.length_cons]
    omega

/-- A schedule is no longer than the potential it uses up, if the roots reach names in `S` only. -/
theorem length_play_le {ok : σ → Prop} {jobs : Option Int} (hkeeps : site.Keeps ok)
    (hfollows : ∀ w, ok w → site.Follows b w) (hS : ∀ r ∈ m.roots, ∀ k, ReflTransGen b.Needs r k → k ∈ S)
    (h : Reachable site ok jobs m) {schedule : List CallId} (hp : m.play site schedule = some m') :
    schedule.length + m'.potential b S ≤ m.potential b S := by
  induction schedule generalizing m with
  | nil =>
    cases hp
    simp
  | cons i schedule ih =>
    simp only [Machine.play, Option.bind_eq_some_iff] at hp
    obtain ⟨m₁, hs, hp⟩ := hp
    obtain ⟨c, hc, hm⟩ := step_iff.1 hs
    have hok := h.ok_world
    have hsound := sound_of_follows (fun _ _ _ => True) (h.mono hfollows) fun _ _ _ _ => trivial
    obtain ⟨r, hr, hpath⟩ := exists_root hsound hc
    have hlt := potential_lt_of_moves (reachable_coherent h) (hfollows _ hok) (hS r hr _ hpath) hc hm
    have hrest := ih (fun r hr => hS r ((mem_roots_of_step hs).1 hr))
      (h.next (.step hs) (ok_of_step hkeeps hok hs)) hp
    rw [List.length_cons]
    omega

end Machine

end Buildfile.Build
