import Buildfile.Proofs.Projection
import Buildfile.Proofs.Traversal
/-!
# What a build sees

Files come and go while a build runs, and a command that fails now may succeed later, so what can be built is a matter
of when one looks. A serial build looks up each name once, though. A watched site keeps a list of what the build has
come upon: the names without a rule that were files, and the commands that failed. By this list the build ends well
exactly if its name can be built (`execute_watched`), whatever the site does in the meantime.

Every settled name is accounted for by the list and by the records of what it needs (`Accounts`). A name is added to
the list only while its owner is at work, so an account that holds when a name is settled holds for good.
-/

namespace Buildfile.Build

open Relation

variable {σ : Type}

/-- What a build comes upon that it depends on. -/
inductive Sight where
  /-- The name has no rule and is a file. -/
  | found (n : Name)
  /-- The command of the name has failed. -/
  | failed (n : Name) (c : Command)
  deriving DecidableEq, Repr, Inhabited

namespace Sight

/-- The name that something was seen of. -/
def name : Sight → Name
  | found n | failed n _ => n

/-- Whether the name was found as a file. -/
def isFile (log : List Sight) (n : Name) : Bool := .found n ∈ log

/-- Whether the command has not failed for the name. -/
def succeeds (log : List Sight) (n : Name) (c : Command) : Bool := .failed n c ∉ log

end Sight

/-- The site with a list of what a build has come upon. -/
def Site.watched (site : Site σ) : Site (σ × List Sight) where
  resolve w n := site.resolve w.1 n
  perform n c w :=
    match site.perform n c w.1 with
    | (none, w') => (none, w', w.2)
    | (some f, w') => (some f, w', w.2 ++ [.failed n c])
  note k w :=
    (site.note k w.1, match k with
      | .existing n => w.2 ++ [.found n]
      | _ => w.2)

theorem Site.projects_watched (site : Site σ) : site.watched.Projects Prod.fst site := by
  refine ⟨fun _ _ => rfl, fun n c w => ?_, fun _ _ => rfl⟩
  simp only [watched]
  rcases site.perform n c w.1 with ⟨_ | f, w'⟩ <;> rfl

theorem Site.Keeps.watched {site : Site σ} {ok : σ → Prop} (hk : site.Keeps ok) :
    site.watched.Keeps fun w => ok w.1 := by
  refine ⟨fun {w} n c hw => ?_, fun k hw => hk.note k hw⟩
  have hperf := hk.perform n c hw
  simp only [Site.watched]
  rcases hp : site.perform n c w.1 with ⟨_ | f, w'⟩ <;> rw [hp] at hperf <;> exact hperf

/-! ## Accounts -/

variable {b : Rulebook} {recs recs' : Table Name Record} {log log' : List Sight} {n d : Name} {o : Outcome}
  {p : Plan}

/-- A request for the name has this answer: it is on record, or it is a failure and the name needs itself. -/
def Replied (b : Rulebook) (recs : Table Name Record) (n : Name) (o : Outcome) : Prop :=
  recs.get? n = some (.settled o) ∨ o ≠ none ∧ TransGen b.Needs n n

/-- Why a name ended well or not. -/
inductive Accounts (b : Rulebook) (recs : Table Name Record) (log : List Sight) (n : Name) : Outcome → Prop
  | present : b.plan? n = none → .found n ∈ log → Accounts b recs log n none
  | missing {f : Failure} : b.plan? n = none → .found n ∉ log → Accounts b recs log n (some f)
  | done {p : Plan} : b.plan? n = some p → (∀ d ∈ p.dependencies, recs.get? d = some (.settled none)) →
      (∀ c ∈ p.commands, .failed n c ∉ log) → Accounts b recs log n none
  | blamed {p : Plan} {d : Name} {f g : Failure} : b.plan? n = some p → d ∈ p.dependencies →
      Replied b recs d (some g) → Accounts b recs log n (some f)
  | broken {p : Plan} {c : Command} {f : Failure} : b.plan? n = some p → c ∈ p.commands → .failed n c ∈ log →
      Accounts b recs log n (some f)

/-- All records of one table are in the other. -/
def Kept (recs recs' : Table Name Record) : Prop := ∀ n r, recs.get? n = some r → recs'.get? n = some r

theorem Kept.trans {recs'' : Table Name Record} (h : Kept recs recs') (h' : Kept recs' recs'') : Kept recs recs'' :=
  fun n r hr => h' n r (h n r hr)

theorem Replied.mono (h : Replied b recs n o) (hrecs : ∀ k q, recs.get? k = some (.settled q) →
    recs'.get? k = some (.settled q)) : Replied b recs' n o := by
  rcases h with h | h
  · exact .inl (hrecs n o h)
  · exact .inr h

/-- An account stays true as long as nothing more is seen of its name. -/
theorem Accounts.mono (h : Accounts b recs log n o) (hrecs : ∀ k q, recs.get? k = some (.settled q) →
    recs'.get? k = some (.settled q)) (hlog : ∀ x : Sight, x.name = n → (x ∈ log' ↔ x ∈ log)) :
    Accounts b recs' log' n o := by
  cases h with
  | present hp hf => exact .present hp ((hlog _ rfl).2 hf)
  | missing hp hf => exact .missing hp ((hlog _ rfl).not.2 hf)
  | done hp hds hcs => exact .done hp (fun d hd => hrecs d none (hds d hd)) fun c hc => (hlog _ rfl).not.2 (hcs c hc)
  | blamed hp hd hr => exact .blamed hp hd (hr.mono hrecs)
  | broken hp hc hf => exact .broken hp hc ((hlog _ rfl).2 hf)

namespace Session

variable {site : Site σ} {ok : σ → Prop} {ancestors ns : List Name} {s s' t : Session (σ × List Sight)}

/-- Every settled name is accounted for, and nothing was seen of any other. -/
structure Accounted (b : Rulebook) (s : Session (σ × List Sight)) : Prop where
  settled {n : Name} {o : Outcome} : s.ledger.records.get? n = some (.settled o) →
    Accounts b s.ledger.records s.world.2 n o
  seen {x : Sight} : x ∈ s.world.2 → ∃ o, s.ledger.records.get? x.name = some (.settled o)

namespace Accounted

theorem congr (h : Accounted b s) (hl : t.ledger.records = s.ledger.records) (hw : t.world.2 = s.world.2) :
    Accounted b t := by
  refine ⟨fun ho => ?_, fun hx => ?_⟩
  · rw [hl, hw]
    exact h.settled (hl ▸ ho)
  · rw [hl]
    exact h.seen (hw ▸ hx)

theorem not_seen (h : Accounted b s) (hn : ∀ o, s.ledger.records.get? n ≠ some (.settled o)) {x : Sight}
    (hx : x.name = n) : x ∉ s.world.2 := by
  intro hmem
  obtain ⟨o, ho⟩ := h.seen hmem
  exact hn o (hx ▸ ho)

theorem enroll (h : Accounted b s) (hn : s.ledger.records.get? n = none) : Accounted b (s.update (·.enroll n)) := by
  have hsettled : ∀ k o, (s.update (·.enroll n)).ledger.records.get? k = some (.settled o) ↔
      s.ledger.records.get? k = some (.settled o) := by
    intro k o
    rw [records_get?_enroll]
    split
    · next hk => simp [hk, hn]
    · rfl
  refine ⟨fun {k o} ho => ?_, fun hx => ?_⟩
  · exact (h.settled ((hsettled k o).1 ho)).mono (fun k q => (hsettled k q).2) fun _ _ => Iff.rfl
  · obtain ⟨o, ho⟩ := h.seen hx
    exact ⟨o, (hsettled _ o).2 ho⟩

/-- A name that is being built is settled, once there is an account of it. -/
theorem settle (h : Accounted b t) (hn : t.ledger.records.get? n = some .building)
    (hl : s.ledger.records = t.ledger.records) {new : List Sight} (hw : s.world.2 = t.world.2 ++ new)
    (hnew : ∀ x ∈ new, x.name = n) (ho : Accounts b t.ledger.records s.world.2 n o) :
    Accounted b (s.update (·.settle n o)) := by
  have hget : ∀ k, (s.update (·.settle n o)).ledger.records.get? k =
      if k = n then some (.settled o) else t.ledger.records.get? k := by
    intro k
    rw [records_get?_settle, hl]
  have hkept : ∀ k q, t.ledger.records.get? k = some (.settled q) →
      (s.update (·.settle n o)).ledger.records.get? k = some (.settled q) := by
    intro k q hq
    rw [hget, if_neg (fun hk => by rw [hk, hn] at hq; cases hq), hq]
  refine ⟨fun {k q} hq => ?_, fun {x} hx => ?_⟩
  · rw [hget] at hq
    split at hq
    · next hk =>
      cases hq
      exact hk ▸ ho.mono hkept fun _ _ => Iff.rfl
    · next hk =>
      refine (h.settled hq).mono hkept fun x hx => ?_
      have hother : x ∉ new := fun hmem => hk (hx.symm.trans (hnew x hmem))
      change x ∈ s.world.2 ↔ _
      rw [hw, List.mem_append, or_iff_left hother]
  · change x ∈ s.world.2 at hx
    rw [hw, List.mem_append] at hx
    rcases hx with hx | hx
    · obtain ⟨q, hq⟩ := h.seen hx
      exact ⟨q, hkept _ q hq⟩
    · exact ⟨o, by rw [hget, if_pos (hnew x hx)]⟩

end Accounted

/-! ## Commands -/

/-- What a list comes to when these commands of a name have been tried. -/
inductive Tried (n : Name) (commands : List Command) (log : List Sight) : Outcome → List Sight → Prop
  | passed : Tried n commands log none log
  | failed {c : Command} {f : Failure} : c ∈ commands → Tried n commands log (some f) (log ++ [.failed n c])

theorem Tried.cons {commands : List Command} (h : Tried n commands log o log') (c : Command) :
    Tried n (c :: commands) log o log' := by
  cases h with
  | passed => exact .passed
  | failed hc => exact .failed (List.mem_cons_of_mem c hc)

theorem run_tried {commands : List Command} (h : s.run site.watched n commands = (o, s')) :
    s'.ledger = s.ledger ∧ Tried n commands s.world.2 o s'.world.2 := by
  induction commands generalizing s with
  | nil =>
    cases h
    exact ⟨rfl, .passed⟩
  | cons c commands ih =>
    rw [run] at h
    simp only [Site.watched] at h
    rcases hp : site.perform n c s.world.1 with ⟨_ | f, w⟩ <;> rw [hp] at h
    · obtain ⟨hl, htried⟩ := ih h
      exact ⟨hl, htried.cons c⟩
    · cases h
      exact ⟨rfl, .failed List.mem_cons_self⟩

/-- A failure of the dependencies is passed on; else the commands are tried. -/
theorem conclude_tried {commands : List Command} {q : Outcome}
    (h : s.conclude site.watched n commands q = (o, s')) : s'.ledger = s.ledger ∧
      ((∃ f, q = some f ∧ o = some f ∧ s'.world.2 = s.world.2) ∨
        q = none ∧ Tried n commands s.world.2 o s'.world.2) := by
  unfold conclude at h
  cases q with
  | some f =>
    cases h
    exact ⟨rfl, .inl ⟨f, rfl, rfl, rfl⟩⟩
  | none =>
    dsimp only at h
    rcases hr : s.run site.watched n commands with ⟨_ | f, t⟩ <;> rw [hr] at h <;> cases h
    · obtain ⟨hl, htried⟩ := run_tried hr
      exact ⟨hl, .inr ⟨rfl, htried⟩⟩
    · obtain ⟨hl, htried⟩ := run_tried hr
      exact ⟨hl, .inr ⟨rfl, htried⟩⟩

/-! ## Dependencies -/

/-- From the first session to the second, requests for these names got these answers, and all is accounted for. -/
structure Reckons (b : Rulebook) (s : Session (σ × List Sight)) (os : List (Name × Outcome))
    (s' : Session (σ × List Sight)) : Prop where
  kept : Kept s.ledger.records s'.ledger.records
  accounted : Accounted b s'
  replied : ∀ a ∈ os, Replied b s'.ledger.records a.1 a.2

/-- A visit accounts for its name wherever all that is being built needs it. -/
def Reckoned (ok : σ → Prop) (b : Rulebook) (ancestors : List Name) (visit : Visit (σ × List Sight)) : Prop :=
  ∀ n s o s', Within (fun w => ok w.1) ancestors s → Accounted b s → (∀ a ∈ ancestors, TransGen b.Needs a n) →
    visit n s = some (o, s') → Reckons b s [(n, o)] s'

theorem visitAll_reckons {visit : Visit (σ × List Sight)} (hv : Walks (fun w => ok w.1) b ancestors visit)
    (hr : Reckoned ok b ancestors visit) {os : List (Name × Outcome)} (hs : Within (fun w => ok w.1) ancestors s)
    (ha : Accounted b s) (hns : ∀ d ∈ ns, ∀ a ∈ ancestors, TransGen b.Needs a d)
    (h : visitAll visit ns s = some (os, s')) : os.map (·.1) = ns ∧ Reckons b s os s' := by
  induction ns generalizing s os with
  | nil =>
    cases h
    exact ⟨rfl, fun _ _ => id, ha, nofun⟩
  | cons n ns ih =>
    simp only [visitAll, Option.bind_eq_some_iff, Option.map_eq_some_iff, Prod.mk.injEq] at h
    obtain ⟨⟨o, mid⟩, hn, ⟨os', s''⟩, hrest, rfl, rfl⟩ := h
    obtain ⟨order, horder⟩ := hv n s o mid hs hn
    obtain ⟨hkept, hmid, hreply⟩ := hr n s o mid hs ha (hns n List.mem_cons_self) hn
    obtain ⟨hmap, hkept', hend, hreplies⟩ :=
      ih (horder.within hs) hmid (fun d hd => hns d (List.mem_cons_of_mem _ hd)) hrest
    refine ⟨by rw [List.map_cons, hmap], hkept.trans hkept', hend, ?_⟩
    rintro a ha
    rcases List.mem_cons.1 ha with rfl | ha
    · exact (hreply _ (List.mem_singleton.2 rfl)).mono fun k q => hkept' k _
    · exact hreplies a ha

/-! ## Visits -/

/-- From the first session to the second, the owner of `n` has done its work, which ended like this. Its name is not
settled yet, but there is an account of it. -/
def Works (b : Rulebook) (n : Name) (s : Session (σ × List Sight)) (o : Outcome) (s' : Session (σ × List Sight)) :
    Prop :=
  ∃ (mid : Session (σ × List Sight)) (new : List Sight), Kept s.ledger.records mid.ledger.records ∧
    Accounted b mid ∧ s'.ledger.records = mid.ledger.records ∧ s'.world.2 = mid.world.2 ++ new ∧
    (∀ x ∈ new, x.name = n) ∧ Accounts b mid.ledger.records s'.world.2 n o

/-- A name of which no dependency failed has all of them settled. -/
theorem settled_of_blame {os : List (Name × Outcome)} (hos : os.map (·.1) = p.dependencies)
    (hreplied : ∀ a ∈ os, Replied b recs a.1 a.2) (hb : blame n os = none) :
    ∀ d ∈ p.dependencies, recs.get? d = some (.settled none) := by
  intro d hd
  rw [← hos, List.mem_map] at hd
  obtain ⟨a, ha, rfl⟩ := hd
  have hnone := (blame_eq_none_iff n os).1 hb a ha
  rcases hreplied a ha with hr | ⟨hne, -⟩
  · rw [hr, hnone]
  · exact absurd hnone hne

theorem carryOut_works {visit : Visit (σ × List Sight)} (hv : Walks (fun w => ok w.1) b ancestors visit)
    (hr : Reckoned ok b ancestors visit) (hs : Within (fun w => ok w.1) ancestors s) (ha : Accounted b s)
    (hns : ∀ d ∈ p.dependencies, ∀ a ∈ ancestors, TransGen b.Needs a d) (hp : b.plan? n = some p)
    (hn : s.ledger.records.get? n = some .building) (h : carryOut site.watched visit n p s = some (o, s')) :
    Works b n s o s' := by
  obtain ⟨t, mid, os, hworld, hrecords, -, hall, hend⟩ := of_carryOut h
  have hts : Within (fun w => ok w.1) ancestors t := hs.congr (hworld ▸ hs.world) hrecords
  have hta : Accounted b t := ha.congr hrecords (by rw [hworld])
  obtain ⟨hos, hkept, hmid, hreplied⟩ := visitAll_reckons hv hr hts hta hns hall
  rw [hrecords] at hkept
  obtain ⟨hl, hcases⟩ := conclude_tried hend
  have hrecs : s'.ledger.records = mid.ledger.records := by rw [hl]; rfl
  rcases hcases with ⟨f, hblame, rfl, hw⟩ | ⟨hblame, htried⟩
  · obtain ⟨d, g, hmem, -⟩ := exists_of_blame_eq_some hblame
    have hd : d ∈ p.dependencies := hos ▸ List.mem_map_of_mem hmem
    exact ⟨mid, [], hkept, hmid, hrecs, hw.trans (List.append_nil _).symm, nofun, .blamed hp hd (hreplied _ hmem)⟩
  · have hunseen : ∀ c, .failed n c ∉ mid.world.2 := fun c =>
      hmid.not_seen (n := n) (fun q hq => by rw [hkept n _ hn] at hq; cases hq) rfl
    generalize hlog : s'.world.2 = log at htried
    cases htried with
    | passed =>
      have hdone := settled_of_blame hos hreplied hblame
      refine ⟨mid, [], hkept, hmid, hrecs, hlog.trans (List.append_nil _).symm, nofun, ?_⟩
      rw [hlog]
      exact .done hp hdone fun c _ => hunseen c
    | @failed c f hc =>
      refine ⟨mid, [.failed n c], hkept, hmid, hrecs, hlog, fun x hx => by rw [List.mem_singleton.1 hx]; rfl, ?_⟩
      rw [hlog]
      exact .broken hp hc (List.mem_append_right _ List.mem_cons_self)

theorem build_works {visit : Visit (σ × List Sight)} (hk : site.Keeps ok) (hf : ∀ w, ok w → site.Follows b w)
    (hv : Walks (fun w => ok w.1) b ancestors visit) (hr : Reckoned ok b ancestors visit)
    (hs : Within (fun w => ok w.1) ancestors s) (ha : Accounted b s)
    (hns : ∀ d, b.Needs n d → ∀ a ∈ ancestors, TransGen b.Needs a d)
    (hn : s.ledger.records.get? n = some .building) (h : build site.watched visit n s = some (o, s')) :
    Works b n s o s' := by
  obtain ⟨isFile, hres⟩ := hf _ hs.world
  unfold build at h
  cases hresolve : site.watched.resolve s.world n with
  | planned p pattern =>
    have hp := Rulebook.plan?_of_resolve (hres n ▸ hresolve)
    rw [hresolve] at h
    have hdeps : ∀ d ∈ p.dependencies, ∀ a ∈ ancestors, TransGen b.Needs a d := fun d hd =>
      hns d (Rulebook.needs_of_plan? hp hd)
    cases pattern with
    | none => exact carryOut_works hv hr hs ha hdeps hp hn h
    | some rule =>
      -- the note that goes with a pattern is none of what is seen
      let t := s.note site.watched (.byPattern n rule)
      have hts : Within (fun w => ok w.1) ancestors t := hs.congr (hk.note _ hs.world) rfl
      have hta : Accounted b t := ha.congr rfl rfl
      change Works b n t o s'
      exact carryOut_works hv hr hts hta hdeps hp hn h
  | present =>
    have hp := Rulebook.of_resolve_present (hres n ▸ hresolve)
    rw [hresolve] at h
    cases h
    exact ⟨s, [.found n], fun _ _ => id, ha, rfl, rfl, fun x hx => by rw [List.mem_singleton.1 hx]; rfl,
      .present hp.1 (List.mem_append_right _ List.mem_cons_self)⟩
  | missing =>
    have hp := Rulebook.of_resolve_missing (hres n ▸ hresolve)
    rw [hresolve] at h
    cases h
    have hunseen : .found n ∉ s.world.2 := ha.not_seen (n := n) (fun q hq => by rw [hn] at hq; cases hq) rfl
    exact ⟨s, [], fun _ _ => id, ha, rfl, (List.append_nil _).symm, nofun, .missing hp.1 hunseen⟩

/-- A name that is owned is settled by what its owner has done. -/
theorem Works.reckons (h : Works b n (s.update (·.enroll n)) o s') (hnone : s.ledger.records.get? n = none) :
    Reckons b s [(n, o)] (s'.update (·.settle n o)) := by
  obtain ⟨mid, new, hkept, hmid, hl, hw, hnew, hend⟩ := h
  have hget : ∀ k, (s'.update (·.settle n o)).ledger.records.get? k =
      if k = n then some (.settled o) else mid.ledger.records.get? k := by
    intro k
    rw [records_get?_settle, hl]
  have hbuilding : mid.ledger.records.get? n = some .building :=
    hkept n _ ((records_get?_enroll _ _ _).trans (if_pos rfl))
  refine ⟨fun k r hr => ?_, hmid.settle hbuilding hl hw hnew hend, fun a ha => ?_⟩
  · have hkn : k ≠ n := fun hkn => by rw [hkn, hnone] at hr; cases hr
    rw [hget, if_neg hkn]
    exact hkept k r ((records_get?_enroll _ _ _).trans ((if_neg hkn).trans hr))
  · rw [List.mem_singleton.1 ha]
    exact .inl ((hget n).trans (if_pos rfl))

theorem visit_reckoned (hk : site.Keeps ok) (hf : ∀ w, ok w → site.Follows b w) (depth : Nat)
    (ancestors : List Name) : Reckoned ok b ancestors (Session.visit site.watched depth ancestors) := by
  have hfollows : ∀ w : σ × List Sight, ok w.1 → site.watched.Follows b w := fun w hw => hf w.1 hw
  induction depth generalizing ancestors with
  | zero =>
    intro n s o s' _ _ _ h
    cases h
  | succ depth ih =>
    intro n s o s' hs ha hneeds h
    rw [Session.visit] at h
    cases hadm : s.ledger.admission n ancestors with
    | refuse e =>
      rw [hadm] at h
      cases h
      have hn : n ∈ ancestors := (Ledger.eq_of_refuse hadm).2.elim id fun hb => hs.building hb.1
      refine ⟨fun _ _ => id, ha, fun a hmem => ?_⟩
      rw [List.mem_singleton.1 hmem]
      exact .inr ⟨Option.some_ne_none _, hneeds n hn⟩
    | join =>
      rw [hadm] at h
      obtain ⟨o', ho, h⟩ := Option.map_eq_some_iff.1 h
      cases h
      refine ⟨fun _ _ => id, ha.congr rfl rfl, fun a hmem => ?_⟩
      rw [List.mem_singleton.1 hmem]
      exact .inl (Ledger.outcome?_eq_some_iff.1 ho)
    | own =>
      rw [hadm] at h
      obtain ⟨⟨o', mid⟩, hbuild, h⟩ := Option.map_eq_some_iff.1 h
      cases h
      have hnone := (Ledger.get?_of_own hadm).2
      have hbelow : ∀ d, b.Needs n d → ∀ a ∈ ancestors ++ [n], TransGen b.Needs a d := by
        intro d hd a hmem
        rcases List.mem_append.1 hmem with hmem | hmem
        · exact (hneeds a hmem).tail hd
        · rw [List.mem_singleton.1 hmem]
          exact .single hd
      have hworks := build_works (s := s.update (·.enroll n)) hk hf (visit_walks hk.watched hfollows depth _) (ih _)
        (hs.enroll n) (ha.enroll hnone) hbelow ((records_get?_enroll _ _ _).trans (if_pos rfl)) hbuild
      exact hworks.reckons hnone

/-! ## The main theorem -/

/-- What can be built by any account at all, and was settled as done, can be built by what was seen. -/
theorem Accounted.buildable (ha : Accounted b s) (h : b.Buildable (fun _ => true) (fun _ _ => true) n)
    (hn : s.ledger.records.get? n = some (.settled none)) :
    b.Buildable (Sight.isFile s.world.2) (Sight.succeeds s.world.2) n := by
  induction h with
  | @file n hr _ =>
    have hp : b.plan? n = none := by rw [Rulebook.plan?, hr]; rfl
    cases ha.settled hn with
    | present _ hf => exact .file hr (decide_eq_true hf)
    | done hp' => rw [hp] at hp'; cases hp'
  | @rule n r hr _ _ ih =>
    have hp : b.plan? n = some (.ofRule r n) := by rw [Rulebook.plan?, hr]; rfl
    cases ha.settled hn with
    | present hp' => rw [hp] at hp'; cases hp'
    | done hp' hds hcs =>
      rw [hp, Option.some.injEq] at hp'
      subst hp'
      exact .rule hr (fun d hd => ih d hd (hds d hd)) fun c hc => decide_eq_true (hcs c hc)

/-- What can be built by what was seen was not settled as failed. -/
theorem Accounted.eq_none (ha : Accounted b s)
    (h : b.Buildable (Sight.isFile s.world.2) (Sight.succeeds s.world.2) n)
    (hn : s.ledger.records.get? n = some (.settled o)) : o = none := by
  induction h generalizing o with
  | @file n hr hf =>
    have hp : b.plan? n = none := by rw [Rulebook.plan?, hr]; rfl
    cases ha.settled hn with
    | present | done => rfl
    | missing _ hnot => exact absurd (of_decide_eq_true hf) hnot
    | blamed hp' | broken hp' => rw [hp] at hp'; cases hp'
  | @rule n r hr hds hcs ih =>
    have hp : b.plan? n = some (.ofRule r n) := by rw [Rulebook.plan?, hr]; rfl
    cases ha.settled hn with
    | present | done => rfl
    | missing hp' => rw [hp] at hp'; cases hp'
    | blamed hp' hd hreplied =>
      rw [hp, Option.some.injEq] at hp'
      subst hp'
      rcases hreplied with hg | ⟨-, hcycle⟩
      · cases ih _ hd hg
      · exact absurd hcycle (hds _ hd).not_transGen
    | broken hp' hc hfailed =>
      rw [hp, Option.some.injEq] at hp'
      subst hp'
      exact absurd hfailed (of_decide_eq_true (hcs _ hc))

/-- A serial build ends well exactly if its name can be built from the names that the build came upon as files by
the commands that did not fail in it. -/
theorem execute_watched (hk : site.Keeps ok) (hf : ∀ w, ok w → site.Follows b w) {w : σ} (hw : ok w) {depth : Nat}
    (h : execute site.watched depth n { world := (w, []) } = some (o, s)) :
    o = none ↔ b.Buildable (Sight.isFile s.world.2) (Sight.succeeds s.world.2) n := by
  have hfollows : ∀ w : σ × List Sight, ok w.1 → site.watched.Follows b w := fun w hw => hf w.1 hw
  have hwithin : Within (fun w => ok w.1) [] ({ world := (w, []) } : Session (σ × List Sight)) :=
    ⟨hw, nofun, fun {k} hk => by cases hk⟩
  have hstart : Accounted b ({ world := (w, []) } : Session (σ × List Sight)) := ⟨nofun, nofun⟩
  obtain ⟨-, ha, hreplied⟩ := visit_reckoned hk hf depth [] n _ o s hwithin hstart nofun h
  rcases hreplied (n, o) List.mem_cons_self with hr | ⟨hne, hcycle⟩
  · constructor
    · rintro rfl
      -- a machine that ends with this session says that some account of the name can be given
      obtain ⟨m, hreach, -, rfl, -⟩ := Machine.exists_of_execute hk.watched hw h
      have hsound := Machine.sound_of_follows (fun _ _ _ => True) (hreach.mono hfollows) fun _ _ _ _ => trivial
      exact ha.buildable (hsound.settled hr).1.buildable hr
    · exact fun hbuild => ha.eq_none hbuild hr
  · exact ⟨fun hnone => absurd hnone hne, fun hbuild => absurd hcycle hbuild.not_transGen⟩

end Session

end Buildfile.Build
