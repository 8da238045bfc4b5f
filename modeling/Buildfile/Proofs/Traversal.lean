import Buildfile.Build.Traversal
import Buildfile.Proofs.Completion
/-!
# A serial build goes depth first

The names that a serial build requests are those of the depth-first post-order from its target, and the commands
started for each of them stand together, in that order (`execute_traverses`). That holds whatever becomes of the
names: a name that is being built is an ancestor, so a request either enters a name for the first time or adds
nothing to the record.

How many of its commands each name contributes is known as soon as the success of every command is
(`serial_postorder`).
-/

namespace Buildfile.Build

open Relation

/-- Commands of these names in this order, those of each name together. -/
inductive InBlocks : List Name → List (Name × Command) → Prop
  | nil : InBlocks [] []
  | cons {n : Name} {ns : List Name} {rest : List (Name × Command)} (cs : List Command) :
      InBlocks ns rest → InBlocks (n :: ns) (cs.map (n, ·) ++ rest)

namespace InBlocks

variable {ns ms : List Name} {ran ran' : List (Name × Command)} {n : Name}

theorem single (n : Name) (cs : List Command) : InBlocks [n] (cs.map (n, ·)) := by
  simpa using cons (n := n) cs .nil

theorem append (h : InBlocks ns ran) (h' : InBlocks ms ran') : InBlocks (ns ++ ms) (ran ++ ran') := by
  induction h with
  | nil => exact h'
  | cons cs _ ih =>
    rw [List.cons_append, List.append_assoc]
    exact .cons cs ih

theorem commandsOf_map_self (n : Name) (cs : List Command) : commandsOf (cs.map (n, ·)) n = cs := by
  simp [commandsOf, List.filter_map, Function.comp_def]

theorem commandsOf_map_other {k : Name} (h : k ≠ n) (cs : List Command) : commandsOf (cs.map (n, ·)) k = [] := by
  simp [commandsOf, List.filter_map, Function.comp_def, h.symm]

theorem commandsOf_eq_nil (h : InBlocks ns ran) (hn : n ∉ ns) : commandsOf ran n = [] := by
  induction h with
  | nil => rfl
  | cons cs _ ih =>
    obtain ⟨hne, hns⟩ := not_or.1 (List.mem_cons.not.1 hn)
    rw [commandsOf_append, commandsOf_map_other hne, ih hns, List.nil_append]

/-- If no name occurs twice, the record is put together from what was started for each of them. -/
theorem eq_flatMap (h : InBlocks ns ran) (hns : ns.Nodup) :
    ran = ns.flatMap fun n => (commandsOf ran n).map (n, ·) := by
  induction h with
  | nil => rfl
  | @cons n ns rest cs hrest ih =>
    obtain ⟨hn, hns⟩ := List.nodup_cons.1 hns
    have hself : commandsOf (cs.map (n, ·) ++ rest) n = cs := by
      rw [commandsOf_append, commandsOf_map_self, hrest.commandsOf_eq_nil hn, List.append_nil]
    have hother : ∀ k ∈ ns, commandsOf (cs.map (n, ·) ++ rest) k = commandsOf rest k := by
      intro k hk
      have hne : k ≠ n := fun h => hn (h ▸ hk)
      rw [commandsOf_append, commandsOf_map_other hne, List.nil_append]
    have hlater : (ns.flatMap fun k => (commandsOf (cs.map (n, ·) ++ rest) k).map (k, ·)) = rest := by
      rw [List.flatMap_congr fun k hk => by rw [hother k hk], ← ih hns]
    rw [List.flatMap_cons, hself, hlater]

end InBlocks

namespace Session

variable {σ : Type} {site : Site σ} {ok : σ → Prop} {b : Rulebook} {ancestors ns ms order order' : List Name}
  {n : Name} {s s' s'' : Session σ} {o : Outcome} {visit : Visit σ} {p : Plan}

theorem records_get?_enroll (s : Session σ) (n k : Name) : (s.update (·.enroll n)).ledger.records.get? k =
    if k = n then some .building else s.ledger.records.get? k := Ledger.records_get?_enroll _ _ _

theorem records_get?_settle (s : Session σ) (n k : Name) (o : Outcome) :
    (s.update (·.settle n o)).ledger.records.get? k = if k = n then some (.settled o) else s.ledger.records.get? k :=
  Ledger.records_get?_settle _ _ _ _

/-- The names that were requested. -/
def recorded (s : Session σ) : Set Name := {k | s.ledger.records.get? k ≠ none}

/-- The world is within bounds. These names were requested, and no others are being built. -/
structure Within (ok : σ → Prop) (ancestors : List Name) (s : Session σ) : Prop where
  world : ok s.world
  requested {k : Name} : k ∈ ancestors → k ∈ s.recorded
  building {k : Name} : s.ledger.records.get? k = some .building → k ∈ ancestors

theorem Within.congr {t : Session σ} (h : Within ok ancestors s) (hw : ok t.world)
    (hl : t.ledger.records = s.ledger.records) : Within ok ancestors t :=
  ⟨hw, fun {k} hk => by rw [recorded, Set.mem_ofPred_eq, hl]; exact h.requested hk,
    fun {k} hk => h.building (hl ▸ hk)⟩

theorem Within.enroll (h : Within ok ancestors s) (n : Name) :
    Within ok (ancestors ++ [n]) (s.update (·.enroll n)) := by
  refine ⟨h.world, fun {k} hk => ?_, fun {k} hb => ?_⟩
  · rw [recorded, Set.mem_ofPred_eq, records_get?_enroll]
    split
    · exact Option.some_ne_none _
    · next hkn =>
      rw [List.mem_append, List.mem_singleton] at hk
      exact h.requested (hk.resolve_right hkn)
  · rw [records_get?_enroll] at hb
    rw [List.mem_append, List.mem_singleton]
    by_cases hkn : k = n
    · exact .inr hkn
    · rw [if_neg hkn] at hb
      exact .inl (h.building hb)

/-- From the first session to the second, these names were visited depth first. -/
structure Traverses (ok : σ → Prop) (b : Rulebook) (s : Session σ) (ns order : List Name) (s' : Session σ) :
    Prop where
  world : ok s'.world
  building {k : Name} : s'.ledger.records.get? k = some .building → s.ledger.records.get? k = some .building
  postorder : b.Postorder s.recorded ns order
  recorded : s'.recorded = s.recorded ∪ {k | k ∈ order}
  blocks : ∃ new, s'.ran = s.ran ++ new ∧ InBlocks order new

namespace Traverses

theorem within (h : Traverses ok b s ns order s') (hs : Within ok ancestors s) : Within ok ancestors s' :=
  ⟨h.world, fun hk => h.recorded ▸ .inl (hs.requested hk), fun hk => hs.building (h.building hk)⟩

/-- Only the records and what was run count of the session in front. -/
theorem congr {t : Session σ} (h : Traverses ok b t ns order s') (hl : t.ledger.records = s.ledger.records)
    (hran : t.ran = s.ran) : Traverses ok b s ns order s' := by
  have hrec : t.recorded = s.recorded := by rw [Session.recorded, Session.recorded, hl]
  exact ⟨h.world, hl ▸ h.building, hrec ▸ h.postorder, hrec ▸ h.recorded, hran ▸ h.blocks⟩

theorem nil (hw : ok s.world) : Traverses ok b s [] [] s :=
  ⟨hw, id, .nil, by simp, [], by simp, .nil⟩

/-- A request for a name that was requested before changes nothing on record. -/
theorem skip (hw : ok s'.world) (hl : s'.ledger = s.ledger) (hran : s'.ran = s.ran) (hn : n ∈ s.recorded) :
    Traverses ok b s [n] [] s' := by
  refine ⟨hw, ?_, .skip hn .nil, ?_, [], ?_, .nil⟩
  · rw [hl]
    exact id
  · simp [Session.recorded, hl]
  · rw [hran, List.append_nil]

theorem append (h : Traverses ok b s ns order s') (h' : Traverses ok b s' ms order' s'') :
    Traverses ok b s (ns ++ ms) (order ++ order') s'' := by
  obtain ⟨new, hran, hnew⟩ := h.blocks
  obtain ⟨new', hran', hnew'⟩ := h'.blocks
  refine ⟨h'.world, fun hk => h.building (h'.building hk), ?_, ?_, new ++ new', ?_, hnew.append hnew'⟩
  · exact h.postorder.append (h.recorded ▸ h'.postorder)
  · rw [h'.recorded, h.recorded, Set.union_assoc]
    congr 1
    ext k
    simp
  · rw [hran', hran, List.append_assoc]

end Traverses

/-! ## Commands -/

theorem ran_run (site : Site σ) (n : Name) (commands : List Command) (s : Session σ) :
    ∃ cs : List Command, (s.run site n commands).2.ran = s.ran ++ cs.map (n, ·) := by
  induction commands generalizing s with
  | nil => exact ⟨[], by simp [run]⟩
  | cons c commands ih =>
    rw [run]
    rcases site.perform n c s.world with ⟨_ | f, w⟩
    · obtain ⟨cs, hcs⟩ := ih { s with ran := s.ran ++ [(n, c)], world := w }
      refine ⟨c :: cs, hcs.trans ?_⟩
      rw [List.append_assoc, List.map_cons, List.singleton_append]
    · exact ⟨[c], rfl⟩

theorem ran_conclude (site : Site σ) (n : Name) (commands : List Command) (o : Outcome) (s : Session σ) :
    ∃ cs : List Command, (s.conclude site n commands o).2.ran = s.ran ++ cs.map (n, ·) := by
  cases o with
  | some f => exact ⟨[], by simp [conclude]⟩
  | none =>
    obtain ⟨cs, hcs⟩ := ran_run site n commands s
    refine ⟨cs, ?_⟩
    unfold conclude
    rcases hr : s.run site n commands with ⟨_ | f, s'⟩ <;> rw [hr] at hcs <;> exact hcs

/-! ## Dependencies -/

/-- A visit goes depth first wherever the names being built are its ancestors. -/
def Walks (ok : σ → Prop) (b : Rulebook) (ancestors : List Name) (visit : Visit σ) : Prop :=
  ∀ n (s : Session σ) o s', Within ok ancestors s → visit n s = some (o, s') →
    ∃ order, Traverses ok b s [n] order s'

theorem visitAll_traverses (hv : Walks ok b ancestors visit) {os : List (Name × Outcome)} (hs : Within ok ancestors s)
    (h : visitAll visit ns s = some (os, s')) : ∃ order, Traverses ok b s ns order s' := by
  induction ns generalizing s os with
  | nil =>
    cases h
    exact ⟨[], .nil hs.world⟩
  | cons n ns ih =>
    simp only [visitAll, Option.bind_eq_some_iff, Option.map_eq_some_iff, Prod.mk.injEq] at h
    obtain ⟨⟨o, mid⟩, hn, ⟨os', s''⟩, hns, -, rfl⟩ := h
    obtain ⟨order, horder⟩ := hv n s o mid hs hn
    obtain ⟨order', horder'⟩ := ih (horder.within hs) hns
    exact ⟨order ++ order', horder.append horder'⟩

/-- Between the two sessions, what `n` needs was visited depth first, and then some commands were started for it. -/
def Enters (ok : σ → Prop) (b : Rulebook) (n : Name) (s s' : Session σ) : Prop :=
  ∃ below mid, Traverses ok b s (b.dependenciesFor n) below mid ∧ ok s'.world ∧
    s'.ledger.records = mid.ledger.records ∧ ∃ cs : List Command, s'.ran = mid.ran ++ cs.map (n, ·)

theorem carryOut_enters (hk : site.Keeps ok) (hv : Walks ok b ancestors visit) (hs : Within ok ancestors s)
    (hp : b.dependenciesFor n = p.dependencies) (h : carryOut site visit n p s = some (o, s')) :
    Enters ok b n s s' := by
  obtain ⟨t, mid, os, hworld, hrecords, hran, hall, hend⟩ := of_carryOut h
  obtain ⟨below, hbelow⟩ := visitAll_traverses hv (hs.congr (hworld ▸ hs.world) hrecords) hall
  have heq := conclude_eq (n := n) (s := mid.update (·.release n)) hk hbelow.world p.commands (blame n os)
  have hstarted := ran_conclude site n p.commands (blame n os) (mid.update (·.release n))
  rw [hend] at heq hstarted
  exact ⟨below, mid, hp ▸ hbelow.congr hrecords hran, heq.1, by rw [heq.2]; rfl, hstarted⟩

/-! ## Visits -/

theorem build_enters (hk : site.Keeps ok) (hf : site.Follows b s.world) (hv : Walks ok b ancestors visit)
    (hs : Within ok ancestors s) (h : build site visit n s = some (o, s')) : Enters ok b n s s' := by
  obtain ⟨isFile, hres⟩ := hf
  have hleaf : b.dependenciesFor n = [] → ok s'.world → s'.ledger = s.ledger → s'.ran = s.ran →
      Enters ok b n s s' := by
    intro hnone hw hl hran
    refine ⟨[], s, by rw [hnone]; exact .nil hs.world, hw, by rw [hl], [], ?_⟩
    rw [hran, List.map_nil, List.append_nil]
  unfold build at h
  cases hr : site.resolve s.world n with
  | planned p pattern =>
    have hp := Rulebook.dependenciesFor_of_plan? (Rulebook.plan?_of_resolve (hres n ▸ hr))
    rw [hr] at h
    have hnote : ∀ k : Option Note, ok (k.elim s (s.note site)).world ∧
        (k.elim s (s.note site)).ledger = s.ledger ∧ (k.elim s (s.note site)).ran = s.ran := by
      rintro (_ | k)
      · exact ⟨hs.world, rfl, rfl⟩
      · exact ⟨hk.note k hs.world, rfl, rfl⟩
    obtain ⟨hw, hl, hran⟩ := hnote ((Resolution.planned p pattern).note? n)
    obtain ⟨below, mid, hbelow, hend⟩ := carryOut_enters hk hv (hs.congr hw (by rw [hl])) hp h
    exact ⟨below, mid, hbelow.congr (by rw [hl]) hran, hend⟩
  | present =>
    have hp := Rulebook.of_resolve_present (hres n ▸ hr)
    rw [hr] at h
    cases h
    exact hleaf (Rulebook.dependenciesFor_of_plan?_eq_none hp.1) (hk.note _ hs.world) rfl rfl
  | missing =>
    have hp := Rulebook.of_resolve_missing (hres n ▸ hr)
    rw [hr] at h
    cases h
    exact hleaf (Rulebook.dependenciesFor_of_plan?_eq_none hp.1) hs.world rfl rfl

theorem recorded_enroll (n : Name) (s : Session σ) : (s.update (·.enroll n)).recorded = insert n s.recorded := by
  ext k
  simp only [recorded, Set.mem_ofPred_eq, Set.mem_insert_iff, records_get?_enroll]
  by_cases hk : k = n <;> simp [hk]

/-- A name that is entered comes behind all that is entered for it. -/
theorem Enters.traverses (h : Enters ok b n (s.update (·.enroll n)) s') (hn : n ∉ s.recorded) (o : Outcome) :
    ∃ order, Traverses ok b s [n] order (s'.update (·.settle n o)) := by
  obtain ⟨below, mid, hbelow, hw, hl, cs, hcs⟩ := h
  obtain ⟨new, hran, hnew⟩ := hbelow.blocks
  have hget : ∀ k, (s'.update (·.settle n o)).ledger.records.get? k =
      if k = n then some (.settled o) else mid.ledger.records.get? k := by
    intro k
    rw [records_get?_settle, hl]
  have hseen := recorded_enroll n s
  refine ⟨below ++ [n], hw, fun {k} hk => ?_, ?_, ?_, new ++ cs.map (n, ·), ?_, hnew.append (.single n cs)⟩
  · rw [hget] at hk
    split at hk
    · cases hk
    · next hkn =>
      have hb := hbelow.building hk
      rwa [records_get?_enroll, if_neg hkn] at hb
  · exact .enter hn (hseen ▸ hbelow.postorder) .nil
  · have hmid := hbelow.recorded
    rw [hseen] at hmid
    ext k
    have hkmid := Set.ext_iff.1 hmid k
    simp only [Session.recorded, Set.mem_ofPred_eq, Set.mem_union, Set.mem_insert_iff] at hkmid
    simp only [Session.recorded, Set.mem_ofPred_eq, Set.mem_union, List.mem_append, List.mem_singleton, hget]
    by_cases hkn : k = n
    · simp [hkn]
    · rw [if_neg hkn, hkmid]
      simp [hkn]
  · exact hcs.trans (by rw [hran]; exact List.append_assoc _ _ _)

/-- A visit goes depth first, to whatever depth. -/
theorem visit_walks (hk : site.Keeps ok) (hf : ∀ w, ok w → site.Follows b w) (depth : Nat) (ancestors : List Name) :
    Walks ok b ancestors (Session.visit site depth ancestors) := by
  induction depth generalizing ancestors with
  | zero =>
    intro n s o s' _ h
    cases h
  | succ depth ih =>
    intro n s o s' hs h
    rw [Session.visit] at h
    cases ha : s.ledger.admission n ancestors with
    | refuse e =>
      rw [ha] at h
      cases h
      have hn : n ∈ ancestors := (Ledger.eq_of_refuse ha).2.elim id fun hb => hs.building hb.1
      exact ⟨[], .skip hs.world rfl rfl (hs.requested hn)⟩
    | join =>
      rw [ha] at h
      obtain ⟨o', -, h⟩ := Option.map_eq_some_iff.1 h
      cases h
      obtain ⟨hnot, ⟨o', ho⟩ | ⟨hb, -⟩⟩ := Ledger.get?_of_join ha
      · have hn : n ∈ s.recorded := fun hnone => by
          rw [ho] at hnone
          cases hnone
        exact ⟨[], .skip (hk.note _ hs.world) rfl rfl hn⟩
      · exact absurd (hs.building hb) hnot
    | own =>
      rw [ha] at h
      obtain ⟨⟨o', mid⟩, hbuild, h⟩ := Option.map_eq_some_iff.1 h
      cases h
      have hn : n ∉ s.recorded := fun hn => hn (Ledger.get?_of_own ha).2
      have henters := build_enters (s := s.update (·.enroll n)) hk (hf _ hs.world) (ih _) (hs.enroll n) hbuild
      exact henters.traverses hn _

/-- A serial build from the start enters the names that its target reaches, in post-order. -/
theorem execute_traverses (hk : site.Keeps ok) (hf : ∀ w, ok w → site.Follows b w) {w : σ} (hw : ok w)
    {depth : Nat} (h : execute site depth n { world := w } = some (o, s)) :
    ∃ order, b.Postorder ∅ [n] order ∧ InBlocks order s.ran := by
  have hstart : Within ok [] ({ world := w } : Session σ) := ⟨hw, nofun, fun {k} hk => by cases hk⟩
  obtain ⟨order, horder⟩ := visit_walks hk hf depth [] n _ o s hstart h
  obtain ⟨new, hran, hnew⟩ := horder.blocks
  have hempty : ({ world := w } : Session σ).recorded = ∅ := by
    ext k
    exact ⟨fun hk => hk rfl, fun hk => hk.elim⟩
  rw [List.nil_append] at hran
  exact ⟨order, hempty ▸ horder.postorder, hran ▸ hnew⟩

/-! ## The main theorem -/

/-- Let the rules, the files and the success of each command stay the same, and let `n` reach finitely many names.
Then the serial build of `n` ends. The names that `n` reaches have one depth-first post-order, and what was run is
put together in that order: all the commands of a name that can be built; those up to the first that fails, if all
that the name needs can be built but it cannot; and none if it needs a name that cannot be built. -/
theorem serial_postorder {isFile : Name → Bool} {succeeds : Name → Command → Bool} (hk : site.Keeps ok)
    (hdecides : ∀ w, ok w → site.Decides b isFile succeeds w) {w : σ} (hw : ok w)
    (hfinite : {k | ReflTransGen b.Needs n k}.Finite) :
    ∃ order, b.Postorder ∅ [n] order ∧ (∀ order', b.Postorder ∅ [n] order' → order' = order) ∧ order.Nodup ∧
      (∀ k, k ∈ order ↔ ReflTransGen b.Needs n k) ∧
      ∃ depth o s, execute site depth n { world := w } = some (o, s) ∧ ∃ started : Name → List Command,
        s.ran = order.flatMap (fun k => (started k).map (k, ·)) ∧ ∀ k ∈ order,
          (b.Buildable isFile succeeds k → started k = b.commandsFor k) ∧
          ((∀ d, b.Needs k d → b.Buildable isFile succeeds d) → ¬ b.Buildable isFile succeeds k →
            started k = Rulebook.attempted (succeeds k) (b.commandsFor k)) ∧
          ((∃ d, b.Needs k d ∧ ¬ b.Buildable isFile succeeds d) → started k = []) := by
  have hf : ∀ w, ok w → site.Follows b w := fun w hw => ⟨isFile, (hdecides w hw).resolves⟩
  obtain ⟨depth, ⟨o, s⟩, hexec⟩ := ends_of_finite hk hf hw hfinite
  obtain ⟨order, horder, hblocks⟩ := execute_traverses hk hf hw hexec
  refine ⟨order, horder, fun order' h => h.unique horder, horder.nodup, horder.mem_iff, depth, o, s, hexec,
    commandsOf s.ran, hblocks.eq_flatMap horder.nodup, fun k hmem => ?_⟩
  -- a machine that ends with this session has settled all that `n` reaches
  obtain ⟨m, hreach, hasked, rfl, ho⟩ := Machine.exists_of_execute hk hw hexec
  have hco := Machine.reachable_coherent hreach
  have hs := (Machine.reachable_sound (hreach.mono fun w hw => Machine.hold_deciding (hdecides w hw))).1
  have hdone := hasked.finished hco ho
  have hrequested : m.ledger.records.get? k ≠ none :=
    (Machine.records_ne_none_iff hco hs hdone).2 ⟨n, (hasked.mem_roots_iff n).2 rfl, (horder.mem_iff k).1 hmem⟩
  obtain ⟨o', -, hbuilt⟩ := Machine.exists_settled hco hs hdone hrequested
  obtain ⟨hiff, hnone, hattempted⟩ := hbuilt.decided Machine.decides_deciding
  refine ⟨fun hbuild => ?_, fun hneeds _ => hattempted hneeds, hnone⟩
  obtain rfl := hiff.2 hbuild
  exact hbuilt.ran_of_none Machine.decides_deciding

/-- Of the names in a knot, only the one that all need is tried, as far as its second command. -/
theorem serial_postorder_knotted : ∃ depth o s,
    execute (.fixed .knotted (fun _ => false) fun _ c => if c.text = lit "two" then some (.error (.general [])) else none)
      depth (lit "a") { world := () } = some (o, s) ∧
    s.ran = [(lit "c", { text := lit "one" }), (lit "c", { text := lit "two" })] := by
  let isFile : Name → Bool := fun _ => false
  let succeeds : Name → Command → Bool := fun _ c => c.text ≠ lit "two"
  let site : Site Unit := .fixed .knotted isFile fun _ c =>
    if c.text = lit "two" then some (.error (.general [])) else none
  have hkeeps : site.Keeps fun _ => True := ⟨fun _ _ _ => trivial, fun _ _ => trivial⟩
  have hdecides : ∀ w, True → site.Decides .knotted isFile succeeds w := fun _ _ =>
    ⟨fun _ => rfl, fun n c => by simp [site, Site.fixed, succeeds]⟩
  obtain ⟨order, -, hunique, -, -, depth, o, s, hexec, started, hran, hstarted⟩ :=
    serial_postorder (n := lit "a") hkeeps hdecides trivial (Rulebook.finite_of_patterns_eq_nil (by decide +kernel) _)
  have ha : Rulebook.knotted.dependenciesFor (lit "a") = [lit "c", lit "b", lit "c"] := by decide +kernel
  have hb : Rulebook.knotted.dependenciesFor (lit "b") = [lit "a"] := by decide +kernel
  have hc : Rulebook.knotted.dependenciesFor (lit "c") = [] := by decide +kernel
  have hca : lit "c" ≠ lit "a" := by decide +kernel
  have hba : lit "b" ≠ lit "a" := by decide +kernel
  have hbc : lit "b" ≠ lit "c" := by decide +kernel
  have hbelow : Rulebook.knotted.Postorder (insert (lit "a") ∅) (Rulebook.knotted.dependenciesFor (lit "a"))
      ([] ++ lit "c" :: ([] ++ lit "b" :: [])) := by
    rw [ha]
    refine .enter (by simp [hca]) (by rw [hc]; exact .nil) (.enter (by simp [hba, hbc]) ?_ (.skip (by simp) .nil))
    rw [hb]
    exact .skip (by simp) .nil
  obtain rfl : [lit "c", lit "b"] ++ lit "a" :: [] = order := hunique _ (.enter (by simp) hbelow .nil)
  have hneeds : Rulebook.knotted.Needs (lit "a") (lit "c") ∧ Rulebook.knotted.Needs (lit "b") (lit "a") := by
    rw [← Rulebook.mem_dependenciesFor, ← Rulebook.mem_dependenciesFor, ha, hb]
    decide +kernel
  have hcnot : ¬ Rulebook.knotted.Buildable isFile succeeds (lit "c") := by
    rw [Rulebook.buildable_iff_of_plan?
      (p := ⟨[], [{ text := lit "one" }, { text := lit "two" }, { text := lit "three" }]⟩) (by decide +kernel)]
    exact fun h => absurd (h.2 { text := lit "two" } (by decide +kernel)) (by decide +kernel)
  have hanot : ¬ Rulebook.knotted.Buildable isFile succeeds (lit "a") := fun h => hcnot (h.of_needs hneeds.1)
  have hstartedc : started (lit "c") = [{ text := lit "one" }, { text := lit "two" }] := by
    rw [(hstarted (lit "c") (by simp)).2.1 (fun d hd => by
      rw [← Rulebook.mem_dependenciesFor, hc] at hd
      cases hd) hcnot]
    decide +kernel
  refine ⟨depth, o, s, hexec, ?_⟩
  rw [hran, List.cons_append, List.cons_append, List.nil_append, List.flatMap_cons, List.flatMap_cons,
    List.flatMap_cons, hstartedc, (hstarted (lit "b") (by simp)).2.2 ⟨_, hneeds.2, hanot⟩,
    (hstarted (lit "a") (by simp)).2.2 ⟨_, hneeds.1, hcnot⟩]
  rfl

end Session

end Buildfile.Build
