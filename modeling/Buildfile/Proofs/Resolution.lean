import Buildfile.Build.Dependency
import Buildfile.Build.Rehearsal
import Buildfile.Proofs.Stems
import Buildfile.Proofs.Succession
/-!
# Rules are only used for names they stand for

A name finds its rule in two ways, and only one of them looks at the outer texts of a pattern rule. The other finds
the rule that has the name itself, with its wildcard, and this is a name that the rule stands for as well: its stem is
the wildcard (`Rule.Parted.stem_name`). So in a rulebook that was put together from descriptions, whenever and in
whatever order, no stem is ever cut out of a name that does not have the outer texts (`Course.looked_up_fits`).
-/

namespace Buildfile

variable {r : Rule} {b : Rulebook} {n : Name}

/-! ## The name of a pattern rule -/

namespace Rule.Parted

theorem name_eq (h : r.Parted) : r.name = r.before ++ [wildcard] ++ r.after := by
  rw [h.name, List.append_assoc, List.singleton_append]

theorem matches_name (h : r.Parted) (hp : r.pattern = true) : r.Matches r.name = true := by
  rw [h.name_eq]
  exact matches_append hp _

/-- The wildcard in the name of a pattern rule stands for itself. -/
theorem stem_name (h : r.Parted) : r.stem r.name = [wildcard] := by
  rw [h.name_eq, stem_eq]

theorem dependenciesFor_name (h : r.Parted) : r.dependenciesFor r.name = r.dependencies := by
  unfold dependenciesFor
  split
  · rw [h.stem_name, funext (Text.substitute_self wildcard), List.map_id']
  · rfl

end Rule.Parted

namespace Rule

/-- The outer texts of a pattern rule fit into a name that it stands for, one behind the other. -/
theorem length_le_of_matches (h : r.Matches n = true) : r.before.length + r.after.length ≤ n.length := by
  simp only [Matches, Bool.and_eq_true, decide_eq_true_eq] at h
  exact h.1.1.2

end Rule

/-! ## Rulebooks that were put together -/

namespace Rulebook

theorem Made.made_of_mem (h : b.Made) (hr : r ∈ b.rules) : r.Made := by
  induction h with
  | empty => cases hr
  | add _ hmade ih =>
    rcases mem_rules_add.1 hr with rfl | ⟨-, hr⟩
    · exact hmade
    · exact ih hr

theorem Made.addAll (h : b.Made) {rules : List Rule} (hrules : ∀ r ∈ rules, r.Made) : (b.addAll rules).Made := by
  induction rules generalizing b with
  | nil => exact h
  | cons r rules ih => exact ih (h.add (hrules r List.mem_cons_self)) fun s hs => hrules s (List.mem_cons_of_mem _ hs)

/-- However a name finds its rule, a pattern rule that it finds stands for it. -/
theorem Made.matches_of_rule? (hb : b.Made) (hp : r.pattern = true) (h : b.rule? n = some r) : r.Matches n = true := by
  rcases Option.or_eq_some_iff.1 h with hget | ⟨-, hmatch⟩
  · have hparted := (hb.made_of_mem (mem_of_get? hget)).parted hp
    exact name_of_get? hget ▸ hparted.matches_name hp
  · exact matches_of_match? hmatch

/-- A rule that a name finds has the dependencies it was written with, if the name is its own. -/
theorem Made.dependenciesFor_name (hb : b.Made) (h : r ∈ b.rules) : r.dependenciesFor r.name = r.dependencies := by
  by_cases hp : r.pattern = true
  · exact ((hb.made_of_mem h).parted hp).dependenciesFor_name
  · exact if_neg hp

end Rulebook

/-- The rules of a description that is read were made by a reader. -/
theorem Description.made_of_parse {source text : Text} {d : Description} (h : parse source text = .ok d)
    (hr : r ∈ d.rulebook.rules) : r.Made := by
  rw [eq_soFar_of_parse h] at hr
  exact ⟨_, hr⟩

/-- The rules of descriptions are added to one rulebook. -/
theorem Rulebook.Made.addAll_of_parse {source text : Text} {d : Description} (hb : b.Made)
    (h : Description.parse source text = .ok d) : (b.addAll d.rulebook.rules).Made :=
  hb.addAll fun _ hr => Description.made_of_parse h hr

namespace Build

variable {σ : Type} {site : Site σ} {jobs : Option Int} {isFile : Name → Bool} {p : Plan} {pattern : Option Name}

theorem Machine.ok_after {ok : σ → Prop} {m : Machine σ} (hk : site.Keeps ok) (hm : ok m.world) {deeds : List (Deed σ)}
    (hturn : ∀ w, .turn w ∈ deeds → ok w) (k : Nat) : ok (m.after site deeds k).world := by
  unfold after
  have htake : ∀ d ∈ deeds.take k, d ∈ deeds := fun d hd => List.mem_of_mem_take hd
  generalize deeds.take k = ds at htake
  induction ds generalizing m with
  | nil => exact hm
  | cons d ds ih =>
    refine ih ?_ fun d hd => htake d (List.mem_cons_of_mem _ hd)
    cases d with
    | step i =>
      rw [undergo]
      cases hs : m.step site i with
      | none => exact hm
      | some m' => exact ok_of_step hk hm hs
    | start n => exact hm
    | turn w => exact hturn w (htake _ List.mem_cons_self)

namespace Course

open Machine

variable {m : Nat → Machine σ}

/-- Descriptions may be read and added to the rules at any time, and files come and go; whenever a name is looked up
and a rule is found for it, be it that of the name itself or the first pattern rule that stands for the name: a pattern
rule does stand for the name, so that its stem starts within the name and does not end before it starts; and of the
name of the rule itself the dependencies are those of the rule, unchanged. -/
theorem looked_up_fits {rulebook : σ → Rulebook} {files : σ → Name → Bool}
    (resolves : ∀ w n, site.resolve w n = Build.resolve (rulebook w) (files w) n)
    (h : Course site (fun w => (rulebook w).Made) jobs m) :
    ∀ k n p pattern, (m k).Does site (.lookUp n (.planned p pattern)) (m (k + 1)) → ∃ r,
      ((rulebook (m k).world).get? n = some r ∧ r.name = n ∧ pattern = none ∨
        (rulebook (m k).world).get? n = none ∧ (rulebook (m k).world).match? n = some r ∧ pattern = some r.name) ∧
      p = .ofRule r n ∧
      (r.pattern = true → r.Matches n = true ∧ 0 ≤ (n.length : Int) - r.after.length ∧
        (r.before.length : Int) ≤ n.length - r.after.length) ∧
      (n = r.name → p.dependencies = r.dependencies) := by
  intro k n p pattern hk
  obtain ⟨i, c, -, -, -, hresolve, -⟩ := hk.of_lookUp
  rw [resolves] at hresolve
  obtain ⟨r, rfl, hfound⟩ := Rulebook.of_resolve_planned hresolve
  have hmade := h.within k
  have hrule : (rulebook (m k).world).rule? n = some r :=
    Option.or_eq_some_iff.2 (hfound.imp (·.1) fun hmatch => ⟨hmatch.1, hmatch.2.1⟩)
  refine ⟨r, hfound.imp (fun hget => ⟨hget.1, Rulebook.name_of_get? hget.1, hget.2⟩) id, rfl, fun hp => ?_, ?_⟩
  · have hmatches := hmade.matches_of_rule? hp hrule
    have hlength := Rule.length_le_of_matches hmatches
    exact ⟨hmatches, by omega, by omega⟩
  · rintro rfl
    exact hmade.dependenciesFor_name (Rulebook.mem_of_rule? hrule)

/-- Two descriptions are read, and the second is added after `a%` was looked up by its own name. It puts another rule
before that one. -/
theorem looked_up_fits_redefined : ∃ m : Nat → Machine Stage, Course (Stage.site {}) (fun w => w.rulebook.Made) none m ∧
    (∃ p r, (m 2).Does (Stage.site {}) (.lookUp (lit "a%") (.planned p none)) (m 3) ∧
      (m 2).world.rulebook.get? (lit "a%") = some r ∧ p.dependencies = r.dependencies) ∧
    ∃ p r, (m 6).Does (Stage.site {}) (.lookUp (lit "axa") (.planned p (some (lit "%xa")))) (m 7) ∧
      (m 6).world.rulebook.match? (lit "axa") = some r ∧ r.Matches (lit "axa") = true := by
  let rules (text : String) : List Rule :=
    match Description.parse [] (lit text) with
    | .ok d => d.rulebook.rules
    | .error _ => []
  have hrules {b : Rulebook} (hb : b.Made) (text : String) : (b.addAll (rules text)).Made := by
    unfold rules
    split
    · next d hd => exact hb.addAll_of_parse hd
    · exact hb
  let first : Rulebook := Rulebook.addAll {} (rules "a%: %b c")
  let second : Rulebook := first.addAll (rules "%xa: y%\na%: z%")
  have hfirst : first.Made := hrules .empty _
  let m₀ : Machine Stage := { world := { rulebook := first } }
  let deeds : List (Deed Stage) := [.start (lit "a%"), .step 0, .step 0, .turn { rulebook := second },
    .start (lit "axa"), .step 1, .step 1]
  have hkeeps : (Stage.site {}).Keeps fun w => w.rulebook.Made := ⟨fun _ _ h => h, fun _ h => h⟩
  have hcourse : Course (Stage.site {}) (fun w => w.rulebook.Made) none (m₀.after (Stage.site {}) deeds) := by
    refine .of_deeds (w := m₀.world) rfl deeds (ok_after hkeeps hfirst fun w hw => ?_)
    obtain rfl : w = { rulebook := second } := by simpa [deeds] using hw
    exact hrules hfirst _
  let files (w : Stage) (n : Name) : Bool := w.tree.contains w.here (Octets.ofText n)
  have hfits := @looked_up_fits Stage (Stage.site {}) none _ Stage.rulebook files (fun _ _ => rfl) hcourse
  have hown : (m₀.after (Stage.site {}) deeds 2).Does (Stage.site {})
      (.lookUp (lit "a%") (.planned { dependencies := [lit "%b", lit "c"], commands := [] } none))
      (m₀.after (Stage.site {}) deeds 3) := does_after (i := 0) rfl (by decide +kernel) (by decide +kernel)
  have hother : (m₀.after (Stage.site {}) deeds 6).Does (Stage.site {})
      (.lookUp (lit "axa") (.planned { dependencies := [lit "ya"], commands := [] } (some (lit "%xa"))))
      (m₀.after (Stage.site {}) deeds 7) := does_after (i := 1) rfl (by decide +kernel) (by decide +kernel)
  obtain ⟨r, ⟨hget, hname, -⟩ | ⟨-, -, hp⟩, -, -, hdeps⟩ := hfits 2 _ _ _ hown
  swap
  · cases hp
  obtain ⟨s, ⟨-, -, hp⟩ | ⟨-, hmatch, -⟩, -, hfit, -⟩ := hfits 6 _ _ _ hother
  · cases hp
  have hpattern : s.pattern = true := Rule.pattern_of_matches (Rulebook.matches_of_match? hmatch)
  exact ⟨_, hcourse, ⟨_, r, hown, hget, hdeps hname.symm⟩, _, s, hother, hmatch, (hfit hpattern).1⟩

end Course

end Build

end Buildfile
