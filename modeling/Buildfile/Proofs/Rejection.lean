import Buildfile.Description.Work
import Buildfile.Proofs.Grammar
/-!
# A refused line leaves no trace

A reader that is changed in place answers as one that is not (`Work.on_feed`): every check of a line comes before
the first change, also where the head of a rule finishes the draft above it and has several names to be checked.
So a refusal can be forgotten, and the offers that were taken alone lead to the same reader (`offerAll_taken`).
-/

namespace Buildfile.Description

variable {α β : Type} {r r' : Reader} {n : Int} {l : Text} {f : Fault}

/-! ## Steps of work -/

namespace Work

@[simp] theorem on_pure (a : α) (r : Reader) : (pure a : Work α).on r = (.ok a, r) := rfl

@[simp] theorem on_throw (f : Fault) (r : Reader) : (throw f : Work α).on r = (.error f, r) := rfl

@[simp] theorem on_get (r : Reader) : (get : Work Reader).on r = (.ok r, r) := rfl

@[simp] theorem on_modify (g : Reader → Reader) (r : Reader) : (modify g : Work PUnit).on r = (.ok ⟨⟩, g r) := rfl

/-- Work goes on where it was left, unless a fault has ended it. -/
theorem on_bind (w : Work α) (next : α → Work β) (r : Reader) : (w >>= next).on r =
    match w.on r with
    | (.ok a, r') => (next a).on r'
    | (.error f, r') => (.error f, r') := by
  unfold on ExceptT.run StateT.run Id.run
  simp only [bind, ExceptT.bind, ExceptT.mk, StateT.bind, ExceptT.bindCont]
  rcases w r with ⟨_ | _, _⟩ <;> rfl

theorem on_finish (r : Reader) : finish.on r = (.ok (), r.finish) := by
  have hadd : ∀ (rules : List Rule) (r : Reader),
      (forM rules fun rule => (modify fun r => { r with rulebook := r.rulebook.add rule } : Work PUnit)).on r =
        (.ok ⟨⟩, { r with rulebook := r.rulebook.addAll rules }) := by
    intro rules
    induction rules with
    | nil => intro r; rfl
    | cons rule rules ih =>
      intro r
      rw [List.forM_cons, on_bind, on_modify]
      exact ih _
  unfold finish Reader.finish
  rw [on_bind, on_get]
  dsimp only
  cases r.draft with
  | none => rfl
  | some d =>
    dsimp only
    rw [on_bind, on_modify]
    exact hadd _ _

/-- Names are checked in order, and no check changes the reader. -/
theorem on_forM_check (names : List Name) (r : Reader) : (forM names check).on r =
    match Line.manyWildcards? names with
    | some x => (.error (.manyWildcards x), r)
    | none => (.ok (), r) := by
  induction names with
  | nil => rfl
  | cons x names ih =>
    rw [List.forM_cons, on_bind, check]
    by_cases hx : 1 < x.count wildcard
    · simp [Line.manyWildcards?, hx]
    · rw [if_neg hx, on_pure]
      simpa [Line.manyWildcards?, hx] using ih

end Work

/-- The answer of a reader that is changed in place, and what it is then, where one that is not answers `e`. -/
def Reader.settle (r : Reader) : Except Fault Reader → Except Fault Unit × Reader
  | .ok r' => (.ok (), r')
  | .error f => (.error f, r)

namespace Work

theorem ofCommand_eq_spoken (t : Text) : Line.ofCommand t = .command (spoken t).1 (spoken t).2 := by
  unfold Line.ofCommand spoken
  cases t.trim with
  | nil => rfl
  | cons c u =>
    by_cases hc : c = '@'
    · subst hc
      rfl
    · simp [hc]

theorem on_command (r : Reader) : (command n l).on r = r.settle (r.accept n (Line.ofCommand (l.drop 1))) := by
  rw [ofCommand_eq_spoken]
  unfold command Reader.accept
  rw [on_bind, on_get]
  dsimp only
  cases r.draft <;> rfl

theorem on_heading (r : Reader) : (heading n l).on r = r.settle (match Line.ofHeading l with
    | .error f => .error f
    | .ok a => r.accept n a) := by
  unfold heading
  by_cases hnil : Text.words (Text.breakAt ':' l).1 = []
  · have hmissing : Line.ofHeading l = .error .missingTarget :=
      Line.ofHeading_error_iff.2 (.inl ⟨rfl, Text.words_eq_nil_iff.1 hnil⟩)
    rw [hmissing]
    dsimp only
    rw [if_pos hnil, on_bind, on_throw]
    rfl
  · rw [Line.ofHeading_of_ne_nil hnil]
    dsimp only
    -- only when all names have passed is the draft finished
    rw [if_neg hnil, on_bind, on_forM_check]
    cases Line.manyWildcards? (Text.words (Text.breakAt ':' l).1) with
    | some x => rfl
    | none =>
      dsimp only
      rw [on_bind, on_finish]
      rfl

theorem on_assignment (n : Int) (r : Reader) : (assignment l).on r = r.settle (match Line.ofAssignment l with
    | .error f => .error f
    | .ok a => r.accept n a) := by
  unfold assignment
  by_cases hnil : Line.variableName (Text.breakAt '=' l).1 = []
  · rw [Line.ofAssignment_error_iff.2 ⟨rfl, hnil⟩]
    dsimp only
    rw [if_pos hnil, on_bind, on_throw]
    rfl
  · rw [Line.ofAssignment_of_ne_nil hnil]
    dsimp only
    rw [if_neg hnil]
    rfl

/-- A reader that is changed in place takes the same lines, and a line that it refuses does not change it. -/
theorem on_feed (n : Int) (l : Text) (r : Reader) : (feed n l).on r = r.settle (r.feed n l) := by
  unfold feed Reader.feed Line.read
  cases LineKind.of l with
  | skip => rfl
  | command => exact on_command r
  | target => exact on_heading r
  | «variable» => exact on_assignment n r
  | invalid => rfl

end Work

/-! ## Offers -/

namespace Reader

variable {o : Offer} {os : List Offer}

theorem offer_line (r : Reader) (n : Int) (l : Text) : r.offer (.line n l) =
    match r.feed n l with
    | .ok r' => (none, r')
    | .error f => (some f, r) := by
  unfold offer Offer.work
  rw [Work.on_feed]
  cases r.feed n l <;> rfl

theorem offer_close (r : Reader) : r.offer .close = (none, r.finish) := by
  unfold offer Offer.work
  rw [Work.on_finish]

theorem offer_refused (h : (r.offer o).1 ≠ none) : (r.offer o).2 = r := by
  cases o with
  | close =>
    rw [offer_close] at h
    exact absurd rfl h
  | line n l =>
    rw [offer_line] at h ⊢
    cases hf : r.feed n l with
    | ok r' =>
      rw [hf] at h
      exact absurd rfl h
    | error f => rfl

/-- The offers that are taken when these are made one after the other. -/
def taken (r : Reader) (os : List Offer) : List Offer :=
  ((os.zip (r.offerAll os).1).filter (·.2 = none)).map (·.1)

theorem taken_cons_of_taken (h : (r.offer o).1 = none) : r.taken (o :: os) = o :: (r.offer o).2.taken os := by
  simp [taken, offerAll, h]

theorem taken_cons_of_refused (h : (r.offer o).1 ≠ none) : r.taken (o :: os) = r.taken os := by
  simp [taken, offerAll, h, offer_refused h]

/-- The offers that are taken are taken without the others too, and lead to the same reader. -/
theorem offerAll_taken (r : Reader) (os : List Offer) :
    r.offerAll (r.taken os) = (List.replicate (r.taken os).length none, (r.offerAll os).2) := by
  induction os generalizing r with
  | nil => rfl
  | cons o os ih =>
    by_cases h : (r.offer o).1 = none
    · rw [taken_cons_of_taken h]
      simp only [offerAll, ih, h, List.length_cons, List.replicate_succ]
    · rw [taken_cons_of_refused h, ih]
      simp only [offerAll, offer_refused h]

end Reader

/-- A line that is refused leaves the reader as it was: the rules and their order, the variables, and the draft with
its commands. So, whatever is offered to a reader and refused by it, in the end it is the reader to which the offers
that were taken lead by themselves, and these are all taken again. -/
theorem refusal_leaves_reader (r : Reader) :
    (∀ n l f r', (Work.feed n l).on r = (.error f, r') → r' = r) ∧
    ∀ os, r.offerAll (r.taken os) = (List.replicate (r.taken os).length none, (r.offerAll os).2) := by
  refine ⟨fun n l f r' h => ?_, r.offerAll_taken⟩
  rw [Work.on_feed] at h
  cases hf : r.feed n l with
  | ok r'' =>
    rw [hf] at h
    cases h
  | error g =>
    rw [hf] at h
    cases h
    rfl

/-- The second name in the head of a rule is refused, with a draft above it that goes on collecting commands. -/
theorem refusal_leaves_reader_second_name :
    let d : Draft := { names := [lit "a"], dependencies := [], line := 1 }
    let r : Reader := { draft := some d }
    (Work.feed 2 (lit "b %c%: d")).on r = (.error (.manyWildcards (lit "%c%")), r) ∧
    (r.offerAll [.line 2 (lit "b %c%: d"), .line 3 (lit "\tmake"), .close]).2.rulebook =
      ⟨[.ofName (lit "a") [] [{ text := lit "make", line := some 3 }] 1]⟩ := by
  intro d r
  obtain ⟨hsame, htaken⟩ := refusal_leaves_reader r
  have hfault : ((Work.feed 2 (lit "b %c%: d")).on r).1 = .error (.manyWildcards (lit "%c%")) := by decide +kernel
  refine ⟨?_, ?_⟩
  · have hpair := Prod.mk.eta (p := (Work.feed 2 (lit "b %c%: d")).on r)
    rw [hfault] at hpair
    rw [← hpair, hsame 2 _ _ _ hpair.symm]
  · have hos : r.taken [.line 2 (lit "b %c%: d"), .line 3 (lit "\tmake"), .close] =
        [.line 3 (lit "\tmake"), .close] := by decide +kernel
    have hall := congrArg Prod.snd (htaken [.line 2 (lit "b %c%: d"), .line 3 (lit "\tmake"), .close])
    rw [hos] at hall
    rw [← hall]
    decide +kernel

end Buildfile.Description
