import Buildfile.Build.Serial
/-!
# Requests within requests

A serial build of a name makes a request for each of its dependencies, and waits for one before it makes the next.
`Demand.Makes` leads from a request to those that are made directly for it, so it reaches every request of a build,
also of one that never ends. `Session.AtRest` collects the sessions in which a request comes from outside: earlier
requests may have failed, and anything may have changed around the session since.
-/

namespace Buildfile.Build

variable {σ : Type} {site : Site σ}

/-- A request at the moment in which it is made: for a name, while building the last of `ancestors`. -/
structure Demand (σ : Type) where
  ancestors : List Name
  name : Name
  session : Session σ

namespace Session

/-- The session in which the dependencies of `n` are visited, once `n` is to be built by a plan. -/
def opened (site : Site σ) (n : Name) (p : Plan) (pattern : Option Name) (s : Session σ) : Session σ :=
  let s := s.update (·.enroll n)
  (((Resolution.planned p pattern).note? n).elim s (s.note site)).update (·.await n p.dependencies)

/-- A session in which no request is under way. -/
inductive AtRest (site : Site σ) : Session σ → Prop
  | new (w : σ) : AtRest site { world := w }
  | executed {depth : Nat} {n : Name} {o : Outcome} {s s' : Session σ} : AtRest site s →
      execute site depth n s = some (o, s') → AtRest site s'
  | turn {s : Session σ} (w : σ) : AtRest site s → AtRest site { s with world := w }

end Session

/-- The owner of a name asks for one of its dependencies, after the visits to those before it. -/
inductive Demand.Makes (site : Site σ) (d : Demand σ) : Demand σ → Prop
  | dependency {p : Plan} {pattern : Option Name} {depth : Nat} {before after : List Name} {n : Name}
      {os : List (Name × Outcome)} {s : Session σ} : d.session.ledger.admission d.name d.ancestors = .own →
      site.resolve d.session.world d.name = .planned p pattern → p.dependencies = before ++ n :: after →
      Session.visitAll (Session.visit site depth (d.ancestors ++ [d.name])) before
        (d.session.opened site d.name p pattern) = some (os, s) →
      Makes site d { ancestors := d.ancestors ++ [d.name], name := n, session := s }

namespace Session

variable {f g : Visit σ} {ns as : List Name} {n : Name} {s : Session σ}

/-- Visits that agree on each name in the session in which its turn comes agree on all of them. -/
theorem visitAll_congr (h : ∀ before n after os t, ns = before ++ n :: after → visitAll g before s = some (os, t) →
    f n t = g n t) : visitAll f ns s = visitAll g ns s := by
  induction ns generalizing s with
  | nil => rfl
  | cons n ns ih =>
    rw [visitAll, visitAll, h [] n ns [] s rfl rfl]
    cases hn : g n s with
    | none => rfl
    | some r =>
      rw [Option.bind_some, Option.bind_some, ih]
      intro before k after os t hsplit hbefore
      refine h (n :: before) k after ((n, r.1) :: os) t (by rw [hsplit]; rfl) ?_
      rw [visitAll, hn, Option.bind_some, hbefore]
      rfl

end Session

end Buildfile.Build
