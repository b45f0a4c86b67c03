import Dispatch.Event

/-!
# Programs that report

A program that reports adds events behind the earlier ones. That it looks at none of them is
`Logged.Adds`; what it returns whatever was reported before is `Logged.Returns`; how the results of
two programs are related, whatever was reported before each of them, is `Logged.Relates`.
-/

namespace Dispatch.Logged

variable {α β : Type}

/-- The program adds some events behind the earlier ones, and does not look at those. -/
def Adds (action : Logged α) : Prop :=
  ∀ events, action.run events = ((action.run []).1, events ++ (action.run []).2)

/-- What the program returns has a property, whatever was reported before. -/
def Returns (action : Logged α) (post : α → Prop) : Prop := ∀ events, post (action.run events).1

theorem adds_pure (a : α) : Adds (pure a : Logged α) := by
  intro events
  change (a, events) = (a, events ++ [])
  rw [List.append_nil]

theorem adds_report (event : Event) : Adds (report event) := fun _ => rfl

theorem adds_reportAll (more : List Event) : Adds (reportAll more) := fun _ => rfl

theorem Adds.bind {action : Logged α} {next : α → Logged β} (h : Adds action)
    (hnext : ∀ a, Adds (next a)) : Adds (action >>= next) := by
  intro events
  have hrun (start : List Event) : (action >>= next).run start =
      (next (action.run start).1).run (action.run start).2 := rfl
  have hlater := hnext (action.run []).1 (events ++ (action.run []).2)
  have halone := hnext (action.run []).1 (action.run []).2
  rw [hrun, hrun, h events, hlater, halone, List.append_assoc]

theorem returns_pure {a : α} {post : α → Prop} (h : post a) : Returns (pure a) post := fun _ => h

theorem Returns.bind {action : Logged α} {next : α → Logged β} {between : α → Prop}
    {post : β → Prop} (h : Returns action between)
    (hnext : ∀ a, between a → Returns (next a) post) :
    Returns (action >>= next) post :=
  fun events => hnext _ (h events) _

theorem returns_any (action : Logged α) : Returns action fun _ => True := fun _ => trivial

/-- What two programs return is related, whatever was reported before. -/
def Relates (first : Logged α) (second : Logged β) (related : α → β → Prop) : Prop :=
  ∀ events others, related (first.run events).1 (second.run others).1

theorem relates_pure {a : α} {b : β} {related : α → β → Prop} (h : related a b) :
    Relates (pure a) (pure b) related := fun _ _ => h

theorem relates_any (first : Logged α) (second : Logged β) :
    Relates first second fun _ _ => True := fun _ _ => trivial

theorem Relates.bind {γ δ : Type} {first : Logged α} {second : Logged β} {next : α → Logged γ}
    {after : β → Logged δ} {between : α → β → Prop} {related : γ → δ → Prop}
    (h : Relates first second between)
    (hnext : ∀ a b, between a b → Relates (next a) (after b) related) :
    Relates (first >>= next) (second >>= after) related :=
  fun events others => hnext _ _ (h events others) _ _

end Dispatch.Logged
