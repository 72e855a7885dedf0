import Mathlib.Logic.Relation
import Mathlib.Order.Basic
import Mathlib.Data.Set.Defs

/-!
# Absorption

Keys carry loads, and some keys are live. One key may be taken into another: what it
carried is then carried by the other, and it need not be live any more. A load that some
key carried is held as long as a live key carries it that the first one was taken into,
perhaps by way of others.

Taking a key into a live one keeps everything held. Taking it into a key that is not live
is what loses a load, so the one condition to watch is whom a key is taken into.
-/

namespace Absorption

universe u v
variable {Key : Type u} {Load : Type v} [Preorder Load]

/-- Which keys are live, what each carries, and which was taken into which. -/
structure Ledger (Key : Type u) (Load : Type v) where
  live : Set Key
  carries : Key → Load
  into : Key → Key → Prop

/-- A live key that the given one was taken into, step by step, carries the load. -/
def Ledger.Held (ledger : Ledger Key Load) (key : Key) (load : Load) : Prop :=
  ∃ holder, Relation.ReflTransGen ledger.into key holder ∧ holder ∈ ledger.live ∧
    load ≤ ledger.carries holder

/-- One key was taken into another, which is live; nothing else was lost. -/
structure Takes (before after : Ledger Key Load) (absorbed primary : Key) : Prop where
  earlier : ∀ first second, before.into first second → after.into first second
  taken : after.into absorbed primary
  live : primary ∈ after.live
  stays : ∀ key ∈ before.live, key ≠ absorbed → key ∈ after.live
  keeps : ∀ key, key ≠ absorbed → before.carries key ≤ after.carries key
  joined : before.carries absorbed ≤ after.carries primary

/-- What was held is held when a key was taken into a live one. -/
theorem Ledger.Held.taken {before after : Ledger Key Load} {absorbed primary key : Key}
    {load : Load} (held : before.Held key load) (takes : Takes before after absorbed primary) :
    after.Held key load := by
  obtain ⟨holder, chain, live, carried⟩ := held
  have earlier : Relation.ReflTransGen after.into key holder :=
    Relation.ReflTransGen.mono takes.earlier _ _ chain
  by_cases gone : holder = absorbed
  · subst gone
    exact ⟨primary, earlier.tail takes.taken, takes.live, carried.trans takes.joined⟩
  · exact ⟨holder, earlier, takes.stays holder live gone, carried.trans (takes.keeps holder gone)⟩

end Absorption
