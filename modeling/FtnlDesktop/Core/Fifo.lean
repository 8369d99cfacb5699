import FtnlDesktop.Core.Run

/-!
# FIFO channels

What a reliable ordered channel is for, with no protocol in sight: messages go in at one end and
come out at the other, **each of them once, in the order they went in, and none that did not go
in**.  The whole promise is the field `ordered` of `Channel`: what has been delivered is a prefix
of what has been sent.  A channel value that breaks the promise cannot be built, so a transport
refines this one by exhibiting such a value for each of its states.
-/

namespace Fifo

variable {α : Type*}

/-- A channel, by its history at both ends. -/
structure Channel (α : Type*) where
  sent : List α
  delivered : List α
  ordered : delivered <+: sent

namespace Channel

/-- The channel before anything is sent. -/
def fresh : Channel α := ⟨[], [], List.prefix_rfl⟩

/-- A message enters the channel. -/
def send (c : Channel α) (a : α) : Channel α :=
  ⟨c.sent ++ [a], c.delivered, c.ordered.trans (List.prefix_append _ _)⟩

/-- The message at the head of the channel, if one is waiting. -/
def head? (c : Channel α) : Option α := c.sent[c.delivered.length]?

end Channel

/-- Delivering the element that follows a prefix leaves a prefix. -/
lemma concat_prefix {l l' : List α} {a : α} (h : l <+: l') (ha : l'[l.length]? = some a) :
    l ++ [a] <+: l' := by
  obtain ⟨rest, rfl⟩ := h
  rw [List.getElem?_append_right le_rfl, Nat.sub_self] at ha
  cases rest with
  | nil => simp at ha
  | cons b rest =>
      obtain rfl : b = a := by simpa using ha
      exact ⟨rest, by simp⟩

namespace Channel

/-- The message at the head leaves the channel. -/
def receive (c : Channel α) (a : α) (h : c.head? = some a) : Channel α :=
  ⟨c.sent, c.delivered ++ [a], concat_prefix c.ordered h⟩

end Channel

/-- The steps of a channel. -/
inductive Next : Channel α → Channel α → Prop where
  | send (c : Channel α) (a : α) : Next c (c.send a)
  | receive (c : Channel α) (a : α) (h : c.head? = some a) : Next c (c.receive a h)

end Fifo
