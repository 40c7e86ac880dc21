import Mathlib.Tactic

/-!
# Publish and subscribe

A subscription is a subscriber and a topic; the list of subscriptions may hold one more than once.
Published events go to every subscriber of their topic, once per subscription, in the order they
were published: `delivered subs k es` is what subscriber `k` receives of the events `es`.
-/

namespace Library

variable {κ τ ε : Type*} [DecidableEq κ] [DecidableEq τ] {topic : ε → τ} {subs : List (κ × τ)}
  {k : κ}

/-- What subscriber `k` receives when `es` are published. -/
def delivered (topic : ε → τ) (subs : List (κ × τ)) (k : κ) (es : List ε) : List ε :=
  es.flatMap fun e => List.replicate (subs.count (k, topic e)) e

@[simp] lemma delivered_nil : delivered topic subs k [] = [] := rfl

lemma delivered_append (es fs : List ε) :
    delivered topic subs k (es ++ fs) = delivered topic subs k es ++ delivered topic subs k fs :=
  List.flatMap_append

lemma delivered_singleton (e : ε) :
    delivered topic subs k [e] = List.replicate (subs.count (k, topic e)) e := by
  simp [delivered]

lemma delivered_cons (e : ε) (es : List ε) :
    delivered topic subs k (e :: es)
      = List.replicate (subs.count (k, topic e)) e ++ delivered topic subs k es := by
  simp [delivered]

lemma mem_delivered {e : ε} {es : List ε} :
    e ∈ delivered topic subs k es ↔ e ∈ es ∧ (k, topic e) ∈ subs := by
  rw [delivered, List.mem_flatMap]
  constructor
  · rintro ⟨f, hf, he⟩
    obtain ⟨hn, rfl⟩ := List.mem_replicate.mp he
    exact ⟨hf, List.count_pos_iff.mp (Nat.pos_of_ne_zero hn)⟩
  · rintro ⟨he, hs⟩
    exact ⟨e, he, List.mem_replicate.mpr ⟨(List.count_pos_iff.mpr hs).ne', rfl⟩⟩

/-- A subscriber who subscribes to no topic twice receives the events of its topics. -/
lemma delivered_eq_filter {P : τ → Prop} [DecidablePred P]
    (h : ∀ u, subs.count (k, u) = if P u then 1 else 0) (es : List ε) :
    delivered topic subs k es = es.filter fun e => decide (P (topic e)) := by
  induction es with
  | nil => rfl
  | cons e es ih =>
      rw [delivered_cons, ih, h]
      by_cases ht : P (topic e)
      · rw [if_pos ht, List.filter_cons_of_pos (by simpa using ht)]
        rfl
      · rw [if_neg ht, List.filter_cons_of_neg (by simpa using ht)]
        rfl

end Library
