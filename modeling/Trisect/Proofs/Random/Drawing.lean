import Mathlib.Data.List.Perm.Subperm
import Trisect.Shape.Random

/-!
# What draws yield

A draw **yields** what satisfies a predicate if there is a number in every range that it draws from,
and the predicate holds whichever numbers these are (`Trisect.Draw.Yields`). So it holds on every
stream (`Trisect.Draw.Yields.run`), and on none is a number asked for of an empty range
(`Trisect.Draw.Yields.ranges`); nothing else is known of the stream, and so it does not matter how
often a number is drawn again before one is kept. What comes of that is the same with and without a
bound on the tries, as long as it is not reached (`Trisect.Range.scaled_of_keeps`). An attempt
**succeeds** with what satisfies a predicate if it is not given up on any stream
(`Trisect.Attempt.Succeeds`), and **fails** if it is given up on all of them, for one reason
(`Trisect.Attempt.Fails`).

The rules of this file follow the ways in which draws are put together. The members that are drawn
from a list, in particular, are taken from different positions of it, and there are as many of them
as were asked for, so long as it has as many (`Trisect.Draw.yields_chooseMany`).
-/

namespace Trisect

variable {α β : Type}

/-! ### Refusals -/

namespace Range

/-- **Scaling that goes on for as long as it has to**: so many words are refused before one is kept,
which gives the result. -/
inductive Keeps (source : StateM Stream Nat) (bits n bound : Nat) :
    Nat → Stream → Nat → Stream → Prop
  | kept {s : Stream} (h : (source s).1 * n % Nat.pow 2 bits ≤ bound) :
      Keeps source bits n bound 0 s ((source s).1 * n / Nat.pow 2 bits) (source s).2
  | refused {refusals result : Nat} {s s' : Stream}
      (h : ¬(source s).1 * n % Nat.pow 2 bits ≤ bound)
      (hrest : Keeps source bits n bound refusals (source s).2 result s') :
      Keeps source bits n bound (refusals + 1) s result s'

/-- **The cut makes no difference** as long as a word is kept before it. -/
theorem scaled_of_keeps {source : StateM Stream Nat} {bits n bound refusals result tries : Nat}
    {s s' : Stream} (h : Keeps source bits n bound refusals s result s')
    (htries : refusals < tries) :
    scaled source bits n bound tries s = (result, s') := by
  induction h generalizing tries with
  | kept h =>
    obtain ⟨tries, rfl⟩ : ∃ k, tries = k + 1 := ⟨tries - 1, by omega⟩
    change (if _ then _ else _ : StateM Stream Nat) _ = _
    rw [if_pos h]
    rfl
  | refused h _ ih =>
    obtain ⟨tries, rfl⟩ : ∃ k, tries = k + 1 := ⟨tries - 1, by omega⟩
    change (if _ then _ else _ : StateM Stream Nat) _ = _
    rw [if_neg h]
    exact ih (by omega)

end Range

namespace Draw

/-- There is a number in every range that is drawn from, and whichever is drawn, what comes of it in
the end satisfies a predicate. -/
def Yields : Draw α → (α → Prop) → Prop
  | done a, P => P a
  | number r next, P => 0 < r.size ∧ ∀ n, n < r.size → (next n).Yields P

/-- The ranges that are drawn from on a stream, in order. -/
def ranges : Draw α → Stream → List Range
  | done _, _ => []
  | number r next, s => r :: (next (r.draw s).1).ranges (r.draw s).2

variable {d : Draw α} {f : α → Draw β} {P P' : α → Prop} {Q : β → Prop}

/-- **On every stream** the predicate holds of what is drawn. -/
theorem Yields.run (h : Yields d P) (s : Stream) : P (d.run s).1 := by
  induction d generalizing s with
  | done a => exact h
  | number r next ih =>
    have hlt := Range.draw_lt h.1 s
    exact ih _ (h.2 _ hlt) _

/-- **No range is empty** that is drawn from on a stream. -/
theorem Yields.ranges (h : Yields d P) (s : Stream) : ∀ r ∈ d.ranges s, 0 < r.size := by
  induction d generalizing s with
  | done a => simp [Draw.ranges]
  | number r next ih =>
    intro r' hr'
    rcases List.mem_cons.1 hr' with rfl | hr'
    · exact h.1
    · have hlt := Range.draw_lt h.1 s
      exact ih _ (h.2 _ hlt) _ r' hr'

theorem yields_pure {a : α} (h : P a) : Yields (pure a) P := h

theorem yields_bind (h : Yields d P) (hf : ∀ a, P a → Yields (f a) Q) : Yields (d >>= f) Q := by
  induction d with
  | done a => exact hf a h
  | number r next ih => exact ⟨h.1, fun n hn => ih n (h.2 n hn)⟩

theorem Yields.mono (h : Yields d P) (hP : ∀ a, P a → P' a) : Yields d P' := by
  induction d with
  | done a => exact hP a h
  | number r next ih => exact ⟨h.1, fun n hn => ih n (h.2 n hn)⟩

theorem yields_map {g : α → β} (h : Yields d P) (hg : ∀ a, P a → Q (g a)) : Yields (g <$> d) Q :=
  yields_bind h fun a ha => yields_pure (hg a ha)

theorem yields_longWord : Yields longWord (· < Nat.pow 2 64) :=
  ⟨Nat.pow_pos (by decide), fun _ h => h⟩

theorem yields_belowShort {n : Nat} (h : 0 < n) : Yields (belowShort n) (· < n) :=
  ⟨h, fun _ h => h⟩

theorem yields_belowLong {n : Nat} (h : 0 < n) : Yields (belowLong n) (· < n) := ⟨h, fun _ h => h⟩

theorem yields_belowExact {n : Nat} (h : 0 < n) : Yields (belowExact n) (· < n) := ⟨h, fun _ h => h⟩

/-- Either may happen by chance. -/
theorem yields_chance (threshold : Nat) : Yields (chance threshold) fun _ => True :=
  yields_bind yields_longWord fun _ _ => yields_pure trivial

/-! ### Members of a list -/

/-- From the empty list nothing is drawn, from any other a member. -/
theorem yields_choose (xs : List α) :
    Yields (choose xs) fun o => (xs = [] ∧ o = none) ∨ ∃ a ∈ xs, o = some a := by
  rw [choose]
  by_cases hxs : xs = []
  · rw [if_pos (by simp [hxs])]
    exact yields_pure (.inl ⟨hxs, rfl⟩)
  · rw [if_neg (by simp [hxs])]
    have hpos : 0 < xs.length := List.length_pos_iff.2 hxs
    refine yields_bind (yields_belowShort hpos) fun i hi => yields_pure (.inr ⟨xs[i], ?_, ?_⟩)
    · exact List.getElem_mem hi
    · exact List.getElem?_eq_getElem hi

theorem yields_chooseFrom (first : α) (others : List α) :
    Yields (chooseFrom first others) (· ∈ first :: others) := by
  refine yields_bind (yields_belowShort (Nat.succ_pos _)) fun i hi => yields_pure ?_
  have hi' : i < (first :: others).length := hi
  rw [List.getElem?_eq_getElem hi', Option.getD_some]
  exact List.getElem_mem hi'

/-- Positions that differ from one another and lie below a bound. -/
structure Distinct (bound : Nat) (positions : List Nat) : Prop where
  nodup : positions.Nodup
  lt : ∀ i ∈ positions, i < bound

/-- One position is added that is not beyond the given one, and none is there twice. -/
theorem yields_addPosition {j : Nat} {positions : List Nat} (h : Distinct j positions) :
    Yields (addPosition j positions) fun ps =>
      ps.length = positions.length + 1 ∧ Distinct (j + 1) ps := by
  refine yields_bind (yields_belowShort (Nat.succ_pos j)) fun t ht => ?_
  split
  · next i _ =>
    -- what was drawn is there already, and `j`, which is not, goes in before it
    have hperm : (positions.take i ++ j :: positions.drop i).Perm (j :: positions) := by
      have hmiddle : (positions.take i ++ j :: positions.drop i).Perm
          (j :: (positions.take i ++ positions.drop i)) := List.perm_middle
      rwa [List.take_append_drop] at hmiddle
    have hj : j ∉ positions := fun hmem => Nat.lt_irrefl j (h.lt j hmem)
    refine yields_pure ⟨?_, ?_, ?_⟩
    · rw [hperm.length_eq, List.length_cons]
    · exact hperm.nodup_iff.2 (List.nodup_cons.2 ⟨hj, h.nodup⟩)
    · intro x hx
      rcases List.mem_cons.1 (hperm.mem_iff.1 hx) with rfl | hx
      · exact Nat.lt_succ_self _
      · exact Nat.lt_succ_of_lt (h.lt x hx)
  · next hnone =>
    have ht' : t ∉ positions := List.idxOf?_eq_none_iff.1 hnone
    have hperm : (positions ++ [t]).Perm (t :: positions) := List.perm_append_singleton t positions
    refine yields_pure ⟨?_, ?_, ?_⟩
    · rw [hperm.length_eq, List.length_cons]
    · exact hperm.nodup_iff.2 (List.nodup_cons.2 ⟨ht', h.nodup⟩)
    · intro x hx
      rcases List.mem_cons.1 (hperm.mem_iff.1 hx) with rfl | hx
      · exact ht
      · exact Nat.lt_succ_of_lt (h.lt x hx)

theorem yields_addPositions {j : Nat} {positions : List Nat} (h : Distinct j positions) (k : Nat) :
    Yields (addPositions j k positions) fun ps =>
      ps.length = positions.length + k ∧ Distinct (j + k) ps := by
  induction k generalizing j positions with
  | zero => exact yields_pure ⟨rfl, h⟩
  | succ k ih =>
    refine yields_bind (yields_addPosition h) fun ps hps => ?_
    refine (ih hps.2).mono fun qs hqs => ⟨?_, ?_⟩
    · have hlen := hps.1
      have hlen' := hqs.1
      omega
    · have hbound : j + 1 + k = j + (k + 1) := by omega
      rw [← hbound]
      exact hqs.2

/-- All positions give the list itself. -/
theorem filterMap_range_getElem? (xs : List α) :
    ((List.range xs.length).filterMap fun i => xs[i]?) = xs := by
  induction xs with
  | nil => rfl
  | cons x xs ih =>
    rw [List.length_cons, List.range_succ_eq_map, List.filterMap_cons, List.filterMap_map]
    exact congrArg (x :: ·) ih

/-- The members at different positions are a part of the list, in some order. -/
theorem subperm_of_distinct {xs : List α} {positions : List Nat}
    (h : Distinct xs.length positions) :
    (positions.filterMap fun i => xs[i]?).Subperm xs := by
  have hsubset : positions ⊆ List.range xs.length := fun i hi => List.mem_range.2 (h.lt i hi)
  obtain ⟨l, hperm, hsub⟩ := List.subperm_of_subset h.nodup hsubset
  refine ⟨l.filterMap fun i => xs[i]?, hperm.filterMap _, ?_⟩
  have hfiltered := hsub.filterMap fun i => xs[i]?
  rwa [filterMap_range_getElem?] at hfiltered

/-- **Members of a list** are drawn from different positions, as many as were asked for if there are
as many. -/
theorem yields_chooseMany (xs : List α) (k : Nat) :
    Yields (chooseMany xs k) fun ys => ys.length = min k xs.length ∧ ys.Subperm xs := by
  have hnone : Distinct (xs.length - min k xs.length) [] := ⟨List.nodup_nil, by simp⟩
  refine yields_bind (yields_addPositions hnone _) fun positions hpositions => yields_pure ?_
  -- the last range to draw from ends where the list does
  have hend : xs.length - min k xs.length + min k xs.length = xs.length := by omega
  have hdistinct : Distinct xs.length positions := hend ▸ hpositions.2
  refine ⟨?_, subperm_of_distinct hdistinct⟩
  have hlen : positions.length = min k xs.length := by simpa using hpositions.1
  rw [← hlen, List.filterMap_length_eq_length]
  intro i hi
  simpa using hdistinct.lt i hi

/-- What is drawn a number of times. -/
theorem yields_many (h : Yields d P) (n : Nat) :
    Yields (many d n) fun l => l.length = n ∧ ∀ a ∈ l, P a := by
  induction n with
  | zero => exact yields_pure ⟨rfl, by simp⟩
  | succ n ih =>
    refine yields_bind h fun a ha => yields_bind ih fun l hl => yields_pure ⟨?_, ?_⟩
    · rw [List.length_cons, hl.1]
    · intro b hb
      rcases List.mem_cons.1 hb with rfl | hb
      · exact ha
      · exact hl.2 b hb

end Draw

/-! ### Attempts -/

namespace Attempt

/-- An attempt comes to a result that satisfies a predicate, whatever is drawn. -/
def Succeeds (m : Attempt α) (P : α → Prop) : Prop :=
  Draw.Yields m.run fun r => ∃ a, r = .ok a ∧ P a

/-- An attempt comes to nothing, whatever is drawn, and the reason is given. -/
def Fails (m : Attempt α) (reason : SkipReason) : Prop :=
  Draw.Yields m.run fun r => r = .error reason

variable {m : Attempt α} {f : α → Attempt β} {P : α → Prop} {Q : β → Prop} {reason : SkipReason}

theorem succeeds_pure {a : α} (h : P a) : Succeeds (pure a) P := ⟨a, rfl, h⟩

theorem succeeds_bind (h : Succeeds m P) (hf : ∀ a, P a → Succeeds (f a) Q) :
    Succeeds (m >>= f) Q := by
  rw [Succeeds, ExceptT.run_bind]
  refine Draw.yields_bind h fun r hr => ?_
  obtain ⟨a, rfl, ha⟩ := hr
  exact hf a ha

theorem succeeds_lift {d : Draw α} (h : Draw.Yields d P) : Succeeds (ExceptT.lift d) P :=
  Draw.yields_map h fun a ha => ⟨a, rfl, ha⟩

theorem succeeds_chance (threshold : Nat) :
    Succeeds (ExceptT.lift (Draw.chance threshold)) fun _ => True :=
  succeeds_lift (Draw.yields_chance threshold)

theorem succeeds_belowShort {n : Nat} (h : 0 < n) :
    Succeeds (ExceptT.lift (Draw.belowShort n)) (· < n) :=
  succeeds_lift (Draw.yields_belowShort h)

theorem fails_throw : Fails (throw reason : Attempt α) reason := rfl

theorem fails_bind (h : Fails m reason) : Fails (m >>= f) reason := by
  rw [Fails, ExceptT.run_bind]
  refine Draw.yields_bind h fun r hr => ?_
  subst hr
  exact Draw.yields_pure rfl

theorem fails_bind_of_succeeds (h : Succeeds m P) (hf : ∀ a, P a → Fails (f a) reason) :
    Fails (m >>= f) reason := by
  rw [Fails, ExceptT.run_bind]
  refine Draw.yields_bind h fun r hr => ?_
  obtain ⟨a, rfl, ha⟩ := hr
  exact hf a ha

end Attempt

end Trisect
