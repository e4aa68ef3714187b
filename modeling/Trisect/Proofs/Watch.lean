import Trisect.Dialogue

/-!
# Watching a dialogue

A `Trisect.Watch` follows what is asked and answered with a state of its own, and says in each state
what may be asked next. A dialogue **obeys** a watch (`Trisect.Dialogue.Obeys`) if it asks nothing
but that, whatever is answered, and where it ends its result fits the state of the watch.

An order of events is stated as a watch and established along the program, one rule for each of its
forms. What comes of it is a statement about transcripts: every transcript of an obedient dialogue
is one that the watch lets pass (`Trisect.Dialogue.Obeys.passes`), also the one of a run that breaks
down in the middle, and every exchange in it was allowed by what came before
(`Trisect.Watch.Passes.split`).
-/

namespace Trisect

/-- An observer of dialogues: what may be asked in each of its states, and its state after an
answer. -/
structure Watch (μ : Type) where
  allows : μ → Request → Prop
  next : μ → (r : Request) → r.Answer → μ

variable {α β μ σ : Type}

namespace Watch

/-- A transcript in which everything was allowed, and the state after it, `none` after a
breakdown. -/
inductive Passes (w : Watch μ) : μ → List Exchange → Option μ → Prop
  | nil (m : μ) : Passes w m [] (some m)
  | breakdown {m : μ} {r : Request} (h : w.allows m r) : Passes w m [⟨r, none⟩] none
  | cons {m : μ} {r : Request} {answer : r.Answer} {t : List Exchange} {last : Option μ}
      (h : w.allows m r) (rest : Passes w (w.next m r answer) t last) :
      Passes w m (⟨r, some answer⟩ :: t) last

variable {w : Watch μ} {m m' : μ} {t before after : List Exchange} {e : Exchange} {last : Option μ}

theorem Passes.allows (h : w.Passes m (e :: t) last) : w.allows m e.request := by
  cases h with
  | breakdown h => exact h
  | cons h _ => exact h

/-- **Every exchange was allowed** in the state that those before it led to. -/
theorem Passes.split (h : w.Passes m (before ++ e :: after) last) :
    ∃ m', w.Passes m before (some m') ∧ w.Passes m' (e :: after) last := by
  induction before generalizing m with
  | nil => exact ⟨m, .nil m, h⟩
  | cons x before ih =>
    rw [List.cons_append] at h
    generalize ht : before ++ e :: after = t at h
    cases h with
    | breakdown h => simp at ht
    | cons h rest =>
      subst ht
      obtain ⟨m', hbefore, hafter⟩ := ih rest
      exact ⟨m', .cons h hbefore, hafter⟩

/-- The last of some exchanges, none of which was a breakdown. -/
theorem Passes.concat (h : w.Passes m (before ++ [e]) (some m')) :
    ∃ m₁ r answer, w.Passes m before (some m₁) ∧ w.allows m₁ r ∧ e = ⟨r, some answer⟩ ∧
      m' = w.next m₁ r answer := by
  obtain ⟨m₁, hbefore, hlast⟩ := h.split
  cases hlast with
  | cons hallows rest =>
    cases rest
    exact ⟨m₁, _, _, hbefore, hallows, rfl, rfl⟩

/-- The watch whose state is all that has been said. -/
def ofHistory (allows : List Exchange → Request → Prop) : Watch (List Exchange) where
  allows := allows
  next t r answer := t ++ [⟨r, some answer⟩]

theorem Passes.eq_append {allows : List Exchange → Request → Prop} {t₁ t₂ : List Exchange}
    (h : (ofHistory allows).Passes t₁ t (some t₂)) : t₂ = t₁ ++ t := by
  generalize hlast : some t₂ = last at h
  induction h with
  | nil =>
    rw [List.append_nil]
    exact Option.some.inj hlast
  | breakdown => cases hlast
  | cons _ _ ih =>
    rw [ih hlast]
    exact List.append_assoc _ [_] _

end Watch

namespace Dialogue

/-- Nothing is asked but what a watch allows, whatever is answered, and the results fit the states
in which they leave the watch. -/
inductive Obeys (w : Watch μ) (post : α → μ → Prop) : μ → Dialogue α → Prop
  | done {m : μ} {a : α} (h : post a m) : Obeys w post m (.done a)
  | ask {m : μ} {r : Request} {next : r.Answer → Dialogue α} (h : w.allows m r)
      (hnext : ∀ answer, Obeys w post (w.next m r answer) (next answer)) :
      Obeys w post m (.ask r next)

variable {w : Watch μ} {m : μ} {d : Dialogue α} {f : α → Dialogue β} {post : α → μ → Prop}
  {post' : β → μ → Prop}

theorem obeys_bind (h : Obeys w post m d) (hf : ∀ a m', post a m' → Obeys w post' m' (f a)) :
    Obeys w post' m (d.bind f) := by
  induction h with
  | done h => exact hf _ _ h
  | ask h _ ih => exact .ask h ih

/-- **The transcript of an obedient dialogue passes.** If it was not broken off, there is a result,
which fits the last state. -/
theorem Obeys.passes (hobeys : Obeys w post m d) (h : Handler σ) (s : σ) :
    ∃ last, w.Passes m (d.transcript h s) last ∧
      ∀ m', last = some m' → ∃ a s', d.run h s = (some a, s') ∧ post a m' := by
  induction hobeys generalizing s with
  | @done m a hpost =>
    refine ⟨some m, .nil m, fun m' hm' => ?_⟩
    obtain rfl := Option.some.inj hm'
    exact ⟨a, s, rfl, hpost⟩
  | @ask m r next hallows _ ih =>
    rw [transcript, run]
    rcases h r s with ⟨_ | answer, s'⟩
    · exact ⟨none, .breakdown hallows, by simp⟩
    · obtain ⟨last, hpasses, hresult⟩ := ih answer s'
      exact ⟨last, .cons hallows hpasses, hresult⟩

/-- The transcript of a run that comes to an end passes to a state that the result fits. -/
theorem Obeys.passes_of_run (hobeys : Obeys w post m d) {h : Handler σ} {s s' : σ} {a : α}
    (hrun : d.run h s = (some a, s')) :
    ∃ m', w.Passes m (d.transcript h s) (some m') ∧ post a m' := by
  induction hobeys generalizing s with
  | @done m b hpost =>
    obtain ⟨rfl, -⟩ : b = a ∧ s = s' := by simpa [run] using hrun
    exact ⟨m, .nil m, hpost⟩
  | @ask m r next hallows _ ih =>
    rw [run] at hrun
    rw [transcript]
    split at hrun
    · next answer s₁ heq =>
      obtain ⟨m', hpasses, hpost⟩ := ih answer hrun
      exact ⟨m', .cons hallows hpasses, hpost⟩
    · simp at hrun

end Dialogue

end Trisect
